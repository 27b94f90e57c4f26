import Mathlib

/-!
# Keyed tables

A table is a list of rows in which no two rows share a key: the uniqueness
constraint is a field, so an operation that could break it has to say why it does
not. `upsert` is `INSERT ... ON CONFLICT (key) DO UPDATE`, `modify` an `UPDATE` of
the row with a key. A serial table has a surrogate key beside its natural one,
drawn from a counter that only grows and never changed afterwards.
-/

namespace ObsPlatform

variable {κ ρ : Type}

structure Table (key : ρ → κ) where
  rows : List ρ
  unique : (rows.map key).Nodup

namespace Table

def empty {key : ρ → κ} : Table key := ⟨[], List.nodup_nil⟩

variable [DecidableEq κ] {key : ρ → κ}

def find? (t : Table key) (k : κ) : Option ρ := t.rows.find? fun r => key r = k

theorem find?_eq_some_iff (t : Table key) (k : κ) (r : ρ) :
    t.find? k = some r ↔ r ∈ t.rows ∧ key r = k := by
  constructor
  · intro h
    have hk := List.find?_some h
    simp only [decide_eq_true_eq] at hk
    exact ⟨List.mem_of_find?_eq_some h, hk⟩
  · intro hfound
    obtain ⟨hm, hk⟩ := hfound
    cases hf : t.find? k with
    | none =>
      have hn := List.find?_eq_none.mp hf r hm
      simp only [decide_eq_true_eq] at hn
      exact absurd hk hn
    | some r' =>
      have hk' := List.find?_some hf
      simp only [decide_eq_true_eq] at hk'
      have hm' := List.mem_of_find?_eq_some hf
      rw [List.inj_on_of_nodup_map t.unique hm' hm (hk'.trans hk.symm)]

theorem find?_eq_none_iff (t : Table key) (k : κ) :
    t.find? k = none ↔ ∀ r ∈ t.rows, key r ≠ k := by
  simp only [find?, List.find?_eq_none, decide_eq_true_eq, ne_eq]

theorem key_of_find? (t : Table key) (k : κ) (r : ρ) (h : t.find? k = some r) : key r = k :=
  ((t.find?_eq_some_iff k r).mp h).2

theorem mem_of_find? (t : Table key) (k : κ) (r : ρ) (h : t.find? k = some r) : r ∈ t.rows :=
  ((t.find?_eq_some_iff k r).mp h).1

/-! ### Updates -/

def replace (rows : List ρ) (key : ρ → κ) (k : κ) (f : ρ → ρ) : List ρ :=
  rows.map fun r => if key r = k then f r else r

theorem map_key_replace (rows : List ρ) (k : κ) (f : ρ → ρ)
    (hf : ∀ r, key r = k → key (f r) = k) : (replace rows key k f).map key = rows.map key := by
  simp only [replace, List.map_map]
  apply List.map_congr_left
  intro r _
  by_cases h : key r = k
  · simp only [Function.comp, h, if_true, hf r h]
  · simp only [Function.comp, h, if_false]

/-- `UPDATE ... WHERE key = k`. -/
def modify (t : Table key) (k : κ) (f : ρ → ρ) (hf : ∀ r, key r = k → key (f r) = k) :
    Table key :=
  ⟨replace t.rows key k f, by rw [map_key_replace t.rows k f hf]; exact t.unique⟩

theorem find?_replace (rows : List ρ) (k j : κ) (f : ρ → ρ)
    (hf : ∀ r, key r = k → key (f r) = k) :
    (replace rows key k f).find? (fun r => key r = j) =
      if j = k then (rows.find? fun r => key r = k).map f
      else rows.find? fun r => key r = j := by
  induction rows with
  | nil => simp [replace]
  | cons r rows ih =>
    simp only [replace, List.map_cons] at ih ⊢
    by_cases hr : key r = k
    · have hfr := hf r hr
      by_cases hj : j = k
      · subst hj
        simp [hr, hfr]
      · have hkj : ¬ k = j := fun h => hj h.symm
        simp only [hj, if_false] at ih
        simp [hr, hfr, hj, hkj, ih]
    · by_cases hj : j = k
      · subst hj
        simp only [if_true] at ih
        simp [hr, ih]
      · simp only [hj, if_false] at ih
        by_cases hrj : key r = j
        · subst hrj
          simp [hr]
        · simp [hr, hrj, hj, ih]

theorem find?_modify (t : Table key) (k j : κ) (f : ρ → ρ)
    (hf : ∀ r, key r = k → key (f r) = k) :
    (t.modify k f hf).find? j = if j = k then (t.find? k).map f else t.find? j :=
  find?_replace t.rows k j f hf

/-- `INSERT ... ON CONFLICT (key) DO UPDATE`: the new row, or `update` of the row
that has its key. -/
def upsert (t : Table key) (fresh : ρ) (update : ρ → ρ)
    (hu : ∀ r, key r = key fresh → key (update r) = key fresh) : Table key :=
  if h : t.find? (key fresh) = none then
    ⟨t.rows ++ [fresh], by
      rw [List.map_append, List.map_singleton, List.nodup_append]
      refine ⟨t.unique, List.nodup_singleton _, ?_⟩
      intro a ha b hb
      rw [List.mem_singleton.mp hb]
      obtain ⟨r, hr, hra⟩ := List.mem_map.mp ha
      rw [← hra]
      exact (t.find?_eq_none_iff (key fresh)).mp h r hr⟩
  else t.modify (key fresh) update hu

/-- `INSERT` of a row whose key is new. -/
def insert (t : Table key) (fresh : ρ) (h : t.find? (key fresh) = none) : Table key :=
  ⟨t.rows ++ [fresh], by
    rw [List.map_append, List.map_singleton, List.nodup_append]
    refine ⟨t.unique, List.nodup_singleton _, ?_⟩
    intro a ha b hb
    rw [List.mem_singleton.mp hb]
    obtain ⟨r, hr, hra⟩ := List.mem_map.mp ha
    rw [← hra]
    exact (t.find?_eq_none_iff (key fresh)).mp h r hr⟩

theorem find?_append_fresh (rows : List ρ) (fresh : ρ) (k : κ)
    (hn : rows.find? (fun r => key r = key fresh) = none) :
    (rows ++ [fresh]).find? (fun r => key r = k) =
      if k = key fresh then some fresh else rows.find? fun r => key r = k := by
  rw [List.find?_append]
  by_cases hk : k = key fresh
  · subst hk
    rw [hn]
    simp
  · have hk' : ¬ key fresh = k := fun h => hk h.symm
    simp [hk, hk']

theorem find?_insert (t : Table key) (fresh : ρ) (h : t.find? (key fresh) = none) (k : κ) :
    (t.insert fresh h).find? k = if k = key fresh then some fresh else t.find? k :=
  find?_append_fresh t.rows fresh k h

theorem find?_upsert (t : Table key) (fresh : ρ) (update : ρ → ρ)
    (hu : ∀ r, key r = key fresh → key (update r) = key fresh) (k : κ) :
    (t.upsert fresh update hu).find? k =
      if k = key fresh then some ((t.find? (key fresh)).elim fresh update) else t.find? k := by
  unfold upsert
  split
  · rename_i h
    rw [h]
    exact find?_append_fresh t.rows fresh k h
  · rename_i h
    rw [find?_modify]
    obtain ⟨r, hr⟩ := Option.ne_none_iff_exists'.mp h
    simp only [hr, Option.map_some, Option.elim_some]

theorem find?_upsert_self (t : Table key) (fresh : ρ) (update : ρ → ρ)
    (hu : ∀ r, key r = key fresh → key (update r) = key fresh) :
    (t.upsert fresh update hu).find? (key fresh) =
      some ((t.find? (key fresh)).elim fresh update) := by
  rw [find?_upsert, if_pos rfl]

/-! ### Rows selected by a condition that an update leaves alone -/

theorem filter_replace (rows : List ρ) (k : κ) (f : ρ → ρ) (p : ρ → Bool)
    (hp : ∀ r, key r = k → p r = false) (hf : ∀ r, key r = k → p (f r) = false) :
    (replace rows key k f).filter p = rows.filter p := by
  induction rows with
  | nil => rfl
  | cons r rows ih =>
    simp only [replace, List.map_cons] at ih ⊢
    by_cases hr : key r = k
    · simp [hr, hp r hr, hf r hr, ih]
    · simp only [hr, if_false, List.filter_cons, ih]

theorem filter_modify (t : Table key) (k : κ) (f : ρ → ρ) (hk : ∀ r, key r = k → key (f r) = k)
    (p : ρ → Bool) (hp : ∀ r, key r = k → p r = false) (hf : ∀ r, key r = k → p (f r) = false) :
    (t.modify k f hk).rows.filter p = t.rows.filter p :=
  filter_replace t.rows k f p hp hf

theorem filter_upsert (t : Table key) (fresh : ρ) (update : ρ → ρ)
    (hu : ∀ r, key r = key fresh → key (update r) = key fresh) (p : ρ → Bool)
    (hn : p fresh = false) (hp : ∀ r, key r = key fresh → p r = false)
    (hf : ∀ r, key r = key fresh → p (update r) = false) :
    (t.upsert fresh update hu).rows.filter p = t.rows.filter p := by
  unfold upsert
  split
  · simp [List.filter_append, hn]
  · exact filter_modify t _ update hu p hp hf

/-! ### One update after another -/

omit [DecidableEq κ] in
theorem eq_of_rows (t t' : Table key) (h : t.rows = t'.rows) : t = t' := by
  cases t
  cases t'
  cases h
  rfl

theorem replace_replace (rows : List ρ) (k : κ) (f g : ρ → ρ)
    (hf : ∀ r, key r = k → key (f r) = k) :
    replace (replace rows key k f) key k g = replace rows key k (g ∘ f) := by
  simp only [replace, List.map_map]
  apply List.map_congr_left
  intro r _
  by_cases hr : key r = k
  · simp only [Function.comp, hr, if_true, hf r hr]
  · simp only [Function.comp, hr, if_false]

theorem modify_modify (t : Table key) (k : κ) (f g : ρ → ρ) (hf : ∀ r, key r = k → key (f r) = k)
    (hg : ∀ r, key r = k → key (g r) = k) :
    (t.modify k f hf).modify k g hg = t.modify k (g ∘ f) fun r hr => hg _ (hf r hr) :=
  eq_of_rows _ _ (replace_replace t.rows k f g hf)

/-- An update after an upsert is part of what the upsert writes. -/
theorem modify_upsert (t : Table key) (fresh : ρ) (update f : ρ → ρ)
    (hu : ∀ r, key r = key fresh → key (update r) = key fresh)
    (hf : ∀ r, key r = key fresh → key (f r) = key fresh)
    (hfu : ∀ r, key r = key (f fresh) → key (f (update r)) = key (f fresh)) :
    (t.upsert fresh update hu).modify (key fresh) f hf = t.upsert (f fresh) (f ∘ update) hfu := by
  have hk : key (f fresh) = key fresh := hf fresh rfl
  apply eq_of_rows
  cases hfind : t.find? (key fresh) with
  | none =>
    have hfind' : t.find? (key (f fresh)) = none := by
      rw [hk]
      exact hfind
    have hold : replace t.rows key (key fresh) f = t.rows := by
      apply (List.map_congr_left _).trans (List.map_id _)
      intro r hr
      exact if_neg ((t.find?_eq_none_iff (key fresh)).mp hfind r hr)
    simp only [upsert, hfind, hfind', dif_pos, modify]
    rw [replace, List.map_append, ← replace, hold, List.map_singleton, if_pos rfl]
  | some r =>
    simp only [upsert, hfind, reduceCtorEq, dif_neg, not_false_eq_true, modify, hk]
    exact replace_replace t.rows (key fresh) update f hu

theorem mem_modify (t : Table key) (k : κ) (f : ρ → ρ) (hf : ∀ r, key r = k → key (f r) = k)
    (r : ρ) (h : r ∈ (t.modify k f hf).rows) : r ∈ t.rows ∨ ∃ q ∈ t.rows, key q = k ∧ r = f q := by
  obtain ⟨q, hq, rfl⟩ := List.mem_map.mp h
  by_cases hk : key q = k
  · simp only [hk, if_true]
    exact .inr ⟨q, hq, hk, rfl⟩
  · simp only [hk, if_false]
    exact .inl hq

theorem mem_upsert (t : Table key) (fresh : ρ) (update : ρ → ρ)
    (hu : ∀ r, key r = key fresh → key (update r) = key fresh) (r : ρ)
    (h : r ∈ (t.upsert fresh update hu).rows) :
    r ∈ t.rows ∨ key r = key fresh := by
  unfold upsert at h
  split at h
  · rcases List.mem_append.mp h with hr | hr
    · exact .inl hr
    · rw [List.mem_singleton.mp hr]
      exact .inr rfl
  · rcases mem_modify t _ update hu r h with hr | ⟨q, _, hq, rfl⟩
    · exact .inl hr
    · exact .inr (hu q hq)

/-! ### Rows told by a list of keys -/

/-- Selected rows show what is expected of the entries whose keys they have. -/
theorem shown_perm {χ σ : Type} (t : Table key) (p : ρ → Bool) (entries : List χ) (keyOf : χ → κ)
    (shown : ρ → σ) (expected : χ → σ)
    (hstored : ∀ entry ∈ entries, ∃ r, t.find? (keyOf entry) = some r ∧ p r = true ∧
      shown r = expected entry)
    (hnamed : ∀ r ∈ t.rows, p r = true → ∃ entry ∈ entries, key r = keyOf entry)
    (hn : (entries.map keyOf).Nodup) : ((t.rows.filter p).map shown).Perm (entries.map expected) := by
  have hkeys : ((t.rows.filter p).map key).Perm (entries.map keyOf) := by
    have hselected : ((t.rows.filter p).map key).Nodup :=
      t.unique.sublist (List.filter_sublist.map key)
    apply (List.perm_ext_iff_of_nodup hselected hn).mpr
    intro k
    simp only [List.mem_map, List.mem_filter]
    constructor
    · intro h
      obtain ⟨r, ⟨hm, hp⟩, rfl⟩ := h
      obtain ⟨entry, hentry, hkey⟩ := hnamed r hm hp
      exact ⟨entry, hentry, hkey.symm⟩
    · intro h
      obtain ⟨entry, hentry, rfl⟩ := h
      obtain ⟨r, hr, hp, _⟩ := hstored entry hentry
      exact ⟨r, ⟨t.mem_of_find? _ r hr, hp⟩, t.key_of_find? _ r hr⟩
  have hshown := hkeys.map fun k => (t.find? k).map shown
  rw [List.map_map, List.map_map] at hshown
  have hrows : (t.rows.filter p).map ((fun k => (t.find? k).map shown) ∘ key) =
      ((t.rows.filter p).map shown).map some := by
    rw [List.map_map]
    apply List.map_congr_left
    intro r hm
    have hr := (t.find?_eq_some_iff (key r) r).mpr ⟨List.mem_of_mem_filter hm, rfl⟩
    simp only [Function.comp_apply, hr, Option.map_some]
  have hentries : entries.map ((fun k => (t.find? k).map shown) ∘ keyOf) =
      (entries.map expected).map some := by
    rw [List.map_map]
    apply List.map_congr_left
    intro entry hentry
    obtain ⟨r, hr, _, hshow⟩ := hstored entry hentry
    simp only [Function.comp_apply, hr, Option.map_some, hshow]
  rw [hrows, hentries] at hshown
  exact (List.map_perm_map_iff (Option.some_injective σ)).mp hshown

end Table

/-! ### Surrogate keys -/

structure SerialTable (key : ρ → κ) (id : ρ → ℕ) extends Table key where
  next : ℕ
  below : ∀ r ∈ rows, id r < next
  distinct : (rows.map id).Nodup

namespace SerialTable

variable {key : ρ → κ} {id : ρ → ℕ}

def empty : SerialTable key id := ⟨Table.empty, 1, fun _ h => absurd h List.not_mem_nil, List.nodup_nil⟩

variable [DecidableEq κ]

theorem map_id_replace (rows : List ρ) (k : κ) (f : ρ → ρ) (hf : ∀ r, id (f r) = id r) :
    (Table.replace rows key k f).map id = rows.map id := by
  simp only [Table.replace, List.map_map]
  apply List.map_congr_left
  intro r _
  by_cases h : key r = k
  · simp only [Function.comp, h, if_true, hf r]
  · simp only [Function.comp, h, if_false]

def modify (t : SerialTable key id) (k : κ) (f : ρ → ρ) (hk : ∀ r, key r = k → key (f r) = k)
    (hid : ∀ r, id (f r) = id r) : SerialTable key id where
  toTable := t.toTable.modify k f hk
  next := t.next
  below := by
    intro r hr
    rcases Table.mem_modify _ _ _ hk r hr with hr | ⟨q, hq, _, rfl⟩
    · exact t.below r hr
    · rw [hid q]
      exact t.below q hq
  distinct := by
    show ((Table.replace t.rows key k f).map id).Nodup
    rw [map_id_replace t.rows k f hid]
    exact t.distinct

/-- An upsert draws a surrogate key whether or not it inserts. -/
def upsert (t : SerialTable key id) (k : κ) (fresh : ℕ → ρ) (update : ρ → ρ)
    (hfk : ∀ n, key (fresh n) = k) (hfid : ∀ n, id (fresh n) = n)
    (hk : ∀ r, key r = k → key (update r) = k) (hid : ∀ r, id (update r) = id r) :
    SerialTable key id :=
  if h : t.toTable.find? k = none then
    { rows := t.rows ++ [fresh t.next]
      unique := by
        have hn := (Table.find?_eq_none_iff _ k).mp h
        rw [List.map_append, List.map_singleton, List.nodup_append]
        refine ⟨t.unique, List.nodup_singleton _, ?_⟩
        intro a ha b hb
        rw [List.mem_singleton.mp hb, hfk]
        obtain ⟨r, hr, hra⟩ := List.mem_map.mp ha
        rw [← hra]
        exact hn r hr
      next := t.next + 1
      below := by
        intro r hr
        rcases List.mem_append.mp hr with hr | hr
        · exact Nat.lt_succ_of_lt (t.below r hr)
        · rw [List.mem_singleton.mp hr, hfid]
          exact Nat.lt_succ_self _
      distinct := by
        rw [List.map_append, List.map_singleton, List.nodup_append]
        refine ⟨t.distinct, List.nodup_singleton _, ?_⟩
        intro a ha b hb
        rw [List.mem_singleton.mp hb, hfid]
        obtain ⟨r, hr, hra⟩ := List.mem_map.mp ha
        have hlt := t.below r hr
        omega }
  else
    let updated := t.modify k update hk hid
    { updated with
      next := t.next + 1
      below := fun r hr => Nat.lt_succ_of_lt (updated.below r hr) }

theorem find?_modify (t : SerialTable key id) (k j : κ) (f : ρ → ρ)
    (hk : ∀ r, key r = k → key (f r) = k) (hid : ∀ r, id (f r) = id r) :
    (t.modify k f hk hid).toTable.find? j =
      if j = k then (t.toTable.find? k).map f else t.toTable.find? j :=
  Table.find?_modify t.toTable k j f hk

theorem find?_upsert (t : SerialTable key id) (k : κ) (fresh : ℕ → ρ) (update : ρ → ρ)
    (hfk : ∀ n, key (fresh n) = k) (hfid : ∀ n, id (fresh n) = n)
    (hk : ∀ r, key r = k → key (update r) = k) (hid : ∀ r, id (update r) = id r) (j : κ) :
    (t.upsert k fresh update hfk hfid hk hid).toTable.find? j =
      if j = k then some ((t.toTable.find? k).elim (fresh t.next) update)
      else t.toTable.find? j := by
  unfold upsert
  split
  · rename_i h
    have hn : t.rows.find? (fun r => key r = key (fresh t.next)) = none := by
      rw [hfk]
      exact h
    have he := Table.find?_append_fresh t.rows (fresh t.next) j hn
    rw [hfk] at he
    rw [h]
    exact he
  · rename_i h
    obtain ⟨r, hr⟩ := Option.ne_none_iff_exists'.mp h
    have he := Table.find?_modify t.toTable k j update hk
    rw [hr] at he ⊢
    exact he

end SerialTable
end ObsPlatform
