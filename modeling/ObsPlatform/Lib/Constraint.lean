import ObsPlatform.Lib.Table

/-!
# Constraints over rows

`UNIQUE` and `FOREIGN KEY` as SQL reads them: a row with a null among the columns of a
constraint is outside it.
-/

namespace ObsPlatform

variable {κ ρ : Type}

/-- `UNIQUE (columns)`. -/
def UniqueOn (columns : ρ → Option κ) (rows : List ρ) : Prop := (rows.filterMap columns).Nodup

/-- `FOREIGN KEY (column) REFERENCES ...`, given the keys that can be referred to. -/
def RefersOn (column : ρ → Option κ) (keys : List κ) (rows : List ρ) : Prop :=
  ∀ row ∈ rows, ∀ k ∈ column row, k ∈ keys

instance [DecidableEq κ] (columns : ρ → Option κ) (rows : List ρ) :
    Decidable (UniqueOn columns rows) :=
  inferInstanceAs (Decidable (rows.filterMap columns).Nodup)

instance [DecidableEq κ] (column : ρ → Option κ) (keys : List κ) (rows : List ρ) :
    Decidable (RefersOn column keys rows) :=
  inferInstanceAs (Decidable (∀ row ∈ rows, ∀ k ∈ column row, k ∈ keys))

/-- No row has the columns of this one. -/
def Unclashed (columns : ρ → Option κ) (rows : List ρ) (row : ρ) : Prop :=
  ∀ old ∈ rows, ∀ k ∈ columns old, columns row ≠ some k

theorem uniqueOn_append (columns : ρ → Option κ) (rows : List ρ) (row : ρ) :
    UniqueOn columns (rows ++ [row]) ↔ UniqueOn columns rows ∧ Unclashed columns rows row := by
  cases hrow : columns row with
  | none => simp [UniqueOn, Unclashed, hrow]
  | some k =>
    have hsingle : [row].filterMap columns = [k] := by simp [hrow]
    simp only [UniqueOn, Unclashed, hrow, List.filterMap_append, hsingle, List.nodup_append,
      List.nodup_singleton, true_and]
    constructor
    · intro h
      obtain ⟨hnodup, hdisjoint⟩ := h
      refine ⟨hnodup, ?_⟩
      intro old hold j hj he
      cases he
      exact hdisjoint k (List.mem_filterMap.mpr ⟨old, hold, hj⟩) k (List.mem_singleton.mpr rfl) rfl
    · intro h
      obtain ⟨hnodup, hunclashed⟩ := h
      refine ⟨hnodup, ?_⟩
      intro j hj i hi he
      obtain ⟨old, hold, hcolumns⟩ := List.mem_filterMap.mp hj
      rw [List.mem_singleton.mp hi] at he
      exact hunclashed old hold j hcolumns (congrArg some he.symm)

theorem refersOn_append (column : ρ → Option κ) (keys : List κ) (rows : List ρ) (row : ρ) :
    RefersOn column keys (rows ++ [row]) ↔
      RefersOn column keys rows ∧ ∀ k ∈ column row, k ∈ keys := by
  simp only [RefersOn, List.mem_append, List.mem_singleton]
  constructor
  · intro h
    exact ⟨fun old hold => h old (.inl hold), h row (.inr rfl)⟩
  · intro h old hold
    rcases hold with hold | rfl
    · exact h.1 old hold
    · exact h.2

/-! ### Constraints of a keyed table -/

theorem refersOn_mono (column : ρ → Option κ) (keys keys' : List κ) (rows : List ρ)
    (hkeys : ∀ k ∈ keys, k ∈ keys') (h : RefersOn column keys rows) :
    RefersOn column keys' rows :=
  fun row hrow k hk => hkeys k (h row hrow k hk)

section Keyed
variable {ι : Type} [DecidableEq ι] {key : ρ → ι}

theorem uniqueOn_table_iff (columns : ρ → Option κ) (t : Table key) :
    UniqueOn columns t.rows ↔ ∀ row ∈ t.rows, ∀ other ∈ t.rows, ∀ k,
      columns row = some k → columns other = some k → key row = key other := by
  have hnodup : t.rows.Nodup := List.Nodup.of_map key t.unique
  have hsymm : Std.Symm fun row other : ρ =>
      ∀ k, columns row = some k → ∀ j, columns other = some j → k ≠ j :=
    ⟨fun _ _ h k hk j hj he => h j hj k hk he.symm⟩
  rw [UniqueOn, List.Nodup, List.pairwise_filterMap, ← hnodup.pairwise_coe]
  constructor
  · intro h row hrow other hother k hk hj
    by_contra hkey
    have hne : row ≠ other := fun he => hkey (congrArg key he)
    exact h hrow hother hne k hk k hj rfl
  · intro h row hrow other hother hne k hk j hj he
    subst he
    have hkey := h row hrow other hother k hk hj
    exact hne (List.inj_on_of_nodup_map t.unique hrow hother hkey)

/-- A table that differs from another one in the row of one key. -/
structure RowSet (t t' : Table key) (i : ι) (new : Option ρ) : Prop where
  find : ∀ j, t'.find? j = if j = i then new else t.find? j
  kept : (t.find? i).isSome → new.isSome

variable (t t' : Table key) (i : ι) (new : Option ρ) (hset : RowSet t t' i new)
include hset

theorem mem_of_rowSet (row : ρ) (h : row ∈ t'.rows) :
    new = some row ∨ row ∈ t.rows ∧ key row ≠ i := by
  have hfind := (t'.find?_eq_some_iff (key row) row).mpr ⟨h, rfl⟩
  rw [hset.find] at hfind
  by_cases hi : key row = i
  · rw [if_pos hi] at hfind
    exact .inl hfind
  · rw [if_neg hi] at hfind
    exact .inr ⟨Table.mem_of_find? _ _ row hfind, hi⟩

theorem uniqueOn_rowSet (columns : ρ → Option κ) (h : UniqueOn columns t.rows)
    (hvacant : ∀ row ∈ new, ∀ other ∈ t.rows, key other ≠ i → ∀ k, columns row = some k →
      columns other ≠ some k) : UniqueOn columns t'.rows := by
  have hold := (uniqueOn_table_iff columns t).mp h
  apply (uniqueOn_table_iff columns t').mpr
  intro row hrow other hother k hk hj
  rcases mem_of_rowSet t t' i new hset row hrow with hr | ⟨hr, hri⟩
  · rcases mem_of_rowSet t t' i new hset other hother with ho | ⟨ho, hoi⟩
    · rw [hr, Option.some.injEq] at ho
      rw [ho]
    · exact absurd hj (hvacant row hr other ho hoi k hk)
  · rcases mem_of_rowSet t t' i new hset other hother with ho | ⟨ho, hoi⟩
    · exact absurd hk (hvacant other ho row hr hri k hj)
    · exact hold row hr other ho k hk hj

theorem refersOn_rowSet (column : ρ → Option κ) (keys keys' : List κ)
    (hkeys : ∀ k ∈ keys, k ∈ keys') (h : RefersOn column keys t.rows)
    (hnew : ∀ row ∈ new, ∀ k ∈ column row, k ∈ keys') : RefersOn column keys' t'.rows := by
  intro row hrow k hk
  rcases mem_of_rowSet t t' i new hset row hrow with hr | ⟨hr, _⟩
  · exact hnew row hr k hk
  · exact hkeys k (h row hr k hk)

/-- A column that the change leaves as it was keeps its values. -/
theorem map_rowSet {τ : Type} (column : ρ → τ)
    (hcolumn : ∀ old row, t.find? i = some old → new = some row → column row = column old) (k : τ)
    (h : k ∈ t.rows.map column) : k ∈ t'.rows.map column := by
  obtain ⟨row, hrow, rfl⟩ := List.mem_map.mp h
  have hold := (t.find?_eq_some_iff (key row) row).mpr ⟨hrow, rfl⟩
  have hfind := hset.find (key row)
  by_cases hi : key row = i
  · rw [hi] at hold
    obtain ⟨changed, hchanged⟩ := Option.isSome_iff_exists.mp (hset.kept (hold ▸ rfl))
    rw [if_pos hi, hchanged] at hfind
    rw [← hcolumn row changed hold hchanged]
    exact List.mem_map_of_mem (Table.mem_of_find? _ _ changed hfind)
  · rw [if_neg hi, hold] at hfind
    exact List.mem_map_of_mem (Table.mem_of_find? _ _ row hfind)

theorem keys_rowSet (j : ι) (h : j ∈ t.rows.map key) : j ∈ t'.rows.map key := by
  apply map_rowSet t t' i new hset key _ j h
  intro old row hold hrow
  have hfind := hset.find i
  rw [if_pos rfl, hrow] at hfind
  rw [Table.key_of_find? _ _ row hfind, Table.key_of_find? _ _ old hold]

end Keyed

theorem rowSet_modify {ι : Type} [DecidableEq ι] {key : ρ → ι} (t : Table key) (i : ι) (f : ρ → ρ)
    (hf : ∀ r, key r = i → key (f r) = i) :
    RowSet t (t.modify i f hf) i ((t.find? i).map f) where
  find := fun j => Table.find?_modify t i j f hf
  kept := by
    intro hsome
    rw [Option.isSome_map]
    exact hsome

theorem rowSet_upsert {ι : Type} [DecidableEq ι] {key : ρ → ι} (t : Table key) (fresh : ρ)
    (update : ρ → ρ) (hu : ∀ r, key r = key fresh → key (update r) = key fresh) :
    RowSet t (t.upsert fresh update hu) (key fresh)
      (some ((t.find? (key fresh)).elim fresh update)) where
  find := fun j => Table.find?_upsert t fresh update hu j
  kept := fun _ => rfl

/-- An upsert keeps a reference when the row it writes has this one, inserted or updated. -/
theorem refersOn_upsert {ι : Type} [DecidableEq ι] {key : ρ → ι} (column : ρ → Option κ)
    (keys : List κ) (t : Table key) (fresh : ρ) (update : ρ → ρ)
    (hu : ∀ r, key r = key fresh → key (update r) = key fresh) (h : RefersOn column keys t.rows)
    (k : κ) (hk : k ∈ keys) (hfresh : column fresh = some k)
    (hupdate : ∀ old, key old = key fresh → column (update old) = some k) :
    RefersOn column keys (t.upsert fresh update hu).rows := by
  apply refersOn_rowSet t _ _ _ (rowSet_upsert t fresh update hu) column keys keys (fun _ hk => hk) h
  intro row hrow j hj
  have hcolumn : column row = some k := by
    cases hfind : t.find? (key fresh) with
    | none =>
      rw [hfind] at hrow
      cases hrow
      exact hfresh
    | some old =>
      rw [hfind] at hrow
      cases hrow
      exact hupdate old (t.key_of_find? _ old hfind)
  rw [hcolumn] at hj
  cases hj
  exact hk

end ObsPlatform
