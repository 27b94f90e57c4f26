import Mathlib

/-!
# GROUP BY

`SELECT key, count(*) ... WHERE key IS NOT NULL GROUP BY key`: one group for each key
present. The counts of the groups add up to the rows that have a key.

`SELECT key, aggregate(...) ... GROUP BY key` keeps the rows whose key is null, as a group
of their own. An additive measure of the groups adds up to that of all rows.
-/

namespace ObsPlatform

variable {ρ κ : Type} [DecidableEq κ]

def groupCounts (key : ρ → Option κ) (rows : List ρ) : List (κ × ℕ) :=
  let keys := rows.filterMap key
  keys.dedup.map fun k => (k, keys.count k)

theorem groupCounts_nodup (key : ρ → Option κ) (rows : List ρ) :
    ((groupCounts key rows).map Prod.fst).Nodup := by
  have hkeys : (groupCounts key rows).map Prod.fst = (rows.filterMap key).dedup := by
    simp [groupCounts, List.map_map, Function.comp_def]
  rw [hkeys]
  exact List.nodup_dedup _

/-- A key has a group when some row has the key. -/
theorem mem_groupCounts_iff (key : ρ → Option κ) (rows : List ρ) (k : κ) :
    k ∈ (groupCounts key rows).map Prod.fst ↔ ∃ row ∈ rows, key row = some k := by
  simp [groupCounts, List.map_map, Function.comp_def]

theorem sum_groupCounts (key : ρ → Option κ) (rows : List ρ) :
    ((groupCounts key rows).map Prod.snd).sum = rows.countP fun row => (key row).isSome := by
  have hcounts : (groupCounts key rows).map Prod.snd =
      (rows.filterMap key).dedup.map fun k => (rows.filterMap key).count k := by
    simp [groupCounts, List.map_map, Function.comp_def]
  have htotal := List.sum_map_count_dedup_eq_length (rows.filterMap key)
  rw [hcounts, htotal, List.length_filterMap_eq_countP]

/-- One row has this key. -/
theorem filter_key (key : ρ → κ) (rows : List ρ) (hdistinct : (rows.map key).Nodup) (row : ρ)
    (hrow : row ∈ rows) : rows.filter (fun other => key other = key row) = [row] := by
  induction rows with
  | nil => cases hrow
  | cons head rows ih =>
    obtain ⟨hnew, hrest⟩ := List.nodup_cons.mp hdistinct
    rcases List.mem_cons.mp hrow with rfl | htail
    · have hnone : rows.filter (fun other => key other = key row) = [] := by
        rw [List.filter_eq_nil_iff]
        intro other hother hkey
        rw [← of_decide_eq_true hkey] at hnew
        exact hnew (List.mem_map_of_mem hother)
      simp [hnone]
    · have hhead : ¬ key head = key row := by
        intro heq
        rw [heq] at hnew
        exact hnew (List.mem_map_of_mem htail)
      simp [hhead, ih hrest htail]

theorem filter_key_absent (key : ρ → κ) (rows : List ρ) (k : κ) (hk : k ∉ rows.map key) :
    rows.filter (fun row => key row = k) = [] := by
  rw [List.filter_eq_nil_iff]
  intro row hrow hkey
  rw [← of_decide_eq_true hkey] at hk
  exact hk (List.mem_map_of_mem hrow)

/-- The count under one key, whatever order the groups come in. -/
theorem groupCounts_of_key (key : ρ → Option κ) (rows : List ρ) (arranged : List (κ × ℕ))
    (hperm : arranged.Perm (groupCounts key rows)) (k : κ) :
    ((arranged.filter fun group => group.1 = k).map Prod.snd).sum =
      rows.countP fun row => key row = some k := by
  have hsum := ((hperm.filter fun group => group.1 = k).map Prod.snd).sum_eq
  rw [hsum]
  by_cases hk : k ∈ (groupCounts key rows).map Prod.fst
  · obtain ⟨group, hgroup, rfl⟩ := List.mem_map.mp hk
    rw [filter_key Prod.fst _ (groupCounts_nodup key rows) group hgroup]
    obtain ⟨k, _, rfl⟩ := List.mem_map.mp hgroup
    rw [List.map_singleton, List.sum_singleton, List.count, List.countP_filterMap]
    apply List.countP_congr
    intro row _
    cases key row <;> simp
  · rw [filter_key_absent Prod.fst _ k hk]
    symm
    rw [List.map_nil, List.sum_nil, List.countP_eq_zero]
    intro row hrow hkey
    exact hk ((mem_groupCounts_iff key rows k).mpr ⟨row, hrow, of_decide_eq_true hkey⟩)

/-! ### Groups with any aggregate -/

section Aggregate
variable {γ M : Type} [AddCommMonoid M]

def groupBy (key : ρ → κ) (aggregate : List ρ → γ) (rows : List ρ) : List (κ × γ) :=
  (rows.map key).dedup.map fun k => (k, aggregate (rows.filter fun row => key row = k))

theorem map_fst_groupBy (key : ρ → κ) (aggregate : List ρ → γ) (rows : List ρ) :
    (groupBy key aggregate rows).map Prod.fst = (rows.map key).dedup := by
  simp [groupBy, List.map_map, Function.comp_def]

/-- One of the keys is this one, so the others contribute nothing. -/
theorem sum_selected (keys : List κ) (hkeys : keys.Nodup) (k : κ) (hk : k ∈ keys) (a : M) :
    (keys.map fun other => if k = other then a else 0).sum = a := by
  induction keys with
  | nil => cases hk
  | cons other keys ih =>
    obtain ⟨hnew, hkeys⟩ := List.nodup_cons.mp hkeys
    rw [List.map_cons, List.sum_cons]
    by_cases hother : k = other
    · have hrest : (keys.map fun other => if k = other then a else 0) = keys.map fun _ => 0 := by
        apply List.map_congr_left
        intro key hmem
        rw [if_neg]
        intro hkey
        rw [← hother, hkey] at hnew
        exact hnew hmem
      have hzero : (keys.map fun _ => (0 : M)).sum = 0 := by simp
      rw [if_pos hother, hrest, hzero, add_zero]
    · have hmem : k ∈ keys := by
        rcases List.mem_cons.mp hk with h | h
        · exact absurd h hother
        · exact h
      rw [if_neg hother, ih hkeys hmem, zero_add]

/-- Rows whose keys are all listed once are counted once. -/
theorem sum_fibres (key : ρ → κ) (f : ρ → M) (keys : List κ) (hkeys : keys.Nodup) (rows : List ρ)
    (hrows : ∀ row ∈ rows, key row ∈ keys) :
    (keys.map fun k => ((rows.filter fun row => key row = k).map f).sum).sum =
      (rows.map f).sum := by
  induction rows with
  | nil => simp
  | cons row rows ih =>
    have hstep : ∀ k, (((row :: rows).filter fun row => key row = k).map f).sum =
        (if key row = k then f row else 0) +
          ((rows.filter fun row => key row = k).map f).sum := by
      intro k
      by_cases hk : key row = k
      · simp [hk]
      · simp [hk]
    have hrest := ih fun other hother => hrows other (List.mem_cons_of_mem _ hother)
    have hrow := sum_selected keys hkeys (key row) (hrows row List.mem_cons_self) (f row)
    rw [List.map_congr_left fun k _ => hstep k, List.sum_map_add, hrow, hrest, List.map_cons,
      List.sum_cons]

/-- Each row has one of the keys. -/
theorem sum_countP_keys (key : ρ → κ) (keys : List κ) (hkeys : keys.Nodup) (rows : List ρ)
    (hrows : ∀ row ∈ rows, key row ∈ keys) :
    (keys.map fun k => rows.countP fun row => key row = k).sum = rows.length := by
  have hsum := sum_fibres key (fun _ => 1) keys hkeys rows hrows
  simpa [List.countP_eq_length_filter] using hsum

theorem sum_indicator (rows : List ρ) (p : ρ → Bool) :
    (rows.map fun row => if p row then 1 else 0).sum = rows.countP p := by
  induction rows with
  | nil => rfl
  | cons row rows ih =>
    rw [List.map_cons, List.sum_cons, List.countP_cons, ih]
    omega

/-- The rows with some property, counted key by key. -/
theorem sum_countP_fibres (key : ρ → κ) (keys : List κ) (hkeys : keys.Nodup) (rows : List ρ)
    (hrows : ∀ row ∈ rows, key row ∈ keys) (p : ρ → Bool) :
    (keys.map fun k => (rows.filter fun row => key row = k).countP p).sum = rows.countP p := by
  have hsum := sum_fibres key (fun row => if p row then 1 else 0) keys hkeys rows hrows
  simp only [sum_indicator] at hsum
  exact hsum

theorem sum_filterMap (column : ρ → Option M) (rows : List ρ) :
    (rows.filterMap column).sum = (rows.map fun row => (column row).getD 0).sum := by
  induction rows with
  | nil => rfl
  | cons row rows ih =>
    cases hrow : column row with
    | none => simp [hrow, ih]
    | some a => simp [hrow, ih]

theorem sum_groupBy (key : ρ → κ) (aggregate : List ρ → γ) (measure : γ → M) (f : ρ → M)
    (hmeasure : ∀ group, measure (aggregate group) = (group.map f).sum) (rows : List ρ) :
    ((groupBy key aggregate rows).map fun group => measure group.2).sum = (rows.map f).sum := by
  have hsum := sum_fibres key f (rows.map key).dedup (List.nodup_dedup _) rows
    fun row hrow => List.mem_dedup.mpr (List.mem_map_of_mem hrow)
  rw [← hsum, groupBy, List.map_map]
  congr 1
  apply List.map_congr_left
  intro k _
  exact hmeasure _

theorem mem_groupBy_iff (key : ρ → κ) (aggregate : List ρ → γ) (rows : List ρ) (k : κ) (g : γ) :
    (k, g) ∈ groupBy key aggregate rows ↔
      (∃ row ∈ rows, key row = k) ∧ g = aggregate (rows.filter fun row => key row = k) := by
  simp only [groupBy, List.mem_map, List.mem_dedup, Prod.mk.injEq]
  constructor
  · intro h
    obtain ⟨key', hkey', rfl, rfl⟩ := h
    exact ⟨hkey', rfl⟩
  · intro h
    obtain ⟨hk, rfl⟩ := h
    exact ⟨k, hk, rfl, rfl⟩

/-- The measure of the group under one key, whatever order the groups come in. -/
theorem sum_groupBy_of_key (key : ρ → κ) (aggregate : List ρ → γ) (measure : γ → M) (f : ρ → M)
    (hmeasure : ∀ group, measure (aggregate group) = (group.map f).sum) (rows : List ρ)
    (arranged : List (κ × γ)) (hperm : arranged.Perm (groupBy key aggregate rows)) (k : κ) :
    ((arranged.filter fun group => group.1 = k).map fun group => measure group.2).sum =
      ((rows.filter fun row => key row = k).map f).sum := by
  have hsum := ((hperm.filter fun group => group.1 = k).map fun group => measure group.2).sum_eq
  have hdistinct : ((groupBy key aggregate rows).map Prod.fst).Nodup := by
    rw [map_fst_groupBy]
    exact List.nodup_dedup _
  rw [hsum]
  by_cases hk : k ∈ (groupBy key aggregate rows).map Prod.fst
  · obtain ⟨group, hgroup, rfl⟩ := List.mem_map.mp hk
    obtain ⟨_, hg⟩ := (mem_groupBy_iff key aggregate rows group.1 group.2).mp hgroup
    rw [filter_key Prod.fst _ hdistinct group hgroup, List.map_singleton, List.sum_singleton, hg,
      hmeasure]
  · rw [filter_key_absent Prod.fst _ k hk]
    rw [map_fst_groupBy, List.mem_dedup] at hk
    rw [filter_key_absent key rows k hk]
    rfl

end Aggregate

/-! ### Counts of groups -/

/-- The groups are those of the rows, each with its count, in some order. -/
structure CountsOf (key : ρ → κ) (rows : List ρ) (groups : List (κ × ℕ)) : Prop where
  distinct : (groups.map Prod.fst).Nodup
  counted : ∀ group ∈ groups, group.2 = rows.countP fun row => key row = group.1
  covers : ∀ row ∈ rows, key row ∈ groups.map Prod.fst
  inhabited : ∀ group ∈ groups, ∃ row ∈ rows, key row = group.1

section Counts
variable (key : ρ → κ) (rows : List ρ) (groups : List (κ × ℕ))

theorem countsOf_groupBy (arranged : List (κ × ℕ))
    (hperm : arranged.Perm (groupBy key List.length rows)) : CountsOf key rows arranged := by
  have hnames := hperm.map Prod.fst
  rw [map_fst_groupBy] at hnames
  exact
    { distinct := hnames.nodup_iff.mpr (List.nodup_dedup _)
      counted := by
        intro group hgroup
        obtain ⟨_, hcount⟩ := (mem_groupBy_iff key List.length rows group.1 group.2).mp
          (hperm.mem_iff.mp hgroup)
        rw [hcount, List.countP_eq_length_filter]
      covers := by
        intro row hrow
        rw [hnames.mem_iff, List.mem_dedup]
        exact List.mem_map_of_mem hrow
      inhabited := by
        intro group hgroup
        exact ((mem_groupBy_iff key List.length rows group.1 group.2).mp
          (hperm.mem_iff.mp hgroup)).1 }

variable (h : CountsOf key rows groups)
include h

theorem countsOf_sum : (groups.map Prod.snd).sum = rows.length := by
  have hsum := sum_countP_keys key (groups.map Prod.fst) h.distinct rows h.covers
  rw [← hsum, List.map_map]
  congr 1
  apply List.map_congr_left
  intro group hgroup
  exact h.counted group hgroup

/-- A key without a group has no rows. -/
theorem countsOf_absent (k : κ) (hk : k ∉ groups.map Prod.fst) :
    rows.countP (fun row => key row = k) = 0 := by
  rw [List.countP_eq_zero]
  intro row hrow hkey
  have hrow := h.covers row hrow
  rw [of_decide_eq_true hkey] at hrow
  exact hk hrow

end Counts

/-- The groups with one first component are the groups of the rows that have it. -/
theorem countsOf_slice {α β : Type} [DecidableEq α] [DecidableEq β] (key : ρ → α × β)
    (rows : List ρ) (groups : List ((α × β) × ℕ)) (h : CountsOf key rows groups) (a : α) :
    CountsOf (fun row => (key row).2) (rows.filter fun row => (key row).1 = a)
      ((groups.filter fun group => group.1.1 = a).map fun group => (group.1.2, group.2)) where
  distinct := by
    have hslice : ((groups.filter fun group => group.1.1 = a).map Prod.fst).Nodup :=
      h.distinct.sublist (List.Sublist.map _ List.filter_sublist)
    rw [List.map_map, List.nodup_map_iff_inj_on hslice.of_map]
    intro x hx y hy hxy
    have hfirst : x.1.1 = y.1.1 := by
      have hx := of_decide_eq_true (List.mem_filter.mp hx).2
      have hy := of_decide_eq_true (List.mem_filter.mp hy).2
      rw [hx, hy]
    exact List.inj_on_of_nodup_map hslice hx hy (Prod.ext hfirst hxy)
  counted := by
    intro group hgroup
    obtain ⟨whole, hwhole, rfl⟩ := List.mem_map.mp hgroup
    obtain ⟨hmem, hfirst⟩ := List.mem_filter.mp hwhole
    have hfirst := of_decide_eq_true hfirst
    rw [h.counted whole hmem, List.countP_filter]
    apply List.countP_congr
    intro row _
    simp only [Bool.and_eq_true, decide_eq_true_eq, ← hfirst]
    exact ⟨fun hkey => ⟨congrArg Prod.snd hkey, congrArg Prod.fst hkey⟩,
      fun hkey => Prod.ext hkey.2 hkey.1⟩
  covers := by
    intro row hrow
    obtain ⟨hmem, hfirst⟩ := List.mem_filter.mp hrow
    obtain ⟨group, hgroup, hkey⟩ := List.mem_map.mp (h.covers row hmem)
    rw [← hkey] at hfirst ⊢
    exact List.mem_map.mpr ⟨(group.1.2, group.2),
      List.mem_map.mpr ⟨group, List.mem_filter.mpr ⟨hgroup, hfirst⟩, rfl⟩, rfl⟩
  inhabited := by
    intro group hgroup
    obtain ⟨whole, hwhole, rfl⟩ := List.mem_map.mp hgroup
    obtain ⟨hmem, hfirst⟩ := List.mem_filter.mp hwhole
    obtain ⟨row, hrow, hkey⟩ := h.inhabited whole hmem
    rw [← hkey] at hfirst ⊢
    exact ⟨row, List.mem_filter.mpr ⟨hrow, hfirst⟩, rfl⟩

/-! ### Averages and percentiles -/

/- AVG, of the values that are not null; null when there are none. -/
def average (values : List ℚ) : Option ℚ :=
  if values.isEmpty then none else some (values.sum / values.length)

/- percentile_cont: interpolates between the two sorted values next to the fraction. -/
def percentileCont (fraction : ℚ) (values : List ℚ) : Option ℚ :=
  if values.isEmpty then none else
    let sorted := values.insertionSort fun a b => a ≤ b
    let position := fraction * (values.length - 1 : ℕ)
    let below := sorted.getD ⌊position⌋.toNat 0
    let above := sorted.getD ⌈position⌉.toNat 0
    some (below + (position - ⌊position⌋) * (above - below))

end ObsPlatform
