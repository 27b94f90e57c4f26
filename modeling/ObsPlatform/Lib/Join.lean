import ObsPlatform.Lib.GroupBy
import ObsPlatform.Lib.Table

/-!
# Joins on a primary key

Rows that point at the rows of a table by its key. Since the key is unique, a join adds
no copy of a pointing row: an inner join drops the rows that point nowhere, a left join
keeps them.
-/

namespace ObsPlatform

variable {ρ σ κ : Type} {key : ρ → κ} [DecidableEq κ]

/- rows JOIN t ON foreign = key WHERE p. -/
def semiJoin (t : Table key) (foreign : σ → κ) (p : ρ → Bool) (rows : List σ) : List σ :=
  rows.filter fun row => (t.find? (foreign row)).any p

/- rows JOIN t ON foreign = key. -/
def innerJoin (t : Table key) (foreign : σ → κ) (rows : List σ) : List (σ × ρ) :=
  rows.filterMap fun row => (t.find? (foreign row)).map fun r => (row, r)

/- rows LEFT JOIN t ON foreign = key. -/
def leftJoin (t : Table key) (foreign : σ → κ) (rows : List σ) : List (σ × Option ρ) :=
  rows.map fun row => (row, t.find? (foreign row))

section Sum
variable {M : Type} [AddCommMonoid M] (t : Table key) (foreign : σ → κ) (p : ρ → Bool)

/-- The rows that point at one selected row of the table. -/
theorem filter_semiJoin (rows : List σ) (r : ρ) (hr : r ∈ t.rows) (hp : p r = true) :
    (semiJoin t foreign p rows).filter (fun row => foreign row = key r) =
      rows.filter fun row => foreign row = key r := by
  have hfind := (t.find?_eq_some_iff (key r) r).mpr ⟨hr, rfl⟩
  rw [semiJoin, List.filter_filter]
  apply List.filter_congr
  intro row _
  by_cases hrow : foreign row = key r
  · simp [hrow, hfind, hp]
  · simp [hrow]

/-- Summing over the selected rows and what points at each is summing over the join. -/
theorem sum_semiJoin (f : σ → M) (rows : List σ) :
    ((t.rows.filter p).map fun r => ((rows.filter fun row => foreign row = key r).map f).sum).sum =
      ((semiJoin t foreign p rows).map f).sum := by
  have hkeys : ((t.rows.filter p).map key).Nodup :=
    t.unique.sublist (List.Sublist.map key List.filter_sublist)
  have hpoint : ∀ row ∈ semiJoin t foreign p rows, foreign row ∈ (t.rows.filter p).map key := by
    intro row hrow
    obtain ⟨_, hany⟩ := List.mem_filter.mp hrow
    obtain ⟨r, hfind, hp⟩ := (Option.any_eq_true p _).mp hany
    have hmem := t.mem_of_find? _ r hfind
    have hkey := t.key_of_find? _ r hfind
    exact List.mem_map.mpr ⟨r, List.mem_filter.mpr ⟨hmem, hp⟩, hkey⟩
  have hsum := sum_fibres foreign f ((t.rows.filter p).map key) hkeys
    (semiJoin t foreign p rows) hpoint
  rw [← hsum, List.map_map]
  congr 1
  apply List.map_congr_left
  intro r hr
  obtain ⟨hmem, hp⟩ := List.mem_filter.mp hr
  rw [Function.comp_apply, filter_semiJoin t foreign p rows r hmem hp]

end Sum

section Both
variable {τ : Type} {other : τ → κ} (t : Table key) (u : Table other) (p : ρ → Bool) (q : τ → Bool)

/-- Rows that all find a selected row of the other table are no more than its selected rows. -/
theorem length_filter_le
    (h : ∀ row ∈ t.rows, p row = true → ∃ r, u.find? (key row) = some r ∧ q r = true) :
    (t.rows.filter p).length ≤ (u.rows.filter q).length := by
  have hkeys : ((t.rows.filter p).map key).Nodup := t.unique.sublist (List.filter_sublist.map key)
  have hsubset : (t.rows.filter p).map key ⊆ (u.rows.filter q).map other := by
    intro k hk
    obtain ⟨row, hrow, rfl⟩ := List.mem_map.mp hk
    obtain ⟨hmem, hp⟩ := List.mem_filter.mp hrow
    obtain ⟨r, hfind, hq⟩ := h row hmem hp
    exact List.mem_map.mpr ⟨r, List.mem_filter.mpr ⟨u.mem_of_find? _ r hfind, hq⟩,
      u.key_of_find? _ r hfind⟩
  have hlength := (List.subperm_of_subset hkeys hsubset).length_le
  rwa [List.length_map, List.length_map] at hlength

/-- The selected rows of one table that have a selected row of the other. -/
theorem mem_joined (k : κ) :
    k ∈ (t.rows.filter fun row => p row && (u.find? (key row)).any q).map key ↔
      (t.find? k).any p = true ∧ (u.find? k).any q = true := by
  simp only [List.mem_map, List.mem_filter, Bool.and_eq_true]
  constructor
  · rintro ⟨row, ⟨hmem, hp, hq⟩, rfl⟩
    have hfind := (t.find?_eq_some_iff (key row) row).mpr ⟨hmem, rfl⟩
    rw [hfind]
    exact ⟨hp, hq⟩
  · rintro ⟨hp, hq⟩
    obtain ⟨row, hfind, hp⟩ := (Option.any_eq_true p _).mp hp
    have hkey := t.key_of_find? k row hfind
    exact ⟨row, ⟨t.mem_of_find? k row hfind, hp, hkey.symm ▸ hq⟩, hkey⟩

/-- A join on the keys of both tables has as many rows from either side. -/
theorem length_joined :
    (t.rows.filter fun row => p row && (u.find? (key row)).any q).length =
      (u.rows.filter fun row => q row && (t.find? (other row)).any p).length := by
  have hkeys : ((t.rows.filter fun row => p row && (u.find? (key row)).any q).map key).Perm
      ((u.rows.filter fun row => q row && (t.find? (other row)).any p).map other) := by
    apply (List.perm_ext_iff_of_nodup ?_ ?_).mpr
    · intro k
      rw [mem_joined, mem_joined, and_comm]
    · exact t.unique.sublist (List.filter_sublist.map key)
    · exact u.unique.sublist (List.filter_sublist.map other)
  simpa only [List.length_map] using hkeys.length_eq

end Both

end ObsPlatform
