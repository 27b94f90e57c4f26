import Mathlib

/-!
# Lists by key

A loop over rows that appends to a dictionary of lists, as `d.setdefault(k, []).append(a)`
does: keys in the order of their first row, each with the values of its rows in order.
-/

namespace ObsPlatform

variable {ρ κ α : Type} [DecidableEq κ]

def appendTo (grouped : List (κ × List α)) (k : κ) (a : α) : List (κ × List α) :=
  if k ∈ grouped.map Prod.fst then
    grouped.map fun entry => if entry.1 = k then (entry.1, entry.2 ++ [a]) else entry
  else grouped ++ [(k, [a])]

/- Rows without a key are skipped. -/
def regroup (key : ρ → Option κ) (value : ρ → α) (rows : List ρ) : List (κ × List α) :=
  rows.foldl (fun grouped row =>
    match key row with
    | none => grouped
    | some k => appendTo grouped k (value row)) []

/-- Each key of the rows once, with the values of its rows. -/
structure Regrouped (key : ρ → Option κ) (value : ρ → α) (rows : List ρ)
    (grouped : List (κ × List α)) : Prop where
  distinct : (grouped.map Prod.fst).Nodup
  values : ∀ entry ∈ grouped,
    entry.2 = (rows.filter fun row => key row = some entry.1).map value
  present : ∀ k, k ∈ grouped.map Prod.fst ↔ ∃ row ∈ rows, key row = some k

theorem map_fst_appendTo (grouped : List (κ × List α)) (k : κ) (a : α)
    (hk : k ∈ grouped.map Prod.fst) :
    (appendTo grouped k a).map Prod.fst = grouped.map Prod.fst := by
  rw [appendTo, if_pos hk, List.map_map]
  apply List.map_congr_left
  intro entry _
  by_cases hentry : entry.1 = k
  · simp [hentry]
  · simp [hentry]

section Step
variable (key : ρ → Option κ) (value : ρ → α) (rows : List ρ) (grouped : List (κ × List α))
  (h : Regrouped key value rows grouped) (row : ρ)
include h

theorem regrouped_skip (hrow : key row = none) : Regrouped key value (rows ++ [row]) grouped where
  distinct := h.distinct
  values := by
    intro entry hentry
    rw [h.values entry hentry, List.filter_append]
    simp [hrow]
  present := by
    intro k
    rw [h.present k]
    simp [List.mem_append, or_and_right, exists_or, hrow]

theorem regrouped_known (k : κ) (hrow : key row = some k) (hk : k ∈ grouped.map Prod.fst) :
    Regrouped key value (rows ++ [row]) (appendTo grouped k (value row)) where
  distinct := by
    rw [map_fst_appendTo grouped k (value row) hk]
    exact h.distinct
  values := by
    intro entry hentry
    rw [appendTo, if_pos hk] at hentry
    obtain ⟨old, hold, rfl⟩ := List.mem_map.mp hentry
    by_cases hkey : old.1 = k
    · rw [if_pos hkey, h.values old hold, List.filter_append, List.map_append]
      simp [hrow, hkey]
    · have hother : ¬ k = old.1 := fun heq => hkey heq.symm
      rw [if_neg hkey, h.values old hold, List.filter_append]
      simp [hrow, hother]
  present := by
    intro j
    rw [map_fst_appendTo grouped k (value row) hk, h.present j]
    constructor
    · intro hj
      obtain ⟨other, hmem, hother⟩ := hj
      exact ⟨other, List.mem_append_left _ hmem, hother⟩
    · intro hj
      obtain ⟨other, hmem, hother⟩ := hj
      rcases List.mem_append.mp hmem with hmem | hmem
      · exact ⟨other, hmem, hother⟩
      · rw [List.mem_singleton.mp hmem, hrow] at hother
        cases hother
        exact (h.present k).mp hk

theorem regrouped_new (k : κ) (hrow : key row = some k) (hk : k ∉ grouped.map Prod.fst) :
    Regrouped key value (rows ++ [row]) (appendTo grouped k (value row)) where
  distinct := by
    rw [appendTo, if_neg hk, List.map_append, List.nodup_append]
    refine ⟨h.distinct, List.nodup_singleton k, ?_⟩
    intro j hj other hother heq
    rw [List.mem_singleton.mp hother] at heq
    rw [heq] at hj
    exact hk hj
  values := by
    intro entry hentry
    rw [appendTo, if_neg hk] at hentry
    rw [List.filter_append, List.map_append]
    rcases List.mem_append.mp hentry with hold | hnew
    · have hother : ¬ k = entry.1 := by
        intro heq
        rw [heq] at hk
        exact hk (List.mem_map_of_mem hold)
      rw [h.values entry hold]
      simp [hrow, hother]
    · rw [List.mem_singleton.mp hnew]
      have hnone : (rows.filter fun row => key row = some k) = [] := by
        rw [List.filter_eq_nil_iff]
        intro other hmem hother
        exact hk ((h.present k).mpr ⟨other, hmem, of_decide_eq_true hother⟩)
      simp [hrow, hnone]
  present := by
    intro j
    rw [appendTo, if_neg hk, List.map_append, List.mem_append, h.present j]
    simp [List.mem_append, or_and_right, exists_or, hrow, eq_comm]

end Step

/-- The loop regroups the rows it has read. -/
theorem regroup_regrouped (key : ρ → Option κ) (value : ρ → α) (rows : List ρ) :
    Regrouped key value rows (regroup key value rows) := by
  induction rows using List.reverseRecOn with
  | nil => exact ⟨List.nodup_nil, fun _ h => absurd h List.not_mem_nil, fun _ => by simp [regroup]⟩
  | append_singleton rows row ih =>
    rw [regroup, List.foldl_append]
    cases hrow : key row with
    | none =>
      simp only [List.foldl_cons, List.foldl_nil, hrow]
      exact regrouped_skip key value rows _ ih row hrow
    | some k =>
      simp only [List.foldl_cons, List.foldl_nil, hrow]
      by_cases hk : k ∈ (regroup key value rows).map Prod.fst
      · exact regrouped_known key value rows _ ih row k hrow hk
      · exact regrouped_new key value rows _ ih row k hrow hk

end ObsPlatform
