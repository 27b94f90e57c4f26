import Mathlib

/-!
# First by priority

A list sorted strictly by rank starts with the entry of least rank, and goes on with the
one of least rank among the others.
-/

namespace ObsPlatform

variable {α : Type}

/-- The entry of a set that comes before all others. -/
def IsFirst (rank : α → ℕ) (entries : Set α) (entry : α) : Prop :=
  entry ∈ entries ∧ ∀ other ∈ entries, rank entry ≤ rank other

section Sorted
variable (rank : α → ℕ) (sorted : List α) (h : sorted.Pairwise fun a b => rank a < rank b)

include h

theorem head_isFirst (first : α) :
    sorted[0]? = some first ↔ IsFirst rank {entry | entry ∈ sorted} first := by
  cases sorted with
  | nil => simp [IsFirst]
  | cons entry rest =>
    obtain ⟨hentry, _⟩ := List.pairwise_cons.mp h
    simp only [List.getElem?_cons_zero, Option.some.injEq]
    constructor
    · intro heq
      subst heq
      refine ⟨List.mem_cons_self, ?_⟩
      intro other hother
      rcases List.mem_cons.mp hother with rfl | hother
      · exact le_refl _
      · exact le_of_lt (hentry other hother)
    · intro hfirst
      obtain ⟨hmem, hleast⟩ := hfirst
      rcases List.mem_cons.mp hmem with rfl | hmem
      · rfl
      · have hlt := hentry first hmem
        have hle := hleast entry List.mem_cons_self
        omega

theorem second_isFirst (first second : α) (hfirst : sorted[0]? = some first) :
    sorted[1]? = some second ↔
      IsFirst rank ({entry | entry ∈ sorted} \ {first}) second := by
  cases sorted with
  | nil => cases hfirst
  | cons entry rest =>
    obtain ⟨hentry, hrest⟩ := List.pairwise_cons.mp h
    simp only [List.getElem?_cons_zero, Option.some.injEq] at hfirst
    subst hfirst
    have hothers : {other | other ∈ entry :: rest} \ {entry} = {other | other ∈ rest} := by
      ext other
      simp only [Set.mem_sdiff, Set.mem_ofPred_eq, List.mem_cons, Set.mem_singleton_iff]
      constructor
      · intro hother
        exact hother.1.resolve_left hother.2
      · intro hother
        have hlt := hentry other hother
        refine ⟨.inr hother, ?_⟩
        intro heq
        subst heq
        omega
    rw [hothers, List.getElem?_cons_succ]
    exact head_isFirst rank rest hrest second

end Sorted
end ObsPlatform
