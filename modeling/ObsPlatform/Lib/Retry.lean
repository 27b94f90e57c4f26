import Mathlib

/-!
# Asking again

A request is answered; an answer that calls for a correction is followed by the corrected
request, up to a number of attempts. The answer may depend on the attempt and on the
request, the correction is made from the answer alone.
-/

namespace ObsPlatform.Retry

variable {ρ ω : Type} (answer : ℕ → ρ → ω) (correction : ω → Option ρ) (first : ρ)

/-- The request of an attempt; after an answer that needs no correction, the first one again. -/
def requestAt : ℕ → ρ
  | 0 => first
  | i + 1 => (correction (answer i (requestAt i))).getD first

def answerAt (i : ℕ) : ω := answer i (requestAt answer correction first i)

/-- The requests made and their answers, of at most so many attempts from the i-th on. -/
def exchanges : ℕ → ℕ → ρ → List (ρ × ω)
  | 0, _, _ => []
  | left + 1, i, request =>
    (request, answer i request) ::
      match correction (answer i request) with
      | none => []
      | some next => exchanges left (i + 1) next

theorem exchanges_settled (left i : ℕ) (request : ρ) (h : correction (answer i request) = none) :
    exchanges answer correction (left + 1) i request = [(request, answer i request)] := by
  simp only [exchanges, h]

theorem exchanges_corrected (left i : ℕ) (request next : ρ)
    (h : correction (answer i request) = some next) :
    exchanges answer correction (left + 1) i request =
      (request, answer i request) :: exchanges answer correction left (i + 1) next := by
  simp only [exchanges, h]

theorem requestAt_corrected (i : ℕ) (next : ρ)
    (h : correction (answerAt answer correction first i) = some next) :
    requestAt answer correction first (i + 1) = next := by
  show (correction (answerAt answer correction first i)).getD first = next
  rw [h]
  rfl

/-- Whatever their number, the exchanges are those of the first attempts. -/
theorem exchanges_eq (left i : ℕ) :
    exchanges answer correction left i (requestAt answer correction first i) =
      (List.range (exchanges answer correction left i
        (requestAt answer correction first i)).length).map fun k =>
          (requestAt answer correction first (i + k), answerAt answer correction first (i + k)) := by
  induction left generalizing i with
  | zero => rfl
  | succ left ih =>
    cases hc : correction (answerAt answer correction first i) with
    | none =>
      rw [exchanges_settled answer correction left i _ hc]
      rfl
    | some next =>
      have hnext := requestAt_corrected answer correction first i next hc
      have hrest := ih (i + 1)
      rw [hnext] at hrest
      rw [exchanges_corrected answer correction left i _ next hc, List.length_cons,
        List.range_succ_eq_map, List.map_cons, List.map_map]
      congr 1
      nth_rewrite 1 [hrest]
      apply List.map_congr_left
      intro k _
      have hk : i + 1 + k = i + (k + 1) := by omega
      rw [hk]
      rfl

/-- The attempts made: those within their number whose predecessors all called for a correction. -/
theorem lt_length_iff (left i k : ℕ) :
    k < (exchanges answer correction left i (requestAt answer correction first i)).length ↔
      k < left ∧ ∀ j < k, (correction (answerAt answer correction first (i + j))).isSome := by
  induction left generalizing i k with
  | zero =>
    simp only [exchanges, List.length_nil]
    omega
  | succ left ih =>
    cases hc : correction (answerAt answer correction first i) with
    | none =>
      rw [exchanges_settled answer correction left i _ hc, List.length_singleton]
      constructor
      · intro hk
        exact ⟨by omega, by omega⟩
      · intro hk
        by_contra hpositive
        have hsome := hk.2 0 (by omega)
        rw [Nat.add_zero, hc] at hsome
        cases hsome
    | some next =>
      rw [exchanges_corrected answer correction left i _ next hc, List.length_cons,
        ← requestAt_corrected answer correction first i next hc]
      cases k with
      | zero => simp
      | succ k =>
        have hshift : ∀ j, i + 1 + j = i + (j + 1) := by
          intro j
          omega
        rw [Nat.add_lt_add_iff_right, ih (i + 1) k, Nat.add_lt_add_iff_right, and_congr_right_iff]
        intro _
        constructor
        · intro h j hj
          cases j with
          | zero =>
            rw [Nat.add_zero, hc]
            rfl
          | succ j =>
            rw [← hshift]
            exact h j (by omega)
        · intro h j hj
          rw [hshift]
          exact h (j + 1) (by omega)

end ObsPlatform.Retry
