import Mathlib

/-!
# Sums over intervals

Rows that have an instant, or none, and contribute something each. Two closed intervals that
share an instant contribute what their union does, and the rows of that instant once more.
-/

namespace ObsPlatform

section Interval
variable {τ ρ M : Type} [LinearOrder τ] [AddCommMonoid M]

/- Both bounds are inclusive, and either can be missing. -/
def within (after before : Option τ) (t : τ) : Bool :=
  (after.all fun bound => bound ≤ t) && before.all fun bound => t ≤ bound

def sumWithin (rows : List ρ) (instant : ρ → Option τ) (f : ρ → M) (after before : Option τ) : M :=
  ((rows.filter fun row => (instant row).any (within after before)).map f).sum

theorem sumWithin_cons (row : ρ) (rows : List ρ) (instant : ρ → Option τ) (f : ρ → M)
    (after before : Option τ) :
    sumWithin (row :: rows) instant f after before =
      (if (instant row).any (within after before) then f row else 0) +
        sumWithin rows instant f after before := by
  unfold sumWithin
  cases hrow : (instant row).any (within after before) with
  | true => simp [hrow]
  | false => simp [hrow]

/-- Rows selected beforehand are selected among those of the interval. -/
theorem sumWithin_filter (rows : List ρ) (p : ρ → Bool) (instant : ρ → Option τ) (f : ρ → M)
    (after before : Option τ) :
    sumWithin (rows.filter p) instant f after before =
      (((rows.filter fun row => (instant row).any (within after before)).filter p).map f).sum := by
  rw [sumWithin, List.filter_comm]

theorem sumWithin_one {R : Type} [AddCommMonoidWithOne R] (rows : List ρ) (p : ρ → Bool)
    (instant : ρ → Option τ) (after before : Option τ) :
    sumWithin (rows.filter p) instant (fun _ => (1 : R)) after before =
      ((rows.filter fun row => (instant row).any (within after before)).countP p : ℕ) := by
  rw [sumWithin_filter, List.countP_eq_length_filter]
  simp

section Split
variable (after before : Option τ) (cut : τ) (hafter : ∀ bound ∈ after, bound ≤ cut)
  (hbefore : ∀ bound ∈ before, cut ≤ bound)

theorem all_after_of_le (t : τ) (h : ∀ bound ∈ after, bound ≤ cut) (hcut : cut ≤ t) :
    (after.all fun bound => bound ≤ t) = true := by
  cases after with
  | none => rfl
  | some bound => exact decide_eq_true ((h bound rfl).trans hcut)

theorem all_before_of_le (t : τ) (h : ∀ bound ∈ before, cut ≤ bound) (hcut : t ≤ cut) :
    (before.all fun bound => t ≤ bound) = true := by
  cases before with
  | none => rfl
  | some bound => exact decide_eq_true (hcut.trans (h bound rfl))

include hafter hbefore

/-- One instant in the two intervals, in their union and in what they share. -/
theorem part_split (t : τ) (a : M) :
    ((if within after (some cut) t then a else 0) + if within (some cut) before t then a else 0) =
      (if within after before t then a else 0) +
        if within (some cut) (some cut) t then a else 0 := by
  rcases lt_trichotomy t cut with hlt | rfl | hlt
  · simp [within, hlt.le, not_le.mpr hlt, all_before_of_le before cut t hbefore hlt.le]
  · simp [within, all_after_of_le after t t hafter le_rfl, all_before_of_le before t t hbefore le_rfl]
  · simp [within, hlt.le, not_le.mpr hlt, all_after_of_le after cut t hafter hlt.le]

theorem sumWithin_split (rows : List ρ) (instant : ρ → Option τ) (f : ρ → M) :
    sumWithin rows instant f after (some cut) + sumWithin rows instant f (some cut) before =
      sumWithin rows instant f after before + sumWithin rows instant f (some cut) (some cut) := by
  induction rows with
  | nil => rfl
  | cons row rows ih =>
    have hrow : ((if (instant row).any (within after (some cut)) then f row else 0) +
        if (instant row).any (within (some cut) before) then f row else 0) =
          (if (instant row).any (within after before) then f row else 0) +
            if (instant row).any (within (some cut) (some cut)) then f row else 0 := by
      cases instant row with
      | none => simp
      | some t => exact part_split after before cut hafter hbefore t (f row)
    simp only [sumWithin_cons]
    rw [add_add_add_comm, hrow, ih, add_add_add_comm]

end Split

end Interval

end ObsPlatform
