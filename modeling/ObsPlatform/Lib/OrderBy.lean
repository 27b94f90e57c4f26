import Mathlib

/-!
# ORDER BY

A query that sorts by a key returns the rows in some order consistent with the key;
where keys are equal the order is the server's choice. An `OrderBy` is one such
choice for every list of rows.
-/

namespace ObsPlatform

structure OrderBy {ρ : Type} (le : ρ → ρ → Prop) where
  arrange : List ρ → List ρ
  perm : ∀ rows, (arrange rows).Perm rows
  sorted : ∀ rows, (arrange rows).Pairwise le

namespace OrderBy

variable {ρ : Type} {le : ρ → ρ → Prop}

/-- The choice that keeps rows of equal keys in their stored order. -/
def stable (le : ρ → ρ → Prop) [DecidableRel le] [Std.Total le] [IsTrans ρ le] : OrderBy le where
  arrange := List.insertionSort le
  perm := List.perm_insertionSort le
  sorted := List.pairwise_insertionSort le

theorem nonempty (htotal : ∀ a b, le a b ∨ le b a) (htrans : ∀ a b c, le a b → le b c → le a c) :
    Nonempty (OrderBy le) := by
  classical
  have total : Std.Total le := ⟨htotal⟩
  have trans : IsTrans ρ le := ⟨htrans⟩
  exact ⟨stable le⟩

end OrderBy

/-! ### Nulls last, and ties -/

section Ties
variable {ρ α : Type}

/- ORDER BY key ASC: nulls come last. -/
def nullsLast (le : α → α → Prop) : Option α → Option α → Prop
  | some a, some b => le a b
  | none, some _ => False
  | _, none => True

theorem nullsLast_total (le : α → α → Prop) (htotal : ∀ a b, le a b ∨ le b a) (a b : Option α) :
    nullsLast le a b ∨ nullsLast le b a := by
  cases a with
  | none => exact .inr (by cases b <;> trivial)
  | some a =>
    cases b with
    | none => exact .inl trivial
    | some b => exact htotal a b

theorem nullsLast_trans (le : α → α → Prop) (htrans : ∀ a b c, le a b → le b c → le a c)
    (a b c : Option α) (hab : nullsLast le a b) (hbc : nullsLast le b c) : nullsLast le a c := by
  cases c with
  | none => cases a <;> trivial
  | some c =>
    cases b with
    | none => cases hbc
    | some b =>
      cases a with
      | none => cases hab
      | some a => exact htrans a b c hab hbc

/- ORDER BY first ASC, then by another order. -/
def ThenBy (first : ρ → α) (le : α → α → Prop) (tie : ρ → ρ → Prop) (a b : ρ) : Prop :=
  (le (first a) (first b) ∧ first a ≠ first b) ∨ first a = first b ∧ tie a b

theorem thenBy_total (first : ρ → α) (le : α → α → Prop) (tie : ρ → ρ → Prop)
    (hle : ∀ a b, le a b ∨ le b a) (htie : ∀ a b, tie a b ∨ tie b a) (a b : ρ) :
    ThenBy first le tie a b ∨ ThenBy first le tie b a := by
  by_cases hfirst : first a = first b
  · rcases htie a b with h | h
    · exact .inl (.inr ⟨hfirst, h⟩)
    · exact .inr (.inr ⟨hfirst.symm, h⟩)
  · rcases hle (first a) (first b) with h | h
    · exact .inl (.inl ⟨h, hfirst⟩)
    · exact .inr (.inl ⟨h, fun heq => hfirst heq.symm⟩)

theorem thenBy_trans (first : ρ → α) (le : α → α → Prop) (tie : ρ → ρ → Prop)
    (hle : ∀ a b c, le a b → le b c → le a c) (hanti : ∀ a b, le a b → le b a → a = b)
    (htie : ∀ a b c, tie a b → tie b c → tie a c) (a b c : ρ) (hab : ThenBy first le tie a b)
    (hbc : ThenBy first le tie b c) : ThenBy first le tie a c := by
  rcases hab with ⟨hab, hne⟩ | ⟨hab, htied⟩
  · rcases hbc with ⟨hbc, _⟩ | ⟨hbc, _⟩
    · have hdistinct : first a ≠ first c := by
        intro heq
        exact hne (hanti (first a) (first b) hab (heq ▸ hbc))
      exact .inl ⟨hle _ _ _ hab hbc, hdistinct⟩
    · exact .inl ⟨hbc ▸ hab, hbc ▸ hne⟩
  · rcases hbc with ⟨hbc, hne⟩ | ⟨hbc, htied'⟩
    · exact .inl ⟨hab ▸ hbc, hab ▸ hne⟩
    · exact .inr ⟨hab.trans hbc, htie a b c htied htied'⟩

/- ORDER BY measure DESC, then by another order. -/
def Descending [LT α] (measure : ρ → α) (tie : ρ → ρ → Prop) (a b : ρ) : Prop :=
  measure b < measure a ∨ measure a = measure b ∧ tie a b

theorem descending_total [LinearOrder α] (measure : ρ → α) (tie : ρ → ρ → Prop)
    (htie : ∀ a b, tie a b ∨ tie b a) (a b : ρ) :
    Descending measure tie a b ∨ Descending measure tie b a := by
  rcases lt_trichotomy (measure a) (measure b) with h | h | h
  · exact .inr (.inl h)
  · rcases htie a b with htied | htied
    · exact .inl (.inr ⟨h, htied⟩)
    · exact .inr (.inr ⟨h.symm, htied⟩)
  · exact .inl (.inl h)

theorem descending_trans [LinearOrder α] (measure : ρ → α) (tie : ρ → ρ → Prop)
    (htie : ∀ a b c, tie a b → tie b c → tie a c) (a b c : ρ) (hab : Descending measure tie a b)
    (hbc : Descending measure tie b c) : Descending measure tie a c := by
  rcases hab with hab | ⟨hab, htied⟩
  · rcases hbc with hbc | ⟨hbc, _⟩
    · exact .inl (hbc.trans hab)
    · exact .inl (hbc ▸ hab)
  · rcases hbc with hbc | ⟨hbc, htied'⟩
    · exact .inl (hab ▸ hbc)
    · exact .inr ⟨hab.trans hbc, htie a b c htied htied'⟩

end Ties

/-! ### The least key -/

section Least
variable {ρ α κ : Type} [DecidableEq α] [LinearOrder κ]

theorem min?_eq_of_perm (keys keys' : List κ) (h : keys.Perm keys') : keys.min? = keys'.min? := by
  cases hmin : keys.min? with
  | none =>
    rw [List.min?_eq_none_iff] at hmin
    rw [hmin] at h
    rw [List.nil_perm.mp h]
    rfl
  | some least =>
    rw [List.min?_eq_some_iff] at hmin
    symm
    rw [List.min?_eq_some_iff]
    exact ⟨h.mem_iff.mp hmin.1, fun key hkey => hmin.2 key (h.mem_iff.mpr hkey)⟩

/-- In a list sorted by its keys the first entry of a name has the least key of that name. -/
theorem lookup_sorted (rows : List ρ) (name : ρ → α) (key : ρ → κ)
    (hsorted : rows.Pairwise fun a b => key a ≤ key b) (a : α) :
    (rows.map fun row => (name row, key row)).lookup a =
      ((rows.filter fun row => name row = a).map key).min? := by
  induction rows with
  | nil => rfl
  | cons row rows ih =>
    obtain ⟨hleast, hsorted⟩ := List.pairwise_cons.mp hsorted
    rw [List.map_cons, List.lookup_cons]
    by_cases hname : name row = a
    · have hkey : (a == name row) = true := by rw [hname]; exact beq_self_eq_true a
      have hfilter : (row :: rows).filter (fun row => name row = a) =
          row :: rows.filter fun row => name row = a := by simp [hname]
      rw [hkey, hfilter, List.map_cons]
      symm
      rw [List.min?_eq_some_iff]
      constructor
      · exact List.mem_cons_self
      · intro least hmem
        rcases List.mem_cons.mp hmem with rfl | hmem
        · exact le_refl _
        · obtain ⟨other, hother, rfl⟩ := List.mem_map.mp hmem
          exact hleast other (List.mem_of_mem_filter hother)
    · have hkey : (a == name row) = false := beq_eq_false_iff_ne.mpr fun h => hname h.symm
      have hfilter : (row :: rows).filter (fun row => name row = a) =
          rows.filter fun row => name row = a := by simp [hname]
      rw [hkey, hfilter]
      exact ih hsorted

/-- However ties were broken when the rows were sorted. -/
theorem lookup_arranged (arranged rows : List ρ) (name : ρ → α) (key : ρ → κ)
    (hperm : arranged.Perm rows) (hsorted : arranged.Pairwise fun a b => key a ≤ key b) (a : α) :
    (arranged.map fun row => (name row, key row)).lookup a =
      ((rows.filter fun row => name row = a).map key).min? := by
  rw [lookup_sorted arranged name key hsorted a]
  exact min?_eq_of_perm _ _ ((hperm.filter _).map key)

end Least
end ObsPlatform
