import Mathlib

/-!
# Texts put together from fields

Fields joined by a separator can be taken apart again where it is known which of them
contain the separator: the first field ends at the first separator and the last one starts
after the last, whatever stands between. A decimal number contains digits only.
-/

namespace ObsPlatform

section Lists
variable {α : Type} (sep : α)

theorem first_field_unique (first first' rest rest' : List α) (hfirst : sep ∉ first)
    (hfirst' : sep ∉ first') (h : first ++ sep :: rest = first' ++ sep :: rest') :
    first = first' ∧ rest = rest' := by
  induction first generalizing first' with
  | nil =>
    cases first' with
    | nil => simpa using h
    | cons a first' =>
      rw [List.nil_append, List.cons_append, List.cons.injEq] at h
      rw [h.1] at hfirst'
      simp at hfirst'
  | cons a first ih =>
    cases first' with
    | nil =>
      rw [List.nil_append, List.cons_append, List.cons.injEq] at h
      rw [h.1] at hfirst
      simp at hfirst
    | cons b first' =>
      rw [List.cons_append, List.cons_append, List.cons.injEq] at h
      obtain ⟨rfl, htail⟩ := h
      have hsame := ih first' (List.not_mem_of_not_mem_cons hfirst)
        (List.not_mem_of_not_mem_cons hfirst') htail
      exact ⟨by rw [hsame.1], hsame.2⟩

theorem last_field_unique (rest rest' last last' : List α) (hlast : sep ∉ last)
    (hlast' : sep ∉ last') (h : rest ++ sep :: last = rest' ++ sep :: last') :
    rest = rest' ∧ last = last' := by
  have hreversed := congrArg List.reverse h
  simp only [List.reverse_append, List.reverse_cons, List.append_assoc, List.singleton_append]
    at hreversed
  have hsame := first_field_unique sep last.reverse last'.reverse rest.reverse rest'.reverse
    (by simpa using hlast) (by simpa using hlast') hreversed
  exact ⟨List.reverse_injective hsame.2, List.reverse_injective hsame.1⟩

/-- Between two fields without the separator any field may stand. -/
theorem fields_unique (first first' middle middle' last last' : List α) (hfirst : sep ∉ first)
    (hfirst' : sep ∉ first') (hlast : sep ∉ last) (hlast' : sep ∉ last')
    (h : first ++ sep :: (middle ++ sep :: last) = first' ++ sep :: (middle' ++ sep :: last')) :
    first = first' ∧ middle = middle' ∧ last = last' := by
  obtain ⟨hsame, hrest⟩ := first_field_unique sep first first' _ _ hfirst hfirst' h
  exact ⟨hsame, last_field_unique sep middle middle' last last' hlast hlast' hrest⟩

end Lists

/-! ### Decimal numbers -/

theorem toString_digits (n : ℕ) (c : Char) (hc : c ∈ (toString n).toList) : c.isDigit = true := by
  rw [Nat.toString_eq_repr, Nat.toList_repr] at hc
  exact Nat.isDigit_of_mem_toDigits (by omega) (by omega) hc

theorem toString_inj (m n : ℕ) (h : (toString m).toList = (toString n).toList) : m = n := by
  rw [Nat.toString_eq_repr, Nat.toString_eq_repr, Nat.toList_repr, Nat.toList_repr] at h
  have hread := congrArg (fun digits => Nat.ofDigitChars 10 digits 0) h
  simpa using hread

/-- Two numbers around any text, kept apart from it by a character that is no digit. -/
theorem numbered_inj (sep : Char) (hsep : sep.isDigit = false) (m m' n n' : ℕ)
    (text text' : List Char)
    (h : (toString m).toList ++ sep :: (text ++ sep :: (toString n).toList) =
      (toString m').toList ++ sep :: (text' ++ sep :: (toString n').toList)) :
    m = m' ∧ text = text' ∧ n = n' := by
  have hno : ∀ k : ℕ, sep ∉ (toString k).toList := by
    intro k hmem
    rw [toString_digits k sep hmem] at hsep
    cases hsep
  obtain ⟨hm, htext, hn⟩ := fields_unique sep _ _ text text' _ _ (hno m) (hno m') (hno n) (hno n') h
  exact ⟨toString_inj m m' hm, htext, toString_inj n n' hn⟩

end ObsPlatform
