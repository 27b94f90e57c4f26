import Mathlib

/-!
# Association lists

Lookup against membership, and the lookups of a list whose keys are distinct.
-/

namespace ObsPlatform

variable {α β : Type} [BEq α] [LawfulBEq α]

theorem lookup_mem (entries : List (α × β)) (a : α) (b : β) (h : entries.lookup a = some b) :
    (a, b) ∈ entries := by
  induction entries with
  | nil => cases h
  | cons entry entries ih =>
    rw [List.lookup_cons] at h
    by_cases he : a = entry.1
    · simp only [he, beq_self_eq_true, Option.some.injEq] at h
      rw [he, ← h]
      exact List.mem_cons_self
    · have hb : (a == entry.1) = false := beq_eq_false_iff_ne.mpr he
      simp only [hb] at h
      exact List.mem_cons_of_mem _ (ih h)

theorem lookup_none (entries : List (α × β)) (a : α) (h : entries.lookup a = none) :
    a ∉ entries.map Prod.fst := by
  intro hm
  obtain ⟨entry, he, ha⟩ := List.mem_map.mp hm
  have hl := List.lookup_eq_none_iff.mp h entry he
  simp [ha] at hl

theorem lookup_eq_some_iff (entries : List (α × β)) (hn : (entries.map Prod.fst).Nodup) (a : α)
    (b : β) : entries.lookup a = some b ↔ (a, b) ∈ entries := by
  constructor
  · exact lookup_mem entries a b
  · intro hm
    cases hl : entries.lookup a with
    | none => exact absurd (List.mem_map_of_mem hm) (lookup_none entries a hl)
    | some b' =>
      have hm' := lookup_mem entries a b' hl
      have he := List.inj_on_of_nodup_map hn hm' hm rfl
      rw [(Prod.mk.inj he).2]

end ObsPlatform
