import Mathlib

/-!
# Last write wins

A history is a list of writes, oldest first; each write gives a value to some keys and
says nothing about the others. `latest` is the value the last write that speaks of a
key gave it. A table tracks a history when each key holds a row that stands for its
latest value, and no row when no write spoke of it; `tracks_step` is what one more
write has to do to the table for that to stay so.
-/

namespace ObsPlatform.LastWrite

variable {η ν κ ρ : Type}

def latest (written : η → Option ν) (history : List η) : Option ν :=
  history.reverse.findSome? written

theorem latest_append_singleton (written : η → Option ν) (history : List η) (a : η) :
    latest written (history ++ [a]) = (written a).or (latest written history) := by
  simp only [latest, List.reverse_append, List.reverse_singleton, List.singleton_append,
    List.findSome?_cons]
  cases written a with
  | none => rfl
  | some v => rfl

theorem latest_isSome_iff (written : η → Option ν) (history : List η) :
    (latest written history).isSome ↔ ∃ a ∈ history, (written a).isSome := by
  simp only [latest, List.findSome?_isSome_iff, List.mem_reverse]

/-- Each key of the table holds a row that stands for the key's latest value. -/
def Tracks (written : κ → η → Option ν) (stands : κ → ν → ρ → Prop) (history : List η)
    (find : κ → Option ρ) : Prop :=
  ∀ k, Option.Rel (stands k) (latest (written k) history) (find k)

theorem tracks_nil (written : κ → η → Option ν) (stands : κ → ν → ρ → Prop)
    (find : κ → Option ρ) (h : ∀ k, find k = none) : Tracks written stands [] find := by
  intro k
  rw [h k]
  exact .none

theorem tracks_step (written : κ → η → Option ν) (stands stands' : κ → ν → ρ → Prop)
    (history : List η) (a : η) (find find' : κ → Option ρ)
    (h : Tracks written stands history find)
    (hwritten : ∀ k v, written k a = some v → ∃ r, find' k = some r ∧ stands' k v r)
    (hkept : ∀ k, written k a = none → find' k = find k)
    (hmono : ∀ k v r, written k a = none → stands k v r → stands' k v r) :
    Tracks written stands' (history ++ [a]) find' := by
  intro k
  rw [latest_append_singleton]
  cases hw : written k a with
  | some v =>
    obtain ⟨r, hr, hs⟩ := hwritten k v hw
    rw [hr]
    exact .some hs
  | none =>
    rw [hkept k hw, Option.none_or]
    have hk := h k
    cases hl : latest (written k) history with
    | none =>
      rw [hl] at hk
      cases hf : find k with
      | none => exact .none
      | some r =>
        rw [hf] at hk
        cases hk
    | some v =>
      rw [hl] at hk
      cases hf : find k with
      | none =>
        rw [hf] at hk
        cases hk
      | some r =>
        rw [hf] at hk
        cases hk with
        | some hs => exact .some (hmono k v r hw hs)

/-- A row is there exactly when some write spoke of its key. -/
theorem tracks_isSome_iff (written : κ → η → Option ν) (stands : κ → ν → ρ → Prop)
    (history : List η) (find : κ → Option ρ) (h : Tracks written stands history find) (k : κ) :
    (find k).isSome ↔ ∃ a ∈ history, (written k a).isSome := by
  rw [← latest_isSome_iff]
  have hk := h k
  cases hl : latest (written k) history with
  | none =>
    rw [hl] at hk
    cases hf : find k with
    | none => simp
    | some r =>
      rw [hf] at hk
      cases hk
  | some v =>
    rw [hl] at hk
    cases hf : find k with
    | none =>
      rw [hf] at hk
      cases hk
    | some r => simp

end ObsPlatform.LastWrite
