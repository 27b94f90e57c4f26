import Mathlib

/-!
# Stateful computations that can raise

`EStateM ε σ α` runs on a state `σ` and ends by returning an `α` or by raising an
`ε`. A raised error keeps the state it was raised in: nothing is undone unless a
handler undoes it. The rules below take a sequence apart at its binds (what a
returning run did, where a raising run stopped) and carry an invariant through
every way a computation can stop.
-/

namespace ObsPlatform.Stateful

variable {ε σ τ α β : Type}

/-- The state a computation stops in, whichever way it stops. -/
def after (x : EStateM ε σ α) (s : σ) : σ :=
  match x s with
  | .ok _ t => t
  | .error _ t => t

theorem after_ok (x : EStateM ε σ α) (s t : σ) (a : α) (h : x s = .ok a t) :
    after x s = t := by
  simp only [after, h]

theorem after_error (x : EStateM ε σ α) (s t : σ) (e : ε) (h : x s = .error e t) :
    after x s = t := by
  simp only [after, h]

/-- What a computation returns or raises. -/
def resultOf (x : EStateM ε σ α) (s : σ) : Except ε α :=
  match x s with
  | .ok a _ => .ok a
  | .error e _ => .error e

/-! ### Sequences -/

theorem bind_of_ok (x : EStateM ε σ α) (f : α → EStateM ε σ β) (s t : σ) (a : α)
    (h : x s = .ok a t) : (x >>= f) s = f a t := by
  show (match x s with | .ok a t => f a t | .error e t => .error e t) = f a t
  rw [h]

theorem bind_of_error (x : EStateM ε σ α) (f : α → EStateM ε σ β) (s t : σ) (e : ε)
    (h : x s = .error e t) : (x >>= f) s = .error e t := by
  show (match x s with | .ok a t => f a t | .error e t => .error e t) = .error e t
  rw [h]

/-- A sequence returns when both halves do. -/
theorem bind_returns (x : EStateM ε σ α) (f : α → EStateM ε σ β) (s t : σ) (b : β) :
    (x >>= f) s = .ok b t ↔ ∃ a u, x s = .ok a u ∧ f a u = .ok b t := by
  cases h : x s with
  | ok a u =>
    rw [bind_of_ok x f s u a h]
    constructor
    · intro hf
      exact ⟨a, u, rfl, hf⟩
    · intro hreturned
      obtain ⟨a', u', he, hf⟩ := hreturned
      cases he
      exact hf
  | error e u =>
    rw [bind_of_error x f s u e h]
    constructor
    · intro hf
      cases hf
    · intro hreturned
      obtain ⟨a', u', he, _⟩ := hreturned
      cases he

/-- A sequence raises when its first half does, or its second half after the
first returned. -/
theorem bind_raises (x : EStateM ε σ α) (f : α → EStateM ε σ β) (s t : σ) (e : ε) :
    (x >>= f) s = .error e t ↔
      x s = .error e t ∨ ∃ a u, x s = .ok a u ∧ f a u = .error e t := by
  cases h : x s with
  | ok a u =>
    rw [bind_of_ok x f s u a h]
    constructor
    · intro hf
      exact .inr ⟨a, u, rfl, hf⟩
    · intro hraised
      rcases hraised with he | ⟨a', u', he, hf⟩
      · cases he
      · cases he
        exact hf
  | error e' u =>
    rw [bind_of_error x f s u e' h]
    constructor
    · intro hf
      cases hf
      exact .inl rfl
    · intro hraised
      rcases hraised with he | ⟨a', u', he, _⟩
      · cases he
        rfl
      · cases he

theorem tryCatch_of_ok (x : EStateM ε σ α) (h : ε → EStateM ε σ α) (s t : σ) (a : α)
    (hx : x s = .ok a t) : tryCatch x h s = .ok a t := by
  simp only [tryCatch, tryCatchThe, MonadExceptOf.tryCatch, EStateM.tryCatch, hx]

theorem tryCatch_of_error (x : EStateM ε σ α) (h : ε → EStateM ε σ α) (s t : σ) (e : ε)
    (hx : x s = .error e t) : tryCatch x h s = h e t := by
  simp only [tryCatch, tryCatchThe, MonadExceptOf.tryCatch, EStateM.tryCatch, hx]
  rfl

/-! ### How a run ends -/

/-- The run from `s` returns in `returned`, or raises in `raised`. -/
inductive Ends (x : EStateM ε σ α) (s : σ) (returned : α → σ → Prop) (raised : ε → σ → Prop) :
    Prop where
  | ok (a : α) (t : σ) (hx : x s = .ok a t) (h : returned a t)
  | error (e : ε) (t : σ) (hx : x s = .error e t) (h : raised e t)

theorem ends_of_ok (x : EStateM ε σ α) (s t : σ) (a : α) (returned : α → σ → Prop)
    (raised : ε → σ → Prop) (hx : x s = .ok a t) (h : returned a t) : Ends x s returned raised :=
  .ok a t hx h

theorem ends_of_error (x : EStateM ε σ α) (s t : σ) (e : ε) (returned : α → σ → Prop)
    (raised : ε → σ → Prop) (hx : x s = .error e t) (h : raised e t) :
    Ends x s returned raised :=
  .error e t hx h

theorem ends_returns (x : EStateM ε σ α) (s t : σ) (a : α) (returned : α → σ → Prop)
    (raised : ε → σ → Prop) (h : Ends x s returned raised) (hx : x s = .ok a t) :
    returned a t := by
  cases h with
  | ok a' t' hx' h =>
    rw [hx] at hx'
    cases hx'
    exact h
  | error e' t' hx' h =>
    rw [hx] at hx'
    cases hx'

theorem ends_raises (x : EStateM ε σ α) (s t : σ) (e : ε) (returned : α → σ → Prop)
    (raised : ε → σ → Prop) (h : Ends x s returned raised) (hx : x s = .error e t) :
    raised e t := by
  cases h with
  | ok a' t' hx' h =>
    rw [hx] at hx'
    cases hx'
  | error e' t' hx' h =>
    rw [hx] at hx'
    cases hx'
    exact h

theorem ends_congr (x y : EStateM ε σ α) (s u : σ) (returned : α → σ → Prop)
    (raised : ε → σ → Prop) (he : x s = y u) (h : Ends y u returned raised) :
    Ends x s returned raised := by
  cases h with
  | ok a t hx h => exact .ok a t (he.trans hx) h
  | error e t hx h => exact .error e t (he.trans hx) h

theorem ends_get (f : σ → EStateM ε σ α) (s : σ) (returned : α → σ → Prop)
    (raised : ε → σ → Prop) (h : Ends (f s) s returned raised) :
    Ends (get >>= f) s returned raised :=
  ends_congr _ (f s) s s _ _ rfl h

theorem ends_bind (x : EStateM ε σ α) (f : α → EStateM ε σ β) (s : σ) (mid : α → σ → Prop)
    (returned : β → σ → Prop) (raised : ε → σ → Prop) (hx : Ends x s mid raised)
    (hf : ∀ a t, mid a t → Ends (f a) t returned raised) :
    Ends (x >>= f) s returned raised := by
  cases hx with
  | ok a u hr h => exact ends_congr _ _ s u _ _ (bind_of_ok x f s u a hr) (hf a u h)
  | error e u hr h => exact .error e u (bind_of_error x f s u e hr) h

theorem ends_mono (x : EStateM ε σ α) (s : σ) (returned returned' : α → σ → Prop)
    (raised raised' : ε → σ → Prop) (hx : Ends x s returned raised)
    (hok : ∀ a t, returned a t → returned' a t) (herr : ∀ e t, raised e t → raised' e t) :
    Ends x s returned' raised' := by
  cases hx with
  | ok a u hr h => exact .ok a u hr (hok a u h)
  | error e u hr h => exact .error e u hr (herr e u h)

/-- A sequence whose first part can fail in ways of its own. -/
theorem ends_then (x : EStateM ε σ α) (f : α → EStateM ε σ β) (s : σ) (mid : α → σ → Prop)
    (broken : ε → σ → Prop) (returned : β → σ → Prop) (raised : ε → σ → Prop)
    (hx : Ends x s mid broken) (hbroken : ∀ e t, broken e t → raised e t)
    (hf : ∀ a t, mid a t → Ends (f a) t returned raised) : Ends (x >>= f) s returned raised :=
  ends_bind x f s mid returned raised (ends_mono x s _ _ _ _ hx (fun _ _ h => h) hbroken) hf

theorem ends_tryCatch (x : EStateM ε σ α) (h : ε → EStateM ε σ α) (s : σ)
    (returned : α → σ → Prop) (caught raised : ε → σ → Prop) (hx : Ends x s returned caught)
    (hh : ∀ e t, caught e t → Ends (h e) t returned raised) :
    Ends (tryCatch x h) s returned raised := by
  cases hx with
  | ok a u hr hreturned => exact .ok a u (tryCatch_of_ok x h s u a hr) hreturned
  | error e u hr hcaught =>
    exact ends_congr _ _ s u _ _ (tryCatch_of_error x h s u e hr) (hh e u hcaught)

theorem ends_and (x : EStateM ε σ α) (s : σ) (returned returned' : α → σ → Prop)
    (raised raised' : ε → σ → Prop) (h : Ends x s returned raised)
    (h' : Ends x s returned' raised') :
    Ends x s (fun a t => returned a t ∧ returned' a t) fun e t => raised e t ∧ raised' e t := by
  cases h with
  | ok a t hr h => exact .ok a t hr ⟨h, ends_returns x s t a _ _ h' hr⟩
  | error e t hr h => exact .error e t hr ⟨h, ends_raises x s t e _ _ h' hr⟩

/-- What holds of every state holds of the one a run ends in. -/
theorem ends_always (x : EStateM ε σ α) (s : σ) (returned : α → σ → Prop) (raised : ε → σ → Prop)
    (hok : ∀ a t, returned a t) (herr : ∀ e t, raised e t) : Ends x s returned raised := by
  cases hr : x s with
  | ok a t => exact .ok a t hr (hok a t)
  | error e t => exact .error e t hr (herr e t)

/-- What a sequence returns is what its second half returns. -/
theorem ends_second (x : EStateM ε σ α) (f : α → EStateM ε σ β) (s : σ)
    (returned : β → σ → Prop) (hf : ∀ a t, Ends (f a) t returned fun _ _ => True) :
    Ends (x >>= f) s returned fun _ _ => True := by
  have hx : Ends x s (fun _ _ => True) fun _ _ => True :=
    ends_always x s _ _ (fun _ _ => trivial) fun _ _ => trivial
  exact ends_bind x f s _ _ _ hx fun a t _ => hf a t

/-! ### Invariants -/

/-- Every run from a state in `I` stops in `I`, returning or raising. -/
def Preserves (I : σ → Prop) (x : EStateM ε σ α) : Prop := ∀ s, I s → I (after x s)

theorem preserves_pure (I : σ → Prop) (a : α) : Preserves I (pure a : EStateM ε σ α) :=
  fun _ h => h

theorem preserves_throw (I : σ → Prop) (e : ε) : Preserves I (throw e : EStateM ε σ α) :=
  fun _ h => h

/-- The rule of a sequence for one start state: the second half runs on what the first
half returned. -/
theorem after_bind (I : σ → Prop) (x : EStateM ε σ α) (f : α → EStateM ε σ β) (s : σ)
    (hx : I (after x s)) (hf : ∀ a t, x s = .ok a t → I t → I (after (f a) t)) :
    I (after (x >>= f) s) := by
  cases h : x s with
  | ok a u =>
    rw [after_ok x s u a h] at hx
    simp only [after, bind_of_ok x f s u a h]
    exact hf a u h hx
  | error e u =>
    rw [after_error x s u e h] at hx
    rw [after_error (x >>= f) s u e (bind_of_error x f s u e h)]
    exact hx

theorem preserves_bind (I : σ → Prop) (x : EStateM ε σ α) (f : α → EStateM ε σ β)
    (hx : Preserves I x) (hf : ∀ a, Preserves I (f a)) : Preserves I (x >>= f) :=
  fun s hs => after_bind I x f s (hx s hs) fun a t _ ht => hf a t ht

theorem preserves_tryCatch (I : σ → Prop) (x : EStateM ε σ α) (h : ε → EStateM ε σ α)
    (hx : Preserves I x) (hh : ∀ e, Preserves I (h e)) : Preserves I (tryCatch x h) := by
  intro s hs
  have h1 := hx s hs
  cases hr : x s with
  | ok a u =>
    rw [after_ok x s u a hr] at h1
    rw [after_ok _ s u a (tryCatch_of_ok x h s u a hr)]
    exact h1
  | error e u =>
    rw [after_error x s u e hr] at h1
    have h2 := hh e u h1
    simp only [after, tryCatch_of_error x h s u e hr]
    exact h2

theorem ends_of_preserves (I : σ → Prop) (x : EStateM ε σ α) (hx : Preserves I x) (s : σ)
    (hs : I s) : Ends x s (fun _ t => I t) fun _ t => I t := by
  have h := hx s hs
  cases hr : x s with
  | ok a t =>
    rw [after_ok x s t a hr] at h
    exact .ok a t hr h
  | error e t =>
    rw [after_error x s t e hr] at h
    exact .error e t hr h

theorem preserves_modify (I : σ → Prop) (f : σ → σ) (h : ∀ s, I s → I (f s)) :
    Preserves I (modify f : EStateM ε σ PUnit) := h

theorem preserves_get (I : σ → Prop) : Preserves I (get : EStateM ε σ σ) := fun _ h => h

/-! ### A computation on one part of the state -/

/-- Run a computation on the part of the state that `view` reads and `put` writes. -/
def zoom (view : τ → σ) (put : σ → τ → τ) (x : EStateM ε σ α) : EStateM ε τ α := fun t =>
  match x (view t) with
  | .ok a s => .ok a (put s t)
  | .error e s => .error e (put s t)

theorem zoom_of_ok (view : τ → σ) (put : σ → τ → τ) (x : EStateM ε σ α) (t : τ) (a : α) (s : σ)
    (h : x (view t) = .ok a s) : zoom view put x t = .ok a (put s t) := by
  simp only [zoom, h]

theorem zoom_of_error (view : τ → σ) (put : σ → τ → τ) (x : EStateM ε σ α) (t : τ) (e : ε) (s : σ)
    (h : x (view t) = .error e s) : zoom view put x t = .error e (put s t) := by
  simp only [zoom, h]

theorem ends_zoom (view : τ → σ) (put : σ → τ → τ) (x : EStateM ε σ α) (t : τ)
    (returned : α → τ → Prop) (raised : ε → τ → Prop)
    (h : Ends x (view t) (fun a s => returned a (put s t)) fun e s => raised e (put s t)) :
    Ends (zoom view put x) t returned raised := by
  cases h with
  | ok a s hr h => exact .ok a _ (zoom_of_ok view put x t a s hr) h
  | error e s hr h => exact .error e _ (zoom_of_error view put x t e s hr) h

theorem after_zoom (view : τ → σ) (put : σ → τ → τ) (x : EStateM ε σ α) (t : τ) :
    after (zoom view put x) t = put (after x (view t)) t := by
  cases h : x (view t) with
  | ok a s =>
    rw [after_ok _ _ _ _ (zoom_of_ok view put x t a s h), after_ok x _ s a h]
  | error e s =>
    rw [after_error _ _ _ _ (zoom_of_error view put x t e s h), after_error x _ s e h]

theorem preserves_zoom (view : τ → σ) (put : σ → τ → τ) (I : τ → Prop)
    (hput : ∀ s t, I t → I (put s t)) (x : EStateM ε σ α) : Preserves I (zoom view put x) := by
  intro t ht
  rw [after_zoom]
  exact hput _ t ht

end ObsPlatform.Stateful
