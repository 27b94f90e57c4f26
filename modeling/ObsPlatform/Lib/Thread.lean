import ObsPlatform.Lib.Stateful

/-!
# Threads

A thread is a stateful computation cut where others may run in between: a tree of atomic
steps, each with a label. Run with nobody else it is a computation again, and a thread
written in the words of a computation, one `atomic` for each of its statements, is that
computation (`run_atomic`, `run_bind`, `run_tryCatch`). A thread that others commit beside sees a store of its own at each step.
-/

namespace ObsPlatform

open Stateful

variable {ℓ ε σ α β : Type}

inductive Thread (ℓ ε σ α : Type) : Type where
  | done (result : Except ε α)
  | step (label : ℓ) (act : σ → σ) (next : σ → Thread ℓ ε σ α)

namespace Thread

/-- Go on with the result, returned or raised. -/
def followedBy (k : Except ε α → Thread ℓ ε σ β) : Thread ℓ ε σ α → Thread ℓ ε σ β
  | .done result => k result
  | .step label act next => .step label act fun s => followedBy k (next s)

def onReturn (f : α → Thread ℓ ε σ β) : Except ε α → Thread ℓ ε σ β
  | .ok a => f a
  | .error e => .done (.error e)

def onRaise (h : ε → Thread ℓ ε σ α) : Except ε α → Thread ℓ ε σ α
  | .ok a => .done (.ok a)
  | .error e => h e

instance : Monad (Thread ℓ ε σ) where
  pure a := .done (.ok a)
  bind t f := t.followedBy (onReturn f)

instance : MonadExceptOf ε (Thread ℓ ε σ) where
  throw e := .done (.error e)
  tryCatch t h := t.followedBy (onRaise h)

/-- One step that nobody interrupts. -/
def atomic (label : ℓ) (x : EStateM ε σ α) : Thread ℓ ε σ α :=
  .step label (after x) fun s => .done (resultOf x s)

/-- The result of a thread that has ended. -/
def result? : Thread ℓ ε σ α → Option (Except ε α)
  | .done result => some result
  | .step _ _ _ => none

/-- What the next step of a thread is labelled. -/
def label? : Thread ℓ ε σ α → Option ℓ
  | .done _ => none
  | .step label _ _ => some label

theorem done_of_result? (t : Thread ℓ ε σ α) (result : Except ε α) (h : t.result? = some result) :
    t = .done result := by
  cases t with
  | done _ => rw [result?, Option.some.injEq] at h; rw [h]
  | step _ _ _ => cases h

/-- The thread with nobody else. -/
def run : Thread ℓ ε σ α → EStateM ε σ α
  | .done (.ok a) => pure a
  | .done (.error e) => throw e
  | .step _ act next => fun s => (next s).run (act s)

theorem run_pure (a : α) : (pure a : Thread ℓ ε σ α).run = pure a := rfl

theorem run_throw (e : ε) : (throw e : Thread ℓ ε σ α).run = throw e := rfl

theorem run_atomic (label : ℓ) (x : EStateM ε σ α) : (atomic label x).run = x := by
  funext s
  cases h : x s with
  | ok a t => simp only [atomic, run, resultOf, after, h]; rfl
  | error e t => simp only [atomic, run, resultOf, after, h]; rfl

theorem run_followedBy (t : Thread ℓ ε σ α) (k : Except ε α → Thread ℓ ε σ β) (s : σ) :
    (t.followedBy k).run s = (k (resultOf t.run s)).run (after t.run s) := by
  induction t generalizing s with
  | done result => cases result <;> rfl
  | step label act next ih => exact ih s (act s)

theorem run_bind (t : Thread ℓ ε σ α) (f : α → Thread ℓ ε σ β) :
    (t >>= f).run = t.run >>= fun a => (f a).run := by
  funext s
  have hrun := run_followedBy t (onReturn f) s
  cases h : t.run s with
  | ok a u =>
    rw [bind_of_ok _ _ s u a h]
    simp only [resultOf, after, h] at hrun
    exact hrun
  | error e u =>
    rw [bind_of_error _ _ s u e h]
    simp only [resultOf, after, h] at hrun
    exact hrun

theorem run_tryCatch (t : Thread ℓ ε σ α) (handler : ε → Thread ℓ ε σ α) :
    (tryCatch t handler).run = tryCatch t.run fun e => (handler e).run := by
  funext s
  have hrun := run_followedBy t (onRaise handler) s
  cases h : t.run s with
  | ok a u =>
    rw [tryCatch_of_ok _ _ s u a h]
    simp only [resultOf, after, h] at hrun
    exact hrun
  | error e u =>
    rw [tryCatch_of_error _ _ s u e h]
    simp only [resultOf, after, h] at hrun
    exact hrun

theorem followedBy_assoc {γ : Type} (t : Thread ℓ ε σ α) (k : Except ε α → Thread ℓ ε σ β)
    (k' : Except ε β → Thread ℓ ε σ γ) :
    (t.followedBy k).followedBy k' = t.followedBy fun result => (k result).followedBy k' := by
  induction t with
  | done result => rfl
  | step label act next ih =>
    simp only [followedBy]
    congr 1
    funext s
    exact ih s

/-! ### What every step of a thread does -/

/-- Every step meets a condition on its label and its effect, whatever the states are. -/
inductive Each (P : ℓ → (σ → σ) → Prop) : Thread ℓ ε σ α → Prop where
  | done (result : Except ε α) : Each P (.done result)
  | step (label : ℓ) (act : σ → σ) (next : σ → Thread ℓ ε σ α) (hact : P label act)
      (hnext : ∀ s, Each P (next s)) : Each P (.step label act next)

theorem each_followedBy (P : ℓ → (σ → σ) → Prop) (t : Thread ℓ ε σ α)
    (k : Except ε α → Thread ℓ ε σ β) (ht : Each P t) (hk : ∀ result, Each P (k result)) :
    Each P (t.followedBy k) := by
  induction ht with
  | done result => exact hk result
  | step label act next hact _ ih => exact .step label act _ hact ih

theorem each_bind (P : ℓ → (σ → σ) → Prop) (t : Thread ℓ ε σ α) (f : α → Thread ℓ ε σ β)
    (ht : Each P t) (hf : ∀ a, Each P (f a)) : Each P (t >>= f) := by
  apply each_followedBy P t _ ht
  intro result
  cases result with
  | ok a => exact hf a
  | error e => exact .done _

theorem each_atomic (P : ℓ → (σ → σ) → Prop) (label : ℓ) (x : EStateM ε σ α)
    (h : P label (after x)) : Each P (atomic label x) :=
  .step label _ _ h fun _ => .done _

/-! ### A thread on one part of the state -/

/-- Run a thread on the part of the state that `view` reads and `put` writes. -/
def zoom {τ : Type} (view : τ → σ) (put : σ → τ → τ) : Thread ℓ ε σ α → Thread ℓ ε τ α
  | .done result => .done result
  | .step label act next =>
    .step label (fun s => put (act (view s)) s) fun s => zoom view put (next (view s))

theorem run_zoom {τ : Type} (view : τ → σ) (put : σ → τ → τ) (hview : ∀ s t, view (put s t) = s)
    (hput : ∀ t, put (view t) t = t) (hputs : ∀ s s' t, put s (put s' t) = put s t)
    (t : Thread ℓ ε σ α) : (t.zoom view put).run = Stateful.zoom view put t.run := by
  induction t with
  | done result =>
    funext s
    cases result with
    | ok a => exact congrArg (EStateM.Result.ok a) (hput s).symm
    | error e => exact congrArg (EStateM.Result.error e) (hput s).symm
  | step label act next ih =>
    funext s
    show (Thread.zoom view put (next (view s))).run (put (act (view s)) s) = _
    rw [ih (view s)]
    cases hr : (next (view s)).run (act (view s)) with
    | ok a s' =>
      have hnext : (next (view s)).run (view (put (act (view s)) s)) = .ok a s' := by
        rw [hview]
        exact hr
      rw [Stateful.zoom_of_ok view put _ _ a s' hnext, hputs]
      exact (Stateful.zoom_of_ok view put _ s a s' hr).symm
    | error e s' =>
      have hnext : (next (view s)).run (view (put (act (view s)) s)) = .error e s' := by
        rw [hview]
        exact hr
      rw [Stateful.zoom_of_error view put _ _ e s' hnext, hputs]
      exact (Stateful.zoom_of_error view put _ s e s' hr).symm

theorem each_zoom {τ : Type} (view : τ → σ) (put : σ → τ → τ) (P : ℓ → (σ → σ) → Prop)
    (Q : ℓ → (τ → τ) → Prop)
    (hPQ : ∀ label act, P label act → Q label fun s => put (act (view s)) s)
    (t : Thread ℓ ε σ α) (ht : Each P t) : Each Q (t.zoom view put) := by
  induction ht with
  | done result => exact .done result
  | step label act next hact _ ih => exact .step label _ _ (hPQ label act hact) fun s => ih (view s)

end Thread

/-! ### A shared store -/

/-- The part of a session that is shared: `install` shows it the published store. -/
structure SharedPart (ω σ : Type) where
  install : ω → σ → σ
  published : σ → ω
  published_install : ∀ w s, published (install w s) = w
  install_install : ∀ w w' s, install w (install w' s) = install w s

namespace Thread

section Seeing
variable {ω : Type} (part : SharedPart ω σ) (stores : ℕ → ω)

/-- What a thread ends with when its step number `n` sees the store `stores n`. -/
def seeing : ℕ → Thread ℓ ε σ α → σ → Except ε α
  | _, .done result, _ => result
  | n, .step _ act next, s =>
    seeing (n + 1) (next (part.install (stores n) s)) (act (part.install (stores n) s))

theorem seeing_atomic (label : ℓ) (x : EStateM ε σ α) (f : α → Thread ℓ ε σ β) (n : ℕ) (s t : σ)
    (a : α) (h : x (part.install (stores n) s) = .ok a t) :
    seeing part stores n (atomic label x >>= f) s = seeing part stores (n + 1) (f a) t := by
  show seeing part stores (n + 1) (onReturn f (resultOf x (part.install (stores n) s)))
    (after x (part.install (stores n) s)) = _
  rw [resultOf, after_ok x _ t a h, h]
  rfl

end Seeing

end Thread

end ObsPlatform
