import ObsPlatform.Lib.UnitOfWork

/-!
# Two runs side by side

Two runs end alike when both return, or both raise the same error, in results and
states that a relation ties together. The rules take both runs apart at the same bind,
so that a relation between the states in the middle carries the argument through a
sequence; where both runs are in one state they are the same run.

Of a session without a transaction nothing reads the working copy any more: `tidied`
forgets what an earlier transaction left there, and every statement runs from the
tidied session as it does from the session itself.
-/

namespace ObsPlatform.Stateful

variable {ε σ τ α β γ δ : Type}

/-- Both runs return in `returned`, or both raise one error in `raised`. -/
inductive EndAlike (x : EStateM ε σ α) (y : EStateM ε σ β) (s t : σ)
    (returned : α → σ → β → σ → Prop) (raised : ε → σ → σ → Prop) : Prop where
  | ok (a : α) (u : σ) (b : β) (v : σ) (hx : x s = .ok a u) (hy : y t = .ok b v)
      (h : returned a u b v)
  | error (e : ε) (u v : σ) (hx : x s = .error e u) (hy : y t = .error e v) (h : raised e u v)

theorem alike_mono (x : EStateM ε σ α) (y : EStateM ε σ β) (s t : σ)
    (returned returned' : α → σ → β → σ → Prop) (raised raised' : ε → σ → σ → Prop)
    (h : EndAlike x y s t returned raised)
    (hok : ∀ a u b v, returned a u b v → returned' a u b v)
    (herr : ∀ e u v, raised e u v → raised' e u v) : EndAlike x y s t returned' raised' := by
  cases h with
  | ok a u b v hx hy h => exact .ok a u b v hx hy (hok a u b v h)
  | error e u v hx hy h => exact .error e u v hx hy (herr e u v h)

theorem alike_congr (x x' : EStateM ε σ α) (y y' : EStateM ε σ β) (s s' t t' : σ)
    (returned : α → σ → β → σ → Prop) (raised : ε → σ → σ → Prop) (hx : x s = x' s')
    (hy : y t = y' t') (h : EndAlike x' y' s' t' returned raised) :
    EndAlike x y s t returned raised := by
  cases h with
  | ok a u b v hx' hy' h => exact .ok a u b v (hx.trans hx') (hy.trans hy') h
  | error e u v hx' hy' h => exact .error e u v (hx.trans hx') (hy.trans hy') h

/-- The two sides take their first halves alike and go on from what these returned. -/
theorem alike_bind (x : EStateM ε σ α) (y : EStateM ε σ β) (f : α → EStateM ε σ γ)
    (g : β → EStateM ε σ δ) (s t : σ) (mid : α → σ → β → σ → Prop)
    (returned : γ → σ → δ → σ → Prop) (raised : ε → σ → σ → Prop)
    (hxy : EndAlike x y s t mid raised)
    (hfg : ∀ a u b v, mid a u b v → EndAlike (f a) (g b) u v returned raised) :
    EndAlike (x >>= f) (y >>= g) s t returned raised := by
  cases hxy with
  | ok a u b v hx hy h =>
    exact alike_congr _ _ _ _ s u t v _ _ (bind_of_ok x f s u a hx) (bind_of_ok y g t v b hy)
      (hfg a u b v h)
  | error e u v hx hy h =>
    exact .error e u v (bind_of_error x f s u e hx) (bind_of_error y g t v e hy) h

/-- One computation in two states that it cannot tell apart. -/
theorem alike_of_eq (x : EStateM ε σ α) (s t : σ) (h : x s = x t) :
    EndAlike x x s t (fun a u b v => a = b ∧ u = v) fun _ u v => u = v := by
  cases hr : x s with
  | ok a u => exact .ok a u a u hr (h.symm.trans hr) ⟨rfl, rfl⟩
  | error e u => exact .error e u u hr (h.symm.trans hr) rfl

/-- What is known of the left run, beside what the two have in common. -/
theorem alike_and_ends (x : EStateM ε σ α) (y : EStateM ε σ β) (s t : σ)
    (returned : α → σ → β → σ → Prop) (raised : ε → σ → σ → Prop) (okPost : α → σ → Prop)
    (errorPost : ε → σ → Prop) (h : EndAlike x y s t returned raised)
    (hx : Ends x s okPost errorPost) :
    EndAlike x y s t (fun a u b v => returned a u b v ∧ okPost a u)
      fun e u v => raised e u v ∧ errorPost e u := by
  cases h with
  | ok a u b v hx' hy h => exact .ok a u b v hx' hy ⟨h, ends_returns _ _ _ _ _ _ hx hx'⟩
  | error e u v hx' hy h => exact .error e u v hx' hy ⟨h, ends_raises _ _ _ _ _ _ hx hx'⟩

theorem alike_and_ends_right (x : EStateM ε σ α) (y : EStateM ε σ β) (s t : σ)
    (returned : α → σ → β → σ → Prop) (raised : ε → σ → σ → Prop) (okPost : β → σ → Prop)
    (errorPost : ε → σ → Prop) (h : EndAlike x y s t returned raised)
    (hy : Ends y t okPost errorPost) :
    EndAlike x y s t (fun a u b v => returned a u b v ∧ okPost b v)
      fun e u v => raised e u v ∧ errorPost e v := by
  cases h with
  | ok a u b v hx hy' h => exact .ok a u b v hx hy' ⟨h, ends_returns _ _ _ _ _ _ hy hy'⟩
  | error e u v hx hy' h => exact .error e u v hx hy' ⟨h, ends_raises _ _ _ _ _ _ hy hy'⟩

theorem alike_zoom (view : τ → σ) (put : σ → τ → τ) (x : EStateM ε σ α) (y : EStateM ε σ β)
    (s t : τ) (returned : α → τ → β → τ → Prop) (raised : ε → τ → τ → Prop)
    (h : EndAlike x y (view s) (view t) (fun a u b v => returned a (put u s) b (put v t))
      fun e u v => raised e (put u s) (put v t)) :
    EndAlike (zoom view put x) (zoom view put y) s t returned raised := by
  cases h with
  | ok a u b v hx hy h =>
    exact .ok a _ b _ (zoom_of_ok view put x s a u hx) (zoom_of_ok view put y t b v hy) h
  | error e u v hx hy h =>
    exact .error e _ _ (zoom_of_error view put x s e u hx) (zoom_of_error view put y t e v hy) h

/-- A decided end is a decided pair of postconditions. -/
instance (x : EStateM ε σ α) (s : σ) (returned : α → σ → Prop) (raised : ε → σ → Prop)
    [∀ a t, Decidable (returned a t)] [∀ e t, Decidable (raised e t)] :
    Decidable (Ends x s returned raised) :=
  match hx : x s with
  | .ok a t => decidable_of_iff (returned a t)
      ⟨fun h => .ok a t hx h, fun h => ends_returns x s t a returned raised h hx⟩
  | .error e t => decidable_of_iff (raised e t)
      ⟨fun h => .error e t hx h, fun h => ends_raises x s t e returned raised h hx⟩

end ObsPlatform.Stateful

namespace ObsPlatform.UnitOfWork

open Stateful

variable {σ ℓ ε α β : Type}

/-! ### Sessions without a transaction -/

def Session.tidied (s : Session σ) : Session σ := { s with working := s.view }

theorem tidied_view (s : Session σ) : s.tidied.view = s.view := by
  cases h : s.inTransaction with
  | true => rw [view_of_open s h, view_of_open s.tidied h, Session.tidied, view_of_open s h]
  | false => rw [view_of_closed s h, view_of_closed s.tidied h, Session.tidied]

theorem execute_tidied (db : Backend σ ℓ ε) (label : ℓ) (f : σ → α × σ) (s : Session σ) :
    (execute db label f : Work ε σ α) s.tidied = execute db label f s := by
  unfold execute
  rw [tidied_view]
  rfl

/-- Two sessions that no statement tells apart. -/
theorem execute_congr (db : Backend σ ℓ ε) (label : ℓ) (f : σ → α × σ) (s t : Session σ)
    (h : s.tidied = t.tidied) :
    (execute db label f : Work ε σ α) s = execute db label f t := by
  rw [← execute_tidied db label f s, h, execute_tidied]

theorem opened_congr (s t : Session σ) (h : s.tidied = t.tidied) : s.opened = t.opened := by
  have hs : s.tidied.opened = s.opened := rfl
  have ht : t.tidied.opened = t.opened := rfl
  rw [← hs, h, ht]

theorem inTransaction_congr (s t : Session σ) (h : s.tidied = t.tidied) :
    s.inTransaction = t.inTransaction := by
  show s.tidied.inTransaction = t.tidied.inTransaction
  rw [h]

theorem committed_congr (s t : Session σ) (h : s.tidied = t.tidied) :
    s.committed = t.committed := by
  show s.tidied.committed = t.tidied.committed
  rw [h]

theorem statements_congr (s t : Session σ) (h : s.tidied = t.tidied) :
    s.statements = t.statements := by
  show s.tidied.statements = t.tidied.statements
  rw [h]

/-- The session after a rollback. -/
def Session.rolledBack (s : Session σ) : Session σ :=
  { s with inTransaction := false }

theorem rolledBack_tidied (s t : Session σ) (hcommitted : s.committed = t.committed)
    (hstatements : s.statements = t.statements) : s.rolledBack.tidied = t.rolledBack.tidied := by
  simp only [Session.tidied, Session.rolledBack, Session.view, Bool.false_eq_true, if_false,
    hcommitted, hstatements]

/-- Two transactions whose bodies end alike. -/
theorem alike_transaction (raised : ε) (x : Work ε σ α) (y : Work ε σ β)
    (s t : Session σ) (returned : α → Session σ → β → Session σ → Prop)
    (failed : ε → Session σ → Session σ → Prop) (hs : s.inTransaction = false)
    (ht : t.inTransaction = false)
    (h : EndAlike x y s.opened t.opened
      (fun a u b v => returned a { u with committed := u.view, inTransaction := false } b
        { v with committed := v.view, inTransaction := false })
      fun e u v => failed e u.rolledBack v.rolledBack) :
    EndAlike (transaction raised x) (transaction raised y) s t returned failed := by
  cases h with
  | ok a u b v hx hy h =>
    exact .ok a _ b _ (transaction_of_ok raised x s u a hs hx)
      (transaction_of_ok raised y t v b ht hy) h
  | error e u v hx hy h =>
    exact .error e _ _ (transaction_of_error raised x s u e hs hx)
      (transaction_of_error raised y t v e ht hy) h

/-- Two statements that the server accepts. -/
theorem alike_accepted (db : Backend σ ℓ ε) (label : ℓ) (f : σ → α × σ) (g : σ → β × σ)
    (s t : Session σ) (returned : α → Session σ → β → Session σ → Prop)
    (failed : ε → Session σ → Session σ → Prop)
    (hs : db.verdict s.statements label s.view (f s.view).2 = none)
    (ht : db.verdict t.statements label t.view (g t.view).2 = none)
    (h : returned (f s.view).1 (s.spoken (f s.view).2) (g t.view).1 (t.spoken (g t.view).2)) :
    EndAlike (execute db label f) (execute db label g) s t returned failed := by
  have hx : (execute db label f : Work ε σ α) s = .ok (f s.view).1 (s.spoken (f s.view).2) := by
    simp only [execute, hs, Session.spoken]
  have hy : (execute db label g : Work ε σ β) t = .ok (g t.view).1 (t.spoken (g t.view).2) := by
    simp only [execute, ht, Session.spoken]
  exact .ok _ _ _ _ hx hy h

end ObsPlatform.UnitOfWork
