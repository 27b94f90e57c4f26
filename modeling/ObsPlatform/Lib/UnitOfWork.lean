import ObsPlatform.Lib.Stateful

/-!
# A unit-of-work session over a transactional store

One session holds at most one open transaction. A statement begins one when none
is open, reads and writes the transaction's own copy of the store, and may be
refused by the server; `commit` publishes the copy, `rollback` drops it. The session
keeps no rows of its own: whatever is read is a statement.

A `Block` is a computation made of statements only: it neither commits nor rolls
back, and unless the server refuses one of its statements it computes a pure
function of the store. `transaction_returns` and `transaction_raises` say what a
block does between `begin` and its commit or rollback.
-/

namespace ObsPlatform.UnitOfWork

open Stateful

variable {σ ℓ ε α β : Type}

structure Session (σ : Type) where
  committed : σ
  working : σ
  inTransaction : Bool
  statements : ℕ

/-- The server's answer to statement number `n` of a session, which would turn the
first store into the second: refuse it with an error, or not. -/
structure Backend (σ ℓ ε : Type) where
  verdict : ℕ → ℓ → σ → σ → Option ε

/-- No statement is ever refused. -/
def Backend.Accepts (db : Backend σ ℓ ε) : Prop := ∀ n l w w', db.verdict n l w w' = none

/-- Some statement was refused with this error. -/
def Backend.Refuses (db : Backend σ ℓ ε) (e : ε) : Prop :=
  ∃ n l w w', db.verdict n l w w' = some e

abbrev Work (ε σ α : Type) := EStateM ε (Session σ) α

/-- A session that has not spoken to the server yet. -/
def Session.fresh (store : σ) : Session σ := ⟨store, store, false, 0⟩

/-- The store the next statement sees. -/
def Session.view (s : Session σ) : σ := if s.inTransaction then s.working else s.committed

theorem view_of_open (s : Session σ) (h : s.inTransaction = true) : s.view = s.working := by
  simp only [Session.view, h, if_true]

theorem view_of_closed (s : Session σ) (h : s.inTransaction = false) :
    s.view = s.committed := by
  simp only [Session.view, h, Bool.false_eq_true, if_false]

/-- One statement: it begins a transaction when none is open. -/
def execute (db : Backend σ ℓ ε) (label : ℓ) (f : σ → α × σ) : Work ε σ α := fun s =>
  match db.verdict s.statements label s.view (f s.view).2 with
  | some e => .error e
      { s with working := s.view, inTransaction := true, statements := s.statements + 1 }
  | none => .ok (f s.view).1
      { s with
        working := (f s.view).2, inTransaction := true, statements := s.statements + 1 }

def query (db : Backend σ ℓ ε) (label : ℓ) (f : σ → α) : Work ε σ α :=
  execute db label fun w => (f w, w)

def write (db : Backend σ ℓ ε) (label : ℓ) (f : σ → σ) : Work ε σ Unit :=
  execute db label fun w => ((), f w)

/-- `session.begin()`: an error when a transaction is already open. -/
def beginTransaction (raised : ε) : Work ε σ Unit := fun s =>
  if s.inTransaction then .error raised s
  else .ok () { s with working := s.committed, inTransaction := true }

def commit : Work ε σ Unit := fun s =>
  .ok () { s with committed := s.view, inTransaction := false }

def rollback : Work ε σ Unit := fun s => .ok () { s with inTransaction := false }

/-- `async with session.begin()`: commit when the body returns, roll back and
re-raise when it raises. -/
def transaction (raised : ε) (body : Work ε σ α) : Work ε σ α := do
  beginTransaction raised
  tryCatch
    (do
      let a ← body
      commit
      pure a)
    (fun e => do
      rollback
      throw e)

/-! ### Blocks of statements -/

/-- `x` is made of statements and computes `f` on the transaction's store. -/
structure Block (db : Backend σ ℓ ε) (x : Work ε σ α) (f : StateT σ (Except ε) α) : Prop where
  frame : ∀ s, s.inTransaction = true →
    (after x s).inTransaction = true ∧ (after x s).committed = s.committed
  returns : ∀ s t a, s.inTransaction = true → x s = .ok a t → f s.working = .ok (a, t.working)
  raises : ∀ s t e, s.inTransaction = true → x s = .error e t →
    f s.working = .error e ∨ db.Refuses e

theorem block_congr (db : Backend σ ℓ ε) (x : Work ε σ α) (f g : StateT σ (Except ε) α)
    (hx : Block db x f) (h : ∀ w, f w = g w) : Block db x g := by
  have hfg : f = g := funext h
  rw [← hfg]
  exact hx

theorem block_pure (db : Backend σ ℓ ε) (a : α) :
    Block db (pure a : Work ε σ α) (pure a) where
  frame := fun s hs => ⟨hs, rfl⟩
  returns := by
    intro s t b _ h
    cases h
    rfl
  raises := by
    intro s t e _ h
    cases h

theorem block_throw (db : Backend σ ℓ ε) (e : ε) :
    Block db (throw e : Work ε σ α) (fun _ => .error e) where
  frame := fun s hs => ⟨hs, rfl⟩
  returns := by
    intro s t b _ h
    cases h
  raises := by
    intro s t e' _ h
    cases h
    exact .inl rfl

theorem block_execute (db : Backend σ ℓ ε) (label : ℓ) (f : σ → α × σ) :
    Block db (execute db label f : Work ε σ α) (fun w => .ok (f w)) where
  frame := by
    intro s _
    cases hv : db.verdict s.statements label s.view (f s.view).2 with
    | none => simp only [after, execute, hv, and_self]
    | some e => simp only [after, execute, hv, and_self]
  returns := by
    intro s t a hs h
    cases hv : db.verdict s.statements label s.view (f s.view).2 with
    | none =>
      simp only [execute, hv] at h
      cases h
      rw [view_of_open s hs]
    | some e =>
      simp only [execute, hv] at h
      cases h
  raises := by
    intro s t e _ h
    cases hv : db.verdict s.statements label s.view (f s.view).2 with
    | none =>
      simp only [execute, hv] at h
      cases h
    | some e' =>
      simp only [execute, hv] at h
      cases h
      exact .inr ⟨_, _, _, _, hv⟩

theorem block_bind (db : Backend σ ℓ ε) (x : Work ε σ α) (y : α → Work ε σ β)
    (f : StateT σ (Except ε) α) (g : α → StateT σ (Except ε) β)
    (hx : Block db x f) (hy : ∀ a, Block db (y a) (g a)) : Block db (x >>= y) (f >>= g) where
  frame := by
    intro s hs
    have h1 := hx.frame s hs
    cases hr : x s with
    | ok a u =>
      rw [after_ok x s u a hr] at h1
      have h2 := (hy a).frame u h1.1
      simp only [after, bind_of_ok x y s u a hr]
      exact ⟨h2.1, h2.2.trans h1.2⟩
    | error e u =>
      rw [after_error x s u e hr] at h1
      rw [after_error (x >>= y) s u e (bind_of_error x y s u e hr)]
      exact h1
  returns := by
    intro s t b hs h
    obtain ⟨a, u, ha, hb⟩ := (bind_returns x y s t b).mp h
    have hu := (hx.frame s hs).1
    rw [after_ok x s u a ha] at hu
    have hf := hx.returns s u a hs ha
    have hg := (hy a).returns u t b hu hb
    show (f s.working >>= fun p => g p.1 p.2) = _
    rw [hf]
    exact hg
  raises := by
    intro s t e hs h
    rcases (bind_raises x y s t e).mp h with hx' | ⟨a, u, ha, hb⟩
    · rcases hx.raises s t e hs hx' with hf | hr
      · refine .inl ?_
        show (f s.working >>= fun p => g p.1 p.2) = _
        rw [hf]
        rfl
      · exact .inr hr
    · have hu := (hx.frame s hs).1
      rw [after_ok x s u a ha] at hu
      have hf := hx.returns s u a hs ha
      rcases (hy a).raises u t e hu hb with hg | hr
      · refine .inl ?_
        show (f s.working >>= fun p => g p.1 p.2) = _
        rw [hf]
        exact hg
      · exact .inr hr

/-! ### Transactions -/

theorem transaction_already_open (raised : ε) (x : Work ε σ α) (s : Session σ)
    (hs : s.inTransaction = true) : transaction raised x s = .error raised s := by
  apply bind_of_error _ _ s s raised
  simp only [beginTransaction, hs, if_true]

/-- The state in which the body of a transaction runs. -/
def Session.opened (s : Session σ) : Session σ :=
  { s with working := s.committed, inTransaction := true }

theorem transaction_of_ok (raised : ε) (x : Work ε σ α) (s u : Session σ) (a : α)
    (hs : s.inTransaction = false) (hx : x s.opened = .ok a u) :
    transaction raised x s =
      .ok a { u with committed := u.view, inTransaction := false } := by
  have hb : (beginTransaction raised : Work ε σ Unit) s = .ok () s.opened := by
    simp only [beginTransaction, hs, Bool.false_eq_true, if_false, Session.opened]
  unfold transaction
  rw [bind_of_ok _ _ s s.opened () hb]
  apply tryCatch_of_ok _ _ _ _ a
  rw [bind_of_ok x _ s.opened u a hx]
  rfl

theorem transaction_of_error (raised : ε) (x : Work ε σ α) (s u : Session σ) (e : ε)
    (hs : s.inTransaction = false) (hx : x s.opened = .error e u) :
    transaction raised x s =
      .error e { u with inTransaction := false } := by
  have hb : (beginTransaction raised : Work ε σ Unit) s = .ok () s.opened := by
    simp only [beginTransaction, hs, Bool.false_eq_true, if_false, Session.opened]
  unfold transaction
  rw [bind_of_ok _ _ s s.opened () hb,
    tryCatch_of_error _ _ s.opened u e (bind_of_error x _ s.opened u e hx)]
  rfl

/-- A returning transaction published what its block computes. -/
theorem transaction_returns (db : Backend σ ℓ ε) (raised : ε) (x : Work ε σ α)
    (f : StateT σ (Except ε) α) (hx : Block db x f) (s t : Session σ) (a : α)
    (h : transaction raised x s = .ok a t) :
    s.inTransaction = false ∧ t.inTransaction = false ∧ f s.committed = .ok (a, t.committed) := by
  cases hs : s.inTransaction with
  | true =>
    rw [transaction_already_open raised x s hs] at h
    cases h
  | false =>
    have hfr := hx.frame s.opened rfl
    cases hr : x s.opened with
    | error e u =>
      rw [transaction_of_error raised x s u e hs hr] at h
      cases h
    | ok b u =>
      rw [after_ok _ _ _ _ hr] at hfr
      have hret := hx.returns s.opened u b rfl hr
      rw [transaction_of_ok raised x s u b hs hr] at h
      cases h
      rw [view_of_open u hfr.1]
      exact ⟨rfl, rfl, hret⟩

/-- A raising transaction published nothing. -/
theorem transaction_raises (db : Backend σ ℓ ε) (raised : ε) (x : Work ε σ α)
    (f : StateT σ (Except ε) α) (hx : Block db x f) (s t : Session σ) (e : ε)
    (h : transaction raised x s = .error e t) :
    t.committed = s.committed ∧
      (s.inTransaction = true ∧ e = raised ∧ t = s ∨
        s.inTransaction = false ∧ t.inTransaction = false ∧
          (f s.committed = .error e ∨ db.Refuses e)) := by
  cases hs : s.inTransaction with
  | true =>
    rw [transaction_already_open raised x s hs] at h
    cases h
    exact ⟨rfl, .inl ⟨rfl, rfl, rfl⟩⟩
  | false =>
    have hfr := hx.frame s.opened rfl
    cases hr : x s.opened with
    | ok b u =>
      rw [transaction_of_ok raised x s u b hs hr] at h
      cases h
    | error e' u =>
      rw [after_error _ _ _ _ hr] at hfr
      have hraise := hx.raises s.opened u e' rfl hr
      rw [transaction_of_error raised x s u e' hs hr] at h
      cases h
      exact ⟨hfr.2, .inr ⟨rfl, rfl, hraise⟩⟩

/-- With a server that accepts every statement, a transaction does what its block
computes. -/
theorem transaction_accepted (db : Backend σ ℓ ε) (raised : ε) (x : Work ε σ α)
    (f : StateT σ (Except ε) α) (hx : Block db x f) (hdb : db.Accepts) (s : Session σ)
    (hs : s.inTransaction = false) (a : α) (w : σ) (hf : f s.committed = .ok (a, w)) :
    ∃ t, transaction raised x s = .ok a t ∧ t.committed = w ∧ t.inTransaction = false := by
  cases hr : transaction raised x s with
  | ok b t =>
    obtain ⟨_, ht, hf'⟩ := transaction_returns db raised x f hx s t b hr
    rw [hf] at hf'
    cases hf'
    exact ⟨t, rfl, rfl, ht⟩
  | error e t =>
    rcases (transaction_raises db raised x f hx s t e hr).2 with ⟨ho, _⟩ | ⟨_, _, hf' | hr'⟩
    · rw [hs] at ho
      cases ho
    · rw [hf] at hf'
      cases hf'
    · obtain ⟨n, l, w, w', hv⟩ := hr'
      rw [hdb n l w w'] at hv
      cases hv

/-! ### What a computation delivers -/

/-- Unless the server refuses one of its statements, the computation returns, in `post`. -/
def Delivers (db : Backend σ ℓ ε) (x : Work ε σ α) (s : Session σ)
    (post : α → Session σ → Prop) : Prop :=
  Ends x s post fun e _ => db.Refuses e

theorem delivers_of_ok (db : Backend σ ℓ ε) (x : Work ε σ α) (s t : Session σ) (a : α)
    (post : α → Session σ → Prop) (hx : x s = .ok a t) (h : post a t) :
    Delivers db x s post :=
  ends_of_ok x s t a _ _ hx h

theorem delivers_bind (db : Backend σ ℓ ε) (x : Work ε σ α) (f : α → Work ε σ β)
    (s : Session σ) (mid : α → Session σ → Prop) (post : β → Session σ → Prop)
    (hx : Delivers db x s mid) (hf : ∀ a t, mid a t → Delivers db (f a) t post) :
    Delivers db (x >>= f) s post :=
  ends_bind x f s mid post _ hx hf

theorem delivers_mono (db : Backend σ ℓ ε) (x : Work ε σ α) (s : Session σ)
    (mid post : α → Session σ → Prop) (hx : Delivers db x s mid)
    (h : ∀ a t, mid a t → post a t) : Delivers db x s post :=
  ends_mono x s mid post _ _ hx h fun _ _ hr => hr

/-- The session after a statement that was not refused. -/
def Session.spoken (s : Session σ) (w : σ) : Session σ :=
  { s with working := w, inTransaction := true, statements := s.statements + 1 }

@[simp] theorem spoken_view (s : Session σ) (w : σ) : (s.spoken w).view = w := rfl

/-- One statement by the server's answer to it. -/
theorem ends_execute (db : Backend σ ℓ ε) (label : ℓ) (f : σ → α × σ) (s : Session σ)
    (returned : α → Session σ → Prop) (raised : ε → Session σ → Prop)
    (hok : db.verdict s.statements label s.view (f s.view).2 = none →
      returned (f s.view).1 (s.spoken (f s.view).2))
    (herr : ∀ e, db.verdict s.statements label s.view (f s.view).2 = some e →
      raised e (s.spoken s.view)) :
    Ends (execute db label f) s returned raised := by
  cases hv : db.verdict s.statements label s.view (f s.view).2 with
  | none =>
    apply ends_of_ok _ s (s.spoken (f s.view).2) (f s.view).1 _ _ _ (hok hv)
    simp only [execute, hv, Session.spoken]
  | some e =>
    apply ends_of_error _ s (s.spoken s.view) e _ _ _ (herr e hv)
    simp only [execute, hv, Session.spoken]

theorem ends_write (db : Backend σ ℓ ε) (label : ℓ) (f : σ → σ) (s : Session σ)
    (returned : Unit → Session σ → Prop) (raised : ε → Session σ → Prop)
    (hok : db.verdict s.statements label s.view (f s.view) = none →
      returned () (s.spoken (f s.view)))
    (herr : ∀ e, db.verdict s.statements label s.view (f s.view) = some e →
      raised e (s.spoken s.view)) : Ends (write db label f) s returned raised :=
  ends_execute db label (fun w => ((), f w)) s _ _ hok herr

theorem delivers_execute (db : Backend σ ℓ ε) (label : ℓ) (f : σ → α × σ) (s : Session σ) :
    Delivers db (execute db label f) s fun a t =>
      a = (f s.view).1 ∧ t = s.spoken (f s.view).2 :=
  ends_execute db label f s _ _ (fun _ => ⟨rfl, rfl⟩) fun _ hv => ⟨_, _, _, _, hv⟩

theorem delivers_query (db : Backend σ ℓ ε) (label : ℓ) (f : σ → α) (s : Session σ) :
    Delivers db (query db label f) s fun a t => a = f s.view ∧ t = s.spoken s.view :=
  delivers_execute db label (fun w => (f w, w)) s

/-- With a server that accepts every statement, what is delivered is returned. -/
theorem delivers_accepted (db : Backend σ ℓ ε) (hdb : db.Accepts) (x : Work ε σ α)
    (s : Session σ) (post : α → Session σ → Prop) (hx : Delivers db x s post) :
    ∃ a t, x s = .ok a t ∧ post a t := by
  cases hx with
  | ok a t hr h => exact ⟨a, t, hr, h⟩
  | error e t hr h =>
    obtain ⟨n, l, w, w', hv⟩ := h
    rw [hdb n l w w'] at hv
    cases hv

/-! ### Store invariants

A session is sound when its committed store and the copy of its open transaction both
satisfy the invariant; then whatever it commits next does too. -/

def Sound (I : σ → Prop) (s : Session σ) : Prop :=
  I s.committed ∧ (s.inTransaction = true → I s.working)

theorem sound_fresh (I : σ → Prop) (w : σ) (h : I w) : Sound I (Session.fresh w : Session σ) :=
  ⟨h, fun _ => h⟩

theorem sound_view (I : σ → Prop) (s : Session σ) (h : Sound I s) : I s.view := by
  cases hs : s.inTransaction with
  | true =>
    rw [view_of_open s hs]
    exact h.2 hs
  | false =>
    rw [view_of_closed s hs]
    exact h.1

/-- A statement keeps the invariant when the server accepts it only if it does. -/
theorem sound_accepted (I : σ → Prop) (db : Backend σ ℓ ε) (label : ℓ) (f : σ → α × σ)
    (hf : ∀ n w, I w → db.verdict n label w (f w).2 = none → I (f w).2) :
    Preserves (Sound I) (execute db label f : Work ε σ α) := by
  intro s hs
  have hview := sound_view I s hs
  cases hv : db.verdict s.statements label s.view (f s.view).2 with
  | none =>
    simp only [after, execute, hv]
    exact ⟨hs.1, fun _ => hf _ _ hview hv⟩
  | some e =>
    simp only [after, execute, hv]
    exact ⟨hs.1, fun _ => hview⟩

theorem sound_execute (I : σ → Prop) (db : Backend σ ℓ ε) (label : ℓ) (f : σ → α × σ)
    (hf : ∀ w, I w → I (f w).2) :
    Preserves (Sound I) (execute db label f : Work ε σ α) :=
  sound_accepted I db label f fun _ w hw _ => hf w hw

theorem sound_query (I : σ → Prop) (db : Backend σ ℓ ε) (label : ℓ) (f : σ → α) :
    Preserves (Sound I) (query db label f : Work ε σ α) :=
  sound_execute I db label _ fun _ h => h

theorem sound_acceptedWrite (I : σ → Prop) (db : Backend σ ℓ ε) (label : ℓ) (f : σ → σ)
    (hf : ∀ n w, I w → db.verdict n label w (f w) = none → I (f w)) :
    Preserves (Sound I) (write db label f : Work ε σ Unit) :=
  sound_accepted I db label (fun w => ((), f w)) hf

theorem sound_write (I : σ → Prop) (db : Backend σ ℓ ε) (label : ℓ) (f : σ → σ)
    (hf : ∀ w, I w → I (f w)) : Preserves (Sound I) (write db label f : Work ε σ Unit) :=
  sound_execute I db label _ hf

theorem sound_commit (I : σ → Prop) : Preserves (Sound I) (commit : Work ε σ Unit) := by
  intro s hs
  refine ⟨sound_view I s hs, ?_⟩
  intro h
  cases h

theorem sound_rollback (I : σ → Prop) : Preserves (Sound I) (rollback : Work ε σ Unit) := by
  intro s hs
  refine ⟨hs.1, ?_⟩
  intro h
  cases h

theorem sound_transaction (I : σ → Prop) (raised : ε) (x : Work ε σ α)
    (hx : Preserves (Sound I) x) : Preserves (Sound I) (transaction raised x) := by
  refine preserves_bind _ _ _ ?_ fun _ => ?_
  · intro s hs
    cases ho : s.inTransaction with
    | true =>
      simp only [after, beginTransaction, ho, if_true]
      exact hs
    | false =>
      simp only [after, beginTransaction, ho, Bool.false_eq_true, if_false]
      exact ⟨hs.1, fun _ => hs.1⟩
  · apply preserves_tryCatch
    · exact preserves_bind _ _ _ hx fun a =>
        preserves_bind _ _ _ (sound_commit I) fun _ => preserves_pure _ a
    · exact fun e => preserves_bind _ _ _ (sound_rollback I) fun _ => preserves_throw _ e

end ObsPlatform.UnitOfWork
