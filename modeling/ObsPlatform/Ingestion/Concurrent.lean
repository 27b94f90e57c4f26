import ObsPlatform.Ingestion.Effect
import ObsPlatform.Lib.Locking

/-!
# Concurrent ingestions of one run

An ingestion as a thread: the guard reads before the upsert of the run's row takes the
row lock, which the transaction keeps to its end. Run with nobody else the thread is
`ingestRunEvent`.
-/

namespace ObsPlatform.Ingestion

open Telemetry Db UnitOfWork Stateful

/- READ COMMITTED: a statement outside the lock sees the latest commit. -/
def committedPart : SharedPart Store DbSession where
  install := fun store s => { s with committed := store, working := store }
  published := Session.committed
  published_install := fun _ _ => rfl
  install_install := fun _ _ _ => rfl

abbrev IngestThread (α : Type) := Thread Access Error DbSession α

/-! ### The statements of an ingestion -/

section Statements
variable (db : Database)

def upsertSpansThread (runId : String) : List Telemetry.Span → SpanIds → IngestThread SpanIds
  | [], spanIds => pure spanIds
  | span :: spans, spanIds => do
    let returned ← .atomic .held (execute db.backend .span fun store =>
      ((upsertSpanRow runId span store.spans).1,
        { store with spans := (upsertSpanRow runId span store.spans).2 }))
    upsertSpansThread runId spans (returned :: spanIds)

def forEachResolvedThread {χ κ : Type} (resolve : χ → SessionM κ)
    (statement : χ → κ → SessionM Unit) : List χ → IngestThread Unit
  | [] => pure ()
  | item :: items => do
    let found ← .atomic .held (resolve item)
    .atomic .held (statement item found)
    forEachResolvedThread resolve statement items

/- The statements that follow the upsert of the run's row. -/
def childStatementsThread (event : ExtendedRunEvent) : IngestThread Unit := do
  let spanIds ← upsertSpansThread db event.runId event.spans []
  forEachResolvedThread (fun span => parentIdOf spanIds span.parentSpanId)
    (fun span parentSpanId => update db .spanParent fun store =>
      { store with spans := setSpanParent event.runId span.spanId parentSpanId store.spans })
    event.spans
  forEachResolvedThread (fun toolCall => spanIdOf spanIds toolCall.spanId)
    (upsertToolCall db event.runId) event.toolCalls
  forEachResolvedThread (fun llmCall => spanIdOf spanIds llmCall.spanId)
    (upsertLlmCall db event.runId) event.llmCalls
  .atomic .held (refreshRunUsageTotals db event.runId)

def lockedStatementsThread (event : ExtendedRunEvent) (now : Timestamp) : IngestThread Unit := do
  .atomic .acquire (upsertAgentRun db event now)
  childStatementsThread db event

/- The transaction after its begin. -/
def committedThread (event : ExtendedRunEvent) (statements : IngestThread Unit) :
    IngestThread IngestRunResult := do
  tryCatch
    (do
      statements
      .atomic .release commit)
    fun e => do
      .atomic .release rollback
      throw e
  return { runId := event.runId, eventType := event.eventType, status := event.status }

def guardedThread (event : ExtendedRunEvent) (now : Timestamp) : IngestThread IngestRunResult :=
  committedThread event (do
    .atomic .free (rejectPendingAfterTerminalHitlState db event)
    lockedStatementsThread db event now)

def begunThread (event : ExtendedRunEvent) (now : Timestamp) : IngestThread IngestRunResult := do
  .atomic .free (beginTransaction .invalidRequest)
  guardedThread db event now

def ingestThread (event : ExtendedRunEvent) : IngestThread IngestRunResult := do
  let now ← .atomic .free (now db)
  begunThread db event now

/-! ### Alone, the thread is the session code -/

theorem upsertSpansThread_run (runId : String) (spans : List Telemetry.Span) (spanIds : SpanIds) :
    (upsertSpansThread db runId spans spanIds).run = upsertSpans db runId spans spanIds := by
  induction spans generalizing spanIds with
  | nil => rfl
  | cons span spans ih =>
    simp only [upsertSpansThread, upsertSpans, Thread.run_bind, Thread.run_atomic, ih]

theorem forEachResolvedThread_run {χ κ : Type} (resolve : χ → SessionM κ)
    (statement : χ → κ → SessionM Unit) (items : List χ) :
    (forEachResolvedThread resolve statement items).run =
      forEachResolved resolve statement items := by
  induction items with
  | nil => rfl
  | cons item items ih =>
    simp only [forEachResolvedThread, forEachResolved, Thread.run_bind, Thread.run_atomic, ih]

theorem ingestThread_run (event : ExtendedRunEvent) :
    (ingestThread db event).run = ingestRunEvent db event := by
  simp only [ingestThread, begunThread, guardedThread, committedThread, lockedStatementsThread, childStatementsThread,
    Thread.run_bind, Thread.run_tryCatch, Thread.run_atomic, Thread.run_pure, Thread.run_throw,
    upsertSpansThread_run, forEachResolvedThread_run, ingestRunEvent, transaction,
    ingestStatements, resolveSpanParents, bind_assoc, bind_pure_unit]

/-! ### The thread is a transaction under the lock -/

theorem quiet_execute {α : Type} (label : Statement) (f : Store → α × Store) :
    Quiet committedPart (after (execute db.backend label f : SessionM α)) := by
  intro s
  cases hv : db.backend.verdict s.statements label s.view (f s.view).2 with
  | none => simp only [after, execute, hv, committedPart]
  | some e => simp only [after, execute, hv, committedPart]

theorem quiet_read {α : Type} (f : Store → α) : Quiet committedPart (after (read db f)) :=
  quiet_execute db .read fun store => (f store, store)

theorem quiet_update (label : Statement) (f : Store → Store) :
    Quiet committedPart (after (update db label f)) :=
  quiet_execute db label fun store => ((), f store)

theorem quiet_bind {α β : Type} (x : SessionM α) (f : α → SessionM β)
    (hx : Quiet committedPart (after x)) (hf : ∀ a, Quiet committedPart (after (f a))) :
    Quiet committedPart (after (x >>= f)) :=
  fun s => after_bind (fun t => t.committed = s.committed) x f s (hx s)
    fun a t _ ht => (hf a t).trans ht

theorem quiet_beginTransaction :
    Quiet committedPart (after (beginTransaction .invalidRequest : SessionM Unit)) := by
  intro s
  cases hs : s.inTransaction with
  | false => simp [after, beginTransaction, hs, committedPart]
  | true => simp [after, beginTransaction, hs, committedPart]

theorem quiet_guard (event : ExtendedRunEvent) :
    Quiet committedPart (after (rejectPendingAfterTerminalHitlState db event)) := by
  unfold rejectPendingAfterTerminalHitlState
  by_cases hp : event.hitl.state = .pending
  · rw [if_neg (not_not.mpr hp)]
    apply quiet_bind _ _ (quiet_read db _)
    intro stored
    rcases stored with _ | _ | _ | _ | _ <;> exact fun _ => rfl
  · rw [if_pos hp]
    exact fun _ => rfl

theorem quiet_spanIdOf (spanIds : SpanIds) (key : String) :
    Quiet committedPart (after (spanIdOf spanIds key)) := by
  unfold spanIdOf
  cases spanIds.lookup key <;> exact fun _ => rfl

theorem quiet_parentIdOf (spanIds : SpanIds) (parent : Option String) :
    Quiet committedPart (after (parentIdOf spanIds parent)) := by
  cases parent with
  | none => exact fun _ => rfl
  | some parent => exact quiet_bind _ _ (quiet_spanIdOf spanIds parent) fun _ _ => rfl

/-- Steps under the lock that publish nothing. -/
abbrev HeldQuietly (access : Access) (act : DbSession → DbSession) : Prop :=
  access = .held ∧ Quiet committedPart act

theorem upsertSpansThread_held (runId : String) (spans : List Telemetry.Span) (spanIds : SpanIds) :
    (upsertSpansThread db runId spans spanIds).Each HeldQuietly := by
  induction spans generalizing spanIds with
  | nil => exact .done _
  | cons span spans ih =>
    apply Thread.each_bind
    · exact Thread.each_atomic _ _ _ ⟨rfl, quiet_execute db .span _⟩
    · exact fun returned => ih _

theorem forEachResolvedThread_held {χ κ : Type} (resolve : χ → SessionM κ)
    (statement : χ → κ → SessionM Unit) (items : List χ)
    (hresolve : ∀ item, Quiet committedPart (after (resolve item)))
    (hstatement : ∀ item found, Quiet committedPart (after (statement item found))) :
    (forEachResolvedThread resolve statement items).Each HeldQuietly := by
  induction items with
  | nil => exact .done _
  | cons item items ih =>
    apply Thread.each_bind
    · exact Thread.each_atomic _ _ _ ⟨rfl, hresolve item⟩
    intro found
    apply Thread.each_bind
    · exact Thread.each_atomic _ _ _ ⟨rfl, hstatement item found⟩
    · exact fun _ => ih

theorem childStatementsThread_held (event : ExtendedRunEvent) :
    (childStatementsThread db event).Each HeldQuietly := by
  apply Thread.each_bind
  · exact upsertSpansThread_held db event.runId event.spans []
  intro spanIds
  apply Thread.each_bind
  · exact forEachResolvedThread_held _ _ _ (fun span => quiet_parentIdOf spanIds span.parentSpanId)
      fun _ _ => quiet_update db .spanParent _
  intro _
  apply Thread.each_bind
  · exact forEachResolvedThread_held _ _ _ (fun toolCall => quiet_spanIdOf spanIds toolCall.spanId)
      fun _ _ => quiet_update db .toolCall _
  intro _
  apply Thread.each_bind
  · exact forEachResolvedThread_held _ _ _ (fun llmCall => quiet_spanIdOf spanIds llmCall.spanId)
      fun _ _ => quiet_update db .llmCall _
  intro _
  exact Thread.each_atomic _ _ _ ⟨rfl, quiet_update db .usageTotals _⟩

/- A transaction whose statements raised: it rolls back and raises. -/
theorem committedThread_raised (event : ExtendedRunEvent) (e : Error) :
    Settled committedPart (.error e) (committedThread event (.done (.error e))) :=
  .step .release _ _ (.inr rfl) (fun _ => rfl) fun _ => .done

theorem committedThread_holding (event : ExtendedRunEvent) (statements : IngestThread Unit)
    (h : statements.Each HeldQuietly) :
    Holding committedPart (committedThread event statements) := by
  simp only [committedThread, bind, tryCatch, tryCatchThe, MonadExceptOf.tryCatch,
    Thread.followedBy_assoc]
  apply holding_followedBy committedPart statements _ h
  intro result
  cases result with
  | ok _ => exact .release _ _ fun _ => ⟨_, .done⟩
  | error e => exact .release _ _ fun _ => ⟨_, .done⟩

theorem committedThread_locking (event : ExtendedRunEvent) (now : Timestamp) :
    Opening committedPart (committedThread event (lockedStatementsThread db event now)) := by
  apply Opening.acquire
  · exact quiet_update db .agentRun _
  · intro s
    have hrest : ∀ result : Except Error Unit, Holding committedPart (committedThread event
        ((Thread.done result).followedBy (Thread.onReturn fun _ => childStatementsThread db event))) := by
      intro result
      cases result with
      | ok _ => exact committedThread_holding event _ (childStatementsThread_held db event)
      | error e => exact committedThread_holding event _ (.done _)
    exact hrest _

theorem guardedThread_opening (event : ExtendedRunEvent) (now : Timestamp) :
    Opening committedPart (guardedThread db event now) := by
  apply Opening.free
  · exact quiet_guard db event
  · intro s
    have hrest : ∀ result : Except Error Unit, Opening committedPart (committedThread event
        ((Thread.done result).followedBy
          (Thread.onReturn fun _ => lockedStatementsThread db event now))) := by
      intro result
      cases result with
      | ok _ => exact committedThread_locking db event now
      | error e => exact .settled _ _ (committedThread_raised event e)
    exact hrest _

theorem begunThread_opening (event : ExtendedRunEvent) (now : Timestamp) :
    Opening committedPart (begunThread db event now) := by
  apply opening_free _ _ _ quiet_beginTransaction
  intro s
  cases resultOf (beginTransaction .invalidRequest : SessionM Unit) s with
  | ok _ => exact guardedThread_opening db event now
  | error e => exact .settled _ _ .done

theorem ingestThread_opening (event : ExtendedRunEvent) :
    Opening committedPart (ingestThread db event) :=
  opening_free _ (now db) _ (fun _ => rfl) fun _ => begunThread_opening db event _

end Statements

/-! ### What the guard saw and when -/

section Guard
variable (db : Database) (hreads : ∀ n w w', db.backend.verdict n .read w w' = none)
include hreads

theorem read_accepted {α : Type} (f : Store → α) (s : DbSession) :
    Db.read db f s = .ok (f s.view) (s.spoken s.view) := by
  simp only [Db.read, query, execute, hreads, Session.spoken]

theorem guard_session (event : ExtendedRunEvent) (s : DbSession) :
    after (rejectPendingAfterTerminalHitlState db event) s =
      if event.hitl.state = .pending then s.spoken s.view else s := by
  unfold rejectPendingAfterTerminalHitlState
  by_cases hp : event.hitl.state = .pending
  · rw [if_neg (not_not.mpr hp), if_pos hp]
    simp only [after, bind_of_ok _ _ _ _ _ (read_accepted db hreads _ s)]
    rcases (s.view.agentRuns.find? event.runId).map AgentRun.hitlState with _ | _ | _ | _ | _ <;> rfl
  · rw [if_pos hp, if_neg hp]
    rfl

theorem guard_result (event : ExtendedRunEvent) (s : DbSession) :
    resultOf (rejectPendingAfterTerminalHitlState db event) s = pendingAfterTerminal event s.view := by
  unfold rejectPendingAfterTerminalHitlState pendingAfterTerminal
  by_cases hp : event.hitl.state = .pending
  · rw [if_neg (not_not.mpr hp), if_neg (not_not.mpr hp)]
    simp only [resultOf, bind_of_ok _ _ _ _ _ (read_accepted db hreads _ s)]
    rcases (s.view.agentRuns.find? event.runId).map AgentRun.hitlState with _ | _ | _ | _ | _ <;> rfl
  · rw [if_pos hp, if_pos hp]
    rfl

/-- How far an ingestion has come, and what its session looks like there. -/
inductive Position (event : ExtendedRunEvent) : IngestThread IngestRunResult → DbSession → Prop where
  | ready (store : Store) : Position event (ingestThread db event) (Session.fresh store)
  | begun (store : Store) :
      Position event (begunThread db event (db.clock 0)) (Session.fresh store)
  | guarding (store : Store) :
      Position event (guardedThread db event (db.clock 0)) (Session.fresh store).opened
  | locking (store : Store) :
      Position event (committedThread event (lockedStatementsThread db event (db.clock 0)))
        (after (rejectPendingAfterTerminalHitlState db event) (Session.fresh store).opened)
  | decided (t : IngestThread IngestRunResult) (s : DbSession) (h : Decided committedPart t) :
      Position event t s

omit hreads in
theorem decided_next (access : Access) (act : DbSession → DbSession)
    (next : DbSession → IngestThread IngestRunResult)
    (h : Decided committedPart (.step access act next)) (s : DbSession) :
    Decided committedPart (next s) := by
  cases h with
  | holding h =>
    cases h with
    | held _ _ _ hnext => exact .holding _ (hnext s)
    | release _ _ hnext =>
      obtain ⟨result, hsettled⟩ := hnext s
      exact .settled _ result hsettled
  | settled result h =>
    cases h with
    | step _ _ _ _ _ hnext => exact .settled _ result (hnext s)

omit hreads in
/-- A step outside the lock takes an ingestion from one position to the next. -/
theorem position_step (event : ExtendedRunEvent) (access : Access) (act : DbSession → DbSession)
    (next : DbSession → IngestThread IngestRunResult) (s : DbSession)
    (h : Position db event (.step access act next) s) (store : Store) :
    Position db event (next (committedPart.install store s)) (act (committedPart.install store s)) := by
  generalize ht : Thread.step access act next = t at h
  cases h with
  | ready old =>
    cases ht
    exact .begun store
  | begun old =>
    cases ht
    exact .guarding store
  | guarding old =>
    cases ht
    let guard := rejectPendingAfterTerminalHitlState db event
    have hrest : ∀ result : Except Error Unit, Position db event (committedThread event
        ((Thread.done result).followedBy
          (Thread.onReturn fun _ => lockedStatementsThread db event (db.clock 0))))
        (after guard (Session.fresh store).opened) := by
      intro result
      cases result with
      | ok _ => exact .locking store
      | error e => exact .decided _ _ (.settled _ _ (committedThread_raised event e))
    exact hrest _
  | locking old =>
    cases ht
    have hlocking := committedThread_locking db event (db.clock 0)
    exact .decided _ _ (.holding _ (opening_acquired committedPart _ _ hlocking _))
  | decided _ _ h =>
    rw [← ht] at h
    exact .decided _ _ (decided_next access act next h _)

/-- Up to its guard an ingestion is always valid, and after it when the guard would still
pass. -/
theorem position_valid (event : ExtendedRunEvent) (t : IngestThread IngestRunResult) (s : DbSession)
    (h : Position db event t s) (hundecided : ¬ Decided committedPart t) (store : Store)
    (hpasses : (∀ now, t ≠ committedThread event (lockedStatementsThread db event now)) ∨
      pendingAfterTerminal event store = .ok ()) (old : Store) :
    t.run (committedPart.install store s) =
      (ingestThread db event).run (committedPart.install store (Session.fresh old)) := by
  cases h with
  | ready _ => rfl
  | begun _ => rfl
  | guarding _ => rfl
  | locking read =>
    have hpasses := hpasses.resolve_left fun hother => hother _ rfl
    have hsession : committedPart.install store
        (after (rejectPendingAfterTerminalHitlState db event) (Session.fresh read).opened) =
        after (rejectPendingAfterTerminalHitlState db event) (Session.fresh store).opened := by
      rw [guard_session db hreads, guard_session db hreads]
      by_cases hp : event.hitl.state = .pending
      · rw [if_pos hp, if_pos hp]
        rfl
      · rw [if_neg hp, if_neg hp]
        rfl
    have hresult : resultOf (rejectPendingAfterTerminalHitlState db event)
        (Session.fresh store).opened = .ok () := by
      rw [guard_result db hreads]
      exact hpasses
    have hguarded : (ingestThread db event).run (committedPart.install store (Session.fresh old)) =
        (committedThread event ((Thread.done (resultOf (rejectPendingAfterTerminalHitlState db event)
          (Session.fresh store).opened)).followedBy
            (Thread.onReturn fun _ => lockedStatementsThread db event (db.clock 0)))).run
          (after (rejectPendingAfterTerminalHitlState db event) (Session.fresh store).opened) := rfl
    rw [hsession, hguarded, hresult]
    rfl
  | decided _ _ h => exact absurd h hundecided

end Guard

/-! ### Any number of ingestions -/

theorem position_undecided (db : Database) (event : ExtendedRunEvent)
    (t : IngestThread IngestRunResult) (s : DbSession) (h : Position db event t s) :
    Opening committedPart t ∨ Decided committedPart t := by
  cases h with
  | ready _ => exact .inl (ingestThread_opening db event)
  | begun _ => exact .inl (begunThread_opening db event _)
  | guarding _ => exact .inl (guardedThread_opening db event _)
  | locking _ => exact .inl (committedThread_locking db event _)
  | decided _ _ h => exact .inr h

/-- One ingestion alone: what it returns or raises, and the store it commits. -/
def ingestAlone (db : Database) (event : ExtendedRunEvent) (store : Store) :
    Except Error IngestRunResult × Store :=
  (resultOf (ingestRunEvent db event) (Session.fresh store),
    (after (ingestRunEvent db event) (Session.fresh store)).committed)

section System
variable {ι : Type} [DecidableEq ι] (db : ι → Database) (event : ι → ExtendedRunEvent)

abbrev IngestionWorld (ι : Type) := World ι Store Error DbSession IngestRunResult

/-- Every ingestion on a session of its own, none begun. -/
def ingestionWorld (store : Store) : IngestionWorld ι :=
  .start (fun _ => Session.fresh store) (fun i => ingestThread (db i) (event i)) store

/-- A pending snapshot gets the row lock of the run while its stored hitl_state is not a
decision. -/
def GuardStands (runId : String) (u : IngestionWorld ι) (i : ι) (v : IngestionWorld ι) : Prop :=
  (event i).hitl.state = .pending → u.holder ≠ some i → v.holder = some i →
    ∀ run ∈ u.shared.agentRuns.find? runId, run.hitlState ≠ .approved ∧ run.hitlState ≠ .rejected

instance (runId : String) (u : IngestionWorld ι) (i : ι) (v : IngestionWorld ι) :
    Decidable (GuardStands event runId u i v) :=
  inferInstanceAs (Decidable (_ → _ → _ → _))

/-- Every ingestion is at its position, and the one with the lock is decided. -/
def Placed (w : IngestionWorld ι) : Prop :=
  ∀ i, Position (db i) (event i) (w.threads i) (w.sessions i) ∧
    (w.holder = some i → Decided committedPart (w.threads i))

theorem placed_step (u v : IngestionWorld ι) (i : ι) (h : Placed db event u)
    (hstep : u.step committedPart i = some v) : Placed db event v := by
  obtain ⟨access, act, next, hmoved⟩ := step_moved committedPart u v i hstep
  have hposition := (h i).1
  rw [hmoved.thread] at hposition
  intro j
  by_cases hj : j = i
  · subst hj
    rw [hmoved.rest, hmoved.session]
    by_cases hheld : u.holder = some j
    · have hdecided := (h j).2 hheld
      rw [hmoved.thread] at hdecided
      have hnext := decided_next access act next hdecided (u.seen committedPart j)
      exact ⟨.decided _ _ hnext, fun _ => hnext⟩
    · have hseen : u.seen committedPart j = committedPart.install u.shared (u.sessions j) :=
        if_neg hheld
      rw [hseen]
      refine ⟨position_step (db j) (event j) access act next _ hposition u.shared, ?_⟩
      intro htaken
      rw [hmoved.holder] at htaken
      cases access with
      | free => exact absurd htaken hheld
      | held => exact absurd hmoved.enabled hheld
      | release =>
        rw [World.holderAfter, if_neg hheld] at htaken
        exact absurd htaken hheld
      | acquire =>
        rcases position_undecided _ _ _ _ hposition with hopening | hdecided
        · exact .holding _ (opening_acquired committedPart act next hopening _)
        · exact decided_next _ _ _ hdecided _
  · rw [hmoved.otherThreads j hj, hmoved.otherSessions j hj]
    refine ⟨(h j).1, ?_⟩
    intro hheld
    apply (h j).2
    rw [hmoved.holder] at hheld
    cases access with
    | free => exact hheld
    | held => exact hheld
    | acquire => exact absurd (Option.some.inj hheld).symm hj
    | release =>
      by_cases hown : u.holder = some i
      · rw [World.holderAfter, if_pos hown] at hheld
        cases hheld
      · rw [World.holderAfter, if_neg hown] at hheld
        exact hheld

theorem pendingAfterTerminal_passes (event : ExtendedRunEvent) (store : Store)
    (h : event.hitl.state = .pending → ∀ run ∈ store.agentRuns.find? event.runId,
      run.hitlState ≠ .approved ∧ run.hitlState ≠ .rejected) :
    pendingAfterTerminal event store = .ok () := by
  unfold pendingAfterTerminal
  by_cases hp : event.hitl.state = .pending
  · rw [if_neg (not_not.mpr hp)]
    cases hrun : store.agentRuns.find? event.runId with
    | none => rfl
    | some run =>
      obtain ⟨happroved, hrejected⟩ := h hp run hrun
      cases hstate : run.hitlState with
      | notRequired => simp only [Option.map_some, hstate]
      | pending => simp only [Option.map_some, hstate]
      | approved => exact absurd hstate happroved
      | rejected => exact absurd hstate hrejected
  · rw [if_pos hp]

theorem placed_decides (hreads : ∀ i n w w', (db i).backend.verdict n .read w w' = none)
    (runId : String) (hrun : ∀ i, (event i).runId = runId) (store : Store) (u v : IngestionWorld ι)
    (i : ι) (h : Placed db event u) (hstep : u.step committedPart i = some v)
    (hguard : GuardStands event runId u i v) :
    DecidesValidly committedPart (fun _ => Session.fresh store)
      (fun i => ingestThread (db i) (event i)) u i v := by
  obtain ⟨access, act, next, hmoved⟩ := step_moved committedPart u v i hstep
  intro hundecided _
  apply position_valid (db i) (hreads i) (event i) _ _ (h i).1 hundecided u.shared
  by_cases hlocking : ∃ now,
      u.threads i = committedThread (event i) (lockedStatementsThread (db i) (event i) now)
  · obtain ⟨now, hthread⟩ := hlocking
    rw [hmoved.thread] at hthread
    have haccess : access = .acquire := by
      injection hthread
    have htaken : v.holder = some i := by
      rw [hmoved.holder, haccess]
      rfl
    refine .inr (pendingAfterTerminal_passes (event i) u.shared ?_)
    rw [hrun i]
    exact fun hp => hguard hp (fun hheld => hundecided ((h i).2 hheld)) htaken
  · exact .inl fun now hthread => hlocking ⟨now, hthread⟩

theorem ingestion_interleaving (hreads : ∀ i n w w', (db i).backend.verdict n .read w w' = none)
    (runId : String) (hrun : ∀ i, (event i).runId = runId) (store : Store) (w : IngestionWorld ι)
    (h : Interleaving committedPart (GuardStands event runId) (ingestionWorld db event store) w) :
    Placed db event w ∧ Interleaving committedPart (DecidesValidly committedPart
      (fun _ => Session.fresh store) (fun i => ingestThread (db i) (event i)))
      (ingestionWorld db event store) w := by
  induction h with
  | start => exact ⟨fun i => ⟨.ready store, nofun⟩, .start _⟩
  | step u v i _ hstep hguard ih =>
    obtain ⟨hplaced, hvalid⟩ := ih
    refine ⟨placed_step db event u v i hplaced hstep, .step _ u v i hvalid hstep ?_⟩
    exact placed_decides db event hreads runId hrun store u v i hplaced hstep hguard

/-- Ingestions of one run whose statements interleave in any way commit the store and
raise the errors of a serial order, if no pending snapshot gets the row lock after a
decision was committed that its guard did not see. -/
theorem concurrent_ingestions_serialisable (runId : String)
    (hreads : ∀ i n w w', (db i).backend.verdict n .read w w' = none)
    (hrun : ∀ i, (event i).runId = runId) (store : Store) (w : IngestionWorld ι)
    (h : Interleaving committedPart (GuardStands event runId) (ingestionWorld db event store) w)
    (results : ι → Except Error IngestRunResult) (hdone : ∀ i, w.threads i = .done (results i)) :
    ∃ order : List ι, order.Nodup ∧ (∀ i, i ∈ order) ∧
      serially (fun i => ingestAlone (db i) (event i)) order store =
        (order.map fun i => (i, results i), w.shared) := by
  obtain ⟨order, hnodup, hall, hserial⟩ := serialisable committedPart (fun _ => Session.fresh store)
    (fun i => ingestThread (db i) (event i)) store (fun i => ingestThread_opening (db i) (event i)) w
    (ingestion_interleaving db event hreads runId hrun store w h).2 results hdone nofun
  refine ⟨order, hnodup, hall, ?_⟩
  rw [← hserial]
  congr 1
  funext i u
  simp only [alone, ingestThread_run, ingestAlone]
  rfl

end System

/-! ### Two ingestions -/

/- Two servers that refuse nothing, and a run that waits for a decision. -/
def twoServers : Bool → Database := fun _ => .plain

def pendingStore : Store := (ingestAlone .plain (pendingEvent "run-1") Store.empty).2

theorem results_of_ended {ι : Type} (w : IngestionWorld ι)
    (h : ∀ i, (w.threads i).result?.isSome) :
    ∃ results : ι → Except Error IngestRunResult, ∀ i, w.threads i = .done (results i) := by
  have hresult : ∀ i, ∃ result, w.threads i = .done result := by
    intro i
    obtain ⟨result, hresult⟩ := Option.isSome_iff_exists.mp (h i)
    exact ⟨result, Thread.done_of_result? _ result hresult⟩
  choose results hresults using hresult
  exact ⟨results, hresults⟩

/- The pending snapshot is sent again while the decision arrives. -/
def racingEvents : Bool → ExtendedRunEvent
  | true => pendingEvent "run-1"
  | false => approvedEvent "run-1"

/- Their statements alternate, and the pending snapshot gets the lock first. -/
def decidedWorld : IngestionWorld Bool :=
  (ingestionWorld twoServers racingEvents pendingStore).play committedPart
    ((List.range 60).map fun k => k % 2 = 0)

theorem concurrent_ingestions_serialisable_decided :
    ∃ results : Bool → Except Error IngestRunResult,
      (∀ i, decidedWorld.threads i = .done (results i)) ∧
      ∃ order : List Bool, order.Nodup ∧ (∀ i, i ∈ order) ∧
        serially (fun i => ingestAlone (twoServers i) (racingEvents i)) order pendingStore =
          (order.map fun i => (i, results i), decidedWorld.shared) := by
  obtain ⟨results, hdone⟩ := results_of_ended decidedWorld (by decide +kernel)
  have hguarded : Interleaving committedPart (GuardStands racingEvents "run-1")
      (ingestionWorld twoServers racingEvents pendingStore) decidedWorld :=
    interleaving_play committedPart _ _ _ _ (.start _) (by decide +kernel)
  exact ⟨results, hdone, concurrent_ingestions_serialisable twoServers racingEvents "run-1"
    (fun _ _ _ _ => rfl) (fun i => by cases i <;> rfl) pendingStore decidedWorld hguarded results
    hdone⟩

/- Its guard reads first, and the decision commits before it gets the lock. -/
def racedWorld : IngestionWorld Bool :=
  (ingestionWorld twoServers racingEvents pendingStore).play committedPart
    ([true, true, true] ++ List.replicate 30 false ++ List.replicate 30 true)

theorem both_orders (order : List Bool) (hnodup : order.Nodup) (hall : ∀ i, i ∈ order) :
    order = [true, false] ∨ order = [false, true] := by
  have hlength := hnodup.length_le_card
  have htrue := hall true
  have hfalse := hall false
  rcases order with _ | ⟨a, _ | ⟨b, _ | ⟨c, order⟩⟩⟩
  · cases htrue
  · cases a <;> simp at htrue hfalse
  · cases a <;> cases b <;> simp at htrue hfalse hnodup ⊢
  · simp at hlength

/-- The pending snapshot overwrites the committed decision, and no order of the two
ingestions gives that store and these results. -/
theorem pending_overwrites_approved :
    ∃ results : Bool → Except Error IngestRunResult,
      Interleaving committedPart (fun _ _ _ => True)
        (ingestionWorld twoServers racingEvents pendingStore) racedWorld ∧
      (∀ i, racedWorld.threads i = .done (results i)) ∧
      (racedWorld.shared.agentRuns.find? "run-1").map AgentRun.hitlState = some .pending ∧
      ¬ ∃ order : List Bool, order.Nodup ∧ (∀ i, i ∈ order) ∧
        serially (fun i => ingestAlone (twoServers i) (racingEvents i)) order pendingStore =
          (order.map fun i => (i, results i), racedWorld.shared) := by
  obtain ⟨results, hdone⟩ := results_of_ended racedWorld (by decide +kernel)
  have hstored : (racedWorld.shared.agentRuns.find? "run-1").map AgentRun.hitlState =
      some .pending := by decide +kernel
  have hreturned : (racedWorld.threads true).result? =
      some (.ok ⟨"run-1", .runAwaitingApproval, .awaitingApproval⟩) := by decide +kernel
  have hplayed : Interleaving committedPart (fun _ _ _ => True)
      (ingestionWorld twoServers racingEvents pendingStore) racedWorld :=
    interleaving_play committedPart _ _ _ _ (.start _) (meets_true committedPart _ _)
  generalize racedWorld = w at hdone hstored hreturned hplayed ⊢
  refine ⟨results, hplayed, hdone, hstored, ?_⟩
  intro hserial
  obtain ⟨order, hnodup, hall, hserial⟩ := hserial
  rcases both_orders order hnodup hall with rfl | rfl
  · have happroved : ((serially (fun i => ingestAlone (twoServers i) (racingEvents i)) [true, false]
        pendingStore).2.agentRuns.find? "run-1").map AgentRun.hitlState = some .approved := by
      decide +kernel
    rw [hserial, hstored] at happroved
    cases happroved
  · have hrejected : (serially (fun i => ingestAlone (twoServers i) (racingEvents i)) [false, true]
        pendingStore).1.lookup true = some (.error (movedBackToPending "run-1" .approved)) := by
      decide +kernel
    rw [hdone true] at hreturned
    rw [hserial] at hrejected
    simp only [Thread.result?, Option.some.injEq] at hreturned
    simp [List.lookup, hreturned] at hrejected

end ObsPlatform.Ingestion
