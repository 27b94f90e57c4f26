import ObsPlatform.Ingestion.Runs

/-!
# What an ingestion does to the store

`ingestEffect` is the store transformer of one ingestion when the server refuses no
statement, a composition of one stage for each table. `ingestStatements_block` ties
it to the session code, and `ingestRunEvent_returns` / `ingestRunEvent_raises` say
what a call did to the session it was given.
-/

namespace ObsPlatform.Ingestion

open Telemetry Db UnitOfWork Stateful

/-! ### The stages -/

def pendingAfterTerminal (event : ExtendedRunEvent) (store : Store) : Except Error Unit :=
  if event.hitl.state ≠ .pending then .ok ()
  else match (store.agentRuns.find? event.runId).map AgentRun.hitlState with
    | some .approved => .error (movedBackToPending event.runId .approved)
    | some .rejected => .error (movedBackToPending event.runId .rejected)
    | _ => .ok ()

def upsertSpanRows (runId : String) : List Telemetry.Span → SpanIds → Spans → SpanIds × Spans
  | [], spanIds, t => (spanIds, t)
  | span :: spans, spanIds, t =>
    upsertSpanRows runId spans ((upsertSpanRow runId span t).1 :: spanIds)
      (upsertSpanRow runId span t).2

def lookupSpan (spanIds : SpanIds) (key : String) : Except Error ℕ :=
  match spanIds.lookup key with
  | some id => .ok id
  | none => .error (.keyError (reprText key))

def lookupParent (spanIds : SpanIds) : Option String → Except Error (Option ℕ)
  | none => .ok none
  | some parent => (lookupSpan spanIds parent).map some

/- A loop of writes, each of which first looks something up. -/
def writeEach {χ ι τ : Type} (resolve : χ → Except Error ι) (write : χ → ι → τ → τ) :
    List χ → τ → Except Error τ
  | [], t => .ok t
  | item :: items, t => do
    let found ← resolve item
    writeEach resolve write items (write item found t)

def setSpanParents (runId : String) (spanIds : SpanIds) (spans : List Telemetry.Span) :
    Spans → Except Error Spans :=
  writeEach (fun span => lookupParent spanIds span.parentSpanId)
    (fun span => setSpanParent runId span.spanId) spans

def upsertToolCallRows (runId : String) (spanIds : SpanIds) (toolCalls : List Telemetry.ToolCall) :
    ToolCalls → Except Error ToolCalls :=
  writeEach (fun toolCall => lookupSpan spanIds toolCall.spanId) (upsertToolCallRow runId) toolCalls

def upsertLlmCallRows (runId : String) (spanIds : SpanIds) (llmCalls : List Telemetry.LLMCall) :
    LLMCalls → Except Error LLMCalls :=
  writeEach (fun llmCall => lookupSpan spanIds llmCall.spanId) (upsertLlmCallRow runId) llmCalls

/-- The store after one accepted snapshot. -/
def ingestEffect (event : ExtendedRunEvent) (now : Timestamp) (store : Store) :
    Except Error Store := do
  pendingAfterTerminal event store
  let upserted := upsertSpanRows event.runId event.spans [] store.spans
  let spans ← setSpanParents event.runId upserted.1 event.spans upserted.2
  let toolCalls ← upsertToolCallRows event.runId upserted.1 event.toolCalls store.toolCalls
  let llmCalls ← upsertLlmCallRows event.runId upserted.1 event.llmCalls store.llmCalls
  return refreshUsageRow event.runId
    { store with
      agentRuns := upsertAgentRunRow event now store.agentRuns
      spans := spans, toolCalls := toolCalls, llmCalls := llmCalls }

/-! ### The session code computes the effect -/

variable (db : Database)

theorem update_block (label : Statement) (f : Store → Store) :
    Block db.backend (update db label f) (fun store => .ok ((), f store)) :=
  block_execute db.backend label fun store => ((), f store)

theorem pendingAfterTerminal_block (event : ExtendedRunEvent) :
    Block db.backend (rejectPendingAfterTerminalHitlState db event)
      (fun store => (pendingAfterTerminal event store).map fun _ => ((), store)) := by
  unfold rejectPendingAfterTerminalHitlState pendingAfterTerminal
  by_cases hp : event.hitl.state = .pending
  · simp only [hp, ne_eq, not_true_eq_false, if_false]
    have hread := block_execute db.backend Statement.read
      (fun store : Store => ((store.agentRuns.find? event.runId).map AgentRun.hitlState, store))
    have h := block_bind db.backend _
      (fun stored : Option HITLState => match stored with
        | some .approved => throw (movedBackToPending event.runId .approved)
        | some .rejected => throw (movedBackToPending event.runId .rejected)
        | _ => pure ())
      _ (fun stored : Option HITLState => match stored with
        | some .approved => fun _ => .error (movedBackToPending event.runId .approved)
        | some .rejected => fun _ => .error (movedBackToPending event.runId .rejected)
        | _ => pure ())
      hread (by
        intro stored
        rcases stored with _ | _ | _ | _ | _
        · exact block_pure db.backend ()
        · exact block_pure db.backend ()
        · exact block_pure db.backend ()
        · exact block_throw db.backend _
        · exact block_throw db.backend _)
    apply block_congr db.backend _ _ _ h
    intro store
    show (match (store.agentRuns.find? event.runId).map AgentRun.hitlState with
      | some .approved => fun _ => .error (movedBackToPending event.runId .approved)
      | some .rejected => fun _ => .error (movedBackToPending event.runId .rejected)
      | _ => pure () : StateT Store (Except Error) Unit) store = _
    rcases (store.agentRuns.find? event.runId).map AgentRun.hitlState with _ | _ | _ | _ | _ <;> rfl
  · simp only [hp, ne_eq, not_false_iff, if_true]
    exact block_pure db.backend ()

theorem upsertSpans_block (runId : String) (spans : List Telemetry.Span) (spanIds : SpanIds) :
    Block db.backend (upsertSpans db runId spans spanIds) (fun store =>
      .ok ((upsertSpanRows runId spans spanIds store.spans).1,
        { store with spans := (upsertSpanRows runId spans spanIds store.spans).2 })) := by
  induction spans generalizing spanIds with
  | nil => exact block_pure db.backend spanIds
  | cons span spans ih =>
    exact block_bind db.backend _ _ _ _
      (block_execute db.backend .span fun store =>
        ((upsertSpanRow runId span store.spans).1,
          { store with spans := (upsertSpanRow runId span store.spans).2 }))
      (fun returned => ih (returned :: spanIds))

theorem spanIdOf_block (spanIds : SpanIds) (key : String) :
    Block db.backend (spanIdOf spanIds key)
      (fun store => (lookupSpan spanIds key).map fun id => (id, store)) := by
  unfold spanIdOf lookupSpan
  cases spanIds.lookup key with
  | none => exact block_throw db.backend (.keyError (reprText key))
  | some id => exact block_pure db.backend id

theorem parentIdOf_block (spanIds : SpanIds) (parent : Option String) :
    Block db.backend (parentIdOf spanIds parent)
      (fun store => (lookupParent spanIds parent).map fun id => (id, store)) := by
  cases parent with
  | none => exact block_pure db.backend none
  | some parent =>
    have h := block_bind db.backend _ _ _ _ (spanIdOf_block db spanIds parent)
      (fun id => block_pure db.backend (some id))
    apply block_congr db.backend _ _ _ h
    intro store
    show ((lookupSpan spanIds parent).map _ >>= _) = ((lookupSpan spanIds parent).map _).map _
    cases lookupSpan spanIds parent <;> rfl

/-- The loop is on one table, which `view` reads and `put` writes. -/
theorem forEachResolved_block {χ ι τ : Type} (view : Store → τ) (put : τ → Store → Store)
    (hview : ∀ t store, view (put t store) = t)
    (hput : ∀ t t' store, put t' (put t store) = put t' store)
    (hself : ∀ store, put (view store) store = store)
    (resolve : χ → SessionM ι) (found : χ → Except Error ι)
    (hresolve : ∀ item, Block db.backend (resolve item)
      (fun store => (found item).map fun a => (a, store)))
    (label : Statement) (write : χ → ι → τ → τ) (items : List χ) :
    Block db.backend
      (forEachResolved resolve
        (fun item a => update db label fun store => put (write item a (view store)) store) items)
      (fun store => (writeEach found write items (view store)).map fun t => ((), put t store)) := by
  induction items with
  | nil =>
    apply block_congr db.backend _ _ _ (block_pure db.backend ())
    intro store
    show Except.ok ((), store) = Except.ok ((), put (view store) store)
    rw [hself]
  | cons item items ih =>
    have h := block_bind db.backend _ _ _ _ (hresolve item) (fun a =>
      block_bind db.backend _ _ _ _
        (update_block db label fun store => put (write item a (view store)) store) (fun _ => ih))
    apply block_congr db.backend _ _ _ h
    intro store
    show ((found item).map _ >>= _) = _
    simp only [writeEach]
    cases found item with
    | error e => rfl
    | ok a =>
      show (writeEach found write items (view (put _ store))).map (fun t => ((), put t (put _ store)))
        = (writeEach found write items _).map _
      simp only [hview, hput]

theorem resolveSpanParents_block (runId : String) (spanIds : SpanIds)
    (spans : List Telemetry.Span) :
    Block db.backend (resolveSpanParents db runId spanIds spans) (fun store =>
      (setSpanParents runId spanIds spans store.spans).map fun t =>
        ((), { store with spans := t })) :=
  forEachResolved_block db Store.spans (fun t store => { store with spans := t })
    (fun _ _ => rfl) (fun _ _ _ => rfl) (fun _ => rfl)
    (fun span : Telemetry.Span => parentIdOf spanIds span.parentSpanId)
    (fun span => lookupParent spanIds span.parentSpanId)
    (fun span => parentIdOf_block db spanIds span.parentSpanId) .spanParent
    (fun span : Telemetry.Span => setSpanParent runId span.spanId) spans

theorem upsertToolCalls_block (runId : String) (spanIds : SpanIds)
    (toolCalls : List Telemetry.ToolCall) :
    Block db.backend
      (forEachResolved (fun toolCall => spanIdOf spanIds toolCall.spanId)
        (upsertToolCall db runId) toolCalls)
      (fun store => (upsertToolCallRows runId spanIds toolCalls store.toolCalls).map fun t =>
        ((), { store with toolCalls := t })) :=
  forEachResolved_block db Store.toolCalls (fun t store => { store with toolCalls := t })
    (fun _ _ => rfl) (fun _ _ _ => rfl) (fun _ => rfl)
    (fun toolCall : Telemetry.ToolCall => spanIdOf spanIds toolCall.spanId)
    (fun toolCall => lookupSpan spanIds toolCall.spanId)
    (fun toolCall => spanIdOf_block db spanIds toolCall.spanId) .toolCall
    (upsertToolCallRow runId) toolCalls

theorem upsertLlmCalls_block (runId : String) (spanIds : SpanIds)
    (llmCalls : List Telemetry.LLMCall) :
    Block db.backend
      (forEachResolved (fun llmCall => spanIdOf spanIds llmCall.spanId)
        (upsertLlmCall db runId) llmCalls)
      (fun store => (upsertLlmCallRows runId spanIds llmCalls store.llmCalls).map fun t =>
        ((), { store with llmCalls := t })) :=
  forEachResolved_block db Store.llmCalls (fun t store => { store with llmCalls := t })
    (fun _ _ => rfl) (fun _ _ _ => rfl) (fun _ => rfl)
    (fun llmCall : Telemetry.LLMCall => spanIdOf spanIds llmCall.spanId)
    (fun llmCall => lookupSpan spanIds llmCall.spanId)
    (fun llmCall => spanIdOf_block db spanIds llmCall.spanId) .llmCall
    (upsertLlmCallRow runId) llmCalls

theorem ingestStatements_block (event : ExtendedRunEvent) (now : Timestamp) :
    Block db.backend (ingestStatements db event now) (fun store =>
      (ingestEffect event now store).map fun store' => ((), store')) := by
  have h := block_bind db.backend _ _ _ _ (pendingAfterTerminal_block db event) (fun _ =>
    block_bind db.backend _ _ _ _ (update_block db .agentRun fun store =>
      { store with agentRuns := upsertAgentRunRow event now store.agentRuns }) (fun _ =>
    block_bind db.backend _ _ _ _ (upsertSpans_block db event.runId event.spans [])
      (fun spanIds =>
    block_bind db.backend _ _ _ _ (resolveSpanParents_block db event.runId spanIds event.spans)
      (fun _ =>
    block_bind db.backend _ _ _ _ (upsertToolCalls_block db event.runId spanIds event.toolCalls)
      (fun _ =>
    block_bind db.backend _ _ _ _ (upsertLlmCalls_block db event.runId spanIds event.llmCalls)
      (fun _ => update_block db .usageTotals (refreshUsageRow event.runId)))))))
  apply block_congr db.backend _ _ _ h
  intro store
  show ((pendingAfterTerminal event store).map _ >>= _) = _
  unfold ingestEffect
  cases pendingAfterTerminal event store with
  | error e => rfl
  | ok _ =>
    show ((setSpanParents event.runId _ event.spans _).map _ >>= _) = _
    cases hs : setSpanParents event.runId (upsertSpanRows event.runId event.spans [] store.spans).1
        event.spans (upsertSpanRows event.runId event.spans [] store.spans).2 with
    | error e => simp only [hs]; rfl
    | ok spans =>
      simp only [hs]
      show ((upsertToolCallRows event.runId _ event.toolCalls _).map _ >>= _) = _
      cases ht : upsertToolCallRows event.runId
          (upsertSpanRows event.runId event.spans [] store.spans).1 event.toolCalls
          store.toolCalls with
      | error e => rfl
      | ok toolCalls =>
        show ((upsertLlmCallRows event.runId _ event.llmCalls _).map _ >>= _) = _
        cases hl : upsertLlmCallRows event.runId
            (upsertSpanRows event.runId event.spans [] store.spans).1 event.llmCalls
            store.llmCalls with
        | error e => rfl
        | ok llmCalls => rfl

/-! ### One call -/

/-- A returning call committed its effect and left no transaction open. -/
theorem ingestRunEvent_returns (event : ExtendedRunEvent) (s t : DbSession)
    (result : IngestRunResult) (h : ingestRunEvent db event s = .ok result t) :
    s.inTransaction = false ∧ t.inTransaction = false ∧
      ingestEffect event (db.clock s.statements) s.committed = .ok t.committed := by
  obtain ⟨now, u, hnow, h⟩ := (bind_returns _ _ s t result).mp h
  cases hnow
  obtain ⟨_, v, htx, h⟩ := (bind_returns _ _ s t result).mp h
  cases h
  obtain ⟨hs, ht, he⟩ :=
    transaction_returns db.backend _ _ _ (ingestStatements_block db event _) s t () htx
  refine ⟨hs, ht, ?_⟩
  cases hr : ingestEffect event (db.clock s.statements) s.committed with
  | error e =>
    rw [hr] at he
    cases he
  | ok store =>
    rw [hr] at he
    cases he
    rfl

/-- A raising call committed nothing: a transaction was already open, or the effect
raised, or the server refused a statement. -/
theorem ingestRunEvent_raises (event : ExtendedRunEvent) (s t : DbSession) (e : Error)
    (h : ingestRunEvent db event s = .error e t) :
    t.committed = s.committed ∧
      (s.inTransaction = true ∧ e = .invalidRequest ∧ t = s ∨
        s.inTransaction = false ∧ t.inTransaction = false ∧
          (ingestEffect event (db.clock s.statements) s.committed = .error e ∨
            db.backend.Refuses e)) := by
  rcases (bind_raises _ _ s t e).mp h with hnow | ⟨now, u, hnow, h⟩
  · cases hnow
  cases hnow
  rcases (bind_raises _ _ s t e).mp h with htx | ⟨_, v, _, h⟩
  · obtain ⟨hc, hcase⟩ :=
      transaction_raises db.backend _ _ _ (ingestStatements_block db event _) s t e htx
    refine ⟨hc, ?_⟩
    rcases hcase with ho | ⟨hs, ht, he | hr⟩
    · exact .inl ho
    · refine .inr ⟨hs, ht, .inl ?_⟩
      cases hr : ingestEffect event (db.clock s.statements) s.committed with
      | error e' =>
        rw [hr] at he
        cases he
        rfl
      | ok store =>
        rw [hr] at he
        cases he
    · exact .inr ⟨hs, ht, .inr hr⟩
  · cases h

/-- With a server that refuses nothing, a call on a session without a transaction
returns exactly when its effect does. -/
theorem ingestRunEvent_accepted (hdb : db.backend.Accepts) (event : ExtendedRunEvent)
    (s : DbSession) (hs : s.inTransaction = false) (store : Store)
    (hstore : ingestEffect event (db.clock s.statements) s.committed = .ok store) :
    ∃ t, ingestRunEvent db event s =
        .ok { runId := event.runId, eventType := event.eventType, status := event.status } t ∧
      t.committed = store ∧ t.inTransaction = false := by
  obtain ⟨t, htx, hc, ht⟩ :=
    transaction_accepted db.backend .invalidRequest _ _
      (ingestStatements_block db event (db.clock s.statements)) hdb s hs () store
      (by rw [hstore]; rfl)
  refine ⟨t, ?_, hc, ht⟩
  unfold ingestRunEvent
  rw [bind_of_ok _ _ s s _ (now_apply db s), bind_of_ok _ _ s t () htx]
  rfl

end ObsPlatform.Ingestion
