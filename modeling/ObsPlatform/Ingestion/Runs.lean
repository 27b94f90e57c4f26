import ObsPlatform.Db.Session

/-!
# Ingestion of run snapshots (ingestion/runs.py)

`ingestRunEvent` upserts one snapshot in one transaction: the run's row, its spans
(first without parents, then with them), its tool calls, its LLM calls, and last the
usage totals counted from the stored rows. Rows the snapshot does not mention stay.
-/

namespace ObsPlatform.Ingestion

open Telemetry Db UnitOfWork

structure IngestRunResult where
  runId : String
  eventType : RunEventType
  status : RunStatus
  deriving Repr, DecidableEq

/-! ### Column values -/

structure ErrorFields where
  category : Option String
  code : Option String
  message : Option String
  failedComponent : Option String

def errorFields (error : Option ErrorInfo) : ErrorFields where
  category := error.map ErrorInfo.category
  code := error.bind ErrorInfo.code
  message := error.map ErrorInfo.message
  failedComponent := error.bind ErrorInfo.failedComponent

/- The linkage and usage columns are not among the values: an insert leaves them at
their defaults. -/
def agentRunValues (event : ExtendedRunEvent) (now : Timestamp) : AgentRun :=
  let runtimeError := errorFields event.runtimeError
  { runId := event.runId
    schemaVersion := event.schemaVersion
    eventType := event.eventType
    agentName := event.agentName
    agentVersion := event.agentVersion
    promptVersion := event.promptVersion
    environment := event.environment
    rawInput := event.rawInput
    normalizedInput := event.normalizedInput
    scenarioId := event.scenarioId
    regressionRunId := none
    repetitionIndex := none
    startedAt := event.startedAt
    completedAt := event.completedAt
    status := event.status
    executionLatencyMs := event.executionLatencyMs
    wallClockDurationMs := event.wallClockDurationMs
    resumeCount := event.resumeCount
    hitlRequired := event.hitl.required
    hitlState := event.hitl.state
    hitlCheckpointId := event.hitl.checkpointId
    hitlDecision := event.hitl.decision
    hitlRequestedAt := event.hitl.requestedAt
    hitlDecidedAt := event.hitl.decidedAt
    hitlPendingAction := event.hitl.pendingAction
    usageTotalLlmCalls := 0
    usageTotalToolCalls := 0
    usageTotalTokens := 0
    usageTotalRetries := 0
    usageTotalEstimatedCostUsd := 0
    finalResultOutput := event.finalResult.map FinalResult.output
    finalResultSourceReferences := event.finalResult.map FinalResult.sourceReferences
    runtimeErrorCategory := runtimeError.category
    runtimeErrorCode := runtimeError.code
    runtimeErrorMessage := runtimeError.message
    runtimeErrorFailedComponent := runtimeError.failedComponent
    ingestedAt := now
    updatedAt := now }

def spanValues (runId : String) (span : Telemetry.Span) (id : ℕ) : Db.Span :=
  let error := errorFields span.error
  { id := id
    runId := runId
    spanId := span.spanId
    parentSpanId := none
    name := span.name
    sequence := span.sequence
    startedAt := span.startedAt
    completedAt := span.completedAt
    status := span.status
    input := span.input
    output := span.output
    metadata := span.metadata
    errorCategory := error.category
    errorCode := error.code
    errorMessage := error.message
    errorFailedComponent := error.failedComponent }

def toolCallValues (runId : String) (toolCall : Telemetry.ToolCall) (spanId : ℕ) : Db.ToolCall :=
  let error := errorFields toolCall.error
  { runId := runId
    toolCallId := toolCall.toolCallId
    spanId := spanId
    toolName := toolCall.toolName
    sequence := toolCall.sequence
    arguments := toolCall.arguments
    result := toolCall.result
    startedAt := toolCall.startedAt
    completedAt := toolCall.completedAt
    latencyMs := toolCall.latencyMs
    retryCount := toolCall.retryCount
    status := toolCall.status
    errorCategory := error.category
    errorCode := error.code
    errorMessage := error.message
    errorFailedComponent := error.failedComponent }

def llmCallValues (runId : String) (llmCall : Telemetry.LLMCall) (spanId : ℕ) : Db.LLMCall :=
  let error := errorFields llmCall.error
  { runId := runId
    llmCallId := llmCall.llmCallId
    spanId := spanId
    callType := llmCall.callType
    model := llmCall.model
    provider := llmCall.provider
    startedAt := llmCall.startedAt
    completedAt := llmCall.completedAt
    latencyMs := llmCall.latencyMs
    promptTokens := llmCall.promptTokens
    completionTokens := llmCall.completionTokens
    totalTokens := llmCall.totalTokens
    estimatedCostUsd := llmCall.estimatedCostUsd
    inputPayload := llmCall.inputPayload
    outputPayload := llmCall.outputPayload
    status := llmCall.status
    errorCategory := error.category
    errorCode := error.code
    errorMessage := error.message
    errorFailedComponent := error.failedComponent }

/-! ### Statements on one table

`_update_values` sets every inserted column except the excluded ones: run_id and
ingested_at of a run, the key columns of a child. Columns that are not inserted
(the linkage, the usage totals, a span's id) keep their value too. -/

def updateAgentRun (values old : AgentRun) : AgentRun :=
  { values with
    runId := old.runId
    ingestedAt := old.ingestedAt
    regressionRunId := old.regressionRunId
    repetitionIndex := old.repetitionIndex
    usageTotalLlmCalls := old.usageTotalLlmCalls
    usageTotalToolCalls := old.usageTotalToolCalls
    usageTotalTokens := old.usageTotalTokens
    usageTotalRetries := old.usageTotalRetries
    usageTotalEstimatedCostUsd := old.usageTotalEstimatedCostUsd }

def updateSpan (runId : String) (span : Telemetry.Span) (old : Db.Span) : Db.Span :=
  { spanValues runId span old.id with runId := old.runId, spanId := old.spanId }

def updateToolCall (values old : Db.ToolCall) : Db.ToolCall :=
  { values with runId := old.runId, toolCallId := old.toolCallId }

def updateLlmCall (values old : Db.LLMCall) : Db.LLMCall :=
  { values with runId := old.runId, llmCallId := old.llmCallId }

abbrev AgentRuns := Table AgentRun.runId
abbrev Spans := SerialTable Db.Span.key Db.Span.id
abbrev ToolCalls := Table Db.ToolCall.key
abbrev LLMCalls := Table Db.LLMCall.key

/- span_ids, latest entry first. -/
abbrev SpanIds := List (String × ℕ)

def upsertAgentRunRow (event : ExtendedRunEvent) (now : Timestamp) (t : AgentRuns) : AgentRuns :=
  t.upsert (agentRunValues event now) (updateAgentRun (agentRunValues event now)) fun _ h => h

/- RETURNING span_id, id. -/
def upsertSpanRow (runId : String) (span : Telemetry.Span) (t : Spans) : (String × ℕ) × Spans :=
  ((span.spanId, (t.find? (runId, span.spanId)).elim t.next Db.Span.id),
    t.upsert (runId, span.spanId) (spanValues runId span) (updateSpan runId span)
      (fun _ => rfl) (fun _ => rfl) (fun _ h => h) (fun _ => rfl))

def setSpanParent (runId spanId : String) (parent : Option ℕ) (t : Spans) : Spans :=
  t.modify (runId, spanId) (fun row => { row with parentSpanId := parent })
    (fun _ h => h) (fun _ => rfl)

def upsertToolCallRow (runId : String) (toolCall : Telemetry.ToolCall) (spanId : ℕ)
    (t : ToolCalls) : ToolCalls :=
  t.upsert (toolCallValues runId toolCall spanId)
    (updateToolCall (toolCallValues runId toolCall spanId)) fun _ h => h

def upsertLlmCallRow (runId : String) (llmCall : Telemetry.LLMCall) (spanId : ℕ)
    (t : LLMCalls) : LLMCalls :=
  t.upsert (llmCallValues runId llmCall spanId)
    (updateLlmCall (llmCallValues runId llmCall spanId)) fun _ h => h

/-! ### Usage totals -/

def toolCallsOf (runId : String) (store : Store) : List Db.ToolCall :=
  store.toolCalls.rows.filter fun row => row.runId = runId

def llmCallsOf (runId : String) (store : Store) : List Db.LLMCall :=
  store.llmCalls.rows.filter fun row => row.runId = runId

/- coalesce(sum(column), 0): nulls do not count. -/
def sumNonNull {ρ α : Type} [Zero α] [Add α] (column : ρ → Option α) (rows : List ρ) : α :=
  (rows.filterMap column).sum

def withUsageTotals (store : Store) (row : AgentRun) : AgentRun :=
  { row with
    usageTotalLlmCalls := (llmCallsOf row.runId store).length
    usageTotalToolCalls := (toolCallsOf row.runId store).length
    usageTotalTokens := sumNonNull Db.LLMCall.totalTokens (llmCallsOf row.runId store)
    usageTotalRetries := ((toolCallsOf row.runId store).map Db.ToolCall.retryCount).sum
    usageTotalEstimatedCostUsd :=
      sumNonNull Db.LLMCall.estimatedCostUsd (llmCallsOf row.runId store) }

def refreshUsageRow (runId : String) (store : Store) : Store :=
  { store with
    agentRuns := store.agentRuns.modify runId (withUsageTotals store) fun _ h => h }

/-! ### The session code -/

def movedBackToPending (runId : String) (storedHitlState : HITLState) : Error :=
  .hitlStateRegression ("run " ++ runId ++ " is already in terminal HITL state " ++
    reprText storedHitlState.value ++ " and cannot be moved back to pending")

variable (db : Database)

def rejectPendingAfterTerminalHitlState (event : ExtendedRunEvent) : SessionM Unit :=
  if event.hitl.state ≠ .pending then pure ()
  else do
    let storedHitlState ← read db fun store =>
      (store.agentRuns.find? event.runId).map AgentRun.hitlState
    match storedHitlState with
    | some .approved => throw (movedBackToPending event.runId .approved)
    | some .rejected => throw (movedBackToPending event.runId .rejected)
    | _ => pure ()

def upsertAgentRun (event : ExtendedRunEvent) (now : Timestamp) : SessionM Unit :=
  update db .agentRun fun store =>
    { store with agentRuns := upsertAgentRunRow event now store.agentRuns }

def upsertSpans (runId : String) : List Telemetry.Span → SpanIds → SessionM SpanIds
  | [], spanIds => pure spanIds
  | span :: spans, spanIds => do
    let returned ← execute db.backend .span fun store =>
      ((upsertSpanRow runId span store.spans).1,
        { store with spans := (upsertSpanRow runId span store.spans).2 })
    upsertSpans runId spans (returned :: spanIds)

/- `span_ids[key]`. -/
def spanIdOf (spanIds : SpanIds) (key : String) : SessionM ℕ :=
  match spanIds.lookup key with
  | some id => pure id
  | none => throw (.keyError (reprText key))

def parentIdOf (spanIds : SpanIds) : Option String → SessionM (Option ℕ)
  | none => pure none
  | some parent => do
    let id ← spanIdOf spanIds parent
    return some id

/- A loop whose body looks a span id up and then writes one row with it. -/
def forEachResolved {χ ι : Type} (resolve : χ → SessionM ι) (statement : χ → ι → SessionM Unit) :
    List χ → SessionM Unit
  | [] => pure ()
  | item :: items => do
    let found ← resolve item
    statement item found
    forEachResolved resolve statement items

def resolveSpanParents (runId : String) (spanIds : SpanIds) (spans : List Telemetry.Span) :
    SessionM Unit :=
  forEachResolved (fun span => parentIdOf spanIds span.parentSpanId)
    (fun span parentSpanId => update db .spanParent fun store =>
      { store with spans := setSpanParent runId span.spanId parentSpanId store.spans })
    spans

def upsertToolCall (runId : String) (toolCall : Telemetry.ToolCall) (spanId : ℕ) : SessionM Unit :=
  update db .toolCall fun store =>
    { store with toolCalls := upsertToolCallRow runId toolCall spanId store.toolCalls }

def upsertLlmCall (runId : String) (llmCall : Telemetry.LLMCall) (spanId : ℕ) : SessionM Unit :=
  update db .llmCall fun store =>
    { store with llmCalls := upsertLlmCallRow runId llmCall spanId store.llmCalls }

def refreshRunUsageTotals (runId : String) : SessionM Unit :=
  update db .usageTotals (refreshUsageRow runId)

/- The body of `async with session.begin()`. -/
def ingestStatements (event : ExtendedRunEvent) (now : Timestamp) : SessionM Unit := do
  rejectPendingAfterTerminalHitlState db event
  upsertAgentRun db event now
  let spanIds ← upsertSpans db event.runId event.spans []
  resolveSpanParents db event.runId spanIds event.spans
  forEachResolved (fun toolCall => spanIdOf spanIds toolCall.spanId)
    (upsertToolCall db event.runId) event.toolCalls
  forEachResolved (fun llmCall => spanIdOf spanIds llmCall.spanId)
    (upsertLlmCall db event.runId) event.llmCalls
  refreshRunUsageTotals db event.runId

def ingestRunEvent (event : ExtendedRunEvent) : SessionM IngestRunResult := do
  let now ← now db
  transaction .invalidRequest (ingestStatements db event now)
  return { runId := event.runId, eventType := event.eventType, status := event.status }

end ObsPlatform.Ingestion
