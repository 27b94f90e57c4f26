import ObsPlatform.Evaluation.Service

/-!
# The run-detail endpoint (routes/runs.py)

`getRun` reads one stored run with its children, its failure row and its latest
evaluation results. It is written independently of `evaluationRunView`: it regroups
the flattened error, HITL, usage and final-result columns.
-/

namespace ObsPlatform.Routes

open Telemetry Db UnitOfWork Evaluation

/- These response models repeat the fields of the event models. -/
abbrev ErrorResponse := ErrorInfo
abbrev SpanResponse := Telemetry.Span
abbrev ToolCallResponse := Telemetry.ToolCall
abbrev HITLResponse := HITLInfo
abbrev UsageResponse := UsageSummary
abbrev FinalResultResponse := FinalResult

structure LLMCallResponse extends Telemetry.LLMCall where
  sequence : ℤ

structure RunFailureSummary where
  overallStatus : OverallEvaluationStatus
  primaryFailureType : Option FailureType
  secondaryFailureType : Option FailureType
  maxSeverity : Option String
  classifierVersion : String
  updatedAt : Timestamp

structure RunDetailResponse where
  runId : String
  scenarioId : Option String
  agentName : String
  agentVersion : String
  promptVersion : String
  environment : String
  status : RunStatus
  eventType : RunEventType
  rawInput : String
  normalizedInput : Option String
  startedAt : Timestamp
  completedAt : Option Timestamp
  executionLatencyMs : Option ℤ
  wallClockDurationMs : Option ℤ
  resumeCount : ℤ
  spans : List SpanResponse
  toolCalls : List ToolCallResponse
  llmCalls : List LLMCallResponse
  hitl : HITLResponse
  usage : UsageResponse
  finalResult : Option FinalResultResponse
  runtimeError : Option ErrorResponse
  failure : Option RunFailureSummary
  evaluationSummary : Option (List EvaluatorResultSummary)

def errorResponse (category code message failedComponent : Option String) :
    Option ErrorResponse :=
  match category, message with
  | some category, some message => some ⟨category, code, message, failedComponent⟩
  | _, _ => none

def spanResponseOf (span : Db.Span) (parent : Option String) : SpanResponse where
  spanId := span.spanId
  parentSpanId := parent
  name := span.name
  sequence := span.sequence
  startedAt := span.startedAt
  completedAt := span.completedAt
  status := span.status
  input := span.input
  output := span.output
  metadata := span.metadata
  error := errorResponse span.errorCategory span.errorCode span.errorMessage
    span.errorFailedComponent

def toolCallResponseOf (toolCall : Db.ToolCall) (spanId : String) : ToolCallResponse where
  toolCallId := toolCall.toolCallId
  spanId := spanId
  toolName := toolCall.toolName
  sequence := toolCall.sequence
  arguments := toolCall.arguments
  result := toolCall.result
  startedAt := toolCall.startedAt
  completedAt := toolCall.completedAt
  latencyMs := toolCall.latencyMs
  retryCount := toolCall.retryCount
  status := toolCall.status
  error := errorResponse toolCall.errorCategory toolCall.errorCode toolCall.errorMessage
    toolCall.errorFailedComponent

def llmCallResponseOf (numbered : Db.LLMCall × ℕ) (spanId : String) : LLMCallResponse where
  llmCallId := numbered.1.llmCallId
  spanId := spanId
  sequence := numbered.2
  callType := numbered.1.callType
  model := numbered.1.model
  provider := numbered.1.provider
  startedAt := numbered.1.startedAt
  completedAt := numbered.1.completedAt
  latencyMs := numbered.1.latencyMs
  promptTokens := numbered.1.promptTokens
  completionTokens := numbered.1.completionTokens
  totalTokens := numbered.1.totalTokens
  estimatedCostUsd := numbered.1.estimatedCostUsd
  inputPayload := numbered.1.inputPayload
  outputPayload := numbered.1.outputPayload
  status := numbered.1.status
  error := errorResponse numbered.1.errorCategory numbered.1.errorCode numbered.1.errorMessage
    numbered.1.errorFailedComponent

def spanResponse (names : List (ℕ × String)) (span : Db.Span) : Except Error SpanResponse := do
  let parent ← parentName names span.parentSpanId
  return spanResponseOf span parent

def toolCallResponse (names : List (ℕ × String)) (toolCall : Db.ToolCall) :
    Except Error ToolCallResponse := do
  let spanId ← spanName names toolCall.spanId
  return toolCallResponseOf toolCall spanId

def llmCallResponse (names : List (ℕ × String)) (numbered : Db.LLMCall × ℕ) :
    Except Error LLMCallResponse := do
  let spanId ← spanName names numbered.1.spanId
  return llmCallResponseOf numbered spanId

def hitlResponse (run : AgentRun) : HITLResponse where
  required := run.hitlRequired
  state := run.hitlState
  checkpointId := run.hitlCheckpointId
  decision := run.hitlDecision
  requestedAt := run.hitlRequestedAt
  decidedAt := run.hitlDecidedAt
  pendingAction := run.hitlPendingAction

def usageResponse (run : AgentRun) : UsageResponse where
  totalLlmCalls := run.usageTotalLlmCalls
  totalToolCalls := run.usageTotalToolCalls
  totalTokens := run.usageTotalTokens
  totalEstimatedCostUsd := run.usageTotalEstimatedCostUsd
  totalRetries := run.usageTotalRetries

def finalResultResponse (run : AgentRun) : Option FinalResultResponse :=
  run.finalResultOutput.map fun output =>
    { output := output, sourceReferences := run.finalResultSourceReferences.getD [] }

def runFailureSummary (failure : RunFailure) : RunFailureSummary where
  overallStatus := failure.overallStatus
  primaryFailureType := failure.primaryCategory
  secondaryFailureType := failure.secondaryCategory
  maxSeverity := failure.maxSeverity
  classifierVersion := failure.classifierVersion
  updatedAt := failure.updatedAt

def runDetailOf (run : AgentRun) (spans : List SpanResponse) (toolCalls : List ToolCallResponse)
    (llmCalls : List LLMCallResponse) (failure : Option RunFailure)
    (summary : List EvaluatorResultSummary) : RunDetailResponse where
  runId := run.runId
  scenarioId := run.scenarioId
  agentName := run.agentName
  agentVersion := run.agentVersion
  promptVersion := run.promptVersion
  environment := run.environment
  status := run.status
  eventType := run.eventType
  rawInput := run.rawInput
  normalizedInput := run.normalizedInput
  startedAt := run.startedAt
  completedAt := run.completedAt
  executionLatencyMs := run.executionLatencyMs
  wallClockDurationMs := run.wallClockDurationMs
  resumeCount := run.resumeCount
  spans := spans
  toolCalls := toolCalls
  llmCalls := llmCalls
  hitl := hitlResponse run
  usage := usageResponse run
  finalResult := finalResultResponse run
  runtimeError := errorResponse run.runtimeErrorCategory run.runtimeErrorCode
    run.runtimeErrorMessage run.runtimeErrorFailedComponent
  failure := failure.map runFailureSummary
  evaluationSummary := if summary.isEmpty then none else some summary

def assembleDetail (run : AgentRun) (spans : List Db.Span) (toolCalls : List Db.ToolCall)
    (llmCalls : List Db.LLMCall) (failure : Option RunFailure)
    (summary : List EvaluatorResultSummary) : Except Error RunDetailResponse := do
  let names := spanNames spans
  let spanResponses ← spans.mapM (spanResponse names)
  let toolCallResponses ← toolCalls.mapM (toolCallResponse names)
  let llmCallResponses ← (llmCalls.zipIdx 1).mapM (llmCallResponse names)
  return runDetailOf run spanResponses toolCallResponses llmCallResponses failure summary

/-! ### The latest result of each evaluator -/

/- row_number() over (partition by evaluator_name order by created_at desc, id desc) = 1. -/
def latestEvaluationResults (runId : String) (store : Store) : List Db.EvaluationResult :=
  let rows := store.evaluationResults.filter fun row => row.runId = runId
  rows.filter fun row => rows.all fun other =>
    other.evaluatorName ≠ row.evaluatorName ∨ other.createdAt < row.createdAt ∨
      other.createdAt = row.createdAt ∧ other.id ≤ row.id

def evaluatorResultSummary (row : Db.EvaluationResult) : EvaluatorResultSummary where
  evaluatorName := row.evaluatorName
  evaluatorVersion := row.evaluatorVersion
  executionStatus := row.status
  passed := row.passed
  score := row.score
  label := row.label
  severity := row.severity
  reason := row.reason
  findings := row.findings.getD []

variable (db : Database)

def latestEvaluationSummary (runId : String) : SessionM (List EvaluatorResultSummary) := do
  let rows ← readOrdered db fun plan store =>
    plan.evaluationResults.arrange (latestEvaluationResults runId store)
  return rows.map evaluatorResultSummary

/-! ### The endpoint -/

def getRun (runId : String) : SessionM RunDetailResponse := do
  let run ← selectAgentRun db runId
  match run with
  | none => throw (.other "HTTPException" "404: run not found")
  | some run =>
    let spans ← readOrdered db fun plan store => plan.spans.arrange (spansOf runId store)
    let toolCalls ← readOrdered db fun plan store =>
      plan.toolCalls.arrange (Ingestion.toolCallsOf runId store)
    let llmCalls ← readOrdered db fun plan store =>
      plan.llmCalls.arrange (Ingestion.llmCallsOf runId store)
    let runFailure ← read db fun store => store.runFailures.find? runId
    let evaluationSummary ← latestEvaluationSummary db runId
    raising (assembleDetail run spans toolCalls llmCalls runFailure evaluationSummary)

end ObsPlatform.Routes
