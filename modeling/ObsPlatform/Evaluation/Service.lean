import ObsPlatform.Evaluation.Persistence

/-!
# The evaluation service (evaluation/service.py, evaluation/registry.py)

`evaluationRunView` reads one stored run with its children; `runEvaluation` runs the
evaluators over the view, persisting each result as it comes, and classifies the
outcomes last.
-/

namespace ObsPlatform.Evaluation

open Telemetry Db UnitOfWork

variable (db : Database)

/-! ### Reading a run -/

def spansOf (runId : String) (store : Store) : List Db.Span :=
  store.spans.rows.filter fun row => row.runId = runId

/- {span.id: span.span_id for span in spans}: an id listed twice keeps its last name. -/
def spanNames (spans : List Db.Span) : List (ℕ × String) :=
  (spans.map fun span => (span.id, span.spanId)).reverse

/- span_ids[id]. -/
def spanName (names : List (ℕ × String)) (id : ℕ) : Except Error String :=
  match names.lookup id with
  | some name => .ok name
  | none => .error (.keyError (toString id))

def parentName (names : List (ℕ × String)) : Option ℕ → Except Error (Option String)
  | none => .ok none
  | some id => (spanName names id).map some

def spanViewOf (span : Db.Span) (parent : Option String) : SpanView where
  spanId := span.spanId
  parentSpanId := parent
  name := span.name
  sequence := span.sequence
  startedAt := span.startedAt
  completedAt := span.completedAt
  status := span.status
  input := span.input
  output := span.output
  metadata := span.metadata
  errorCategory := span.errorCategory
  errorCode := span.errorCode
  errorMessage := span.errorMessage
  errorFailedComponent := span.errorFailedComponent

def toolCallViewOf (toolCall : Db.ToolCall) (spanId : String) : ToolCallView where
  toolCallId := toolCall.toolCallId
  spanId := spanId
  toolName := toolCall.toolName
  sequence := toolCall.sequence
  arguments := toolCall.arguments
  result := toolCall.result
  startedAt := toolCall.startedAt
  completedAt := toolCall.completedAt
  latencyMs := toolCall.latencyMs
  retryCount := toolCall.retryCount
  status := toolCall.status
  errorCategory := toolCall.errorCategory
  errorCode := toolCall.errorCode
  errorMessage := toolCall.errorMessage
  errorFailedComponent := toolCall.errorFailedComponent

def llmCallViewOf (numbered : Db.LLMCall × ℕ) (spanId : String) : LLMCallView where
  llmCallId := numbered.1.llmCallId
  spanId := spanId
  sequence := numbered.2
  callType := numbered.1.callType
  model := numbered.1.model
  provider := numbered.1.provider
  startedAt := numbered.1.startedAt
  completedAt := numbered.1.completedAt
  latencyMs := numbered.1.latencyMs
  promptTokens := numbered.1.promptTokens
  completionTokens := numbered.1.completionTokens
  totalTokens := numbered.1.totalTokens
  estimatedCostUsd := numbered.1.estimatedCostUsd
  inputPayload := numbered.1.inputPayload
  outputPayload := numbered.1.outputPayload
  status := numbered.1.status
  errorCategory := numbered.1.errorCategory
  errorCode := numbered.1.errorCode
  errorMessage := numbered.1.errorMessage
  errorFailedComponent := numbered.1.errorFailedComponent

def runViewOf (run : AgentRun) (spans : List SpanView) (toolCalls : List ToolCallView)
    (llmCalls : List LLMCallView) : EvaluationRunView where
  runId := run.runId
  schemaVersion := run.schemaVersion
  eventType := run.eventType
  agentName := run.agentName
  agentVersion := run.agentVersion
  promptVersion := run.promptVersion
  environment := run.environment
  rawInput := run.rawInput
  normalizedInput := run.normalizedInput
  scenarioId := run.scenarioId
  startedAt := run.startedAt
  completedAt := run.completedAt
  status := run.status
  executionLatencyMs := run.executionLatencyMs
  wallClockDurationMs := run.wallClockDurationMs
  resumeCount := run.resumeCount
  hitlRequired := run.hitlRequired
  hitlState := run.hitlState
  hitlCheckpointId := run.hitlCheckpointId
  hitlDecision := run.hitlDecision
  hitlRequestedAt := run.hitlRequestedAt
  hitlDecidedAt := run.hitlDecidedAt
  hitlPendingAction := run.hitlPendingAction
  usageTotalLlmCalls := run.usageTotalLlmCalls
  usageTotalToolCalls := run.usageTotalToolCalls
  usageTotalTokens := run.usageTotalTokens
  usageTotalRetries := run.usageTotalRetries
  usageTotalEstimatedCostUsd := run.usageTotalEstimatedCostUsd
  finalResultOutput := run.finalResultOutput
  finalResultSourceReferences := run.finalResultSourceReferences
  runtimeErrorCategory := run.runtimeErrorCategory
  runtimeErrorCode := run.runtimeErrorCode
  runtimeErrorMessage := run.runtimeErrorMessage
  runtimeErrorFailedComponent := run.runtimeErrorFailedComponent
  spans := spans
  toolCalls := toolCalls
  llmCalls := llmCalls

def spanView (names : List (ℕ × String)) (span : Db.Span) : Except Error SpanView := do
  let parent ← parentName names span.parentSpanId
  return spanViewOf span parent

def toolCallView (names : List (ℕ × String)) (toolCall : Db.ToolCall) :
    Except Error ToolCallView := do
  let spanId ← spanName names toolCall.spanId
  return toolCallViewOf toolCall spanId

def llmCallView (names : List (ℕ × String)) (numbered : Db.LLMCall × ℕ) :
    Except Error LLMCallView := do
  let spanId ← spanName names numbered.1.spanId
  return llmCallViewOf numbered spanId

def assembleView (run : AgentRun) (spans : List Db.Span) (toolCalls : List Db.ToolCall)
    (llmCalls : List Db.LLMCall) : Except Error EvaluationRunView := do
  let names := spanNames spans
  let spanViews ← spans.mapM (spanView names)
  let toolCallViews ← toolCalls.mapM (toolCallView names)
  let llmCallViews ← (llmCalls.zipIdx 1).mapM (llmCallView names)
  return runViewOf run spanViews toolCallViews llmCallViews

/- What an Except raises, the session raises. -/
def raising {α : Type} : Except Error α → SessionM α
  | .ok a => pure a
  | .error e => throw e

def evaluationRunView (runId : String) : SessionM (Option EvaluationRunView) := do
  let run ← selectAgentRun db runId
  match run with
  | none => pure none
  | some run =>
    let spans ← readOrdered db fun plan store => plan.spans.arrange (spansOf runId store)
    let toolCalls ← readOrdered db fun plan store =>
      plan.toolCalls.arrange (Ingestion.toolCallsOf runId store)
    let llmCalls ← readOrdered db fun plan store =>
      plan.llmCalls.arrange (Ingestion.llmCallsOf runId store)
    let view ← raising (assembleView run spans toolCalls llmCalls)
    return some view

/-! ### Evaluators -/

structure Evaluator where
  name : String
  version : String
  type : EvaluatorType
  evaluate : EvaluationRunView → Except Error EvaluationResult
  evaluateAsync : JudgeClient → ℕ → EvaluationRunView →
    Except Error EvaluationResult × List (JudgeCallResult Unit)

def notImplemented (message : String) : Error := .other "NotImplementedError" message

def deterministicEvaluator (name : String) (evaluate : EvaluationRunView → EvaluationResult) :
    Evaluator where
  name := name
  version := "1.0.0"
  type := .deterministic
  evaluate := fun run => .ok (evaluate run)
  evaluateAsync := fun _ _ _ => (.error (notImplemented ""), [])

def toolExecutionEvaluator : Evaluator := deterministicEvaluator "tool_execution" toolExecution

def structuredOutputEvaluator : Evaluator :=
  deterministicEvaluator "structured_output" structuredOutput

def trajectoryEvaluator : Evaluator := deterministicEvaluator "trajectory" trajectory

def policyEvaluator : Evaluator := deterministicEvaluator "policy" policy

def evidenceEvaluator : Evaluator := deterministicEvaluator "evidence" evidence

def groundednessJudge (libraries : JudgeLibraries) : Evaluator where
  name := "groundedness"
  version := "1.0.0"
  type := .llmBased
  evaluate := fun _ =>
    .error (notImplemented "GroundednessJudge must be evaluated asynchronously")
  evaluateAsync := groundednessEvaluate libraries

def uncertaintyJudge (libraries : JudgeLibraries) : Evaluator where
  name := "uncertainty"
  version := "1.0.0"
  type := .llmBased
  evaluate := fun _ =>
    .error (notImplemented "UncertaintyJudge must be evaluated asynchronously")
  evaluateAsync := uncertaintyEvaluate libraries

def allEvaluators (libraries : JudgeLibraries) : List Evaluator :=
  [toolExecutionEvaluator, structuredOutputEvaluator, trajectoryEvaluator, policyEvaluator,
   evidenceEvaluator, groundednessJudge libraries, uncertaintyJudge libraries]

/-! ### Running one evaluator -/

structure JudgeSettings where
  model : String
  anthropicApiKey : Option String
  maxTokens : ℕ

def JudgeSettings.isConfigured (settings : JudgeSettings) : Bool :=
  settings.model ≠ "" ∧ settings.anthropicApiKey.getD "" ≠ ""

/-- The judges' surroundings: the settings, and what the client factory does when it is
called for the evaluator at a position. -/
structure JudgeEnvironment where
  settings : JudgeSettings
  judgeClientFactory : ℕ → Except Error JudgeClient

def shouldSkipUnconfiguredJudge (evaluator : Evaluator) (settings : JudgeSettings) : Bool :=
  evaluator.type = .llmBased ∧ ¬ settings.isConfigured

def judgeUnavailableResult : EvaluationResult where
  passed := false
  score := none
  label := none
  severity := none
  reason := "judge credentials not configured"
  findings :=
    [{ code := "judge_unavailable"
       message := "judge credentials not configured"
       data := [] }]

def evaluatorExceptionResult (error : Error) : EvaluationResult where
  passed := false
  score := none
  label := none
  severity := none
  reason := error.typeName ++ ": " ++ error.message
  findings :=
    [{ code := "evaluator_exception"
       message := "Evaluator raised an exception"
       data :=
         [("exception_type", .str error.typeName), ("message", .str error.message)] }]

structure Evaluated where
  status : EvaluatorExecutionStatus
  result : EvaluationResult
  callLog : List (JudgeCallResult Unit)
  judgeClient : Option JudgeClient

def settle (outcome : Except Error EvaluationResult) (callLog : List (JudgeCallResult Unit))
    (judgeClient : Option JudgeClient) : Evaluated :=
  match outcome with
  | .ok result => ⟨.completed, result, callLog, judgeClient⟩
  | .error e => ⟨.failed, evaluatorExceptionResult e, callLog, judgeClient⟩

/- judge_client, made on first use; a factory that raised is called again next time. -/
def obtainJudgeClient (environment : JudgeEnvironment) (position : ℕ) :
    Option JudgeClient → Except Error JudgeClient
  | some client => .ok client
  | none => environment.judgeClientFactory position

def evaluateOne (environment : JudgeEnvironment) (run : EvaluationRunView) (position : ℕ)
    (judgeClient : Option JudgeClient) (evaluator : Evaluator) : Evaluated :=
  if shouldSkipUnconfiguredJudge evaluator environment.settings then
    ⟨.skipped, judgeUnavailableResult, [], judgeClient⟩
  else match evaluator.type with
    | .deterministic => settle (evaluator.evaluate run) [] judgeClient
    | .llmBased =>
      match obtainJudgeClient environment position judgeClient with
      | .error e => settle (.error e) [] judgeClient
      | .ok client =>
        settle (evaluator.evaluateAsync client position run).1
          (evaluator.evaluateAsync client position run).2 (some client)

def evaluatorOutcome (evaluator : Evaluator) (evaluated : Evaluated) : EvaluatorOutcome where
  evaluatorName := evaluator.name
  evaluatorVersion := evaluator.version
  executionStatus := evaluated.status
  result := some evaluated.result

/-! ### Running an evaluation -/

/- A judge call that cannot be persisted is rolled back and reported at the end. -/
def persistJudgeCalls (runId : String) (evaluator : Evaluator) (succeeded : Bool) :
    List (JudgeCallResult Unit) → SessionM (List Error)
  | [] => pure []
  | call :: calls => do
    let failure ← tryCatch
      (do
        let _ ← persistJudgeCall db runId evaluator.name evaluator.version call succeeded
        pure [])
      (fun e => do
        rollback
        pure [e])
    let failures ← persistJudgeCalls runId evaluator succeeded calls
    return failure ++ failures

def evaluateEach (environment : JudgeEnvironment) (run : EvaluationRunView) (runId : String)
    (regressionRunId : Option ℕ) : ℕ → Option JudgeClient → List Evaluator →
      SessionM (List EvaluatorOutcome × List Error)
  | _, _, [] => pure ([], [])
  | position, judgeClient, evaluator :: evaluators => do
    let evaluated := evaluateOne environment run position judgeClient evaluator
    let _ ← persistEvaluationResult db runId evaluator.name evaluator.version evaluated.status
      (some evaluated.result) regressionRunId
    let failures ← persistJudgeCalls db runId evaluator (evaluated.status = .completed)
      evaluated.callLog
    let rest ← evaluateEach environment run runId regressionRunId (position + 1)
      evaluated.judgeClient evaluators
    return (evaluatorOutcome evaluator evaluated :: rest.1, failures ++ rest.2)

structure EvaluatorResultSummary where
  evaluatorName : String
  evaluatorVersion : String
  executionStatus : EvaluatorExecutionStatus
  passed : Option Bool
  score : Option ℚ
  label : Option String
  severity : Option String
  reason : Option String
  findings : List EvaluationFinding

structure RunFailureResponse where
  primaryCategory : Option FailureType
  secondaryCategory : Option FailureType
  maxSeverity : Option String

structure EvaluationTriggerResponse where
  runId : String
  overallStatus : OverallEvaluationStatus
  evaluatorResults : List EvaluatorResultSummary
  failure : Option RunFailureResponse
  evaluatedAt : Timestamp

def outcomeSummary (outcome : EvaluatorOutcome) : EvaluatorResultSummary :=
  let completedResult := if outcome.executionStatus = .completed then outcome.result else none
  { evaluatorName := outcome.evaluatorName
    evaluatorVersion := outcome.evaluatorVersion
    executionStatus := outcome.executionStatus
    passed := completedResult.map EvaluationResult.passed
    score := completedResult.bind EvaluationResult.score
    label := completedResult.bind EvaluationResult.label
    severity := completedResult.bind EvaluationResult.severity
    reason := outcome.result.map EvaluationResult.reason
    findings := outcome.result.elim [] EvaluationResult.findings }

def evaluationTriggerResponse (runId : String) (outcomes : List EvaluatorOutcome)
    (classification : RunFailureResult) (evaluatedAt : Timestamp) : EvaluationTriggerResponse where
  runId := runId
  overallStatus := classification.overallStatus
  evaluatorResults := outcomes.map outcomeSummary
  failure := some ⟨classification.primaryCategory, classification.secondaryCategory,
    classification.maxSeverity⟩
  evaluatedAt := evaluatedAt

def runEvaluation (environment : JudgeEnvironment) (evaluators : List Evaluator)
    (runId : String) : SessionM EvaluationTriggerResponse := do
  let view ← evaluationRunView db runId
  match view with
  | none => throw (.runNotFound runId)
  | some run =>
    let regressionRunId ← read db fun store =>
      (store.agentRuns.find? runId).bind AgentRun.regressionRunId
    let evaluatedAt ← now db
    let (outcomes, failures) ← evaluateEach db environment run runId regressionRunId 0 none
      evaluators
    let classification := classify outcomes
    let _ ← persistRunFailure db runId classification
    match failures with
    | failure :: _ => throw failure
    | [] => pure (evaluationTriggerResponse runId outcomes classification evaluatedAt)

/-! ### Without judge credentials -/

def noJudge : JudgeEnvironment where
  settings := ⟨"claude-sonnet-4-6", none, 1024⟩
  judgeClientFactory := fun _ =>
    .error (.valueError "anthropic judge provider requires an API key")

def noLibraries : JudgeLibraries where
  groundednessModel := ⟨[], fun _ => .error "invalid"⟩
  uncertaintyModel := ⟨[], fun _ => .error "invalid"⟩
  dumps := fun _ => ""
  repr := fun _ => ""

/-! ### The outcomes of a run -/

/-- The outcomes as a function of the view and the judges' surroundings alone. -/
def outcomesOf (environment : JudgeEnvironment) (run : EvaluationRunView) :
    ℕ → Option JudgeClient → List Evaluator → List EvaluatorOutcome
  | _, _, [] => []
  | position, judgeClient, evaluator :: evaluators =>
    evaluatorOutcome evaluator (evaluateOne environment run position judgeClient evaluator) ::
      outcomesOf environment run (position + 1)
        (evaluateOne environment run position judgeClient evaluator).judgeClient evaluators

theorem evaluateEach_outcomes (environment : JudgeEnvironment) (run : EvaluationRunView)
    (runId : String) (regressionRunId : Option ℕ) (position : ℕ)
    (judgeClient : Option JudgeClient) (evaluators : List Evaluator) (s t : DbSession)
    (returned : List EvaluatorOutcome × List Error)
    (h : evaluateEach db environment run runId regressionRunId position judgeClient evaluators s =
      .ok returned t) :
    returned.1 = outcomesOf environment run position judgeClient evaluators := by
  induction evaluators generalizing position judgeClient s t returned with
  | nil =>
    cases h
    rfl
  | cons evaluator evaluators ih =>
    simp only [evaluateEach] at h
    obtain ⟨_, u, _, h⟩ := (Stateful.bind_returns _ _ s t returned).mp h
    obtain ⟨failures, v, _, h⟩ := (Stateful.bind_returns _ _ u t returned).mp h
    obtain ⟨rest, w, hrest, h⟩ := (Stateful.bind_returns _ _ v t returned).mp h
    cases h
    rw [outcomesOf, ← ih _ _ v t rest hrest]

end ObsPlatform.Evaluation
