import ObsPlatform.Evaluation.Types
import ObsPlatform.Lib.Table

/-!
# The stored tables (db/models.py)

One row type for each table, with the columns the modelled code reads or writes. A
text column under a CHECK on an enumeration holds the enumeration; a JSONB column
holds the value it reads back as, so that a JSON null and an SQL null are one `none`.
-/

namespace ObsPlatform.Db

open Telemetry Evaluation

inductive RegressionStatus where
  | pending
  | running
  | completed
  | failed
  deriving Repr, DecidableEq

structure RegressionRun where
  id : ℕ
  name : Option String
  agentVersion : String
  agentModelProvider : String
  agentModelName : String
  promptVersion : String
  scenarioContractVersion : String
  evaluatorVersions : List (String × String)
  repetitions : ℕ
  scenarioIds : List String
  status : RegressionStatus
  isBaseline : Bool
  startedAt : Option Timestamp
  completedAt : Option Timestamp

structure AgentRun where
  runId : String
  schemaVersion : SchemaVersion
  eventType : RunEventType
  agentName : String
  agentVersion : String
  promptVersion : String
  environment : String
  rawInput : String
  normalizedInput : Option String
  scenarioId : Option String
  regressionRunId : Option ℕ
  repetitionIndex : Option ℕ
  startedAt : Timestamp
  completedAt : Option Timestamp
  status : RunStatus
  executionLatencyMs : Option ℤ
  wallClockDurationMs : Option ℤ
  resumeCount : ℤ
  hitlRequired : Bool
  hitlState : HITLState
  hitlCheckpointId : Option String
  hitlDecision : Option HITLDecision
  hitlRequestedAt : Option Timestamp
  hitlDecidedAt : Option Timestamp
  hitlPendingAction : Option JsonObject
  usageTotalLlmCalls : ℤ
  usageTotalToolCalls : ℤ
  usageTotalTokens : ℤ
  usageTotalRetries : ℤ
  usageTotalEstimatedCostUsd : ℚ
  finalResultOutput : Option JsonObject
  finalResultSourceReferences : Option (List String)
  runtimeErrorCategory : Option String
  runtimeErrorCode : Option String
  runtimeErrorMessage : Option String
  runtimeErrorFailedComponent : Option String
  ingestedAt : Timestamp
  updatedAt : Timestamp

structure Span where
  id : ℕ
  runId : String
  spanId : String
  parentSpanId : Option ℕ
  name : String
  sequence : ℤ
  startedAt : Timestamp
  completedAt : Option Timestamp
  status : ExecutionStatus
  input : Option JsonObject
  output : Option JsonObject
  metadata : Option JsonObject
  errorCategory : Option String
  errorCode : Option String
  errorMessage : Option String
  errorFailedComponent : Option String

def Span.key (row : Span) : String × String := (row.runId, row.spanId)

structure ToolCall where
  runId : String
  toolCallId : String
  spanId : ℕ
  toolName : String
  sequence : ℤ
  arguments : JsonObject
  result : Option JsonObject
  startedAt : Timestamp
  completedAt : Timestamp
  latencyMs : Option ℤ
  retryCount : ℤ
  status : ExecutionStatus
  errorCategory : Option String
  errorCode : Option String
  errorMessage : Option String
  errorFailedComponent : Option String

def ToolCall.key (row : ToolCall) : String × String := (row.runId, row.toolCallId)

structure LLMCall where
  runId : String
  llmCallId : String
  spanId : ℕ
  callType : LLMCallType
  model : String
  provider : String
  startedAt : Timestamp
  completedAt : Timestamp
  latencyMs : Option ℤ
  promptTokens : Option ℤ
  completionTokens : Option ℤ
  totalTokens : Option ℤ
  estimatedCostUsd : Option ℚ
  inputPayload : Option JsonObject
  outputPayload : Option JsonObject
  status : ExecutionStatus
  errorCategory : Option String
  errorCode : Option String
  errorMessage : Option String
  errorFailedComponent : Option String

def LLMCall.key (row : LLMCall) : String × String := (row.runId, row.llmCallId)

structure EvaluationResult where
  id : ℕ
  runId : String
  evaluatorName : String
  evaluatorVersion : String
  regressionRunId : Option ℕ
  status : EvaluatorExecutionStatus
  passed : Option Bool
  score : Option ℚ
  label : Option String
  severity : Option String
  reason : Option String
  findings : Option (List EvaluationFinding)
  createdAt : Timestamp

structure JudgeCall where
  id : ℕ
  runId : String
  evaluatorName : String
  evaluatorVersion : String
  model : String
  provider : String
  latencyMs : ℤ
  promptTokens : ℤ
  completionTokens : ℤ
  estimatedCostUsd : ℚ
  succeeded : Bool
  createdAt : Timestamp

structure RunFailure where
  runId : String
  overallStatus : OverallEvaluationStatus
  primaryCategory : Option FailureType
  secondaryCategory : Option FailureType
  maxSeverity : Option String
  classifierVersion : String
  updatedAt : Timestamp

/- evaluation_results and judge_calls only ever grow; a new row takes the next id. -/
structure Store where
  regressionRuns : Table RegressionRun.id
  agentRuns : Table AgentRun.runId
  spans : SerialTable Span.key Span.id
  toolCalls : Table ToolCall.key
  llmCalls : Table LLMCall.key
  evaluationResults : List EvaluationResult
  judgeCalls : List JudgeCall
  runFailures : Table RunFailure.runId

def Store.empty : Store where
  regressionRuns := .empty
  agentRuns := .empty
  spans := .empty
  toolCalls := .empty
  llmCalls := .empty
  evaluationResults := []
  judgeCalls := []
  runFailures := .empty

end ObsPlatform.Db
