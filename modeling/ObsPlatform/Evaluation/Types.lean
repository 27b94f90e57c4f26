import ObsPlatform.Telemetry.Models

/-!
# Evaluation types (evaluation/types.py)

The view of one stored run that evaluators read, with surrogate keys decoded back to
external span ids, and the result an evaluator returns. Scores are exact rationals.
-/

namespace ObsPlatform.Evaluation

open Telemetry

inductive EvaluatorType where
  | deterministic
  | llmBased
  deriving Repr, DecidableEq

inductive EvaluatorExecutionStatus where
  | pending
  | running
  | completed
  | failed
  | skipped
  deriving Repr, DecidableEq

def EvaluatorExecutionStatus.value : EvaluatorExecutionStatus → String
  | .pending => "pending"
  | .running => "running"
  | .completed => "completed"
  | .failed => "failed"
  | .skipped => "skipped"

inductive OverallEvaluationStatus where
  | pass
  | fail
  | incomplete
  deriving Repr, DecidableEq

def OverallEvaluationStatus.value : OverallEvaluationStatus → String
  | .pass => "pass"
  | .fail => "fail"
  | .incomplete => "incomplete"

inductive FailureType where
  | toolFailure
  | retrievalFailure
  | trajectoryError
  | outputValidationError
  | unsupportedClaim
  | policyViolation
  | unknown
  deriving Repr, DecidableEq

def FailureType.value : FailureType → String
  | .toolFailure => "tool_failure"
  | .retrievalFailure => "retrieval_failure"
  | .trajectoryError => "trajectory_error"
  | .outputValidationError => "output_validation_error"
  | .unsupportedClaim => "unsupported_claim"
  | .policyViolation => "policy_violation"
  | .unknown => "unknown"

structure EvaluationFinding where
  code : String
  message : String
  data : JsonObject

structure EvaluationResult where
  passed : Bool
  score : Option ℚ
  label : Option String
  severity : Option String
  reason : String
  findings : List EvaluationFinding

structure SpanView where
  spanId : String
  parentSpanId : Option String
  name : String
  sequence : ℤ
  startedAt : Timestamp
  completedAt : Option Timestamp
  status : ExecutionStatus
  input : Option JsonObject
  output : Option JsonObject
  metadata : Option JsonObject
  errorCategory : Option String
  errorCode : Option String
  errorMessage : Option String
  errorFailedComponent : Option String

structure ToolCallView where
  toolCallId : String
  spanId : String
  toolName : String
  sequence : ℤ
  arguments : JsonObject
  result : Option JsonObject
  startedAt : Timestamp
  completedAt : Timestamp
  latencyMs : Option ℤ
  retryCount : ℤ
  status : ExecutionStatus
  errorCategory : Option String
  errorCode : Option String
  errorMessage : Option String
  errorFailedComponent : Option String

structure LLMCallView where
  llmCallId : String
  spanId : String
  sequence : ℤ
  callType : LLMCallType
  model : String
  provider : String
  startedAt : Timestamp
  completedAt : Timestamp
  latencyMs : Option ℤ
  promptTokens : Option ℤ
  completionTokens : Option ℤ
  totalTokens : Option ℤ
  estimatedCostUsd : Option ℚ
  inputPayload : Option JsonObject
  outputPayload : Option JsonObject
  status : ExecutionStatus
  errorCategory : Option String
  errorCode : Option String
  errorMessage : Option String
  errorFailedComponent : Option String

structure EvaluationRunView where
  runId : String
  schemaVersion : SchemaVersion
  eventType : RunEventType
  agentName : String
  agentVersion : String
  promptVersion : String
  environment : String
  rawInput : String
  normalizedInput : Option String
  scenarioId : Option String
  startedAt : Timestamp
  completedAt : Option Timestamp
  status : RunStatus
  executionLatencyMs : Option ℤ
  wallClockDurationMs : Option ℤ
  resumeCount : ℤ
  hitlRequired : Bool
  hitlState : HITLState
  hitlCheckpointId : Option String
  hitlDecision : Option HITLDecision
  hitlRequestedAt : Option Timestamp
  hitlDecidedAt : Option Timestamp
  hitlPendingAction : Option JsonObject
  usageTotalLlmCalls : ℤ
  usageTotalToolCalls : ℤ
  usageTotalTokens : ℤ
  usageTotalRetries : ℤ
  usageTotalEstimatedCostUsd : ℚ
  finalResultOutput : Option JsonObject
  finalResultSourceReferences : Option (List String)
  runtimeErrorCategory : Option String
  runtimeErrorCode : Option String
  runtimeErrorMessage : Option String
  runtimeErrorFailedComponent : Option String
  spans : List SpanView
  toolCalls : List ToolCallView
  llmCalls : List LLMCallView

end ObsPlatform.Evaluation
