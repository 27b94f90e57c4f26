import ObsPlatform.Evaluation.Evaluators

/-!
# The failure classifier (evaluation/classifier.py)
-/

namespace ObsPlatform.Evaluation

structure EvaluatorOutcome where
  evaluatorName : String
  evaluatorVersion : String
  executionStatus : EvaluatorExecutionStatus
  result : Option EvaluationResult

structure RunFailureResult where
  overallStatus : OverallEvaluationStatus
  primaryCategory : Option FailureType
  secondaryCategory : Option FailureType
  maxSeverity : Option String
  deriving Repr, DecidableEq

def classifierVersion : String := "1.0.0"

def failureTypeSeverity : FailureType → Option String
  | .policyViolation => some "critical"
  | .unsupportedClaim => some "error"
  | .outputValidationError => some "error"
  | .trajectoryError => some "error"
  | .toolFailure => some "error"
  | .retrievalFailure => some "warning"
  | .unknown => none

def findingToFailureType : List (String × FailureType) :=
  [("tool_call_failed", .toolFailure),
   ("tool_call_error", .toolFailure),
   ("empty_output", .outputValidationError),
   ("missing_required_tool", .trajectoryError),
   ("forbidden_tool_used", .trajectoryError),
   ("ordering_violation", .trajectoryError),
   ("terminal_condition_mismatch", .trajectoryError),
   ("missing_required_evidence", .retrievalFailure),
   ("unauthorized_consequential_action", .policyViolation),
   ("unknown_asset_downstream_call", .trajectoryError),
   ("unsupported_claim", .unsupportedClaim),
   ("overconfident_hypothesis", .unsupportedClaim)]

def failureTypePriority : List FailureType :=
  [.policyViolation, .outputValidationError, .toolFailure, .trajectoryError, .retrievalFailure,
   .unsupportedClaim, .unknown]

def severityOrder : List (String × ℕ) :=
  [("info", 0), ("warning", 1), ("error", 2), ("critical", 3)]

/- A completed outcome labelled fail. -/
def labelledFail (outcome : EvaluatorOutcome) : Bool :=
  outcome.executionStatus = .completed ∧
    outcome.result.any fun result => result.label = some "fail"

def overallStatus (outcomes : List EvaluatorOutcome) : OverallEvaluationStatus :=
  if outcomes.any labelledFail then .fail
  else if outcomes.any fun outcome => outcome.executionStatus = .failed then .incomplete
  else .pass

def failureTypeOf (finding : EvaluationFinding) : FailureType :=
  (findingToFailureType.lookup finding.code).getD .unknown

def findingsOf (outcome : EvaluatorOutcome) : List EvaluationFinding :=
  outcome.result.elim [] EvaluationResult.findings

/- The set of detected types, as a list of its members. -/
def detectedFailureTypes (outcomes : List EvaluatorOutcome) : List FailureType :=
  ((outcomes.filter labelledFail).flatMap findingsOf).map failureTypeOf

/- max(severities, key): the first of the greatest. -/
def maxSeverity (failureTypes : List FailureType) : Option String :=
  (failureTypes.filterMap failureTypeSeverity).argmax fun severity =>
    (severityOrder.lookup severity).getD 0

def classify (outcomes : List EvaluatorOutcome) : RunFailureResult :=
  let overall := overallStatus outcomes
  let detected := detectedFailureTypes outcomes
  if overall ≠ .fail ∨ detected = [] then ⟨overall, none, none, none⟩
  else
    let ordered := failureTypePriority.filter fun failureType => failureType ∈ detected
    ⟨overall, ordered[0]?, ordered[1]?, maxSeverity ordered⟩

end ObsPlatform.Evaluation
