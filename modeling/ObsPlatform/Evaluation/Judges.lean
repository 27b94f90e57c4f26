import ObsPlatform.Evaluation.Evaluators

/-!
# The LLM judges (evaluation/judges/*.py)

`generateStructured` calls the provider at most three times, with a corrective prompt
after each unusable answer. What the provider answers is a parameter, and so are the
pydantic validation of an answer and the text of a JSON value.
-/

namespace ObsPlatform.Evaluation

open Telemetry Db

/-! ### The judge client -/

structure RawJudgeCompletion where
  output : JsonObject
  promptTokens : ℤ
  completionTokens : ℤ
  estimatedCostUsd : ℚ

structure JudgeCallResult (T : Type) where
  output : T
  model : String
  provider : String
  latencyMs : ℤ
  promptTokens : ℤ
  completionTokens : ℤ
  estimatedCostUsd : ℚ

def JudgeCallResult.map {T U : Type} (f : T → U) (call : JudgeCallResult T) :
    JudgeCallResult U :=
  { call with output := f call.output }

/- How one call of _raw_complete ends. -/
inductive RawOutcome where
  | completion (raw : RawJudgeCompletion)
  | rawOutputError (message : String)
  | raised (error : Error)

structure RawReply where
  outcome : RawOutcome
  elapsedMs : ℤ

/-- A client; its provider answers by evaluator position, attempt, prompt and schema. -/
structure JudgeClient where
  provider : String
  model : String
  rawComplete : ℕ → ℕ → String → JsonObject → RawReply

/-- A pydantic model: its JSON schema and its validation. -/
structure ResponseModel (T : Type) where
  schema : JsonObject
  validate : JsonObject → Except String T

def maxStructuredOutputAttempts : ℕ := 3

def validationRetryPrompt (repr : JsonObject → String) (originalPrompt : String)
    (invalidResponse : JsonObject) (validationError : String) : String :=
  originalPrompt ++ "\n\n" ++
    "Previous judge response failed validation. Return a corrected structured " ++
    "tool response that matches the schema exactly.\n" ++
    "Invalid response: " ++ repr invalidResponse ++ "\n" ++
    "Validation error: " ++ validationError

/- An entry of call_log: the validated output, or the raw one. -/
abbrev LoggedCall (T : Type) := JudgeCallResult (JsonObject ⊕ T)

def rawAttemptCall {T : Type} (client : JudgeClient) (raw : RawJudgeCompletion) (latencyMs : ℤ) :
    LoggedCall T where
  output := .inl raw.output
  model := client.model
  provider := client.provider
  latencyMs := latencyMs
  promptTokens := raw.promptTokens
  completionTokens := raw.completionTokens
  estimatedCostUsd := raw.estimatedCostUsd

def rawFailedCall {T : Type} (client : JudgeClient) (latencyMs : ℤ) : LoggedCall T where
  output := .inl []
  model := client.model
  provider := client.provider
  latencyMs := latencyMs
  promptTokens := 0
  completionTokens := 0
  estimatedCostUsd := 0

def validatedCall {T : Type} (client : JudgeClient) (raw : RawJudgeCompletion) (latencyMs : ℤ)
    (output : T) : JudgeCallResult T where
  output := output
  model := client.model
  provider := client.provider
  latencyMs := latencyMs
  promptTokens := raw.promptTokens
  completionTokens := raw.completionTokens
  estimatedCostUsd := raw.estimatedCostUsd

section Generate
variable {T : Type} (repr : JsonObject → String) (client : JudgeClient) (position : ℕ)
  (prompt : String) (responseModel : ResponseModel T)

/- The loop over the attempts: the attempts left, the next attempt's index and prompt.
It returns what the call returns or raises, and what it appended to call_log. -/
def attemptStructured : ℕ → ℕ → String → Option String →
    Except Error (JudgeCallResult T) × List (LoggedCall T)
  | 0, _, _, lastValidationError =>
    (.error (.judgeOutputValidation (lastValidationError.getD "invalid output")), [])
  | left + 1, attemptIndex, currentPrompt, _ =>
    let reply := client.rawComplete position attemptIndex currentPrompt responseModel.schema
    match reply.outcome with
    | .raised error => (.error error, [rawFailedCall client reply.elapsedMs])
    | .rawOutputError message =>
      let failed := rawFailedCall client reply.elapsedMs
      if attemptIndex = maxStructuredOutputAttempts - 1 then
        (.error (.judgeOutputValidation message), [failed])
      else
        let rest := attemptStructured left (attemptIndex + 1)
          (validationRetryPrompt repr prompt [] message) (some message)
        (rest.1, failed :: rest.2)
    | .completion raw =>
      match responseModel.validate raw.output with
      | .ok output =>
        let result := validatedCall client raw reply.elapsedMs output
        (.ok result, [result.map .inr])
      | .error message =>
        let invalid := rawAttemptCall client raw reply.elapsedMs
        if attemptIndex = maxStructuredOutputAttempts - 1 then
          (.error (.judgeOutputValidation message), [invalid])
        else
          let rest := attemptStructured left (attemptIndex + 1)
            (validationRetryPrompt repr prompt raw.output message) (some message)
          (rest.1, invalid :: rest.2)

def generateStructured : Except Error (JudgeCallResult T) × List (LoggedCall T) :=
  attemptStructured repr client position prompt responseModel maxStructuredOutputAttempts 0 prompt
    none

end Generate

/-! ### The two judges -/

structure UnsupportedClaim where
  claimText : String
  explanation : String

structure GroundednessJudgeOutput where
  passed : Bool
  score : ℚ
  reason : String
  unsupportedClaims : List UnsupportedClaim
  nonneg : 0 ≤ score
  atMostOne : score ≤ 1

structure OverconfidentClaim where
  claimText : String
  evidenceGap : String
  explanation : String

structure UncertaintyJudgeOutput where
  passed : Bool
  score : ℚ
  reason : String
  overconfidentClaims : List OverconfidentClaim
  nonneg : 0 ≤ score
  atMostOne : score ≤ 1

/-- What the judges take from the libraries they use. -/
structure JudgeLibraries where
  groundednessModel : ResponseModel GroundednessJudgeOutput
  uncertaintyModel : ResponseModel UncertaintyJudgeOutput
  dumps : JsonObject → String
  repr : JsonObject → String

def judgeNotApplicableResult (run : EvaluationRunView) : Option EvaluationResult :=
  if run.status = .success then none
  else some (notApplicable "final result output is not expected for this run status")

def toolResultEvidence (run : EvaluationRunView) : List Json :=
  run.toolCalls.filterMap fun toolCall => toolCall.result.map fun result =>
    .obj [("tool_call_id", .str toolCall.toolCallId), ("tool_name", .str toolCall.toolName),
      ("result", .obj result)]

def judgePrompt (dumps : JsonObject → String) (task : String) (run : EvaluationRunView) : String :=
  dumps
    [("task", .str task),
     ("evidence", .arr (toolResultEvidence run)),
     ("final_answer", (run.finalResultOutput.map Json.obj).getD .null)]

def groundednessPrompt (dumps : JsonObject → String) (run : EvaluationRunView) : String :=
  judgePrompt dumps ("Judge whether the final answer is grounded in the provided tool-result " ++
    "evidence. Identify any unsupported claims.") run

def uncertaintyPrompt (dumps : JsonObject → String) (run : EvaluationRunView) : String :=
  judgePrompt dumps ("Judge whether the final answer states hypotheses or inferences as " ++
    "settled fact without appropriate uncertainty. Identify any " ++
    "overconfident hypotheses.") run

def groundednessResult (output : GroundednessJudgeOutput) : EvaluationResult where
  passed := output.passed
  score := some output.score
  label := passLabel output.passed
  severity := none
  reason := output.reason
  findings := output.unsupportedClaims.map fun claim =>
    { code := "unsupported_claim"
      message := claim.claimText
      data := [("explanation", .str claim.explanation)] }

def uncertaintyResult (output : UncertaintyJudgeOutput) : EvaluationResult where
  passed := output.passed
  score := some output.score
  label := passLabel output.passed
  severity := none
  reason := output.reason
  findings := output.overconfidentClaims.map fun claim =>
    { code := "overconfident_hypothesis"
      message := claim.claimText
      data :=
        [("evidence_gap", .str claim.evidenceGap), ("explanation", .str claim.explanation)] }

/- evaluate_async of either judge, with the client it was given. -/
def judgeEvaluate {T : Type} (libraries : JudgeLibraries) (responseModel : ResponseModel T)
    (promptFor : EvaluationRunView → String) (resultOf : T → EvaluationResult)
    (client : JudgeClient) (position : ℕ) (run : EvaluationRunView) :
    Except Error EvaluationResult × List (JudgeCallResult Unit) :=
  match judgeNotApplicableResult run with
  | some result => (.ok result, [])
  | none =>
    let generated :=
      generateStructured libraries.repr client position (promptFor run) responseModel
    (generated.1.map fun call => resultOf call.output,
      generated.2.map fun call => call.map fun _ => ())

def groundednessEvaluate (libraries : JudgeLibraries) :
    JudgeClient → ℕ → EvaluationRunView →
      Except Error EvaluationResult × List (JudgeCallResult Unit) :=
  judgeEvaluate libraries libraries.groundednessModel (groundednessPrompt libraries.dumps)
    groundednessResult

def uncertaintyEvaluate (libraries : JudgeLibraries) :
    JudgeClient → ℕ → EvaluationRunView →
      Except Error EvaluationResult × List (JudgeCallResult Unit) :=
  judgeEvaluate libraries libraries.uncertaintyModel (uncertaintyPrompt libraries.dumps)
    uncertaintyResult

end ObsPlatform.Evaluation
