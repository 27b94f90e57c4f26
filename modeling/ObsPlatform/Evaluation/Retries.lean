import ObsPlatform.Evaluation.Judges
import ObsPlatform.Lib.Retry

/-!
# The attempts of generate_structured

The loop once more, with a record of the raw calls it makes and of the statement it leaves
through. Its attempts are the exchanges of `Lib/Retry`: the first usable answer or foreign
exception ends them, the third unusable answer at the latest, and a corrective prompt quotes
the answer before it and no other.
-/

namespace ObsPlatform.Evaluation

open Telemetry Db

/-! ### The recorded loop -/

/- What _raw_complete is given. -/
structure RawCall where
  prompt : String
  schema : JsonObject

/-- The statements that leave generate_structured. -/
inductive Exit where
  | returned
  | reraised
  | exhausted
  | afterLoop
  deriving Repr, DecidableEq

structure Generation (T : Type) where
  outcome : Except Error (JudgeCallResult T)
  exit : Exit
  rawCalls : List RawCall
  callLog : List (LoggedCall T)

/- One more attempt before the others. -/
def Generation.after {T : Type} (rest : Generation T) (rawCall : RawCall)
    (logged : LoggedCall T) : Generation T :=
  { rest with
    rawCalls := rawCall :: rest.rawCalls
    callLog := logged :: rest.callLog }

section Generate
variable {T : Type} (repr : JsonObject → String) (client : JudgeClient) (position : ℕ)
  (prompt : String) (responseModel : ResponseModel T)

def attemptRecorded : ℕ → ℕ → String → Option String → Generation T
  | 0, _, _, lastValidationError =>
    ⟨.error (.judgeOutputValidation (lastValidationError.getD "invalid output")), .afterLoop, [], []⟩
  | left + 1, attemptIndex, currentPrompt, _ =>
    let rawCall := ⟨currentPrompt, responseModel.schema⟩
    let reply := client.rawComplete position attemptIndex currentPrompt responseModel.schema
    match reply.outcome with
    | .raised error =>
      ⟨.error error, .reraised, [rawCall], [rawFailedCall client reply.elapsedMs]⟩
    | .rawOutputError message =>
      let failed := rawFailedCall client reply.elapsedMs
      if attemptIndex = maxStructuredOutputAttempts - 1 then
        ⟨.error (.judgeOutputValidation message), .exhausted, [rawCall], [failed]⟩
      else
        (attemptRecorded left (attemptIndex + 1)
          (validationRetryPrompt repr prompt [] message) (some message)).after rawCall failed
    | .completion raw =>
      match responseModel.validate raw.output with
      | .ok output =>
        let result := validatedCall client raw reply.elapsedMs output
        ⟨.ok result, .returned, [rawCall], [result.map .inr]⟩
      | .error message =>
        let invalid := rawAttemptCall client raw reply.elapsedMs
        if attemptIndex = maxStructuredOutputAttempts - 1 then
          ⟨.error (.judgeOutputValidation message), .exhausted, [rawCall], [invalid]⟩
        else
          (attemptRecorded left (attemptIndex + 1)
            (validationRetryPrompt repr prompt raw.output message) (some message)).after
              rawCall invalid

def generateRecorded : Generation T :=
  attemptRecorded repr client position prompt responseModel maxStructuredOutputAttempts 0 prompt
    none

/-- The record adds nothing to what the loop returns and logs. -/
theorem attemptStructured_eq (left attemptIndex : ℕ) (currentPrompt : String)
    (lastValidationError : Option String) :
    attemptStructured repr client position prompt responseModel left attemptIndex currentPrompt
        lastValidationError =
      let generation := attemptRecorded repr client position prompt responseModel left attemptIndex
        currentPrompt lastValidationError
      (generation.outcome, generation.callLog) := by
  induction left generalizing attemptIndex currentPrompt lastValidationError with
  | zero => rfl
  | succ left ih =>
    simp only [attemptStructured, attemptRecorded]
    cases (client.rawComplete position attemptIndex currentPrompt responseModel.schema).outcome with
    | raised error => rfl
    | rawOutputError message =>
      dsimp only
      split
      · rfl
      · rw [ih]
        rfl
    | completion raw =>
      dsimp only
      cases responseModel.validate raw.output with
      | ok output => rfl
      | error message =>
        dsimp only
        split
        · rfl
        · rw [ih]
          rfl

theorem generateStructured_eq :
    generateStructured repr client position prompt responseModel =
      ((generateRecorded repr client position prompt responseModel).outcome,
        (generateRecorded repr client position prompt responseModel).callLog) :=
  attemptStructured_eq repr client position prompt responseModel maxStructuredOutputAttempts 0
    prompt none

/-! ### What an attempt comes to -/

/-- A raw outcome after the validation of its output. -/
inductive RawVerdict (T : Type) where
  | valid (raw : RawJudgeCompletion) (output : T)
  | schemaInvalid (raw : RawJudgeCompletion) (message : String)
  | noOutput (message : String)
  | raised (error : Error)

def verdict : RawOutcome → RawVerdict T
  | .raised error => .raised error
  | .rawOutputError message => .noOutput message
  | .completion raw =>
    match responseModel.validate raw.output with
    | .ok output => .valid raw output
    | .error message => .schemaInvalid raw message

end Generate

/-- What a corrective prompt quotes: the invalid response and the validation error. -/
def RawVerdict.correction {T : Type} : RawVerdict T → Option (JsonObject × String)
  | .schemaInvalid raw message => some (raw.output, message)
  | .noOutput message => some ([], message)
  | .valid _ _ => none
  | .raised _ => none

def RawVerdict.Retryable {T : Type} (v : RawVerdict T) : Prop := v.correction.isSome

/- The entry of call_log for an attempt. -/
def loggedCall {T : Type} (client : JudgeClient) (elapsedMs : ℤ) : RawVerdict T → LoggedCall T
  | .valid raw output => (validatedCall client raw elapsedMs output).map .inr
  | .schemaInvalid raw _ => rawAttemptCall client raw elapsedMs
  | .noOutput _ => rawFailedCall client elapsedMs
  | .raised _ => rawFailedCall client elapsedMs

/-- How the last attempt ends the loop. -/
def ending {T : Type} (client : JudgeClient) (elapsedMs : ℤ) :
    RawVerdict T → Exit × Except Error (JudgeCallResult T)
  | .valid raw output => (.returned, .ok (validatedCall client raw elapsedMs output))
  | .schemaInvalid _ message => (.exhausted, .error (.judgeOutputValidation message))
  | .noOutput message => (.exhausted, .error (.judgeOutputValidation message))
  | .raised error => (.reraised, .error error)

/-! ### The attempts are exchanges -/

section Exchanges
variable {T : Type} (repr : JsonObject → String) (client : JudgeClient) (position : ℕ)
  (prompt : String) (responseModel : ResponseModel T)

def rawReply (attemptIndex : ℕ) (currentPrompt : String) : RawReply :=
  client.rawComplete position attemptIndex currentPrompt responseModel.schema

def correctivePrompt (reply : RawReply) : Option String :=
  (verdict responseModel reply.outcome).correction.map fun correction =>
    validationRetryPrompt repr prompt correction.1 correction.2

/-- The prompt of an attempt, had it been made, and so with the reply and what it comes to. -/
def promptAt (i : ℕ) : String :=
  Retry.requestAt (rawReply client position responseModel)
    (correctivePrompt repr prompt responseModel) prompt i

def replyAt (i : ℕ) : RawReply :=
  rawReply client position responseModel i (promptAt repr client position prompt responseModel i)

def verdictAt (i : ℕ) : RawVerdict T :=
  verdict responseModel (replyAt repr client position prompt responseModel i).outcome

theorem attemptRecorded_ends (left attemptIndex : ℕ) (currentPrompt : String)
    (lastValidationError : Option String)
    (h : (verdict responseModel
          (rawReply client position responseModel attemptIndex currentPrompt).outcome).correction =
        none ∨ attemptIndex = maxStructuredOutputAttempts - 1) :
    let reply := rawReply client position responseModel attemptIndex currentPrompt
    let ended := ending client reply.elapsedMs (verdict responseModel reply.outcome)
    attemptRecorded repr client position prompt responseModel (left + 1) attemptIndex currentPrompt
        lastValidationError =
      ⟨ended.2, ended.1, [⟨currentPrompt, responseModel.schema⟩],
        [loggedCall client reply.elapsedMs (verdict responseModel reply.outcome)]⟩ := by
  unfold rawReply at h ⊢
  simp only [attemptRecorded]
  generalize client.rawComplete position attemptIndex currentPrompt responseModel.schema = reply
    at h ⊢
  cases houtcome : reply.outcome with
  | raised error => rfl
  | rawOutputError message =>
    have hlast : attemptIndex = maxStructuredOutputAttempts - 1 := by
      rcases h with hcorrection | hlast
      · rw [houtcome] at hcorrection
        cases hcorrection
      · exact hlast
    simp only [if_pos hlast]
    rfl
  | completion raw =>
    cases hvalid : responseModel.validate raw.output with
    | ok output => simp only [verdict, hvalid, ending, loggedCall]
    | error message =>
      have hlast : attemptIndex = maxStructuredOutputAttempts - 1 := by
        rcases h with hcorrection | hlast
        · simp only [houtcome, verdict, hvalid] at hcorrection
          cases hcorrection
        · exact hlast
      simp only [if_pos hlast, verdict, hvalid, ending, loggedCall]

theorem attemptRecorded_retries (left attemptIndex : ℕ) (currentPrompt next : String)
    (lastValidationError : Option String)
    (hnext : correctivePrompt repr prompt responseModel
      (rawReply client position responseModel attemptIndex currentPrompt) = some next)
    (hlast : attemptIndex ≠ maxStructuredOutputAttempts - 1) :
    let reply := rawReply client position responseModel attemptIndex currentPrompt
    ∃ validationError,
      attemptRecorded repr client position prompt responseModel (left + 1) attemptIndex
          currentPrompt lastValidationError =
        (attemptRecorded repr client position prompt responseModel left (attemptIndex + 1) next
          (some validationError)).after ⟨currentPrompt, responseModel.schema⟩
          (loggedCall client reply.elapsedMs (verdict responseModel reply.outcome)) := by
  unfold rawReply at hnext ⊢
  simp only [attemptRecorded]
  generalize client.rawComplete position attemptIndex currentPrompt responseModel.schema = reply
    at hnext ⊢
  cases houtcome : reply.outcome with
  | raised error =>
    rw [correctivePrompt, houtcome] at hnext
    cases hnext
  | rawOutputError message =>
    rw [correctivePrompt, houtcome] at hnext
    cases hnext
    refine ⟨message, ?_⟩
    simp only [if_neg hlast]
    rfl
  | completion raw =>
    cases hvalid : responseModel.validate raw.output with
    | ok output =>
      simp only [correctivePrompt, houtcome, verdict, hvalid] at hnext
      cases hnext
    | error message =>
      simp only [correctivePrompt, houtcome, verdict, hvalid] at hnext
      cases hnext
      refine ⟨message, ?_⟩
      simp only [if_neg hlast, verdict, hvalid, loggedCall]

/-- The record is that of these exchanges. -/
structure Conducts (exchanges : List (String × RawReply)) (generation : Generation T) : Prop where
  rawCalls : generation.rawCalls = exchanges.map fun exchange =>
    ⟨exchange.1, responseModel.schema⟩
  callLog : generation.callLog = exchanges.map fun exchange =>
    loggedCall client exchange.2.elapsedMs (verdict responseModel exchange.2.outcome)
  ending : ∃ last, exchanges.getLast? = some last ∧
    ending client last.2.elapsedMs (verdict responseModel last.2.outcome) =
      (generation.exit, generation.outcome)

/-- One attempt for each left; the last index is reached with the last of them. -/
theorem attemptRecorded_conducts (left attemptIndex : ℕ) (currentPrompt : String)
    (lastValidationError : Option String)
    (hindex : attemptIndex + (left + 1) = maxStructuredOutputAttempts) :
    Conducts client responseModel
      (Retry.exchanges (rawReply client position responseModel)
        (correctivePrompt repr prompt responseModel) (left + 1) attemptIndex currentPrompt)
      (attemptRecorded repr client position prompt responseModel (left + 1) attemptIndex
        currentPrompt lastValidationError) := by
  induction left generalizing attemptIndex currentPrompt lastValidationError with
  | zero =>
    have hlast : attemptIndex = maxStructuredOutputAttempts - 1 := by omega
    rw [attemptRecorded_ends repr client position prompt responseModel 0 attemptIndex currentPrompt
      lastValidationError (.inr hlast)]
    have hsingle : Retry.exchanges (rawReply client position responseModel)
        (correctivePrompt repr prompt responseModel) 1 attemptIndex currentPrompt =
        [(currentPrompt, rawReply client position responseModel attemptIndex currentPrompt)] := by
      cases hnext : correctivePrompt repr prompt responseModel
          (rawReply client position responseModel attemptIndex currentPrompt) with
      | none => exact Retry.exchanges_settled _ _ 0 attemptIndex currentPrompt hnext
      | some next => exact Retry.exchanges_corrected _ _ 0 attemptIndex currentPrompt next hnext
    rw [hsingle]
    exact ⟨rfl, rfl, _, rfl, rfl⟩
  | succ left ih =>
    cases hnext : correctivePrompt repr prompt responseModel
        (rawReply client position responseModel attemptIndex currentPrompt) with
    | none =>
      have hsettled := Option.map_eq_none_iff.mp hnext
      rw [attemptRecorded_ends repr client position prompt responseModel (left + 1) attemptIndex
        currentPrompt lastValidationError (.inl hsettled),
        Retry.exchanges_settled _ _ (left + 1) attemptIndex currentPrompt hnext]
      exact ⟨rfl, rfl, _, rfl, rfl⟩
    | some next =>
      obtain ⟨validationError, hretry⟩ := attemptRecorded_retries repr client position prompt
        responseModel (left + 1) attemptIndex currentPrompt next lastValidationError hnext (by omega)
      have hrest := ih (attemptIndex + 1) next (some validationError) (by omega)
      obtain ⟨last, hlast, hending⟩ := hrest.ending
      rw [hretry, Retry.exchanges_corrected _ _ (left + 1) attemptIndex currentPrompt next hnext]
      refine ⟨?_, ?_, last, ?_, hending⟩
      · rw [List.map_cons, ← hrest.rawCalls]
        rfl
      · rw [List.map_cons, ← hrest.callLog]
        rfl
      · rw [List.getLast?_cons, hlast]
        rfl

/-- The attempts of one generate_structured. -/
def attemptExchanges : List (String × RawReply) :=
  Retry.exchanges (rawReply client position responseModel)
    (correctivePrompt repr prompt responseModel) maxStructuredOutputAttempts 0 prompt

theorem attemptExchanges_eq :
    attemptExchanges repr client position prompt responseModel =
      (List.range (attemptExchanges repr client position prompt responseModel).length).map fun i =>
        (promptAt repr client position prompt responseModel i,
          replyAt repr client position prompt responseModel i) := by
  have h := Retry.exchanges_eq (rawReply client position responseModel)
    (correctivePrompt repr prompt responseModel) prompt maxStructuredOutputAttempts 0
  simp only [Nat.zero_add] at h
  exact h

theorem generateRecorded_conducts :
    Conducts client responseModel (attemptExchanges repr client position prompt responseModel)
      (generateRecorded repr client position prompt responseModel) :=
  attemptRecorded_conducts repr client position prompt responseModel 2 0 prompt none rfl

/-- As many raw calls as attempts, and one entry of call_log for each, in their order. -/
theorem generateRecorded_attempts :
    let generation := generateRecorded repr client position prompt responseModel
    generation.rawCalls.length =
        (attemptExchanges repr client position prompt responseModel).length ∧
      generation.rawCalls = (List.range generation.rawCalls.length).map (fun i =>
        ⟨promptAt repr client position prompt responseModel i, responseModel.schema⟩) ∧
      generation.callLog = (List.range generation.rawCalls.length).map fun i =>
        loggedCall client (replyAt repr client position prompt responseModel i).elapsedMs
          (verdictAt repr client position prompt responseModel i) := by
  intro generation
  have hconducts := generateRecorded_conducts repr client position prompt responseModel
  have hexchanges := attemptExchanges_eq repr client position prompt responseModel
  have hlength : generation.rawCalls.length =
      (attemptExchanges repr client position prompt responseModel).length := by
    rw [hconducts.rawCalls, List.length_map]
  refine ⟨hlength, ?_, ?_⟩
  · rw [hlength, hconducts.rawCalls]
    nth_rewrite 1 [hexchanges]
    rw [List.map_map]
    rfl
  · rw [hlength, hconducts.callLog]
    nth_rewrite 1 [hexchanges]
    rw [List.map_map]
    rfl

/-! ### Bounded corrective retry -/

/-- The attempts, numbered from 0, that one generate_structured makes of those it could make,
and what it returns, raises, logs and sends. -/
structure RetriesExactly (generation : Generation T) : Prop where
  settled : ∀ i < maxStructuredOutputAttempts,
    (∀ j < i, (verdictAt repr client position prompt responseModel j).Retryable) →
    ¬ (verdictAt repr client position prompt responseModel i).Retryable →
      generation.rawCalls.length = i + 1
  unsettled : (∀ i < maxStructuredOutputAttempts,
      (verdictAt repr client position prompt responseModel i).Retryable) →
    generation.rawCalls.length = maxStructuredOutputAttempts
  returned : ∀ result, generation.exit = .returned ∧ generation.outcome = .ok result ↔
    ∃ raw output, verdictAt repr client position prompt responseModel
        (generation.rawCalls.length - 1) = .valid raw output ∧
      result = validatedCall client raw (replyAt repr client position prompt responseModel
        (generation.rawCalls.length - 1)).elapsedMs output
  reraised : ∀ error, generation.exit = .reraised ∧ generation.outcome = .error error ↔
    verdictAt repr client position prompt responseModel (generation.rawCalls.length - 1) =
      .raised error
  exhausted : generation.exit = .exhausted ↔ ∀ i < maxStructuredOutputAttempts,
    (verdictAt repr client position prompt responseModel i).Retryable
  validationError : generation.exit = .exhausted → ∃ response message,
    (verdictAt repr client position prompt responseModel
      (maxStructuredOutputAttempts - 1)).correction = some (response, message) ∧
      generation.outcome = .error (.judgeOutputValidation message)
  unreachable : generation.exit ≠ .afterLoop
  callLog : generation.callLog = (List.range generation.rawCalls.length).map fun i =>
    loggedCall client (replyAt repr client position prompt responseModel i).elapsedMs
      (verdictAt repr client position prompt responseModel i)
  lastLogged : ∀ result, generation.outcome = .ok result →
    generation.callLog.getLast? = some (result.map .inr)
  prompts : generation.rawCalls = (List.range generation.rawCalls.length).map fun i =>
    ⟨promptAt repr client position prompt responseModel i, responseModel.schema⟩
  firstPrompt : promptAt repr client position prompt responseModel 0 = prompt
  retryPrompts : ∀ i, i + 1 < generation.rawCalls.length → ∃ response message,
    (verdictAt repr client position prompt responseModel i).correction = some (response, message) ∧
      promptAt repr client position prompt responseModel (i + 1) =
        prompt ++
          "\n\nPrevious judge response failed validation. Return a corrected structured " ++
          "tool response that matches the schema exactly.\nInvalid response: " ++ repr response ++
          "\nValidation error: " ++ message

/-- The prompt of a retry: the first one, and one correction block after it. -/
theorem validationRetryPrompt_eq (response : JsonObject) (message : String) :
    validationRetryPrompt repr prompt response message =
      prompt ++
        "\n\nPrevious judge response failed validation. Return a corrected structured " ++
        "tool response that matches the schema exactly.\nInvalid response: " ++ repr response ++
        "\nValidation error: " ++ message := by
  have hfailed : "\n\nPrevious judge response failed validation. Return a corrected structured " =
      "\n\n" ++ "Previous judge response failed validation. Return a corrected structured " := by
    simp only [String.reduceAppend]
  have hinvalid : "tool response that matches the schema exactly.\nInvalid response: " =
      "tool response that matches the schema exactly.\n" ++ "Invalid response: " := by
    simp only [String.reduceAppend]
  have herror : "\nValidation error: " = "\n" ++ "Validation error: " := by
    simp only [String.reduceAppend]
  simp only [validationRetryPrompt, hfailed, hinvalid, herror, String.append_assoc]

theorem correctivePrompt_isSome (i : ℕ) :
    (correctivePrompt repr prompt responseModel
      (replyAt repr client position prompt responseModel i)).isSome =
      (verdictAt repr client position prompt responseModel i).correction.isSome :=
  Option.isSome_map

/-- An attempt is made when those before it are all retryable. -/
theorem attempted_iff (i : ℕ) :
    i < (attemptExchanges repr client position prompt responseModel).length ↔
      i < maxStructuredOutputAttempts ∧
        ∀ j < i, (verdictAt repr client position prompt responseModel j).Retryable := by
  have h := Retry.lt_length_iff (rawReply client position responseModel)
    (correctivePrompt repr prompt responseModel) prompt maxStructuredOutputAttempts 0 i
  simp only [Nat.zero_add] at h
  refine h.trans (and_congr_right fun _ => forall₂_congr fun j _ => ?_)
  exact iff_of_eq (congrArg (· = true) (correctivePrompt_isSome repr client position prompt
    responseModel j))

section Attempts
variable (n : ℕ) (hn : (attemptExchanges repr client position prompt responseModel).length = n)
include hn

theorem attempts_pos : 0 < n := by
  rw [← hn, attempted_iff]
  exact ⟨by decide, by omega⟩

theorem attempts_corrected (i : ℕ) (hi : i + 1 < n) :
    (verdictAt repr client position prompt responseModel i).Retryable := by
  rw [← hn, attempted_iff] at hi
  exact hi.2 i (Nat.lt_succ_self i)

theorem attempts_settled (i : ℕ) (hi : i < maxStructuredOutputAttempts)
    (hbefore : ∀ j < i, (verdictAt repr client position prompt responseModel j).Retryable)
    (hsettled : ¬ (verdictAt repr client position prompt responseModel i).Retryable) :
    n = i + 1 := by
  have hmade : i < n := hn ▸ (attempted_iff repr client position prompt responseModel i).mpr
    ⟨hi, hbefore⟩
  have hlast : ¬ i + 1 < n := by
    intro hmore
    exact hsettled (attempts_corrected repr client position prompt responseModel n hn i hmore)
  omega

theorem attempts_unsettled
    (h : ∀ i < maxStructuredOutputAttempts,
      (verdictAt repr client position prompt responseModel i).Retryable) :
    n = maxStructuredOutputAttempts := by
  have hmade : 2 < n := hn ▸ (attempted_iff repr client position prompt responseModel 2).mpr
    ⟨by decide, fun j hj => h j (hj.trans (by decide))⟩
  have hmost : ¬ 3 < n := by
    rw [← hn, attempted_iff]
    intro hmore
    exact absurd hmore.1 (by decide)
  have hthree : maxStructuredOutputAttempts = 3 := rfl
  omega

/-- The last attempt is retryable only when the attempts are used up. -/
theorem attempts_used (h : (verdictAt repr client position prompt responseModel (n - 1)).Retryable) :
    n = maxStructuredOutputAttempts ∧ ∀ i < maxStructuredOutputAttempts,
      (verdictAt repr client position prompt responseModel i).Retryable := by
  have hpos := attempts_pos repr client position prompt responseModel n hn
  have hall : ∀ i < n, (verdictAt repr client position prompt responseModel i).Retryable := by
    intro i hi
    by_cases hlast : i + 1 < n
    · exact attempts_corrected repr client position prompt responseModel n hn i hlast
    · have hi : i = n - 1 := by omega
      rw [hi]
      exact h
  have hmost : n - 1 < maxStructuredOutputAttempts := by
    have hlast : n - 1 < n := by omega
    rw [← hn, attempted_iff, hn] at hlast
    exact hlast.1
  have hnot : ¬ n < n := Nat.lt_irrefl n
  nth_rewrite 2 [← hn] at hnot
  rw [attempted_iff] at hnot
  have hn : n = maxStructuredOutputAttempts := by
    by_contra hne
    exact hnot ⟨by omega, hall⟩
  exact ⟨hn, hn ▸ hall⟩

end Attempts

end Exchanges

/-! ### How the loop is left -/

section Ending
variable {T : Type} (client : JudgeClient) (elapsedMs : ℤ) (v : RawVerdict T)

theorem ending_returned (result : JudgeCallResult T) :
    ending client elapsedMs v = (.returned, .ok result) ↔
      ∃ raw output, v = .valid raw output ∧ result = validatedCall client raw elapsedMs output := by
  cases v with
  | valid raw output =>
    constructor
    · intro h
      cases h
      exact ⟨raw, output, rfl, rfl⟩
    · intro h
      obtain ⟨raw', output', hv, rfl⟩ := h
      cases hv
      rfl
  | schemaInvalid raw message => simp [ending]
  | noOutput message => simp [ending]
  | raised error => simp [ending]

theorem ending_reraised (error : Error) :
    ending client elapsedMs v = (.reraised, .error error) ↔ v = .raised error := by
  cases v with
  | valid raw output => simp [ending]
  | schemaInvalid raw message => simp [ending]
  | noOutput message => simp [ending]
  | raised error' => simp [ending]

theorem ending_exhausted : (ending client elapsedMs v).1 = .exhausted ↔ v.Retryable := by
  cases v <;> simp [ending, RawVerdict.Retryable, RawVerdict.correction]

theorem ending_validationError (h : (ending client elapsedMs v).1 = .exhausted) :
    ∃ response message, v.correction = some (response, message) ∧
      (ending client elapsedMs v).2 = .error (.judgeOutputValidation message) := by
  cases v with
  | valid raw output => cases h
  | schemaInvalid raw message => exact ⟨raw.output, message, rfl, rfl⟩
  | noOutput message => exact ⟨[], message, rfl, rfl⟩
  | raised error => cases h

theorem ending_reachable : (ending client elapsedMs v).1 ≠ .afterLoop := by
  cases v <;> simp [ending]

theorem ending_logged (result : JudgeCallResult T) (h : (ending client elapsedMs v).2 = .ok result) :
    loggedCall client elapsedMs v = result.map .inr := by
  cases v with
  | valid raw output =>
    cases h
    rfl
  | schemaInvalid raw message => cases h
  | noOutput message => cases h
  | raised error => cases h

end Ending

section Bounded
variable {T : Type} (repr : JsonObject → String) (client : JudgeClient) (position : ℕ)
  (prompt : String) (responseModel : ResponseModel T)

/-- Whatever the provider answers: as many attempts as it takes, three at most, and what is
returned, raised, logged and sent is as the attempts say. -/
theorem bounded_retry_exact :
    RetriesExactly repr client position prompt responseModel
        (generateRecorded repr client position prompt responseModel) ∧
      generateStructured repr client position prompt responseModel =
        ((generateRecorded repr client position prompt responseModel).outcome,
          (generateRecorded repr client position prompt responseModel).callLog) := by
  refine ⟨?_, generateStructured_eq repr client position prompt responseModel⟩
  have hconducts := generateRecorded_conducts repr client position prompt responseModel
  have hexchanges := attemptExchanges_eq repr client position prompt responseModel
  obtain ⟨hlength, hprompts, hlog⟩ :=
    generateRecorded_attempts repr client position prompt responseModel
  have hpos := attempts_pos repr client position prompt responseModel _ rfl
  have hcorrected := attempts_corrected repr client position prompt responseModel _ rfl
  have hsettled := attempts_settled repr client position prompt responseModel _ rfl
  have hunsettled := attempts_unsettled repr client position prompt responseModel _ rfl
  have hused := attempts_used repr client position prompt responseModel _ rfl
  generalize attemptExchanges repr client position prompt responseModel = exchanges at *
  generalize generateRecorded repr client position prompt responseModel = generation at *
  obtain ⟨last, hlast, hending⟩ := hconducts.ending
  have hreply : last.2 = replyAt repr client position prompt responseModel (exchanges.length - 1) := by
    have hget := hlast
    rw [hexchanges, List.getLast?_map, List.getLast?_range, if_neg (by omega)] at hget
    cases hget
    rfl
  rw [hreply] at hending
  have hexit : (ending client _ _).1 = generation.exit := congrArg Prod.fst hending
  have houtcome : (ending client _ _).2 = generation.outcome := congrArg Prod.snd hending
  have hends : ∀ exit outcome, generation.exit = exit ∧ generation.outcome = outcome ↔
      (generation.exit, generation.outcome) = (exit, outcome) := by
    intro exit outcome
    exact Prod.mk_inj.symm
  exact
    { settled := by
        intro i hi hbefore hfinal
        rw [hlength]
        exact hsettled i hi hbefore hfinal
      unsettled := by
        intro hall
        rw [hlength]
        exact hunsettled hall
      returned := by
        intro result
        rw [hends, ← hending, hlength]
        exact ending_returned client _ _ result
      reraised := by
        intro error
        rw [hends, ← hending, hlength]
        exact ending_reraised client _ _ error
      exhausted := by
        rw [← hexit, ending_exhausted]
        constructor
        · intro hlast
          exact (hused hlast).2
        · intro hall
          have hn := hunsettled hall
          rw [hn]
          exact hall _ (by decide)
      validationError := by
        intro hexhausted
        rw [← hexit] at hexhausted
        obtain ⟨response, message, hcorrection, herror⟩ :=
          ending_validationError client _ _ hexhausted
        have hn := (hused ((ending_exhausted client _ _).mp hexhausted)).1
        rw [hn] at hcorrection
        exact ⟨response, message, hcorrection, houtcome.symm.trans herror⟩
      unreachable := by
        rw [← hexit]
        exact ending_reachable client _ _
      callLog := hlog
      lastLogged := by
        intro result hresult
        rw [hlog, hlength, List.getLast?_map, List.getLast?_range, if_neg (by omega)]
        exact congrArg some (ending_logged client _ _ result (houtcome.trans hresult))
      prompts := hprompts
      firstPrompt := rfl
      retryPrompts := by
        intro i hi
        rw [hlength] at hi
        obtain ⟨correction, hcorrection⟩ := Option.isSome_iff_exists.mp (hcorrected i hi)
        refine ⟨correction.1, correction.2, hcorrection, ?_⟩
        rw [← validationRetryPrompt_eq]
        apply Retry.requestAt_corrected
        exact congrArg (Option.map _) hcorrection }

end Bounded

end ObsPlatform.Evaluation
