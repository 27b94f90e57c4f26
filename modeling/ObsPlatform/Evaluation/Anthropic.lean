import ObsPlatform.Evaluation.Retries
import ObsPlatform.Lib.GroupBy

/-!
# The Anthropic judge client (evaluation/judges/client.py)

`rawComplete` asks the messages API for one forced tool call and reads its input. A message
carries its own token usage; the usage enters the completion only after the input was read,
so a message without a usable input is logged as if it had cost nothing.
-/

namespace ObsPlatform.Evaluation

open Telemetry Db

/-! ### Messages -/

def structuredOutputToolName : String := "structured_judge_output"

/- A content block, with the attributes read from it. -/
structure ContentBlock where
  type : Option String
  name : Option String
  input : Json

structure MessageUsage where
  inputTokens : ℕ
  outputTokens : ℕ

structure Message where
  content : List ContentBlock
  usage : MessageUsage

structure ForcedTool where
  name : String
  description : String
  inputSchema : JsonObject

/- The keyword arguments of messages.create; the one message is the user's. -/
structure MessagesRequest where
  model : String
  maxTokens : ℤ
  userContent : String
  tools : List ForcedTool
  toolChoice : String

/-- The client; its API answers by evaluator position, attempt and request. -/
structure AnthropicJudgeClient where
  model : String
  maxTokens : ℤ := 1024
  create : ℕ → ℕ → MessagesRequest → Except Error Message
  elapsedMs : ℕ → ℕ → ℤ

def isForcedToolCall (block : ContentBlock) : Bool :=
  block.type = some "tool_use" ∧ block.name = some structuredOutputToolName

def extractForcedToolInput (message : Message) : Except String JsonObject :=
  match message.content.find? isForcedToolCall with
  | none => .error "judge response did not include the forced structured tool call"
  | some block =>
    match block.input with
    | .obj toolInput => .ok toolInput
    | _ => .error "structured judge tool input must be an object"

/- Input and output rates. -/
def anthropicPricePerMillionTokens (model : String) : ℚ × ℚ :=
  if "sonnet".toList <:+: model.toList then (3, 15)
  else if "haiku".toList <:+: model.toList then (8 / 10, 4)
  else if "opus".toList <:+: model.toList then (15, 75)
  else (0, 0)

def estimateAnthropicCostUsd (model : String) (promptTokens completionTokens : ℤ) : ℚ :=
  let rates := anthropicPricePerMillionTokens model
  promptTokens / 1000000 * rates.1 + completionTokens / 1000000 * rates.2

namespace AnthropicJudgeClient
variable (client : AnthropicJudgeClient)

def messagesRequest (prompt : String) (schema : JsonObject) : MessagesRequest where
  model := client.model
  maxTokens := client.maxTokens
  userContent := prompt
  tools := [⟨structuredOutputToolName, "Return the structured judge evaluation result.", schema⟩]
  toolChoice := structuredOutputToolName

def completionOf (message : Message) (output : JsonObject) : RawJudgeCompletion where
  output := output
  promptTokens := message.usage.inputTokens
  completionTokens := message.usage.outputTokens
  estimatedCostUsd :=
    estimateAnthropicCostUsd client.model message.usage.inputTokens message.usage.outputTokens

def rawOutcome : Except Error Message → RawOutcome
  | .error error => .raised error
  | .ok message =>
    match extractForcedToolInput message with
    | .ok output => .completion (client.completionOf message output)
    | .error text => .rawOutputError text

def judgeClient : JudgeClient where
  provider := "anthropic"
  model := client.model
  rawComplete := fun position attemptIndex prompt schema =>
    { outcome := client.rawOutcome
        (client.create position attemptIndex (client.messagesRequest prompt schema))
      elapsedMs := client.elapsedMs position attemptIndex }

end AnthropicJudgeClient

/-! ### What a call costs and what it logs -/

section Spend
variable {T : Type} (repr : JsonObject → String) (client : AnthropicJudgeClient) (position : ℕ)
  (prompt : String) (responseModel : ResponseModel T)

/-- The API's answer to an attempt, had it been made. -/
def messageAt (i : ℕ) : Except Error Message :=
  client.create position i (client.messagesRequest
    (promptAt repr client.judgeClient position prompt responseModel i) responseModel.schema)

/-- The messages the API returned during the call. -/
def receivedMessages : List Message :=
  (List.range (generateRecorded repr client.judgeClient position prompt
    responseModel).rawCalls.length).filterMap fun i =>
      (messageAt repr client position prompt responseModel i).toOption

/-- The entries appended to call_log carry all the tokens of the messages received. -/
structure SpendAccounted : Prop where
  promptTokens :
    ((generateStructured repr client.judgeClient position prompt responseModel).2.map
      JudgeCallResult.promptTokens).sum =
    ((receivedMessages repr client position prompt responseModel).map fun message =>
      (message.usage.inputTokens : ℤ)).sum
  completionTokens :
    ((generateStructured repr client.judgeClient position prompt responseModel).2.map
      JudgeCallResult.completionTokens).sum =
    ((receivedMessages repr client position prompt responseModel).map fun message =>
      (message.usage.outputTokens : ℤ)).sum

/-- No message that the call comes to lacks a usable tool input and yet reports tokens. -/
def UnusableFree : Prop :=
  ∀ i < maxStructuredOutputAttempts,
    (∀ j < i, (verdictAt repr client.judgeClient position prompt responseModel j).Retryable) →
    ∀ message text, messageAt repr client position prompt responseModel i = .ok message →
      extractForcedToolInput message = .error text →
        message.usage.inputTokens = 0 ∧ message.usage.outputTokens = 0

/-! ### One kind of tokens -/

/-- A column of call_log that a completion fills from its message. -/
structure Fills (tokens : LoggedCall T → ℤ) (reported : MessageUsage → ℕ) : Prop where
  failed : ∀ elapsedMs, tokens (rawFailedCall client.judgeClient elapsedMs) = 0
  invalid : ∀ message output elapsedMs,
    tokens (rawAttemptCall client.judgeClient (client.completionOf message output) elapsedMs) =
      reported message.usage
  valid : ∀ message input elapsedMs output,
    tokens ((validatedCall client.judgeClient (client.completionOf message input) elapsedMs
      output).map .inr) = reported message.usage

theorem promptTokens_fills :
    Fills client (JudgeCallResult.promptTokens : LoggedCall T → ℤ) MessageUsage.inputTokens :=
  ⟨fun _ => rfl, fun _ _ _ => rfl, fun _ _ _ _ => rfl⟩

theorem completionTokens_fills :
    Fills client (JudgeCallResult.completionTokens : LoggedCall T → ℤ) MessageUsage.outputTokens :=
  ⟨fun _ => rfl, fun _ _ _ => rfl, fun _ _ _ _ => rfl⟩

/- The entry of call_log for an attempt. -/
def loggedAt (i : ℕ) : LoggedCall T :=
  loggedCall client.judgeClient
    (replyAt repr client.judgeClient position prompt responseModel i).elapsedMs
    (verdictAt repr client.judgeClient position prompt responseModel i)

section Column
variable (tokens : LoggedCall T → ℤ) (reported : MessageUsage → ℕ)
  (hfills : Fills client tokens reported)

def reportedAt (i : ℕ) : ℤ :=
  ((messageAt repr client position prompt responseModel i).toOption.map fun message =>
    (reported message.usage : ℤ)).getD 0

include hfills

theorem logged_of_failed (i : ℕ) (error : Error)
    (h : messageAt repr client position prompt responseModel i = .error error) :
    tokens (loggedAt repr client position prompt responseModel i) =
      reportedAt repr client position prompt responseModel reported i := by
  have hverdict : verdictAt repr client.judgeClient position prompt responseModel i =
      .raised error := congrArg (fun reply => verdict responseModel (client.rawOutcome reply)) h
  rw [loggedAt, hverdict, reportedAt, h]
  exact hfills.failed _

theorem logged_of_usable (i : ℕ) (message : Message) (output : JsonObject)
    (h : messageAt repr client position prompt responseModel i = .ok message)
    (husable : extractForcedToolInput message = .ok output) :
    tokens (loggedAt repr client position prompt responseModel i) =
      reportedAt repr client position prompt responseModel reported i := by
  have houtcome : client.rawOutcome (.ok message) =
      .completion (client.completionOf message output) := by
    simp only [AnthropicJudgeClient.rawOutcome, husable]
  have hverdict : verdictAt repr client.judgeClient position prompt responseModel i =
      verdict responseModel (.completion (client.completionOf message output)) :=
    (congrArg (fun reply => verdict responseModel (client.rawOutcome reply)) h).trans
      (congrArg (verdict responseModel) houtcome)
  rw [loggedAt, hverdict, reportedAt, h, verdict]
  cases responseModel.validate (client.completionOf message output).output with
  | ok validated => exact hfills.valid _ _ _ _
  | error text => exact hfills.invalid _ _ _

theorem logged_of_unusable (i : ℕ) (message : Message) (text : String)
    (h : messageAt repr client position prompt responseModel i = .ok message)
    (hunusable : extractForcedToolInput message = .error text) :
    tokens (loggedAt repr client position prompt responseModel i) = 0 ∧
      reportedAt repr client position prompt responseModel reported i =
        reported message.usage := by
  have houtcome : client.rawOutcome (.ok message) = .rawOutputError text := by
    simp only [AnthropicJudgeClient.rawOutcome, hunusable]
  have hverdict : verdictAt repr client.judgeClient position prompt responseModel i =
      .noOutput text :=
    (congrArg (fun reply => verdict responseModel (client.rawOutcome reply)) h).trans
      (congrArg (verdict responseModel) houtcome)
  constructor
  · rw [loggedAt, hverdict]
    exact hfills.failed _
  · rw [reportedAt, h]
    rfl

/-- An attempt logs all that was reported, unless its message was unusable. -/
theorem logged_iff (i : ℕ) :
    tokens (loggedAt repr client position prompt responseModel i) =
        reportedAt repr client position prompt responseModel reported i ↔
      ∀ message text, messageAt repr client position prompt responseModel i = .ok message →
        extractForcedToolInput message = .error text → reported message.usage = 0 := by
  cases hmessage : messageAt repr client position prompt responseModel i with
  | error error =>
    have hlogged := logged_of_failed repr client position prompt responseModel tokens reported
      hfills i error hmessage
    simp [hlogged]
  | ok message =>
    cases hinput : extractForcedToolInput message with
    | ok output =>
      have hlogged := logged_of_usable repr client position prompt responseModel tokens reported
        hfills i message output hmessage hinput
      constructor
      · intro _ message' text hmessage' hunusable
        cases hmessage'
        rw [hinput] at hunusable
        cases hunusable
      · intro _
        exact hlogged
    | error text =>
      obtain ⟨hlogged, hreported⟩ := logged_of_unusable repr client position prompt responseModel
        tokens reported hfills i message text hmessage hinput
      rw [hlogged, hreported]
      constructor
      · intro h message' _ hmessage' _
        cases hmessage'
        omega
      · intro h
        have hnone := h message text rfl hinput
        omega

theorem logged_le (i : ℕ) :
    tokens (loggedAt repr client position prompt responseModel i) ≤
      reportedAt repr client position prompt responseModel reported i := by
  cases hmessage : messageAt repr client position prompt responseModel i with
  | error error =>
    exact le_of_eq (logged_of_failed repr client position prompt responseModel tokens reported
      hfills i error hmessage)
  | ok message =>
    cases hinput : extractForcedToolInput message with
    | ok output =>
      exact le_of_eq (logged_of_usable repr client position prompt responseModel tokens reported
        hfills i message output hmessage hinput)
    | error text =>
      obtain ⟨hlogged, hreported⟩ := logged_of_unusable repr client position prompt responseModel
        tokens reported hfills i message text hmessage hinput
      omega

/-- The column adds up exactly when no attempt made had an unusable message with tokens. -/
theorem column_iff :
    ((generateStructured repr client.judgeClient position prompt responseModel).2.map tokens).sum =
        ((receivedMessages repr client position prompt responseModel).map fun message =>
          (reported message.usage : ℤ)).sum ↔
      ∀ i < (generateRecorded repr client.judgeClient position prompt responseModel).rawCalls.length,
        ∀ message text, messageAt repr client position prompt responseModel i = .ok message →
          extractForcedToolInput message = .error text → reported message.usage = 0 := by
  obtain ⟨_, _, hlog⟩ :=
    generateRecorded_attempts repr client.judgeClient position prompt responseModel
  rw [generateStructured_eq]
  dsimp only
  rw [hlog, receivedMessages]
  generalize (generateRecorded repr client.judgeClient position prompt
    responseModel).rawCalls.length = n
  have hlogged : (((List.range n).map (loggedAt repr client position prompt responseModel)).map
      tokens).sum = ∑ i ∈ Finset.range n,
        tokens (loggedAt repr client position prompt responseModel i) := by
    rw [List.map_map]
    rfl
  have hreported : (((List.range n).filterMap fun i =>
      (messageAt repr client position prompt responseModel i).toOption).map fun message =>
        (reported message.usage : ℤ)).sum = ∑ i ∈ Finset.range n,
          reportedAt repr client position prompt responseModel reported i := by
    rw [List.map_filterMap, sum_filterMap]
    rfl
  have hsums := Finset.sum_eq_sum_iff_of_le fun i (_ : i ∈ Finset.range n) =>
    logged_le repr client position prompt responseModel tokens reported hfills i
  refine (Eq.congr hlogged hreported).trans (hsums.trans ?_)
  simp only [Finset.mem_range]
  refine forall₂_congr fun i _ => ?_
  exact logged_iff repr client position prompt responseModel tokens reported hfills i

end Column

/-- The judge's spend is fully logged exactly when no message that the call comes to reports
tokens without a usable tool input. -/
theorem spend_accounted_iff :
    SpendAccounted repr client position prompt responseModel ↔
      UnusableFree repr client position prompt responseModel := by
  have hprompt := column_iff repr client position prompt responseModel _ _
    (promptTokens_fills (T := T) client)
  have hcompletion := column_iff repr client position prompt responseModel _ _
    (completionTokens_fills (T := T) client)
  obtain ⟨hlength, _, _⟩ :=
    generateRecorded_attempts repr client.judgeClient position prompt responseModel
  rw [hlength] at hprompt hcompletion
  constructor
  · intro h i hi hbefore message text hmessage hunusable
    have hmade := (attempted_iff repr client.judgeClient position prompt responseModel i).mpr
      ⟨hi, hbefore⟩
    exact ⟨hprompt.mp h.promptTokens i hmade message text hmessage hunusable,
      hcompletion.mp h.completionTokens i hmade message text hmessage hunusable⟩
  · intro h
    constructor
    · apply hprompt.mpr
      intro i hmade message text hmessage hunusable
      obtain ⟨hi, hbefore⟩ :=
        (attempted_iff repr client.judgeClient position prompt responseModel i).mp hmade
      exact (h i hi hbefore message text hmessage hunusable).1
    · apply hcompletion.mpr
      intro i hmade message text hmessage hunusable
      obtain ⟨hi, hbefore⟩ :=
        (attempted_iff repr client.judgeClient position prompt responseModel i).mp hmade
      exact (h i hi hbefore message text hmessage hunusable).2

end Spend

/-! ### A message without the tool call -/

/- Some text first, then the forced tool call. -/
def talkativeClient : AnthropicJudgeClient where
  model := "claude-sonnet-4-6"
  create := fun _ attemptIndex _ =>
    if attemptIndex = 0 then .ok ⟨[⟨some "text", none, .null⟩], ⟨11, 7⟩⟩
    else .ok ⟨[⟨some "tool_use", some structuredOutputToolName, .obj []⟩], ⟨20, 5⟩⟩
  elapsedMs := fun _ _ => 1

def anyOutput : ResponseModel Unit := ⟨[], fun _ => .ok ()⟩

/-- The text cost 11 and 7 tokens; the log has those of the tool call only. -/
theorem text_first_unaccounted :
    ((generateStructured (fun _ => "") talkativeClient.judgeClient 0 "Return a verdict."
        anyOutput).2.map fun call => (call.promptTokens, call.completionTokens)) =
      [(0, 0), (20, 5)] ∧
    ((receivedMessages (fun _ => "") talkativeClient 0 "Return a verdict." anyOutput).map
        fun message => (message.usage.inputTokens, message.usage.outputTokens)) =
      [(11, 7), (20, 5)] ∧
    ¬ SpendAccounted (fun _ => "") talkativeClient 0 "Return a verdict." anyOutput := by
  refine ⟨rfl, rfl, ?_⟩
  intro h
  exact absurd h.promptTokens (by decide)

end ObsPlatform.Evaluation
