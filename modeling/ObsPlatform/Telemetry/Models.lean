import Mathlib

/-!
# The telemetry contract (telemetry/v1/enums.py, telemetry/v1/models.py)

One `ExtendedRunEvent` restates a whole run: its lifecycle fields and its spans,
tool calls and LLM calls. `validateRunConsistency` is the model validator, with the
checks in the order the source makes them. Datetimes are UTC instants in
microseconds, costs are exact rationals, and JSON payloads are kept as they are.
-/

namespace ObsPlatform

abbrev Timestamp := ℤ

inductive Json where
  | null
  | bool (b : Bool)
  | int (n : ℤ)
  | num (q : ℚ)
  | str (s : String)
  | arr (items : List Json)
  | obj (entries : List (String × Json))

abbrev JsonObject := List (String × Json)

/- repr of a text; characters outside ASCII are taken to be printable. -/
def reprChar (delimiter c : Char) : List Char :=
  if c = '\\' ∨ c = delimiter then ['\\', c]
  else if c = '\n' then ['\\', 'n']
  else if c = '\r' then ['\\', 'r']
  else if c = '\t' then ['\\', 't']
  else if c.toNat < 32 ∨ c.toNat = 127 then
    ['\\', 'x', Nat.digitChar (c.toNat / 16), Nat.digitChar (c.toNat % 16)]
  else [c]

def reprText (text : String) : String :=
  let apostrophe := Char.ofNat 39
  let doubleQuote := Char.ofNat 34
  let delimiter :=
    if apostrophe ∈ text.toList ∧ doubleQuote ∉ text.toList then doubleQuote else apostrophe
  String.ofList (delimiter :: text.toList.flatMap (reprChar delimiter) ++ [delimiter])

namespace Telemetry

inductive RunStatus where
  | success
  | toolError
  | runtimeError
  | awaitingApproval
  deriving Repr, DecidableEq

def RunStatus.value : RunStatus → String
  | .success => "success"
  | .toolError => "tool_error"
  | .runtimeError => "runtime_error"
  | .awaitingApproval => "awaiting_approval"

inductive RunEventType where
  | runFinal
  | runAwaitingApproval
  deriving Repr, DecidableEq

def RunEventType.value : RunEventType → String
  | .runFinal => "run_final"
  | .runAwaitingApproval => "run_awaiting_approval"

inductive ExecutionStatus where
  | success
  | failure
  | error
  deriving Repr, DecidableEq

def ExecutionStatus.value : ExecutionStatus → String
  | .success => "success"
  | .failure => "failure"
  | .error => "error"

inductive HITLState where
  | notRequired
  | pending
  | approved
  | rejected
  deriving Repr, DecidableEq

def HITLState.value : HITLState → String
  | .notRequired => "not_required"
  | .pending => "pending"
  | .approved => "approved"
  | .rejected => "rejected"

inductive LLMCallType where
  | interpretation
  | evidenceGathering
  | synthesis
  deriving Repr, DecidableEq

def LLMCallType.value : LLMCallType → String
  | .interpretation => "interpretation"
  | .evidenceGathering => "evidence_gathering"
  | .synthesis => "synthesis"

inductive HITLDecision where
  | approve
  | reject
  deriving Repr, DecidableEq

/- schema_version is Literal["1.0"]. -/
inductive SchemaVersion where
  | v1_0
  deriving Repr, DecidableEq

structure ErrorInfo where
  category : String
  code : Option String
  message : String
  failedComponent : Option String
  deriving Repr, DecidableEq

structure Span where
  spanId : String
  parentSpanId : Option String
  name : String
  sequence : ℤ
  startedAt : Timestamp
  completedAt : Option Timestamp
  status : ExecutionStatus
  input : Option JsonObject
  output : Option JsonObject
  metadata : Option JsonObject
  error : Option ErrorInfo

structure ToolCall where
  toolCallId : String
  spanId : String
  toolName : String
  sequence : ℤ
  arguments : JsonObject
  result : Option JsonObject
  startedAt : Timestamp
  completedAt : Timestamp
  latencyMs : Option ℤ
  retryCount : ℤ := 0
  status : ExecutionStatus
  error : Option ErrorInfo

structure LLMCall where
  llmCallId : String
  spanId : String
  callType : LLMCallType
  model : String
  provider : String
  startedAt : Timestamp
  completedAt : Timestamp
  latencyMs : Option ℤ
  promptTokens : Option ℤ
  completionTokens : Option ℤ
  totalTokens : Option ℤ
  estimatedCostUsd : Option ℚ
  inputPayload : Option JsonObject
  outputPayload : Option JsonObject
  status : ExecutionStatus
  error : Option ErrorInfo

structure HITLInfo where
  required : Bool
  state : HITLState
  checkpointId : Option String
  decision : Option HITLDecision
  requestedAt : Option Timestamp
  decidedAt : Option Timestamp
  pendingAction : Option JsonObject

structure UsageSummary where
  totalLlmCalls : ℤ
  totalToolCalls : ℤ
  totalTokens : ℤ
  totalEstimatedCostUsd : ℚ
  totalRetries : ℤ

structure FinalResult where
  output : JsonObject
  sourceReferences : List String := []

structure ExtendedRunEvent where
  schemaVersion : SchemaVersion
  eventType : RunEventType
  runId : String
  agentName : String
  agentVersion : String
  promptVersion : String
  environment : String
  rawInput : String
  normalizedInput : Option String
  scenarioId : Option String
  startedAt : Timestamp
  completedAt : Option Timestamp
  status : RunStatus
  executionLatencyMs : Option ℤ
  wallClockDurationMs : Option ℤ
  resumeCount : ℤ := 0
  spans : List Span
  toolCalls : List ToolCall
  llmCalls : List LLMCall
  hitl : HITLInfo
  usage : UsageSummary
  finalResult : Option FinalResult
  runtimeError : Option ErrorInfo

/-! ### The model validator -/

/- The loop of _require_unique_ids: the ids seen so far and those seen twice. -/
def scanIds : List String → List String → List String → List String × List String
  | [], seen, duplicates => (seen, duplicates)
  | id :: ids, seen, duplicates =>
    scanIds ids (id :: seen) (if id ∈ seen then id :: duplicates else duplicates)

def requireUniqueIds (ids : List String) (fieldName : String) : Except String (List String) :=
  let scanned := scanIds ids [] []
  if scanned.2 ≠ [] then
    .error ("duplicate " ++ fieldName ++ " values: [" ++
      ", ".intercalate (scanned.2.dedup.mergeSort.map reprText) ++ "]")
  else .ok scanned.1

/- One `if condition: raise ValueError(message)`. -/
def raiseIf (condition : Bool) (message : String) : Except String Unit :=
  if condition then .error message else .ok ()

def checkParent (spanIds : List String) (span : Span) : Except String Unit :=
  match span.parentSpanId with
  | none => .ok ()
  | some parent => raiseIf (parent ∉ spanIds)
      ("span.parent_span_id references missing span_id: " ++ parent)

def validateChildIdsAndReferences (event : ExtendedRunEvent) : Except String Unit := do
  let spanIds ← requireUniqueIds (event.spans.map Span.spanId) "span_id"
  let _ ← requireUniqueIds (event.toolCalls.map ToolCall.toolCallId) "tool_call_id"
  let _ ← requireUniqueIds (event.llmCalls.map LLMCall.llmCallId) "llm_call_id"
  event.spans.forM (checkParent spanIds)
  event.toolCalls.forM fun toolCall => raiseIf (toolCall.spanId ∉ spanIds)
    ("tool_call.span_id references missing span_id: " ++ toolCall.spanId)
  event.llmCalls.forM fun llmCall => raiseIf (llmCall.spanId ∉ spanIds)
    ("llm_call.span_id references missing span_id: " ++ llmCall.spanId)

def validateAwaitingApprovalLifecycle (event : ExtendedRunEvent) : Except String Unit := do
  raiseIf event.completedAt.isSome "completed_at must be None for awaiting approval events"
  raiseIf (event.status ≠ .awaitingApproval)
    "awaiting approval events must use awaiting approval status"
  raiseIf event.finalResult.isSome "final_result must be None for awaiting approval events"
  raiseIf event.runtimeError.isSome "runtime_error must be None for awaiting approval events"
  raiseIf (event.hitl.required ≠ true ∨ event.hitl.state ≠ .pending)
    "awaiting approval events require pending HITL state"
  raiseIf event.hitl.pendingAction.isNone "pending_action is required for pending HITL state"

def validateFinalStatus (event : ExtendedRunEvent) : Except String Unit :=
  match event.status with
  | .success => do
    raiseIf event.finalResult.isNone "final_result is required for successful final events"
    raiseIf event.runtimeError.isSome "runtime_error must be None for successful final events"
    raiseIf (event.hitl.required = false ∧ event.hitl.state ≠ .notRequired)
      "non-HITL final events require not_required HITL state"
    raiseIf (event.hitl.required = true ∧ event.hitl.state ∉ [HITLState.approved, .rejected])
      "HITL final events require approved or rejected HITL state"
  | .toolError | .runtimeError => do
    raiseIf event.finalResult.isSome "final_result must be None for error final events"
    raiseIf event.runtimeError.isNone "runtime_error is required for error final events"
    raiseIf (event.hitl.required ≠ false ∨ event.hitl.state ≠ .notRequired)
      "error final events require not_required HITL state"
  | .awaitingApproval => .error "awaiting approval status is not valid for final events"

def validateFinalLifecycle (event : ExtendedRunEvent) : Except String Unit := do
  raiseIf event.completedAt.isNone "completed_at is required for final events"
  raiseIf (event.hitl.state = .pending)
    "pending HITL state is only valid for awaiting approval events"
  raiseIf event.hitl.pendingAction.isSome "pending_action must be None for final events"
  validateFinalStatus event

def validateLifecycle (event : ExtendedRunEvent) : Except String Unit :=
  match event.eventType with
  | .runAwaitingApproval => validateAwaitingApprovalLifecycle event
  | .runFinal => validateFinalLifecycle event

def validateRunConsistency (event : ExtendedRunEvent) : Except String Unit := do
  validateChildIdsAndReferences event
  validateLifecycle event

/-- The event passed the model validator. -/
def Validated (event : ExtendedRunEvent) : Prop := validateRunConsistency event = .ok ()

/-! ### What the validator guarantees -/

theorem seq_ok {β : Type} (x : Except String Unit) (y : Except String β) (b : β) :
    (do x; y) = .ok b ↔ x = .ok () ∧ y = .ok b := by
  cases x with
  | error m =>
    show Except.error m = .ok b ↔ _
    simp
  | ok u =>
    show y = .ok b ↔ _
    simp

theorem raiseIf_ok (condition : Bool) (message : String) :
    raiseIf condition message = .ok () ↔ condition = false := by
  cases condition <;> simp [raiseIf]

theorem forM_ok {α : Type} (check : α → Except String Unit) (items : List α) (u : Unit) :
    items.forM check = .ok u ↔ ∀ item ∈ items, check item = .ok () := by
  induction items with
  | nil => simp [List.forM, pure, Except.pure]
  | cons item items ih =>
    simp only [List.forM_eq_forM, List.forM_cons, List.mem_cons, forall_eq_or_imp] at ih ⊢
    rw [seq_ok, ih]

theorem scanIds_seen (ids seen duplicates : List String) (id : String) :
    id ∈ (scanIds ids seen duplicates).1 ↔ id ∈ ids ∨ id ∈ seen := by
  induction ids generalizing seen duplicates with
  | nil => simp [scanIds]
  | cons x ids ih =>
    simp only [scanIds, ih, List.mem_cons]
    tauto

theorem scanIds_duplicates (ids seen duplicates : List String) :
    (scanIds ids seen duplicates).2 = [] ↔
      duplicates = [] ∧ ids.Nodup ∧ ∀ id ∈ ids, id ∉ seen := by
  induction ids generalizing seen duplicates with
  | nil => simp [scanIds]
  | cons x ids ih =>
    simp only [scanIds, ih, List.nodup_cons, List.mem_cons, forall_eq_or_imp, not_or]
    by_cases hx : x ∈ seen
    · simp [hx]
    · simp only [hx, if_false, not_false_iff, true_and]
      constructor
      · intro hunique
        obtain ⟨hd, hn, hs⟩ := hunique
        exact ⟨hd, ⟨fun h => (hs x h).1 rfl, hn⟩, fun id h => (hs id h).2⟩
      · intro hunique
        obtain ⟨hd, ⟨hm, hn⟩, hs⟩ := hunique
        exact ⟨hd, hn, fun id h => ⟨fun he => hm (he ▸ h), hs id h⟩⟩

theorem requireUniqueIds_ok (ids : List String) (fieldName : String) (seen : List String) :
    requireUniqueIds ids fieldName = .ok seen ↔
      ids.Nodup ∧ seen = (scanIds ids [] []).1 := by
  unfold requireUniqueIds
  have hd := scanIds_duplicates ids [] []
  simp only [true_and, List.not_mem_nil, not_false_iff, implies_true, and_true] at hd
  by_cases hn : ids.Nodup
  · simp only [hd.mpr hn, ne_eq, not_true_eq_false, if_false, Except.ok.injEq, hn, true_and]
    exact eq_comm
  · have hne : (scanIds ids [] []).2 ≠ [] := fun h => hn (hd.mp h)
    simp [hne, hn]

structure ChildrenConsistent (event : ExtendedRunEvent) : Prop where
  spanIds : (event.spans.map Span.spanId).Nodup
  toolCallIds : (event.toolCalls.map ToolCall.toolCallId).Nodup
  llmCallIds : (event.llmCalls.map LLMCall.llmCallId).Nodup
  parents : ∀ span ∈ event.spans, ∀ parent, span.parentSpanId = some parent →
    parent ∈ event.spans.map Span.spanId
  toolCallSpans : ∀ toolCall ∈ event.toolCalls, toolCall.spanId ∈ event.spans.map Span.spanId
  llmCallSpans : ∀ llmCall ∈ event.llmCalls, llmCall.spanId ∈ event.spans.map Span.spanId

theorem checkParent_ok (spanIds : List String) (span : Span) :
    checkParent spanIds span = .ok () ↔
      ∀ parent, span.parentSpanId = some parent → parent ∈ spanIds := by
  unfold checkParent
  cases span.parentSpanId with
  | none => simp
  | some parent => simp [raiseIf_ok]

theorem bind_ok {α β : Type} (x : Except String α) (f : α → Except String β) (b : β) :
    (x >>= f) = .ok b ↔ ∃ a, x = .ok a ∧ f a = .ok b := by
  cases x with
  | error m =>
    show Except.error m = .ok b ↔ _
    simp
  | ok a =>
    show f a = .ok b ↔ _
    simp

theorem validateChildIdsAndReferences_ok (event : ExtendedRunEvent) :
    validateChildIdsAndReferences event = .ok () ↔ ChildrenConsistent event := by
  have hs : ∀ id, id ∈ (scanIds (event.spans.map Span.spanId) [] []).1 ↔
      id ∈ event.spans.map Span.spanId := by
    intro id
    simp only [scanIds_seen, List.not_mem_nil, or_false]
  simp only [validateChildIdsAndReferences, bind_ok, requireUniqueIds_ok, forM_ok, checkParent_ok,
    raiseIf_ok, decide_eq_false_iff_not, not_not]
  constructor
  · intro haccepted
    obtain ⟨_, ⟨h1, rfl⟩, _, ⟨h2, _⟩, _, ⟨h3, _⟩, _, h4, _, h5, h6⟩ := haccepted
    simp only [hs] at h4 h5 h6
    exact ⟨h1, h2, h3, h4, h5, h6⟩
  · intro h
    refine ⟨_, ⟨h.spanIds, rfl⟩, _, ⟨h.toolCallIds, rfl⟩, _, ⟨h.llmCallIds, rfl⟩, (), ?_, (), ?_, ?_⟩
    · simp only [hs]
      exact h.parents
    · simp only [hs]
      exact h.toolCallSpans
    · simp only [hs]
      exact h.llmCallSpans

/-- The lifecycle matrix: one column for awaiting approval, one for success (with or
without a human decision) and one for an error. -/
def LifecycleConsistent (event : ExtendedRunEvent) : Prop :=
  match event.eventType with
  | .runAwaitingApproval =>
    event.completedAt = none ∧ event.status = .awaitingApproval ∧ event.finalResult = none ∧
      event.runtimeError = none ∧ event.hitl.required = true ∧ event.hitl.state = .pending ∧
      event.hitl.pendingAction.isSome
  | .runFinal =>
    event.completedAt.isSome ∧ event.hitl.pendingAction = none ∧
      ((event.status = .success ∧ event.finalResult.isSome ∧ event.runtimeError = none ∧
          (event.hitl.required = false ∧ event.hitl.state = .notRequired ∨
            event.hitl.required = true ∧
              (event.hitl.state = .approved ∨ event.hitl.state = .rejected))) ∨
        ((event.status = .toolError ∨ event.status = .runtimeError) ∧ event.finalResult = none ∧
          event.runtimeError.isSome ∧ event.hitl.required = false ∧
          event.hitl.state = .notRequired))

theorem validateLifecycle_ok (event : ExtendedRunEvent) :
    validateLifecycle event = .ok () ↔ LifecycleConsistent event := by
  unfold validateLifecycle LifecycleConsistent
  cases event.eventType with
  | runAwaitingApproval =>
    simp only [validateAwaitingApprovalLifecycle, seq_ok, raiseIf_ok]
    simp [and_assoc]
  | runFinal =>
    simp only [validateFinalLifecycle, validateFinalStatus, seq_ok, raiseIf_ok]
    cases event.status <;> cases event.hitl.required <;> cases event.hitl.state <;>
      simp [seq_ok, raiseIf_ok]

theorem validated_iff (event : ExtendedRunEvent) :
    Validated event ↔ ChildrenConsistent event ∧ LifecycleConsistent event := by
  unfold Validated validateRunConsistency
  rw [seq_ok, validateChildIdsAndReferences_ok, validateLifecycle_ok]

theorem validated_pending_iff (event : ExtendedRunEvent) (h : Validated event) :
    event.hitl.state = .pending ↔ event.eventType = .runAwaitingApproval := by
  have hl := ((validated_iff event).mp h).2
  unfold LifecycleConsistent at hl
  cases ht : event.eventType with
  | runAwaitingApproval =>
    simp only [ht] at hl
    simp [hl.2.2.2.2.2.1]
  | runFinal =>
    simp only [ht] at hl
    obtain ⟨_, _, ⟨_, _, _, ⟨_, hs⟩ | ⟨_, hs | hs⟩⟩ | ⟨_, _, _, _, hs⟩⟩ := hl <;> simp [hs]

/-! ### Sample runs

A maintenance agent's run: a root span with a tool call, listed after its child. -/

def sampleSpan (spanId : String) (parentSpanId : Option String) (sequence : ℤ) : Span where
  spanId := spanId
  parentSpanId := parentSpanId
  name := "agent_step"
  sequence := sequence
  startedAt := 0
  completedAt := some 1
  status := .success
  input := none
  output := none
  metadata := none
  error := none

def sampleToolCall (toolName : String) : ToolCall where
  toolCallId := "tool-1"
  spanId := "child"
  toolName := toolName
  sequence := 1
  arguments := []
  result := none
  startedAt := 0
  completedAt := 1
  latencyMs := none
  status := .success
  error := none

def successEvent (runId : String) : ExtendedRunEvent where
  schemaVersion := .v1_0
  eventType := .runFinal
  runId := runId
  agentName := "maintenance-agent"
  agentVersion := "1.0.0"
  promptVersion := "p1"
  environment := "test"
  rawInput := "check the pump"
  normalizedInput := none
  scenarioId := none
  startedAt := 0
  completedAt := some 1
  status := .success
  executionLatencyMs := none
  wallClockDurationMs := none
  spans := [sampleSpan "child" (some "root") 2, sampleSpan "root" none 1]
  toolCalls := [sampleToolCall "search_manuals"]
  llmCalls := []
  hitl := ⟨false, .notRequired, none, none, none, none, none⟩
  usage := ⟨0, 0, 0, 0, 0⟩
  finalResult := some { output := [] }
  runtimeError := none

def pendingEvent (runId : String) : ExtendedRunEvent :=
  { successEvent runId with
    eventType := .runAwaitingApproval
    completedAt := none
    status := .awaitingApproval
    hitl := ⟨true, .pending, some "checkpoint-1", none, some 1, none, some []⟩
    finalResult := none }

def approvedEvent (runId : String) : ExtendedRunEvent :=
  { successEvent runId with
    hitl := ⟨true, .approved, some "checkpoint-1", some .approve, some 1, some 2, none⟩ }

def errorEvent (runId : String) : ExtendedRunEvent :=
  { successEvent runId with
    status := .runtimeError
    finalResult := none
    runtimeError := some ⟨"runtime", none, "the agent crashed", none⟩ }

theorem successEvent_validated (runId : String) : Validated (successEvent runId) := rfl

theorem pendingEvent_validated (runId : String) : Validated (pendingEvent runId) := rfl

theorem approvedEvent_validated (runId : String) : Validated (approvedEvent runId) := rfl

theorem errorEvent_validated (runId : String) : Validated (errorEvent runId) := rfl

end Telemetry
end ObsPlatform
