import ObsPlatform.Telemetry.Models

/-!
# What the telemetry contract accepts (telemetry/v1/models.py)

A payload is an event as the producer wrote it, its ids not yet stripped or measured.
Validation strips and measures every id, and only when none of them is refused runs the model
validator over the stripped event. What passes is what the contract says in its own words:
ids unique and references closed after stripping, and one column of the lifecycle matrix.
-/

namespace ObsPlatform.Telemetry

/-! ### Ids -/

/- The characters that str.strip() removes. -/
def isSpace (c : Char) : Bool :=
  let n := c.toNat
  (9 ≤ n && n ≤ 13) || (28 ≤ n && n ≤ 32) || n = 0x85 || n = 0xa0 || n = 0x1680 ||
    (0x2000 ≤ n && n ≤ 0x200a) || n = 0x2028 || n = 0x2029 || n = 0x202f || n = 0x205f ||
    n = 0x3000

def strip (text : String) : String :=
  String.ofList ((text.toList.dropWhile isSpace).rdropWhile isSpace)

/- The before validator of the id fields, on a text. -/
def stripAndValidateIds (value : String) : Except String String :=
  let stripped := strip value
  if stripped = "" then .error "Value error, ID fields must not be empty or whitespace only"
  else .ok stripped

/- StableID: min_length 1, max_length 256. -/
def stableId (value : String) : Except String String :=
  if value.length < 1 then .error "String should have at least 1 character"
  else if 256 < value.length then .error "String should have at most 256 characters"
  else .ok value

def validateId (value : String) : Except String String := do
  let stripped ← stripAndValidateIds value
  stableId stripped

/-- An id of 1 to 256 characters after stripping. -/
def WellTypedId (value : String) : Prop :=
  1 ≤ (strip value).length ∧ (strip value).length ≤ 256

instance (value : String) : Decidable (WellTypedId value) :=
  inferInstanceAs (Decidable (_ ∧ _))

/-! ### Validation of a payload -/

structure FieldError where
  loc : List String
  message : String
  deriving Repr, DecidableEq

def idErrors (loc : List String) (value : String) : List FieldError :=
  match validateId value with
  | .ok _ => []
  | .error message => [⟨loc, message⟩]

/- The errors of a list field, each at the index of its item. -/
def itemErrors {χ : Type} (field : String) (errors : List String → χ → List FieldError)
    (items : List χ) : List FieldError :=
  items.zipIdx.flatMap fun item => errors [field, toString item.2] item.1

def spanErrors (loc : List String) (span : Span) : List FieldError :=
  idErrors (loc ++ ["span_id"]) span.spanId ++
    match span.parentSpanId with
    | none => []
    | some parent => idErrors (loc ++ ["parent_span_id"]) parent

def toolCallErrors (loc : List String) (toolCall : ToolCall) : List FieldError :=
  idErrors (loc ++ ["tool_call_id"]) toolCall.toolCallId ++
    idErrors (loc ++ ["span_id"]) toolCall.spanId

def llmCallErrors (loc : List String) (llmCall : LLMCall) : List FieldError :=
  idErrors (loc ++ ["llm_call_id"]) llmCall.llmCallId ++
    idErrors (loc ++ ["span_id"]) llmCall.spanId

/- The fields are validated in the order of their declaration, and all errors are kept. -/
def fieldErrors (payload : ExtendedRunEvent) : List FieldError :=
  idErrors ["run_id"] payload.runId ++ itemErrors "spans" spanErrors payload.spans ++
    itemErrors "tool_calls" toolCallErrors payload.toolCalls ++
    itemErrors "llm_calls" llmCallErrors payload.llmCalls

def strippedSpan (span : Span) : Span :=
  { span with
    spanId := strip span.spanId
    parentSpanId := span.parentSpanId.map strip }

def strippedToolCall (toolCall : ToolCall) : ToolCall :=
  { toolCall with
    toolCallId := strip toolCall.toolCallId
    spanId := strip toolCall.spanId }

def strippedLlmCall (llmCall : LLMCall) : LLMCall :=
  { llmCall with
    llmCallId := strip llmCall.llmCallId
    spanId := strip llmCall.spanId }

def stripped (payload : ExtendedRunEvent) : ExtendedRunEvent :=
  { payload with
    runId := strip payload.runId
    spans := payload.spans.map strippedSpan
    toolCalls := payload.toolCalls.map strippedToolCall
    llmCalls := payload.llmCalls.map strippedLlmCall }

/- ExtendedRunEvent.model_validate. -/
def modelValidate (payload : ExtendedRunEvent) : Except (List FieldError) ExtendedRunEvent :=
  match fieldErrors payload with
  | [] =>
    match validateRunConsistency (stripped payload) with
    | .ok () => .ok (stripped payload)
    | .error message => .error [⟨[], "Value error, " ++ message⟩]
  | error :: errors => .error (error :: errors)

/-! ### The contract -/

structure WellTypedIds (payload : ExtendedRunEvent) : Prop where
  runId : WellTypedId payload.runId
  spanIds : ∀ span ∈ payload.spans, WellTypedId span.spanId
  parents : ∀ span ∈ payload.spans, ∀ parent, span.parentSpanId = some parent → WellTypedId parent
  toolCallIds : ∀ toolCall ∈ payload.toolCalls, WellTypedId toolCall.toolCallId
  toolCallSpans : ∀ toolCall ∈ payload.toolCalls, WellTypedId toolCall.spanId
  llmCallIds : ∀ llmCall ∈ payload.llmCalls, WellTypedId llmCall.llmCallId
  llmCallSpans : ∀ llmCall ∈ payload.llmCalls, WellTypedId llmCall.spanId

/-- A cell of the matrix for an optional field. -/
inductive Presence where
  | required
  | mustBeNone
  deriving Repr, DecidableEq

def Presence.Holds {α : Type} (value : Option α) : Presence → Prop
  | .required => value.isSome
  | .mustBeNone => value = none

structure LifecycleColumn where
  eventType : RunEventType
  completedAt : Presence
  statuses : List RunStatus
  finalResult : Presence
  runtimeError : Presence
  hitlRequired : Bool
  hitlStates : List HITLState
  pendingAction : Presence

def successColumn : LifecycleColumn where
  eventType := .runFinal
  completedAt := .required
  statuses := [.success]
  finalResult := .required
  runtimeError := .mustBeNone
  hitlRequired := false
  hitlStates := [.notRequired]
  pendingAction := .mustBeNone

def errorColumn : LifecycleColumn where
  eventType := .runFinal
  completedAt := .required
  statuses := [.toolError, .runtimeError]
  finalResult := .mustBeNone
  runtimeError := .required
  hitlRequired := false
  hitlStates := [.notRequired]
  pendingAction := .mustBeNone

def decidedColumn : LifecycleColumn where
  eventType := .runFinal
  completedAt := .required
  statuses := [.success]
  finalResult := .required
  runtimeError := .mustBeNone
  hitlRequired := true
  hitlStates := [.approved, .rejected]
  pendingAction := .mustBeNone

def awaitingApprovalColumn : LifecycleColumn where
  eventType := .runAwaitingApproval
  completedAt := .mustBeNone
  statuses := [.awaitingApproval]
  finalResult := .mustBeNone
  runtimeError := .mustBeNone
  hitlRequired := true
  hitlStates := [.pending]
  pendingAction := .required

/-- The required/optional matrix by lifecycle stage. -/
def lifecycleMatrix : List LifecycleColumn :=
  [successColumn, errorColumn, decidedColumn, awaitingApprovalColumn]

structure LifecycleColumn.Matches (column : LifecycleColumn) (event : ExtendedRunEvent) : Prop where
  eventType : event.eventType = column.eventType
  completedAt : column.completedAt.Holds event.completedAt
  status : event.status ∈ column.statuses
  finalResult : column.finalResult.Holds event.finalResult
  runtimeError : column.runtimeError.Holds event.runtimeError
  hitlRequired : event.hitl.required = column.hitlRequired
  hitlState : event.hitl.state ∈ column.hitlStates
  pendingAction : column.pendingAction.Holds event.hitl.pendingAction

/-- What the contract asks of a payload beyond its single fields. -/
structure MeetsContract (payload : ExtendedRunEvent) : Prop where
  spanIds : (payload.spans.map fun span => strip span.spanId).Nodup
  toolCallIds : (payload.toolCalls.map fun toolCall => strip toolCall.toolCallId).Nodup
  llmCallIds : (payload.llmCalls.map fun llmCall => strip llmCall.llmCallId).Nodup
  parents : ∀ span ∈ payload.spans, ∀ parent, span.parentSpanId = some parent →
    strip parent ∈ payload.spans.map fun span => strip span.spanId
  toolCallSpans : ∀ toolCall ∈ payload.toolCalls,
    strip toolCall.spanId ∈ payload.spans.map fun span => strip span.spanId
  llmCallSpans : ∀ llmCall ∈ payload.llmCalls,
    strip llmCall.spanId ∈ payload.spans.map fun span => strip span.spanId
  lifecycle : ∃ column ∈ lifecycleMatrix, column.Matches payload

/-! ### The ids pass -/

theorem validateId_ok (value : String) :
    (∃ id, validateId value = .ok id) ↔ WellTypedId value := by
  have hempty : strip value = "" ↔ (strip value).length = 0 := by
    rw [← String.length_toList, List.length_eq_zero_iff, String.toList_eq_nil_iff]
  simp only [validateId, stripAndValidateIds, stableId, WellTypedId]
  by_cases hnone : strip value = ""
  · have hzero := hempty.mp hnone
    simp [hnone, bind, Except.bind]
  · have hpositive : ¬ (strip value).length < 1 := by
      intro hlt
      exact hnone (hempty.mpr (by omega))
    simp only [if_neg hnone, bind, Except.bind, if_neg hpositive]
    by_cases hlong : 256 < (strip value).length
    · simp only [if_pos hlong, reduceCtorEq, exists_false, false_iff]
      omega
    · simp only [if_neg hlong, Except.ok.injEq, exists_eq', true_iff]
      omega

theorem idErrors_nil (loc : List String) (value : String) :
    idErrors loc value = [] ↔ WellTypedId value := by
  rw [← validateId_ok, idErrors]
  cases validateId value with
  | ok id => simp
  | error message => simp

theorem itemErrors_nil {χ : Type} (field : String) (errors : List String → χ → List FieldError)
    (P : χ → Prop) (herrors : ∀ loc item, errors loc item = [] ↔ P item) (items : List χ) :
    itemErrors field errors items = [] ↔ ∀ item ∈ items, P item := by
  rw [itemErrors, List.flatMap_eq_nil_iff]
  constructor
  · intro h item hitem
    obtain ⟨i, hi⟩ := List.mem_iff_getElem?.mp hitem
    exact (herrors _ item).mp (h (item, i) (List.mem_zipIdx_iff_getElem?.mpr hi))
  · intro h item hitem
    exact (herrors _ item.1).mpr (h item.1 (List.fst_mem_of_mem_zipIdx hitem))

theorem spanErrors_nil (loc : List String) (span : Span) :
    spanErrors loc span = [] ↔ WellTypedId span.spanId ∧
      ∀ parent, span.parentSpanId = some parent → WellTypedId parent := by
  rw [spanErrors, List.append_eq_nil_iff, idErrors_nil]
  cases span.parentSpanId with
  | none => simp
  | some parent => simp [idErrors_nil]

theorem toolCallErrors_nil (loc : List String) (toolCall : ToolCall) :
    toolCallErrors loc toolCall = [] ↔
      WellTypedId toolCall.toolCallId ∧ WellTypedId toolCall.spanId := by
  rw [toolCallErrors, List.append_eq_nil_iff, idErrors_nil, idErrors_nil]

theorem llmCallErrors_nil (loc : List String) (llmCall : LLMCall) :
    llmCallErrors loc llmCall = [] ↔
      WellTypedId llmCall.llmCallId ∧ WellTypedId llmCall.spanId := by
  rw [llmCallErrors, List.append_eq_nil_iff, idErrors_nil, idErrors_nil]

theorem fieldErrors_nil (payload : ExtendedRunEvent) :
    fieldErrors payload = [] ↔ WellTypedIds payload := by
  simp only [fieldErrors, List.append_eq_nil_iff, idErrors_nil,
    itemErrors_nil _ _ _ spanErrors_nil, itemErrors_nil _ _ _ toolCallErrors_nil,
    itemErrors_nil _ _ _ llmCallErrors_nil]
  constructor
  · intro h
    obtain ⟨⟨⟨hrun, hspans⟩, htoolCalls⟩, hllmCalls⟩ := h
    exact ⟨hrun, fun span hm => (hspans span hm).1, fun span hm => (hspans span hm).2,
      fun toolCall hm => (htoolCalls toolCall hm).1, fun toolCall hm => (htoolCalls toolCall hm).2,
      fun llmCall hm => (hllmCalls llmCall hm).1, fun llmCall hm => (hllmCalls llmCall hm).2⟩
  · intro h
    exact ⟨⟨⟨h.runId, fun span hm => ⟨h.spanIds span hm, h.parents span hm⟩⟩,
      fun toolCall hm => ⟨h.toolCallIds toolCall hm, h.toolCallSpans toolCall hm⟩⟩,
      fun llmCall hm => ⟨h.llmCallIds llmCall hm, h.llmCallSpans llmCall hm⟩⟩

/-! ### The stripped event -/

theorem modelValidate_ok (payload event : ExtendedRunEvent) :
    modelValidate payload = .ok event ↔
      WellTypedIds payload ∧ Validated (stripped payload) ∧ event = stripped payload := by
  rw [← fieldErrors_nil, modelValidate, Validated]
  cases fieldErrors payload with
  | nil =>
    cases validateRunConsistency (stripped payload) with
    | ok u => simp [eq_comm]
    | error message => simp
  | cons error errors => simp

theorem column_matches_iff (column : LifecycleColumn) (event : ExtendedRunEvent) :
    column.Matches event ↔
      event.eventType = column.eventType ∧ column.completedAt.Holds event.completedAt ∧
        event.status ∈ column.statuses ∧ column.finalResult.Holds event.finalResult ∧
        column.runtimeError.Holds event.runtimeError ∧
        event.hitl.required = column.hitlRequired ∧ event.hitl.state ∈ column.hitlStates ∧
        column.pendingAction.Holds event.hitl.pendingAction := by
  constructor
  · intro h
    exact ⟨h.eventType, h.completedAt, h.status, h.finalResult, h.runtimeError, h.hitlRequired,
      h.hitlState, h.pendingAction⟩
  · intro h
    obtain ⟨h1, h2, h3, h4, h5, h6, h7, h8⟩ := h
    exact ⟨h1, h2, h3, h4, h5, h6, h7, h8⟩

/-- The cascade of checks admits the columns of the matrix and nothing else. -/
theorem lifecycleConsistent_iff (event : ExtendedRunEvent) :
    LifecycleConsistent event ↔ ∃ column ∈ lifecycleMatrix, column.Matches event := by
  simp only [lifecycleMatrix, List.mem_cons, List.not_mem_nil, or_false, exists_eq_or_imp,
    exists_eq_left, column_matches_iff, successColumn, errorColumn, decidedColumn,
    awaitingApprovalColumn, Presence.Holds, LifecycleConsistent]
  cases event.eventType with
  | runAwaitingApproval =>
    simp only [reduceCtorEq, false_and, false_or, true_and]
  | runFinal =>
    simp only [reduceCtorEq, false_and, or_false, true_and]
    constructor
    · intro h
      obtain ⟨hcompleted, hpending, hsuccess | herror⟩ := h
      · obtain ⟨hstatus, hresult, hruntime, hplain | hdecided⟩ := hsuccess
        · exact .inl ⟨hcompleted, hstatus, hresult, hruntime, hplain.1, hplain.2, hpending⟩
        · exact .inr (.inr ⟨hcompleted, hstatus, hresult, hruntime, hdecided.1, hdecided.2,
            hpending⟩)
      · obtain ⟨hstatus, hresult, hruntime, hrequired, hstate⟩ := herror
        exact .inr (.inl ⟨hcompleted, hstatus, hresult, hruntime, hrequired, hstate, hpending⟩)
    · intro h
      rcases h with hplain | herror | hdecided
      · obtain ⟨hcompleted, hstatus, hresult, hruntime, hrequired, hstate, hpending⟩ := hplain
        exact ⟨hcompleted, hpending, .inl ⟨hstatus, hresult, hruntime, .inl ⟨hrequired, hstate⟩⟩⟩
      · obtain ⟨hcompleted, hstatus, hresult, hruntime, hrequired, hstate, hpending⟩ := herror
        exact ⟨hcompleted, hpending, .inr ⟨hstatus, hresult, hruntime, hrequired, hstate⟩⟩
      · obtain ⟨hcompleted, hstatus, hresult, hruntime, hrequired, hstate, hpending⟩ := hdecided
        exact ⟨hcompleted, hpending, .inl ⟨hstatus, hresult, hruntime, .inr ⟨hrequired, hstate⟩⟩⟩

/-- Uniqueness and references, read off the stripped event. -/
theorem childrenConsistent_stripped (payload : ExtendedRunEvent) :
    ChildrenConsistent (stripped payload) ↔
      (payload.spans.map fun span => strip span.spanId).Nodup ∧
        (payload.toolCalls.map fun toolCall => strip toolCall.toolCallId).Nodup ∧
        (payload.llmCalls.map fun llmCall => strip llmCall.llmCallId).Nodup ∧
        (∀ span ∈ payload.spans, ∀ parent, span.parentSpanId = some parent →
          strip parent ∈ payload.spans.map fun span => strip span.spanId) ∧
        (∀ toolCall ∈ payload.toolCalls,
          strip toolCall.spanId ∈ payload.spans.map fun span => strip span.spanId) ∧
        ∀ llmCall ∈ payload.llmCalls,
          strip llmCall.spanId ∈ payload.spans.map fun span => strip span.spanId := by
  have hspanIds : (stripped payload).spans.map Span.spanId =
      payload.spans.map fun span => strip span.spanId := List.map_map
  have htoolCallIds : (stripped payload).toolCalls.map ToolCall.toolCallId =
      payload.toolCalls.map fun toolCall => strip toolCall.toolCallId := List.map_map
  have hllmCallIds : (stripped payload).llmCalls.map LLMCall.llmCallId =
      payload.llmCalls.map fun llmCall => strip llmCall.llmCallId := List.map_map
  constructor
  · intro h
    have hparents := h.parents
    have htoolCalls := h.toolCallSpans
    have hllmCalls := h.llmCallSpans
    rw [hspanIds] at hparents htoolCalls hllmCalls
    refine ⟨hspanIds ▸ h.spanIds, htoolCallIds ▸ h.toolCallIds, hllmCallIds ▸ h.llmCallIds,
      ?_, ?_, ?_⟩
    · intro span hm parent hparent
      have hstripped : (strippedSpan span).parentSpanId = some (strip parent) := by
        rw [strippedSpan, hparent, Option.map_some]
      exact hparents (strippedSpan span) (List.mem_map_of_mem hm) (strip parent) hstripped
    · intro toolCall hm
      exact htoolCalls (strippedToolCall toolCall) (List.mem_map_of_mem hm)
    · intro llmCall hm
      exact hllmCalls (strippedLlmCall llmCall) (List.mem_map_of_mem hm)
  · intro h
    obtain ⟨hspans, htools, hllms, hparents, htoolSpans, hllmSpans⟩ := h
    rw [← hspanIds] at hspans hparents htoolSpans hllmSpans
    rw [← htoolCallIds] at htools
    rw [← hllmCallIds] at hllms
    refine ⟨hspans, htools, hllms, ?_, ?_, ?_⟩
    · intro span hm parent hparent
      obtain ⟨original, horiginal, rfl⟩ := List.mem_map.mp hm
      obtain ⟨unstripped, hunstripped, rfl⟩ := Option.map_eq_some_iff.mp hparent
      exact hparents original horiginal unstripped hunstripped
    · intro toolCall hm
      obtain ⟨original, horiginal, rfl⟩ := List.mem_map.mp hm
      exact htoolSpans original horiginal
    · intro llmCall hm
      obtain ⟨original, horiginal, rfl⟩ := List.mem_map.mp hm
      exact hllmSpans original horiginal

theorem lifecycleConsistent_stripped (payload : ExtendedRunEvent) :
    LifecycleConsistent (stripped payload) ↔ ∃ column ∈ lifecycleMatrix, column.Matches payload :=
  lifecycleConsistent_iff payload

theorem validated_stripped (payload : ExtendedRunEvent) :
    Validated (stripped payload) ↔ MeetsContract payload := by
  rw [validated_iff, childrenConsistent_stripped, lifecycleConsistent_stripped]
  constructor
  · intro h
    obtain ⟨⟨h1, h2, h3, h4, h5, h6⟩, h7⟩ := h
    exact ⟨h1, h2, h3, h4, h5, h6, h7⟩
  · intro h
    exact ⟨⟨h.spanIds, h.toolCallIds, h.llmCallIds, h.parents, h.toolCallSpans, h.llmCallSpans⟩,
      h.lifecycle⟩

/-- Of the payloads whose fields are well typed, validation accepts those that meet the
contract. -/
theorem validation_exact (payload : ExtendedRunEvent) (h : WellTypedIds payload) :
    (∃ event, modelValidate payload = .ok event) ↔ MeetsContract payload := by
  rw [← validated_stripped]
  constructor
  · intro hok
    obtain ⟨event, hevent⟩ := hok
    exact ((modelValidate_ok payload event).mp hevent).2.1
  · intro hvalidated
    exact ⟨stripped payload, (modelValidate_ok payload _).mpr ⟨h, hvalidated, rfl⟩⟩

/- A child that names its parent with blanks around the id. -/
def paddedPayload : ExtendedRunEvent :=
  { successEvent " run-1" with
    spans := [sampleSpan "child\n" (some "\u00a0root") 2, sampleSpan "root " none 1] }

theorem validation_exact_padded :
    (modelValidate paddedPayload).toOption.isSome ∧ MeetsContract paddedPayload := by
  have hids : WellTypedIds paddedPayload := (fieldErrors_nil paddedPayload).mp (by decide +kernel)
  have hok : (modelValidate paddedPayload).toOption.isSome := by decide +kernel
  refine ⟨hok, (validation_exact paddedPayload hids).mp ?_⟩
  cases hresult : modelValidate paddedPayload with
  | ok event => exact ⟨event, rfl⟩
  | error errors =>
    rw [hresult] at hok
    cases hok

end ObsPlatform.Telemetry
