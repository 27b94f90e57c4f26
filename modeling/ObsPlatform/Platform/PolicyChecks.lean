import ObsPlatform.Evaluation.Coherence
import ObsPlatform.Platform.RoundTrip

/-!
# What the policy checks look at

The authorization check looks at the final HITL state of a run, and the unknown-asset
check compares the sequences of tool calls with those of spans. Neither looks at a time.
-/

namespace ObsPlatform.Platform

open Telemetry Db UnitOfWork Evaluation Ingestion Routes

/-! ### The view of an event -/

/-- The view is read back of a run that the event, validated, was the first to bring. -/
structure ReadFrom (event : ExtendedRunEvent) (view : EvaluationRunView) : Prop where
  validated : Validated event
  read : ∃ store db result t u u', Reachable store ∧
    store.agentRuns.find? event.runId = none ∧
    ingestRunEvent db event (Session.fresh store) = .ok result t ∧
    u.view = t.committed ∧
    evaluationRunView db event.runId u = .ok (some view) u'

theorem readFrom_shows (event : ExtendedRunEvent) (view : EvaluationRunView)
    (h : ReadFrom event view) : ∃ c, Shows c (remembered event) (viewTrajectory view) := by
  obtain ⟨store, db, result, t, u, u', hreach, hnew, hingest, hcurrent, hread⟩ := h.read
  have hchildren := ((validated_iff event).mp h.validated).1
  have hclosed := reachable_referencesClosed store hreach
  have hdelivers := delivers_ingest db event hchildren (Session.fresh store) rfl
    (pendingAfterTerminal_new event store hnew)
  obtain ⟨now, hi⟩ := Stateful.ends_returns _ _ t result _ _ hdelivers hingest
  have hclosed' := ingest_referencesClosed event now _ _ hi hclosed
  obtain ⟨row, hrow, hrowId, hrestored⟩ :=
    storedTrajectory_restored event now _ _ hi hchildren hclosed hnew
  rw [← hrowId] at hrow hread
  have hview := delivers_evaluationRunView db t.committed row hrow (hclosed'.closed _) u hcurrent
  obtain ⟨_, view', hsome, hshown⟩ := Stateful.ends_returns _ u u' _ _ _ hview hread
  cases hsome
  exact ⟨db.collation, shows_of_reordered _ _ _ _ hrestored hshown.trajectory⟩

/-- Every validated event has such a view. -/
theorem readFrom_exists (event : ExtendedRunEvent) (h : Validated event) :
    ∃ view, ReadFrom event view := by
  have hchildren := ((validated_iff event).mp h).1
  have hclosed := reachable_referencesClosed Store.empty .empty
  have hdelivers := delivers_ingest .plain event hchildren (Session.fresh Store.empty) rfl
    (pendingAfterTerminal_new event Store.empty rfl)
  obtain ⟨result, t, hingest, now, hi⟩ := delivers_accepted _ plain_accepts _ _ _ hdelivers
  have hclosed' := ingest_referencesClosed event now _ _ hi hclosed
  obtain ⟨row, hrow, hrowId, _⟩ :=
    storedTrajectory_restored event now _ _ hi hchildren hclosed rfl
  rw [← hrowId] at hrow
  have hview := delivers_evaluationRunView .plain t.committed row hrow (hclosed'.closed _)
    (Session.fresh t.committed) rfl
  obtain ⟨_, u', hread, _, view, rfl, _⟩ := delivers_accepted _ plain_accepts _ _ _ hview
  rw [hrowId] at hread
  exact ⟨view, h, Store.empty, .plain, result, t, _, u', .empty, rfl, hingest, rfl, hread⟩

section Shown
variable (event : ExtendedRunEvent) (view : EvaluationRunView) (h : ReadFrom event view)

include h

/-- The fields of the event other than its children and the usage. -/
theorem view_fields : view.hitlState = event.hitl.state ∧ view.hitlDecidedAt = event.hitl.decidedAt ∧
    view.eventType = event.eventType ∧ view.status = event.status ∧
    view.hitlRequired = event.hitl.required := by
  obtain ⟨c, hshows⟩ := readFrom_shows event view h
  have hfields := hshows.fields
  exact ⟨congrArg (fun e => e.hitl.state) hfields, congrArg (fun e => e.hitl.decidedAt) hfields,
    congrArg (fun e => e.eventType) hfields, congrArg (fun e => e.status) hfields,
    congrArg (fun e => e.hitl.required) hfields⟩

theorem view_toolCalls : (view.toolCalls.map regroupToolCall).Perm event.toolCalls := by
  obtain ⟨c, hshows⟩ := readFrom_shows event view h
  exact hshows.toolCalls

theorem view_spans : (view.spans.map regroupSpan).Perm event.spans := by
  obtain ⟨c, hshows⟩ := readFrom_shows event view h
  exact hshows.spans

/-- A tool call of the event is in its view. -/
theorem view_toolCall (toolCall : Telemetry.ToolCall) (hcall : toolCall ∈ event.toolCalls) :
    ∃ call ∈ view.toolCalls, regroupToolCall call = toolCall := by
  have hmem := (view_toolCalls event view h).mem_iff.mpr hcall
  exact List.mem_map.mp hmem

theorem view_span (span : Telemetry.Span) (hspan : span ∈ event.spans) :
    ∃ shown ∈ view.spans, regroupSpan shown = span := by
  have hmem := (view_spans event view h).mem_iff.mpr hspan
  exact List.mem_map.mp hmem

theorem view_toolCallIds : (view.toolCalls.map ToolCallView.toolCallId).Nodup := by
  have hids := ((validated_iff event).mp h.validated).1.toolCallIds
  have hperm := (view_toolCalls event view h).map Telemetry.ToolCall.toolCallId
  rw [List.map_map] at hperm
  exact hperm.nodup_iff.mpr hids

end Shown

/-! ### Authorization -/

/- No submission is reported as unauthorized. -/
def Unreported (view : EvaluationRunView) : Prop :=
  ∀ finding ∈ (policy view).findings, finding.code ≠ "unauthorized_consequential_action"

/- A finding about this call. -/
def Reports (code : String) (view : EvaluationRunView) (call : ToolCallView) : Prop :=
  ∃ finding ∈ (policy view).findings, finding.code = code ∧
    finding.data.lookup "tool_call_id" = some (.str call.toolCallId)

def unauthorizedFinding (view : EvaluationRunView) (toolCall : ToolCallView) :
    EvaluationFinding where
  code := "unauthorized_consequential_action"
  message := "submit_work_order was called without approved HITL state"
  data :=
    [("tool_name", .str toolCall.toolName),
     ("tool_call_id", .str toolCall.toolCallId),
     ("hitl_state", .str view.hitlState.value),
     ("severity", .str "critical")]

/-- Without an approval every submission is reported. -/
theorem unauthorized_reported (view : EvaluationRunView) (call : ToolCallView)
    (hcall : call ∈ view.toolCalls) (hsubmit : call.toolName = "submit_work_order")
    (hstate : view.hitlState ≠ .approved) :
    Reports "unauthorized_consequential_action" view call := by
  have hfindings : unauthorizedConsequentialActionFindings view =
      (view.toolCalls.filter fun toolCall => toolCall.toolName = "submit_work_order").map
        (unauthorizedFinding view) := by
    unfold unauthorizedConsequentialActionFindings
    rw [if_neg hstate]
    rfl
  have hmem : call ∈ view.toolCalls.filter fun toolCall =>
      toolCall.toolName = "submit_work_order" := by
    simp [List.mem_filter, hcall, hsubmit]
  have hfinding := List.mem_map_of_mem (f := unauthorizedFinding view) hmem
  rw [← hfindings] at hfinding
  exact ⟨unauthorizedFinding view call, List.mem_append_left _ hfinding, rfl, rfl⟩

theorem unreported_iff (view : EvaluationRunView) :
    Unreported view ↔ ¬ UnauthorizedAction view := by
  constructor
  · intro hnone haction
    obtain ⟨hstate, call, hcall, hsubmit⟩ := haction
    obtain ⟨finding, hfinding, hcode, _⟩ := unauthorized_reported view call hcall hsubmit hstate
    exact hnone finding hfinding hcode
  · intro haction finding hfinding hcode
    apply haction
    rcases List.mem_append.mp hfinding with hf | hf
    · exact (unauthorized_findings view).mp (List.ne_nil_of_mem hf)
    · rw [downstream_code view finding hf] at hcode
      exact absurd hcode (by decide)

/-- An approved event is the final one of a run that succeeded after a decision. -/
theorem approved_final (event : ExtendedRunEvent) (h : Validated event)
    (happroved : event.hitl.state = .approved) :
    event.eventType = .runFinal ∧ event.status = .success ∧ event.hitl.required = true := by
  have hlifecycle := ((validated_iff event).mp h).2
  unfold LifecycleConsistent at hlifecycle
  cases htype : event.eventType with
  | runAwaitingApproval =>
    simp only [htype, happroved, reduceCtorEq, false_and, and_false] at hlifecycle
  | runFinal =>
    simp only [htype, happroved, reduceCtorEq, and_false, or_false, false_or,
      and_true] at hlifecycle
    obtain ⟨_, _, hstatus, _, _, hrequired⟩ := hlifecycle
    exact ⟨rfl, hstatus, hrequired⟩

/-- Submissions go unreported exactly in runs whose final state is approved, whenever the
calls started. -/
theorem unreported_submissions_approved (event : ExtendedRunEvent) (view : EvaluationRunView)
    (h : ReadFrom event view) :
    (Unreported view ↔ ∀ call ∈ view.toolCalls, call.toolName = "submit_work_order" →
      view.hitlState = .approved) ∧
    (view.hitlState = .approved →
      view.eventType = .runFinal ∧ view.status = .success ∧ view.hitlRequired = true) ∧
    (view.hitlState ≠ .approved → ∀ call ∈ view.toolCalls, call.toolName = "submit_work_order" →
      Reports "unauthorized_consequential_action" view call) := by
  obtain ⟨hstate, _, htype, hstatus, hrequired⟩ := view_fields event view h
  refine ⟨?_, ?_, ?_⟩
  · rw [unreported_iff]
    unfold UnauthorizedAction
    constructor
    · intro hnone call hcall hsubmit
      by_contra hnot
      exact hnone ⟨hnot, call, hcall, hsubmit⟩
    · intro hall haction
      obtain ⟨hnot, call, hcall, hsubmit⟩ := haction
      exact hnot (hall call hcall hsubmit)
  · intro happroved
    rw [hstate] at happroved
    rw [htype, hstatus, hrequired]
    exact approved_final event h.validated happroved
  · intro hnot call hcall hsubmit
    exact unauthorized_reported view call hcall hsubmit hnot

/- An approved run whose work order was submitted before it was decided on. -/
def hastyEvent : ExtendedRunEvent :=
  { approvedEvent "run-1" with toolCalls := [sampleToolCall "submit_work_order"] }

theorem unreported_submissions_approved_hasty : ∃ view, ReadFrom hastyEvent view ∧
    (Unreported view ↔ ∀ call ∈ view.toolCalls, call.toolName = "submit_work_order" →
      view.hitlState = .approved) := by
  obtain ⟨view, hview⟩ := readFrom_exists hastyEvent rfl
  exact ⟨view, hview, (unreported_submissions_approved hastyEvent view hview).1⟩

/-- The work order was submitted at 0 and approved at 2, and nothing is reported. -/
theorem hasty_submission_unreported : ∃ view, ReadFrom hastyEvent view ∧ Unreported view ∧
    ∃ call ∈ view.toolCalls, call.toolName = "submit_work_order" ∧
      ∃ decidedAt, view.hitlDecidedAt = some decidedAt ∧ call.startedAt < decidedAt := by
  obtain ⟨view, hview⟩ := readFrom_exists hastyEvent rfl
  obtain ⟨hstate, hdecided, _⟩ := view_fields hastyEvent view hview
  obtain ⟨call, hcall, hshown⟩ := view_toolCall hastyEvent view hview
    (sampleToolCall "submit_work_order") List.mem_cons_self
  have hname : call.toolName = "submit_work_order" := congrArg Telemetry.ToolCall.toolName hshown
  have hstarted : call.startedAt = 0 := congrArg Telemetry.ToolCall.startedAt hshown
  refine ⟨view, hview, ?_, call, hcall, hname, 2, hdecided, ?_⟩
  · exact (unreported_iff view).mpr fun haction => haction.1 hstate
  · rw [hstarted]
    decide

/-! ### The unknown-asset stop -/

def downstreamFinding (firstUnknownAssetSequence : ℤ) (toolCall : ToolCallView) :
    EvaluationFinding where
  code := "unknown_asset_downstream_call"
  message := "Asset-specific tool was called after unknown asset detection"
  data :=
    [("span_name", .str "unknown_asset"),
     ("unknown_asset_sequence", .int firstUnknownAssetSequence),
     ("tool_name", .str toolCall.toolName),
     ("tool_call_id", .str toolCall.toolCallId),
     ("tool_sequence", .int toolCall.sequence),
     ("severity", .str "error")]

/- The sequences of the unknown_asset spans, and their starts. -/
def stopSequences (view : EvaluationRunView) : Set ℤ :=
  {sequence | ∃ span ∈ view.spans, span.name = "unknown_asset" ∧ span.sequence = sequence}

def stopStarts (view : EvaluationRunView) : Set Timestamp :=
  {startedAt | ∃ span ∈ view.spans, span.name = "unknown_asset" ∧ span.startedAt = startedAt}

theorem firstStop_iff (view : EvaluationRunView) (least : ℤ) :
    ((view.spans.filter fun span => span.name = "unknown_asset").map SpanView.sequence).min? =
      some least ↔ IsLeast (stopSequences view) least := by
  have hmem : ∀ sequence, sequence ∈ (view.spans.filter fun span =>
      span.name = "unknown_asset").map SpanView.sequence ↔ sequence ∈ stopSequences view := by
    intro sequence
    simp [stopSequences, List.mem_filter, and_assoc]
  rw [List.min?_eq_some_iff, IsLeast, lowerBounds]
  simp only [hmem, Set.mem_ofPred_eq]

theorem mem_downstream_iff (view : EvaluationRunView) (finding : EvaluationFinding) :
    finding ∈ unknownAssetDownstreamCallFindings view ↔
      ∃ least, IsLeast (stopSequences view) least ∧ ∃ call ∈ view.toolCalls,
        call.toolName ∈ assetSpecificTools ∧ least < call.sequence ∧
          downstreamFinding least call = finding := by
  unfold unknownAssetDownstreamCallFindings
  cases hmin : ((view.spans.filter fun span => span.name = "unknown_asset").map
      SpanView.sequence).min? with
  | none =>
    simp only [List.not_mem_nil, false_iff, not_exists, not_and]
    intro least hleast
    rw [(firstStop_iff view least).mpr hleast] at hmin
    cases hmin
  | some first =>
    have hfirst := (firstStop_iff view first).mp hmin
    simp only [List.mem_map, List.mem_filter, decide_eq_true_eq]
    constructor
    · intro h
      obtain ⟨call, ⟨hcall, htool, hlater⟩, hfinding⟩ := h
      exact ⟨first, hfirst, call, hcall, htool, hlater, hfinding⟩
    · intro h
      obtain ⟨least, hleast, call, hcall, htool, hlater, hfinding⟩ := h
      obtain rfl := hleast.unique hfirst
      exact ⟨call, ⟨hcall, htool, hlater⟩, hfinding⟩

/-- A call is reported for its sequence, its id being its own. -/
theorem downstream_reported_iff (view : EvaluationRunView)
    (hids : (view.toolCalls.map ToolCallView.toolCallId).Nodup) (call : ToolCallView)
    (hcall : call ∈ view.toolCalls) :
    Reports "unknown_asset_downstream_call" view call ↔
      call.toolName ∈ assetSpecificTools ∧
        ∃ least, IsLeast (stopSequences view) least ∧ least < call.sequence := by
  constructor
  · intro h
    obtain ⟨finding, hfinding, hcode, hid⟩ := h
    rcases List.mem_append.mp hfinding with hf | hf
    · rw [unauthorized_code view finding hf] at hcode
      exact absurd hcode (by decide)
    · obtain ⟨least, hleast, reported, hreported, htool, hlater, rfl⟩ :=
        (mem_downstream_iff view finding).mp hf
      have hsame : reported.toolCallId = call.toolCallId := by
        have htext : some (Json.str reported.toolCallId) = some (Json.str call.toolCallId) := hid
        simpa using htext
      obtain rfl := List.inj_on_of_nodup_map hids hreported hcall hsame
      exact ⟨htool, least, hleast, hlater⟩
  · intro h
    obtain ⟨htool, least, hleast, hlater⟩ := h
    have hfinding := (mem_downstream_iff view (downstreamFinding least call)).mpr
      ⟨least, hleast, call, hcall, htool, hlater, rfl⟩
    exact ⟨downstreamFinding least call, List.mem_append_right _ hfinding, rfl, rfl⟩

/-- Each list is numbered in the order of its starts. -/
structure NumberedByStart (view : EvaluationRunView) : Prop where
  spans : ∀ a ∈ view.spans, ∀ b ∈ view.spans,
    a.sequence < b.sequence ↔ a.startedAt < b.startedAt
  toolCalls : ∀ a ∈ view.toolCalls, ∀ b ∈ view.toolCalls,
    a.sequence < b.sequence ↔ a.startedAt < b.startedAt

/-- The two lists share one numbering. -/
def OneNumbering (view : EvaluationRunView) : Prop :=
  ∀ span ∈ view.spans, ∀ call ∈ view.toolCalls,
    span.sequence < call.sequence ↔ span.startedAt < call.startedAt

/-- The span with the least sequence is the one that started first. -/
theorem stop_sequence_start (view : EvaluationRunView) (hnumbered : NumberedByStart view)
    (hone : OneNumbering view) (call : ToolCallView) (hcall : call ∈ view.toolCalls) :
    (∃ least, IsLeast (stopSequences view) least ∧ least < call.sequence) ↔
      ∃ start, IsLeast (stopStarts view) start ∧ start < call.startedAt := by
  have hagree : ∀ span ∈ view.spans, span.name = "unknown_asset" →
      (IsLeast (stopSequences view) span.sequence ↔ IsLeast (stopStarts view) span.startedAt) := by
    intro span hspan hname
    constructor
    · intro hleast
      refine ⟨⟨span, hspan, hname, rfl⟩, ?_⟩
      intro start hstart
      obtain ⟨other, hother, hname', rfl⟩ := hstart
      by_contra hlt
      have hsequence := (hnumbered.spans other hother span hspan).mpr (not_le.mp hlt)
      exact absurd (hleast.2 ⟨other, hother, hname', rfl⟩) (not_le.mpr hsequence)
    · intro hleast
      refine ⟨⟨span, hspan, hname, rfl⟩, ?_⟩
      intro sequence hsequence
      obtain ⟨other, hother, hname', rfl⟩ := hsequence
      by_contra hlt
      have hstart := (hnumbered.spans other hother span hspan).mp (not_le.mp hlt)
      exact absurd (hleast.2 ⟨other, hother, hname', rfl⟩) (not_le.mpr hstart)
  constructor
  · intro h
    obtain ⟨least, hleast, hlater⟩ := h
    obtain ⟨span, hspan, hname, rfl⟩ := hleast.1
    exact ⟨span.startedAt, (hagree span hspan hname).mp hleast,
      (hone span hspan call hcall).mp hlater⟩
  · intro h
    obtain ⟨start, hstart, hlater⟩ := h
    obtain ⟨span, hspan, hname, rfl⟩ := hstart.1
    exact ⟨span.sequence, (hagree span hspan hname).mpr hstart,
      (hone span hspan call hcall).mpr hlater⟩

/-- The stop is found by sequence, and by time when spans and calls share a numbering. -/
theorem unknown_asset_stop_by_sequence (event : ExtendedRunEvent) (view : EvaluationRunView)
    (h : ReadFrom event view) (call : ToolCallView) (hcall : call ∈ view.toolCalls) :
    (Reports "unknown_asset_downstream_call" view call ↔
      call.toolName ∈ assetSpecificTools ∧
        ∃ least, IsLeast (stopSequences view) least ∧ least < call.sequence) ∧
    (NumberedByStart view → OneNumbering view →
      (Reports "unknown_asset_downstream_call" view call ↔
        call.toolName ∈ assetSpecificTools ∧
          ∃ start, IsLeast (stopStarts view) start ∧ start < call.startedAt)) := by
  have hreported := downstream_reported_iff view (view_toolCallIds event view h) call hcall
  refine ⟨hreported, ?_⟩
  intro hnumbered hone
  rw [hreported, stop_sequence_start view hnumbered hone call hcall]

/-! ### Two numberings -/

section Numberings
variable (event : ExtendedRunEvent) (view : EvaluationRunView) (h : ReadFrom event view)

include h

theorem numbered_of_event
    (hspans : ∀ a ∈ event.spans, ∀ b ∈ event.spans,
      a.sequence < b.sequence ↔ a.startedAt < b.startedAt)
    (hcalls : ∀ a ∈ event.toolCalls, ∀ b ∈ event.toolCalls,
      a.sequence < b.sequence ↔ a.startedAt < b.startedAt) : NumberedByStart view where
  spans := by
    intro a ha b hb
    have hperm := view_spans event view h
    exact hspans _ (hperm.mem_iff.mp (List.mem_map_of_mem ha)) _
      (hperm.mem_iff.mp (List.mem_map_of_mem hb))
  toolCalls := by
    intro a ha b hb
    have hperm := view_toolCalls event view h
    exact hcalls _ (hperm.mem_iff.mp (List.mem_map_of_mem ha)) _
      (hperm.mem_iff.mp (List.mem_map_of_mem hb))

theorem oneNumbering_of_event
    (hone : ∀ span ∈ event.spans, ∀ call ∈ event.toolCalls,
      span.sequence < call.sequence ↔ span.startedAt < call.startedAt) : OneNumbering view := by
  intro span hspan call hcall
  exact hone _ ((view_spans event view h).mem_iff.mp (List.mem_map_of_mem hspan)) _
    ((view_toolCalls event view h).mem_iff.mp (List.mem_map_of_mem hcall))

/-- With a single unknown_asset span the stop is that span. -/
theorem stop_of_single (stop : Telemetry.Span) (hstop : stop ∈ event.spans)
    (hname : stop.name = "unknown_asset")
    (honly : ∀ span ∈ event.spans, span.name = "unknown_asset" → span = stop) :
    IsLeast (stopSequences view) stop.sequence ∧ IsLeast (stopStarts view) stop.startedAt := by
  obtain ⟨shown, hshown, hsame⟩ := view_span event view h stop hstop
  have hperm := view_spans event view h
  have hothers : ∀ span ∈ view.spans, span.name = "unknown_asset" → regroupSpan span = stop :=
    fun span hspan hspanName =>
      honly _ (hperm.mem_iff.mp (List.mem_map_of_mem hspan)) hspanName
  have hshownName : shown.name = "unknown_asset" :=
    (congrArg Telemetry.Span.name hsame).trans hname
  constructor
  · refine ⟨⟨shown, hshown, hshownName, congrArg Telemetry.Span.sequence hsame⟩, ?_⟩
    intro sequence hsequence
    obtain ⟨span, hspan, hspanName, rfl⟩ := hsequence
    exact le_of_eq (congrArg Telemetry.Span.sequence (hothers span hspan hspanName)).symm
  · refine ⟨⟨shown, hshown, hshownName, congrArg Telemetry.Span.startedAt hsame⟩, ?_⟩
    intro start hstart
    obtain ⟨span, hspan, hspanName, rfl⟩ := hstart
    exact le_of_eq (congrArg Telemetry.Span.startedAt (hothers span hspan hspanName)).symm

end Numberings

def stopSpan (sequence : ℤ) (startedAt : Timestamp) : Telemetry.Span :=
  { sampleSpan "child" none sequence with
    name := "unknown_asset", startedAt := startedAt, completedAt := some startedAt }

def statusCall (sequence : ℤ) (startedAt : Timestamp) : Telemetry.ToolCall :=
  { sampleToolCall "get_asset_status" with
    sequence := sequence, startedAt := startedAt, completedAt := startedAt }

/- The stop is the second span, and the call made after it the first call. -/
def missedEvent : ExtendedRunEvent :=
  { successEvent "run-1" with
    spans := [sampleSpan "root" none 1, stopSpan 2 1], toolCalls := [statusCall 1 2] }

/- The stop is the first span, and the call made before it the second call. -/
def blamedEvent : ExtendedRunEvent :=
  { successEvent "run-1" with
    spans := [stopSpan 1 2]
    toolCalls := [{ sampleToolCall "resolve_asset" with toolCallId := "tool-0" }, statusCall 2 1] }

/- The call follows the stop in the one numbering that both lists share. -/
def stoppedEvent : ExtendedRunEvent :=
  { successEvent "run-1" with
    spans := [sampleSpan "root" none 1, stopSpan 2 1], toolCalls := [statusCall 3 2] }

theorem unknown_asset_stop_by_sequence_missed :
    (∃ view, ReadFrom missedEvent view ∧ ∃ call ∈ view.toolCalls,
      (Reports "unknown_asset_downstream_call" view call ↔
        call.toolName ∈ assetSpecificTools ∧
          ∃ least, IsLeast (stopSequences view) least ∧ least < call.sequence)) ∧
    ∃ view, ReadFrom stoppedEvent view ∧ ∃ call ∈ view.toolCalls,
      (Reports "unknown_asset_downstream_call" view call ↔
        call.toolName ∈ assetSpecificTools ∧
          ∃ start, IsLeast (stopStarts view) start ∧ start < call.startedAt) := by
  constructor
  · obtain ⟨view, hview⟩ := readFrom_exists missedEvent rfl
    obtain ⟨call, hcall, _⟩ := view_toolCall missedEvent view hview (statusCall 1 2)
      List.mem_cons_self
    exact ⟨view, hview, call, hcall,
      (unknown_asset_stop_by_sequence missedEvent view hview call hcall).1⟩
  · obtain ⟨view, hview⟩ := readFrom_exists stoppedEvent rfl
    have hnumbered := numbered_of_event stoppedEvent view hview (by decide) (by decide)
    have hone := oneNumbering_of_event stoppedEvent view hview (by decide)
    obtain ⟨call, hcall, _⟩ := view_toolCall stoppedEvent view hview (statusCall 3 2)
      List.mem_cons_self
    exact ⟨view, hview, call, hcall,
      (unknown_asset_stop_by_sequence stoppedEvent view hview call hcall).2 hnumbered hone⟩

/-- A call after the stop goes unreported, and a call before one is reported. -/
theorem stop_misjudged_across_numberings :
    (∃ view, ReadFrom missedEvent view ∧ NumberedByStart view ∧ ∃ call ∈ view.toolCalls,
      call.toolName ∈ assetSpecificTools ∧
      (∃ start, IsLeast (stopStarts view) start ∧ start < call.startedAt) ∧
      ¬ Reports "unknown_asset_downstream_call" view call) ∧
    ∃ view, ReadFrom blamedEvent view ∧ NumberedByStart view ∧ ∃ call ∈ view.toolCalls,
      (∃ start, IsLeast (stopStarts view) start ∧ call.startedAt < start) ∧
      Reports "unknown_asset_downstream_call" view call := by
  constructor
  · obtain ⟨view, hview⟩ := readFrom_exists missedEvent rfl
    have hnumbered := numbered_of_event missedEvent view hview (by decide) (by decide)
    obtain ⟨hsequence, hstart⟩ := stop_of_single missedEvent view hview (stopSpan 2 1)
      (by simp [missedEvent]) rfl (by
        intro span hspan hname
        simp only [missedEvent, List.mem_cons, List.not_mem_nil, or_false] at hspan
        rcases hspan with rfl | rfl
        · exact absurd hname (by decide)
        · rfl)
    obtain ⟨call, hcall, hshown⟩ := view_toolCall missedEvent view hview (statusCall 1 2)
      List.mem_cons_self
    have hname : call.toolName = "get_asset_status" := congrArg Telemetry.ToolCall.toolName hshown
    have hnumber : call.sequence = 1 := congrArg Telemetry.ToolCall.sequence hshown
    have hstarted : call.startedAt = 2 := congrArg Telemetry.ToolCall.startedAt hshown
    refine ⟨view, hview, hnumbered, call, hcall, ?_, ⟨1, hstart, ?_⟩, ?_⟩
    · rw [hname]
      decide
    · rw [hstarted]
      decide
    · rw [downstream_reported_iff view (view_toolCallIds _ view hview) call hcall]
      intro hreported
      obtain ⟨_, least, hleast, hlater⟩ := hreported
      rw [hleast.unique hsequence, hnumber] at hlater
      exact absurd hlater (by decide)
  · obtain ⟨view, hview⟩ := readFrom_exists blamedEvent rfl
    have hnumbered := numbered_of_event blamedEvent view hview (by decide) (by decide)
    obtain ⟨hsequence, hstart⟩ := stop_of_single blamedEvent view hview (stopSpan 1 2)
      List.mem_cons_self rfl (by
        intro span hspan _
        simpa [blamedEvent] using hspan)
    obtain ⟨call, hcall, hshown⟩ := view_toolCall blamedEvent view hview (statusCall 2 1)
      (by simp [blamedEvent])
    have hname : call.toolName = "get_asset_status" := congrArg Telemetry.ToolCall.toolName hshown
    have hnumber : call.sequence = 2 := congrArg Telemetry.ToolCall.sequence hshown
    have hstarted : call.startedAt = 1 := congrArg Telemetry.ToolCall.startedAt hshown
    refine ⟨view, hview, hnumbered, call, hcall, ⟨2, hstart, ?_⟩, ?_⟩
    · rw [hstarted]
      decide
    · rw [downstream_reported_iff view (view_toolCallIds _ view hview) call hcall]
      refine ⟨?_, 1, hsequence, ?_⟩
      · rw [hname]
        decide
      · rw [hnumber]
        decide

end ObsPlatform.Platform
