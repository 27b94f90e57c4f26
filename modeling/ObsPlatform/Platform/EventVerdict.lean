import ObsPlatform.Evaluation.OrderIndependence
import ObsPlatform.Platform.Footprint
import ObsPlatform.Platform.Isolation
import ObsPlatform.Platform.RoundTrip

/-!
# The verdict of an event

A snapshot that restates its run is all an evaluation goes by. Whatever else is stored, in
whatever order the server lists the rows and whatever happens to other runs in between, the
verdict of the run is the one read off the event.
-/

namespace ObsPlatform.Platform

open Telemetry Db UnitOfWork Evaluation Ingestion Stateful Routes
open Regressions (SameRows ingest_sameRows)

/-! ### Views that are judged alike -/

/-- Alike but for the order of the children and for what no deterministic evaluator reads, the
LLM calls and the usage totals. -/
structure JudgedAlike (view view' : EvaluationRunView) : Prop where
  fields : view' = { view with
    spans := view'.spans
    toolCalls := view'.toolCalls
    llmCalls := view'.llmCalls
    usageTotalLlmCalls := view'.usageTotalLlmCalls
    usageTotalToolCalls := view'.usageTotalToolCalls
    usageTotalTokens := view'.usageTotalTokens
    usageTotalRetries := view'.usageTotalRetries
    usageTotalEstimatedCostUsd := view'.usageTotalEstimatedCostUsd }
  spans : view'.spans.Perm view.spans
  toolCalls : view'.toolCalls.Perm view.toolCalls

theorem judgedAlike_trans (a b c : EvaluationRunView) (hab : JudgedAlike a b)
    (hbc : JudgedAlike b c) : JudgedAlike a c where
  fields := by
    have h := hbc.fields
    rw [hab.fields] at h
    exact h
  spans := hbc.spans.trans hab.spans
  toolCalls := hbc.toolCalls.trans hab.toolCalls

def verdictOf (view : EvaluationRunView) (groundedness : JudgeOutcome GroundednessJudgeOutput)
    (uncertainty : JudgeOutcome UncertaintyJudgeOutput) : RunFailureResult :=
  classify (registryOutcomes view groundedness uncertainty)

theorem judgedAlike_verdict (view view' : EvaluationRunView) (h : JudgedAlike view view')
    (groundedness : JudgeOutcome GroundednessJudgeOutput)
    (uncertainty : JudgeOutcome UncertaintyJudgeOutput) :
    verdictOf view' groundedness uncertainty = verdictOf view groundedness uncertainty := by
  have hsame := registry_same view view'.spans view'.toolCalls h.spans h.toolCalls groundedness
    uncertainty
  have hread : registryOutcomes view' groundedness uncertainty =
      registryOutcomes (reordered view view'.spans view'.toolCalls) groundedness uncertainty := by
    rw [h.fields]
    rfl
  rw [verdictOf, verdictOf, hread]
  exact classify_same _ _ hsame

/-! ### The stored view -/

section Stored
variable (store : Store) (runId : String)

def shownSpan (span : Db.Span) : SpanView :=
  spanViewOf span (span.parentSpanId.bind (nameOf store runId))

def shownToolCall (toolCall : Db.ToolCall) : ToolCallView :=
  toolCallViewOf toolCall ((nameOf store runId toolCall.spanId).getD "")

end Stored

/- The run with its children in stored order. -/
def storedView (store : Store) (run : AgentRun) : EvaluationRunView :=
  runViewOf run ((spansOf run.runId store).map (shownSpan store run.runId))
    ((toolCallsOf run.runId store).map (shownToolCall store run.runId)) []

section Fetched
variable (c : Collation) (store : Store) (run : AgentRun) (spanRows : List Db.Span)
  (toolCallRows : List Db.ToolCall) (llmCallRows : List Db.LLMCall)
  (hf : Fetched c store run.runId spanRows toolCallRows llmCallRows)
  (hclosed : RunClosed store run.runId)
include hf hclosed

theorem assembleView_stored (view : EvaluationRunView)
    (h : assembleView run spanRows toolCallRows llmCallRows = .ok view) :
    JudgedAlike (storedView store run) view := by
  have hspans := mapM_ok (spanView (spanNames spanRows)) (shownSpan store run.runId) spanRows (by
    intro span hm
    have hparent := fetched_parent c store run spanRows toolCallRows llmCallRows hf hclosed
    rw [spanView, hparent span hm]
    rfl)
  have htools := mapM_ok (toolCallView (spanNames spanRows)) (shownToolCall store run.runId)
    toolCallRows (by
      intro toolCall hm
      have hspan := fetched_toolCall c store run spanRows toolCallRows llmCallRows hf hclosed
      rw [toolCallView, hspan toolCall hm]
      rfl)
  simp only [assembleView, hspans, htools] at h
  cases hllms : (llmCallRows.zipIdx 1).mapM (llmCallView (spanNames spanRows)) with
  | error e =>
    rw [hllms] at h
    cases h
  | ok llmCalls =>
    rw [hllms] at h
    cases h
    exact ⟨rfl, hf.spans.map _, hf.toolCalls.map _⟩

end Fetched

section Reader
variable (db : Database) (store : Store) (run : AgentRun)
  (hrun : store.agentRuns.find? run.runId = some run) (hclosed : RunClosed store run.runId)
  (s : DbSession) (hs : s.view = store)
include hrun hclosed hs

theorem evaluationRunView_stored (view : EvaluationRunView) (t : DbSession)
    (h : evaluationRunView db run.runId s = .ok (some view) t) :
    JudgedAlike (storedView store run) view := by
  have hdelivers : Delivers db.backend (evaluationRunView db run.runId) s fun returned _ =>
      ∀ view, returned = some view → JudgedAlike (storedView store run) view := by
    apply delivers_bind _ _ _ s _ _ (delivers_read_of db _ store s hs)
    intro found s1 hreturned
    obtain ⟨rfl, h1⟩ := hreturned
    rw [hrun]
    apply delivers_fetched db run.runId store s1 h1 _ _
    intro spanRows toolCallRows llmCallRows u hf _
    obtain ⟨view, hview, _⟩ :=
      assembleView_decodes db.collation store run spanRows toolCallRows llmCallRows hf hclosed
    rw [hview]
    refine delivers_of_ok _ _ u u (some view) _ rfl ?_
    intro view' hview'
    cases hview'
    exact assembleView_stored db.collation store run spanRows toolCallRows llmCallRows hf hclosed
      view hview
  exact ends_returns _ s t _ _ _ hdelivers h view rfl

end Reader

/-! ### The view of an event -/

/- The rows an ingestion writes, shown. -/
def eventSpanView (runId : String) (span : Telemetry.Span) : SpanView :=
  spanViewOf (spanValues runId span 0) span.parentSpanId

def eventToolCallView (runId : String) (toolCall : Telemetry.ToolCall) : ToolCallView :=
  toolCallViewOf (toolCallValues runId toolCall 0) toolCall.spanId

def eventView (event : ExtendedRunEvent) : EvaluationRunView :=
  runViewOf (agentRunValues event 0) (event.spans.map (eventSpanView event.runId))
    (event.toolCalls.map (eventToolCallView event.runId)) []

/-- Every stored child of the run is named again; the LLM calls do not matter here. -/
structure Restates (store : Store) (event : ExtendedRunEvent) : Prop where
  spans : ∀ row ∈ store.spans.rows, row.runId = event.runId →
    ∃ span ∈ event.spans, row.spanId = span.spanId
  toolCalls : ∀ row ∈ store.toolCalls.rows, row.runId = event.runId →
    ∃ toolCall ∈ event.toolCalls, row.toolCallId = toolCall.toolCallId

section Ingest
variable (event : ExtendedRunEvent) (now : Timestamp) (store store' : Store)
  (hi : Ingested event now store store') (hv : ChildrenConsistent event)
  (hrestates : Restates store event)

theorem shownSpan_of_stored (span : Telemetry.Span) (row : Db.Span)
    (h : SpanStored store' event.runId span row) :
    shownSpan store' event.runId row = eventSpanView event.runId span := by
  obtain ⟨hrow, hparent⟩ := h
  have hbind : row.parentSpanId.bind (nameOf store' event.runId) = span.parentSpanId := by
    cases hp : span.parentSpanId with
    | none =>
      rw [hp] at hparent
      rw [hparent]
      rfl
    | some parent =>
      rw [hp] at hparent
      obtain ⟨id, hid, hpointer⟩ := hparent
      rw [hpointer]
      exact (nameOf_eq_some_iff store' event.runId id parent).mpr hid
  rw [shownSpan, hbind, hrow]
  rfl

theorem shownToolCall_of_stored (toolCall : Telemetry.ToolCall) (row : Db.ToolCall)
    (h : ToolCallStored store' event.runId toolCall row) :
    shownToolCall store' event.runId row = eventToolCallView event.runId toolCall := by
  obtain ⟨hrow, hpointer⟩ := h
  have hname := (nameOf_eq_some_iff store' event.runId row.spanId toolCall.spanId).mpr hpointer
  rw [shownToolCall, hname, hrow]
  rfl

include hi hv hrestates

theorem spans_shown :
    ((spansOf event.runId store').map (shownSpan store' event.runId)).Perm
      (event.spans.map (eventSpanView event.runId)) := by
  have hkeys : (event.spans.map fun span => (event.runId, span.spanId)).Nodup := by
    have hids := hv.spanIds.map (Prod.mk_right_injective event.runId)
    rw [List.map_map] at hids
    exact hids
  apply store'.spans.toTable.shown_perm _ event.spans _ _ _ ?_ ?_ hkeys
  · intro span hspan
    obtain ⟨row, hrow, hstored⟩ := hi.spans span hspan
    have hrun := congrArg Prod.fst (Table.key_of_find? _ _ row hrow)
    exact ⟨row, hrow, decide_eq_true hrun, shownSpan_of_stored event store' span row hstored⟩
  · intro row hm hselected
    have hrun := of_decide_eq_true hselected
    by_contra hnone
    have hother : ∀ span ∈ event.spans, Db.Span.key row ≠ (event.runId, span.spanId) :=
      fun span hspan hkey => hnone ⟨span, hspan, hkey⟩
    have hrow := (store'.spans.toTable.find?_eq_some_iff row.key row).mpr ⟨hm, rfl⟩
    rw [hi.otherSpans row.key hother] at hrow
    obtain ⟨span, hspan, hid⟩ := hrestates.spans row (Table.mem_of_find? _ _ row hrow) hrun
    exact hnone ⟨span, hspan, Prod.ext hrun hid⟩

theorem toolCalls_shown :
    ((toolCallsOf event.runId store').map (shownToolCall store' event.runId)).Perm
      (event.toolCalls.map (eventToolCallView event.runId)) := by
  have hkeys : (event.toolCalls.map fun toolCall => (event.runId, toolCall.toolCallId)).Nodup := by
    have hids := hv.toolCallIds.map (Prod.mk_right_injective event.runId)
    rw [List.map_map] at hids
    exact hids
  apply store'.toolCalls.shown_perm _ event.toolCalls _ _ _ ?_ ?_ hkeys
  · intro toolCall hcall
    obtain ⟨row, hrow, hstored⟩ := hi.toolCalls toolCall hcall
    have hrun := congrArg Prod.fst (Table.key_of_find? _ _ row hrow)
    exact ⟨row, hrow, decide_eq_true hrun,
      shownToolCall_of_stored event store' toolCall row hstored⟩
  · intro row hm hselected
    have hrun := of_decide_eq_true hselected
    by_contra hnone
    have hother : ∀ toolCall ∈ event.toolCalls,
        Db.ToolCall.key row ≠ (event.runId, toolCall.toolCallId) :=
      fun toolCall hcall hkey => hnone ⟨toolCall, hcall, hkey⟩
    have hrow := (store'.toolCalls.find?_eq_some_iff row.key row).mpr ⟨hm, rfl⟩
    rw [hi.otherToolCalls row.key hother] at hrow
    obtain ⟨toolCall, hcall, hid⟩ :=
      hrestates.toolCalls row (Table.mem_of_find? _ _ row hrow) hrun
    exact hnone ⟨toolCall, hcall, Prod.ext hrun hid⟩

/-- A restated run is judged like the event, whether it is new or updated. -/
theorem ingested_judgedAlike : ∃ run, store'.agentRuns.find? event.runId = some run ∧
    run.runId = event.runId ∧ JudgedAlike (eventView event) (storedView store' run) := by
  have hspans := spans_shown event now store store' hi hv hrestates
  have htools := toolCalls_shown event now store store' hi hv hrestates
  have hrow := hi.agentRun
  cases hold : store.agentRuns.find? event.runId with
  | none =>
    rw [hold] at hrow
    exact ⟨_, hrow, rfl, rfl, hspans, htools⟩
  | some old =>
    rw [hold] at hrow
    have hid : old.runId = event.runId := Table.key_of_find? _ _ old hold
    refine ⟨_, hrow, hid, ?_, ?_, ?_⟩
    · simp only [storedView, eventView, runViewOf, withUsageTotals, Option.elim_some,
        updateAgentRun, hid]
      rfl
    · simp only [storedView, eventView, runViewOf, withUsageTotals, Option.elim_some,
        updateAgentRun, hid]
      exact hspans
    · simp only [storedView, eventView, runViewOf, withUsageTotals, Option.elim_some,
        updateAgentRun, hid]
      exact htools

end Ingest

/-! ### Foreign changes -/

section Same
variable (store store' : Store) (run : AgentRun) (h : SameRun run.runId store store')
include h

theorem nameOf_sameRun : nameOf store' run.runId = nameOf store run.runId :=
  funext (spanNames_lookup run.runId store _ h.spans)

theorem sameRun_judgedAlike : JudgedAlike (storedView store run) (storedView store' run) where
  fields := rfl
  spans := by
    have hshown : shownSpan store' run.runId = shownSpan store run.runId := by
      funext span
      rw [shownSpan, shownSpan, nameOf_sameRun store store' run h]
    show ((spansOf run.runId store').map (shownSpan store' run.runId)).Perm
      ((spansOf run.runId store).map (shownSpan store run.runId))
    rw [hshown]
    exact h.spans.map _
  toolCalls := by
    have hshown : shownToolCall store' run.runId = shownToolCall store run.runId := by
      funext toolCall
      rw [shownToolCall, shownToolCall, nameOf_sameRun store store' run h]
    show ((toolCallsOf run.runId store').map (shownToolCall store' run.runId)).Perm
      ((toolCallsOf run.runId store).map (shownToolCall store run.runId))
    rw [hshown, h.toolCalls]

end Same

theorem sameRun_runClosed (runId : String) (store store' : Store) (h : SameRun runId store store')
    (hclosed : RunClosed store runId) : RunClosed store' runId := by
  have hpoints (id : ℕ) (hp : PointsInto store runId id) : PointsInto store' runId id := by
    obtain ⟨span, hm, hrun, hid⟩ := (pointsInto_iff store runId id).mp hp
    have hspan := (mem_spansOf _ _ _).mp (h.spans.mem_iff.mpr ((mem_spansOf _ _ _).mpr ⟨hm, hrun⟩))
    exact (pointsInto_iff store' runId id).mpr ⟨span, hspan.1, hspan.2, hid⟩
  constructor
  · intro span hm hrun id hid
    have hspan := (mem_spansOf _ _ _).mp (h.spans.mem_iff.mp ((mem_spansOf _ _ _).mpr ⟨hm, hrun⟩))
    exact hpoints id (hclosed.parents span hspan.1 hspan.2 id hid)
  · intro call hm hrun
    have hcall : call ∈ toolCallsOf runId store' := List.mem_filter.mpr ⟨hm, by simpa using hrun⟩
    rw [h.toolCalls] at hcall
    exact hpoints _ (hclosed.toolCalls call (List.mem_of_mem_filter hcall) hrun)
  · intro call hm hrun
    have hcall : call ∈ llmCallsOf runId store' := List.mem_filter.mpr ⟨hm, by simpa using hrun⟩
    rw [h.llmCalls] at hcall
    exact hpoints _ (hclosed.llmCalls call (List.mem_of_mem_filter hcall) hrun)

/-! ### The verdict -/

/-- Without credentials both judges are skipped. -/
def JudgedUnder (environment : JudgeEnvironment)
    (groundedness : JudgeOutcome GroundednessJudgeOutput)
    (uncertainty : JudgeOutcome UncertaintyJudgeOutput) : Prop :=
  environment.settings.isConfigured = false → groundedness = .skipped ∧ uncertainty = .skipped

theorem registry_judged (libraries : JudgeLibraries) (environment : JudgeEnvironment)
    (run : EvaluationRunView) : ∃ groundedness uncertainty,
      JudgedUnder environment groundedness uncertainty ∧
      outcomesOf environment run 0 none (allEvaluators libraries) =
        registryOutcomes run groundedness uncertainty := by
  by_cases hconfigured : environment.settings.isConfigured = true
  · obtain ⟨groundedness, uncertainty, h⟩ := registry_outcomes libraries environment run
    refine ⟨groundedness, uncertainty, fun hnone => ?_, h⟩
    rw [hconfigured] at hnone
    cases hnone
  · refine ⟨.skipped, .skipped, fun _ => ⟨rfl, rfl⟩, ?_⟩
    have hskipped (position : ℕ) (judgeClient : Option JudgeClient) (evaluator : Evaluator)
        (hllm : evaluator.type = .llmBased) :
        evaluateOne environment run position judgeClient evaluator =
          ⟨.skipped, judgeUnavailableResult, [], judgeClient⟩ := by
      have hskip : shouldSkipUnconfiguredJudge evaluator environment.settings = true := by
        simp [shouldSkipUnconfiguredJudge, hllm, hconfigured]
      rw [evaluateOne, if_pos hskip]
    have hdeterministic := deterministic_evaluated environment run
    simp only [allEvaluators, toolExecutionEvaluator, structuredOutputEvaluator,
      trajectoryEvaluator, policyEvaluator, evidenceEvaluator, outcomesOf, hdeterministic,
      hskipped _ _ (groundednessJudge libraries) rfl, hskipped _ _ (uncertaintyJudge libraries) rfl]
    rfl

theorem evaluationTriggerResponse_classified (runId : String)
    (outcomes outcomes' : List EvaluatorOutcome) (classification classification' : RunFailureResult)
    (evaluatedAt evaluatedAt' : Timestamp)
    (h : evaluationTriggerResponse runId outcomes classification evaluatedAt =
      evaluationTriggerResponse runId outcomes' classification' evaluatedAt') :
    classification = classification' := by
  have hstatus := congrArg EvaluationTriggerResponse.overallStatus h
  have hfailure := Option.some.inj (congrArg EvaluationTriggerResponse.failure h)
  cases classification
  cases classification'
  cases hfailure
  cases hstatus
  rfl

/-- The failure row holds the verdict. -/
def Records (failure : RunFailure) (verdict : RunFailureResult) : Prop :=
  verdict = ⟨failure.overallStatus, failure.primaryCategory, failure.secondaryCategory,
    failure.maxSeverity⟩

/-- The response shows the verdict. -/
structure Announces (response : EvaluationTriggerResponse) (verdict : RunFailureResult) : Prop where
  overallStatus : response.overallStatus = verdict.overallStatus
  failure : response.failure =
    some ⟨verdict.primaryCategory, verdict.secondaryCategory, verdict.maxSeverity⟩

section Evaluation
variable (db : Database) (environment : JudgeEnvironment) (libraries : JudgeLibraries)

/-- What an evaluation stores and returns is the verdict of the stored view. -/
theorem evaluation_verdict (store : Store) (run : AgentRun)
    (hrun : store.agentRuns.find? run.runId = some run) (hclosed : RunClosed store run.runId)
    (s : DbSession) (hs : s.view = store) (response : EvaluationTriggerResponse)
    (t : DbSession)
    (h : runEvaluation db environment (allEvaluators libraries) run.runId s = .ok response t) :
    ∃ groundedness uncertainty failure, JudgedUnder environment groundedness uncertainty ∧
      t.committed.runFailures.find? run.runId = some failure ∧
      Records failure (verdictOf (storedView store run) groundedness uncertainty) ∧
      Announces response (verdictOf (storedView store run) groundedness uncertainty) ∧
      t.view = t.committed ∧ t.committed.agentRuns = store.agentRuns := by
  obtain ⟨view, u, evaluatedAt, hview, hresponse⟩ :=
    runEvaluation_verdict db environment _ run.runId s t response h
  have hends := runEvaluation_ends db environment (allEvaluators libraries) store run hrun hclosed s hs
  obtain ⟨_, hsync, view', n, hcompleted, hresponse'⟩ := ends_returns _ s t response _ _ hends h
  obtain ⟨mid, m, _, hstore⟩ := hcompleted.recorded
  obtain ⟨failure, hfailure, hrecords⟩ := upsertRunFailure_classified run.runId
    (classify (outcomesOf environment view' 0 none (allEvaluators libraries))) (db.clock m) mid
  rw [← hstore] at hfailure
  have hanswered := hresponse'.symm.trans hresponse
  have halike := evaluationRunView_stored db store run hrun hclosed s hs view u hview
  obtain ⟨groundedness, uncertainty, hjudged, houtcomes⟩ :=
    registry_judged libraries environment view
  have hverdict := judgedAlike_verdict _ view halike groundedness uncertainty
  have hclassified := evaluationTriggerResponse_classified _ _ _ _ _ _ _ hanswered
  have hcomputed : verdictOf (storedView store run) groundedness uncertainty =
      classify (outcomesOf environment view 0 none (allEvaluators libraries)) := by
    rw [← hverdict, verdictOf, houtcomes]
  rw [hclassified, ← hcomputed] at hrecords
  rw [← hcomputed] at hresponse
  obtain ⟨_, _, _, _, _, _, _, _, hrows⟩ := (completed_footprint db environment _ store run view' _ _
    hcompleted).rows
  refine ⟨groundedness, uncertainty, failure, hjudged, hfailure, hrecords, ?_, hsync, ?_⟩
  · rw [hresponse]
    exact ⟨rfl, rfl⟩
  · rw [hrows]

end Evaluation

section Event
variable (db : Database) (event : ExtendedRunEvent) (hv : Validated event) (s t : DbSession)
  (result : IngestRunResult) (hclosed : RunClosed s.committed event.runId)
  (hrestates : Restates s.committed event) (hingest : ingestRunEvent db event s = .ok result t)
include hv hclosed hrestates hingest

/-- A snapshot that restates its run is ingested, other runs change, and the run is evaluated by
any server: the verdict stored and returned is that of the event. -/
theorem ingested_verdict (store : Store) (hsame : SameRows event.runId t.committed store)
    (server : Database) (environment : JudgeEnvironment) (libraries : JudgeLibraries)
    (u : DbSession) (hu : u.view = store) :
    Delivers server.backend (runEvaluation server environment (allEvaluators libraries) event.runId)
      u fun response v => ∃ groundedness uncertainty failure,
        JudgedUnder environment groundedness uncertainty ∧
        v.committed.runFailures.find? event.runId = some failure ∧
        Records failure (verdictOf (eventView event) groundedness uncertainty) ∧
        Announces response (verdictOf (eventView event) groundedness uncertainty) := by
  have hchildren := ((validated_iff event).mp hv).1
  obtain ⟨_, _, heffect⟩ := ingestRunEvent_returns db event s t result hingest
  have hi := ingestEffect_ingested event _ _ _ heffect hchildren
  obtain ⟨run, hrun, hid, halike⟩ := ingested_judgedAlike event _ _ _ hi hchildren hrestates
  have hstored := ingest_runClosed event _ _ _ hi event.runId hclosed
  have hsameRun : SameRun run.runId t.committed store := hid ▸ hsame.toSameRun
  have hfound : store.agentRuns.find? run.runId = some run := by
    rw [hsameRun.agentRun, hid, hrun]
  have hstill := sameRun_runClosed run.runId _ store hsameRun (hid ▸ hstored)
  have hviews := judgedAlike_trans _ _ _ halike (sameRun_judgedAlike _ store run hsameRun)
  rw [← hid]
  have hdelivers := delivers_runEvaluation server environment (allEvaluators libraries) store run
    hfound hstill u hu
  cases hdelivers with
  | error e v hr hrefused => exact .error e v hr hrefused
  | ok response v hr _ =>
    obtain ⟨groundedness, uncertainty, failure, hjudged, hfailure, hrecords, hresponse, _⟩ :=
      evaluation_verdict server environment libraries store run hfound hstill u hu response v hr
    rw [judgedAlike_verdict _ _ hviews] at hrecords hresponse
    exact .ok response v hr
      ⟨groundedness, uncertainty, failure, hjudged, hfailure, hrecords, hresponse⟩

end Event

/-! ### A run that waited for its approval

Its output is empty. -/

def waitingStore : Store :=
  served .plain (.ingest (pendingEvent "run-1") (pendingEvent_validated "run-1")) Store.empty

theorem waitingStore_closed : RunClosed waitingStore "run-1" :=
  (reachable_referencesClosed waitingStore (.request _ .empty _ _)).closed "run-1"

/-- Another run is ingested before the evaluation. -/
theorem ingested_verdict_approved : ∃ result t result' t' response v failure,
    ingestRunEvent .plain (approvedEvent "run-1") (Session.fresh waitingStore) = .ok result t ∧
    ingestRunEvent .plain (successEvent "run-2") (Session.fresh t.committed) = .ok result' t' ∧
    runEvaluation .plain noJudge (allEvaluators noLibraries) "run-1" (Session.fresh t'.committed) =
      .ok response v ∧
    v.committed.runFailures.find? "run-1" = some failure ∧
    Records failure ⟨.fail, some .outputValidationError, none, some "error"⟩ ∧
    Announces response ⟨.fail, some .outputValidationError, none, some "error"⟩ := by
  have hv : Validated (approvedEvent "run-1") := approvedEvent_validated "run-1"
  have hingested := delivers_ingest .plain (approvedEvent "run-1") ((validated_iff _).mp hv).1
    (Session.fresh waitingStore) rfl rfl
  obtain ⟨result, t, hr, _⟩ := delivers_accepted _ plain_accepts _ _ _ hingested
  have hother := delivers_ingest .plain (successEvent "run-2")
    ((validated_iff _).mp (successEvent_validated "run-2")).1 (Session.fresh t.committed) rfl rfl
  obtain ⟨result', t', hr', _⟩ := delivers_accepted _ plain_accepts _ _ _ hother
  have hsame : SameRows "run-1" t.committed t'.committed := by
    obtain ⟨_, _, heffect⟩ := ingestRunEvent_returns .plain _ _ t' result' hr'
    exact ingest_sameRows "run-2" "run-1" (by decide) t.committed (successEvent "run-2") rfl _ _ heffect
  have hrestates : Restates waitingStore (approvedEvent "run-1") :=
    ⟨by decide +kernel, by decide +kernel⟩
  have hdelivers := ingested_verdict .plain (approvedEvent "run-1") hv (Session.fresh waitingStore) t
    result waitingStore_closed hrestates hr t'.committed hsame .plain noJudge noLibraries
    (Session.fresh t'.committed) rfl
  obtain ⟨response, v, hevaluated, _, _, failure, hjudged, hfailure, hrecords, hresponse⟩ :=
    delivers_accepted _ plain_accepts _ _ _ hdelivers
  obtain ⟨rfl, rfl⟩ := hjudged (by decide)
  have hverdict : verdictOf (eventView (approvedEvent "run-1")) .skipped .skipped =
      ⟨.fail, some .outputValidationError, none, some "error"⟩ := by decide +kernel
  rw [hverdict] at hrecords hresponse
  exact ⟨result, t, result', t', response, v, failure, hr, hr', hevaluated, hfailure, hrecords,
    hresponse⟩

end ObsPlatform.Platform
