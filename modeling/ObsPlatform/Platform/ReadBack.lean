import ObsPlatform.Platform.References
import ObsPlatform.Routes.Runs

/-!
# Reading a run back

Two readers decode a stored run: the evaluation view and the run detail. Both are
compared with one event, the trajectory stored under the run: the run's row with its
columns grouped again, and its children with their surrogate keys decoded.
-/

namespace ObsPlatform.Platform

open Telemetry Db UnitOfWork Evaluation Ingestion Routes

/-! ### Decoding a surrogate key -/

theorem mem_spansOf (runId : String) (store : Store) (span : Db.Span) :
    span ∈ spansOf runId store ↔ span ∈ store.spans.rows ∧ span.runId = runId := by
  simp only [spansOf, List.mem_filter, decide_eq_true_eq]

theorem spanNames_nodup (runId : String) (store : Store) (spans : List Db.Span)
    (h : spans.Perm (spansOf runId store)) : ((spanNames spans).map Prod.fst).Nodup := by
  have hids : (spans.map Db.Span.id).Nodup := by
    rw [(h.map Db.Span.id).nodup_iff]
    exact store.spans.distinct.sublist (List.filter_sublist.map Db.Span.id)
  have hkeys : (spanNames spans).map Prod.fst = (spans.map Db.Span.id).reverse := by
    simp only [spanNames, List.map_reverse, List.map_map]
    rfl
  rw [hkeys, List.nodup_reverse]
  exact hids

/-- Decoding undoes `spanPointer`, in whatever order the spans were read. -/
theorem spanNames_lookup_iff (runId : String) (store : Store) (spans : List Db.Span)
    (h : spans.Perm (spansOf runId store)) (id : ℕ) (name : String) :
    (spanNames spans).lookup id = some name ↔ spanPointer store runId name = some id := by
  rw [lookup_eq_some_iff _ (spanNames_nodup runId store spans h)]
  simp only [spanNames, List.mem_reverse, List.mem_map, h.mem_iff, mem_spansOf, Prod.mk.injEq]
  constructor
  · intro hspan
    obtain ⟨span, ⟨hm, rfl⟩, rfl, rfl⟩ := hspan
    have hf := (store.spans.toTable.find?_eq_some_iff (span.runId, span.spanId) span).mpr ⟨hm, rfl⟩
    rw [spanPointer, hf, Option.map_some]
  · intro hp
    obtain ⟨span, hf, hid⟩ := Option.map_eq_some_iff.mp hp
    obtain ⟨hm, hk⟩ := (store.spans.toTable.find?_eq_some_iff _ span).mp hf
    obtain ⟨hrun, hname⟩ := Prod.mk.inj hk
    exact ⟨span, ⟨hm, hrun⟩, hid, hname⟩

/-- The external id behind a surrogate key of the run. -/
def nameOf (store : Store) (runId : String) (id : ℕ) : Option String :=
  (spanNames (spansOf runId store)).lookup id

theorem nameOf_eq_some_iff (store : Store) (runId : String) (id : ℕ) (name : String) :
    nameOf store runId id = some name ↔ spanPointer store runId name = some id :=
  spanNames_lookup_iff runId store _ (List.Perm.refl _) id name

theorem spanNames_lookup (runId : String) (store : Store) (spans : List Db.Span)
    (h : spans.Perm (spansOf runId store)) (id : ℕ) :
    (spanNames spans).lookup id = nameOf store runId id := by
  refine Option.ext fun name => ?_
  show (spanNames spans).lookup id = some name ↔ nameOf store runId id = some name
  rw [spanNames_lookup_iff runId store spans h, nameOf_eq_some_iff]

theorem spanName_decodes (runId : String) (store : Store) (spans : List Db.Span)
    (h : spans.Perm (spansOf runId store)) (id : ℕ) (hp : PointsInto store runId id) :
    spanName (spanNames spans) id = .ok ((nameOf store runId id).getD "") := by
  obtain ⟨name, hname⟩ := hp
  have hn := (nameOf_eq_some_iff store runId id name).mpr hname
  simp only [spanName, spanNames_lookup runId store spans h, hn, Option.getD_some]

theorem parentName_decodes (runId : String) (store : Store) (spans : List Db.Span)
    (h : spans.Perm (spansOf runId store)) (parent : Option ℕ)
    (hp : ∀ id, parent = some id → PointsInto store runId id) :
    parentName (spanNames spans) parent = .ok (parent.bind (nameOf store runId)) := by
  cases parent with
  | none => rfl
  | some id =>
    obtain ⟨name, hname⟩ := hp id rfl
    have hn := (nameOf_eq_some_iff store runId id name).mpr hname
    simp only [parentName, spanName, spanNames_lookup runId store spans h, hn, Option.bind_some]
    rfl

/-! ### Trajectories -/

def regroupSpan (span : SpanView) : Telemetry.Span where
  spanId := span.spanId
  parentSpanId := span.parentSpanId
  name := span.name
  sequence := span.sequence
  startedAt := span.startedAt
  completedAt := span.completedAt
  status := span.status
  input := span.input
  output := span.output
  metadata := span.metadata
  error := errorResponse span.errorCategory span.errorCode span.errorMessage
    span.errorFailedComponent

def regroupToolCall (toolCall : ToolCallView) : Telemetry.ToolCall where
  toolCallId := toolCall.toolCallId
  spanId := toolCall.spanId
  toolName := toolCall.toolName
  sequence := toolCall.sequence
  arguments := toolCall.arguments
  result := toolCall.result
  startedAt := toolCall.startedAt
  completedAt := toolCall.completedAt
  latencyMs := toolCall.latencyMs
  retryCount := toolCall.retryCount
  status := toolCall.status
  error := errorResponse toolCall.errorCategory toolCall.errorCode toolCall.errorMessage
    toolCall.errorFailedComponent

def regroupLlmCall (llmCall : LLMCallView) : Telemetry.LLMCall where
  llmCallId := llmCall.llmCallId
  spanId := llmCall.spanId
  callType := llmCall.callType
  model := llmCall.model
  provider := llmCall.provider
  startedAt := llmCall.startedAt
  completedAt := llmCall.completedAt
  latencyMs := llmCall.latencyMs
  promptTokens := llmCall.promptTokens
  completionTokens := llmCall.completionTokens
  totalTokens := llmCall.totalTokens
  estimatedCostUsd := llmCall.estimatedCostUsd
  inputPayload := llmCall.inputPayload
  outputPayload := llmCall.outputPayload
  status := llmCall.status
  error := errorResponse llmCall.errorCategory llmCall.errorCode llmCall.errorMessage
    llmCall.errorFailedComponent

/-- The event an evaluation view shows, its flattened columns grouped. -/
def viewTrajectory (view : EvaluationRunView) : ExtendedRunEvent where
  schemaVersion := view.schemaVersion
  eventType := view.eventType
  runId := view.runId
  agentName := view.agentName
  agentVersion := view.agentVersion
  promptVersion := view.promptVersion
  environment := view.environment
  rawInput := view.rawInput
  normalizedInput := view.normalizedInput
  scenarioId := view.scenarioId
  startedAt := view.startedAt
  completedAt := view.completedAt
  status := view.status
  executionLatencyMs := view.executionLatencyMs
  wallClockDurationMs := view.wallClockDurationMs
  resumeCount := view.resumeCount
  spans := view.spans.map regroupSpan
  toolCalls := view.toolCalls.map regroupToolCall
  llmCalls := view.llmCalls.map regroupLlmCall
  hitl :=
    { required := view.hitlRequired
      state := view.hitlState
      checkpointId := view.hitlCheckpointId
      decision := view.hitlDecision
      requestedAt := view.hitlRequestedAt
      decidedAt := view.hitlDecidedAt
      pendingAction := view.hitlPendingAction }
  usage :=
    { totalLlmCalls := view.usageTotalLlmCalls
      totalToolCalls := view.usageTotalToolCalls
      totalTokens := view.usageTotalTokens
      totalEstimatedCostUsd := view.usageTotalEstimatedCostUsd
      totalRetries := view.usageTotalRetries }
  finalResult := view.finalResultOutput.map fun output =>
    { output := output, sourceReferences := view.finalResultSourceReferences.getD [] }
  runtimeError := errorResponse view.runtimeErrorCategory view.runtimeErrorCode
    view.runtimeErrorMessage view.runtimeErrorFailedComponent

/-- The event a run detail shows. There is one schema version, which the detail
leaves out. -/
def detailTrajectory (detail : RunDetailResponse) : ExtendedRunEvent where
  schemaVersion := .v1_0
  eventType := detail.eventType
  runId := detail.runId
  agentName := detail.agentName
  agentVersion := detail.agentVersion
  promptVersion := detail.promptVersion
  environment := detail.environment
  rawInput := detail.rawInput
  normalizedInput := detail.normalizedInput
  scenarioId := detail.scenarioId
  startedAt := detail.startedAt
  completedAt := detail.completedAt
  status := detail.status
  executionLatencyMs := detail.executionLatencyMs
  wallClockDurationMs := detail.wallClockDurationMs
  resumeCount := detail.resumeCount
  spans := detail.spans
  toolCalls := detail.toolCalls
  llmCalls := detail.llmCalls.map LLMCallResponse.toLLMCall
  hitl := detail.hitl
  usage := detail.usage
  finalResult := detail.finalResult
  runtimeError := detail.runtimeError

def decodedSpan (store : Store) (runId : String) (span : Db.Span) : Telemetry.Span :=
  spanResponseOf span (span.parentSpanId.bind (nameOf store runId))

def decodedToolCall (store : Store) (runId : String) (toolCall : Db.ToolCall) :
    Telemetry.ToolCall :=
  toolCallResponseOf toolCall ((nameOf store runId toolCall.spanId).getD "")

def decodedLlmCall (store : Store) (runId : String) (llmCall : Db.LLMCall) : Telemetry.LLMCall :=
  (llmCallResponseOf (llmCall, 0) ((nameOf store runId llmCall.spanId).getD "")).toLLMCall

/-- The event stored under a run's row, children in stored order. -/
def storedTrajectory (store : Store) (run : AgentRun) : ExtendedRunEvent :=
  { detailTrajectory (runDetailOf run
      ((spansOf run.runId store).map (decodedSpan store run.runId))
      ((toolCallsOf run.runId store).map (decodedToolCall store run.runId)) [] none []) with
    llmCalls := (llmCallsOf run.runId store).map (decodedLlmCall store run.runId) }

/-! ### What a reader shows -/

def InSequence {χ : Type} (sequence : χ → ℤ) (items : List χ) : Prop :=
  items.Pairwise fun a b => sequence a ≤ sequence b

def InStartOrder (c : Collation) (llmCalls : List Telemetry.LLMCall) : Prop :=
  llmCalls.Pairwise fun a b =>
    a.startedAt < b.startedAt ∨ a.startedAt = b.startedAt ∧ c.le a.llmCallId b.llmCallId

/-- `shown` is `expected` up to the order of the children. -/
structure Reordered (expected shown : ExtendedRunEvent) : Prop where
  fields : shown = { expected with
    spans := shown.spans, toolCalls := shown.toolCalls, llmCalls := shown.llmCalls }
  spans : shown.spans.Perm expected.spans
  toolCalls : shown.toolCalls.Perm expected.toolCalls
  llmCalls : shown.llmCalls.Perm expected.llmCalls

theorem reordered_trans (a b c : ExtendedRunEvent) (hab : Reordered a b) (hbc : Reordered b c) :
    Reordered a c where
  fields := by
    have h := hbc.fields
    rw [hab.fields] at h
    exact h
  spans := hbc.spans.trans hab.spans
  toolCalls := hbc.toolCalls.trans hab.toolCalls
  llmCalls := hbc.llmCalls.trans hab.llmCalls

theorem reordered_symm (a b : ExtendedRunEvent) (h : Reordered a b) : Reordered b a where
  fields := by
    rw [h.fields]
  spans := h.spans.symm
  toolCalls := h.toolCalls.symm
  llmCalls := h.llmCalls.symm

/-- `shown` is `expected`, its children sorted. -/
structure Shows (c : Collation) (expected shown : ExtendedRunEvent) : Prop
    extends Reordered expected shown where
  spansInSequence : InSequence Telemetry.Span.sequence shown.spans
  toolCallsInSequence : InSequence Telemetry.ToolCall.sequence shown.toolCalls
  llmCallsInOrder : InStartOrder c shown.llmCalls

theorem shows_of_reordered (c : Collation) (a b shown : ExtendedRunEvent) (hab : Reordered a b)
    (h : Shows c b shown) : Shows c a shown :=
  { reordered_trans a b shown hab h.toReordered with
    spansInSequence := h.spansInSequence
    toolCallsInSequence := h.toolCallsInSequence
    llmCallsInOrder := h.llmCallsInOrder }

/-- LLM calls with distinct ids have one order. -/
theorem shows_llmCalls_eq (c : Collation) (expected a b : ExtendedRunEvent)
    (hn : (expected.llmCalls.map Telemetry.LLMCall.llmCallId).Nodup)
    (ha : Shows c expected a) (hb : Shows c expected b) : a.llmCalls = b.llmCalls := by
  refine List.Perm.eq_of_pairwise ?_ ha.llmCallsInOrder hb.llmCallsInOrder
    (ha.llmCalls.trans hb.llmCalls.symm)
  intro x y hx hy hxy hyx
  have hid : x.llmCallId = y.llmCallId := by
    rcases hxy with hlt | ⟨heq, hle⟩
    · rcases hyx with hgt | ⟨heq', _⟩
      · exact absurd (hlt.trans hgt) (lt_irrefl _)
      · exact absurd hlt (heq' ▸ lt_irrefl _)
    · rcases hyx with hgt | ⟨_, hle'⟩
      · exact absurd hgt (heq ▸ lt_irrefl _)
      · exact c.antisymm _ _ hle hle'
  exact List.inj_on_of_nodup_map hn (ha.llmCalls.mem_iff.mp hx) (hb.llmCalls.mem_iff.mp hy) hid

/-- The rows the two readers fetch, each list in the order its query asks for. -/
structure Fetched (c : Collation) (store : Store) (runId : String) (spanRows : List Db.Span)
    (toolCallRows : List Db.ToolCall) (llmCallRows : List Db.LLMCall) : Prop where
  spans : spanRows.Perm (spansOf runId store)
  spansInSequence : spanRows.Pairwise Db.Span.bySequence
  toolCalls : toolCallRows.Perm (toolCallsOf runId store)
  toolCallsInSequence : toolCallRows.Pairwise Db.ToolCall.bySequence
  llmCalls : llmCallRows.Perm (llmCallsOf runId store)
  llmCallsInOrder : llmCallRows.Pairwise (Db.LLMCall.byStart c)

theorem mapM_ok {α β : Type} (f : α → Except Error β) (g : α → β) (xs : List α)
    (h : ∀ x ∈ xs, f x = .ok (g x)) : xs.mapM f = .ok (xs.map g) := by
  induction xs with
  | nil => rfl
  | cons x xs ih =>
    rw [List.mapM_cons, h x List.mem_cons_self,
      ih fun y hy => h y (List.mem_cons_of_mem _ hy)]
    rfl

/-- `enumerate(rows, start=n)` visits the rows in order. -/
theorem map_numbered {α β : Type} (f : α → β) (rows : List α) (n : ℕ) :
    (rows.zipIdx n).map (fun numbered => f numbered.1) = rows.map f := by
  have h : (rows.zipIdx n).map (fun numbered => f numbered.1) =
      ((rows.zipIdx n).map Prod.fst).map f := by
    rw [List.map_map]
    rfl
  rw [h, List.zipIdx_map_fst]

theorem map_numbers {α β : Type} (f : ℕ → β) (rows : List α) (n : ℕ) :
    (rows.zipIdx n).map (fun numbered => f numbered.2) =
      (List.range' n rows.length).map f := by
  have h : (rows.zipIdx n).map (fun numbered => f numbered.2) =
      ((rows.zipIdx n).map Prod.snd).map f := by
    rw [List.map_map]
    rfl
  rw [h, List.zipIdx_map_snd]

section Fetched
variable (c : Collation) (store : Store) (run : AgentRun) (spanRows : List Db.Span)
  (toolCallRows : List Db.ToolCall) (llmCallRows : List Db.LLMCall)

/-- The fetched rows as an event. -/
def fetchedTrajectory : ExtendedRunEvent :=
  { storedTrajectory store run with
    spans := spanRows.map (decodedSpan store run.runId)
    toolCalls := toolCallRows.map (decodedToolCall store run.runId)
    llmCalls := llmCallRows.map (decodedLlmCall store run.runId) }

variable (hf : Fetched c store run.runId spanRows toolCallRows llmCallRows)

include hf in
theorem fetched_shows :
    Shows c (storedTrajectory store run)
      (fetchedTrajectory store run spanRows toolCallRows llmCallRows) where
  fields := rfl
  spans := hf.spans.map _
  spansInSequence := List.pairwise_map.mpr hf.spansInSequence
  toolCalls := hf.toolCalls.map _
  toolCallsInSequence := List.pairwise_map.mpr hf.toolCallsInSequence
  llmCalls := hf.llmCalls.map _
  llmCallsInOrder := List.pairwise_map.mpr hf.llmCallsInOrder

variable (hclosed : RunClosed store run.runId)
include hf hclosed

theorem fetched_parent (span : Db.Span) (hm : span ∈ spanRows) :
    parentName (spanNames spanRows) span.parentSpanId =
      .ok (span.parentSpanId.bind (nameOf store run.runId)) := by
  obtain ⟨hstored, hrun⟩ := (mem_spansOf _ _ _).mp (hf.spans.mem_iff.mp hm)
  apply parentName_decodes run.runId store spanRows hf.spans span.parentSpanId
  intro id hid
  exact hclosed.parents span hstored hrun id hid

theorem fetched_toolCall (toolCall : Db.ToolCall) (hm : toolCall ∈ toolCallRows) :
    spanName (spanNames spanRows) toolCall.spanId =
      .ok ((nameOf store run.runId toolCall.spanId).getD "") := by
  have hmem := hf.toolCalls.mem_iff.mp hm
  simp only [toolCallsOf, List.mem_filter, decide_eq_true_eq] at hmem
  exact spanName_decodes run.runId store spanRows hf.spans toolCall.spanId
    (hclosed.toolCalls toolCall hmem.1 hmem.2)

theorem fetched_llmCall (llmCall : Db.LLMCall) (hm : llmCall ∈ llmCallRows) :
    spanName (spanNames spanRows) llmCall.spanId =
      .ok ((nameOf store run.runId llmCall.spanId).getD "") := by
  have hmem := hf.llmCalls.mem_iff.mp hm
  simp only [llmCallsOf, List.mem_filter, decide_eq_true_eq] at hmem
  exact spanName_decodes run.runId store spanRows hf.spans llmCall.spanId
    (hclosed.llmCalls llmCall hmem.1 hmem.2)

/-- No lookup of the evaluation view misses. -/
theorem assembleView_decodes : ∃ view,
    assembleView run spanRows toolCallRows llmCallRows = .ok view ∧
      viewTrajectory view = fetchedTrajectory store run spanRows toolCallRows llmCallRows ∧
      view.llmCalls.map LLMCallView.sequence =
        (List.range' 1 view.llmCalls.length).map Int.ofNat := by
  have hspans := mapM_ok (spanView (spanNames spanRows))
    (fun span => spanViewOf span (span.parentSpanId.bind (nameOf store run.runId))) spanRows (by
      intro span hm
      have hparent := fetched_parent c store run spanRows toolCallRows llmCallRows hf hclosed
      rw [spanView, hparent span hm]
      rfl)
  have htools := mapM_ok (toolCallView (spanNames spanRows))
    (fun call => toolCallViewOf call ((nameOf store run.runId call.spanId).getD ""))
    toolCallRows (by
      intro call hm
      have hspan := fetched_toolCall c store run spanRows toolCallRows llmCallRows hf hclosed
      rw [toolCallView, hspan call hm]
      rfl)
  have hllms := mapM_ok (llmCallView (spanNames spanRows))
    (fun call => llmCallViewOf call ((nameOf store run.runId call.1.spanId).getD ""))
    (llmCallRows.zipIdx 1) (by
      intro call hm
      have hspan := fetched_llmCall c store run spanRows toolCallRows llmCallRows hf hclosed
      rw [llmCallView, hspan call.1 (List.fst_mem_of_mem_zipIdx hm)]
      rfl)
  refine ⟨_, by simp only [assembleView, hspans, htools, hllms]; rfl, ?_, ?_⟩
  · simp only [viewTrajectory, runViewOf, List.map_map]
    have hnumbered := map_numbered (decodedLlmCall store run.runId) llmCallRows 1
    rw [fetchedTrajectory, ← hnumbered]
    rfl
  · simp only [runViewOf, List.map_map, List.length_map, List.length_zipIdx]
    exact map_numbers Int.ofNat llmCallRows 1

/-- Nor does any of the run detail. -/
theorem assembleDetail_decodes (failure : Option RunFailure)
    (summary : List EvaluatorResultSummary) : ∃ detail,
    assembleDetail run spanRows toolCallRows llmCallRows failure summary = .ok detail ∧
      detailTrajectory detail = fetchedTrajectory store run spanRows toolCallRows llmCallRows ∧
      detail.llmCalls.map LLMCallResponse.sequence =
        (List.range' 1 detail.llmCalls.length).map Int.ofNat := by
  have hspans := mapM_ok (spanResponse (spanNames spanRows))
    (decodedSpan store run.runId) spanRows (by
      intro span hm
      have hparent := fetched_parent c store run spanRows toolCallRows llmCallRows hf hclosed
      rw [spanResponse, hparent span hm]
      rfl)
  have htools := mapM_ok (toolCallResponse (spanNames spanRows))
    (decodedToolCall store run.runId) toolCallRows (by
      intro call hm
      have hspan := fetched_toolCall c store run spanRows toolCallRows llmCallRows hf hclosed
      rw [toolCallResponse, hspan call hm]
      rfl)
  have hllms := mapM_ok (llmCallResponse (spanNames spanRows))
    (fun call => llmCallResponseOf call ((nameOf store run.runId call.1.spanId).getD ""))
    (llmCallRows.zipIdx 1) (by
      intro call hm
      have hspan := fetched_llmCall c store run spanRows toolCallRows llmCallRows hf hclosed
      rw [llmCallResponse, hspan call.1 (List.fst_mem_of_mem_zipIdx hm)]
      rfl)
  refine ⟨_, by simp only [assembleDetail, hspans, htools, hllms]; rfl, ?_, ?_⟩
  · simp only [detailTrajectory, runDetailOf, List.map_map]
    have hnumbered := map_numbered (decodedLlmCall store run.runId) llmCallRows 1
    rw [fetchedTrajectory, ← hnumbered]
    rfl
  · simp only [runDetailOf, List.map_map, List.length_map, List.length_zipIdx]
    exact map_numbers Int.ofNat llmCallRows 1

end Fetched

/-! ### The readers -/

structure ViewShows (c : Collation) (store : Store) (run : AgentRun) (view : EvaluationRunView) :
    Prop where
  trajectory : Shows c (storedTrajectory store run) (viewTrajectory view)
  numbered : view.llmCalls.map LLMCallView.sequence =
    (List.range' 1 view.llmCalls.length).map Int.ofNat

structure DetailShows (c : Collation) (store : Store) (run : AgentRun)
    (detail : RunDetailResponse) : Prop where
  trajectory : Shows c (storedTrajectory store run) (detailTrajectory detail)
  numbered : detail.llmCalls.map LLMCallResponse.sequence =
    (List.range' 1 detail.llmCalls.length).map Int.ofNat

section Readers
variable (db : Database)

theorem delivers_ordered {ρ : Type} {le : ρ → ρ → Prop} (order : Plan db.collation → OrderBy le)
    (select : Store → List ρ) (store : Store) (s : DbSession) (h : s.view = store) :
    Delivers db.backend (readOrdered db fun plan store => (order plan).arrange (select store)) s
      fun rows t => rows.Perm (select store) ∧ rows.Pairwise le ∧ t.view = store := by
  subst h
  apply delivers_mono db.backend _ s _ _ (delivers_readOrdered db _ s)
  intro rows t hreturned
  obtain ⟨rfl, rfl⟩ := hreturned
  exact ⟨(order _).perm _, (order _).sorted _, rfl⟩

/-- The queries both readers begin with. -/
theorem delivers_fetched {β : Type} (runId : String) (store : Store) (s : DbSession)
    (h : s.view = store) (post : β → DbSession → Prop)
    (next : List Db.Span → List Db.ToolCall → List Db.LLMCall → SessionM β)
    (hnext : ∀ spanRows toolCallRows llmCallRows t,
      Fetched db.collation store runId spanRows toolCallRows llmCallRows → t.view = store →
        Delivers db.backend (next spanRows toolCallRows llmCallRows) t post) :
    Delivers db.backend (do
      let spans ← readOrdered db fun plan store => plan.spans.arrange (spansOf runId store)
      let toolCalls ← readOrdered db fun plan store =>
        plan.toolCalls.arrange (toolCallsOf runId store)
      let llmCalls ← readOrdered db fun plan store => plan.llmCalls.arrange (llmCallsOf runId store)
      next spans toolCalls llmCalls) s post := by
  apply delivers_bind _ _ _ s _ _ (delivers_ordered db Plan.spans _ store s h)
  intro spanRows s1 hreturned
  obtain ⟨hspans, hspanOrder, h1⟩ := hreturned
  apply delivers_bind _ _ _ s1 _ _ (delivers_ordered db Plan.toolCalls _ store s1 h1)
  intro toolCallRows s2 hreturned
  obtain ⟨htools, htoolOrder, h2⟩ := hreturned
  apply delivers_bind _ _ _ s2 _ _ (delivers_ordered db Plan.llmCalls _ store s2 h2)
  intro llmCallRows s3 hreturned
  obtain ⟨hllms, hllmOrder, h3⟩ := hreturned
  exact hnext spanRows toolCallRows llmCallRows s3
    ⟨hspans, hspanOrder, htools, htoolOrder, hllms, hllmOrder⟩ h3

variable (store : Store) (run : AgentRun) (hrun : store.agentRuns.find? run.runId = some run)
  (hclosed : RunClosed store run.runId) (s : DbSession) (hs : s.view = store)

include hrun hclosed hs

theorem delivers_evaluationRunView :
    Delivers db.backend (evaluationRunView db run.runId) s fun returned t =>
      t.view = store ∧ ∃ view, returned = some view ∧ ViewShows db.collation store run view := by
  apply delivers_bind _ _ _ s _ _ (delivers_read_of db _ store s hs)
  intro found s1 hreturned
  obtain ⟨rfl, h1⟩ := hreturned
  rw [hrun]
  apply delivers_fetched db run.runId store s1 h1 _ _
  intro spanRows toolCallRows llmCallRows t hf ht
  obtain ⟨view, hview, htrajectory, hnumbered⟩ :=
    assembleView_decodes db.collation store run spanRows toolCallRows llmCallRows hf hclosed
  rw [hview]
  refine delivers_of_ok _ _ t t (some view) _ rfl ⟨ht, view, rfl, ?_, hnumbered⟩
  rw [htrajectory]
  exact fetched_shows db.collation store run spanRows toolCallRows llmCallRows hf

theorem delivers_getRun :
    Delivers db.backend (getRun db run.runId) s fun detail _ =>
      DetailShows db.collation store run detail := by
  apply delivers_bind _ _ _ s _ _ (delivers_read_of db _ store s hs)
  intro found s1 hreturned
  obtain ⟨rfl, h1⟩ := hreturned
  rw [hrun]
  apply delivers_fetched db run.runId store s1 h1 _ _
  intro spanRows toolCallRows llmCallRows t hf _
  apply delivers_bind _ _ _ t _ _ (delivers_read db _ t)
  intro failure t1 _
  apply delivers_bind _ _ _ t1 (fun _ _ => True) _
  · apply delivers_bind _ _ _ t1 _ _ (delivers_readOrdered db _ t1)
    intro rows t2 _
    exact delivers_of_ok _ _ t2 t2 _ _ rfl trivial
  intro summary t2 _
  obtain ⟨detail, hdetail, htrajectory, hnumbered⟩ :=
    assembleDetail_decodes db.collation store run spanRows toolCallRows llmCallRows hf hclosed
      failure summary
  rw [hdetail]
  refine delivers_of_ok _ _ t2 t2 detail _ rfl ⟨?_, hnumbered⟩
  rw [htrajectory]
  exact fetched_shows db.collation store run spanRows toolCallRows llmCallRows hf

end Readers

end ObsPlatform.Platform
