import ObsPlatform.Ingestion.Effect

/-!
# One accepted snapshot, table by table

`Ingested` lists everything an accepted snapshot does: its run's row, its children's
rows with their pointers, and what stays. The later modules cite it and never unfold
`ingestEffect` again.
-/

namespace ObsPlatform.Ingestion

open Telemetry Db

/-! ### Loops of writes -/

section Loops
variable {χ ι τ κ ρ : Type} (resolve : χ → Except Error ι) (write : χ → ι → τ → τ)

theorem writeEach_cons (item : χ) (items : List χ) (t t' : τ) :
    writeEach resolve write (item :: items) t = .ok t' ↔
      ∃ found, resolve item = .ok found ∧
        writeEach resolve write items (write item found t) = .ok t' := by
  simp only [writeEach]
  cases resolve item with
  | error e =>
    show Except.error e = _ ↔ _
    simp
  | ok found =>
    show writeEach resolve write items (write item found t) = _ ↔ _
    simp

theorem writeEach_total (items : List χ) (t : τ)
    (h : ∀ item ∈ items, ∃ found, resolve item = .ok found) :
    ∃ t', writeEach resolve write items t = .ok t' := by
  induction items generalizing t with
  | nil => exact ⟨t, rfl⟩
  | cons item items ih =>
    obtain ⟨found, hf⟩ := h item List.mem_cons_self
    obtain ⟨t', ht'⟩ := ih (write item found t) (fun i hi => h i (List.mem_cons_of_mem _ hi))
    exact ⟨t', (writeEach_cons resolve write item items t t').mpr ⟨found, hf, ht'⟩⟩

theorem writeEach_preserves (P : τ → Prop) (items : List χ)
    (hP : ∀ item ∈ items, ∀ found t, P t → P (write item found t)) (t t' : τ) (ht : P t)
    (h : writeEach resolve write items t = .ok t') : P t' := by
  induction items generalizing t with
  | nil =>
    cases h
    exact ht
  | cons item items ih =>
    obtain ⟨found, _, hr⟩ := (writeEach_cons resolve write item items t t').mp h
    exact ih (fun i hi => hP i (List.mem_cons_of_mem _ hi)) (write item found t)
      (hP item List.mem_cons_self found t ht) hr

variable [DecidableEq κ] (find : τ → κ → Option ρ) (key : χ → κ)
  (image : χ → ι → Option ρ → Option ρ)
  (hwrite : ∀ item found t k,
    find (write item found t) k = if k = key item then image item found (find t k) else find t k)

include hwrite in
theorem writeEach_other (items : List χ) (t t' : τ)
    (h : writeEach resolve write items t = .ok t') (k : κ) (hk : ∀ item ∈ items, k ≠ key item) :
    find t' k = find t k := by
  have hP := writeEach_preserves resolve write (fun u => find u k = find t k) items
  refine hP ?_ t t' rfl h
  intro item hitem found u hu
  rw [hwrite, if_neg (hk item hitem)]
  exact hu

include hwrite in
theorem writeEach_at (items : List χ) (t t' : τ) (hn : (items.map key).Nodup)
    (h : writeEach resolve write items t = .ok t') (item : χ) (hitem : item ∈ items) :
    ∃ found, resolve item = .ok found ∧
      find t' (key item) = image item found (find t (key item)) := by
  induction items generalizing t with
  | nil => cases hitem
  | cons first items ih =>
    obtain ⟨found, hf, hr⟩ := (writeEach_cons resolve write first items t t').mp h
    rw [List.map_cons, List.nodup_cons] at hn
    rcases List.mem_cons.mp hitem with rfl | hmem
    · refine ⟨found, hf, ?_⟩
      have hother : ∀ i ∈ items, key item ≠ key i := by
        intro i hi he
        exact hn.1 (he ▸ List.mem_map_of_mem hi)
      rw [writeEach_other resolve write find key image hwrite items _ t' hr _ hother, hwrite,
        if_pos rfl]
    · obtain ⟨found', hf', hfind⟩ := ih _ hn.2 hr hmem
      refine ⟨found', hf', ?_⟩
      have hne : key item ≠ key first := fun he => hn.1 (he ▸ List.mem_map_of_mem hmem)
      rw [hfind, hwrite, if_neg hne]

end Loops

/-! ### The span pass -/

theorem upsertSpanRow_find? (runId : String) (span : Telemetry.Span) (t : Spans)
    (k : String × String) :
    (upsertSpanRow runId span t).2.find? k =
      if k = (runId, span.spanId) then
        some (spanValues runId span (upsertSpanRow runId span t).1.2)
      else t.find? k := by
  have h := SerialTable.find?_upsert t (runId, span.spanId) (spanValues runId span)
    (updateSpan runId span) (fun _ => rfl) (fun _ => rfl) (fun _ h => h) (fun _ => rfl) k
  apply h.trans
  by_cases hk : k = (runId, span.spanId)
  · simp only [hk, if_true]
    cases hf : t.find? (runId, span.spanId) with
    | none => simp only [upsertSpanRow, hf, Option.elim_none]
    | some old =>
      have hold := Table.key_of_find? t.toTable _ old hf
      simp only [Db.Span.key, Prod.mk.injEq] at hold
      simp only [upsertSpanRow, hf, Option.elim_some, updateSpan, hold.1, hold.2]
      rfl
  · simp only [hk, if_false]

theorem upsertSpanRow_id (runId : String) (span : Telemetry.Span) (t : Spans) (old : Db.Span)
    (h : t.find? (runId, span.spanId) = some old) :
    (upsertSpanRow runId span t).1.2 = old.id := by
  simp only [upsertSpanRow, h, Option.elim_some]

theorem upsertSpanRows_other (runId : String) (spans : List Telemetry.Span) (spanIds : SpanIds)
    (t : Spans) (k : String × String) (hk : ∀ span ∈ spans, k ≠ (runId, span.spanId)) :
    (upsertSpanRows runId spans spanIds t).2.find? k = t.find? k := by
  induction spans generalizing spanIds t with
  | nil => rfl
  | cons span spans ih =>
    simp only [upsertSpanRows]
    rw [ih _ _ (fun s hs => hk s (List.mem_cons_of_mem _ hs)), upsertSpanRow_find?,
      if_neg (hk span List.mem_cons_self)]

theorem upsertSpanRows_lookup_other (runId : String) (spans : List Telemetry.Span)
    (spanIds : SpanIds) (t : Spans) (spanId : String) (hs : spanId ∉ spans.map Telemetry.Span.spanId) :
    (upsertSpanRows runId spans spanIds t).1.lookup spanId = spanIds.lookup spanId := by
  induction spans generalizing spanIds t with
  | nil => rfl
  | cons span spans ih =>
    simp only [List.map_cons, List.mem_cons, not_or] at hs
    simp only [upsertSpanRows]
    rw [ih _ _ hs.2]
    show List.lookup spanId ((span.spanId, _) :: spanIds) = _
    rw [List.lookup_cons]
    have hne : (spanId == span.spanId) = false := by
      simp [hs.1]
    rw [hne]

/-- The pass writes each span without its parent, keeps its surrogate key if it had
one, and records that key. -/
theorem upsertSpanRows_at (runId : String) (spans : List Telemetry.Span) (spanIds : SpanIds)
    (t : Spans) (hn : (spans.map Telemetry.Span.spanId).Nodup) (span : Telemetry.Span)
    (hspan : span ∈ spans) :
    ∃ id, (upsertSpanRows runId spans spanIds t).2.find? (runId, span.spanId) =
        some (spanValues runId span id) ∧
      (upsertSpanRows runId spans spanIds t).1.lookup span.spanId = some id ∧
      ∀ old, t.find? (runId, span.spanId) = some old → id = old.id := by
  induction spans generalizing spanIds t with
  | nil => cases hspan
  | cons first spans ih =>
    rw [List.map_cons, List.nodup_cons] at hn
    simp only [upsertSpanRows]
    rcases List.mem_cons.mp hspan with rfl | hmem
    · have hother : ∀ s ∈ spans, (runId, span.spanId) ≠ (runId, s.spanId) := by
        intro s hs he
        exact hn.1 ((Prod.mk.inj he).2 ▸ List.mem_map_of_mem hs)
      refine ⟨(upsertSpanRow runId span t).1.2, ?_, ?_, ?_⟩
      · rw [upsertSpanRows_other runId spans _ _ _ hother, upsertSpanRow_find?, if_pos rfl]
      · rw [upsertSpanRows_lookup_other runId spans _ _ _ hn.1]
        show List.lookup span.spanId ((span.spanId, _) :: spanIds) = _
        rw [List.lookup_cons, beq_self_eq_true]
        rfl
      · intro old hold
        exact upsertSpanRow_id runId span t old hold
    · obtain ⟨id, hfind, hlook, hid⟩ := ih ((upsertSpanRow runId first t).1 :: spanIds)
        (upsertSpanRow runId first t).2 hn.2 hmem
      refine ⟨id, hfind, hlook, ?_⟩
      intro old hold
      apply hid old
      have hne : (runId, span.spanId) ≠ (runId, first.spanId) := by
        intro he
        exact hn.1 ((Prod.mk.inj he).2 ▸ List.mem_map_of_mem hmem)
      rw [upsertSpanRow_find?, if_neg hne]
      exact hold

/-! ### What a stored child says -/

/-- The surrogate key of a run's span. -/
def spanPointer (store : Store) (runId spanId : String) : Option ℕ :=
  (store.spans.find? (runId, spanId)).map Db.Span.id

def SpanIdsKept (store store' : Store) : Prop :=
  ∀ runId spanId id, spanPointer store runId spanId = some id →
    spanPointer store' runId spanId = some id

theorem spanIdsKept_trans (a b c : Store) (hab : SpanIdsKept a b) (hbc : SpanIdsKept b c) :
    SpanIdsKept a c :=
  fun runId spanId id h => hbc runId spanId id (hab runId spanId id h)

/-- The columns hold the fields of the span, the parent pointer leads to the span the parent id
names. -/
def SpanStored (store : Store) (runId : String) (span : Telemetry.Span) (row : Db.Span) : Prop :=
  row =
    { id := row.id
      runId := runId
      parentSpanId := row.parentSpanId
      spanId := span.spanId
      name := span.name
      sequence := span.sequence
      startedAt := span.startedAt
      completedAt := span.completedAt
      status := span.status
      input := span.input
      output := span.output
      metadata := span.metadata
      errorCategory := span.error.map ErrorInfo.category
      errorCode := span.error.bind ErrorInfo.code
      errorMessage := span.error.map ErrorInfo.message
      errorFailedComponent := span.error.bind ErrorInfo.failedComponent } ∧
    match span.parentSpanId with
    | none => row.parentSpanId = none
    | some parent => ∃ id, spanPointer store runId parent = some id ∧ row.parentSpanId = some id

def ToolCallStored (store : Store) (runId : String) (toolCall : Telemetry.ToolCall)
    (row : Db.ToolCall) : Prop :=
  row =
    { runId := runId
      spanId := row.spanId
      toolCallId := toolCall.toolCallId
      toolName := toolCall.toolName
      sequence := toolCall.sequence
      arguments := toolCall.arguments
      result := toolCall.result
      startedAt := toolCall.startedAt
      completedAt := toolCall.completedAt
      latencyMs := toolCall.latencyMs
      retryCount := toolCall.retryCount
      status := toolCall.status
      errorCategory := toolCall.error.map ErrorInfo.category
      errorCode := toolCall.error.bind ErrorInfo.code
      errorMessage := toolCall.error.map ErrorInfo.message
      errorFailedComponent := toolCall.error.bind ErrorInfo.failedComponent } ∧
    spanPointer store runId toolCall.spanId = some row.spanId

def LLMCallStored (store : Store) (runId : String) (llmCall : Telemetry.LLMCall)
    (row : Db.LLMCall) : Prop :=
  row =
    { runId := runId
      spanId := row.spanId
      llmCallId := llmCall.llmCallId
      callType := llmCall.callType
      model := llmCall.model
      provider := llmCall.provider
      startedAt := llmCall.startedAt
      completedAt := llmCall.completedAt
      latencyMs := llmCall.latencyMs
      promptTokens := llmCall.promptTokens
      completionTokens := llmCall.completionTokens
      totalTokens := llmCall.totalTokens
      estimatedCostUsd := llmCall.estimatedCostUsd
      inputPayload := llmCall.inputPayload
      outputPayload := llmCall.outputPayload
      status := llmCall.status
      errorCategory := llmCall.error.map ErrorInfo.category
      errorCode := llmCall.error.bind ErrorInfo.code
      errorMessage := llmCall.error.map ErrorInfo.message
      errorFailedComponent := llmCall.error.bind ErrorInfo.failedComponent } ∧
    spanPointer store runId llmCall.spanId = some row.spanId

theorem spanStored_mono (store store' : Store) (runId : String) (span : Telemetry.Span)
    (row : Db.Span) (hkept : SpanIdsKept store store') (h : SpanStored store runId span row) :
    SpanStored store' runId span row := by
  refine ⟨h.1, ?_⟩
  have hp := h.2
  cases hparent : span.parentSpanId with
  | none =>
    rw [hparent] at hp
    exact hp
  | some parent =>
    rw [hparent] at hp
    obtain ⟨id, hid, hrow⟩ := hp
    exact ⟨id, hkept runId parent id hid, hrow⟩

/-! ### The snapshot -/

structure Ingested (event : ExtendedRunEvent) (now : Timestamp) (store store' : Store) : Prop where
  guard : pendingAfterTerminal event store = .ok ()
  agentRun : store'.agentRuns.find? event.runId = some (withUsageTotals store'
    ((store.agentRuns.find? event.runId).elim (agentRunValues event now)
      (updateAgentRun (agentRunValues event now))))
  otherAgentRuns : ∀ runId, runId ≠ event.runId →
    store'.agentRuns.find? runId = store.agentRuns.find? runId
  spanIds : SpanIdsKept store store'
  spans : ∀ span ∈ event.spans, ∃ row,
    store'.spans.find? (event.runId, span.spanId) = some row ∧
      SpanStored store' event.runId span row
  otherSpans : ∀ k, (∀ span ∈ event.spans, k ≠ (event.runId, span.spanId)) →
    store'.spans.find? k = store.spans.find? k
  toolCalls : ∀ toolCall ∈ event.toolCalls, ∃ row,
    store'.toolCalls.find? (event.runId, toolCall.toolCallId) = some row ∧
      ToolCallStored store' event.runId toolCall row
  otherToolCalls : ∀ k, (∀ toolCall ∈ event.toolCalls, k ≠ (event.runId, toolCall.toolCallId)) →
    store'.toolCalls.find? k = store.toolCalls.find? k
  llmCalls : ∀ llmCall ∈ event.llmCalls, ∃ row,
    store'.llmCalls.find? (event.runId, llmCall.llmCallId) = some row ∧
      LLMCallStored store' event.runId llmCall row
  otherLlmCalls : ∀ k, (∀ llmCall ∈ event.llmCalls, k ≠ (event.runId, llmCall.llmCallId)) →
    store'.llmCalls.find? k = store.llmCalls.find? k
  otherUsage : ∀ runId, runId ≠ event.runId →
    toolCallsOf runId store' = toolCallsOf runId store ∧
      llmCallsOf runId store' = llmCallsOf runId store
  regressionRuns : store'.regressionRuns = store.regressionRuns
  evaluationResults : store'.evaluationResults = store.evaluationResults
  judgeCalls : store'.judgeCalls = store.judgeCalls
  runFailures : store'.runFailures = store.runFailures

theorem withUsageTotals_congr (store store' : Store) (row : AgentRun)
    (ht : toolCallsOf row.runId store' = toolCallsOf row.runId store)
    (hl : llmCallsOf row.runId store' = llmCallsOf row.runId store) :
    withUsageTotals store' row = withUsageTotals store row := by
  simp only [withUsageTotals, ht, hl]

/-- The stages of an effect that returned. -/
theorem ingestEffect_stages (event : ExtendedRunEvent) (now : Timestamp) (store store' : Store)
    (h : ingestEffect event now store = .ok store') :
    pendingAfterTerminal event store = .ok () ∧ ∃ spans toolCalls llmCalls,
      setSpanParents event.runId (upsertSpanRows event.runId event.spans [] store.spans).1
        event.spans (upsertSpanRows event.runId event.spans [] store.spans).2 = .ok spans ∧
      upsertToolCallRows event.runId (upsertSpanRows event.runId event.spans [] store.spans).1
        event.toolCalls store.toolCalls = .ok toolCalls ∧
      upsertLlmCallRows event.runId (upsertSpanRows event.runId event.spans [] store.spans).1
        event.llmCalls store.llmCalls = .ok llmCalls ∧
      store' = refreshUsageRow event.runId
        { store with
          agentRuns := upsertAgentRunRow event now store.agentRuns
          spans := spans, toolCalls := toolCalls, llmCalls := llmCalls } := by
  unfold ingestEffect at h
  cases hp : pendingAfterTerminal event store with
  | error e =>
    rw [hp] at h
    cases h
  | ok u =>
    rw [hp] at h
    refine ⟨rfl, ?_⟩
    cases hs : setSpanParents event.runId (upsertSpanRows event.runId event.spans [] store.spans).1
        event.spans (upsertSpanRows event.runId event.spans [] store.spans).2 with
    | error e =>
      simp only [hs] at h
      cases h
    | ok spans =>
      cases ht : upsertToolCallRows event.runId
          (upsertSpanRows event.runId event.spans [] store.spans).1 event.toolCalls
          store.toolCalls with
      | error e =>
        simp only [hs, ht] at h
        cases h
      | ok toolCalls =>
        cases hl : upsertLlmCallRows event.runId
            (upsertSpanRows event.runId event.spans [] store.spans).1 event.llmCalls
            store.llmCalls with
        | error e =>
          simp only [hs, ht, hl] at h
          cases h
        | ok llmCalls =>
          simp only [hs, ht, hl] at h
          cases h
          exact ⟨spans, toolCalls, llmCalls, rfl, rfl, rfl, rfl⟩

/-! ### The stages, row by row -/

theorem lookupSpan_ok (spanIds : SpanIds) (key : String) (id : ℕ) :
    lookupSpan spanIds key = .ok id ↔ spanIds.lookup key = some id := by
  unfold lookupSpan
  cases spanIds.lookup key with
  | none => simp
  | some found => simp

theorem setSpanParent_find? (runId : String) (span : Telemetry.Span) (parent : Option ℕ)
    (t : Spans) (k : String × String) :
    (setSpanParent runId span.spanId parent t).find? k =
      if k = (runId, span.spanId) then
        (t.find? k).map fun row => { row with parentSpanId := parent }
      else t.find? k := by
  have h := SerialTable.find?_modify t (runId, span.spanId) k
    (fun row => { row with parentSpanId := parent }) (fun _ h => h) (fun _ => rfl)
  apply h.trans
  by_cases hk : k = (runId, span.spanId)
  · simp only [hk, if_true]
  · simp only [hk, if_false]

/-- Either half of an upsert stores the same tool call row. -/
theorem upsertToolCallRow_find? (runId : String) (toolCall : Telemetry.ToolCall) (spanId : ℕ)
    (t : ToolCalls) (k : String × String) :
    (upsertToolCallRow runId toolCall spanId t).find? k =
      if k = (runId, toolCall.toolCallId) then some (toolCallValues runId toolCall spanId)
      else t.find? k := by
  have h := Table.find?_upsert t (toolCallValues runId toolCall spanId)
    (updateToolCall (toolCallValues runId toolCall spanId)) (fun _ h => h) k
  apply h.trans
  by_cases hk : k = (runId, toolCall.toolCallId)
  · simp only [hk, Db.ToolCall.key, toolCallValues, if_true]
    cases hf : t.find? (runId, toolCall.toolCallId) with
    | none => rfl
    | some old =>
      have hold := Table.key_of_find? t _ old hf
      simp only [Db.ToolCall.key, Prod.mk.injEq] at hold
      simp only [Option.elim_some, updateToolCall, hold.1, hold.2]
  · simp only [Db.ToolCall.key, toolCallValues, hk, if_false]

theorem upsertLlmCallRow_find? (runId : String) (llmCall : Telemetry.LLMCall) (spanId : ℕ)
    (t : LLMCalls) (k : String × String) :
    (upsertLlmCallRow runId llmCall spanId t).find? k =
      if k = (runId, llmCall.llmCallId) then some (llmCallValues runId llmCall spanId)
      else t.find? k := by
  have h := Table.find?_upsert t (llmCallValues runId llmCall spanId)
    (updateLlmCall (llmCallValues runId llmCall spanId)) (fun _ h => h) k
  apply h.trans
  by_cases hk : k = (runId, llmCall.llmCallId)
  · simp only [hk, Db.LLMCall.key, llmCallValues, if_true]
    cases hf : t.find? (runId, llmCall.llmCallId) with
    | none => rfl
    | some old =>
      have hold := Table.key_of_find? t _ old hf
      simp only [Db.LLMCall.key, Prod.mk.injEq] at hold
      simp only [Option.elim_some, updateLlmCall, hold.1, hold.2]
  · simp only [Db.LLMCall.key, llmCallValues, hk, if_false]

theorem upsertAgentRunRow_find? (event : ExtendedRunEvent) (now : Timestamp) (t : AgentRuns)
    (runId : String) :
    (upsertAgentRunRow event now t).find? runId =
      if runId = event.runId then
        some ((t.find? event.runId).elim (agentRunValues event now)
          (updateAgentRun (agentRunValues event now)))
      else t.find? runId :=
  Table.find?_upsert t (agentRunValues event now) (updateAgentRun (agentRunValues event now))
    (fun _ h => h) runId

theorem refreshUsageRow_find? (runId otherId : String) (store : Store) :
    (refreshUsageRow runId store).agentRuns.find? otherId =
      if otherId = runId then (store.agentRuns.find? runId).map (withUsageTotals store)
      else store.agentRuns.find? otherId :=
  Table.find?_modify store.agentRuns runId otherId (withUsageTotals store) (fun _ h => h)

/-- An upsert of one run's row is not seen by another run. -/
theorem filter_upsert_otherRun {ρ κ : Type} [DecidableEq κ] {key : ρ → κ} (owner : ρ → String)
    (runId otherId : String) (t : Table key) (fresh : ρ) (update : ρ → ρ)
    (hkeep : ∀ r, key r = key fresh → key (update r) = key fresh)
    (howner : ∀ r, key r = key fresh → owner r = runId) (hne : otherId ≠ runId) :
    ((t.upsert fresh update hkeep).rows.filter fun row => owner row = otherId) =
      t.rows.filter fun row => owner row = otherId := by
  have hother : ∀ row, key row = key fresh → decide (owner row = otherId) = false := by
    intro row hk
    rw [decide_eq_false_iff_not, howner row hk]
    exact hne.symm
  exact Table.filter_upsert t fresh update hkeep _ (hother fresh rfl) hother
    fun row hk => hother (update row) (hkeep row hk)

theorem upsertToolCallRow_otherRun (runId otherId : String) (toolCall : Telemetry.ToolCall)
    (spanId : ℕ) (t : ToolCalls) (hne : otherId ≠ runId) :
    ((upsertToolCallRow runId toolCall spanId t).rows.filter fun row => row.runId = otherId) =
      t.rows.filter fun row => row.runId = otherId :=
  filter_upsert_otherRun Db.ToolCall.runId runId otherId t _ _ _
    (fun _ hk => (Prod.mk.inj hk).1) hne

theorem upsertLlmCallRow_otherRun (runId otherId : String) (llmCall : Telemetry.LLMCall)
    (spanId : ℕ) (t : LLMCalls) (hne : otherId ≠ runId) :
    ((upsertLlmCallRow runId llmCall spanId t).rows.filter fun row => row.runId = otherId) =
      t.rows.filter fun row => row.runId = otherId :=
  filter_upsert_otherRun Db.LLMCall.runId runId otherId t _ _ _
    (fun _ hk => (Prod.mk.inj hk).1) hne

/-! ### The effect writes the snapshot -/

section Effect
variable (event : ExtendedRunEvent) (now : Timestamp) (store store' : Store)
  (h : ingestEffect event now store = .ok store')

include h

theorem ingestEffect_otherUsage (runId : String) (hne : runId ≠ event.runId) :
    toolCallsOf runId store' = toolCallsOf runId store ∧
      llmCallsOf runId store' = llmCallsOf runId store := by
  obtain ⟨_, spans, toolCalls, llmCalls, _, ht, hl, rfl⟩ := ingestEffect_stages event now _ _ h
  constructor
  · refine writeEach_preserves _ _ (fun t : ToolCalls =>
      t.rows.filter (fun row => row.runId = runId) = toolCallsOf runId store) _ ?_ _ _ rfl ht
    intro toolCall _ spanId t hkept
    rw [upsertToolCallRow_otherRun event.runId runId toolCall spanId t hne]
    exact hkept
  · refine writeEach_preserves _ _ (fun t : LLMCalls =>
      t.rows.filter (fun row => row.runId = runId) = llmCallsOf runId store) _ ?_ _ _ rfl hl
    intro llmCall _ spanId t hkept
    rw [upsertLlmCallRow_otherRun event.runId runId llmCall spanId t hne]
    exact hkept

theorem ingestEffect_regressionRuns : store'.regressionRuns = store.regressionRuns := by
  obtain ⟨_, spans, toolCalls, llmCalls, _, _, _, rfl⟩ := ingestEffect_stages event now _ _ h
  rfl

theorem ingestEffect_agentRuns (runId : String) :
    store'.agentRuns.find? runId =
      if runId = event.runId then
        some (withUsageTotals store' ((store.agentRuns.find? event.runId).elim
          (agentRunValues event now) (updateAgentRun (agentRunValues event now))))
      else store.agentRuns.find? runId := by
  obtain ⟨_, spans, toolCalls, llmCalls, _, _, _, rfl⟩ := ingestEffect_stages event now _ _ h
  rw [refreshUsageRow_find?]
  by_cases hr : runId = event.runId
  · rw [if_pos hr, if_pos hr]
    simp only [upsertAgentRunRow_find?, if_true, Option.map_some]
    rfl
  · rw [if_neg hr, if_neg hr]
    simp only [upsertAgentRunRow_find?, hr, if_false]

theorem ingestEffect_otherSpans (k : String × String)
    (hk : ∀ span ∈ event.spans, k ≠ (event.runId, span.spanId)) :
    store'.spans.find? k = store.spans.find? k := by
  obtain ⟨_, spans, toolCalls, llmCalls, hs, _, _, rfl⟩ := ingestEffect_stages event now _ _ h
  have hother := writeEach_other _ _
    (fun (t : Spans) k => t.find? k) (fun s : Telemetry.Span => (event.runId, s.spanId))
    (fun _ parent row => row.map fun row => { row with parentSpanId := parent })
    (fun s parent t k => setSpanParent_find? event.runId s parent t k)
    event.spans _ spans hs k hk
  exact hother.trans (upsertSpanRows_other event.runId event.spans [] store.spans k hk)

variable (hv : ChildrenConsistent event)
include hv

/-- The span pass and the parent pass together. -/
theorem ingestEffect_span (span : Telemetry.Span) (hspan : span ∈ event.spans) :
    ∃ row, store'.spans.find? (event.runId, span.spanId) = some row ∧
      (upsertSpanRows event.runId event.spans [] store.spans).1.lookup span.spanId = some row.id ∧
      (∀ old, store.spans.find? (event.runId, span.spanId) = some old → row.id = old.id) ∧
      row = { spanValues event.runId span row.id with parentSpanId := row.parentSpanId } ∧
      lookupParent (upsertSpanRows event.runId event.spans [] store.spans).1 span.parentSpanId =
        .ok row.parentSpanId := by
  obtain ⟨_, spans, toolCalls, llmCalls, hs, _, _, rfl⟩ := ingestEffect_stages event now _ _ h
  obtain ⟨id, hfind, hlook, hid⟩ :=
    upsertSpanRows_at event.runId event.spans [] store.spans hv.spanIds span hspan
  have hkeys : (event.spans.map fun s => (event.runId, s.spanId)).Nodup := by
    have hmap := hv.spanIds.map (f := fun s => (event.runId, s)) (by
      intro a b hab
      exact (Prod.mk.inj hab).2)
    rw [List.map_map] at hmap
    exact hmap
  obtain ⟨parent, hparent, hrow⟩ := writeEach_at _ _
    (fun (t : Spans) k => t.find? k) (fun s : Telemetry.Span => (event.runId, s.spanId))
    (fun _ parent row => row.map fun row => { row with parentSpanId := parent })
    (fun s parent t k => setSpanParent_find? event.runId s parent t k)
    event.spans _ spans hkeys hs span hspan
  refine ⟨{ spanValues event.runId span id with parentSpanId := parent }, ?_, hlook, hid, rfl,
    hparent⟩
  rw [hfind] at hrow
  exact hrow

/-- A recorded surrogate key is the one of the stored row. -/
theorem ingestEffect_pointer (key : String) (id : ℕ)
    (hl : (upsertSpanRows event.runId event.spans [] store.spans).1.lookup key = some id) :
    spanPointer store' event.runId key = some id := by
  by_cases hkey : key ∈ event.spans.map Telemetry.Span.spanId
  · obtain ⟨span, hspan, rfl⟩ := List.mem_map.mp hkey
    obtain ⟨row, hrow, hlook, _⟩ := ingestEffect_span event now store store' h hv span hspan
    rw [hl] at hlook
    rw [spanPointer, hrow, Option.map_some, ← hlook]
  · rw [upsertSpanRows_lookup_other event.runId event.spans [] store.spans key hkey] at hl
    cases hl

theorem ingestEffect_spanIds : SpanIdsKept store store' := by
  intro runId spanId id hid
  obtain ⟨old, hold, rfl⟩ := Option.map_eq_some_iff.mp hid
  by_cases hk : ∃ span ∈ event.spans, (runId, spanId) = (event.runId, span.spanId)
  · obtain ⟨span, hspan, he⟩ := hk
    obtain ⟨rfl, rfl⟩ := Prod.mk.inj he
    obtain ⟨row, hrow, _, hkept, _⟩ := ingestEffect_span event now store store' h hv span hspan
    rw [spanPointer, hrow, Option.map_some, hkept old hold]
  · have hne : ∀ span ∈ event.spans, (runId, spanId) ≠ (event.runId, span.spanId) :=
      fun span hspan he => hk ⟨span, hspan, he⟩
    rw [spanPointer, ingestEffect_otherSpans event now store store' h (runId, spanId) hne, hold,
      Option.map_some]

theorem ingestEffect_spanStored (span : Telemetry.Span) (hspan : span ∈ event.spans) :
    ∃ row, store'.spans.find? (event.runId, span.spanId) = some row ∧
      SpanStored store' event.runId span row := by
  obtain ⟨row, hrow, _, _, hvalues, hparent⟩ :=
    ingestEffect_span event now store store' h hv span hspan
  refine ⟨row, hrow, hvalues, ?_⟩
  cases hp : span.parentSpanId with
  | none =>
    rw [hp] at hparent
    exact (Except.ok.inj hparent).symm
  | some parent =>
    rw [hp] at hparent
    cases hl : (upsertSpanRows event.runId event.spans [] store.spans).1.lookup parent with
    | none =>
      simp only [lookupParent, lookupSpan, hl] at hparent
      cases hparent
    | some id =>
      simp only [lookupParent, lookupSpan, hl] at hparent
      have hrow' : Except.ok (ε := Error) (some id) = .ok row.parentSpanId := hparent
      exact ⟨id, ingestEffect_pointer event now store store' h hv parent id hl,
        (Except.ok.inj hrow').symm⟩

/-- What holds of both kinds of calls: each row written carries the surrogate key of
the span its event names. -/
theorem ingestEffect_calls {χ τ ρ : Type} (find : τ → String × String → Option ρ)
    (idOf spanOf : χ → String) (values : χ → ℕ → ρ) (write : χ → ℕ → τ → τ)
    (hwrite : ∀ call spanId t k, find (write call spanId t) k =
      if k = (event.runId, idOf call) then some (values call spanId) else find t k)
    (calls : List χ) (hn : (calls.map idOf).Nodup) (t t' : τ)
    (ht : writeEach (fun call =>
      lookupSpan (upsertSpanRows event.runId event.spans [] store.spans).1 (spanOf call))
      write calls t = .ok t') :
    (∀ call ∈ calls, ∃ spanId, find t' (event.runId, idOf call) = some (values call spanId) ∧
      spanPointer store' event.runId (spanOf call) = some spanId) ∧
    ∀ k, (∀ call ∈ calls, k ≠ (event.runId, idOf call)) → find t' k = find t k := by
  have hkeys : (calls.map fun call => (event.runId, idOf call)).Nodup := by
    have hmap := hn.map (f := fun s => (event.runId, s)) (by
      intro a b hab
      exact (Prod.mk.inj hab).2)
    rw [List.map_map] at hmap
    exact hmap
  constructor
  · intro call hcall
    obtain ⟨spanId, hfound, hfind⟩ := writeEach_at _ _ find
      (fun call => (event.runId, idOf call)) (fun call spanId _ => some (values call spanId))
      hwrite calls t t' hkeys ht call hcall
    exact ⟨spanId, hfind, ingestEffect_pointer event now store store' h hv _ spanId
      ((lookupSpan_ok _ _ spanId).mp hfound)⟩
  · intro k hk
    exact writeEach_other _ _ find (fun call => (event.runId, idOf call))
      (fun call spanId _ => some (values call spanId)) hwrite calls t t' ht k hk

/-- An accepted snapshot does what `Ingested` lists. -/
theorem ingestEffect_ingested : Ingested event now store store' := by
  obtain ⟨hguard, spans, toolCalls, llmCalls, _, ht, hl, hstore⟩ :=
    ingestEffect_stages event now _ _ h
  have htool := ingestEffect_calls event now store store' h hv
    (fun (t : ToolCalls) k => t.find? k) Telemetry.ToolCall.toolCallId Telemetry.ToolCall.spanId
    (toolCallValues event.runId) (upsertToolCallRow event.runId)
    (upsertToolCallRow_find? event.runId) event.toolCalls hv.toolCallIds store.toolCalls
    toolCalls ht
  have hllm := ingestEffect_calls event now store store' h hv
    (fun (t : LLMCalls) k => t.find? k) Telemetry.LLMCall.llmCallId Telemetry.LLMCall.spanId
    (llmCallValues event.runId) (upsertLlmCallRow event.runId)
    (upsertLlmCallRow_find? event.runId) event.llmCalls hv.llmCallIds store.llmCalls
    llmCalls hl
  have hagent := ingestEffect_agentRuns event now store store' h
  have htoolCalls : store'.toolCalls = toolCalls := by rw [hstore]; rfl
  have hllmCalls : store'.llmCalls = llmCalls := by rw [hstore]; rfl
  exact
    { guard := hguard
      agentRun := by rw [hagent, if_pos rfl]
      otherAgentRuns := by
        intro runId hne
        rw [hagent, if_neg hne]
      spanIds := ingestEffect_spanIds event now store store' h hv
      spans := ingestEffect_spanStored event now store store' h hv
      otherSpans := ingestEffect_otherSpans event now store store' h
      toolCalls := by
        intro toolCall hmem
        obtain ⟨spanId, hfind, hpointer⟩ := htool.1 toolCall hmem
        rw [htoolCalls]
        exact ⟨_, hfind, rfl, hpointer⟩
      otherToolCalls := by
        rw [htoolCalls]
        exact htool.2
      llmCalls := by
        intro llmCall hmem
        obtain ⟨spanId, hfind, hpointer⟩ := hllm.1 llmCall hmem
        rw [hllmCalls]
        exact ⟨_, hfind, rfl, hpointer⟩
      otherLlmCalls := by
        rw [hllmCalls]
        exact hllm.2
      otherUsage := ingestEffect_otherUsage event now store store' h
      regressionRuns := ingestEffect_regressionRuns event now store store' h
      evaluationResults := by rw [hstore]; rfl
      judgeCalls := by rw [hstore]; rfl
      runFailures := by rw [hstore]; rfl }

end Effect

/-- A validated snapshot has no span id to miss: only the guard can reject it. -/
theorem ingestEffect_total (event : ExtendedRunEvent) (now : Timestamp) (store : Store)
    (hv : ChildrenConsistent event) (hguard : pendingAfterTerminal event store = .ok ()) :
    ∃ store', ingestEffect event now store = .ok store' := by
  have hlook : ∀ key ∈ event.spans.map Telemetry.Span.spanId, ∃ id,
      lookupSpan (upsertSpanRows event.runId event.spans [] store.spans).1 key = .ok id := by
    intro key hkey
    obtain ⟨span, hspan, rfl⟩ := List.mem_map.mp hkey
    obtain ⟨id, _, hl, _⟩ :=
      upsertSpanRows_at event.runId event.spans [] store.spans hv.spanIds span hspan
    exact ⟨id, (lookupSpan_ok _ _ id).mpr hl⟩
  have hparents : ∀ span ∈ event.spans, ∃ parent,
      lookupParent (upsertSpanRows event.runId event.spans [] store.spans).1 span.parentSpanId =
        .ok parent := by
    intro span hspan
    cases hp : span.parentSpanId with
    | none => exact ⟨none, rfl⟩
    | some parent =>
      obtain ⟨id, hid⟩ := hlook parent (hv.parents span hspan parent hp)
      refine ⟨some id, ?_⟩
      simp only [lookupParent, hid]
      rfl
  obtain ⟨spans, hs⟩ := writeEach_total _ (fun span => setSpanParent event.runId span.spanId)
    event.spans (upsertSpanRows event.runId event.spans [] store.spans).2 hparents
  obtain ⟨toolCalls, ht⟩ := writeEach_total _ (upsertToolCallRow event.runId)
    event.toolCalls store.toolCalls (fun call hc => hlook call.spanId (hv.toolCallSpans call hc))
  obtain ⟨llmCalls, hl⟩ := writeEach_total _ (upsertLlmCallRow event.runId)
    event.llmCalls store.llmCalls (fun call hc => hlook call.spanId (hv.llmCallSpans call hc))
  unfold ingestEffect
  simp only [hguard, setSpanParents, hs, upsertToolCallRows, ht, upsertLlmCallRows, hl]
  exact ⟨_, rfl⟩

end ObsPlatform.Ingestion
