import ObsPlatform.Platform.ReadBack

/-!
# Ingesting a run and reading it back

A validated snapshot of a run not stored before is shown by both readers as it was
sent: span ids, parents, errors, the HITL block and the final result come back, the
children in the order of their sort keys. Only the usage block is the platform's own.
-/

namespace ObsPlatform.Platform

open Telemetry Db UnitOfWork Evaluation Ingestion Routes

/-! ### Columns -/

theorem errorResponse_errorFields (error : Option ErrorInfo) :
    errorResponse (error.map ErrorInfo.category) (error.bind ErrorInfo.code)
      (error.map ErrorInfo.message) (error.bind ErrorInfo.failedComponent) = error := by
  cases error with
  | none => rfl
  | some error => rfl

/-- The totals counted from the children of the event. -/
def derivedUsage (event : ExtendedRunEvent) : UsageSummary where
  totalLlmCalls := event.llmCalls.length
  totalToolCalls := event.toolCalls.length
  totalTokens := (event.llmCalls.filterMap Telemetry.LLMCall.totalTokens).sum
  totalEstimatedCostUsd := (event.llmCalls.filterMap Telemetry.LLMCall.estimatedCostUsd).sum
  totalRetries := (event.toolCalls.map Telemetry.ToolCall.retryCount).sum

/-- What the platform remembers of an event. -/
def remembered (event : ExtendedRunEvent) : ExtendedRunEvent :=
  { event with usage := derivedUsage event }

theorem finalResult_restored (finalResult : Option FinalResult) :
    (finalResult.map FinalResult.output).map (fun output =>
      { output := output
        sourceReferences := (finalResult.map FinalResult.sourceReferences).getD [] :
          FinalResult }) = finalResult := by
  cases finalResult with
  | none => rfl
  | some finalResult => rfl

/-! ### Children of a run not stored before -/

section Children
variable {ρ χ : Type} {key : ρ → String × String}

theorem childIds_nodup (t : Table key) (runId : String) :
    ((t.rows.filter fun row => (key row).1 = runId).map fun row => (key row).2).Nodup := by
  rw [List.nodup_map_iff_inj_on (List.Nodup.filter _ t.unique.of_map)]
  intro a ha b hb hab
  simp only [List.mem_filter, decide_eq_true_eq] at ha hb
  exact List.inj_on_of_nodup_map t.unique ha.1 hb.1 (Prod.ext (ha.2.trans hb.2.symm) hab)

/-- The rows of a run in a table keyed by run and child id, decoded, are the children
an event brought, when no other row of the run was there. -/
theorem children_restored (t t' : Table key) (children : List χ) (idOf : χ → String)
    (runId : String) (decode : ρ → χ)
    (hstored : ∀ child ∈ children, ∃ row,
      t'.find? (runId, idOf child) = some row ∧ decode row = child)
    (hother : ∀ k, (∀ child ∈ children, k ≠ (runId, idOf child)) → t'.find? k = t.find? k)
    (hfresh : ∀ row ∈ t.rows, (key row).1 ≠ runId) (hn : (children.map idOf).Nodup)
    (hid : ∀ row, idOf (decode row) = (key row).2) :
    ((t'.rows.filter fun row => (key row).1 = runId).map decode).Perm children := by
  have hrows : ((t'.rows.filter fun row => (key row).1 = runId).map decode).Nodup := by
    apply List.Nodup.of_map idOf
    have hids : idOf ∘ decode = fun row => (key row).2 := funext hid
    rw [List.map_map, hids]
    exact childIds_nodup t' runId
  refine (List.perm_ext_iff_of_nodup hrows hn.of_map).mpr ?_
  intro child
  simp only [List.mem_map, List.mem_filter, decide_eq_true_eq]
  constructor
  · intro h
    obtain ⟨row, ⟨hm, hrun⟩, rfl⟩ := h
    have hf := (t'.find?_eq_some_iff (key row) row).mpr ⟨hm, rfl⟩
    by_cases hk : ∃ child ∈ children, key row = (runId, idOf child)
    · obtain ⟨child, hchild, hkey⟩ := hk
      obtain ⟨row', hrow', hdecode⟩ := hstored child hchild
      rw [hkey, hrow', Option.some.injEq] at hf
      rw [← hf, hdecode]
      exact hchild
    · have hne : ∀ child ∈ children, key row ≠ (runId, idOf child) :=
        fun child hchild he => hk ⟨child, hchild, he⟩
      rw [hother (key row) hne] at hf
      exact absurd hrun (hfresh row (t.mem_of_find? _ row hf))
  · intro hchild
    obtain ⟨row, hrow, hdecode⟩ := hstored child hchild
    obtain ⟨hm, hkey⟩ := (t'.find?_eq_some_iff _ row).mp hrow
    exact ⟨row, ⟨hm, congrArg Prod.fst hkey⟩, hdecode⟩

end Children

/-! ### The stored trajectory -/

section Ingest
variable (event : ExtendedRunEvent) (now : Timestamp) (store store' : Store)
  (hi : Ingested event now store store') (hv : ChildrenConsistent event)
  (hclosed : ReferencesClosed store) (hnew : store.agentRuns.find? event.runId = none)

theorem decodedSpan_of_stored (span : Telemetry.Span) (row : Db.Span)
    (h : SpanStored store' event.runId span row) :
    decodedSpan store' event.runId row = span := by
  obtain ⟨hrow, hparent⟩ := h
  have hbind : row.parentSpanId.bind (nameOf store' event.runId) = span.parentSpanId := by
    cases hp : span.parentSpanId with
    | none =>
      rw [hp] at hparent
      rw [hparent]
      rfl
    | some parent =>
      rw [hp] at hparent
      obtain ⟨id, hid, hpointer⟩ := hparent
      rw [hpointer]
      exact (nameOf_eq_some_iff store' event.runId id parent).mpr hid
  rw [decodedSpan, hbind, hrow]
  have herror := errorResponse_errorFields span.error
  simp only [spanResponseOf, herror]

theorem decodedToolCall_of_stored (toolCall : Telemetry.ToolCall) (row : Db.ToolCall)
    (h : ToolCallStored store' event.runId toolCall row) :
    decodedToolCall store' event.runId row = toolCall := by
  obtain ⟨hrow, hpointer⟩ := h
  have hname := (nameOf_eq_some_iff store' event.runId row.spanId toolCall.spanId).mpr hpointer
  rw [decodedToolCall, hname, hrow]
  have herror := errorResponse_errorFields toolCall.error
  simp only [toolCallResponseOf, herror, Option.getD_some]

theorem decodedLlmCall_of_stored (llmCall : Telemetry.LLMCall) (row : Db.LLMCall)
    (h : LLMCallStored store' event.runId llmCall row) :
    decodedLlmCall store' event.runId row = llmCall := by
  obtain ⟨hrow, hpointer⟩ := h
  have hname := (nameOf_eq_some_iff store' event.runId row.spanId llmCall.spanId).mpr hpointer
  rw [decodedLlmCall, hname, hrow]
  have herror := errorResponse_errorFields llmCall.error
  simp only [llmCallResponseOf, herror, Option.getD_some]

include hclosed hnew in
theorem no_pointer (id : ℕ) : ¬ PointsInto store event.runId id := by
  intro hp
  have hstored := hclosed.runs event.runId id hp
  rw [hnew] at hstored
  cases hstored

include hi hv hclosed hnew

theorem spans_restored :
    ((spansOf event.runId store').map (decodedSpan store' event.runId)).Perm event.spans := by
  refine children_restored store.spans.toTable store'.spans.toTable event.spans
    Telemetry.Span.spanId event.runId _ ?_ hi.otherSpans ?_ hv.spanIds (fun _ => rfl)
  · intro span hspan
    obtain ⟨row, hrow, hstored⟩ := hi.spans span hspan
    exact ⟨row, hrow, decodedSpan_of_stored event store' span row hstored⟩
  · intro row hm hrun
    exact no_pointer event store hclosed hnew row.id
      ((pointsInto_iff store event.runId row.id).mpr ⟨row, hm, hrun, rfl⟩)

theorem toolCalls_restored :
    ((toolCallsOf event.runId store').map (decodedToolCall store' event.runId)).Perm
      event.toolCalls := by
  refine children_restored store.toolCalls store'.toolCalls event.toolCalls
    Telemetry.ToolCall.toolCallId event.runId _ ?_ hi.otherToolCalls ?_ hv.toolCallIds
    (fun _ => rfl)
  · intro toolCall hcall
    obtain ⟨row, hrow, hstored⟩ := hi.toolCalls toolCall hcall
    exact ⟨row, hrow, decodedToolCall_of_stored event store' toolCall row hstored⟩
  · intro row hm hrun
    have hp := (hclosed.closed event.runId).toolCalls row hm hrun
    exact no_pointer event store hclosed hnew row.spanId hp

theorem llmCalls_restored :
    ((llmCallsOf event.runId store').map (decodedLlmCall store' event.runId)).Perm
      event.llmCalls := by
  refine children_restored store.llmCalls store'.llmCalls event.llmCalls
    Telemetry.LLMCall.llmCallId event.runId _ ?_ hi.otherLlmCalls ?_ hv.llmCallIds
    (fun _ => rfl)
  · intro llmCall hcall
    obtain ⟨row, hrow, hstored⟩ := hi.llmCalls llmCall hcall
    exact ⟨row, hrow, decodedLlmCall_of_stored event store' llmCall row hstored⟩
  · intro row hm hrun
    have hp := (hclosed.closed event.runId).llmCalls row hm hrun
    exact no_pointer event store hclosed hnew row.spanId hp

/-- The totals of the new row are those of the event's children. -/
theorem usage_restored (row : AgentRun) (hrun : row.runId = event.runId) :
    usageResponse (withUsageTotals store' row) = derivedUsage event := by
  have htools := toolCalls_restored event now store store' hi hv hclosed hnew
  have hllms := llmCalls_restored event now store store' hi hv hclosed hnew
  have htokens := (hllms.filterMap Telemetry.LLMCall.totalTokens).sum_eq
  have hcost := (hllms.filterMap Telemetry.LLMCall.estimatedCostUsd).sum_eq
  have hretries := (htools.map Telemetry.ToolCall.retryCount).sum_eq
  rw [List.filterMap_map] at htokens hcost
  rw [List.map_map] at hretries
  have hllmCount := hllms.length_eq
  have htoolCount := htools.length_eq
  rw [List.length_map] at hllmCount htoolCount
  simp only [usageResponse, withUsageTotals, derivedUsage, hrun, hllmCount, htoolCount,
    sumNonNull, ← htokens, ← hcost, ← hretries]
  rfl

/-- The stored trajectory is the event, with the usage counted from its children. -/
theorem storedTrajectory_restored : ∃ row, store'.agentRuns.find? event.runId = some row ∧
    row.runId = event.runId ∧ Reordered (remembered event) (storedTrajectory store' row) := by
  have hrow := hi.agentRun
  rw [hnew, Option.elim_none] at hrow
  have husage := usage_restored event now store store' hi hv hclosed hnew
    (agentRunValues event now) rfl
  refine ⟨_, hrow, rfl, ?_, ?_, ?_, ?_⟩
  · have herror := errorResponse_errorFields event.runtimeError
    have hfinal := finalResult_restored event.finalResult
    have hversion : SchemaVersion.v1_0 = event.schemaVersion := by
      cases event.schemaVersion
      rfl
    simp only [storedTrajectory, detailTrajectory, runDetailOf, husage, hversion]
    simp only [finalResultResponse, hitlResponse, withUsageTotals, agentRunValues, errorFields, herror,
      hfinal]
    rfl
  · exact spans_restored event now store store' hi hv hclosed hnew
  · exact toolCalls_restored event now store store' hi hv hclosed hnew
  · exact llmCalls_restored event now store store' hi hv hclosed hnew

end Ingest

theorem pendingAfterTerminal_new (event : ExtendedRunEvent) (store : Store)
    (hnew : store.agentRuns.find? event.runId = none) :
    pendingAfterTerminal event store = .ok () := by
  simp only [pendingAfterTerminal, hnew, Option.map_none, ite_self]

/-- Ingesting a validated run that the guard lets through, unless the server refuses. -/
theorem delivers_ingest (db : Database) (event : ExtendedRunEvent) (hv : ChildrenConsistent event)
    (s : DbSession) (hs : s.inTransaction = false)
    (hguard : pendingAfterTerminal event s.committed = .ok ()) :
    Delivers db.backend (ingestRunEvent db event) s fun _ t =>
      ∃ now, Ingested event now s.committed t.committed := by
  cases hr : ingestRunEvent db event s with
  | ok result t =>
    obtain ⟨_, _, heffect⟩ := ingestRunEvent_returns db event s t result hr
    exact delivers_of_ok _ _ s t result _ hr
      ⟨_, ingestEffect_ingested event _ _ _ heffect hv⟩
  | error e t =>
    apply Stateful.ends_of_error _ s t e _ _ hr
    obtain ⟨store', hstore⟩ := ingestEffect_total event (db.clock s.statements) s.committed hv hguard
    rcases (ingestRunEvent_raises db event s t e hr).2 with ⟨hopen, _⟩ | ⟨_, _, heffect | hrefused⟩
    · rw [hs] at hopen
      cases hopen
    · rw [hstore] at heffect
      cases heffect
    · exact hrefused

/-! ### The round trip -/

theorem shows_nodup (store : Store) (run : AgentRun) :
    ((storedTrajectory store run).llmCalls.map Telemetry.LLMCall.llmCallId).Nodup := by
  have hids : ((storedTrajectory store run).llmCalls.map Telemetry.LLMCall.llmCallId) =
      (llmCallsOf run.runId store).map Db.LLMCall.llmCallId := by
    simp only [storedTrajectory, List.map_map]
    rfl
  rw [hids]
  exact childIds_nodup store.llmCalls run.runId

/-- Two readers show one event, spans and tool calls possibly in another order where
their sequences are equal. -/
structure Agree (a b : ExtendedRunEvent) : Prop extends Reordered a b where
  llmCallsEq : b.llmCalls = a.llmCalls

theorem agree_of_shows (c : Collation) (store : Store) (run : AgentRun) (a b : ExtendedRunEvent)
    (ha : Shows c (storedTrajectory store run) a) (hb : Shows c (storedTrajectory store run) b) :
    Agree a b :=
  { reordered_trans _ _ _ (reordered_symm _ _ ha.toReordered) hb.toReordered with
    llmCallsEq := shows_llmCalls_eq c _ b a (shows_nodup store run) hb ha }

/-- In a reachable store both readers decode every run and agree, and a run ingested
for the first time is read back as it was sent. -/
theorem read_back_undoes_ingestion (db : Database) (store : Store) (h : Reachable store) :
    (∀ run ∈ store.agentRuns.rows, ∀ s s', s.view = store → s'.view = store →
      (Delivers db.backend (evaluationRunView db run.runId) s fun returned _ =>
        ∃ view, returned = some view ∧ ViewShows db.collation store run view) ∧
      (Delivers db.backend (getRun db run.runId) s' fun detail _ =>
        DetailShows db.collation store run detail) ∧
      ∀ view t detail t', evaluationRunView db run.runId s = .ok (some view) t →
        getRun db run.runId s' = .ok detail t' →
        Agree (viewTrajectory view) (detailTrajectory detail)) ∧
    (∀ event, Validated event → store.agentRuns.find? event.runId = none →
      ∀ s, s.committed = store → s.inTransaction = false →
      Delivers db.backend (ingestRunEvent db event) s fun _ t =>
        ∀ u u', u.view = t.committed → u'.view = t.committed →
        (Delivers db.backend (evaluationRunView db event.runId) u fun returned _ =>
          ∃ view, returned = some view ∧
            Shows db.collation (remembered event) (viewTrajectory view)) ∧
        (Delivers db.backend (getRun db event.runId) u' fun detail _ =>
          Shows db.collation (remembered event) (detailTrajectory detail))) := by
  have hclosed := reachable_referencesClosed store h
  constructor
  · intro run hmem s s' hs hs'
    have hrun := find?_of_mem store run hmem
    have hview := delivers_mono _ _ s _ _
      (delivers_evaluationRunView db store run hrun (hclosed.closed _) s hs) fun _ _ h => h.2
    have hdetail := delivers_getRun db store run hrun (hclosed.closed _) s' hs'
    refine ⟨hview, hdetail, ?_⟩
    intro view t detail t' hv hd
    obtain ⟨_, hsome, hshown⟩ := Stateful.ends_returns _ s t _ _ _ hview hv
    cases hsome
    have hshown' := Stateful.ends_returns _ s' t' _ _ _ hdetail hd
    exact agree_of_shows db.collation store run _ _ hshown.trajectory hshown'.trajectory
  · intro event hv hnew s hstore hs
    subst hstore
    have hchildren := ((validated_iff event).mp hv).1
    refine delivers_mono _ _ s _ _ (delivers_ingest db event hchildren s hs
      (pendingAfterTerminal_new event _ hnew)) ?_
    intro _ t hreturned u u' hu hu'
    obtain ⟨now, hi⟩ := hreturned
    have hclosed' := ingest_referencesClosed event now _ _ hi hclosed
    obtain ⟨row, hrow, hrowId, hrestored⟩ :=
      storedTrajectory_restored event now _ _ hi hchildren hclosed hnew
    rw [← hrowId] at hrow ⊢
    constructor
    · refine delivers_mono _ _ u _ _
        (delivers_evaluationRunView db t.committed row hrow (hclosed'.closed _) u hu) ?_
      intro returned _ hreturned
      obtain ⟨_, view, rfl, hview⟩ := hreturned
      exact ⟨view, rfl, shows_of_reordered _ _ _ _ hrestored hview.trajectory⟩
    · refine delivers_mono _ _ u' _ _
        (delivers_getRun db t.committed row hrow (hclosed'.closed _) u' hu') ?_
      intro detail _ hdetail
      exact shows_of_reordered _ _ _ _ hrestored hdetail.trajectory

/-- A run with a child listed before its parent, ingested into the empty store. -/
theorem read_back_undoes_ingestion_success :
    ∃ result t view u detail u',
      ingestRunEvent .plain (successEvent "run-1") (Session.fresh Store.empty) = .ok result t ∧
      evaluationRunView .plain "run-1" (Session.fresh t.committed) = .ok (some view) u ∧
      getRun .plain "run-1" (Session.fresh t.committed) = .ok detail u' ∧
      Shows .codePoints (remembered (successEvent "run-1")) (viewTrajectory view) ∧
      Shows .codePoints (remembered (successEvent "run-1")) (detailTrajectory detail) ∧
      Agree (viewTrajectory view) (detailTrajectory detail) := by
  have hempty := (read_back_undoes_ingestion .plain Store.empty .empty).2 (successEvent "run-1")
    (successEvent_validated _) rfl (Session.fresh Store.empty) rfl rfl
  obtain ⟨result, t, hingest, hread⟩ := delivers_accepted _ plain_accepts _ _ _ hempty
  have hfresh : (Session.fresh t.committed).view = t.committed := rfl
  obtain ⟨hview, hdetail⟩ := hread _ _ hfresh hfresh
  obtain ⟨_, u, hv, view, rfl, hshown⟩ := delivers_accepted _ plain_accepts _ _ _ hview
  obtain ⟨detail, u', hd, hshown'⟩ := delivers_accepted _ plain_accepts _ _ _ hdetail
  refine ⟨result, t, view, u, detail, u', hingest, hv, hd, hshown, hshown', ?_⟩
  have hreach : Reachable _ := .request Store.empty .empty .plain
    (.ingest (successEvent "run-1") (successEvent_validated _))
  have hcommitted : (Stateful.after (serve .plain
      (.ingest (successEvent "run-1") (successEvent_validated "run-1")))
      (Session.fresh Store.empty)).committed = t.committed := by
    simp only [serve, Stateful.after, Stateful.bind_of_ok _ _ _ t result hingest]
    rfl
  rw [hcommitted] at hreach
  have hi := delivers_ingest .plain (successEvent "run-1")
    ((validated_iff _).mp (successEvent_validated "run-1")).1 (Session.fresh Store.empty) rfl rfl
  obtain ⟨now, hi⟩ := Stateful.ends_returns _ _ t result _ _ hi hingest
  obtain ⟨hmem, hrun⟩ := (t.committed.agentRuns.find?_eq_some_iff _ _).mp hi.agentRun
  have hagree := (read_back_undoes_ingestion .plain t.committed hreach).1 _ hmem
    (Session.fresh t.committed) (Session.fresh t.committed)
  rw [hrun] at hagree
  exact (hagree hfresh hfresh).2.2 view u detail u' hv hd

end ObsPlatform.Platform
