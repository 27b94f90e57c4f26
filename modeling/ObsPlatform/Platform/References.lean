import ObsPlatform.Platform.Usage

/-!
# References between stored rows

Every parent pointer and every call's span pointer leads to a span of the same run,
and every span belongs to a stored run. Snapshots that omit a span do not delete its
row, so a pointer written by an older snapshot keeps its target.
-/

namespace ObsPlatform.Platform

open Telemetry Db Evaluation Ingestion

/-- The surrogate key of some span of the run. -/
def PointsInto (store : Store) (runId : String) (id : ℕ) : Prop :=
  ∃ spanId, spanPointer store runId spanId = some id

/-- The rows of one run refer to spans of that run. -/
structure RunClosed (store : Store) (runId : String) : Prop where
  parents : ∀ span ∈ store.spans.rows, span.runId = runId → ∀ id, span.parentSpanId = some id →
    PointsInto store runId id
  toolCalls : ∀ call ∈ store.toolCalls.rows, call.runId = runId → PointsInto store runId call.spanId
  llmCalls : ∀ call ∈ store.llmCalls.rows, call.runId = runId → PointsInto store runId call.spanId

structure ReferencesClosed (store : Store) : Prop where
  closed : ∀ runId, RunClosed store runId
  runs : ∀ runId id, PointsInto store runId id → (store.agentRuns.find? runId).isSome

theorem pointsInto_iff (store : Store) (runId : String) (id : ℕ) :
    PointsInto store runId id ↔ ∃ span ∈ store.spans.rows, span.runId = runId ∧ span.id = id := by
  constructor
  · intro hpointed
    obtain ⟨spanId, h⟩ := hpointed
    obtain ⟨span, hf, hid⟩ := Option.map_eq_some_iff.mp h
    have hkey := Table.key_of_find? _ _ span hf
    exact ⟨span, Table.mem_of_find? _ _ span hf, (Prod.mk.inj hkey).1, hid⟩
  · intro hspan
    obtain ⟨span, hm, rfl, rfl⟩ := hspan
    refine ⟨span.spanId, ?_⟩
    have hf := (store.spans.toTable.find?_eq_some_iff (span.runId, span.spanId) span).mpr ⟨hm, rfl⟩
    rw [spanPointer, hf]
    rfl

theorem pointsInto_mono (store store' : Store) (h : SpanIdsKept store store') (runId : String)
    (id : ℕ) (hp : PointsInto store runId id) : PointsInto store' runId id := by
  obtain ⟨spanId, hs⟩ := hp
  exact ⟨spanId, h runId spanId id hs⟩

section Ingest
variable (event : ExtendedRunEvent) (now : Timestamp) (store store' : Store)
  (hi : Ingested event now store store')

include hi

section Run
variable (runId : String) (h : RunClosed store runId)

include h

theorem ingest_parents (span : Db.Span) (hm : span ∈ store'.spans.rows) (hspan : span.runId = runId)
    (id : ℕ) (hp : span.parentSpanId = some id) : PointsInto store' runId id := by
  have hf := (store'.spans.toTable.find?_eq_some_iff span.key span).mpr ⟨hm, rfl⟩
  by_cases hk : ∃ child ∈ event.spans, span.key = (event.runId, child.spanId)
  · obtain ⟨child, hchild, hkey⟩ := hk
    obtain ⟨row, hrow, _, hparent⟩ := hi.spans child hchild
    rw [hkey] at hf
    rw [hrow, Option.some.injEq] at hf
    subst hf
    have hrun : row.runId = event.runId := (Prod.mk.inj hkey).1
    cases hc : child.parentSpanId with
    | none =>
      rw [hc] at hparent
      rw [hparent] at hp
      cases hp
    | some parent =>
      rw [hc] at hparent
      obtain ⟨target, htarget, hpointer⟩ := hparent
      rw [hpointer, Option.some.injEq] at hp
      rw [← hspan, hrun, ← hp]
      exact ⟨parent, htarget⟩
  · have hother : ∀ child ∈ event.spans, span.key ≠ (event.runId, child.spanId) :=
      fun child hchild he => hk ⟨child, hchild, he⟩
    rw [hi.otherSpans span.key hother] at hf
    exact pointsInto_mono store store' hi.spanIds _ _
      (h.parents span (Table.mem_of_find? _ _ span hf) hspan id hp)

theorem ingest_toolCalls (call : Db.ToolCall) (hm : call ∈ store'.toolCalls.rows)
    (hcall : call.runId = runId) : PointsInto store' runId call.spanId := by
  have hf := (store'.toolCalls.find?_eq_some_iff call.key call).mpr ⟨hm, rfl⟩
  by_cases hk : ∃ child ∈ event.toolCalls, call.key = (event.runId, child.toolCallId)
  · obtain ⟨child, hchild, hkey⟩ := hk
    obtain ⟨row, hrow, _, hpointer⟩ := hi.toolCalls child hchild
    rw [hkey] at hf
    rw [hrow, Option.some.injEq] at hf
    subst hf
    have hrun : row.runId = event.runId := (Prod.mk.inj hkey).1
    rw [← hcall, hrun]
    exact ⟨child.spanId, hpointer⟩
  · have hother : ∀ child ∈ event.toolCalls, call.key ≠ (event.runId, child.toolCallId) :=
      fun child hchild he => hk ⟨child, hchild, he⟩
    rw [hi.otherToolCalls call.key hother] at hf
    exact pointsInto_mono store store' hi.spanIds _ _
      (h.toolCalls call (Table.mem_of_find? _ _ call hf) hcall)

theorem ingest_llmCalls (call : Db.LLMCall) (hm : call ∈ store'.llmCalls.rows)
    (hcall : call.runId = runId) : PointsInto store' runId call.spanId := by
  have hf := (store'.llmCalls.find?_eq_some_iff call.key call).mpr ⟨hm, rfl⟩
  by_cases hk : ∃ child ∈ event.llmCalls, call.key = (event.runId, child.llmCallId)
  · obtain ⟨child, hchild, hkey⟩ := hk
    obtain ⟨row, hrow, _, hpointer⟩ := hi.llmCalls child hchild
    rw [hkey] at hf
    rw [hrow, Option.some.injEq] at hf
    subst hf
    have hrun : row.runId = event.runId := (Prod.mk.inj hkey).1
    rw [← hcall, hrun]
    exact ⟨child.spanId, hpointer⟩
  · have hother : ∀ child ∈ event.llmCalls, call.key ≠ (event.runId, child.llmCallId) :=
      fun child hchild he => hk ⟨child, hchild, he⟩
    rw [hi.otherLlmCalls call.key hother] at hf
    exact pointsInto_mono store store' hi.spanIds _ _
      (h.llmCalls call (Table.mem_of_find? _ _ call hf) hcall)

theorem ingest_runClosed : RunClosed store' runId where
  parents := ingest_parents event now store store' hi runId h
  toolCalls := ingest_toolCalls event now store store' hi runId h
  llmCalls := ingest_llmCalls event now store store' hi runId h

end Run

theorem ingest_referencesClosed (h : ReferencesClosed store) : ReferencesClosed store' where
  closed := fun runId => ingest_runClosed event now store store' hi runId (h.closed runId)
  runs := by
    intro runId id hp
    by_cases hrun : runId = event.runId
    · rw [hrun, hi.agentRun]
      rfl
    · rw [hi.otherAgentRuns runId hrun]
      obtain ⟨spanId, hs⟩ := hp
      have hother : ∀ child ∈ event.spans, (runId, spanId) ≠ (event.runId, child.spanId) :=
        fun child _ he => hrun (Prod.mk.inj he).1
      rw [spanPointer, hi.otherSpans _ hother] at hs
      exact h.runs runId id ⟨spanId, hs⟩

end Ingest

theorem updateLinkage_find? (runId : String) (regressionRunId : ℕ) (scenarioId : String)
    (repetitionIndex : ℕ) (now : Timestamp) (store : Store) (otherId : String) :
    (updateLinkage runId regressionRunId scenarioId repetitionIndex now store).agentRuns.find?
        otherId =
      if otherId = runId then
        (store.agentRuns.find? runId).map
          (linkAgentRun regressionRunId scenarioId repetitionIndex now)
      else store.agentRuns.find? otherId :=
  Table.find?_modify store.agentRuns runId otherId
    (linkAgentRun regressionRunId scenarioId repetitionIndex now) (fun _ h => h)

/-- What refers and what is referred to, is all in the children's tables. -/
theorem runClosed_congr (store store' : Store) (runId : String) (h : RunClosed store runId)
    (hspans : store'.spans = store.spans) (htools : store'.toolCalls = store.toolCalls)
    (hllms : store'.llmCalls = store.llmCalls) : RunClosed store' runId := by
  have hpointer (id : ℕ) (hp : PointsInto store runId id) : PointsInto store' runId id := by
    obtain ⟨spanId, hs⟩ := hp
    refine ⟨spanId, ?_⟩
    rw [spanPointer, hspans]
    exact hs
  refine ⟨?_, ?_, ?_⟩
  · rw [hspans]
    exact fun span hm hrun id hp => hpointer id (h.parents span hm hrun id hp)
  · rw [htools]
    exact fun call hm hrun => hpointer _ (h.toolCalls call hm hrun)
  · rw [hllms]
    exact fun call hm hrun => hpointer _ (h.llmCalls call hm hrun)

theorem referencesClosed_invariant : StoreInvariant ReferencesClosed where
  empty :=
    { closed := fun runId =>
        ⟨fun _ hm => absurd hm List.not_mem_nil, fun _ hm => absurd hm List.not_mem_nil,
          fun _ hm => absurd hm List.not_mem_nil⟩
      runs := by
        intro runId id hpointed
        obtain ⟨spanId, hs⟩ := hpointed
        cases hs }
  ingest := by
    intro event now store store' hv h heffect
    have hi := ingestEffect_ingested event now store store' heffect ((validated_iff event).mp hv).1
    exact ingest_referencesClosed event now store store' hi h
  link := by
    intro runId regressionRunId scenarioId repetitionIndex now store h
    refine ⟨fun runId => runClosed_congr store _ runId (h.closed runId) rfl rfl rfl, ?_⟩
    intro otherId id hp
    rw [updateLinkage_find?]
    have hstored := h.runs otherId id hp
    by_cases he : otherId = runId
    · rw [if_pos he, ← he, Option.isSome_map]
      exact hstored
    · rw [if_neg he]
      exact hstored
  evaluationResult := fun _ store h =>
    ⟨fun runId => runClosed_congr store _ runId (h.closed runId) rfl rfl rfl, h.runs⟩
  judgeCall := fun _ store h =>
    ⟨fun runId => runClosed_congr store _ runId (h.closed runId) rfl rfl rfl, h.runs⟩
  runFailure := fun _ store h =>
    ⟨fun runId => runClosed_congr store _ runId (h.closed runId) rfl rfl rfl, h.runs⟩

theorem reachable_referencesClosed (store : Store) (h : Reachable store) :
    ReferencesClosed store :=
  reachable_invariant ReferencesClosed referencesClosed_invariant store h

end ObsPlatform.Platform
