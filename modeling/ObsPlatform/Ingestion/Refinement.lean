import ObsPlatform.Ingestion.Snapshot
import ObsPlatform.Lib.LastWrite

/-!
# Ingestion refines last write wins

A history of accepted snapshots says, for each run and each child id of a run, which
snapshot spoke of it last. `Refines` compares the stored tables with that: every row
is the one of its last snapshot, and every pointer is the surrogate key of the span
the snapshot named.
-/

namespace ObsPlatform.Ingestion

open Telemetry Db UnitOfWork LastWrite

/-- A snapshot and the clock reading of its ingestion. -/
structure Snapshot where
  event : ExtendedRunEvent
  now : Timestamp

/-! ### The abstract model -/

def ofRun (runId : String) (snapshot : Snapshot) : Option Snapshot :=
  if snapshot.event.runId = runId then some snapshot else none

def childOf {χ : Type} (children : ExtendedRunEvent → List χ) (idOf : χ → String)
    (k : String × String) (snapshot : Snapshot) : Option χ :=
  if snapshot.event.runId = k.1 then (children snapshot.event).find? fun child => idOf child = k.2
  else none

def spanOf : String × String → Snapshot → Option Telemetry.Span :=
  childOf ExtendedRunEvent.spans Telemetry.Span.spanId

def toolCallOf : String × String → Snapshot → Option Telemetry.ToolCall :=
  childOf ExtendedRunEvent.toolCalls Telemetry.ToolCall.toolCallId

def llmCallOf : String × String → Snapshot → Option Telemetry.LLMCall :=
  childOf ExtendedRunEvent.llmCalls Telemetry.LLMCall.llmCallId

/-- The columns hold the snapshot's fields; the time of the first ingestion and the
derived usage columns are the row's own, and the run is linked to no regression. -/
def AgentRunStored (snapshot : Snapshot) (row : AgentRun) : Prop :=
  let event := snapshot.event
  row =
    { runId := event.runId
      schemaVersion := event.schemaVersion
      eventType := event.eventType
      agentName := event.agentName
      agentVersion := event.agentVersion
      promptVersion := event.promptVersion
      environment := event.environment
      rawInput := event.rawInput
      normalizedInput := event.normalizedInput
      scenarioId := event.scenarioId
      startedAt := event.startedAt
      completedAt := event.completedAt
      status := event.status
      executionLatencyMs := event.executionLatencyMs
      wallClockDurationMs := event.wallClockDurationMs
      resumeCount := event.resumeCount
      regressionRunId := none
      repetitionIndex := none
      hitlRequired := event.hitl.required
      hitlState := event.hitl.state
      hitlCheckpointId := event.hitl.checkpointId
      hitlDecision := event.hitl.decision
      hitlRequestedAt := event.hitl.requestedAt
      hitlDecidedAt := event.hitl.decidedAt
      hitlPendingAction := event.hitl.pendingAction
      finalResultOutput := event.finalResult.map FinalResult.output
      finalResultSourceReferences := event.finalResult.map FinalResult.sourceReferences
      runtimeErrorCategory := event.runtimeError.map ErrorInfo.category
      runtimeErrorCode := event.runtimeError.bind ErrorInfo.code
      runtimeErrorMessage := event.runtimeError.map ErrorInfo.message
      runtimeErrorFailedComponent := event.runtimeError.bind ErrorInfo.failedComponent
      updatedAt := snapshot.now
      ingestedAt := row.ingestedAt
      usageTotalLlmCalls := row.usageTotalLlmCalls
      usageTotalToolCalls := row.usageTotalToolCalls
      usageTotalTokens := row.usageTotalTokens
      usageTotalRetries := row.usageTotalRetries
      usageTotalEstimatedCostUsd := row.usageTotalEstimatedCostUsd }

structure Refines (history : List Snapshot) (store : Store) : Prop where
  agentRuns : Tracks ofRun (fun _ => AgentRunStored) history store.agentRuns.find?
  ingestedAt : ∀ runId, (store.agentRuns.find? runId).map AgentRun.ingestedAt =
    (history.findSome? (ofRun runId)).map Snapshot.now
  spans : Tracks spanOf (fun k => SpanStored store k.1) history store.spans.find?
  toolCalls : Tracks toolCallOf (fun k => ToolCallStored store k.1) history store.toolCalls.find?
  llmCalls : Tracks llmCallOf (fun k => LLMCallStored store k.1) history store.llmCalls.find?

theorem refines_empty : Refines [] Store.empty where
  agentRuns := tracks_nil _ _ _ fun _ => rfl
  ingestedAt := fun _ => rfl
  spans := tracks_nil _ _ _ fun _ => rfl
  toolCalls := tracks_nil _ _ _ fun _ => rfl
  llmCalls := tracks_nil _ _ _ fun _ => rfl

/-! ### One snapshot -/

theorem childOf_some {χ : Type} (children : ExtendedRunEvent → List χ) (idOf : χ → String)
    (k : String × String) (snapshot : Snapshot) (child : χ)
    (h : childOf children idOf k snapshot = some child) :
    child ∈ children snapshot.event ∧ k = (snapshot.event.runId, idOf child) := by
  unfold childOf at h
  by_cases hr : snapshot.event.runId = k.1
  · rw [if_pos hr] at h
    have hid := List.find?_some h
    simp only [decide_eq_true_eq] at hid
    exact ⟨List.mem_of_find?_eq_some h, Prod.ext hr.symm hid.symm⟩
  · rw [if_neg hr] at h
    cases h

theorem childOf_none {χ : Type} (children : ExtendedRunEvent → List χ) (idOf : χ → String)
    (k : String × String) (snapshot : Snapshot) (h : childOf children idOf k snapshot = none)
    (child : χ) (hchild : child ∈ children snapshot.event) :
    k ≠ (snapshot.event.runId, idOf child) := by
  intro hkey
  subst hkey
  unfold childOf at h
  rw [if_pos rfl] at h
  have hn := List.find?_eq_none.mp h child hchild
  simp only [decide_true, not_true_eq_false] at hn

/-- A table of children tracks the history one snapshot further. -/
theorem children_step {χ ρ : Type} (children : ExtendedRunEvent → List χ) (idOf : χ → String)
    (stored stored' : String → χ → ρ → Prop) (history : List Snapshot) (snapshot : Snapshot)
    (find find' : String × String → Option ρ)
    (h : Tracks (childOf children idOf) (fun k => stored k.1) history find)
    (hwritten : ∀ child ∈ children snapshot.event, ∃ row,
      find' (snapshot.event.runId, idOf child) = some row ∧
        stored' snapshot.event.runId child row)
    (hother : ∀ k, (∀ child ∈ children snapshot.event, k ≠ (snapshot.event.runId, idOf child)) →
      find' k = find k)
    (hmono : ∀ runId child row, stored runId child row → stored' runId child row) :
    Tracks (childOf children idOf) (fun k => stored' k.1) (history ++ [snapshot]) find' := by
  apply tracks_step _ _ _ history snapshot find find' h
  · intro k child hk
    obtain ⟨hchild, rfl⟩ := childOf_some children idOf k snapshot child hk
    exact hwritten child hchild
  · intro k hk
    exact hother k (childOf_none children idOf k snapshot hk)
  · intro k child row _ hs
    exact hmono k.1 child row hs

theorem refines_agentRuns (history : List Snapshot) (snapshot : Snapshot) (store store' : Store)
    (h : Refines history store) (hi : Ingested snapshot.event snapshot.now store store') :
    Tracks ofRun (fun _ => AgentRunStored) (history ++ [snapshot]) store'.agentRuns.find? := by
  refine tracks_step _ _ _ history snapshot _ _ h.agentRuns ?_ ?_ (fun _ _ _ _ hs => hs)
  · intro runId s hs
    simp only [ofRun, Option.ite_none_right_eq_some, Option.some.injEq] at hs
    obtain ⟨rfl, rfl⟩ := hs
    refine ⟨_, hi.agentRun, ?_⟩
    cases hf : store.agentRuns.find? snapshot.event.runId with
    | none => rfl
    | some old =>
      have hkey := Table.key_of_find? store.agentRuns _ old hf
      have hold := h.agentRuns snapshot.event.runId
      rw [hf] at hold
      cases hl : latest (ofRun snapshot.event.runId) history with
      | none =>
        rw [hl] at hold
        cases hold
      | some last =>
        rw [hl] at hold
        cases hold with
        | some hrow =>
          -- the linkage columns of the row before were the defaults
          have hreg : old.regressionRunId = none := by rw [hrow]
          have hrep : old.repetitionIndex = none := by rw [hrow]
          simp only [AgentRunStored, Option.elim_some, updateAgentRun, withUsageTotals, hkey, hreg,
            hrep]
          rfl
  · intro runId hn
    simp only [ofRun, ite_eq_right_iff, reduceCtorEq, imp_false] at hn
    exact hi.otherAgentRuns runId (fun he => hn he.symm)

theorem refines_ingestedAt (history : List Snapshot) (snapshot : Snapshot) (store store' : Store)
    (h : Refines history store) (hi : Ingested snapshot.event snapshot.now store store')
    (runId : String) :
    (store'.agentRuns.find? runId).map AgentRun.ingestedAt =
      ((history ++ [snapshot]).findSome? (ofRun runId)).map Snapshot.now := by
  rw [List.findSome?_append]
  have hfirst := h.ingestedAt runId
  by_cases hr : snapshot.event.runId = runId
  · subst hr
    rw [hi.agentRun]
    cases hf : store.agentRuns.find? snapshot.event.runId with
    | none =>
      rw [hf] at hfirst
      have hnone := Option.map_eq_none_iff.mp hfirst.symm
      rw [hnone]
      simp only [Option.none_or, List.findSome?_singleton, ofRun, if_true, Option.map_some,
        Option.elim_none]
      rfl
    | some old =>
      rw [hf] at hfirst
      cases hl : history.findSome? (ofRun snapshot.event.runId) with
      | none =>
        rw [hl] at hfirst
        cases hfirst
      | some first =>
        rw [hl] at hfirst
        exact hfirst
  · rw [hi.otherAgentRuns runId (fun he => hr he.symm), hfirst]
    simp only [List.findSome?_singleton, ofRun, hr, if_false, Option.or_none]

theorem refines_step (history : List Snapshot) (snapshot : Snapshot) (store store' : Store)
    (h : Refines history store) (hi : Ingested snapshot.event snapshot.now store store') :
    Refines (history ++ [snapshot]) store' where
  agentRuns := refines_agentRuns history snapshot store store' h hi
  ingestedAt := refines_ingestedAt history snapshot store store' h hi
  spans := children_step _ _ (SpanStored store) (SpanStored store') history snapshot _ _ h.spans
    hi.spans hi.otherSpans
    (fun runId span row hs => spanStored_mono store store' runId span row hi.spanIds hs)
  toolCalls := children_step _ _ (ToolCallStored store) (ToolCallStored store') history snapshot
    _ _ h.toolCalls hi.toolCalls hi.otherToolCalls
    (fun runId call row hs => ⟨hs.1, hi.spanIds runId call.spanId row.spanId hs.2⟩)
  llmCalls := children_step _ _ (LLMCallStored store) (LLMCallStored store') history snapshot
    _ _ h.llmCalls hi.llmCalls hi.otherLlmCalls
    (fun runId call row hs => ⟨hs.1, hi.spanIds runId call.spanId row.spanId hs.2⟩)

/-! ### A sequence of calls -/

structure Call where
  snapshot : Snapshot
  outcome : Except Error IngestRunResult

/-- The events are ingested one after another; the caller of a raising call goes on
with the next event. -/
def ingestEach (db : Database) : List ExtendedRunEvent → DbSession → List Call × DbSession
  | [], s => ([], s)
  | event :: events, s =>
    match ingestRunEvent db event s with
    | .ok result t =>
      (⟨⟨event, db.clock s.statements⟩, .ok result⟩ :: (ingestEach db events t).1,
        (ingestEach db events t).2)
    | .error e t =>
      (⟨⟨event, db.clock s.statements⟩, .error e⟩ :: (ingestEach db events t).1,
        (ingestEach db events t).2)

def Call.accepted? (call : Call) : Option Snapshot := call.outcome.toOption.map fun _ => call.snapshot

def accepted (calls : List Call) : List Snapshot := calls.filterMap Call.accepted?

theorem accepted_ok (snapshot : Snapshot) (result : IngestRunResult) (calls : List Call) :
    accepted (⟨snapshot, .ok result⟩ :: calls) = snapshot :: accepted calls := rfl

theorem accepted_error (snapshot : Snapshot) (e : Error) (calls : List Call) :
    accepted (⟨snapshot, .error e⟩ :: calls) = accepted calls := rfl

/-- A pending snapshot after one that says approved or rejected. -/
def GuardRejects (history : List Snapshot) (event : ExtendedRunEvent) : Prop :=
  event.hitl.state = .pending ∧ ∃ last, latest (ofRun event.runId) history = some last ∧
    (last.event.hitl.state = .approved ∨ last.event.hitl.state = .rejected)

/-- Which calls are accepted: all but those the guard rejects and those in which the
server refused a statement. -/
def GuardDecides (db : Database) : List Snapshot → List Call → Prop
  | _, [] => True
  | history, call :: calls =>
    (match call.outcome with
      | .ok _ => ¬ GuardRejects history call.snapshot.event
      | .error e => GuardRejects history call.snapshot.event ∨ db.backend.Refuses e) ∧
    GuardDecides db (history ++ call.accepted?.toList) calls

theorem refines_hitlState (history : List Snapshot) (store : Store) (h : Refines history store)
    (runId : String) :
    (store.agentRuns.find? runId).map AgentRun.hitlState =
      (latest (ofRun runId) history).map fun last => last.event.hitl.state := by
  have hrow := h.agentRuns runId
  cases hl : latest (ofRun runId) history with
  | none =>
    cases hf : store.agentRuns.find? runId with
    | none => rfl
    | some row =>
      rw [hl, hf] at hrow
      cases hrow
  | some last =>
    cases hf : store.agentRuns.find? runId with
    | none =>
      rw [hl, hf] at hrow
      cases hrow
    | some row =>
      rw [hl, hf] at hrow
      cases hrow with
      | some hs =>
        rw [AgentRunStored] at hs
        rw [hs]
        rfl

/-- The guard reads in the store what the history says. -/
theorem guard_iff (history : List Snapshot) (store : Store) (h : Refines history store)
    (event : ExtendedRunEvent) :
    pendingAfterTerminal event store = .ok () ↔ ¬ GuardRejects history event := by
  have hstate := refines_hitlState history store h event.runId
  unfold pendingAfterTerminal GuardRejects
  by_cases hp : event.hitl.state = .pending
  · simp only [hp, ne_eq, not_true_eq_false, if_false, true_and]
    rw [hstate]
    cases hl : latest (ofRun event.runId) history with
    | none => simp
    | some last =>
      cases hs : last.event.hitl.state <;> simp [hs]
  · simp [hp]

theorem ingestEach_refines (db : Database) (events : List ExtendedRunEvent)
    (hv : ∀ event ∈ events, Validated event) (history : List Snapshot) (s : DbSession)
    (hs : s.inTransaction = false) (h : Refines history s.committed) :
    Refines (history ++ accepted (ingestEach db events s).1) (ingestEach db events s).2.committed ∧
      (ingestEach db events s).2.inTransaction = false ∧
      SpanIdsKept s.committed (ingestEach db events s).2.committed ∧
      GuardDecides db history (ingestEach db events s).1 := by
  induction events generalizing history s with
  | nil =>
    refine ⟨?_, hs, fun _ _ _ hid => hid, trivial⟩
    simpa only [ingestEach, accepted, List.filterMap_nil, List.append_nil] using h
  | cons event events ih =>
    have hvalid := hv event List.mem_cons_self
    have hrest : ∀ e ∈ events, Validated e := fun e he => hv e (List.mem_cons_of_mem _ he)
    have hchildren := ((validated_iff event).mp hvalid).1
    cases hr : ingestRunEvent db event s with
    | ok result t =>
      obtain ⟨_, ht, heffect⟩ := ingestRunEvent_returns db event s t result hr
      have hi := ingestEffect_ingested event _ s.committed t.committed heffect hchildren
      have hstep := refines_step history ⟨event, db.clock s.statements⟩ _ _ h hi
      obtain ⟨hrefines, hclosed, hkept, hguard⟩ := ih hrest _ t ht hstep
      simp only [ingestEach, hr]
      refine ⟨?_, hclosed, spanIdsKept_trans _ _ _ hi.spanIds hkept, ?_, hguard⟩
      · rw [accepted_ok]
        rw [List.append_assoc] at hrefines
        exact hrefines
      · exact (guard_iff history s.committed h event).mp hi.guard
    | error e t =>
      obtain ⟨hcommitted, hcase⟩ := ingestRunEvent_raises db event s t e hr
      rcases hcase with ⟨hopen, _⟩ | ⟨_, ht, hwhy⟩
      · rw [hs] at hopen
        cases hopen
      · rw [← hcommitted] at h
        obtain ⟨hrefines, hclosed, hkept, hguard⟩ := ih hrest history t ht h
        rw [hcommitted] at hkept
        simp only [ingestEach, hr]
        refine ⟨?_, hclosed, hkept, ?_, ?_⟩
        · rw [accepted_error]
          exact hrefines
        · rcases hwhy with heffect | hrefused
          · refine .inl ?_
            by_contra hn
            rw [← hcommitted] at heffect
            obtain ⟨store', hok⟩ := ingestEffect_total event (db.clock s.statements) t.committed
              hchildren ((guard_iff history t.committed h event).mpr hn)
            rw [hok] at heffect
            cases heffect
          · exact .inr hrefused
        · simpa only [Call.accepted?, Except.toOption, Option.map_none, Option.toList_none,
            List.append_nil] using hguard

theorem childOf_isSome_iff {χ : Type} (children : ExtendedRunEvent → List χ) (idOf : χ → String)
    (k : String × String) (snapshot : Snapshot) :
    (childOf children idOf k snapshot).isSome ↔
      snapshot.event.runId = k.1 ∧ ∃ child ∈ children snapshot.event, idOf child = k.2 := by
  unfold childOf
  by_cases hr : snapshot.event.runId = k.1
  · simp only [hr, if_true, true_and, List.find?_isSome, decide_eq_true_eq]
  · simp [hr]

theorem ingestEach_events (db : Database) (events : List ExtendedRunEvent) (s : DbSession) :
    (ingestEach db events s).1.map (fun call => call.snapshot.event) = events := by
  induction events generalizing s with
  | nil => rfl
  | cons event events ih =>
    cases hr : ingestRunEvent db event s with
    | ok result t => simp only [ingestEach, hr, List.map_cons, ih]
    | error e t => simp only [ingestEach, hr, List.map_cons, ih]

/-- From the empty store, ingestion is a last-write-wins fold of the accepted
snapshots, and no later call moves a surrogate key. -/
theorem ingestion_last_write_wins (db : Database) (events later : List ExtendedRunEvent)
    (hv : ∀ event ∈ events ++ later, Validated event) :
    let first := ingestEach db events (Session.fresh Store.empty)
    let second := ingestEach db later first.2
    let store := first.2.committed
    first.1.map (fun call => call.snapshot.event) = events ∧
    GuardDecides db [] first.1 ∧
    Refines (accepted first.1) store ∧
    (∀ k, (store.spans.find? k).isSome ↔ ∃ snapshot ∈ accepted first.1,
      snapshot.event.runId = k.1 ∧ ∃ span ∈ snapshot.event.spans, span.spanId = k.2) ∧
    (∀ k, (store.toolCalls.find? k).isSome ↔ ∃ snapshot ∈ accepted first.1,
      snapshot.event.runId = k.1 ∧
        ∃ toolCall ∈ snapshot.event.toolCalls, toolCall.toolCallId = k.2) ∧
    (∀ k, (store.llmCalls.find? k).isSome ↔ ∃ snapshot ∈ accepted first.1,
      snapshot.event.runId = k.1 ∧
        ∃ llmCall ∈ snapshot.event.llmCalls, llmCall.llmCallId = k.2) ∧
    SpanIdsKept store second.2.committed := by
  intro first second store
  obtain ⟨hrefines, hclosed, _, hguard⟩ := ingestEach_refines db events
    (fun e he => hv e (List.mem_append_left later he)) [] (Session.fresh Store.empty) rfl
    refines_empty
  rw [List.nil_append] at hrefines
  obtain ⟨_, _, hkept, _⟩ := ingestEach_refines db later
    (fun e he => hv e (List.mem_append_right events he)) (accepted first.1) first.2 hclosed hrefines
  refine ⟨ingestEach_events db events _, hguard, hrefines, ?_, ?_, ?_, hkept⟩
  · intro k
    have hk := tracks_isSome_iff _ _ _ _ hrefines.spans k
    simp only [spanOf, childOf_isSome_iff] at hk
    exact hk
  · intro k
    have hk := tracks_isSome_iff _ _ _ _ hrefines.toolCalls k
    simp only [toolCallOf, childOf_isSome_iff] at hk
    exact hk
  · intro k
    have hk := tracks_isSome_iff _ _ _ _ hrefines.llmCalls k
    simp only [llmCallOf, childOf_isSome_iff] at hk
    exact hk

theorem ingestion_last_write_wins_sample :
    (∀ event ∈ [successEvent "run-1", pendingEvent "run-2"] ++ [successEvent "run-1"],
      Validated event) ∧
    SpanIdsKept
      (ingestEach .plain [successEvent "run-1", pendingEvent "run-2"]
        (Session.fresh Store.empty)).2.committed
      (ingestEach .plain [successEvent "run-1"]
        (ingestEach .plain [successEvent "run-1", pendingEvent "run-2"]
          (Session.fresh Store.empty)).2).2.committed := by
  have hv : ∀ event ∈ [successEvent "run-1", pendingEvent "run-2"] ++ [successEvent "run-1"],
      Validated event := by
    intro event he
    simp only [List.cons_append, List.nil_append, List.mem_cons, List.not_mem_nil, or_false] at he
    rcases he with rfl | rfl | rfl
    · exact successEvent_validated "run-1"
    · exact pendingEvent_validated "run-2"
    · exact successEvent_validated "run-1"
  exact ⟨hv, (ingestion_last_write_wins .plain _ _ hv).2.2.2.2.2.2⟩

end ObsPlatform.Ingestion
