import ObsPlatform.Platform.Evaluable
import ObsPlatform.Platform.RoundTrip
import ObsPlatform.Regressions.Gate

/-!
# A healthy regression

With a target that answers as its contracts ask and a server that accepts everything,
the first slot succeeds. Its evaluation leaves a transaction open on the shared
session, so that the ingestion of the second slot cannot begin one.
-/

namespace ObsPlatform.Regressions

open Telemetry Db UnitOfWork Evaluation Stateful Platform Ingestion

/-- A validated event of the scenario. -/
def Answers (scenarioId : String) (event : ExtendedRunEvent) : Prop :=
  Validated event ∧ event.scenarioId = some scenarioId

/-- The target answers every scenario with a validated event of it: a gated one first
with a pending event at a checkpoint that submitted nothing, then, resumed at that
checkpoint, with an approved one. -/
structure HealthyTarget (target : AgentTarget) (scenarioIds : List String) : Prop where
  dispatched : ∀ scenarioId ∈ scenarioIds, ∀ contract,
    loadScenarioContract scenarioId = .ok contract → ∀ history, ∃ event,
      target.runScenario history contract = .ok event ∧ Answers scenarioId event
  pending : ∀ scenarioId ∈ scenarioIds, ∀ contract,
    loadScenarioContract scenarioId = .ok contract → requiresHitlFlow contract = true →
    ∀ history event, target.runScenario history contract = .ok event →
      event.hitl.state = .pending ∧
      (∀ call ∈ event.toolCalls, call.toolName ≠ "submit_work_order") ∧
      ∃ checkpointId, event.hitl.checkpointId = some checkpointId ∧ checkpointId ≠ "" ∧
        ∀ history', ∃ reply,
          target.resumeAfterApproval history' checkpointId "approve" = .ok reply ∧
          Answers scenarioId reply ∧ reply.hitl.state = .approved

/-- Nothing is stored of the run. -/
structure Untouched (store : Store) (runId : String) : Prop where
  agentRun : store.agentRuns.find? runId = none
  spans : ∀ span ∈ store.spans.rows, span.runId ≠ runId
  toolCalls : ∀ call ∈ store.toolCalls.rows, call.runId ≠ runId
  llmCalls : ∀ call ∈ store.llmCalls.rows, call.runId ≠ runId

theorem untouched_runClosed (store : Store) (runId : String) (h : Untouched store runId) :
    RunClosed store runId where
  parents := fun span hm hrun => absurd hrun (h.spans span hm)
  toolCalls := fun call hm hrun => absurd hrun (h.toolCalls call hm)
  llmCalls := fun call hm hrun => absurd hrun (h.llmCalls call hm)

/-! ### The steps of an accepted slot -/

section Steps
variable (runner : RegressionRunner) (s : RunnerState)

def RunnerState.called (s : RunnerState) (call : Call) : RunnerState :=
  { s with calls := s.calls ++ [call] }

theorem record_apply (call : Call) : record call s = .ok () (s.called call) := rfl

theorem onSession_ok {α : Type} (x : SessionM α) (a : α) (t : DbSession)
    (h : x s.session = .ok a t) : onSession x s = .ok a { s with session := t } :=
  zoom_of_ok _ _ x s a t h

/-- The state after a commit. -/
def RunnerState.settled (s : RunnerState) : RunnerState :=
  { s with
    session := { s.session with committed := s.session.view, inTransaction := false } }

theorem evaluate_of_ok (runId : String) (u : DbSession)
    (h : runner.runEvaluation (s.called (.runEvaluation runId s.session.committed)).toHistory runId
      s.session = .ok () u) :
    runner.evaluate runId s =
      .ok () { s.called (.runEvaluation runId s.session.committed) with session := u } := by
  unfold RegressionRunner.evaluate
  rw [bind_of_ok get _ s s s rfl, bind_of_ok _ _ _ _ _ (record_apply s _),
    bind_of_ok get _ _ _ _ rfl]
  exact onSession_ok (s.called (.runEvaluation runId s.session.committed)) _ () u h

theorem runScenario_ok (contract : ScenarioContract) (P : ExtendedRunEvent → Prop)
    (h : ∀ history, ∃ event, runner.target.runScenario history contract = .ok event ∧ P event) :
    ∃ event t, runner.runScenario contract s = .ok event t ∧ t.session = s.session ∧ P event ∧
      ∃ history, runner.target.runScenario history contract = .ok event := by
  obtain ⟨event, hevent, hP⟩ := h (s.called (.runScenario contract.scenarioId)).toHistory
  refine ⟨event, s.called (.runScenario contract.scenarioId), ?_, rfl, hP, _, hevent⟩
  unfold RegressionRunner.runScenario
  rw [bind_of_ok _ _ _ _ _ (record_apply s _)]
  simp only [answer, hevent]

theorem resumeAfterApproval_ok (checkpointId : String) (P : ExtendedRunEvent → Prop)
    (h : ∀ history, ∃ reply,
      runner.target.resumeAfterApproval history checkpointId "approve" = .ok reply ∧ P reply) :
    ∃ reply t, runner.resumeAfterApproval checkpointId "approve" s = .ok reply t ∧
      t.session = s.session ∧ P reply := by
  obtain ⟨reply, hreply, hP⟩ := h
    (s.called (.resumeAfterApproval checkpointId "approve" s.session.committed)).toHistory
  refine ⟨reply, s.called (.resumeAfterApproval checkpointId "approve" s.session.committed), ?_,
    rfl, hP⟩
  unfold RegressionRunner.resumeAfterApproval
  rw [bind_of_ok get _ s s s rfl, bind_of_ok _ _ _ _ _ (record_apply s _)]
  simp only [answer, hreply]

section Ingest
variable (hingest : runner.ingestRunEvent = defaultIngestRunEvent runner.db)
  (event : ExtendedRunEvent)

include hingest

/-- Ingestion on a session without a transaction. -/
theorem ingest_ok (hdb : runner.db.backend.Accepts) (hv : ChildrenConsistent event)
    (hs : s.session.inTransaction = false)
    (hguard : pendingAfterTerminal event s.session.committed = .ok ()) :
    ∃ t, runner.ingest event s = .ok () t ∧ t.session.inTransaction = false ∧
      ∃ now, Ingested event now s.session.committed t.session.committed := by
  obtain ⟨store, hstore⟩ := ingestEffect_total event (runner.db.clock s.session.statements)
    s.session.committed hv hguard
  obtain ⟨u, hu, hcommitted, hclosed⟩ :=
    ingestRunEvent_accepted runner.db hdb event s.session hs store hstore
  have hi := ingestEffect_ingested event _ _ _ hstore hv
  rw [← hcommitted] at hi
  have hreturned : runner.ingestRunEvent s.toHistory event s.session = .ok () u := by
    rw [hingest]
    exact bind_of_ok _ _ s.session u _ hu
  refine ⟨{ s with session := u }.called (.ingested event), ?_, hclosed, _, hi⟩
  unfold RegressionRunner.ingest
  rw [bind_of_ok get _ s s s rfl, bind_of_ok _ _ _ _ _ (onSession_ok s _ () u hreturned)]
  rfl

/-- Ingestion on a session with a transaction. -/
theorem ingest_open (hs : s.session.inTransaction = true) :
    Ends (runner.ingest event) s (fun _ _ => False) fun _ _ => True := by
  have hend := ingest_ends runner s event
  apply ends_mono _ _ _ _ _ _ hend
  · intro _ t h
    rw [hingest] at h
    obtain ⟨result, u, hu, _⟩ := (bind_returns _ _ _ _ _).mp h.2
    have hclosed := (ingestRunEvent_returns runner.db event s.session u result hu).1
    rw [hs] at hclosed
    cases hclosed
  · intro _ _ _
    trivial

end Ingest

section Linkage
variable (runId : String) (regressionRunId : ℕ) (scenarioId : String) (repetitionIndex : ℕ)

theorem link_ok (hdb : runner.db.backend.Accepts)
    (hrow : (s.session.view.agentRuns.find? runId).isSome) :
    ∃ t, runner.link runId regressionRunId scenarioId repetitionIndex s = .ok () t ∧
      Linked runId regressionRunId scenarioId repetitionIndex s.session.view t.session := by
  have hend := persistRegressionLinkage_ends runner.db runId regressionRunId scenarioId
    repetitionIndex s.session
  cases hend with
  | ok _ u hu h =>
    refine ⟨{ s with session := u }.called (.linked u.committed), ?_, h.2⟩
    unfold RegressionRunner.link
    rw [bind_of_ok _ _ _ _ _ (onSession_ok s _ () u hu)]
    rfl
  | error e u hu h =>
    rcases h with ⟨n, l, w, w', hrefused⟩ | hnone
    · rw [hdb n l w w'] at hrefused
      cases hrefused
    · rw [hnone] at hrow
      cases hrow

variable (store : Store)
  (hlinked : Linked runId regressionRunId scenarioId repetitionIndex store s.session)

include hlinked

/-- Linkage changes the linkage columns only. -/
theorem linked_row (row : AgentRun) (hrow : store.agentRuns.find? runId = some row) :
    ∃ linkedRow, s.session.committed.agentRuns.find? runId = some linkedRow ∧
      linkedRow.runId = runId ∧ linkedRow.hitlState = row.hitlState ∧
      linkedRow.hitlCheckpointId = row.hitlCheckpointId := by
  obtain ⟨now, hcommitted⟩ := hlinked.committed
  have hfind := updateLinkage_find? runId regressionRunId scenarioId repetitionIndex now store runId
  rw [if_pos rfl, hrow, ← hcommitted, Option.map_some] at hfind
  exact ⟨_, hfind, Table.key_of_find? _ _ row hrow, rfl, rfl⟩

theorem linked_runClosed (hclosed : RunClosed store runId) :
    RunClosed s.session.committed runId := by
  obtain ⟨now, hcommitted⟩ := hlinked.committed
  rw [hcommitted]
  exact runClosed_congr store _ runId hclosed rfl rfl rfl

/-- The gate lets a run through at which it holds. -/
theorem gate_ok (hdb : runner.db.backend.Accepts) (row : AgentRun)
    (hrow : store.agentRuns.find? runId = some row) (checkpointId : String)
    (hheld : GateHeld runId checkpointId s.session.committed) :
    ∃ t, onSession (assertHitlGateHeld runner.db runId) s = .ok checkpointId t ∧
      t.session.committed = s.session.committed ∧ t.session.inTransaction = false := by
  obtain ⟨linkedRow, hlinkedRow, _⟩ :=
    linked_row s runId regressionRunId scenarioId repetitionIndex store hlinked row hrow
  have hsome : (s.session.committed.agentRuns.find? runId).isSome := by
    rw [hlinkedRow]
    rfl
  have hend := assertHitlGateHeld_ends runner.db runId s.session hlinked.view hsome
  cases hend with
  | ok returned u hu h =>
    obtain ⟨hgate, hcommitted, hclosed⟩ := h
    have hsame : returned = checkpointId := by
      obtain ⟨row', hrow', _, hid'⟩ := hgate.pending
      obtain ⟨row'', hrow'', _, hid''⟩ := hheld.pending
      rw [hrow', Option.some.injEq] at hrow''
      rw [← hrow'', hid', Option.some.injEq] at hid''
      exact hid''
    rw [← hsame]
    exact ⟨{ s with session := u }, onSession_ok s _ returned u hu, hcommitted, hclosed⟩
  | error e u hu h =>
    rcases h with ⟨_, hnone⟩ | ⟨n, l, w, w', hrefused⟩
    · exact absurd hheld (hnone checkpointId)
    · rw [hdb n l w w'] at hrefused
      cases hrefused

/-- The end of a slot: a commit, and the evaluation, which leaves a transaction open. -/
theorem evaluate_ok (hdb : runner.db.backend.Accepts) (environment : History → JudgeEnvironment)
    (libraries : JudgeLibraries)
    (hevaluate : runner.runEvaluation = defaultRunEvaluation runner.db environment libraries)
    (row : AgentRun) (hrow : store.agentRuns.find? runId = some row)
    (hclosed : RunClosed store runId) :
    ∃ t, (do
        onSession commit
        runner.evaluate runId
        return runId : RunnerM String) s = .ok runId t ∧ t.session.inTransaction = true := by
  obtain ⟨linkedRow, hlinkedRow, hid, _⟩ :=
    linked_row s runId regressionRunId scenarioId repetitionIndex store hlinked row hrow
  have hlinkedClosed := linked_runClosed s runId regressionRunId scenarioId repetitionIndex store
    hlinked hclosed
  subst hid
  have hdelivers := delivers_runEvaluation runner.db
    (environment (s.settled.called (.runEvaluation linkedRow.runId
      s.settled.session.committed)).toHistory)
    (allEvaluators libraries) s.session.committed linkedRow hlinkedRow hlinkedClosed
    s.settled.session hlinked.view
  obtain ⟨response, u, hu, hopen⟩ := delivers_accepted _ hdb _ _ _ hdelivers
  have hevaluated := evaluate_of_ok runner s.settled linkedRow.runId u (by
    rw [hevaluate]
    exact bind_of_ok _ _ _ u response hu)
  refine ⟨{ s.settled.called (.runEvaluation linkedRow.runId s.settled.session.committed) with
    session := u }, ?_, hopen⟩
  rw [bind_of_ok _ _ s s.settled () rfl, bind_of_ok _ _ s.settled _ () hevaluated]
  rfl

end Linkage

end Steps

/-! ### The first slot -/

section Snapshot
variable (event : ExtendedRunEvent) (now : Timestamp) (store store' : Store)
  (hi : Ingested event now store store') (huntouched : Untouched store event.runId)

include hi huntouched

theorem untouched_agentRun :
    store'.agentRuns.find? event.runId =
      some (withUsageTotals store' (agentRunValues event now)) := by
  have hrow := hi.agentRun
  rw [huntouched.agentRun, Option.elim_none] at hrow
  exact hrow

/-- The only tool calls of the run are the event's. -/
theorem untouched_submitCount (h : ∀ call ∈ event.toolCalls, call.toolName ≠ "submit_work_order") :
    submitCount event.runId store' = 0 := by
  unfold submitCount
  rw [List.length_eq_zero_iff, List.filter_eq_nil_iff]
  intro call hm hsubmitted
  obtain ⟨hrun, hname⟩ := of_decide_eq_true hsubmitted
  have hfind := (store'.toolCalls.find?_eq_some_iff call.key call).mpr ⟨hm, rfl⟩
  by_cases hk : ∃ child ∈ event.toolCalls, call.key = (event.runId, child.toolCallId)
  · obtain ⟨child, hchild, hkey⟩ := hk
    obtain ⟨row, hrow, hvalues, _⟩ := hi.toolCalls child hchild
    rw [hkey, hrow, Option.some.injEq] at hfind
    have htool : row.toolName = child.toolName := congrArg Db.ToolCall.toolName hvalues
    rw [hfind] at htool
    exact h child hchild (htool.symm.trans hname)
  · have hother : ∀ child ∈ event.toolCalls, call.key ≠ (event.runId, child.toolCallId) :=
      fun child hchild hkey => hk ⟨child, hchild, hkey⟩
    rw [hi.otherToolCalls call.key hother] at hfind
    exact huntouched.toolCalls call (Table.mem_of_find? _ _ call hfind) hrun

/-- A pending event at a checkpoint, ingested and linked, holds the gate. -/
theorem untouched_gateHeld (hstate : event.hitl.state = .pending)
    (hsubmit : ∀ call ∈ event.toolCalls, call.toolName ≠ "submit_work_order")
    (checkpointId : String) (hcheckpoint : event.hitl.checkpointId = some checkpointId)
    (hne : checkpointId ≠ "") (s : RunnerState) (regressionRunId : ℕ) (scenarioId : String)
    (repetitionIndex : ℕ)
    (hlinked : Linked event.runId regressionRunId scenarioId repetitionIndex store' s.session) :
    GateHeld event.runId checkpointId s.session.committed where
  nonempty := hne
  pending := by
    have hrow := untouched_agentRun event now store store' hi huntouched
    obtain ⟨row, hfind, _, hrowState, hrowCheckpoint⟩ := linked_row s event.runId regressionRunId
      scenarioId repetitionIndex store' hlinked _ hrow
    exact ⟨row, hfind, hrowState.trans hstate, hrowCheckpoint.trans hcheckpoint⟩
  unsubmitted := by
    obtain ⟨now, hcommitted⟩ := hlinked.committed
    have hcount := untouched_submitCount event _ store store' hi huntouched hsubmit
    rw [hcommitted]
    exact hcount

end Snapshot

section Slot
variable (runner : RegressionRunner) (hdb : runner.db.backend.Accepts)
  (hingest : runner.ingestRunEvent = defaultIngestRunEvent runner.db)
  (regressionRunId repetitionIndex : ℕ)

include hdb hingest

/-- A snapshot the guard lets through is ingested and linked. -/
theorem snapshot_ok (scenarioId runId : String) (event : ExtendedRunEvent) (hv : Validated event)
    (s : RunnerState) (hs : s.session.inTransaction = false)
    (hguard : pendingAfterTerminal (withRunId event runId) s.session.committed = .ok ()) :
    ∃ t u now store, runner.ingest (withRunId event runId) s = .ok () t ∧
      runner.link runId regressionRunId scenarioId repetitionIndex t = .ok () u ∧
      Ingested (withRunId event runId) now s.session.committed store ∧
      Linked runId regressionRunId scenarioId repetitionIndex store u.session := by
  have hv' : Validated (withRunId event runId) := hv
  have hchildren := ((validated_iff _).mp hv').1
  obtain ⟨t, ht, hclosed, now, hi⟩ := ingest_ok runner s hingest (withRunId event runId) hdb
    hchildren hs hguard
  have hview := view_of_closed t.session hclosed
  have hagentRun := hi.agentRun
  have hrow : (t.session.view.agentRuns.find? runId).isSome := by
    rw [hview]
    exact Option.isSome_of_eq_some hagentRun
  obtain ⟨u, hu, hlinked⟩ := link_ok runner t runId regressionRunId scenarioId repetitionIndex hdb
    hrow
  rw [hview] at hlinked
  exact ⟨t, u, now, t.session.committed, ht, hu, hi, hlinked⟩

variable (scenarioIds : List String) (htarget : HealthyTarget runner.target scenarioIds)
  (contract : ScenarioContract) (hmem : contract.scenarioId ∈ scenarioIds)
  (hload : loadScenarioContract contract.scenarioId = .ok contract)
  (s : RunnerState) (hs : s.session.inTransaction = false)
  (huntouched : Untouched s.session.committed
    (regressionRunEventId regressionRunId contract.scenarioId repetitionIndex))

include htarget hmem hload hs huntouched

/-- What every slot begins with: an event of the target, ingested and linked. -/
theorem dispatched_ok :
    ∃ event t0 t1 t2 now store, runner.runScenario contract s = .ok event t0 ∧
      runner.ingest (withRunId event
        (regressionRunEventId regressionRunId contract.scenarioId repetitionIndex)) t0 =
          .ok () t1 ∧
      runner.link (regressionRunEventId regressionRunId contract.scenarioId repetitionIndex)
        regressionRunId contract.scenarioId repetitionIndex t1 = .ok () t2 ∧
      (∃ history, runner.target.runScenario history contract = .ok event) ∧
      Ingested (withRunId event
        (regressionRunEventId regressionRunId contract.scenarioId repetitionIndex)) now
        s.session.committed store ∧
      Linked (regressionRunEventId regressionRunId contract.scenarioId repetitionIndex)
        regressionRunId contract.scenarioId repetitionIndex store t2.session := by
  have hanswers := htarget.dispatched contract.scenarioId hmem contract hload
  obtain ⟨event, t0, h0, hsession, hanswer, hreply⟩ := runScenario_ok runner s contract _ hanswers
  rw [← hsession] at hs huntouched ⊢
  obtain ⟨t1, t2, now, store, h1, h2, hi, hlinked⟩ := snapshot_ok runner hdb hingest
    regressionRunId repetitionIndex contract.scenarioId
    (regressionRunEventId regressionRunId contract.scenarioId repetitionIndex) event
    hanswer.1 t0 hs (pendingAfterTerminal_new _ _ huntouched.agentRun)
  exact ⟨event, t0, t1, t2, now, store, h0, h1, h2, hreply, hi, hlinked⟩

variable (environment : History → JudgeEnvironment) (libraries : JudgeLibraries)
  (hevaluate : runner.runEvaluation = defaultRunEvaluation runner.db environment libraries)

include hevaluate

theorem runOne_ok (hflow : requiresHitlFlow contract = false) :
    ∃ t, runner.runOne regressionRunId contract repetitionIndex s =
        .ok (regressionRunEventId regressionRunId contract.scenarioId repetitionIndex) t ∧
      t.session.inTransaction = true := by
  obtain ⟨event, t0, t1, t2, now, store, h0, h1, h2, _, hi, hlinked⟩ := dispatched_ok runner hdb
    hingest regressionRunId repetitionIndex scenarioIds htarget contract hmem hload s hs huntouched
  have hrow := untouched_agentRun _ now _ store hi huntouched
  have hclosed := ingest_runClosed _ now _ store hi _ (untouched_runClosed _ _ huntouched)
  obtain ⟨t3, h3, hopen⟩ := evaluate_ok runner t2 _ regressionRunId contract.scenarioId
    repetitionIndex store hlinked hdb environment libraries hevaluate _ hrow hclosed
  refine ⟨t3, ?_, hopen⟩
  unfold RegressionRunner.runOne
  simp only [hflow, Bool.false_eq_true, if_false]
  rw [bind_of_ok _ _ s t0 event h0, bind_of_ok _ _ t0 t1 () h1]
  exact (bind_of_ok _ _ t1 t2 () h2).trans h3

theorem runOneHitl_ok (hflow : requiresHitlFlow contract = true) :
    ∃ t, runner.runOneHitl regressionRunId contract repetitionIndex s =
        .ok (regressionRunEventId regressionRunId contract.scenarioId repetitionIndex) t ∧
      t.session.inTransaction = true := by
  obtain ⟨event, t0, t1, t2, now, store, h0, h1, h2, ⟨history, hreply⟩, hi, hlinked⟩ :=
    dispatched_ok runner hdb hingest regressionRunId repetitionIndex scenarioIds htarget contract
      hmem hload s hs huntouched
  obtain ⟨hpending, hsubmit, checkpointId, hcheckpoint, hne, hresumed⟩ :=
    htarget.pending contract.scenarioId hmem contract hload hflow history event hreply
  have hrow := untouched_agentRun _ now _ store hi huntouched
  have hclosed := ingest_runClosed _ now _ store hi _ (untouched_runClosed _ _ huntouched)
  have hheld := untouched_gateHeld _ now _ store hi huntouched hpending hsubmit checkpointId
    hcheckpoint hne t2 regressionRunId contract.scenarioId repetitionIndex hlinked
  have hlinkedClosed := linked_runClosed t2 _ regressionRunId contract.scenarioId repetitionIndex
    store hlinked hclosed
  obtain ⟨t3, h3, hcommitted, hclosed3⟩ := gate_ok runner t2 _ regressionRunId contract.scenarioId
    repetitionIndex store hlinked hdb _ hrow checkpointId hheld
  obtain ⟨reply, t4, h4, hsession, hanswer, happroved⟩ :=
    resumeAfterApproval_ok runner t3 checkpointId _ hresumed
  rw [← hsession] at hclosed3 hcommitted
  have hguard : pendingAfterTerminal (withRunId reply (regressionRunEventId regressionRunId
      contract.scenarioId repetitionIndex)) t4.session.committed = .ok () := by
    simp [pendingAfterTerminal, withRunId, happroved]
  obtain ⟨t5, t6, now', store', h5, h6, hi', hlinked'⟩ := snapshot_ok runner hdb hingest
    regressionRunId repetitionIndex contract.scenarioId
    (regressionRunEventId regressionRunId contract.scenarioId repetitionIndex) reply
    hanswer.1 t4 hclosed3 hguard
  rw [← hcommitted] at hlinkedClosed
  have hclosed' := ingest_runClosed _ now' _ store' hi' _ hlinkedClosed
  obtain ⟨t7, h7, hopen⟩ := evaluate_ok runner t6 _ regressionRunId contract.scenarioId
    repetitionIndex store' hlinked' hdb environment libraries hevaluate _ hi'.agentRun hclosed'
  refine ⟨t7, ?_, hopen⟩
  unfold RegressionRunner.runOneHitl
  rw [bind_of_ok _ _ s t0 event h0, bind_of_ok _ _ t0 t1 () h1, bind_of_ok _ _ t1 t2 () h2,
    bind_of_ok _ _ t2 t3 checkpointId h3, bind_of_ok _ _ t3 t4 reply h4,
    bind_of_ok _ _ t4 t5 () h5, bind_of_ok _ _ t5 t6 () h6]
  exact h7

/-- The first slot succeeds and leaves its transaction open. -/
theorem firstSlot_ok :
    ∃ t, runner.runOne regressionRunId contract repetitionIndex s =
        .ok (regressionRunEventId regressionRunId contract.scenarioId repetitionIndex) t ∧
      t.session.inTransaction = true := by
  cases hflow : requiresHitlFlow contract with
  | true =>
    obtain ⟨t, ht, hopen⟩ := runOneHitl_ok runner hdb hingest regressionRunId repetitionIndex
      scenarioIds htarget contract hmem hload s hs huntouched environment libraries hevaluate hflow
    refine ⟨t, ?_, hopen⟩
    unfold RegressionRunner.runOne
    rw [if_pos hflow]
    exact ht
  | false =>
    exact runOne_ok runner hdb hingest regressionRunId repetitionIndex scenarioIds htarget contract
      hmem hload s hs huntouched environment libraries hevaluate hflow

end Slot

/-! ### The slots after it -/

/-- On a session with a transaction, a slot raises. -/
theorem openSlot_raises (runner : RegressionRunner)
    (hingest : runner.ingestRunEvent = defaultIngestRunEvent runner.db)
    (regressionRunId repetitionIndex : ℕ) (contract : ScenarioContract) (s : RunnerState)
    (hs : s.session.inTransaction = true) :
    Ends (runner.runOne regressionRunId contract repetitionIndex) s (fun _ _ => False)
      fun _ _ => True := by
  have hdispatched : Ends (runner.runScenario contract) s
      (fun _ t => t.session.inTransaction = true) fun _ _ => True := by
    apply ends_mono _ _ _ _ _ _ (runScenario_ends runner s contract)
    · intro _ t ht
      rw [ht.2]
      exact hs
    · intro _ _ _
      trivial
  unfold RegressionRunner.runOne
  cases requiresHitlFlow contract with
  | true =>
    apply ends_bind _ _ s _ _ _ hdispatched
    intro event t ht
    exact ends_bind _ _ t _ _ _ (ingest_open runner t hingest _ ht) fun _ _ h => h.elim
  | false =>
    apply ends_bind _ _ s _ _ _ hdispatched
    intro event t ht
    exact ends_bind _ _ t _ _ _ (ingest_open runner t hingest _ ht) fun _ _ h => h.elim

def Slot.runId (regressionRunId : ℕ) (slot : Slot) : String :=
  regressionRunEventId regressionRunId slot.scenarioId slot.repetitionIndex

/-- How far a healthy regression has come: nothing done on a session without a
transaction, one slot done and its transaction open, or an error recorded. -/
structure Stalling (regressionRunId : ℕ) (all done : List Slot)
    (progress : RegressionRunner.Progress) (state : RunnerState) : Prop where
  start : done = [] → progress = ⟨[], []⟩ ∧ state.session.inTransaction = false ∧
    ∀ slot ∈ all, Untouched state.session.committed (slot.runId regressionRunId)
  first : done.length = 1 → progress.createdRunIds.length = 1 ∧ progress.errors = [] ∧
    state.session.inTransaction = true
  rest : 2 ≤ done.length → progress.errors ≠ []

section Run
variable (runner : RegressionRunner) (hdb : runner.db.backend.Accepts)
  (hingest : runner.ingestRunEvent = defaultIngestRunEvent runner.db)
  (environment : History → JudgeEnvironment) (libraries : JudgeLibraries)
  (hevaluate : runner.runEvaluation = defaultRunEvaluation runner.db environment libraries)

include hdb hingest hevaluate

theorem slotKeeps_stalling (scenarioIds : List String)
    (htarget : HealthyTarget runner.target scenarioIds) (regressionRunId : ℕ) (all : List Slot)
    (scenarioId : String) (hmem : scenarioId ∈ scenarioIds) (contract : ScenarioContract)
    (hload : loadScenarioContract scenarioId = .ok contract) :
    SlotKeeps runner regressionRunId all (Stalling regressionRunId all)
      (fun _ _ => 2 ≤ all.length) scenarioId contract := by
  have hid := loadScenarioContract_id scenarioId contract hload
  subst hid
  intro repetitionIndex done progress state hall h
  have hlength : done.length + 1 ≤ all.length := by
    have hle := hall.length_le
    rw [List.length_append, List.length_singleton] at hle
    exact hle
  by_cases hnone : done = []
  · obtain ⟨hprogress, hclosed, huntouched⟩ := h.start hnone
    have hslot : (⟨contract.scenarioId, repetitionIndex⟩ : Slot) ∈ all :=
      hall.subset (List.mem_append_right done List.mem_cons_self)
    have hfirst := huntouched ⟨contract.scenarioId, repetitionIndex⟩ hslot
    obtain ⟨t, ht, hopen⟩ := firstSlot_ok runner hdb hingest regressionRunId repetitionIndex
      scenarioIds htarget contract hmem hload (started state) hclosed hfirst environment libraries
      hevaluate
    have hrun := runRepetition_of_ok runner regressionRunId contract.scenarioId contract
      repetitionIndex state t _ ht
    apply ends_of_ok _ _ _ _ _ _ hrun
    subst hnone hprogress
    refine ⟨?_, ?_, ?_⟩
    · intro hempty
      simp at hempty
    · intro _
      exact ⟨rfl, rfl, hopen⟩
    · intro hle
      simp at hle
  · have hpositive : 1 ≤ done.length := List.length_pos_of_ne_nil hnone
    have hmany : 2 ≤ all.length := by omega
    have hstall (outcome : Except RegressionRunError String) (t : RunnerState)
        (herrors : (progress.append outcome).errors ≠ []) :
        Stalling regressionRunId all (done ++ [⟨contract.scenarioId, repetitionIndex⟩])
          (progress.append outcome) t := by
      refine ⟨?_, ?_, fun _ => herrors⟩
      · intro hempty
        simp at hempty
      · intro hone
        rw [List.length_append, List.length_singleton] at hone
        omega
    by_cases hone : done.length = 1
    · obtain ⟨_, _, hopen⟩ := h.first hone
      have hraises := openSlot_raises runner hingest regressionRunId repetitionIndex contract
        (started state) hopen
      apply runRepetition_ends runner regressionRunId contract.scenarioId contract repetitionIndex
        state _ _ _ _ hraises
      · intro _ _ hfalse
        exact hfalse.elim
      · intro e t _ _
        apply hstall
        exact List.append_ne_nil_of_right_ne_nil _ (List.cons_ne_nil _ _)
      · intro _ _ _ _ _ _ _ _
        exact hmany
      · intro _ _ _ _ _ _ _ _
        exact hmany
    · have herrors : progress.errors ≠ [] := h.rest (by omega)
      apply ends_always
      · intro outcome t
        apply hstall
        cases outcome with
        | ok _ => exact herrors
        | error _ => exact List.append_ne_nil_of_left_ne_nil herrors _
      · intro _ _
        exact hmany

theorem healthy_ends (row : RegressionRun) (htarget : HealthyTarget runner.target row.scenarioIds)
    (hknown : ∀ scenarioId ∈ row.scenarioIds, KnownScenario scenarioId) (state : RunnerState)
    (hrow : state.session.view.regressionRuns.find? row.id = some row)
    (huntouched : ∀ slot ∈ slots row.scenarioIds row.repetitions,
      Untouched state.session.view (slot.runId row.id)) :
    Ends (runner.run row.id) state
      (fun result _ =>
        (row.scenarioIds.length * row.repetitions ≤ 1 → result.errors = [] ∧
          result.createdRunIds.length = row.scenarioIds.length * row.repetitions) ∧
        (2 ≤ row.scenarioIds.length * row.repetitions → result.errors ≠ []))
      fun _ _ => 2 ≤ row.scenarioIds.length * row.repetitions := by
  have hlength := slots_length row.scenarioIds row.repetitions
  have haccepted (e : Error) : ¬ RefusesRunner runner.db e := by
    intro hrefused
    obtain ⟨n, l, w, w', _, hv⟩ := hrefused
    rw [hdb n l w w'] at hv
    cases hv
  have hrun := run_ends runner row.id
    (Stalling row.id (slots row.scenarioIds row.repetitions))
    (fun _ _ => 2 ≤ (slots row.scenarioIds row.repetitions).length) state row hrow ?_ ?_ ?_ ?_ ?_
  · rw [hlength] at hrun
    apply ends_mono _ _ _ _ _ _ hrun
    · intro result t hreturned
      obtain ⟨_, _, mid, _, hmid, _⟩ := hreturned
      rw [← hlength]
      constructor
      · intro hsmall
        by_cases hnone : slots row.scenarioIds row.repetitions = []
        · have hprogress := (hmid.start hnone).1
          have hcreated := congrArg RegressionRunner.Progress.createdRunIds hprogress
          have herrors := congrArg RegressionRunner.Progress.errors hprogress
          simp only at hcreated herrors
          rw [hnone, hcreated, herrors]
          exact ⟨rfl, rfl⟩
        · have hpositive := List.length_pos_of_ne_nil hnone
          have hone : (slots row.scenarioIds row.repetitions).length = 1 := by omega
          obtain ⟨hcreated, herrors, _⟩ := hmid.first hone
          rw [hone]
          exact ⟨herrors, hcreated⟩
      · exact hmid.rest
    · intro _ _ h
      exact h
  · intro scenarioId hmem contract hload
    exact slotKeeps_stalling runner hdb hingest environment libraries hevaluate row.scenarioIds
      htarget row.id _ scenarioId hmem contract hload
  · intro scenarioId hmem e hload
    exact absurd (hknown scenarioId hmem) (unknown_of_load_error scenarioId e hload)
  · intro session now hclosed hcommitted
    refine ⟨?_, ?_, ?_⟩
    · intro _
      refine ⟨rfl, hclosed, ?_⟩
      intro slot hslot
      have hslotUntouched := huntouched slot hslot
      show Untouched session.committed _
      rw [hcommitted]
      exact ⟨hslotUntouched.agentRun, hslotUntouched.spans, hslotUntouched.toolCalls,
        hslotUntouched.llmCalls⟩
    · intro hone
      cases hone
    · intro hle
      cases hle
  · intro e session hrefused _
    exact absurd hrefused (haccepted e)
  · intro e progress mid session hrefused _ _
    exact absurd hrefused (haccepted e)

end Run

/-! ### Every slot or not -/

/-- The run returns, with no error and a created run for every slot. -/
def CreatesEverySlot (runner : RegressionRunner) (row : RegressionRun) (state : RunnerState) :
    Prop :=
  ∃ result t, runner.run row.id state = .ok result t ∧ result.errors = [] ∧
    result.createdRunIds.length = row.scenarioIds.length * row.repetitions

/-- A healthy regression of known scenarios, nothing stored yet of its slots, creates every
slot exactly when it has at most one. -/
theorem healthy_iff_single (runner : RegressionRunner) (hdb : runner.db.backend.Accepts)
    (hingest : runner.ingestRunEvent = defaultIngestRunEvent runner.db)
    (environment : History → JudgeEnvironment) (libraries : JudgeLibraries)
    (hevaluate : runner.runEvaluation = defaultRunEvaluation runner.db environment libraries)
    (row : RegressionRun) (htarget : HealthyTarget runner.target row.scenarioIds)
    (hknown : ∀ scenarioId ∈ row.scenarioIds, KnownScenario scenarioId) (state : RunnerState)
    (hrow : state.session.view.regressionRuns.find? row.id = some row)
    (huntouched : ∀ slot ∈ slots row.scenarioIds row.repetitions,
      Untouched state.session.view (slot.runId row.id)) :
    CreatesEverySlot runner row state ↔ row.scenarioIds.length * row.repetitions ≤ 1 := by
  have hends := healthy_ends runner hdb hingest environment libraries hevaluate row htarget hknown
    state hrow huntouched
  constructor
  · intro hcreates
    obtain ⟨result, t, hr, herrors, _⟩ := hcreates
    by_contra hmany
    have hfailed := (ends_returns _ _ _ _ _ _ hends hr).2 (by omega)
    exact hfailed herrors
  · intro hsingle
    cases hends with
    | ok result t hr h => exact ⟨result, t, hr, h.1 hsingle⟩
    | error e t hr h => omega

/- A mocked target whose events name their scenarios. -/
def healthyTarget : AgentTarget :=
  mockedAgentTarget
    [("GS-01", { successEvent "mock" with scenarioId := some "GS-01" }),
      ("GS-08", { pendingEvent "mock" with scenarioId := some "GS-08" })]
    [("GS-08", { approvedEvent "mock" with scenarioId := some "GS-08" })]

def healthyRunner : RegressionRunner :=
  defaultRunner .plain healthyTarget (fun _ => noJudge) noLibraries

theorem healthyTarget_healthy : HealthyTarget healthyTarget ["GS-01", "GS-08"] where
  dispatched := by
    intro scenarioId hmem contract hload history
    simp only [List.mem_cons, List.not_mem_nil, or_false] at hmem
    rcases hmem with rfl | rfl
    · have hcontract : contract = gs01 := (Except.ok.inj hload).symm
      subst hcontract
      exact ⟨_, rfl, successEvent_validated "mock", rfl⟩
    · have hcontract : contract = gs08 := (Except.ok.inj hload).symm
      subst hcontract
      exact ⟨_, rfl, pendingEvent_validated "mock", rfl⟩
  pending := by
    intro scenarioId hmem contract hload hflow history event hevent
    simp only [List.mem_cons, List.not_mem_nil, or_false] at hmem
    rcases hmem with rfl | rfl
    · have hcontract : contract = gs01 := (Except.ok.inj hload).symm
      subst hcontract
      cases hflow
    · have hcontract : contract = gs08 := (Except.ok.inj hload).symm
      subst hcontract
      cases hevent
      refine ⟨rfl, by decide, "checkpoint-1", rfl, by decide, ?_⟩
      intro history'
      exact ⟨_, rfl, ⟨approvedEvent_validated "mock", rfl⟩, rfl⟩

theorem healthyTarget_mono (target : AgentTarget) (scenarioIds scenarioIds' : List String)
    (hsubset : scenarioIds' ⊆ scenarioIds) (h : HealthyTarget target scenarioIds) :
    HealthyTarget target scenarioIds' where
  dispatched := fun scenarioId hmem => h.dispatched scenarioId (hsubset hmem)
  pending := fun scenarioId hmem => h.pending scenarioId (hsubset hmem)

theorem sampleState_untouched (regression : RegressionRun) (runId : String) :
    Untouched (sampleState regression).session.view runId where
  agentRun := rfl
  spans := fun _ hm => absurd hm List.not_mem_nil
  toolCalls := fun _ hm => absurd hm List.not_mem_nil
  llmCalls := fun _ hm => absurd hm List.not_mem_nil

theorem healthy_iff_single_gated :
    CreatesEverySlot healthyRunner (sampleRegression ["GS-08"] 1)
      (sampleState (sampleRegression ["GS-08"] 1)) := by
  have htarget := healthyTarget_mono _ _ ["GS-08"] (by decide) healthyTarget_healthy
  exact (healthy_iff_single healthyRunner plain_accepts rfl _ _ rfl (sampleRegression ["GS-08"] 1)
    htarget (by decide) _ (sampleState_row _ _) fun _ _ => sampleState_untouched _ _).mpr (by decide)

/- The error types a run returned. -/
def returnedErrors : EStateM.Result Error RunnerState RegressionRunnerResult → List String
  | .ok result _ => result.errors.map RegressionRunError.errorType
  | .error _ _ => []

/-- Two scenarios, twice each: every second slot finds a transaction open. -/
theorem healthy_twoByTwo_fails :
    healthyRunner.db.backend.Accepts ∧
    HealthyTarget healthyRunner.target twoByTwo.scenarioIds ∧
    twoByTwo.scenarioIds.Nodup ∧ (∀ scenarioId ∈ twoByTwo.scenarioIds, KnownScenario scenarioId) ∧
    (∀ slot ∈ slots twoByTwo.scenarioIds twoByTwo.repetitions,
      Untouched (sampleState twoByTwo).session.view (slot.runId 1)) ∧
    ¬ CreatesEverySlot healthyRunner twoByTwo (sampleState twoByTwo) := by
  have hrun : returnedErrors (healthyRunner.run 1 (sampleState twoByTwo)) =
      ["InvalidRequestError", "InvalidRequestError"] := by decide +kernel
  refine ⟨plain_accepts, healthyTarget_healthy, by decide, by decide,
    fun _ _ => sampleState_untouched _ _, ?_⟩
  intro hcreates
  obtain ⟨result, t, hr, herrors, _⟩ := hcreates
  have hr' : healthyRunner.run 1 (sampleState twoByTwo) = .ok result t := hr
  rw [hr', returnedErrors, herrors] at hrun
  cases hrun

end ObsPlatform.Regressions
