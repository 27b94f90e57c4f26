import ObsPlatform.Platform.EventVerdict
import ObsPlatform.Regressions.Alternating
import ObsPlatform.Regressions.Resumed
import ObsPlatform.Regressions.Slices

/-!
# What a regression measures

The figures of a healthy regression are those of the events its target answered with. Each
created run holds the verdict of the event it was restated by, later slots leave it alone, and
the aggregation counts these verdicts and no others.
-/

namespace ObsPlatform.Regressions

open Telemetry Db UnitOfWork Evaluation Stateful Platform Ingestion
open Routes (JudgedRun judgedRuns)

/-! ### The answers of a target -/

/-- The target's last event for a slot of the scenario. -/
inductive AnswersWith (target : AgentTarget) (scenarioId : String) (event : ExtendedRunEvent) :
    Prop where
  | completed (contract : ScenarioContract) (hload : loadScenarioContract scenarioId = .ok contract)
      (hflow : requiresHitlFlow contract = false) (history : History)
      (h : target.runScenario history contract = .ok event)
  | resumed (contract : ScenarioContract) (hload : loadScenarioContract scenarioId = .ok contract)
      (hflow : requiresHitlFlow contract = true) (history history' : History)
      (pending : ExtendedRunEvent) (checkpointId : String)
      (hpending : target.runScenario history contract = .ok pending)
      (hcheckpoint : pending.hitl.checkpointId = some checkpointId)
      (h : target.resumeAfterApproval history' checkpointId "approve" = .ok event)

/-- Every child of the earlier event is named again. -/
structure RestatedBy (earlier event : ExtendedRunEvent) : Prop where
  spans : ∀ span ∈ earlier.spans, ∃ span' ∈ event.spans, span.spanId = span'.spanId
  toolCalls : ∀ toolCall ∈ earlier.toolCalls, ∃ toolCall' ∈ event.toolCalls,
    toolCall.toolCallId = toolCall'.toolCallId

/-- A resumed run is restated in full, carried-over children under their ids. -/
def RestatesRuns (target : AgentTarget) (scenarioIds : List String) : Prop :=
  ∀ scenarioId ∈ scenarioIds, ∀ contract, loadScenarioContract scenarioId = .ok contract →
    requiresHitlFlow contract = true → ∀ history pending,
    target.runScenario history contract = .ok pending → ∀ history' checkpointId event,
    target.resumeAfterApproval history' checkpointId "approve" = .ok event →
      RestatedBy pending event

section Restated
variable (store store' : Store) (event : ExtendedRunEvent) (now : Timestamp)

theorem untouched_restates (h : Untouched store event.runId) : Restates store event where
  spans := fun row hm hrun => absurd hrun (h.spans row hm)
  toolCalls := fun row hm hrun => absurd hrun (h.toolCalls row hm)

/-- After the first event of a run its rows are the event's children. -/
theorem restatedBy_restates (hi : Ingested event now store store')
    (h : Untouched store event.runId) (reply : ExtendedRunEvent)
    (hid : reply.runId = event.runId) (hrestated : RestatedBy event reply) :
    Restates store' reply where
  spans := by
    intro row hm hrun
    rw [hid] at hrun
    by_contra hnone
    have hother : ∀ span ∈ event.spans, Db.Span.key row ≠ (event.runId, span.spanId) := by
      intro span hspan hkey
      obtain ⟨span', hspan', hsame⟩ := hrestated.spans span hspan
      exact hnone ⟨span', hspan', (congrArg Prod.snd hkey).trans hsame⟩
    have hrow := (store'.spans.toTable.find?_eq_some_iff row.key row).mpr ⟨hm, rfl⟩
    rw [hi.otherSpans row.key hother] at hrow
    exact h.spans row (Table.mem_of_find? _ _ row hrow) hrun
  toolCalls := by
    intro row hm hrun
    rw [hid] at hrun
    by_contra hnone
    have hother : ∀ toolCall ∈ event.toolCalls,
        Db.ToolCall.key row ≠ (event.runId, toolCall.toolCallId) := by
      intro toolCall hcall hkey
      obtain ⟨toolCall', hcall', hsame⟩ := hrestated.toolCalls toolCall hcall
      exact hnone ⟨toolCall', hcall', (congrArg Prod.snd hkey).trans hsame⟩
    have hrow := (store'.toolCalls.find?_eq_some_iff row.key row).mpr ⟨hm, rfl⟩
    rw [hi.otherToolCalls row.key hother] at hrow
    exact h.toolCalls row (Table.mem_of_find? _ _ row hrow) hrun

end Restated

/-! ### The last snapshot of a slot -/

/-- The event ingested last. -/
def lastIngested (calls : List Call) : Option ExtendedRunEvent :=
  (calls.filterMap fun call =>
    match call with
    | .ingested event => some event
    | _ => none).getLast?

/-- One of the attempts is of the slot and ended with this answer, under the slot's run id. -/
def AttemptedWith (regressionRunId : ℕ) (attempts : List Attempt) (slot : Slot)
    (event : ExtendedRunEvent) : Prop :=
  ∃ attempt ∈ attempts, attempt.slot = slot ∧
    lastIngested attempt.calls = some (withRunId event (slot.runId regressionRunId))

theorem attemptedWith_append (regressionRunId : ℕ) (attempts later : List Attempt) (slot : Slot)
    (event : ExtendedRunEvent) (h : AttemptedWith regressionRunId attempts slot event) :
    AttemptedWith regressionRunId (attempts ++ later) slot event := by
  obtain ⟨attempt, hm, h⟩ := h
  exact ⟨attempt, List.mem_append_left _ hm, h⟩

section Last
variable (runner : RegressionRunner) (s t : RunnerState)

theorem onSession_history {α : Type} (x : SessionM α) (a : α) (h : onSession x s = .ok a t) :
    t.toHistory = s.toHistory := by
  have hkept := preserves_history (fun history => history = s.toHistory) x s rfl
  rw [after_ok _ _ _ _ h] at hkept
  exact hkept

theorem ingest_last (event : ExtendedRunEvent) (h : runner.ingest event s = .ok () t) :
    lastIngested t.calls = some event := by
  obtain ⟨_, u, hget, h⟩ := (bind_returns _ _ s t ()).mp h
  cases hget
  obtain ⟨_, v, _, h⟩ := (bind_returns _ _ s t ()).mp h
  cases h
  show lastIngested (v.calls ++ [.ingested event]) = some event
  simp [lastIngested]

theorem link_last (runId : String) (regressionRunId : ℕ) (scenarioId : String)
    (repetitionIndex : ℕ)
    (h : runner.link runId regressionRunId scenarioId repetitionIndex s = .ok () t) :
    lastIngested t.calls = lastIngested s.calls := by
  obtain ⟨_, u, hlinked, h⟩ := (bind_returns _ _ s t ()).mp h
  have hcalls := congrArg History.calls (onSession_history s u _ _ hlinked)
  obtain ⟨_, v, hget, h⟩ := (bind_returns _ _ u t ()).mp h
  cases hget
  cases h
  show lastIngested (u.calls ++ [.linked u.session.committed]) = lastIngested s.calls
  rw [show u.calls = s.calls from hcalls]
  simp [lastIngested]

theorem evaluate_last (runId : String) (h : runner.evaluate runId s = .ok () t) :
    lastIngested t.calls = lastIngested s.calls := by
  obtain ⟨_, u, hget, h⟩ := (bind_returns _ _ s t ()).mp h
  cases hget
  obtain ⟨_, v, hrecord, h⟩ := (bind_returns _ _ s t ()).mp h
  cases hrecord
  obtain ⟨_, w, hget, h⟩ := (bind_returns _ _ _ t ()).mp h
  cases hget
  have hcalls := congrArg History.calls (onSession_history _ t _ _ h)
  rw [show t.calls = s.calls ++ [.runEvaluation runId s.session.committed] from hcalls]
  simp [lastIngested]

/-- The end of a slot ingests nothing. -/
theorem ending_last (runId childRunId : String)
    (h : (do
      onSession commit
      runner.evaluate runId
      return runId : RunnerM String) s = .ok childRunId t) :
    lastIngested t.calls = lastIngested s.calls := by
  obtain ⟨_, u, hcommit, h⟩ := (bind_returns _ _ s t childRunId).mp h
  have hcalls := congrArg History.calls (onSession_history s u _ _ hcommit)
  obtain ⟨_, v, hevaluated, h⟩ := (bind_returns _ _ u t childRunId).mp h
  cases h
  rw [evaluate_last runner u t runId hevaluated]
  exact congrArg lastIngested hcalls

end Last

/-! ### One slot -/

def slotVerdict (regressionRunId : ℕ) (slot : Slot) (event : ExtendedRunEvent) : RunFailureResult :=
  verdictOf (eventView (withRunId event (slot.runId regressionRunId))) .skipped .skipped

/-- The run of the slot is linked and holds the verdict of an event the target answered with. -/
structure Measured (target : AgentTarget) (regressionRunId : ℕ) (slot : Slot) (store : Store)
    (event : ExtendedRunEvent) : Prop where
  answered : AnswersWith target slot.scenarioId event
  run : ∃ run, store.agentRuns.find? (slot.runId regressionRunId) = some run ∧
    run.regressionRunId = some regressionRunId ∧ run.scenarioId = some slot.scenarioId
  judged : ∃ failure, store.runFailures.find? (slot.runId regressionRunId) = some failure ∧
    Records failure (slotVerdict regressionRunId slot event)

theorem measured_sameRows (target : AgentTarget) (regressionRunId : ℕ) (slot : Slot)
    (store store' : Store) (event : ExtendedRunEvent)
    (hsame : SameRows (slot.runId regressionRunId) store store')
    (h : Measured target regressionRunId slot store event) :
    Measured target regressionRunId slot store' event where
  answered := h.answered
  run := by
    rw [hsame.agentRun]
    exact h.run
  judged := by
    rw [hsame.runFailure]
    exact h.judged

theorem evaluate_returns (runner : RegressionRunner) (runId : String) (s t : RunnerState)
    (h : runner.evaluate runId s = .ok () t) :
    ∃ history, runner.runEvaluation history runId s.session = .ok () t.session := by
  obtain ⟨_, s1, hget, h⟩ := (bind_returns _ _ s t ()).mp h
  cases hget
  obtain ⟨_, s2, hrecord, h⟩ := (bind_returns _ _ s t ()).mp h
  cases hrecord
  obtain ⟨_, s3, hget, h⟩ := (bind_returns _ _ _ t ()).mp h
  cases hget
  have hends : Ends (runner.runEvaluation
      (s.called (.runEvaluation runId s.session.committed)).toHistory runId) s.session
      (fun _ u => runner.runEvaluation
        (s.called (.runEvaluation runId s.session.committed)).toHistory runId s.session = .ok () u)
      fun _ _ => True := by
    cases hr : runner.runEvaluation
        (s.called (.runEvaluation runId s.session.committed)).toHistory runId s.session with
    | ok _ u => exact .ok () u hr rfl
    | error e u => exact .error e u hr trivial
  exact ⟨_, (ends_returns _ _ t () _ _ (onSession_ends _
    (s.called (.runEvaluation runId s.session.committed)) _ _ hends) h).1⟩

section Evaluate
variable (runner : RegressionRunner) (environment : History → JudgeEnvironment)
  (libraries : JudgeLibraries)
  (hevaluate : runner.runEvaluation = defaultRunEvaluation runner.db environment libraries)
  (hjudge : ∀ history, (environment history).settings.isConfigured = false)
  (event : ExtendedRunEvent) (regressionRunId : ℕ) (scenarioId : String) (repetitionIndex : ℕ)
  (hscenario : event.scenarioId = some scenarioId) (store : Store) (run : AgentRun)
  (hrun : store.agentRuns.find? event.runId = some run)
  (halike : JudgedAlike (eventView event) (storedView store run))

include hscenario hrun halike in
/-- Linkage changes nothing that is judged. -/
theorem linked_judgedAlike (s : DbSession)
    (hlinked : Linked event.runId regressionRunId scenarioId repetitionIndex store s) :
    ∃ linkedRow, s.committed.agentRuns.find? event.runId = some linkedRow ∧
      linkedRow.runId = event.runId ∧ linkedRow.regressionRunId = some regressionRunId ∧
      linkedRow.scenarioId = some scenarioId ∧
      JudgedAlike (eventView event) (storedView s.committed linkedRow) := by
  obtain ⟨now, hcommitted⟩ := hlinked.committed
  have hfind := updateLinkage_find? event.runId regressionRunId scenarioId repetitionIndex now store
    event.runId
  rw [if_pos rfl, hrun, ← hcommitted, Option.map_some] at hfind
  refine ⟨_, hfind, Table.key_of_find? _ _ run hrun, rfl, rfl, ?_, ?_, ?_⟩
  · have hview : storedView s.committed (linkAgentRun regressionRunId scenarioId repetitionIndex now
        run) = { storedView store run with scenarioId := some scenarioId } := by
      rw [hcommitted]
      rfl
    rw [hview, halike.fields, ← hscenario]
    rfl
  · rw [hcommitted]
    exact halike.spans
  · rw [hcommitted]
    exact halike.toolCalls

include hevaluate hjudge hscenario hrun halike in
/-- The end of a slot stores the verdict of the event. -/
theorem evaluate_measured (hclosed : RunClosed store event.runId) (s t : RunnerState)
    (hlinked : Linked event.runId regressionRunId scenarioId repetitionIndex store s.session)
    (childRunId : String)
    (h : (do
      onSession commit
      runner.evaluate event.runId
      return event.runId : RunnerM String) s = .ok childRunId t) :
    t.session.view = t.session.committed ∧
    (∃ run, t.session.committed.agentRuns.find? event.runId = some run ∧
      run.regressionRunId = some regressionRunId ∧ run.scenarioId = some scenarioId) ∧
    ∃ failure, t.session.committed.runFailures.find? event.runId = some failure ∧
      Records failure (verdictOf (eventView event) .skipped .skipped) := by
  obtain ⟨linkedRow, hlinkedRow, hid, hregression, hrowScenario, hjudged⟩ :=
    linked_judgedAlike event regressionRunId scenarioId repetitionIndex hscenario store run hrun
      halike s.session hlinked
  have hlinkedClosed := linked_runClosed s event.runId regressionRunId scenarioId repetitionIndex
    store hlinked hclosed
  obtain ⟨_, u, hcommit, h⟩ := (bind_returns _ _ s t childRunId).mp h
  have hu : u = s.settled := by
    cases hcommit
    rfl
  subst hu
  obtain ⟨_, v, hevaluated, h⟩ := (bind_returns _ _ _ t childRunId).mp h
  cases h
  obtain ⟨history, hevaluated⟩ := evaluate_returns runner event.runId s.settled t hevaluated
  rw [hevaluate] at hevaluated
  obtain ⟨response, w, hresponse, hreturned⟩ := (bind_returns _ _ _ _ _).mp hevaluated
  cases hreturned
  rw [← hid] at hlinkedRow hlinkedClosed hresponse
  obtain ⟨groundedness, uncertainty, failure, hskipped, hfailure, hrecords, _, hsync, hrows⟩ :=
    evaluation_verdict runner.db (environment history) libraries s.session.committed linkedRow
      hlinkedRow hlinkedClosed s.settled.session hlinked.view response t.session hresponse
  obtain ⟨rfl, rfl⟩ := hskipped (hjudge history)
  rw [judgedAlike_verdict _ _ hjudged] at hrecords
  rw [hid] at hfailure hlinkedRow
  exact ⟨hsync, ⟨linkedRow, by rw [hrows]; exact hlinkedRow, hregression, hrowScenario⟩,
    failure, hfailure, hrecords⟩

end Evaluate

theorem withRunId_children (event : ExtendedRunEvent) (h : Validated event) (runId : String) :
    ChildrenConsistent (withRunId event runId) := by
  have hv : Validated (withRunId event runId) := h
  exact ((validated_iff _).mp hv).1

section Slot
variable (runner : RegressionRunner) (hdb : runner.db.backend.Accepts)
  (hingest : runner.ingestRunEvent = defaultIngestRunEvent runner.db)
  (environment : History → JudgeEnvironment) (libraries : JudgeLibraries)
  (hevaluate : runner.runEvaluation = defaultRunEvaluation runner.db environment libraries)
  (hjudge : ∀ history, (environment history).settings.isConfigured = false)
  (scenarioIds : List String) (htarget : HealthyTarget runner.target scenarioIds)
  (hrestates : RestatesRuns runner.target scenarioIds)
  (regressionRunId repetitionIndex : ℕ) (contract : ScenarioContract)
  (hmem : contract.scenarioId ∈ scenarioIds)
  (hload : loadScenarioContract contract.scenarioId = .ok contract)
  (s t : RunnerState) (hs : s.session.inTransaction = false)
  (huntouched : Untouched s.session.committed
    (regressionRunEventId regressionRunId contract.scenarioId repetitionIndex))
  (childRunId : String)

include htarget hmem hload in
theorem dispatched_answers (history : History) (event : ExtendedRunEvent)
    (h : runner.target.runScenario history contract = .ok event) :
    Answers contract.scenarioId event := by
  obtain ⟨event', hevent, hanswers⟩ :=
    htarget.dispatched contract.scenarioId hmem contract hload history
  rw [h] at hevent
  cases hevent
  exact hanswers

include hdb hingest hevaluate hjudge htarget hmem hload hs huntouched

theorem runOne_measured (hflow : requiresHitlFlow contract = false)
    (h : runner.runOne regressionRunId contract repetitionIndex s = .ok childRunId t) :
    ∃ event, t.session.view = t.session.committed ∧
      Measured runner.target regressionRunId ⟨contract.scenarioId, repetitionIndex⟩
        t.session.committed event ∧
      lastIngested t.calls = some (withRunId event
        (regressionRunEventId regressionRunId contract.scenarioId repetitionIndex)) := by
  obtain ⟨event, t0, t1, t2, now, store, h0, h1, h2, ⟨history, hreply⟩, hi, hlinked⟩ :=
    dispatched_ok runner hdb hingest regressionRunId repetitionIndex scenarioIds htarget contract
      hmem hload s hs huntouched
  obtain ⟨hv, hscenario⟩ := dispatched_answers runner scenarioIds htarget contract hmem hload
    history event hreply
  have hchildren := withRunId_children event hv
    (regressionRunEventId regressionRunId contract.scenarioId repetitionIndex)
  have hclosed := ingest_runClosed _ now _ store hi _ (untouched_runClosed _ _ huntouched)
  obtain ⟨run, hrun, _, halike⟩ := ingested_judgedAlike _ now _ store hi hchildren
    (untouched_restates _ _ huntouched)
  unfold RegressionRunner.runOne at h
  simp only [hflow, Bool.false_eq_true, if_false] at h
  rw [bind_of_ok _ _ s t0 event h0, bind_of_ok _ _ t0 t1 () h1] at h
  have h3 := (bind_of_ok _ _ t1 t2 () h2).symm.trans h
  obtain ⟨hsync, hstored, hjudged⟩ := evaluate_measured runner environment libraries hevaluate hjudge
    (withRunId event (regressionRunEventId regressionRunId contract.scenarioId repetitionIndex))
    regressionRunId contract.scenarioId repetitionIndex hscenario store run hrun halike hclosed t2 t
    hlinked childRunId h3
  have hlast := ending_last runner t2 t _ childRunId h3
  rw [link_last runner t1 t2 _ _ _ _ h2, ingest_last runner t0 t1 _ h1] at hlast
  exact ⟨event, hsync, ⟨.completed contract hload hflow history hreply, hstored, hjudged⟩, hlast⟩

include hrestates in
/-- The approved event restates the run that waited, and its verdict is the slot's. -/
theorem runOneHitl_measured (hflow : requiresHitlFlow contract = true)
    (h : runner.runOneHitl regressionRunId contract repetitionIndex s = .ok childRunId t) :
    ∃ event, t.session.view = t.session.committed ∧
      Measured runner.target regressionRunId ⟨contract.scenarioId, repetitionIndex⟩
        t.session.committed event ∧
      lastIngested t.calls = some (withRunId event
        (regressionRunEventId regressionRunId contract.scenarioId repetitionIndex)) := by
  obtain ⟨event, t0, t1, t2, now, store, h0, h1, h2, ⟨history, hreply⟩, hi, hlinked⟩ :=
    dispatched_ok runner hdb hingest regressionRunId repetitionIndex scenarioIds htarget contract
      hmem hload s hs huntouched
  obtain ⟨hpending, hsubmit, checkpointId, hcheckpoint, hne, hresumed⟩ :=
    htarget.pending contract.scenarioId hmem contract hload hflow history event hreply
  have hrow := untouched_agentRun _ now _ store hi huntouched
  have hclosed := ingest_runClosed _ now _ store hi _ (untouched_runClosed _ _ huntouched)
  have hheld := untouched_gateHeld _ now _ store hi huntouched hpending hsubmit checkpointId
    hcheckpoint hne t2 regressionRunId contract.scenarioId repetitionIndex hlinked
  have hlinkedClosed := linked_runClosed t2 _ regressionRunId contract.scenarioId repetitionIndex
    store hlinked hclosed
  obtain ⟨t3, h3, hcommitted, hclosed3⟩ := gate_ok runner t2 _ regressionRunId contract.scenarioId
    repetitionIndex store hlinked hdb _ hrow checkpointId hheld
  obtain ⟨reply, t4, h4, hsession, ⟨hanswer, happroved⟩, history', hresume⟩ :=
    resumeAfterApproval_ok runner t3 checkpointId (fun reply =>
      (Answers contract.scenarioId reply ∧ reply.hitl.state = .approved) ∧ ∃ history',
        runner.target.resumeAfterApproval history' checkpointId "approve" = .ok reply) (by
      intro history'
      obtain ⟨reply, hreply, hanswer⟩ := hresumed history'
      exact ⟨reply, hreply, hanswer, history', hreply⟩)
  rw [← hsession] at hclosed3 hcommitted
  have hguard : pendingAfterTerminal (withRunId reply (regressionRunEventId regressionRunId
      contract.scenarioId repetitionIndex)) t4.session.committed = .ok () := by
    simp [pendingAfterTerminal, withRunId, happroved]
  obtain ⟨t5, t6, now', store', h5, h6, hi', hlinked'⟩ := snapshot_ok runner hdb hingest
    regressionRunId repetitionIndex contract.scenarioId
    (regressionRunEventId regressionRunId contract.scenarioId repetitionIndex) reply
    hanswer.1 t4 hclosed3 hguard
  have hrestated := hrestates contract.scenarioId hmem contract hload hflow history event hreply
    history' checkpointId reply hresume
  have hrestatesStore := restatedBy_restates _ store _ now hi huntouched (withRunId reply
    (regressionRunEventId regressionRunId contract.scenarioId repetitionIndex)) rfl
    ⟨hrestated.spans, hrestated.toolCalls⟩
  have hrestatesLinked : Restates t4.session.committed (withRunId reply
      (regressionRunEventId regressionRunId contract.scenarioId repetitionIndex)) := by
    obtain ⟨now, hlinkedStore⟩ := hlinked.committed
    rw [hcommitted, hlinkedStore]
    exact ⟨hrestatesStore.spans, hrestatesStore.toolCalls⟩
  rw [← hcommitted] at hlinkedClosed
  have hclosed' := ingest_runClosed _ now' _ store' hi' _ hlinkedClosed
  obtain ⟨run, hrun, _, halike⟩ := ingested_judgedAlike _ now' _ store' hi'
    (withRunId_children reply hanswer.1 _) hrestatesLinked
  unfold RegressionRunner.runOneHitl at h
  rw [bind_of_ok _ _ s t0 event h0, bind_of_ok _ _ t0 t1 () h1, bind_of_ok _ _ t1 t2 () h2,
    bind_of_ok _ _ t2 t3 checkpointId h3, bind_of_ok _ _ t3 t4 reply h4,
    bind_of_ok _ _ t4 t5 () h5, bind_of_ok _ _ t5 t6 () h6] at h
  obtain ⟨hsync, hstored, hjudged⟩ := evaluate_measured runner environment libraries hevaluate hjudge
    (withRunId reply (regressionRunEventId regressionRunId contract.scenarioId repetitionIndex))
    regressionRunId contract.scenarioId repetitionIndex hanswer.2 store' run hrun halike hclosed' t6
    t hlinked' childRunId h
  have hlast := ending_last runner t6 t _ childRunId h
  rw [link_last runner t5 t6 _ _ _ _ h6, ingest_last runner t4 t5 _ h5] at hlast
  exact ⟨reply, hsync, ⟨.resumed contract hload hflow history history' event checkpointId hreply
    hcheckpoint hresume, hstored, hjudged⟩, hlast⟩

include hrestates in
theorem slot_measured (h : runner.runOne regressionRunId contract repetitionIndex s =
      .ok childRunId t) :
    ∃ event, t.session.view = t.session.committed ∧
      Measured runner.target regressionRunId ⟨contract.scenarioId, repetitionIndex⟩
        t.session.committed event ∧
      lastIngested t.calls = some (withRunId event
        (regressionRunEventId regressionRunId contract.scenarioId repetitionIndex)) := by
  cases hflow : requiresHitlFlow contract with
  | true =>
    apply runOneHitl_measured runner hdb hingest environment libraries hevaluate hjudge scenarioIds
      htarget hrestates regressionRunId repetitionIndex contract hmem hload s t hs huntouched
      childRunId hflow
    unfold RegressionRunner.runOne at h
    rw [if_pos hflow] at h
    exact h
  | false =>
    exact runOne_measured runner hdb hingest environment libraries hevaluate hjudge scenarioIds
      htarget regressionRunId repetitionIndex contract hmem hload s t hs huntouched childRunId hflow h

end Slot

/-! ### All slots -/

/-- The slot holds the verdict of what one of the attempts ingested in it. -/
def MeasuredIn (target : AgentTarget) (regressionRunId : ℕ) (attempts : List Attempt) (slot : Slot)
    (state : RunnerState) : Prop :=
  ∃ stored event, Measured target regressionRunId slot stored event ∧
    RowsAre (slot.runId regressionRunId) stored state ∧
    AttemptedWith regressionRunId attempts slot event

/-- The created slots so far are measured by the attempts since `earlier`. -/
structure Measuring (target : AgentTarget) (regressionRunId : ℕ) (reference : Store)
    (earlier : List Attempt) (done : List Slot) (progress : RegressionRunner.Progress)
    (state : RunnerState) : Prop
    extends Alternating regressionRunId reference done progress state where
  measured : ∃ made, state.attempts = earlier ++ made ∧
    ∀ slot ∈ atPlaces evenPlace done, MeasuredIn target regressionRunId made slot state

theorem measuredIn_new (target : AgentTarget) (regressionRunId : ℕ) (made : List Attempt)
    (slot : Slot) (outcome : Except Error String) (t : RunnerState) (event : ExtendedRunEvent)
    (hsync : t.session.view = t.session.committed)
    (hmeasured : Measured target regressionRunId slot t.session.committed event)
    (hlast : lastIngested t.calls = some (withRunId event (slot.runId regressionRunId))) :
    MeasuredIn target regressionRunId (made ++ [attemptOf slot outcome t]) slot
      (ended slot outcome t) := by
  have hattempted : AttemptedWith regressionRunId (made ++ [attemptOf slot outcome t]) slot event :=
    ⟨attemptOf slot outcome t, List.mem_append_right _ (List.mem_singleton.mpr rfl), rfl, hlast⟩
  refine ⟨t.session.committed, event, hmeasured, ⟨sameRows_refl _ _, fun hopen => ?_⟩, hattempted⟩
  have hopen : t.session.inTransaction = true := hopen
  rw [view_of_open t.session hopen] at hsync
  show SameRows _ t.session.committed t.session.working
  rw [hsync]
  exact sameRows_refl _ _

section Run
variable (db : Database) (hdb : db.backend.Accepts) (target : AgentTarget)
  (environment : History → JudgeEnvironment) (libraries : JudgeLibraries)
  (hjudge : ∀ history, (environment history).settings.isConfigured = false)

/-- Another slot that is created leaves a measured one alone. -/
theorem measuredIn_kept (regressionRunId : ℕ) (made : List Attempt) (slot : Slot)
    (contract : ScenarioContract) (repetitionIndex : ℕ)
    (hne : slot ≠ ⟨contract.scenarioId, repetitionIndex⟩) (state t : RunnerState)
    (childRunId : String)
    (h : (defaultRunner db target environment libraries).runOne regressionRunId contract
      repetitionIndex (started state) = .ok childRunId t)
    (hmeasured : MeasuredIn target regressionRunId made slot state) (attempt : Attempt)
    (outcome : Except Error String) :
    MeasuredIn target regressionRunId (made ++ [attempt]) slot
      (ended ⟨contract.scenarioId, repetitionIndex⟩ outcome t) := by
  obtain ⟨stored, event, hstored, hbefore, hattempted⟩ := hmeasured
  have hid : slot.runId regressionRunId ≠
      regressionRunEventId regressionRunId contract.scenarioId repetitionIndex :=
    fun hsame => hne
      (slot_runId_inj regressionRunId slot ⟨contract.scenarioId, repetitionIndex⟩ hsame)
  have hafter := keptFor_runOne _ _ _ (keptFor_otherRows db target environment libraries _ _ hid
    stored) regressionRunId contract repetitionIndex rfl (started state) hbefore
  rw [after_ok _ _ _ _ h] at hafter
  exact ⟨stored, event, hstored, hafter, attemptedWith_append _ _ _ _ _ hattempted⟩

include hdb hjudge

theorem slotKeeps_measuring (scenarioIds : List String)
    (htarget : HealthyTarget target scenarioIds) (hrestates : RestatesRuns target scenarioIds)
    (regressionRunId : ℕ) (all : List Slot) (hdistinct : all.Nodup) (reference : Store)
    (earlier : List Attempt)
    (huntouched : ∀ slot ∈ all, Untouched reference (slot.runId regressionRunId))
    (scenarioId : String) (hmem : scenarioId ∈ scenarioIds) (contract : ScenarioContract)
    (hload : loadScenarioContract scenarioId = .ok contract) :
    SlotKeeps (defaultRunner db target environment libraries) regressionRunId all
      (Measuring target regressionRunId reference earlier) (fun _ _ => False) scenarioId contract := by
  have halternating := slotKeeps_alternating db hdb target environment libraries scenarioIds htarget
    regressionRunId all hdistinct reference huntouched scenarioId hmem contract hload
  have hid := loadScenarioContract_id scenarioId contract hload
  subst hid
  intro repetitionIndex done progress state hall h
  have hkept := halternating repetitionIndex done progress state hall h.toAlternating
  obtain ⟨hslot, hnew⟩ := nextSlot_new done all _ hall hdistinct
  have hnot : (⟨contract.scenarioId, repetitionIndex⟩ : Slot) ∉ atPlaces evenPlace done :=
    fun hmem => hnew (atPlaces_subset evenPlace done _ hmem)
  have heven := evenPlace_eq done.length
  have hattempts := runOne_attempts (defaultRunner db target environment libraries)
    regressionRunId contract repetitionIndex (started state)
  obtain ⟨made, hmade, hmeasured⟩ := h.measured
  cases hplace : oddPlace done.length with
  | false =>
    rw [hplace] at heven
    have hclosed : state.session.inTransaction = false := h.isOpen.trans hplace
    have hrows := alternating_slot _ _ _ _ _ h.toAlternating _ hnot
    have hstored := sameRows_untouched _ reference _ hrows.1 (huntouched _ hslot)
    have hfresh : Untouched (started state).session.committed
        (regressionRunEventId regressionRunId contract.scenarioId repetitionIndex) := hstored
    obtain ⟨t, ht, _⟩ := firstSlot_ok (defaultRunner db target environment libraries) hdb rfl
      regressionRunId repetitionIndex scenarioIds htarget contract hmem hload (started state)
      hclosed hfresh environment libraries rfl
    obtain ⟨event, hsync, hslotMeasured, hlast⟩ := slot_measured
      (defaultRunner db target environment libraries) hdb rfl environment libraries rfl hjudge
      scenarioIds htarget hrestates regressionRunId repetitionIndex contract hmem hload
      (started state) t hclosed hfresh _ ht
    have hrun := runRepetition_of_ok _ regressionRunId contract.scenarioId contract
      repetitionIndex state t _ ht
    have hlater := ends_returns _ _ _ _ _ _ hkept hrun
    have hearlier := ends_returns _ _ _ _ _ _ hattempts ht
    refine ends_of_ok _ _ _ _ _ _ hrun
      { hlater with measured := ⟨made ++ [attemptOf ⟨contract.scenarioId, repetitionIndex⟩ (.ok
          (regressionRunEventId regressionRunId contract.scenarioId repetitionIndex)) t], ?_, ?_⟩ }
    · show t.attempts ++ _ = _
      rw [show t.attempts = state.attempts from hearlier, hmade, List.append_assoc]
    intro slot hcreated
    rw [atPlaces_append, heven, Bool.not_false, if_pos rfl] at hcreated
    rcases List.mem_append.mp hcreated with hold | hnewest
    · have hne : slot ≠ ⟨contract.scenarioId, repetitionIndex⟩ := fun hsame => hnot (hsame ▸ hold)
      exact measuredIn_kept db target environment libraries regressionRunId made slot contract
        repetitionIndex hne state t _ ht (hmeasured slot hold) _ _
    · rw [List.mem_singleton.mp hnewest]
      exact measuredIn_new target regressionRunId made _ _ t event hsync hslotMeasured hlast
  | true =>
    rw [hplace] at heven
    obtain ⟨t, ht, hsame⟩ := openSlot_refused (defaultRunner db target environment libraries) rfl
      scenarioIds htarget regressionRunId repetitionIndex contract hmem hload (started state)
      (h.isOpen.trans hplace)
    have hgate : ¬ GateViolation .invalidRequest := by
      intro hgate
      obtain ⟨_, hmessage⟩ := hgate
      cases hmessage
    have hrun := runRepetition_of_error _ regressionRunId contract.scenarioId contract
      repetitionIndex state t .invalidRequest hgate ht
    have hlater := ends_returns _ _ _ _ _ _ hkept hrun
    have hearlier := ends_raises _ _ _ _ _ _ hattempts ht
    refine ends_of_ok _ _ _ _ _ _ hrun
      { hlater with measured := ⟨made ++ [attemptOf ⟨contract.scenarioId, repetitionIndex⟩
          (.error .invalidRequest) (rolledBack t)], ?_, ?_⟩ }
    · show t.attempts ++ _ = _
      rw [show t.attempts = state.attempts from hearlier, hmade, List.append_assoc]
    intro slot hcreated
    rw [atPlaces_append, heven, Bool.not_true, if_neg Bool.false_ne_true] at hcreated
    obtain ⟨stored, event, hstored, hbefore, hattempted⟩ := hmeasured slot hcreated
    refine ⟨stored, event, hstored, ⟨?_, fun hopen => by cases hopen⟩,
      attemptedWith_append _ _ _ _ _ hattempted⟩
    show SameRows (slot.runId regressionRunId) stored t.session.committed
    rw [hsame]
    exact hbefore.1

end Run

/-! ### The figures -/

def passRateOfVerdicts (verdicts : List OverallEvaluationStatus) : PassRateSummary where
  passRate := if verdicts.length ≠ 0 then some (verdicts.count .pass / verdicts.length) else none
  counts := bucketsOf fun status => verdicts.count status

theorem passRateOf_verdicts (judged : List JudgedRun) (verdicts : List OverallEvaluationStatus)
    (h : (judged.map JudgedRun.overallStatus).Perm (verdicts.map some)) :
    passRateOf judged = passRateOfVerdicts verdicts := by
  have hlength := h.length_eq
  rw [List.length_map, List.length_map] at hlength
  have hcount (status : OverallEvaluationStatus) :
      withStatus status judged = verdicts.count status := by
    have hcounts := h.countP_eq fun verdict => verdict = some status
    rw [List.countP_map, List.countP_map] at hcounts
    rw [withStatus, List.count]
    refine hcounts.trans (List.countP_congr fun verdict _ => ?_)
    simp
  simp only [passRateOf, passRateOfVerdicts, hlength, hcount]

/-- The figures count these slots, each with its verdict, and nothing else. -/
structure CountsVerdicts (aggregation : RegressionAggregation) (created : List Slot)
    (verdict : Slot → OverallEvaluationStatus) : Prop where
  overall : aggregation.overall = passRateOfVerdicts (created.map verdict)
  scenario : ∀ slice ∈ aggregation.byScenario, slice.toPassRateSummary = passRateOfVerdicts
    ((created.filter fun slot => slot.scenarioId = slice.scenarioId).map verdict)
  scenarios : ∀ scenarioId,
    scenarioId ∈ aggregation.byScenario.map ScenarioPassRateSummary.scenarioId ↔
      ∃ slot ∈ created, slot.scenarioId = scenarioId

section Counts
variable (regressionRunId : ℕ) (store : Store) (created : List Slot)
  (verdict : Slot → OverallEvaluationStatus)

/-- The scenario and the verdict of a judged run. -/
def judgement (judged : JudgedRun) : Option String × Option OverallEvaluationStatus :=
  (judged.scenarioId, judged.overallStatus)

theorem judged_perm (hdistinct : created.Nodup)
    (hstored : ∀ slot ∈ created, ∃ run failure,
      store.agentRuns.find? (slot.runId regressionRunId) = some run ∧
      run.regressionRunId = some regressionRunId ∧ run.scenarioId = some slot.scenarioId ∧
      store.runFailures.find? (slot.runId regressionRunId) = some failure ∧
      failure.overallStatus = verdict slot)
    (hlinked : ∀ run ∈ linkedRuns regressionRunId store,
      ∃ slot ∈ created, run.runId = slot.runId regressionRunId) :
    ((judgedRunsOf regressionRunId store).map judgement).Perm
      (created.map fun slot => (some slot.scenarioId, some (verdict slot))) := by
  rw [judgedRunsOf_eq, leftJoin, List.map_map]
  apply store.agentRuns.shown_perm (linkedTo regressionRunId) created (Slot.runId regressionRunId)
  · intro slot hslot
    obtain ⟨run, failure, hrun, hregression, hscenario, hfailure, hverdict⟩ := hstored slot hslot
    refine ⟨run, hrun, by simp [linkedTo, hregression], ?_⟩
    have hid := Table.key_of_find? _ _ run hrun
    simp only [Function.comp_apply, judgement, JudgedRun.scenarioId, JudgedRun.overallStatus, hid,
      hfailure, hscenario, Option.map_some, hverdict]
  · intro run hm hselected
    exact hlinked run (List.mem_filter.mpr ⟨hm, hselected⟩)
  · exact hdistinct.map fun slot slot' h => slot_runId_inj regressionRunId slot slot' h

theorem aggregates_counts (aggregation : RegressionAggregation)
    (haggregates : Aggregates store regressionRunId aggregation)
    (h : ((judgedRunsOf regressionRunId store).map judgement).Perm
      (created.map fun slot => (some slot.scenarioId, some (verdict slot)))) :
    CountsVerdicts aggregation created verdict where
  overall := by
    rw [haggregates.overall]
    apply passRateOf_verdicts
    have hverdicts := h.map Prod.snd
    rw [List.map_map, List.map_map] at hverdicts
    rw [List.map_map]
    exact hverdicts
  scenario := by
    intro slice hslice
    rw [haggregates.slices.summary slice hslice]
    apply passRateOf_verdicts
    have hselected := (h.filter fun judged => judged.1 = some slice.scenarioId).map Prod.snd
    rw [List.filter_map, List.filter_map, List.map_map, List.map_map] at hselected
    rw [List.map_map]
    simp only [Function.comp_def, judgement, Option.some.injEq] at hselected ⊢
    exact hselected
  scenarios := by
    intro scenarioId
    rw [haggregates.slices.present scenarioId]
    have hscenarios := (h.map Prod.fst).mem_iff (a := some scenarioId)
    simpa [judgement] using hscenarios

end Counts

/-- The run returns, and whoever aggregates what it left counts, for each created slot, the
verdict of the answer of the target that the attempt of the slot ingested, and nothing else. -/
def MeasuresAnswers (runner : RegressionRunner) (row : RegressionRun) (created : List Slot)
    (state : RunnerState) : Prop :=
  ∃ result t made, ∃ answers : Slot → ExtendedRunEvent,
    runner.run row.id state = .ok result t ∧
    result.createdRunIds = created.map (Slot.runId row.id) ∧
    t.attempts = state.attempts ++ made ∧
    (∀ slot ∈ created, AnswersWith runner.target slot.scenarioId (answers slot) ∧
      AttemptedWith row.id made slot (answers slot)) ∧
    ∀ (reader : Database) (orders : AggregationOrders reader.collation) (s : DbSession),
      s.view = t.session.committed →
      Delivers reader.backend (aggregateRegressionRun reader orders row.id) s
        fun aggregation _ => CountsVerdicts aggregation created
          fun slot => (slotVerdict row.id slot (answers slot)).overallStatus

section Run
variable (db : Database) (hdb : db.backend.Accepts) (target : AgentTarget)
  (environment : History → JudgeEnvironment) (libraries : JudgeLibraries)
  (hjudge : ∀ history, (environment history).settings.isConfigured = false)

/-- The created slots of a regression whose other runs are as before. -/
theorem measuring_linked (regressionRunId : ℕ) (reference : Store)
    (hlinked : linkedRuns regressionRunId reference = []) (earlier : List Attempt)
    (all : List Slot) (progress : RegressionRunner.Progress) (state : RunnerState)
    (h : Measuring target regressionRunId reference earlier all progress state) (run : AgentRun)
    (hrun : run ∈ linkedRuns regressionRunId state.session.view) :
    ∃ slot ∈ atPlaces evenPlace all, run.runId = slot.runId regressionRunId := by
  by_contra hnone
  obtain ⟨hm, hselected⟩ := List.mem_filter.mp hrun
  have hrows := sound_view _ _ (h.others run.runId fun slot hslot hid => hnone ⟨slot, hslot, hid⟩)
  have hfind := (state.session.view.agentRuns.find?_eq_some_iff run.runId run).mpr ⟨hm, rfl⟩
  rw [hrows.agentRun] at hfind
  have hbefore : run ∈ linkedRuns regressionRunId reference :=
    List.mem_filter.mpr ⟨Table.mem_of_find? _ _ run hfind, hselected⟩
  rw [hlinked] at hbefore
  cases hbefore

include hdb hjudge

/-- A healthy regression whose target restates its runs, the judges unconfigured and nothing
stored yet of its slots, measures the answers of its target at the even places. -/
theorem healthy_measured (row : RegressionRun) (htarget : HealthyTarget target row.scenarioIds)
    (hrestates : RestatesRuns target row.scenarioIds) (hdistinct : row.scenarioIds.Nodup)
    (hknown : ∀ scenarioId ∈ row.scenarioIds, KnownScenario scenarioId) (state : RunnerState)
    (hrow : state.session.view.regressionRuns.find? row.id = some row)
    (huntouched : ∀ slot ∈ slots row.scenarioIds row.repetitions,
      Untouched state.session.view (slot.runId row.id))
    (hlinked : linkedRuns row.id state.session.view = []) :
    MeasuresAnswers (defaultRunner db target environment libraries) row
      (atPlaces evenPlace (slots row.scenarioIds row.repetitions)) state := by
  have hslots := slots_nodup row.scenarioIds row.repetitions hdistinct
  obtain ⟨result, t, mid, now, hr, hmid, hcommitted, _, hhistory⟩ := healthy_run db hdb target
    environment libraries row hknown state hrow
    (Measuring target row.id state.session.view state.attempts)
    (slotKeeps_measuring db hdb target environment libraries hjudge row.scenarioIds htarget
      hrestates row.id _ hslots _ _ huntouched)
    (fun session now hclosed hstarted =>
      { alternating_start row.id state session now hclosed hstarted with
        measured := ⟨[], (List.append_nil _).symm, fun _ hslot => absurd hslot List.not_mem_nil⟩ })
  obtain ⟨made, hmade, hslotsMeasured⟩ := hmid.measured
  rw [← congrArg History.attempts hhistory] at hmade
  have hcreated (slot : Slot) : ∃ event,
      slot ∈ atPlaces evenPlace (slots row.scenarioIds row.repetitions) →
        Measured target row.id slot t.session.committed event ∧
          AttemptedWith row.id made slot event := by
    by_cases hslot : slot ∈ atPlaces evenPlace (slots row.scenarioIds row.repetitions)
    · obtain ⟨stored, event, hmeasured, hrows, hattempted⟩ := hslotsMeasured slot hslot
      refine ⟨event, fun _ =>
        ⟨measured_sameRows target row.id slot stored _ event ?_ hmeasured, hattempted⟩⟩
      rw [hcommitted]
      exact mark_sameRows _ _ _ row.id .completed _ (some now) (sound_view _ _ hrows)
    · exact ⟨successEvent "", fun h => absurd h hslot⟩
  choose answers hanswers using hcreated
  refine ⟨result, t, made, answers, hr, hmid.created, hmade,
    fun slot hslot => ⟨(hanswers slot hslot).1.answered, (hanswers slot hslot).2⟩, ?_⟩
  intro reader orders s hs
  have hperm := judged_perm row.id t.session.committed
    (atPlaces evenPlace (slots row.scenarioIds row.repetitions))
    (fun slot => (slotVerdict row.id slot (answers slot)).overallStatus)
    (atPlaces_nodup evenPlace _ hslots)
    (by
      intro slot hslot
      obtain ⟨run, hrun, hregression, hscenario⟩ := (hanswers slot hslot).1.run
      obtain ⟨failure, hfailure, hrecords⟩ := (hanswers slot hslot).1.judged
      exact ⟨run, failure, hrun, hregression, hscenario, hfailure,
        (congrArg RunFailureResult.overallStatus hrecords).symm⟩)
    (by
      rw [hcommitted]
      exact measuring_linked target row.id _ hlinked _ _ _ mid hmid)
  exact delivers_mono _ _ s _ _ (delivers_aggregateRegressionRun reader orders row.id _ s hs)
    fun aggregation _ haggregates =>
      aggregates_counts row.id t.session.committed _ _ aggregation haggregates hperm

end Run

theorem healthyTarget_restates : RestatesRuns healthyTarget ["GS-01", "GS-08"] := by
  intro scenarioId hmem contract hload hflow history pending hpending history' checkpointId event
    hevent
  simp only [List.mem_cons, List.not_mem_nil, or_false] at hmem
  rcases hmem with rfl | rfl
  · have hcontract : contract = gs01 := (Except.ok.inj hload).symm
    subst hcontract
    cases hflow
  · have hcontract : contract = gs08 := (Except.ok.inj hload).symm
    subst hcontract
    cases hpending
    obtain ⟨entry, hentry, rfl⟩ := mockedResumeAfterApproval_mem _ checkpointId "approve" event hevent
    cases List.mem_singleton.mp hentry
    exact ⟨fun span hspan => ⟨span, hspan, rfl⟩, fun toolCall hcall => ⟨toolCall, hcall, rfl⟩⟩

theorem healthy_measured_twoByTwo :
    MeasuresAnswers healthyRunner twoByTwo (atPlaces evenPlace (slots ["GS-01", "GS-08"] 2))
      (sampleState twoByTwo) :=
  healthy_measured .plain plain_accepts healthyTarget _ _ (fun _ => by decide) twoByTwo
    healthyTarget_healthy healthyTarget_restates (by decide) (by decide) _ (sampleState_row _ _)
    (fun _ _ => sampleState_untouched _ _) rfl

end ObsPlatform.Regressions
