import ObsPlatform.Regressions.Gate

/-!
# The snapshot a gated slot is evaluated on

The gate looks at the run before the resumption, nothing looks at it after. What the
evaluation finds is the event the resumption was answered with: a final one when that
event is final, and the pending one again when the target answers with a pending one.
-/

namespace ObsPlatform.Regressions

open Telemetry Db UnitOfWork Evaluation Stateful

/-- The stored run is final and waits for nothing. -/
def TerminalRun (runId : String) (store : Store) : Prop :=
  ∃ row, store.agentRuns.find? runId = some row ∧ row.eventType = .runFinal ∧
    row.hitlState ≠ .pending

/-- The stored run is in the state this event says. -/
def StoredAsSaid (runId : String) (event : ExtendedRunEvent) (store : Store) : Prop :=
  ∃ row, store.agentRuns.find? runId = some row ∧ row.eventType = event.eventType ∧
    row.hitlState = event.hitl.state

/-- Ingestion stores what the event says, and linkage keeps it. -/
theorem storedAsSaid (db : Database) (history : History) (event : ExtendedRunEvent)
    (regressionRunId : ℕ) (scenarioId : String) (repetitionIndex : ℕ) (s u t : DbSession)
    (hingested : defaultIngestRunEvent db history event s = .ok () u)
    (hlinked : Linked event.runId regressionRunId scenarioId repetitionIndex u.view t) :
    StoredAsSaid event.runId event t.committed := by
  obtain ⟨result, v, hr, hv⟩ := (bind_returns _ _ s u ()).mp hingested
  cases hv
  obtain ⟨_, hclosed, heffect⟩ := Ingestion.ingestRunEvent_returns db event s u result hr
  have hrow := Ingestion.ingestEffect_agentRuns event _ _ _ heffect event.runId
  rw [if_pos rfl] at hrow
  obtain ⟨now, hcommitted⟩ := hlinked.committed
  have hfind := Platform.updateLinkage_find? event.runId regressionRunId scenarioId repetitionIndex
    now u.view event.runId
  rw [← hcommitted, if_pos rfl, view_of_closed u hclosed, hrow, Option.map_some] at hfind
  refine ⟨_, hfind, ?_, ?_⟩
  · cases s.committed.agentRuns.find? event.runId with
    | none => rfl
    | some old => rfl
  · cases s.committed.agentRuns.find? event.runId with
    | none => rfl
    | some old => rfl

/-- A run stored as a validated event says is terminal exactly when the event is final. -/
theorem terminalRun_iff (runId : String) (event : ExtendedRunEvent) (store : Store)
    (hvalid : Validated event) (h : StoredAsSaid runId event store) :
    TerminalRun runId store ↔ event.eventType = .runFinal := by
  obtain ⟨row, hrow, htype, hstate⟩ := h
  constructor
  · intro hterminal
    obtain ⟨row', hrow', hfinal, _⟩ := hterminal
    rw [hrow] at hrow'
    cases hrow'
    rw [← htype]
    exact hfinal
  · intro hfinal
    refine ⟨row, hrow, htype.trans hfinal, ?_⟩
    intro hpending
    have hawaiting := (validated_pending_iff event hvalid).mp (hstate.symm.trans hpending)
    rw [hfinal] at hawaiting
    cases hawaiting

/-- What an attempt was evaluated on, if it was evaluated: the event its resumption was
answered with decides. -/
def EvaluatedOnReply (target : AgentTarget) (attempt : Attempt) : Prop :=
  ∀ runId committed, .runEvaluation runId committed ∈ attempt.calls →
    ∃ pending gate checkpointId reply, attempt.calls =
        [.runScenario attempt.slot.scenarioId, .ingested pending, .linked gate,
          .resumeAfterApproval checkpointId "approve" gate,
          .ingested (withRunId reply runId), .linked committed,
          .runEvaluation runId committed] ∧
      RepliedBy target checkpointId reply ∧
      (TerminalRun runId committed ↔ reply.eventType = .runFinal)

theorem evaluated_of_gatedEnd (db : Database) (Replied : String → ExtendedRunEvent → Store → Prop)
    (scenarioId slotRunId runId : String) (committed : Store) (calls : List Call)
    (outcome : Except Error String) (h : GatedEnd db Replied scenarioId slotRunId calls outcome)
    (hcall : .runEvaluation runId committed ∈ calls) :
    runId = slotRunId ∧ ∃ pending gate checkpointId reply, calls =
        [.runScenario scenarioId, .ingested pending, .linked gate,
          .resumeAfterApproval checkpointId "approve" gate,
          .ingested (withRunId reply runId), .linked committed,
          .runEvaluation runId committed] ∧
      Replied checkpointId reply committed := by
  cases h with
  | evaluated pending gate checkpointId reply stored _ _ _ hreplied =>
    simp only [List.mem_cons, reduceCtorEq, List.not_mem_nil, or_false, false_or,
      Call.runEvaluation.injEq] at hcall
    obtain ⟨rfl, rfl⟩ := hcall
    exact ⟨rfl, pending, gate, checkpointId, reply, rfl, hreplied⟩
  | _ => simp at hcall

/-- In every run with the default ingestion, a gated slot is evaluated on a terminal run
exactly when the validated event that answered the resumption is final. -/
theorem evaluated_terminal_iff_final (runner : RegressionRunner)
    (hingest : runner.ingestRunEvent = defaultIngestRunEvent runner.db)
    (hvalid : ∀ history checkpointId reply,
      runner.target.resumeAfterApproval history checkpointId "approve" = .ok reply →
      Validated reply)
    (regressionRunId : ℕ) (state : RunnerState) (hfresh : state.attempts = [])
    (row : RegressionRun)
    (hrow : state.session.view.regressionRuns.find? regressionRunId = some row) :
    Ends (runner.run regressionRunId) state
      (fun _ t => ∀ attempt ∈ t.attempts, attempt.Gated → EvaluatedOnReply runner.target attempt)
      fun _ t => ∀ attempt ∈ t.attempts, attempt.Gated →
        EvaluatedOnReply runner.target attempt := by
  have hgated := gatedAttempts_ends runner regressionRunId
    (fun slotRunId checkpointId reply committed => RepliedBy runner.target checkpointId reply ∧
      (TerminalRun slotRunId committed ↔ reply.eventType = .runFinal)) ?_ state hfresh row hrow
  · have hevaluated (attempts : List Attempt) (hends : ∀ attempt ∈ attempts,
        EndsGated runner regressionRunId (fun slotRunId checkpointId reply committed =>
          RepliedBy runner.target checkpointId reply ∧
            (TerminalRun slotRunId committed ↔ reply.eventType = .runFinal)) attempt) :
        ∀ attempt ∈ attempts, attempt.Gated → EvaluatedOnReply runner.target attempt := by
      intro attempt hm hg runId committed hcall
      obtain ⟨rfl, pending, gate, checkpointId, reply, hcalls, hreplied⟩ :=
        evaluated_of_gatedEnd _ _ _ _ _ _ _ _ (hends attempt hm hg) hcall
      exact ⟨pending, gate, checkpointId, reply, hcalls, hreplied⟩
    exact ends_mono _ _ _ _ _ _ hgated (fun _ t => hevaluated t.attempts)
      fun _ t => hevaluated t.attempts
  · intro slotRunId scenarioId repetitionIndex history history' checkpointId reply s u t hreply
      hingested hlinked
    rw [hingest] at hingested
    refine ⟨⟨history, hreply⟩, ?_⟩
    have hstored := storedAsSaid runner.db history' (withRunId reply slotRunId) regressionRunId
      scenarioId repetitionIndex s u t hingested hlinked
    exact terminalRun_iff slotRunId (withRunId reply slotRunId) t.committed
      (hvalid history checkpointId reply hreply) hstored

theorem mockedResumeAfterApproval_mem (approvedEvents : List (String × ExtendedRunEvent))
    (checkpointId decision : String) (reply : ExtendedRunEvent)
    (h : mockedResumeAfterApproval approvedEvents checkpointId decision = .ok reply) :
    ∃ entry ∈ approvedEvents, entry.2 = reply := by
  unfold mockedResumeAfterApproval at h
  split at h
  · cases h
  split at h
  · rename_i entry hfind
    cases h
    exact ⟨entry, List.mem_of_find?_eq_some hfind, rfl⟩
  split at h
  · cases h
    exact ⟨_, List.mem_singleton.mpr rfl, rfl⟩
  · cases h

theorem evaluated_terminal_iff_final_twoByTwo :
    Ends (sampleRunner.run 1) (sampleState twoByTwo)
      (fun _ t => ∀ attempt ∈ t.attempts, attempt.Gated → EvaluatedOnReply sampleTarget attempt)
      fun _ t => ∀ attempt ∈ t.attempts, attempt.Gated →
        EvaluatedOnReply sampleTarget attempt := by
  refine evaluated_terminal_iff_final sampleRunner rfl ?_ 1 (sampleState twoByTwo) rfl twoByTwo
    (sampleState_row _ _)
  intro history checkpointId reply hreply
  obtain ⟨entry, hm, rfl⟩ := mockedResumeAfterApproval_mem [("GS-08", approvedEvent "mock")]
    checkpointId "approve" reply hreply
  rw [List.mem_singleton.mp hm]
  exact approvedEvent_validated "mock"

/- A target that answers the resumption with the pending event again. -/
def repeatingTarget : AgentTarget :=
  mockedAgentTarget [("GS-08", pendingEvent "mock")] [("GS-08", pendingEvent "mock")]

def repeatingRunner : RegressionRunner :=
  defaultRunner .plain repeatingTarget (fun _ => noJudge) noLibraries

def evaluatesPending : Call → Bool
  | .runEvaluation runId committed => (committed.agentRuns.find? runId).any fun row =>
      decide (row.hitlState = .pending)
  | _ => false

/-- The pending event, sent again on resumption, is what the slot is evaluated on. -/
theorem resumed_pending_evaluated :
    Validated (pendingEvent "mock") ∧
    ∃ attempt ∈ (after (repeatingRunner.run 1)
        (sampleState (sampleRegression ["GS-08"] 1))).attempts,
      attempt.Gated ∧ ∃ runId committed, .runEvaluation runId committed ∈ attempt.calls ∧
        ¬ TerminalRun runId committed := by
  have hrun : (after (repeatingRunner.run 1)
      (sampleState (sampleRegression ["GS-08"] 1))).attempts.any (fun attempt =>
        attempt.slot = ⟨"GS-08", 0⟩ ∧ attempt.calls.any evaluatesPending) = true := by
    decide +kernel
  refine ⟨pendingEvent_validated "mock", ?_⟩
  obtain ⟨attempt, hattempt, hboth⟩ := List.any_eq_true.mp hrun
  obtain ⟨hslot, hcalls⟩ := of_decide_eq_true hboth
  obtain ⟨call, hcall, hpending⟩ := List.any_eq_true.mp hcalls
  refine ⟨attempt, hattempt, ⟨gs08, ?_, rfl⟩, ?_⟩
  · rw [hslot]
    rfl
  cases call with
  | runEvaluation runId committed =>
    refine ⟨runId, committed, hcall, ?_⟩
    intro hterminal
    obtain ⟨row, hrow, _, hstate⟩ := hterminal
    rw [evaluatesPending, hrow, Option.any_some, decide_eq_true_eq] at hpending
    exact hstate hpending
  | _ => cases hpending

end ObsPlatform.Regressions
