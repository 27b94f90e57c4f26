import ObsPlatform.Platform.References
import ObsPlatform.Regressions.Status

/-!
# The approval gate

A slot whose contract expects a human decision asks for it at most once, after its
first snapshot was ingested and linked, and only in a committed state in which the
stored run waits at a checkpoint and has submitted nothing. `GatedEnd` lists the ways
such a slot can end.
-/

namespace ObsPlatform.Regressions

open Telemetry Db UnitOfWork Evaluation Stateful

/-- The stored run waits for a decision at this checkpoint and has submitted nothing. -/
structure GateHeld (runId checkpointId : String) (store : Store) : Prop where
  nonempty : checkpointId ≠ ""
  pending : ∃ row, store.agentRuns.find? runId = some row ∧ row.hitlState = .pending ∧
    row.hitlCheckpointId = some checkpointId
  unsubmitted : submitCount runId store = 0

/-- How a gated slot can end: the calls it made, and its outcome. `Replied` is what is
known of the event a resumption was answered with, once it is ingested and linked. -/
inductive GatedEnd (db : Database) (Replied : String → ExtendedRunEvent → Store → Prop)
    (scenarioId runId : String) : List Call → Except Error String → Prop where
  | dispatched (e : Error) : GatedEnd db Replied scenarioId runId
      [.runScenario scenarioId] (.error e)
  | ingested (pending : ExtendedRunEvent) (e : Error) (hrun : pending.runId = runId) :
      GatedEnd db Replied scenarioId runId
        [.runScenario scenarioId, .ingested pending] (.error e)
  | stopped (pending : ExtendedRunEvent) (gate : Store) (e : Error)
      (hrun : pending.runId = runId)
      (h : (GateViolation e ∧ ∀ checkpointId, ¬ GateHeld runId checkpointId gate) ∨
        db.backend.Refuses e) :
      GatedEnd db Replied scenarioId runId
        [.runScenario scenarioId, .ingested pending, .linked gate] (.error e)
  | resumed (pending : ExtendedRunEvent) (gate : Store) (checkpointId : String) (e : Error)
      (hrun : pending.runId = runId) (hheld : GateHeld runId checkpointId gate) :
      GatedEnd db Replied scenarioId runId
        [.runScenario scenarioId, .ingested pending, .linked gate,
          .resumeAfterApproval checkpointId "approve" gate] (.error e)
  | reingested (pending : ExtendedRunEvent) (gate : Store) (checkpointId : String)
      (reply : ExtendedRunEvent) (e : Error) (hrun : pending.runId = runId)
      (hheld : GateHeld runId checkpointId gate) :
      GatedEnd db Replied scenarioId runId
        [.runScenario scenarioId, .ingested pending, .linked gate,
          .resumeAfterApproval checkpointId "approve" gate,
          .ingested (withRunId reply runId)] (.error e)
  | evaluated (pending : ExtendedRunEvent) (gate : Store) (checkpointId : String)
      (reply : ExtendedRunEvent) (committed : Store) (outcome : Except Error String)
      (hrun : pending.runId = runId) (hheld : GateHeld runId checkpointId gate)
      (hreplied : Replied checkpointId reply committed) :
      GatedEnd db Replied scenarioId runId
        [.runScenario scenarioId, .ingested pending, .linked gate,
          .resumeAfterApproval checkpointId "approve" gate,
          .ingested (withRunId reply runId), .linked committed,
          .runEvaluation runId committed] outcome

/-! ### The gate -/

/-- On a session that reads what is committed, the gate returns the checkpoint the stored run
holds at, and otherwise raises a violation. -/
theorem assertHitlGateHeld_ends (db : Database) (runId : String) (s : DbSession)
    (hview : s.view = s.committed) (hrow : (s.committed.agentRuns.find? runId).isSome) :
    Ends (assertHitlGateHeld db runId) s
      (fun checkpointId t => GateHeld runId checkpointId s.committed ∧
        t.committed = s.committed ∧ t.inTransaction = false)
      fun e _ => (GateViolation e ∧ ∀ checkpointId, ¬ GateHeld runId checkpointId s.committed) ∨
        db.backend.Refuses e := by
  obtain ⟨row, hrow⟩ := Option.isSome_iff_exists.mp hrow
  have hsame : ∀ row', s.committed.agentRuns.find? runId = some row' → row' = row := by
    intro row' h
    rw [hrow] at h
    exact (Option.some.inj h).symm
  have hread := delivers_selectAgentRun db runId s
  refine ends_then _ _ s _ _ _ _ hread (fun _ _ h => .inr h) ?_
  intro found u hreturned
  obtain ⟨rfl, rfl⟩ := hreturned
  rw [hview, hrow]
  dsimp only
  by_cases hpending : row.hitlState = .pending
  · simp only [hpending, ne_eq, not_true_eq_false, if_false]
    cases hcheckpoint : row.hitlCheckpointId with
    | none =>
      refine ends_of_error _ _ _ _ _ _ rfl (.inl ⟨⟨_, rfl⟩, ?_⟩)
      intro checkpointId hheld
      obtain ⟨_, ⟨row', hfind, _, hid⟩, _⟩ := hheld
      rw [hsame row' hfind, hcheckpoint] at hid
      cases hid
    | some checkpointId =>
      dsimp only
      by_cases hempty : checkpointId = ""
      · rw [if_pos hempty]
        refine ends_of_error _ _ _ _ _ _ rfl (.inl ⟨⟨_, rfl⟩, ?_⟩)
        intro checkpointId' hheld
        obtain ⟨hne, ⟨row', hfind, _, hid⟩, _⟩ := hheld
        rw [hsame row' hfind, hcheckpoint] at hid
        cases hid
        exact hne hempty
      · rw [if_neg hempty]
        have hcount := delivers_read db (submitCount runId) (s.spoken s.committed)
        refine ends_then _ _ _ _ _ _ _ hcount (fun _ _ h => .inr h) ?_
        intro submitted t hreturned
        obtain ⟨rfl, rfl⟩ := hreturned
        rw [spoken_view]
        by_cases hsubmitted : submitCount runId s.committed > 0
        · rw [if_pos hsubmitted]
          refine ends_of_error _ _ _ _ _ _ rfl (.inl ⟨⟨_, rfl⟩, ?_⟩)
          intro checkpointId' hheld
          obtain ⟨_, _, hzero⟩ := hheld
          omega
        · rw [if_neg hsubmitted]
          refine ends_of_ok _ _ _ checkpointId _ _ rfl ⟨⟨hempty, ?_, by omega⟩, rfl, rfl⟩
          exact ⟨row, hrow, hpending, hcheckpoint⟩
  · simp only [hpending, ne_eq, not_false_eq_true, if_true]
    refine ends_of_error _ _ _ _ _ _ rfl (.inl ⟨⟨_, rfl⟩, ?_⟩)
    intro checkpointId hheld
    obtain ⟨_, ⟨row', hfind, hstate, _⟩, _⟩ := hheld
    rw [hsame row' hfind] at hstate
    exact hpending hstate

/-! ### The steps and their calls -/

section Calls
variable (runner : RegressionRunner) (s : RunnerState)

theorem runScenario_ends (contract : ScenarioContract) :
    Ends (runner.runScenario contract) s
      (fun _ t => t.calls = s.calls ++ [.runScenario contract.scenarioId] ∧
        t.session = s.session)
      fun _ t => t.calls = s.calls ++ [.runScenario contract.scenarioId] := by
  refine ends_bind _ _ s (fun _ t => t.calls = s.calls ++ [.runScenario contract.scenarioId] ∧
    t.session = s.session) _ _ (ends_of_ok _ _ _ _ _ _ rfl ⟨rfl, rfl⟩) ?_
  intro _ t ht
  apply ends_mono _ _ _ _ _ _ (answer_ends _ t)
  · intro event _ hreturned
    obtain ⟨rfl, _⟩ := hreturned
    exact ht
  · intro e _ hraised
    subst hraised
    exact ht.1

theorem resumeAfterApproval_ends (checkpointId decision : String) :
    Ends (runner.resumeAfterApproval checkpointId decision) s
      (fun reply t => t.calls =
          s.calls ++ [.resumeAfterApproval checkpointId decision s.session.committed] ∧
        ∃ history, runner.target.resumeAfterApproval history checkpointId decision = .ok reply)
      fun _ t => t.calls =
        s.calls ++ [.resumeAfterApproval checkpointId decision s.session.committed] := by
  apply ends_get _ s _ _
  refine ends_bind _ _ s (fun _ t => t.calls =
    s.calls ++ [.resumeAfterApproval checkpointId decision s.session.committed]) _ _
    (ends_of_ok _ _ _ _ _ _ rfl rfl) ?_
  intro _ t ht
  apply ends_mono _ _ _ _ _ _ (answer_ends _ t)
  · intro reply u hreturned
    obtain ⟨rfl, hreply⟩ := hreturned
    exact ⟨ht, u.toHistory, hreply⟩
  · intro e _ hraised
    subst hraised
    exact ht

theorem ingest_ends (event : ExtendedRunEvent) :
    Ends (runner.ingest event) s
      (fun _ t => t.calls = s.calls ++ [.ingested event] ∧
        runner.ingestRunEvent s.toHistory event s.session = .ok () t.session)
      fun _ t => t.calls = s.calls := by
  apply ends_get _ s _ _
  have hin : Ends (runner.ingestRunEvent s.toHistory event) s.session
      (fun _ t => runner.ingestRunEvent s.toHistory event s.session = .ok () t)
      fun _ _ => True := by
    cases hr : runner.ingestRunEvent s.toHistory event s.session with
    | ok _ t => exact .ok () t hr rfl
    | error e t => exact .error e t hr trivial
  refine ends_then _ _ s _ _ _ _ (onSession_ends _ s _ _ hin)
    (fun _ _ h => congrArg History.calls h.2) ?_
  intro _ t hend
  obtain ⟨hreturned, hhistory⟩ := hend
  refine ends_of_ok _ _ _ _ _ _ rfl ⟨?_, hreturned⟩
  show t.calls ++ _ = _
  rw [congrArg History.calls hhistory]

theorem link_ends (runId : String) (regressionRunId : ℕ) (scenarioId : String)
    (repetitionIndex : ℕ) :
    Ends (runner.link runId regressionRunId scenarioId repetitionIndex) s
      (fun _ t => t.calls = s.calls ++ [.linked t.session.committed] ∧
        (s.session.view.agentRuns.find? runId).isSome ∧
        Linked runId regressionRunId scenarioId repetitionIndex s.session.view t.session)
      fun _ t => t.calls = s.calls := by
  refine ends_then _ _ s _ _ _ _ (onSession_ends _ s _ _
    (persistRegressionLinkage_ends runner.db runId regressionRunId scenarioId repetitionIndex
      s.session)) (fun _ _ h => congrArg History.calls h.2) ?_
  intro _ t hreturned
  obtain ⟨⟨hrow, hlinked⟩, hhistory⟩ := hreturned
  refine ends_get _ t _ _ (ends_of_ok _ _ _ _ _ _ rfl ⟨?_, hrow, hlinked⟩)
  show t.calls ++ _ = _
  rw [congrArg History.calls hhistory]

theorem evaluate_ends (runId : String) :
    Ends (runner.evaluate runId) s
      (fun _ t => t.calls = s.calls ++ [.runEvaluation runId s.session.committed])
      fun _ t => t.calls = s.calls ++ [.runEvaluation runId s.session.committed] := by
  apply ends_get _ s _ _
  refine ends_bind _ _ s (fun _ t => t.calls =
    s.calls ++ [.runEvaluation runId s.session.committed]) _ _
    (ends_of_ok _ _ _ _ _ _ rfl rfl) ?_
  intro _ t ht
  apply ends_get _ t _ _
  exact ends_of_preserves _ _ (preserves_history (fun history => history.calls =
    s.calls ++ [.runEvaluation runId s.session.committed]) _) t ht

end Calls

/-! ### A gated slot -/

theorem runOneHitl_ends (runner : RegressionRunner) (regressionRunId : ℕ)
    (contract : ScenarioContract) (repetitionIndex : ℕ)
    (Replied : String → ExtendedRunEvent → Store → Prop) (runId : String)
    (hrunId : runId = regressionRunEventId regressionRunId contract.scenarioId repetitionIndex)
    (hreplied : ∀ history history' checkpointId reply s u t,
      runner.target.resumeAfterApproval history checkpointId "approve" = .ok reply →
      runner.ingestRunEvent history' (withRunId reply runId) s = .ok () u →
      Linked runId regressionRunId contract.scenarioId repetitionIndex u.view t →
      Replied checkpointId reply t.committed)
    (state : RunnerState) (hstate : state.calls = []) :
    Ends (runner.runOneHitl regressionRunId contract repetitionIndex) state
      (fun childRunId t =>
        GatedEnd runner.db Replied contract.scenarioId runId t.calls (.ok childRunId))
      fun e t => GatedEnd runner.db Replied contract.scenarioId runId t.calls (.error e) := by
  unfold RegressionRunner.runOneHitl
  simp only [← hrunId]
  refine ends_then _ _ state _ _ _ _ (runScenario_ends runner state contract) ?_ ?_
  · intro e t ht
    rw [ht, hstate]
    exact .dispatched e
  intro pending t1 hreturned
  obtain ⟨h1, _⟩ := hreturned
  rw [hstate, List.nil_append] at h1
  refine ends_then _ _ t1 _ _ _ _ (ingest_ends runner t1 _) ?_ ?_
  · intro e t ht
    rw [ht, h1]
    exact .dispatched e
  intro _ t2 hreturned
  obtain ⟨h2, _⟩ := hreturned
  rw [h1] at h2
  refine ends_then _ _ t2 _ _ _ _ (link_ends runner t2 _ _ _ _) ?_ ?_
  · intro e t ht
    rw [ht, h2]
    exact .ingested (withRunId pending runId) e rfl
  intro _ t3 hreturned
  obtain ⟨h3, hrow, hlinked⟩ := hreturned
  rw [h2] at h3
  have hstored : (t3.session.committed.agentRuns.find? runId).isSome := by
    obtain ⟨now, hcommitted⟩ := hlinked.committed
    rw [hcommitted, Platform.updateLinkage_find?, if_pos rfl, Option.isSome_map]
    exact hrow
  refine ends_then _ _ t3 _ _ _ _ (onSession_ends _ t3 _ _
    (assertHitlGateHeld_ends runner.db runId t3.session hlinked.view hstored)) ?_ ?_
  · intro e t hraised
    obtain ⟨he, hhistory⟩ := hraised
    rw [congrArg History.calls hhistory, h3]
    exact .stopped (withRunId pending runId) _ e rfl he
  intro checkpointId t4 hreturned
  obtain ⟨⟨hheld, hgate, _⟩, hhistory⟩ := hreturned
  have h4 : t4.calls = _ := (congrArg History.calls hhistory).trans h3
  refine ends_then _ _ t4 _ _ _ _ (resumeAfterApproval_ends runner t4 checkpointId "approve") ?_ ?_
  · intro e t ht
    rw [ht, h4, hgate]
    exact .resumed (withRunId pending runId) _ checkpointId e rfl hheld
  intro reply t5 hreturned
  obtain ⟨h5, history, hreply⟩ := hreturned
  rw [h4, hgate] at h5
  refine ends_then _ _ t5 _ _ _ _ (ingest_ends runner t5 _) ?_ ?_
  · intro e t ht
    rw [ht, h5]
    exact .resumed (withRunId pending runId) _ checkpointId e rfl hheld
  intro _ t6 hreturned
  obtain ⟨h6, hingested⟩ := hreturned
  rw [h5] at h6
  refine ends_then _ _ t6 _ _ _ _ (link_ends runner t6 _ _ _ _) ?_ ?_
  · intro e t ht
    rw [ht, h6]
    exact .reingested (withRunId pending runId) _ checkpointId reply e rfl hheld
  intro _ t7 hreturned
  obtain ⟨h7, _, hrelinked⟩ := hreturned
  rw [h6] at h7
  refine ends_bind _ _ t7 (fun _ t => t.calls = t7.calls ∧
    t.session.committed = t7.session.committed) _ _
    (ends_of_ok _ _ _ () _ _ rfl ⟨rfl, hrelinked.view⟩) ?_
  intro _ t8 hreturned
  obtain ⟨h8, hcommitted⟩ := hreturned
  have hend (outcome : Except Error String) : GatedEnd runner.db Replied contract.scenarioId runId
      (t8.calls ++ [.runEvaluation runId t8.session.committed]) outcome := by
    rw [h8, h7, hcommitted]
    exact .evaluated (withRunId pending runId) _ checkpointId reply _ outcome rfl hheld
      (hreplied history t5.toHistory checkpointId reply t5.session t6.session t7.session hreply
        hingested hrelinked)
  refine ends_then _ _ t8 _ _ _ _ (evaluate_ends runner t8 runId) ?_ ?_
  · intro e t ht
    rw [ht]
    exact hend _
  intro _ t9 h9
  apply ends_of_ok _ _ _ runId _ _ rfl
  rw [h9]
  exact hend _

/-! ### Every attempt of a run -/

/-- What holds of the earlier attempts and of the one that ended holds of all. -/
theorem forall_ended (P : Attempt → Prop) (slot : Slot) (outcome : Except Error String)
    (mid : RunnerState) (attempts : List Attempt) (hmid : mid.attempts = attempts)
    (hold : ∀ attempt ∈ attempts, P attempt) (hnew : P (attemptOf slot outcome mid)) :
    ∀ attempt ∈ (ended slot outcome mid).attempts, P attempt := by
  intro attempt hm
  rcases List.mem_append.mp hm with hm | hm
  · exact hold attempt (hmid ▸ hm)
  · rw [List.mem_singleton.mp hm]
    exact hnew

/-- What every slot ends in holds of every attempt of a run, however it ends. -/
theorem attempts_ends (runner : RegressionRunner) (regressionRunId : ℕ) (P : Attempt → Prop)
    (hslot : ∀ scenarioId contract repetitionIndex state,
      loadScenarioContract scenarioId = .ok contract → state.calls = [] →
      Ends (runner.runOne regressionRunId contract repetitionIndex) state
        (fun childRunId t => P (attemptOf ⟨scenarioId, repetitionIndex⟩ (.ok childRunId) t))
        fun e t => P (attemptOf ⟨scenarioId, repetitionIndex⟩ (.error e) t))
    (state : RunnerState) (hfresh : state.attempts = []) (row : RegressionRun)
    (hrow : state.session.view.regressionRuns.find? regressionRunId = some row) :
    Ends (runner.run regressionRunId) state (fun _ t => ∀ attempt ∈ t.attempts, P attempt)
      fun _ t => ∀ attempt ∈ t.attempts, P attempt := by
  have hrun := run_ends runner regressionRunId (fun _ _ t => ∀ attempt ∈ t.attempts, P attempt)
    (fun _ t => ∀ attempt ∈ t.attempts, P attempt) state row hrow ?_ ?_ ?_ ?_ ?_
  · refine ends_mono _ _ _ _ _ _ hrun ?_ fun _ _ h => h
    intro result t hreturned
    obtain ⟨_, _, mid, now, h, hhistory, _, _⟩ := hreturned
    rw [congrArg History.attempts hhistory]
    exact h
  · intro scenarioId _ contract hload repetitionIndex done progress t _ h
    have hone := ends_and _ _ _ _ _ _
      (runOne_attempts runner regressionRunId contract repetitionIndex (started t))
      (hslot scenarioId contract repetitionIndex (started t) hload rfl)
    refine runRepetition_ends runner regressionRunId scenarioId contract repetitionIndex t
      _ _ _ _ hone ?_ ?_ ?_ ?_
    · intro childRunId mid hmid
      exact forall_ended P _ _ mid t.attempts hmid.1 h hmid.2
    · intro e mid hmid _
      exact forall_ended P _ _ (rolledBack mid) t.attempts hmid.1 h hmid.2
    · intro e mid session now hmid _ _ _
      exact forall_ended P _ _ (rolledBack mid) t.attempts hmid.1 h hmid.2
    · intro e e' mid session hmid _ _ _
      exact forall_ended P _ _ (rolledBack mid) t.attempts hmid.1 h hmid.2
  · intro scenarioId _ e _ done progress t _ h
    exact h
  · intro session now _ _ attempt hm
    rw [hfresh] at hm
    cases hm
  · intro e session _ _ attempt hm
    rw [hfresh] at hm
    cases hm
  · intro e progress mid session _ h _
    exact h

/-- A gate violation ends the run: it is raised again, and the regression is stored as
failed. -/
theorem violations_ends (runner : RegressionRunner) (h : LeavesRegressions runner)
    (row : RegressionRun) (state : RunnerState) (hfresh : state.attempts = [])
    (hrow : state.session.view.regressionRuns.find? row.id = some row) :
    Ends (runner.run row.id) state
      (fun _ t => ∀ attempt ∈ t.attempts, ¬ attempt.Violating)
      fun e t => ∀ attempt ∈ t.attempts, attempt.Violating →
        RefusesRunner runner.db e ∨
          attempt.outcome = .error e ∧ Finished row.id .failed t.session.committed := by
  have hrun := run_ends runner row.id
    (fun done progress t => (∀ attempt ∈ t.attempts, ¬ attempt.Violating) ∧
      Stored row.id done progress t)
    (fun e t => ∀ attempt ∈ t.attempts, attempt.Violating →
      RefusesRunner runner.db e ∨
        attempt.outcome = .error e ∧ Finished row.id .failed t.session.committed)
    state row hrow ?_ ?_ ?_ ?_ ?_
  · refine ends_mono _ _ _ _ _ _ hrun ?_ fun _ _ h => h
    intro result t hreturned
    obtain ⟨_, _, mid, now, ⟨hmid, _⟩, hhistory, _, _⟩ := hreturned
    rw [congrArg History.attempts hhistory]
    exact hmid
  · rintro scenarioId _ contract _ repetitionIndex done progress t _
      ⟨hold, regressionRuns, hsome, hare⟩
    have hone := ends_and _ _ _ _ _ _
      (runOne_attempts runner row.id contract repetitionIndex (started t))
      (ends_of_preserves _ _ (kept_runOne runner _ (kept_regressions runner h regressionRuns)
        row.id contract repetitionIndex) (started t) hare)
    refine runRepetition_ends runner row.id scenarioId contract repetitionIndex t
      _ _ _ _ hone ?_ ?_ ?_ ?_
    · intro childRunId mid hmid
      refine ⟨?_, regressionRuns, hsome, hmid.2⟩
      apply forall_ended _ _ _ mid t.attempts hmid.1 hold
      intro hviolating
      obtain ⟨e, ho, _⟩ := hviolating
      cases ho
    · intro e mid hmid hv
      refine ⟨?_, regressionRuns, hsome, hmid.2.1, ?_⟩
      · apply forall_ended _ _ _ (rolledBack mid) t.attempts hmid.1 hold
        intro hviolating
        obtain ⟨e', ho, hv'⟩ := hviolating
        cases ho
        exact hv hv'
      · intro hopen
        cases hopen
    · intro e mid session now hraised _ _ hcommitted attempt hm hv
      obtain ⟨hmid, hkept⟩ := hraised
      rcases List.mem_append.mp hm with hm | hm
      · exact absurd hv (hold attempt (hmid ▸ hm))
      · rw [List.mem_singleton.mp hm]
        refine .inr ⟨rfl, ?_⟩
        show Finished row.id .failed session.committed
        rw [hcommitted]
        have hmidRuns : mid.session.committed.regressionRuns = regressionRuns := hkept.1
        apply finished_of_update row.id .failed _ now mid.session.committed
        rw [hmidRuns]
        exact hsome
    · intro e e' mid session _ _ hrefused _ attempt _ _
      exact .inl hrefused
  · intro scenarioId _ e _ done progress t _ hreturned attempt hm hv
    obtain ⟨hold, _⟩ := hreturned
    exact absurd hv (hold attempt hm)
  · intro session now hclosed hcommitted
    refine ⟨?_, session.committed.regressionRuns, ?_, rfl, ?_⟩
    · intro attempt hm
      rw [hfresh] at hm
      cases hm
    · rw [hcommitted, updateRegressionRun_find?, hrow]
      rfl
    · intro hopen
      rw [hclosed] at hopen
      cases hopen
  · intro e session hrefused _ attempt _ _
    exact .inl hrefused
  · intro e progress mid session hrefused _ _ attempt _ _
    exact .inl hrefused

/-- The attempt's contract expects a human decision. -/
def Attempt.Gated (attempt : Attempt) : Prop :=
  ∃ contract, loadScenarioContract attempt.slot.scenarioId = .ok contract ∧
    requiresHitlFlow contract = true

def Attempt.runId (regressionRunId : ℕ) (attempt : Attempt) : String :=
  regressionRunEventId regressionRunId attempt.slot.scenarioId attempt.slot.repetitionIndex

section Gated
variable (runner : RegressionRunner) (regressionRunId : ℕ)
  (Replied : String → String → ExtendedRunEvent → Store → Prop)
  (hreplied : ∀ slotRunId scenarioId repetitionIndex history history' checkpointId reply s u t,
    runner.target.resumeAfterApproval history checkpointId "approve" = .ok reply →
    runner.ingestRunEvent history' (withRunId reply slotRunId) s = .ok () u →
    Linked slotRunId regressionRunId scenarioId repetitionIndex u.view t →
    Replied slotRunId checkpointId reply t.committed)

/-- How a gated attempt ends; of the others nothing is said. -/
def EndsGated (attempt : Attempt) : Prop :=
  attempt.Gated → GatedEnd runner.db (Replied (attempt.runId regressionRunId))
    attempt.slot.scenarioId (attempt.runId regressionRunId) attempt.calls attempt.outcome

include hreplied

theorem runOne_endsGated (scenarioId : String) (contract : ScenarioContract)
    (repetitionIndex : ℕ) (state : RunnerState)
    (hload : loadScenarioContract scenarioId = .ok contract) (hstate : state.calls = []) :
    Ends (runner.runOne regressionRunId contract repetitionIndex) state
      (fun childRunId t => EndsGated runner regressionRunId Replied
        (attemptOf ⟨scenarioId, repetitionIndex⟩ (.ok childRunId) t))
      fun e t => EndsGated runner regressionRunId Replied
        (attemptOf ⟨scenarioId, repetitionIndex⟩ (.error e) t) := by
  have hid := loadScenarioContract_id scenarioId contract hload
  unfold RegressionRunner.runOne
  cases hflow : requiresHitlFlow contract with
  | true =>
    have hend := runOneHitl_ends runner regressionRunId contract repetitionIndex
      (Replied (regressionRunEventId regressionRunId contract.scenarioId repetitionIndex)) _ rfl
      (hreplied _ _ _) state hstate
    rw [hid] at hend
    exact ends_mono _ _ _ _ _ _ hend (fun _ _ h _ => h) fun _ _ h _ => h
  | false =>
    have hungated (outcome : Except Error String) (t : RunnerState) :
        ¬ (attemptOf ⟨scenarioId, repetitionIndex⟩ outcome t).Gated := by
      intro hgated
      obtain ⟨contract', hload', hflow'⟩ := hgated
      have hsame : loadScenarioContract scenarioId = .ok contract' := hload'
      rw [hload] at hsame
      cases hsame
      rw [hflow] at hflow'
      cases hflow'
    exact ends_always _ _ _ _ (fun _ t hgated => absurd hgated (hungated _ t))
      fun _ t hgated => absurd hgated (hungated _ t)

theorem gatedAttempts_ends (state : RunnerState) (hfresh : state.attempts = [])
    (row : RegressionRun)
    (hrow : state.session.view.regressionRuns.find? regressionRunId = some row) :
    Ends (runner.run regressionRunId) state
      (fun _ t => ∀ attempt ∈ t.attempts, EndsGated runner regressionRunId Replied attempt)
      fun _ t => ∀ attempt ∈ t.attempts, EndsGated runner regressionRunId Replied attempt :=
  attempts_ends runner regressionRunId _ (runOne_endsGated runner regressionRunId Replied hreplied)
    state hfresh row hrow

end Gated

/-! ### Safety of the gate -/

/-- The target answered a resumption at this checkpoint with this event. -/
def RepliedBy (target : AgentTarget) (checkpointId : String) (reply : ExtendedRunEvent) : Prop :=
  ∃ history, target.resumeAfterApproval history checkpointId "approve" = .ok reply

def Call.resumes : Call → Bool
  | .resumeAfterApproval _ _ _ => true
  | _ => false

def Call.evaluates : Call → Bool
  | .runEvaluation _ _ => true
  | _ => false

theorem gatedEnd_once (db : Database) (Replied : String → ExtendedRunEvent → Store → Prop)
    (scenarioId runId : String) (calls : List Call) (outcome : Except Error String)
    (h : GatedEnd db Replied scenarioId runId calls outcome) :
    calls.countP Call.resumes ≤ 1 ∧ calls.countP Call.evaluates ≤ 1 := by
  cases h <;> simp [List.countP_cons, Call.resumes, Call.evaluates]

/-- What the gate promises of an attempt whose contract expects a human decision. -/
structure GateSafe (runner : RegressionRunner) (regressionRunId : ℕ) (attempt : Attempt) :
    Prop where
  resumedOnce : attempt.calls.countP Call.resumes ≤ 1
  evaluatedOnce : attempt.calls.countP Call.evaluates ≤ 1
  ending : GatedEnd runner.db (fun checkpointId reply _ => RepliedBy runner.target checkpointId
    reply) attempt.slot.scenarioId (attempt.runId regressionRunId) attempt.calls attempt.outcome

/-- In every run, whatever the target does and whatever is stored, the gate is safe in
every gated slot, and a violation of it fails the regression. -/
theorem hitl_gate_safety (runner : RegressionRunner) (h : LeavesRegressions runner)
    (row : RegressionRun) (state : RunnerState) (hfresh : state.attempts = [])
    (hrow : state.session.view.regressionRuns.find? row.id = some row) :
    Ends (runner.run row.id) state
      (fun _ t => (∀ attempt ∈ t.attempts, attempt.Gated → GateSafe runner row.id attempt) ∧
        ∀ attempt ∈ t.attempts, ¬ attempt.Violating)
      fun e t => (∀ attempt ∈ t.attempts, attempt.Gated → GateSafe runner row.id attempt) ∧
        ∀ attempt ∈ t.attempts, attempt.Violating →
          RefusesRunner runner.db e ∨
            attempt.outcome = .error e ∧ Finished row.id .failed t.session.committed := by
  have hgated := gatedAttempts_ends runner row.id
    (fun _ checkpointId reply _ => RepliedBy runner.target checkpointId reply)
    (fun _ _ _ history _ _ _ _ _ _ hreply _ _ => ⟨history, hreply⟩) state hfresh row hrow
  have hsafe (attempts : List Attempt) (hends : ∀ attempt ∈ attempts,
      EndsGated runner row.id (fun _ checkpointId reply _ => RepliedBy runner.target checkpointId
        reply) attempt) :
      ∀ attempt ∈ attempts, attempt.Gated → GateSafe runner row.id attempt := by
    intro attempt hm hg
    have hend := hends attempt hm hg
    obtain ⟨hresumed, hevaluated⟩ := gatedEnd_once _ _ _ _ _ _ hend
    exact ⟨hresumed, hevaluated, hend⟩
  exact ends_and _ _ _ _ _ _
    (ends_mono _ _ _ _ _ _ hgated (fun _ t => hsafe t.attempts) fun _ t => hsafe t.attempts)
    (violations_ends runner h row state hfresh hrow)

theorem hitl_gate_safety_twoByTwo :
    Ends (sampleRunner.run 1) (sampleState twoByTwo)
      (fun _ t => (∀ attempt ∈ t.attempts, attempt.Gated → GateSafe sampleRunner 1 attempt) ∧
        ∀ attempt ∈ t.attempts, ¬ attempt.Violating)
      fun e t => (∀ attempt ∈ t.attempts, attempt.Gated → GateSafe sampleRunner 1 attempt) ∧
        ∀ attempt ∈ t.attempts, attempt.Violating →
          RefusesRunner sampleRunner.db e ∨
            attempt.outcome = .error e ∧ Finished 1 .failed t.session.committed :=
  hitl_gate_safety sampleRunner (default_leavesRegressions _ _ _ _) twoByTwo (sampleState twoByTwo)
    rfl (sampleState_row _ _)

end ObsPlatform.Regressions
