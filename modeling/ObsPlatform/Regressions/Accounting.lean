import ObsPlatform.Regressions.Steps

/-!
# Slot accounting

Whatever the target, the ingestion and the evaluation do, the slots of a regression
are attempted in order, each once, until one raises a gate violation. The run ids and
the errors the runner returns are those of the attempts, and its rollbacks undo
nothing that was committed.
-/

namespace ObsPlatform.Regressions

open Db UnitOfWork Evaluation Stateful

def Attempt.createdRunId (attempt : Attempt) : Option String :=
  match attempt.outcome with
  | .ok childRunId => some childRunId
  | .error _ => none

def Attempt.error (attempt : Attempt) : Option RegressionRunError :=
  match attempt.outcome with
  | .ok _ => none
  | .error e => some (errorOf attempt.slot e)

/-- The attempt ended with a gate violation. -/
def Attempt.Violating (attempt : Attempt) : Prop :=
  ∃ e, attempt.outcome = .error e ∧ GateViolation e

/-- What is on record about an attempt of a regression. -/
structure Attempted (regressionRunId : ℕ) (attempt : Attempt) : Prop where
  runId : ∀ childRunId, attempt.outcome = .ok childRunId → childRunId =
    regressionRunEventId regressionRunId attempt.slot.scenarioId attempt.slot.repetitionIndex
  rollback : attempt.settled = attempt.committed

/-! ### One slot -/

section Slot
variable (runner : RegressionRunner) (regressionRunId : ℕ) (contract : ScenarioContract)
  (repetitionIndex : ℕ)

/-- A slot that returns returns its own run id. -/
theorem runOne_runId (state : RunnerState) :
    Ends (runner.runOne regressionRunId contract repetitionIndex) state
      (fun childRunId _ => childRunId =
        regressionRunEventId regressionRunId contract.scenarioId repetitionIndex)
      fun _ _ => True := by
  unfold RegressionRunner.runOne
  cases requiresHitlFlow contract with
  | true =>
    refine ends_second _ _ _ _ fun pendingEvent t1 => ?_
    refine ends_second _ _ _ _ fun _ t2 => ?_
    refine ends_second _ _ _ _ fun _ t3 => ?_
    refine ends_second _ _ _ _ fun checkpointId t4 => ?_
    refine ends_second _ _ _ _ fun approvedEvent t5 => ?_
    refine ends_second _ _ _ _ fun _ t6 => ?_
    refine ends_second _ _ _ _ fun _ t7 => ?_
    refine ends_second _ _ _ _ fun _ t8 => ?_
    exact ends_second _ _ _ _ fun _ t9 => .ok _ t9 rfl rfl
  | false =>
    refine ends_second _ _ _ _ fun event t1 => ?_
    refine ends_second _ _ _ _ fun _ t2 => ?_
    refine ends_second _ _ _ _ fun _ t3 => ?_
    refine ends_second _ _ _ _ fun _ t4 => ?_
    exact ends_second _ _ _ _ fun _ t5 => .ok _ t5 rfl rfl

theorem runOne_attempts (state : RunnerState) :
    Ends (runner.runOne regressionRunId contract repetitionIndex) state
      (fun _ t => t.attempts = state.attempts) fun _ t => t.attempts = state.attempts :=
  ends_of_preserves _ _
    (kept_runOne runner _ (kept_attempts runner fun attempts => attempts = state.attempts)
      regressionRunId contract repetitionIndex) state rfl

end Slot

/-! ### The loops -/

/-- The attempts so far are those of the slots done, and none violated the gate. -/
structure Accounted (regressionRunId : ℕ) (done : List Slot)
    (progress : RegressionRunner.Progress) (state : RunnerState) : Prop where
  slots : state.attempts.map Attempt.slot = done
  attempted : ∀ attempt ∈ state.attempts, Attempted regressionRunId attempt
  unviolated : ∀ attempt ∈ state.attempts, ¬ attempt.Violating
  createdRunIds : progress.createdRunIds = state.attempts.filterMap Attempt.createdRunId
  errors : progress.errors = state.attempts.filterMap Attempt.error

/-- How a run can raise: on a gate violation of the last slot attempted, or because the
server refused a statement of the runner itself. -/
structure Aborted (db : Database) (regressionRunId : ℕ) (all : List Slot) (e : Error)
    (state : RunnerState) : Prop where
  slots : state.attempts.map Attempt.slot <+: all
  attempted : ∀ attempt ∈ state.attempts, Attempted regressionRunId attempt
  cause : (∀ attempt ∈ state.attempts.dropLast, ¬ attempt.Violating) ∧
    (RefusesRunner db e ∨ GateViolation e ∧ ∃ last, state.attempts.getLast? = some last ∧
      last.outcome = .error e)

theorem createdRunId_or_error (attempts : List Attempt) :
    (attempts.filterMap Attempt.createdRunId).length +
      (attempts.filterMap Attempt.error).length = attempts.length := by
  induction attempts with
  | nil => rfl
  | cons attempt attempts ih =>
    cases ho : attempt.outcome with
    | ok childRunId =>
      have hc : attempt.createdRunId = some childRunId := by simp only [Attempt.createdRunId, ho]
      have he : attempt.error = none := by simp only [Attempt.error, ho]
      simp only [List.filterMap_cons, hc, he, List.length_cons]
      omega
    | error e =>
      have hc : attempt.createdRunId = none := by simp only [Attempt.createdRunId, ho]
      have he : attempt.error = some (errorOf attempt.slot e) := by simp only [Attempt.error, ho]
      simp only [List.filterMap_cons, hc, he, List.length_cons]
      omega

section Loops
variable (runner : RegressionRunner) (regressionRunId : ℕ) (all : List Slot)

/-- One more attempt, without a gate violation. -/
theorem accounted_ended (done : List Slot) (progress : RegressionRunner.Progress)
    (state mid : RunnerState) (h : Accounted regressionRunId done progress state)
    (hmid : mid.attempts = state.attempts) (slot : Slot) (outcome : Except Error String)
    (hrunId : ∀ childRunId, outcome = .ok childRunId →
      childRunId = regressionRunEventId regressionRunId slot.scenarioId slot.repetitionIndex)
    (hviolation : ∀ e, outcome = .error e → ¬ GateViolation e) :
    Accounted regressionRunId (done ++ [slot])
      (progress.append (outcome.mapError (errorOf slot))) (ended slot outcome mid) where
  slots := by
    show (mid.attempts ++ [attemptOf slot outcome mid]).map Attempt.slot = _
    rw [List.map_append, hmid, h.slots]
    rfl
  attempted := by
    intro attempt hm
    rcases List.mem_append.mp hm with hold | hnew
    · exact h.attempted attempt (hmid ▸ hold)
    · rw [List.mem_singleton.mp hnew]
      exact ⟨hrunId, rfl⟩
  unviolated := by
    intro attempt hm
    rcases List.mem_append.mp hm with hold | hnew
    · exact h.unviolated attempt (hmid ▸ hold)
    · rw [List.mem_singleton.mp hnew]
      intro hviolating
      obtain ⟨e, ho, hv⟩ := hviolating
      exact hviolation e ho hv
  createdRunIds := by
    show _ = (mid.attempts ++ [attemptOf slot outcome mid]).filterMap Attempt.createdRunId
    rw [List.filterMap_append, hmid, ← h.createdRunIds]
    cases outcome with
    | ok childRunId => rfl
    | error e => exact (List.append_nil _).symm
  errors := by
    show _ = (mid.attempts ++ [attemptOf slot outcome mid]).filterMap Attempt.error
    rw [List.filterMap_append, hmid, ← h.errors]
    cases outcome with
    | ok childRunId => exact (List.append_nil _).symm
    | error e => rfl

/-- The attempt that violated the gate is the last. -/
theorem aborted_ended (done : List Slot) (progress : RegressionRunner.Progress)
    (state mid : RunnerState) (h : Accounted regressionRunId done progress state)
    (hmid : mid.attempts = state.attempts) (slot : Slot) (hall : done ++ [slot] <+: all)
    (e raisedError : Error) (hv : GateViolation e)
    (hcause : raisedError = e ∨ RefusesRunner runner.db raisedError) (session : DbSession) :
    Aborted runner.db regressionRunId all raisedError
      { ended slot (.error e) mid with session := session } where
  slots := by
    show (mid.attempts ++ [attemptOf slot (.error e) mid]).map Attempt.slot <+: all
    rw [List.map_append, hmid, h.slots]
    exact hall
  attempted := by
    intro attempt hm
    rcases List.mem_append.mp hm with hold | hnew
    · exact h.attempted attempt (hmid ▸ hold)
    · rw [List.mem_singleton.mp hnew]
      refine ⟨?_, rfl⟩
      intro childRunId ho
      cases ho
  cause := by
    show (∀ attempt ∈ (mid.attempts ++ [attemptOf slot (.error e) mid]).dropLast, _) ∧ _
    rw [List.dropLast_concat, hmid]
    refine ⟨h.unviolated, ?_⟩
    rcases hcause with rfl | hrefused
    · refine .inr ⟨hv, attemptOf slot (.error raisedError) mid, ?_, rfl⟩
      show (mid.attempts ++ [attemptOf slot (.error raisedError) mid]).getLast? = _
      exact List.getLast?_concat
    · exact .inl hrefused

theorem slotKeeps_accounted (scenarioId : String) (contract : ScenarioContract)
    (hcontract : contract.scenarioId = scenarioId) :
    SlotKeeps runner regressionRunId all (Accounted regressionRunId)
      (Aborted runner.db regressionRunId all) scenarioId contract := by
  intro repetitionIndex done progress state hall h
  have hone := ends_and _ _ _ _ _ _
    (runOne_attempts runner regressionRunId contract repetitionIndex (started state))
    (runOne_runId runner regressionRunId contract repetitionIndex (started state))
  refine runRepetition_ends runner regressionRunId scenarioId contract repetitionIndex state
    _ _ _ _ hone ?_ ?_ ?_ ?_
  · intro childRunId mid hreturned
    obtain ⟨hmid, hid⟩ := hreturned
    apply accounted_ended regressionRunId done progress state mid h hmid _ (.ok childRunId)
    · intro id hok
      cases hok
      rw [← hcontract]
      exact hid
    · intro e he
      cases he
  · intro e mid hraised hv
    obtain ⟨hmid, _⟩ := hraised
    refine accounted_ended regressionRunId done progress state (rolledBack mid) h hmid _ (.error e)
      ?_ ?_
    · intro id hok
      cases hok
    · intro e' he
      cases he
      exact hv
  · intro e mid session now hraised hv _ _
    obtain ⟨hmid, _⟩ := hraised
    exact aborted_ended runner regressionRunId all done progress state (rolledBack mid) h hmid _
      hall e e hv (.inl rfl) session
  · intro e e' mid session hraised hv hrefused _
    obtain ⟨hmid, _⟩ := hraised
    exact aborted_ended runner regressionRunId all done progress state (rolledBack mid) h hmid _
      hall e e' hv (.inr hrefused) session

end Loops

/-! ### The whole run -/

/-- What a regression of known scenarios accounts for: all its slots when it returns,
the slots up to the violation when it raises. -/
theorem slot_accounting (runner : RegressionRunner) (regressionRunId : ℕ) (state : RunnerState)
    (hfresh : state.attempts = []) (row : RegressionRun)
    (hrow : state.session.view.regressionRuns.find? regressionRunId = some row)
    (hknown : ∀ scenarioId ∈ row.scenarioIds, KnownScenario scenarioId) :
    Ends (runner.run regressionRunId) state
      (fun result t =>
        Accounted regressionRunId (slots row.scenarioIds row.repetitions)
          ⟨result.createdRunIds, result.errors⟩ t ∧
        result.createdRunIds.length + result.errors.length =
          row.scenarioIds.length * row.repetitions)
      (Aborted runner.db regressionRunId (slots row.scenarioIds row.repetitions)) := by
  have hrun := run_ends runner regressionRunId (Accounted regressionRunId)
    (Aborted runner.db regressionRunId (slots row.scenarioIds row.repetitions)) state row hrow
    ?_ ?_ ?_ ?_ ?_
  · refine ends_mono _ _ _ _ _ _ hrun ?_ fun _ _ h => h
    intro result t hreturned
    obtain ⟨_, _, mid, now, h, hhistory, _, _⟩ := hreturned
    have hattempts : t.attempts = mid.attempts := congrArg History.attempts hhistory
    have haccounted : Accounted regressionRunId (slots row.scenarioIds row.repetitions)
        ⟨result.createdRunIds, result.errors⟩ t := by
      obtain ⟨h1, h2, h3, h4, h5⟩ := h
      rw [← hattempts] at h1 h2 h3 h4 h5
      exact ⟨h1, h2, h3, h4, h5⟩
    refine ⟨haccounted, ?_⟩
    have hcount := createdRunId_or_error t.attempts
    have hlength := congrArg List.length haccounted.slots
    rw [List.length_map, slots_length] at hlength
    have hcreated := haccounted.createdRunIds
    have herrors := haccounted.errors
    simp only at hcreated herrors
    rw [hcreated, herrors, hcount, hlength]
  · intro scenarioId _ contract hload
    have hid := loadScenarioContract_id scenarioId contract hload
    exact slotKeeps_accounted runner regressionRunId _ scenarioId contract hid
  · intro scenarioId hmem e hload
    exact absurd (hknown scenarioId hmem) (unknown_of_load_error scenarioId e hload)
  · intro session now _ _
    refine ⟨?_, ?_, ?_, ?_, ?_⟩ <;> simp [hfresh]
  · intro e session hrefused _
    refine ⟨?_, ?_, ?_, .inl hrefused⟩ <;> simp [hfresh]
  · intro e progress mid session hrefused h _
    refine ⟨?_, h.attempted, ?_, .inl hrefused⟩
    · rw [h.slots]
    · intro attempt hm
      exact h.unviolated attempt (List.mem_of_mem_dropLast hm)

theorem slot_accounting_twoByTwo :
    Ends (sampleRunner.run 1) (sampleState twoByTwo)
      (fun result t =>
        Accounted 1 (slots twoByTwo.scenarioIds twoByTwo.repetitions)
          ⟨result.createdRunIds, result.errors⟩ t ∧
        result.createdRunIds.length + result.errors.length =
          twoByTwo.scenarioIds.length * twoByTwo.repetitions)
      (Aborted sampleRunner.db 1 (slots twoByTwo.scenarioIds twoByTwo.repetitions)) :=
  slot_accounting sampleRunner 1 (sampleState twoByTwo) rfl twoByTwo (sampleState_row _ _)
    (by decide)

end ObsPlatform.Regressions
