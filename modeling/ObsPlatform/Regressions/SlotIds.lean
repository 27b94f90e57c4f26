import ObsPlatform.Evaluation.Recorded
import ObsPlatform.Lib.Delimited
import ObsPlatform.Platform.ConcurrentReads
import ObsPlatform.Regressions.Status

/-!
# The run ids of slots

A slot writes under one run id, put together from the regression, the scenario and the
repetition. The scenario's text may contain the separators of the id; the two numbers
cannot, so the id tells its parts apart, and no slot touches the rows of another.
-/

namespace ObsPlatform.Regressions

open Telemetry Db UnitOfWork Evaluation Stateful Ingestion Platform

theorem regressionRunEventId_toList (regressionRunId : ℕ) (scenarioId : String)
    (repetitionIndex : ℕ) :
    (regressionRunEventId regressionRunId scenarioId repetitionIndex).toList =
      "phase7-regression-".toList ++ ((toString regressionRunId).toList ++ '-' ::
        ((scenarioId.toList ++ "-rep".toList) ++ '-' :: (toString repetitionIndex).toList)) := by
  have hfirst : "-".toList = ['-'] := by decide
  have hlast : "-rep-".toList = "-rep".toList ++ ['-'] := by decide
  unfold regressionRunEventId
  simp only [String.toList_append, hfirst, hlast]
  simp only [List.append_assoc, List.cons_append, List.nil_append]

theorem regressionRunEventId_inj (regressionRunId : ℕ) (scenarioId : String)
    (repetitionIndex regressionRunId' : ℕ) (scenarioId' : String) (repetitionIndex' : ℕ)
    (h : regressionRunEventId regressionRunId scenarioId repetitionIndex =
      regressionRunEventId regressionRunId' scenarioId' repetitionIndex') :
    regressionRunId = regressionRunId' ∧ scenarioId = scenarioId' ∧
      repetitionIndex = repetitionIndex' := by
  have htexts := congrArg String.toList h
  rw [regressionRunEventId_toList, regressionRunEventId_toList] at htexts
  obtain ⟨hregression, hscenario, hrepetition⟩ := numbered_inj '-' (by decide) _ _ _ _ _ _
    (List.append_cancel_left htexts)
  exact ⟨hregression, String.toList_inj.mp (List.append_cancel_right hscenario), hrepetition⟩

/-! ### The rows of a run -/

/-- The same rows are stored under the run id, in every table that has one. -/
structure SameRows (runId : String) (store store' : Store) : Prop
    extends SameRun runId store store' where
  evaluationResults : (store'.evaluationResults.filter fun row => row.runId = runId) =
    store.evaluationResults.filter fun row => row.runId = runId
  judgeCalls : (store'.judgeCalls.filter fun row => row.runId = runId) =
    store.judgeCalls.filter fun row => row.runId = runId
  runFailure : store'.runFailures.find? runId = store.runFailures.find? runId

theorem sameRows_refl (runId : String) (store : Store) : SameRows runId store store :=
  ⟨⟨rfl, List.Perm.refl _, rfl, rfl⟩, rfl, rfl, rfl⟩

theorem sameRows_trans (runId : String) (a b c : Store) (hab : SameRows runId a b)
    (hbc : SameRows runId b c) : SameRows runId a c :=
  ⟨sameRun_trans runId a b c hab.toSameRun hbc.toSameRun,
    hbc.evaluationResults.trans hab.evaluationResults, hbc.judgeCalls.trans hab.judgeCalls,
    hbc.runFailure.trans hab.runFailure⟩

section Writes
variable (runId otherId : String) (hne : otherId ≠ runId) (store : Store)
include hne

theorem ingest_sameRows (event : ExtendedRunEvent) (hevent : event.runId = runId)
    (now : Timestamp) (store' : Store) (h : ingestEffect event now store = .ok store') :
    SameRows otherId store store' := by
  have hrun := ingestEffect_sameRun otherId event now store store' (hevent ▸ hne.symm) h
  obtain ⟨_, spans, toolCalls, llmCalls, _, _, _, rfl⟩ := ingestEffect_stages event now _ _ h
  exact ⟨hrun, rfl, rfl, rfl⟩

theorem link_sameRows (regressionRunId : ℕ) (scenarioId : String) (repetitionIndex : ℕ)
    (now : Timestamp) : SameRows otherId store
      (updateLinkage runId regressionRunId scenarioId repetitionIndex now store) := by
  have hrow := Table.find?_modify store.agentRuns runId otherId
    (linkAgentRun regressionRunId scenarioId repetitionIndex now) fun _ h => h
  rw [if_neg hne] at hrow
  exact ⟨⟨hrow, List.Perm.refl _, rfl, rfl⟩, rfl, rfl, rfl⟩

theorem insertEvaluationResult_sameRows (record : ℕ → Db.EvaluationResult)
    (hrecord : ∀ id, (record id).runId = runId) :
    SameRows otherId store (insertEvaluationResult record store) := by
  refine ⟨⟨rfl, List.Perm.refl _, rfl, rfl⟩, ?_, rfl, rfl⟩
  simp [insertEvaluationResult, List.filter_append, hrecord, hne.symm]

theorem insertJudgeCall_sameRows (record : ℕ → JudgeCall)
    (hrecord : ∀ id, (record id).runId = runId) :
    SameRows otherId store (insertJudgeCall record store) := by
  refine ⟨⟨rfl, List.Perm.refl _, rfl, rfl⟩, rfl, ?_, rfl⟩
  simp [insertJudgeCall, List.filter_append, hrecord, hne.symm]

theorem upsertRunFailure_sameRows (values : RunFailure) (hvalues : values.runId = runId) :
    SameRows otherId store (upsertRunFailure values store) :=
  ⟨⟨rfl, List.Perm.refl _, rfl, rfl⟩, rfl, rfl,
    upsertRunFailure_other values store otherId (hvalues ▸ hne)⟩

end Writes

/-! ### What a slot writes -/

/-- The committed store and the open transaction hold the rows of the reference. -/
def RowsAre (runId : String) (reference : Store) (state : RunnerState) : Prop :=
  Sound (SameRows runId reference) state.session

/-- From some state on, the computation changes what is stored under the run id. -/
def WritesTo {α : Type} (x : RunnerM α) (runId : String) : Prop :=
  ∃ reference state, RowsAre runId reference state ∧ ¬ RowsAre runId reference (after x state)

section Slot
variable (db : Database) (target : AgentTarget) (environment : History → JudgeEnvironment)
  (libraries : JudgeLibraries)

theorem keptFor_otherRows (runId otherId : String) (hne : otherId ≠ runId) (reference : Store) :
    KeptFor (defaultRunner db target environment libraries) runId (RowsAre otherId reference) := by
  apply keptFor_sound
  · intro history event hevent
    refine preserves_bind _ _ _ (sound_ingestRunEvent _ db event ?_) fun _ => preserves_pure _ _
    intro now store store' hstore heffect
    exact sameRows_trans otherId reference store store' hstore
      (ingest_sameRows runId otherId hne store event hevent now store' heffect)
  · intro regressionRunId scenarioId repetitionIndex
    apply sound_persistRegressionLinkage
    intro now store hstore
    exact sameRows_trans otherId reference store _ hstore
      (link_sameRows runId otherId hne store regressionRunId scenarioId repetitionIndex now)
  · intro history
    have hwrites : WritesKeep (SameRows otherId reference) db runId := by
      constructor
      · intro _ _ _ _ _ n store hstore
        exact sameRows_trans otherId reference store _ hstore
          (insertEvaluationResult_sameRows runId otherId hne store _ fun _ => rfl)
      · intro _ _ _ _ n store hstore
        exact sameRows_trans otherId reference store _ hstore
          (insertJudgeCall_sameRows runId otherId hne store _ fun _ => rfl)
    refine preserves_bind _ _ _ (fun s hs => ?_) fun _ => preserves_pure _ _
    apply sound_runEvaluation_of _ db runId (acceptedKeep_of_writesKeep _ db runId hwrites) _ _ s hs
    intro view t _ m n store hstore _
    exact sameRows_trans otherId reference store _ hstore
      (upsertRunFailure_sameRows runId otherId hne store _ rfl)

/-- A slot writes under its own run id only. -/
theorem slot_writes_own (regressionRunId : ℕ) (contract : ScenarioContract) (repetitionIndex : ℕ)
    (runId : String) (h : WritesTo ((defaultRunner db target environment libraries).runOne
      regressionRunId contract repetitionIndex) runId) :
    runId = regressionRunEventId regressionRunId contract.scenarioId repetitionIndex := by
  by_contra hne
  obtain ⟨reference, state, hbefore, hafter⟩ := h
  apply hafter
  exact keptFor_runOne _ _ _ (keptFor_otherRows db target environment libraries _ runId hne
    reference) regressionRunId contract repetitionIndex rfl state hbefore

end Slot

/-! ### What a regression writes -/

theorem mark_sameRows (runId : String) (reference store : Store) (regressionRunId : ℕ)
    (status : RegressionStatus) (startedAt : Option Timestamp → Option Timestamp)
    (completedAt : Option Timestamp) (h : SameRows runId reference store) :
    SameRows runId reference
      (updateRegressionRun regressionRunId status startedAt completedAt store) :=
  ⟨⟨h.agentRun, h.spans, h.toolCalls, h.llmCalls⟩, h.evaluationResults, h.judgeCalls, h.runFailure⟩

/-- Marking a regression leaves the runs alone. -/
theorem mark_keeps (db : Database) (runId : String) (reference : Store) (regressionRunId : ℕ)
    (status : RegressionStatus) (startedAt : Timestamp → Option Timestamp → Option Timestamp)
    (completedAt : Timestamp → Option Timestamp) :
    Preserves (RowsAre runId reference) (onSession (do
      let now ← now db
      update db .regressionStatus
        (updateRegressionRun regressionRunId status (startedAt now) (completedAt now))
      commit)) := by
  apply preserves_onSession (Sound (SameRows runId reference))
  apply sound_mark _ db fun now =>
    updateRegressionRun regressionRunId status (startedAt now) (completedAt now)
  intro now
  apply sound_write
  intro store hstore
  exact mark_sameRows runId reference store regressionRunId status _ _ hstore

section Regression
variable (db : Database) (target : AgentTarget) (environment : History → JudgeEnvironment)
  (libraries : JudgeLibraries) (regressionRunId : ℕ) (runId : String)
  (hother : ∀ scenarioId repetitionIndex,
    runId ≠ regressionRunEventId regressionRunId scenarioId repetitionIndex)
  (reference : Store)
include hother

theorem runRepetition_keeps (scenarioId : String) (contract : ScenarioContract)
    (repetitionIndex : ℕ) : Preserves (RowsAre runId reference)
      ((defaultRunner db target environment libraries).runRepetition regressionRunId scenarioId
        contract repetitionIndex) := by
  have hone := keptFor_runOne _ _ _ (keptFor_otherRows db target environment libraries _ runId
    (hother contract.scenarioId repetitionIndex) reference) regressionRunId contract
    repetitionIndex rfl
  refine preserves_bind _ _ _ (preserves_modify _ _ fun _ h => h) fun _ => ?_
  apply preserves_tryCatch
  · refine preserves_bind _ _ _ hone fun childRunId => ?_
    refine preserves_bind _ _ _ (preserves_get _) fun state => ?_
    exact preserves_bind _ _ _ (preserves_modify _ _ fun _ h => h) fun _ => preserves_pure _ _
  · intro error
    refine preserves_bind _ _ _ (preserves_get _) fun state => ?_
    refine preserves_bind _ _ _ (preserves_onSession _ _ (sound_rollback _)) fun _ => ?_
    refine preserves_bind _ _ _ (preserves_modify _ _ fun _ h => h) fun _ => ?_
    cases error with
    | hitlGateViolation message =>
      exact preserves_bind _ _ _ (mark_keeps db runId reference regressionRunId .failed
        (fun _ startedAt => startedAt) some) fun _ => preserves_throw _ _
    | _ => exact preserves_pure _ _

theorem runRepetitions_keeps (scenarioId : String) (contract : ScenarioContract)
    (repetitionIndices : List ℕ) (progress : RegressionRunner.Progress) :
    Preserves (RowsAre runId reference)
      ((defaultRunner db target environment libraries).runRepetitions regressionRunId scenarioId
        contract repetitionIndices progress) := by
  induction repetitionIndices generalizing progress with
  | nil => exact preserves_pure _ _
  | cons repetitionIndex rest ih =>
    exact preserves_bind _ _ _ (runRepetition_keeps db target environment libraries
      regressionRunId runId hother reference scenarioId contract repetitionIndex) fun _ => ih _

theorem runScenarios_keeps (repetitions : ℕ) (scenarioIds : List String)
    (progress : RegressionRunner.Progress) : Preserves (RowsAre runId reference)
      ((defaultRunner db target environment libraries).runScenarios regressionRunId repetitions
        scenarioIds progress) := by
  induction scenarioIds generalizing progress with
  | nil => exact preserves_pure _ _
  | cons scenarioId rest ih =>
    refine preserves_bind _ _ _ (preserves_answer _ _) fun contract => ?_
    exact preserves_bind _ _ _ (runRepetitions_keeps db target environment libraries
      regressionRunId runId hother reference scenarioId contract _ progress) fun _ => ih _

theorem run_keeps : Preserves (RowsAre runId reference)
    ((defaultRunner db target environment libraries).run regressionRunId) := by
  intro state hstate
  have hread : Preserves (RowsAre runId reference) (onSession (query db.backend .regressionRun
      fun store => store.regressionRuns.find? regressionRunId)) :=
    preserves_onSession _ _ (sound_query _ db.backend .regressionRun _)
  apply after_bind (RowsAre runId reference) _ _ state (hread state hstate)
  intro found t hfound ht
  cases found with
  | none => exact ht
  | some row =>
    have hends := onSession_ends _ state _ _ (execute_ends db .regressionRun (.inl rfl)
      (fun store => (store.regressionRuns.find? regressionRunId, store)) state.session)
    have hrow := (ends_returns _ _ _ _ _ _ hends hfound).1.1
    have hid : row.id = regressionRunId := Table.key_of_find? _ _ row hrow.symm
    subst hid
    refine preserves_bind _ _ _ (mark_keeps db runId reference row.id .running
      (fun now _ => some now) fun _ => none) (fun _ => ?_) t ht
    refine preserves_bind _ _ _ (runScenarios_keeps db target environment libraries row.id runId
      hother reference row.repetitions row.scenarioIds ⟨[], []⟩) fun progress => ?_
    exact preserves_bind _ _ _ (mark_keeps db runId reference row.id .completed
      (fun _ startedAt => startedAt) some) fun _ => preserves_pure _ _

omit hother reference in
/-- A regression writes under the run ids of its own slots only. -/
theorem run_writes_own
    (h : WritesTo ((defaultRunner db target environment libraries).run regressionRunId) runId) :
    ∃ scenarioId repetitionIndex,
      runId = regressionRunEventId regressionRunId scenarioId repetitionIndex := by
  by_contra hnone
  have hother : ∀ scenarioId repetitionIndex,
      runId ≠ regressionRunEventId regressionRunId scenarioId repetitionIndex := by
    intro scenarioId repetitionIndex hid
    exact hnone ⟨scenarioId, repetitionIndex, hid⟩
  obtain ⟨reference, state, hbefore, hafter⟩ := h
  exact hafter (run_keeps db target environment libraries regressionRunId runId hother reference
    state hbefore)

end Regression

/-- So two regressions leave each other's runs alone. -/
theorem regressions_write_apart (db db' : Database) (target target' : AgentTarget)
    (environment environment' : History → JudgeEnvironment) (libraries libraries' : JudgeLibraries)
    (regressionRunId regressionRunId' : ℕ) (runId : String)
    (h : WritesTo ((defaultRunner db target environment libraries).run regressionRunId) runId)
    (h' : WritesTo ((defaultRunner db' target' environment' libraries').run regressionRunId')
      runId) : regressionRunId = regressionRunId' := by
  obtain ⟨_, _, hid⟩ := run_writes_own db target environment libraries _ _ h
  obtain ⟨_, _, hid'⟩ := run_writes_own db' target' environment' libraries' _ _ h'
  exact (regressionRunEventId_inj _ _ _ _ _ _ (hid.symm.trans hid')).1

/-! ### Slots -/

/-- The run id of a slot determines the regression, the scenario and the repetition, and two
slots that write under one run id, of whichever regressions, are the same slot. -/
theorem slot_run_ids_distinct :
    (∀ regressionRunId scenarioId repetitionIndex regressionRunId' scenarioId' repetitionIndex',
      regressionRunEventId regressionRunId scenarioId repetitionIndex =
        regressionRunEventId regressionRunId' scenarioId' repetitionIndex' →
      regressionRunId = regressionRunId' ∧ scenarioId = scenarioId' ∧
        repetitionIndex = repetitionIndex') ∧
    ∀ (db db' : Database) (target target' : AgentTarget)
      (environment environment' : History → JudgeEnvironment)
      (libraries libraries' : JudgeLibraries) (regressionRunId regressionRunId' : ℕ)
      (contract contract' : ScenarioContract) (repetitionIndex repetitionIndex' : ℕ)
      (runId : String),
      WritesTo ((defaultRunner db target environment libraries).runOne regressionRunId contract
        repetitionIndex) runId →
      WritesTo ((defaultRunner db' target' environment' libraries').runOne regressionRunId'
        contract' repetitionIndex') runId →
      regressionRunId = regressionRunId' ∧ contract.scenarioId = contract'.scenarioId ∧
        repetitionIndex = repetitionIndex' := by
  refine ⟨regressionRunEventId_inj, ?_⟩
  intro db db' target target' environment environment' libraries libraries' regressionRunId
    regressionRunId' contract contract' repetitionIndex repetitionIndex' runId hwrites hwrites'
  have hown := slot_writes_own db target environment libraries _ _ _ runId hwrites
  have hown' := slot_writes_own db' target' environment' libraries' _ _ _ runId hwrites'
  exact regressionRunEventId_inj _ _ _ _ _ _ (hown.symm.trans hown')

/- The first two repetitions of a scenario, each played from the sample regression. -/
theorem slot_run_ids_distinct_sample :
    WritesTo (sampleRunner.runOne 1 gs01 0) "phase7-regression-1-GS-01-rep-0" ∧
      ¬ WritesTo (sampleRunner.runOne 1 gs01 1) "phase7-regression-1-GS-01-rep-0" := by
  have hwrites : WritesTo (sampleRunner.runOne 1 gs01 0) "phase7-regression-1-GS-01-rep-0" := by
    refine ⟨_, sampleState twoByTwo, sound_fresh _ _ (sameRows_refl _ _), ?_⟩
    intro hsame
    have hstored := congrArg Option.isSome hsame.1.agentRun
    revert hstored
    decide +kernel
  refine ⟨hwrites, ?_⟩
  intro hwrites'
  obtain ⟨_, _, hrepetition⟩ := slot_run_ids_distinct.2 .plain .plain sampleTarget sampleTarget
    _ _ _ _ 1 1 gs01 gs01 0 1 _ hwrites hwrites'
  cases hrepetition

end ObsPlatform.Regressions
