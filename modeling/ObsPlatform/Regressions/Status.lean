import ObsPlatform.Regressions.Accounting
import ObsPlatform.Platform.Reachable

/-!
# The status a run leaves behind

A regression whose scenarios are all known ends completed or failed, whatever its
slots do. Loading a contract happens outside the handlers: an unknown scenario id
raises there and leaves the regression running.
-/

namespace ObsPlatform.Regressions

open Telemetry Db UnitOfWork Evaluation Stateful Platform

/-- The regression is stored with this status and a completion time. -/
def Finished (regressionRunId : ℕ) (status : RegressionStatus) (store : Store) : Prop :=
  ∃ row, store.regressionRuns.find? regressionRunId = some row ∧ row.status = status ∧
    row.completedAt.isSome

/-- A run that returns leaves its regression completed, one that raises leaves it failed. -/
def LeavesTerminalStatus (runner : RegressionRunner) (regressionRunId : ℕ)
    (state : RunnerState) : Prop :=
  Ends (runner.run regressionRunId) state
    (fun _ t => Finished regressionRunId .completed t.session.committed)
    fun _ t => Finished regressionRunId .failed t.session.committed

/-- Ingestion and evaluation, whatever else they do, leave regression_runs alone. -/
structure LeavesRegressions (runner : RegressionRunner) : Prop where
  ingest : ∀ history event regressionRuns,
    Preserves (Sound fun store => store.regressionRuns = regressionRuns)
      (runner.ingestRunEvent history event)
  evaluate : ∀ history runId regressionRuns,
    Preserves (Sound fun store => store.regressionRuns = regressionRuns)
      (runner.runEvaluation history runId)

theorem defaultIngest_leavesRegressions (db : Database) (history : History)
    (event : ExtendedRunEvent) (regressionRuns : Table RegressionRun.id) :
    Preserves (Sound fun store => store.regressionRuns = regressionRuns)
      (defaultIngestRunEvent db history event) := by
  refine preserves_bind _ _ _ (sound_ingestRunEvent _ db event ?_) fun _ => preserves_pure _ _
  intro now store store' h heffect
  exact (Ingestion.ingestEffect_regressionRuns event now store store' heffect).trans h

theorem default_leavesRegressions (db : Database) (target : AgentTarget)
    (environment : History → JudgeEnvironment) (libraries : JudgeLibraries) :
    LeavesRegressions (defaultRunner db target environment libraries) where
  ingest := defaultIngest_leavesRegressions db
  evaluate := by
    intro history runId regressionRuns
    have hkeeps : EvaluationKeeps fun store => store.regressionRuns = regressionRuns :=
      ⟨fun _ _ h => h, fun _ _ h => h, fun _ _ h => h⟩
    exact preserves_bind _ _ _ (sound_runEvaluation _ db hkeeps _ _ _) fun _ => preserves_pure _ _

/-! ### Status updates -/

theorem updateRegressionRun_find? (regressionRunId : ℕ) (status : RegressionStatus)
    (startedAt : Option Timestamp → Option Timestamp) (completedAt : Option Timestamp)
    (store : Store) :
    (updateRegressionRun regressionRunId status startedAt completedAt store).regressionRuns.find?
        regressionRunId =
      (store.regressionRuns.find? regressionRunId).map fun row => { row with
        status := status, startedAt := startedAt row.startedAt, completedAt := completedAt } := by
  have h := Table.find?_modify store.regressionRuns regressionRunId regressionRunId
    (fun row => { row with
      status := status, startedAt := startedAt row.startedAt, completedAt := completedAt })
    (fun _ h => h)
  rw [if_pos rfl] at h
  exact h

theorem finished_of_update (regressionRunId : ℕ) (status : RegressionStatus)
    (startedAt : Option Timestamp → Option Timestamp) (now : Timestamp) (store : Store)
    (h : (store.regressionRuns.find? regressionRunId).isSome) :
    Finished regressionRunId status
      (updateRegressionRun regressionRunId status startedAt (some now) store) := by
  obtain ⟨row, hrow⟩ := Option.isSome_iff_exists.mp h
  have hf := updateRegressionRun_find? regressionRunId status startedAt (some now) store
  rw [hrow, Option.map_some] at hf
  exact ⟨_, hf, rfl, rfl⟩

/-! ### What the slots keep -/

theorem sound_assertHitlGateHeld (I : Store → Prop) (db : Database) (runId : String) :
    Preserves (Sound I) (assertHitlGateHeld db runId) := by
  refine preserves_bind _ _ _ (sound_selectAgentRun I db runId) fun run => ?_
  cases run with
  | none => exact preserves_throw _ _
  | some run =>
    dsimp only
    split
    · exact preserves_throw _ _
    · split
      · exact preserves_throw _ _
      · split
        · exact preserves_throw _ _
        · refine preserves_bind _ _ _ (sound_read I db _) fun submitted => ?_
          split
          · exact preserves_throw _ _
          · exact preserves_bind _ _ _ (sound_commit I) fun _ => preserves_pure _ _

/-- What the writers keep under a run id, every step of its slot keeps. -/
theorem keptFor_sound (runner : RegressionRunner) (slotRunId : String) (I : Store → Prop)
    (hingest : ∀ history event, event.runId = slotRunId →
      Preserves (Sound I) (runner.ingestRunEvent history event))
    (hlink : ∀ regressionRunId scenarioId repetitionIndex, Preserves (Sound I)
      (persistRegressionLinkage runner.db slotRunId regressionRunId scenarioId repetitionIndex))
    (hevaluate : ∀ history, Preserves (Sound I) (runner.runEvaluation history slotRunId)) :
    KeptFor runner slotRunId fun state => Sound I state.session where
  record := fun _ => preserves_modify _ _ fun _ h => h
  ingest := fun history event hevent => preserves_onSession _ _ (hingest history event hevent)
  link := fun regressionRunId scenarioId repetitionIndex =>
    preserves_onSession _ _ (hlink regressionRunId scenarioId repetitionIndex)
  gate := preserves_onSession _ _ (sound_assertHitlGateHeld I runner.db slotRunId)
  commit := preserves_onSession _ _ (sound_commit I)
  evaluate := fun history => preserves_onSession _ _ (hevaluate history)

theorem sound_mark (I : Store → Prop) (db : Database) (f : Timestamp → Store → Store)
    (hf : ∀ now, Preserves (Sound I) (update db .regressionStatus (f now))) :
    Preserves (Sound I) (do
      let now ← now db
      update db .regressionStatus (f now)
      commit : SessionM Unit) :=
  preserves_bind _ _ _ (sound_now I db) fun now =>
    preserves_bind _ _ _ (hf now) fun _ => sound_commit I

/-- The session and its transaction both hold this table of regressions. -/
def RegressionsAre (regressionRuns : Table RegressionRun.id) (s : DbSession) : Prop :=
  Sound (fun store => store.regressionRuns = regressionRuns) s

theorem kept_regressions (runner : RegressionRunner) (h : LeavesRegressions runner)
    (regressionRuns : Table RegressionRun.id) :
    Kept runner fun state => RegressionsAre regressionRuns state.session := by
  apply kept_of_keptFor
  intro slotRunId
  apply keptFor_sound
  · exact fun history event _ => h.ingest history event regressionRuns
  · exact fun _ _ _ => sound_persistRegressionLinkage _ _ _ _ _ _ fun _ _ h => h
  · exact fun history => h.evaluate history slotRunId regressionRuns

/-! ### Known scenarios -/

/-- The regression is stored, and its table is not being changed. -/
def Stored (regressionRunId : ℕ) (_ : List Slot) (_ : RegressionRunner.Progress)
    (state : RunnerState) : Prop :=
  ∃ regressionRuns : Table RegressionRun.id, (regressionRuns.find? regressionRunId).isSome ∧
    RegressionsAre regressionRuns state.session

theorem stored_view (regressionRunId : ℕ) (done : List Slot)
    (progress : RegressionRunner.Progress) (state : RunnerState)
    (h : Stored regressionRunId done progress state) :
    (state.session.view.regressionRuns.find? regressionRunId).isSome := by
  obtain ⟨regressionRuns, hsome, hare⟩ := h
  have hview : state.session.view.regressionRuns = regressionRuns := sound_view _ _ hare
  rw [hview]
  exact hsome

/-- A slot keeps the regression stored; a gate violation leaves it failed. -/
theorem slotKeeps_stored (runner : RegressionRunner) (h : LeavesRegressions runner)
    (haccepted : ∀ e, ¬ RefusesRunner runner.db e) (regressionRunId : ℕ) (all : List Slot)
    (scenarioId : String) (contract : ScenarioContract) :
    SlotKeeps runner regressionRunId all (Stored regressionRunId)
      (fun _ t => Finished regressionRunId .failed t.session.committed) scenarioId contract := by
  intro repetitionIndex done progress state _ hreturned
  obtain ⟨regressionRuns, hsome, hare⟩ := hreturned
  have hone := ends_of_preserves _ _
    (kept_runOne runner _ (kept_regressions runner h regressionRuns) regressionRunId contract
      repetitionIndex) (started state) hare
  refine runRepetition_ends runner regressionRunId scenarioId contract repetitionIndex state
    _ _ _ _ hone ?_ ?_ ?_ ?_
  · intro childRunId mid hmid
    exact ⟨regressionRuns, hsome, hmid⟩
  · intro e mid hmid _
    refine ⟨regressionRuns, hsome, hmid.1, ?_⟩
    intro hopen
    cases hopen
  · intro e mid session now hmid _ _ hcommitted
    show Finished regressionRunId .failed session.committed
    rw [hcommitted]
    have hmidRuns : mid.session.committed.regressionRuns = regressionRuns := hmid.1
    apply finished_of_update regressionRunId .failed _ now mid.session.committed
    rw [hmidRuns]
    exact hsome
  · intro e e' mid session _ _ hrefused _
    exact absurd hrefused (haccepted e')

theorem known_leavesTerminalStatus (runner : RegressionRunner) (h : LeavesRegressions runner)
    (haccepted : ∀ e, ¬ RefusesRunner runner.db e) (row : RegressionRun) (state : RunnerState)
    (hrow : state.session.view.regressionRuns.find? row.id = some row)
    (hknown : ∀ scenarioId ∈ row.scenarioIds, KnownScenario scenarioId) :
    LeavesTerminalStatus runner row.id state := by
  have hrun := run_ends runner row.id (Stored row.id)
    (fun _ t => Finished row.id .failed t.session.committed) state row hrow ?_ ?_ ?_ ?_ ?_
  · refine ends_mono _ _ _ _ _ _ hrun ?_ fun _ _ h => h
    intro result t hreturned
    obtain ⟨_, _, mid, now, hstored, _, _, hcommitted⟩ := hreturned
    rw [hcommitted]
    exact finished_of_update row.id .completed _ now _ (stored_view _ _ _ mid hstored)
  · intro scenarioId _ contract _
    exact slotKeeps_stored runner h haccepted row.id _ scenarioId contract
  · intro scenarioId hmem e hload
    exact absurd (hknown scenarioId hmem) (unknown_of_load_error scenarioId e hload)
  · intro session now hclosed hcommitted
    refine ⟨session.committed.regressionRuns, ?_, rfl, ?_⟩
    · rw [hcommitted, updateRegressionRun_find?, hrow]
      rfl
    · intro hopen
      rw [hclosed] at hopen
      cases hopen
  · intro e session hrefused _
    exact absurd hrefused (haccepted e)
  · intro e progress mid session hrefused _ _
    exact absurd hrefused (haccepted e)

/-! ### Unknown scenarios -/

/-- The regression is stored with this status, and its table is not being changed. -/
def StoredAs (regressionRunId : ℕ) (status : RegressionStatus) (state : RunnerState) : Prop :=
  ∃ regressionRuns : Table RegressionRun.id, RegressionsAre regressionRuns state.session ∧
    (regressionRuns.find? regressionRunId).map RegressionRun.status = some status

/- A target that is down: every slot fails, none violates the gate. -/
def unavailable : Error := .other "RuntimeError" "the agent is unavailable"

def unavailableRunner : RegressionRunner where
  db := .plain
  target := ⟨fun _ _ => .error unavailable, fun _ _ _ => .error unavailable⟩
  ingestRunEvent := fun _ _ => pure ()
  runEvaluation := fun _ _ => pure ()

theorem unavailable_leavesRegressions : LeavesRegressions unavailableRunner :=
  ⟨fun _ _ _ => preserves_pure _ _, fun _ _ _ => preserves_pure _ _⟩

theorem plain_accepts_runner (e : Error) : ¬ RefusesRunner .plain e := by
  intro hleaves
  obtain ⟨_, _, _, _, _, h⟩ := hleaves
  cases h

theorem unavailable_runOne (regressionRunId : ℕ) (contract : ScenarioContract)
    (repetitionIndex : ℕ) (state : RunnerState) :
    Ends (unavailableRunner.runOne regressionRunId contract repetitionIndex) state
      (fun _ _ => False) fun e t => e = unavailable ∧ t.session = state.session := by
  unfold RegressionRunner.runOne
  cases requiresHitlFlow contract with
  | true => exact .error unavailable _ rfl ⟨rfl, rfl⟩
  | false => exact .error unavailable _ rfl ⟨rfl, rfl⟩

/-- With an unknown scenario among them, the run raises and the regression stays
running. -/
theorem unknown_left_running (row : RegressionRun) (state : RunnerState)
    (hrow : state.session.view.regressionRuns.find? row.id = some row) (scenarioId : String)
    (hmem : scenarioId ∈ row.scenarioIds) (hunknown : ¬ KnownScenario scenarioId) :
    Ends (unavailableRunner.run row.id) state (fun _ _ => False)
      fun _ t => (t.session.committed.regressionRuns.find? row.id).map RegressionRun.status =
        some .running := by
  have hrun := run_ends unavailableRunner row.id
    (fun _ _ t => StoredAs row.id .running t)
    (fun _ t => (t.session.committed.regressionRuns.find? row.id).map RegressionRun.status =
      some .running) state row hrow ?_ ?_ ?_ ?_ ?_
  · refine ends_mono _ _ _ _ _ _ hrun ?_ fun _ _ h => h
    intro result t hreturned
    obtain ⟨_, hloaded, _⟩ := hreturned
    obtain ⟨contract, hload⟩ := hloaded scenarioId hmem
    rw [loadScenarioContract_unknown scenarioId hunknown] at hload
    cases hload
  · intro otherId _ contract _ repetitionIndex done progress t _ hreturned
    obtain ⟨regressionRuns, hare, hstatus⟩ := hreturned
    have hone := unavailable_runOne row.id contract repetitionIndex (started t)
    refine runRepetition_ends unavailableRunner row.id otherId contract repetitionIndex t
      _ _ _ _ hone ?_ ?_ ?_ ?_
    · intro childRunId mid hmid
      exact hmid.elim
    · intro e mid hraised _
      obtain ⟨_, hsession⟩ := hraised
      refine ⟨regressionRuns, ⟨?_, ?_⟩, hstatus⟩
      · show mid.session.committed.regressionRuns = regressionRuns
        rw [hsession]
        exact hare.1
      · intro hopen
        cases hopen
    · intro e mid session now hraised hviolation
      obtain ⟨rfl, _⟩ := hraised
      obtain ⟨message, hv⟩ := hviolation
      cases hv
    · intro e e' mid session hraised hviolation
      obtain ⟨rfl, _⟩ := hraised
      obtain ⟨message, hv⟩ := hviolation
      cases hv
  · intro otherId _ e _ done progress t _ hreturned
    obtain ⟨regressionRuns, hare, hstatus⟩ := hreturned
    have hcommitted : t.session.committed.regressionRuns = regressionRuns := hare.1
    rw [hcommitted]
    exact hstatus
  · intro session now hclosed hcommitted
    refine ⟨session.committed.regressionRuns, ⟨rfl, ?_⟩, ?_⟩
    · intro hopen
      rw [hclosed] at hopen
      cases hopen
    · rw [hcommitted, updateRegressionRun_find?, hrow]
      rfl
  · intro e session hrefused _
    exact absurd hrefused (plain_accepts_runner e)
  · intro e progress mid session hrefused _ _
    exact absurd hrefused (plain_accepts_runner e)

/-- A regression ends in a terminal status, whatever its target, ingestion and
evaluation do, exactly when all its scenarios are known. -/
theorem terminal_status_iff_known (row : RegressionRun) :
    (∀ runner state, LeavesRegressions runner → (∀ e, ¬ RefusesRunner runner.db e) →
      state.session.view.regressionRuns.find? row.id = some row →
      LeavesTerminalStatus runner row.id state) ↔
    ∀ scenarioId ∈ row.scenarioIds, KnownScenario scenarioId := by
  constructor
  · intro h scenarioId hmem
    by_contra hunknown
    have hstored : (sampleState row).session.view.regressionRuns.find? row.id = some row :=
      (Table.find?_eq_some_iff _ _ _).mpr ⟨List.mem_singleton.mpr rfl, rfl⟩
    have hterminal := h unavailableRunner (sampleState row) unavailable_leavesRegressions
      plain_accepts_runner hstored
    have hrunning := unknown_left_running row (sampleState row) hstored scenarioId hmem hunknown
    cases ends_and _ _ _ _ _ _ hterminal hrunning with
    | ok result t _ hboth => exact hboth.2
    | error e t _ hboth =>
      obtain ⟨⟨stored, hfind, hstatus, _⟩, hboth⟩ := hboth
      rw [hfind, Option.map_some, hstatus] at hboth
      cases hboth
  · intro hknown runner state hleaves haccepted hrow
    exact known_leavesTerminalStatus runner hleaves haccepted row state hrow hknown

/- The run raised and left the regression running. -/
def LeftRunning (regressionRunId : ℕ) :
    EStateM.Result Error RunnerState RegressionRunnerResult → Prop
  | .ok _ _ => False
  | .error _ t => (t.session.committed.regressionRuns.find? regressionRunId).map
      RegressionRun.status = some .running

instance (regressionRunId : ℕ) (result : EStateM.Result Error RunnerState RegressionRunnerResult) :
    Decidable (LeftRunning regressionRunId result) :=
  match result with
  | .ok _ _ => .isFalse id
  | .error _ t => inferInstanceAs (Decidable ((t.session.committed.regressionRuns.find?
      regressionRunId).map RegressionRun.status = some .running))

/-- One unknown scenario id, in a request the endpoint accepts. -/
theorem unknown_scenario_left_running :
    LeavesRegressions sampleRunner ∧ (∀ e, ¬ RefusesRunner sampleRunner.db e) ∧
    (sampleState (sampleRegression ["GS-99"] 1)).session.view.regressionRuns.find? 1 =
      some (sampleRegression ["GS-99"] 1) ∧
    ¬ LeavesTerminalStatus sampleRunner 1 (sampleState (sampleRegression ["GS-99"] 1)) := by
  refine ⟨default_leavesRegressions _ _ _ _, plain_accepts_runner, sampleState_row _ _, ?_⟩
  intro hterminal
  have hrunning : LeftRunning 1
      (sampleRunner.run 1 (sampleState (sampleRegression ["GS-99"] 1))) := by decide +kernel
  cases hr : sampleRunner.run 1 (sampleState (sampleRegression ["GS-99"] 1)) with
  | ok result t =>
    rw [hr] at hrunning
    exact hrunning
  | error e t =>
    rw [hr] at hrunning
    obtain ⟨row, hrow, hfailed, _⟩ := ends_raises _ _ _ _ _ _ hterminal hr
    have hstatus : (t.session.committed.regressionRuns.find? 1).map RegressionRun.status =
        some .running := hrunning
    rw [hrow, Option.map_some, hfailed] at hstatus
    cases hstatus

end ObsPlatform.Regressions
