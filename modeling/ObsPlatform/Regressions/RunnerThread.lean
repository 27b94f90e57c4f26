import ObsPlatform.Lib.RelyGuarantee
import ObsPlatform.Platform.ConcurrentEvaluations
import ObsPlatform.Regressions.Status

/-!
# The runner, cut at its commits

A regression runs in the background while the server goes on with other requests: at each
`await` on the session another request may commit. A step of the thread is a call to the
target, a read, or a write with the commit that publishes it; an ingestion is one step, its
transaction. Run with nobody else the thread is the runner.
-/

namespace ObsPlatform.Regressions

open Telemetry Db UnitOfWork Evaluation Ingestion Stateful Platform
open RegressionRunner (startSlot endSlot)

abbrev RunnerThread (α : Type) := Thread Statement Error RunnerState α

/- The part of a runner that the others see: the committed store of its session. -/
def runnerPart : SharedPart Store RunnerState where
  install := fun store state =>
    { state with session := committedPart.install store state.session }
  published := fun state => state.session.committed
  published_install := fun _ _ => rfl
  install_install := fun _ _ _ => rfl

def threadOnSession {α : Type} (t : SessionThread α) : RunnerThread α :=
  t.zoom RunnerState.session fun session state => { state with session := session }

theorem threadOnSession_run {α : Type} (t : SessionThread α) :
    (threadOnSession t).run = onSession t.run :=
  Thread.run_zoom RunnerState.session (fun session state => { state with session := session })
    (fun _ _ => rfl) (fun _ => rfl) (fun _ _ _ => rfl) t

/-! ### Statements -/

section Statements
variable (db : Database)

def persistRegressionLinkageThread (runId : String) (regressionRunId : ℕ) (scenarioId : String)
    (repetitionIndex : ℕ) : SessionThread Unit := do
  let record ← .atomic .read (getAgentRun db runId)
  match record with
  | none => throw (.valueError ("run " ++ reprText runId ++ " does not exist"))
  | some _ =>
    .atomic .linkage (do
      let now ← now db
      update db .linkage (updateLinkage runId regressionRunId scenarioId repetitionIndex now)
      commit)
    .atomic .read (refreshAgentRun db runId)

def assertHitlGateHeldThread (runId : String) : SessionThread String := do
  let run ← .atomic .read (getAgentRun db runId)
  match run with
  | none => throw (pendingNotPersisted runId)
  | some run =>
    if run.hitlState ≠ .pending then throw (gateNotPending runId run.hitlState)
    else match run.hitlCheckpointId with
      | none => throw (noCheckpoint runId)
      | some checkpointId =>
        if checkpointId = "" then throw (noCheckpoint runId)
        else do
          let submitted ← .atomic .read (read db (submitCount runId))
          if submitted > 0 then throw (gateBypassed runId)
          else do
            .atomic .read commit
            return checkpointId

theorem persistRegressionLinkageThread_run (runId : String) (regressionRunId : ℕ)
    (scenarioId : String) (repetitionIndex : ℕ) :
    (persistRegressionLinkageThread db runId regressionRunId scenarioId repetitionIndex).run =
      persistRegressionLinkage db runId regressionRunId scenarioId repetitionIndex := by
  rw [persistRegressionLinkageThread, Thread.run_bind, Thread.run_atomic, persistRegressionLinkage]
  congr 1
  funext record
  cases record with
  | none => rfl
  | some row =>
    simp only [Thread.run_bind, Thread.run_atomic, bind_assoc]

theorem assertHitlGateHeldThread_run (runId : String) :
    (assertHitlGateHeldThread db runId).run = assertHitlGateHeld db runId := by
  rw [assertHitlGateHeldThread, Thread.run_bind, Thread.run_atomic, assertHitlGateHeld]
  congr 1
  funext run
  cases run with
  | none => rfl
  | some run =>
    by_cases hpending : run.hitlState ≠ .pending
    · simp only [hpending, ne_eq, not_false_eq_true, if_true, Thread.run_throw]
    · simp only [hpending, if_false]
      cases run.hitlCheckpointId with
      | none => rfl
      | some checkpointId =>
        by_cases hempty : checkpointId = ""
        · simp only [hempty, if_true, Thread.run_throw]
        · simp only [hempty, if_false, Thread.run_bind, Thread.run_atomic]
          congr 1
          funext submitted
          by_cases hsubmitted : submitted > 0
          · simp only [hsubmitted, if_true, Thread.run_throw]
          · simp only [hsubmitted, if_false, Thread.run_bind, Thread.run_atomic, Thread.run_pure]

end Statements

/-! ### One slot -/

section Runner
variable (db : Database) (target : AgentTarget) (environment : History → JudgeEnvironment)
  (libraries : JudgeLibraries)

/- What the slot asks the target, and what it notes down, changes nothing in the store. -/
def ingestThread (event : ExtendedRunEvent) : RunnerThread Unit := do
  let state ← .atomic .read get
  threadOnSession (.atomic .agentRun (defaultIngestRunEvent db state.toHistory event))
  .atomic .read (record (.ingested event))

def linkThread (runId : String) (regressionRunId : ℕ) (scenarioId : String)
    (repetitionIndex : ℕ) : RunnerThread Unit := do
  threadOnSession
    (persistRegressionLinkageThread db runId regressionRunId scenarioId repetitionIndex)
  .atomic .read (do
    let state ← get
    record (.linked state.session.committed))

def evaluateThread (runId : String) : RunnerThread Unit := do
  .atomic .read (do
    let state ← get
    record (.runEvaluation runId state.session.committed))
  let state ← .atomic .read get
  threadOnSession (do
    let _ ← runEvaluationThread db (environment state.toHistory) (allEvaluators libraries) runId)

def runOneHitlThread (regressionRunId : ℕ) (contract : ScenarioContract) (repetitionIndex : ℕ) :
    RunnerThread String := do
  let runId := regressionRunEventId regressionRunId contract.scenarioId repetitionIndex
  let runner := defaultRunner db target environment libraries
  let pendingEvent ← .atomic .read (runner.runScenario contract)
  ingestThread db (withRunId pendingEvent runId)
  linkThread db runId regressionRunId contract.scenarioId repetitionIndex
  let checkpointId ← threadOnSession (assertHitlGateHeldThread db runId)
  let approvedEvent ← .atomic .read (runner.resumeAfterApproval checkpointId "approve")
  ingestThread db (withRunId approvedEvent runId)
  linkThread db runId regressionRunId contract.scenarioId repetitionIndex
  .atomic .read (onSession commit)
  evaluateThread db environment libraries runId
  return runId

def runOneThread (regressionRunId : ℕ) (contract : ScenarioContract) (repetitionIndex : ℕ) :
    RunnerThread String :=
  if requiresHitlFlow contract then
    runOneHitlThread db target environment libraries regressionRunId contract repetitionIndex
  else do
    let event ← .atomic .read
      ((defaultRunner db target environment libraries).runScenario contract)
    let runId := regressionRunEventId regressionRunId contract.scenarioId repetitionIndex
    ingestThread db (withRunId event runId)
    linkThread db (withRunId event runId).runId regressionRunId contract.scenarioId repetitionIndex
    .atomic .read (onSession commit)
    evaluateThread db environment libraries (withRunId event runId).runId
    return (withRunId event runId).runId

/-! ### All slots -/

def runRepetitionThread (regressionRunId : ℕ) (scenarioId : String) (contract : ScenarioContract)
    (repetitionIndex : ℕ) : RunnerThread (Except RegressionRunError String) := do
  .atomic .read startSlot
  tryCatch
    (do
      let childRunId ← runOneThread db target environment libraries regressionRunId contract
        repetitionIndex
      .atomic .read (do
        let state ← get
        endSlot ⟨scenarioId, repetitionIndex⟩ (.ok childRunId) state.session.committed)
      return .ok childRunId)
    fun error => do
      .atomic .read (do
        let state ← get
        onSession rollback
        endSlot ⟨scenarioId, repetitionIndex⟩ (.error error) state.session.committed)
      match error with
      | .hitlGateViolation _ =>
        .atomic .regressionStatus (onSession (markFailed db regressionRunId))
        throw error
      | _ =>
        return .error
          { scenarioId := scenarioId
            repetitionIndex := repetitionIndex
            errorType := error.typeName
            message := error.message }

def runRepetitionsThread (regressionRunId : ℕ) (scenarioId : String)
    (contract : ScenarioContract) :
    List ℕ → RegressionRunner.Progress → RunnerThread RegressionRunner.Progress
  | [], progress => pure progress
  | repetitionIndex :: rest, progress => do
    let outcome ← runRepetitionThread db target environment libraries regressionRunId scenarioId
      contract repetitionIndex
    runRepetitionsThread regressionRunId scenarioId contract rest (progress.append outcome)

def runScenariosThread (regressionRunId repetitions : ℕ) :
    List String → RegressionRunner.Progress → RunnerThread RegressionRunner.Progress
  | [], progress => pure progress
  | scenarioId :: rest, progress => do
    let contract ← .done (loadScenarioContract scenarioId)
    let progress ← runRepetitionsThread db target environment libraries regressionRunId scenarioId
      contract (List.range repetitions) progress
    runScenariosThread regressionRunId repetitions rest progress

def runThread (regressionRunId : ℕ) : RunnerThread RegressionRunnerResult := do
  let regressionRun ← .atomic .read (onSession (query db.backend .regressionRun fun store =>
    store.regressionRuns.find? regressionRunId))
  match regressionRun with
  | none =>
    throw (.valueError ("regression run " ++ toString regressionRunId ++ " does not exist"))
  | some regressionRun =>
    .atomic .regressionStatus (onSession (markRunning db regressionRun.id))
    let progress ← runScenariosThread db target environment libraries regressionRun.id
      regressionRun.repetitions regressionRun.scenarioIds ⟨[], []⟩
    .atomic .regressionStatus (onSession (markCompleted db regressionRun.id))
    return { regressionRunId := regressionRun.id
             createdRunIds := progress.createdRunIds
             errors := progress.errors }

/-! ### With nobody else, the runner -/

theorem ingestThread_run (event : ExtendedRunEvent) : (ingestThread db event).run =
    (defaultRunner db target environment libraries).ingest event := by
  simp only [ingestThread, Thread.run_bind, Thread.run_atomic, threadOnSession_run]
  rfl

theorem linkThread_run (runId : String) (regressionRunId : ℕ) (scenarioId : String)
    (repetitionIndex : ℕ) :
    (linkThread db runId regressionRunId scenarioId repetitionIndex).run =
      (defaultRunner db target environment libraries).link runId regressionRunId scenarioId
        repetitionIndex := by
  simp only [linkThread, Thread.run_bind, Thread.run_atomic, threadOnSession_run,
    persistRegressionLinkageThread_run]
  rfl

theorem evaluateThread_run (runId : String) :
    (evaluateThread db environment libraries runId).run =
      (defaultRunner db target environment libraries).evaluate runId := by
  simp only [evaluateThread, Thread.run_bind, Thread.run_atomic, threadOnSession_run,
    runEvaluationThread_run, Thread.run_pure, bind_assoc]
  rfl

theorem runOneThread_run (regressionRunId : ℕ) (contract : ScenarioContract)
    (repetitionIndex : ℕ) :
    (runOneThread db target environment libraries regressionRunId contract repetitionIndex).run =
      (defaultRunner db target environment libraries).runOne regressionRunId contract
        repetitionIndex := by
  unfold runOneThread RegressionRunner.runOne
  cases requiresHitlFlow contract with
  | true =>
    simp only [if_true, runOneHitlThread, Thread.run_bind, Thread.run_atomic, Thread.run_pure,
      ingestThread_run db target environment libraries, linkThread_run db target environment
      libraries, evaluateThread_run db target environment libraries, threadOnSession_run,
      assertHitlGateHeldThread_run]
    rfl
  | false =>
    simp only [Bool.false_eq_true, if_false, Thread.run_bind, Thread.run_atomic, Thread.run_pure,
      ingestThread_run db target environment libraries, linkThread_run db target environment
      libraries, evaluateThread_run db target environment libraries]

theorem runRepetitionThread_run (regressionRunId : ℕ) (scenarioId : String)
    (contract : ScenarioContract) (repetitionIndex : ℕ) :
    (runRepetitionThread db target environment libraries regressionRunId scenarioId contract
      repetitionIndex).run =
      (defaultRunner db target environment libraries).runRepetition regressionRunId scenarioId
        contract repetitionIndex := by
  unfold runRepetitionThread RegressionRunner.runRepetition
  simp only [Thread.run_bind, Thread.run_tryCatch, Thread.run_atomic, Thread.run_pure,
    runOneThread_run, bind_assoc]
  congr 1
  funext _
  congr 1
  funext error
  congr 1
  funext state
  congr 1
  funext _
  congr 1
  funext _
  cases error with
  | hitlGateViolation message =>
    simp only [Thread.run_bind, Thread.run_atomic, Thread.run_throw]
    rfl
  | _ => rfl

theorem runRepetitionsThread_run (regressionRunId : ℕ) (scenarioId : String)
    (contract : ScenarioContract) (repetitionIndices : List ℕ)
    (progress : RegressionRunner.Progress) :
    (runRepetitionsThread db target environment libraries regressionRunId scenarioId contract
      repetitionIndices progress).run =
      (defaultRunner db target environment libraries).runRepetitions regressionRunId scenarioId
        contract repetitionIndices progress := by
  induction repetitionIndices generalizing progress with
  | nil => rfl
  | cons repetitionIndex rest ih =>
    simp only [runRepetitionsThread, RegressionRunner.runRepetitions, Thread.run_bind,
      runRepetitionThread_run, ih]

theorem runScenariosThread_run (regressionRunId repetitions : ℕ) (scenarioIds : List String)
    (progress : RegressionRunner.Progress) :
    (runScenariosThread db target environment libraries regressionRunId repetitions scenarioIds
      progress).run =
      (defaultRunner db target environment libraries).runScenarios regressionRunId repetitions
        scenarioIds progress := by
  induction scenarioIds generalizing progress with
  | nil => rfl
  | cons scenarioId rest ih =>
    have hload : (.done (loadScenarioContract scenarioId) : RunnerThread ScenarioContract).run =
        RegressionRunner.loadContract scenarioId := by
      funext state
      simp only [RegressionRunner.loadContract, answer]
      cases loadScenarioContract scenarioId <;> rfl
    simp only [runScenariosThread, RegressionRunner.runScenarios, Thread.run_bind,
      runRepetitionsThread_run, hload, ih]

/-- The thread is the runner, cut where other requests may commit. -/
theorem runThread_run (regressionRunId : ℕ) :
    (runThread db target environment libraries regressionRunId).run =
      (defaultRunner db target environment libraries).run regressionRunId := by
  rw [runThread, Thread.run_bind, Thread.run_atomic, RegressionRunner.run]
  congr 1
  funext regressionRun
  cases regressionRun with
  | none => rfl
  | some regressionRun =>
    simp only [Thread.run_bind, Thread.run_atomic, Thread.run_pure, runScenariosThread_run]
    rfl

end Runner

end ObsPlatform.Regressions
