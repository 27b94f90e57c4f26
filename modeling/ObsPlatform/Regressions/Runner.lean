import ObsPlatform.Evaluation.Service

/-!
# The regression runner (regressions/runner.py)

The runner works through the slots of a regression on one session: it asks the agent
target for a run, ingests it, links it to the regression and has it evaluated; a
scenario that requires a human decision passes a gate in between. What happened is
kept beside the session, for the theorems and for targets whose replies depend on
earlier calls; the runner itself never reads it.
-/

namespace ObsPlatform.Regressions

open Telemetry Db UnitOfWork Evaluation Stateful

structure RegressionRunError where
  scenarioId : String
  repetitionIndex : ℕ
  errorType : String
  message : String
  deriving Repr, DecidableEq

structure RegressionRunnerResult where
  regressionRunId : ℕ
  createdRunIds : List String := []
  errors : List RegressionRunError := []
  deriving Repr, DecidableEq

/-! ### What happened -/

structure Slot where
  scenarioId : String
  repetitionIndex : ℕ
  deriving Repr, DecidableEq

/-- A call a slot made: to the target or the evaluation before they answered, with the
committed store they were called in, and to ingestion or linkage after they returned. -/
inductive Call where
  | runScenario (scenarioId : String)
  | ingested (event : ExtendedRunEvent)
  | linked (committed : Store)
  | resumeAfterApproval (checkpointId decision : String) (committed : Store)
  | runEvaluation (runId : String) (committed : Store)

/-- A slot that ended: its calls, its run id or its exception, the committed store at
that moment, and the one after the runner's rollback. -/
structure Attempt where
  slot : Slot
  calls : List Call
  outcome : Except Error String
  committed : Store
  settled : Store

structure History where
  attempts : List Attempt
  calls : List Call

/-! ### The runner's surroundings -/

structure AgentTarget where
  runScenario : History → ScenarioContract → Except Error ExtendedRunEvent
  resumeAfterApproval : History → String → String → Except Error ExtendedRunEvent

structure RegressionRunner where
  db : Database
  target : AgentTarget
  ingestRunEvent : History → ExtendedRunEvent → SessionM Unit
  runEvaluation : History → String → SessionM Unit

structure RunnerState extends History where
  session : DbSession

abbrev RunnerM (α : Type) := EStateM Error RunnerState α

def onSession {α : Type} (x : SessionM α) : RunnerM α :=
  zoom RunnerState.session (fun session state => { state with session := session }) x

def record (call : Call) : RunnerM Unit :=
  modify fun state => { state with calls := state.calls ++ [call] }

def answer {α : Type} (reply : History → Except Error α) : RunnerM α := fun state =>
  match reply state.toHistory with
  | .ok a => .ok a state
  | .error e => .error e state

/-! ### Small functions -/

def regressionRunEventId (regressionRunId : ℕ) (scenarioId : String) (repetitionIndex : ℕ) :
    String :=
  "phase7-regression-" ++ toString regressionRunId ++ "-" ++ scenarioId ++ "-rep-" ++
    toString repetitionIndex

def requiresHitlFlow (contract : ScenarioContract) : Bool :=
  match contract.terminal with
  | none => false
  | some terminal => terminal.expectedHitlRequired = some true

def withRunId (event : ExtendedRunEvent) (runId : String) : ExtendedRunEvent :=
  { event with runId := runId }

/-! ### The status of the regression -/

/- update(RegressionRun).where(id == regression_run_id).values(...); completed_at is
always among the values, started_at for a new status of running only. -/
def updateRegressionRun (regressionRunId : ℕ) (status : RegressionStatus)
    (startedAt : Option Timestamp → Option Timestamp) (completedAt : Option Timestamp)
    (store : Store) : Store :=
  { store with
    regressionRuns := store.regressionRuns.modify regressionRunId
      (fun row => { row with
        status := status, startedAt := startedAt row.startedAt, completedAt := completedAt })
      fun _ h => h }

section Status
variable (db : Database) (regressionRunId : ℕ)

def markRunning : SessionM Unit := do
  let now ← now db
  update db .regressionStatus
    (updateRegressionRun regressionRunId .running (fun _ => some now) none)
  commit

def markCompleted : SessionM Unit := do
  let now ← now db
  update db .regressionStatus
    (updateRegressionRun regressionRunId .completed (fun startedAt => startedAt) (some now))
  commit

def markFailed : SessionM Unit := do
  let now ← now db
  update db .regressionStatus
    (updateRegressionRun regressionRunId .failed (fun startedAt => startedAt) (some now))
  commit

end Status

/-! ### The gate -/

def submitCount (runId : String) (store : Store) : ℕ :=
  (store.toolCalls.rows.filter fun row =>
    row.runId = runId ∧ row.toolName = "submit_work_order").length

def pendingNotPersisted (runId : String) : Error :=
  .hitlGateViolation ("HITL pending snapshot for run " ++ reprText runId ++ " was not persisted")

def gateNotPending (runId : String) (state : HITLState) : Error :=
  .hitlGateViolation ("HITL gate was not pending for run " ++ reprText runId ++ ": " ++
    reprText state.value)

def noCheckpoint (runId : String) : Error :=
  .hitlGateViolation ("HITL pending snapshot for run " ++ reprText runId ++
    " has no checkpoint_id")

def gateBypassed (runId : String) : Error :=
  .hitlGateViolation ("HITL gate was bypassed for run " ++ reprText runId ++
    ": submit_work_order was already called")

def assertHitlGateHeld (db : Database) (runId : String) : SessionM String := do
  let run ← getAgentRun db runId
  match run with
  | none => throw (pendingNotPersisted runId)
  | some run =>
    if run.hitlState ≠ .pending then throw (gateNotPending runId run.hitlState)
    else match run.hitlCheckpointId with
      | none => throw (noCheckpoint runId)
      | some checkpointId =>
        if checkpointId = "" then throw (noCheckpoint runId)
        else do
          let submitted ← read db (submitCount runId)
          if submitted > 0 then throw (gateBypassed runId)
          else do
            commit
            return checkpointId

/-! ### One slot -/

namespace RegressionRunner

variable (runner : RegressionRunner)

def runScenario (contract : ScenarioContract) : RunnerM ExtendedRunEvent := do
  record (.runScenario contract.scenarioId)
  answer fun history => runner.target.runScenario history contract

def resumeAfterApproval (checkpointId decision : String) : RunnerM ExtendedRunEvent := do
  let state ← get
  record (.resumeAfterApproval checkpointId decision state.session.committed)
  answer fun history => runner.target.resumeAfterApproval history checkpointId decision

def ingest (event : ExtendedRunEvent) : RunnerM Unit := do
  let state ← get
  onSession (runner.ingestRunEvent state.toHistory event)
  record (.ingested event)

def link (runId : String) (regressionRunId : ℕ) (scenarioId : String) (repetitionIndex : ℕ) :
    RunnerM Unit := do
  onSession (persistRegressionLinkage runner.db runId regressionRunId scenarioId repetitionIndex)
  let state ← get
  record (.linked state.session.committed)

def evaluate (runId : String) : RunnerM Unit := do
  let state ← get
  record (.runEvaluation runId state.session.committed)
  let state ← get
  onSession (runner.runEvaluation state.toHistory runId)

def runOneHitl (regressionRunId : ℕ) (contract : ScenarioContract) (repetitionIndex : ℕ) :
    RunnerM String := do
  let runId := regressionRunEventId regressionRunId contract.scenarioId repetitionIndex
  let pendingEvent ← runner.runScenario contract
  runner.ingest (withRunId pendingEvent runId)
  runner.link runId regressionRunId contract.scenarioId repetitionIndex
  let checkpointId ← onSession (assertHitlGateHeld runner.db runId)
  let approvedEvent ← runner.resumeAfterApproval checkpointId "approve"
  runner.ingest (withRunId approvedEvent runId)
  runner.link runId regressionRunId contract.scenarioId repetitionIndex
  onSession commit
  runner.evaluate runId
  return runId

def runOne (regressionRunId : ℕ) (contract : ScenarioContract) (repetitionIndex : ℕ) :
    RunnerM String :=
  if requiresHitlFlow contract then runner.runOneHitl regressionRunId contract repetitionIndex
  else do
    let event ← runner.runScenario contract
    let runId := regressionRunEventId regressionRunId contract.scenarioId repetitionIndex
    runner.ingest (withRunId event runId)
    runner.link (withRunId event runId).runId regressionRunId contract.scenarioId repetitionIndex
    onSession commit
    runner.evaluate (withRunId event runId).runId
    return (withRunId event runId).runId

/-! ### All slots -/

/- The bookkeeping of a slot: its calls start empty and end as an attempt. -/
def startSlot : RunnerM Unit := modify fun state => { state with calls := [] }

def endSlot (slot : Slot) (outcome : Except Error String) (committed : Store) : RunnerM Unit :=
  modify fun state =>
    { state with
      attempts := state.attempts ++
        [⟨slot, state.calls, outcome, committed, state.session.committed⟩] }

/- The body of the inner loop: a run id to append, or an error to append. -/
def runRepetition (regressionRunId : ℕ) (scenarioId : String) (contract : ScenarioContract)
    (repetitionIndex : ℕ) : RunnerM (Except RegressionRunError String) := do
  startSlot
  tryCatch
    (do
      let childRunId ← runner.runOne regressionRunId contract repetitionIndex
      let state ← get
      endSlot ⟨scenarioId, repetitionIndex⟩ (.ok childRunId) state.session.committed
      return .ok childRunId)
    fun error => do
      let state ← get
      onSession rollback
      endSlot ⟨scenarioId, repetitionIndex⟩ (.error error) state.session.committed
      match error with
      | .hitlGateViolation _ =>
        onSession (markFailed runner.db regressionRunId)
        throw error
      | _ =>
        return .error
          { scenarioId := scenarioId
            repetitionIndex := repetitionIndex
            errorType := error.typeName
            message := error.message }

/- created_run_ids and errors, as far as the loops have come. -/
structure Progress where
  createdRunIds : List String
  errors : List RegressionRunError

def Progress.append (progress : Progress) : Except RegressionRunError String → Progress
  | .ok childRunId => { progress with createdRunIds := progress.createdRunIds ++ [childRunId] }
  | .error error => { progress with errors := progress.errors ++ [error] }

def runRepetitions (regressionRunId : ℕ) (scenarioId : String) (contract : ScenarioContract) :
    List ℕ → Progress → RunnerM Progress
  | [], progress => pure progress
  | repetitionIndex :: rest, progress => do
    let outcome ← runner.runRepetition regressionRunId scenarioId contract repetitionIndex
    runRepetitions regressionRunId scenarioId contract rest (progress.append outcome)

def loadContract (scenarioId : String) : RunnerM ScenarioContract :=
  answer fun _ => loadScenarioContract scenarioId

def runScenarios (regressionRunId repetitions : ℕ) :
    List String → Progress → RunnerM Progress
  | [], progress => pure progress
  | scenarioId :: rest, progress => do
    let contract ← loadContract scenarioId
    let progress ← runner.runRepetitions regressionRunId scenarioId contract
      (List.range repetitions) progress
    runScenarios regressionRunId repetitions rest progress

def run (regressionRunId : ℕ) : RunnerM RegressionRunnerResult := do
  let regressionRun ← onSession (query runner.db.backend .regressionRun fun store =>
    store.regressionRuns.find? regressionRunId)
  match regressionRun with
  | none =>
    throw (.valueError ("regression run " ++ toString regressionRunId ++ " does not exist"))
  | some regressionRun =>
    onSession (markRunning runner.db regressionRun.id)
    let progress ← runner.runScenarios regressionRun.id regressionRun.repetitions
      regressionRun.scenarioIds ⟨[], []⟩
    onSession (markCompleted runner.db regressionRun.id)
    return { regressionRunId := regressionRun.id
             createdRunIds := progress.createdRunIds
             errors := progress.errors }

end RegressionRunner

/-! ### The default callables -/

def defaultIngestRunEvent (db : Database) (_ : History) (event : ExtendedRunEvent) :
    SessionM Unit := do
  let _ ← Ingestion.ingestRunEvent db event

def defaultRunEvaluation (db : Database) (environment : History → JudgeEnvironment)
    (libraries : JudgeLibraries) (history : History) (runId : String) : SessionM Unit := do
  let _ ← runEvaluation db (environment history) (allEvaluators libraries) runId

def defaultRunner (db : Database) (target : AgentTarget)
    (environment : History → JudgeEnvironment) (libraries : JudgeLibraries) :
    RegressionRunner where
  db := db
  target := target
  ingestRunEvent := defaultIngestRunEvent db
  runEvaluation := defaultRunEvaluation db environment libraries

/-! ### The mocked target -/

def mockedRunScenario (scriptedEvents : List (String × ExtendedRunEvent))
    (contract : ScenarioContract) : Except Error ExtendedRunEvent :=
  match scriptedEvents.lookup contract.scenarioId with
  | some event => .ok event
  | none =>
    .error (.keyError (reprText ("no mocked RunEvent configured for " ++ contract.scenarioId)))

def mockedResumeAfterApproval (approvedEvents : List (String × ExtendedRunEvent))
    (checkpointId decision : String) : Except Error ExtendedRunEvent :=
  if decision ≠ "approve" then
    .error (.valueError ("unsupported mocked HITL decision: " ++ reprText decision))
  else match approvedEvents.find? fun entry => entry.2.hitl.checkpointId = some checkpointId with
    | some entry => .ok entry.2
    | none =>
      match approvedEvents with
      | [entry] => .ok entry.2
      | _ =>
        .error (.keyError (reprText ("no mocked approved RunEvent for checkpoint " ++
          reprText checkpointId)))

def mockedAgentTarget (scriptedEvents approvedEvents : List (String × ExtendedRunEvent)) :
    AgentTarget where
  runScenario := fun _ => mockedRunScenario scriptedEvents
  resumeAfterApproval := fun _ => mockedResumeAfterApproval approvedEvents

/-! ### A sample regression

Stored under id 1 in an otherwise empty store, and played by a mocked target that knows
GS-01 and the approval-gated GS-08. -/

def sampleRegression (scenarioIds : List String) (repetitions : ℕ) : RegressionRun where
  id := 1
  name := none
  agentVersion := "mock-agent-v1"
  agentModelProvider := "mock-provider"
  agentModelName := "mock-model"
  promptVersion := "p1"
  scenarioContractVersion := scenarioContractsVersion
  evaluatorVersions := []
  repetitions := repetitions
  scenarioIds := scenarioIds
  status := .pending
  isBaseline := false
  startedAt := none
  completedAt := none

def sampleState (regression : RegressionRun) : RunnerState where
  attempts := []
  calls := []
  session := Session.fresh { Store.empty with regressionRuns := ⟨[regression], by simp⟩ }

theorem sampleState_row (scenarioIds : List String) (repetitions : ℕ) :
    (sampleState (sampleRegression scenarioIds repetitions)).session.view.regressionRuns.find? 1 =
      some (sampleRegression scenarioIds repetitions) := rfl

def twoByTwo : RegressionRun := sampleRegression ["GS-01", "GS-08"] 2

def sampleTarget : AgentTarget :=
  mockedAgentTarget [("GS-01", successEvent "mock"), ("GS-08", pendingEvent "mock")]
    [("GS-08", approvedEvent "mock")]

def sampleRunner : RegressionRunner :=
  defaultRunner .plain sampleTarget (fun _ => noJudge) noLibraries

end ObsPlatform.Regressions
