import ObsPlatform.Regressions.Persistence

/-!
# Creating a regression (routes/regressions.py)

The request is answered before the regression runs: its row is registered, and the runner
is scheduled as a background task. A second baseline is a conflict.
-/

namespace ObsPlatform.Routes

open Db UnitOfWork Evaluation Regressions

structure RegressionCreateRequest where
  name : Option String := none
  agentModelProvider : String
  agentModelName : String
  promptVersion : String
  scenarioIds : Option (List String) := none
  repetitions : Option ℕ := none
  isBaseline : Bool := false

structure RegressionSummary where
  id : ℕ
  name : Option String
  status : RegressionStatus
  startedAt : Option Timestamp
  completedAt : Option Timestamp
  isBaseline : Bool
  scenarioIds : List String
  repetitions : ℕ
  deriving Repr, DecidableEq

def regressionSummary (record : RegressionRun) : RegressionSummary where
  id := record.id
  name := record.name
  status := record.status
  startedAt := record.startedAt
  completedAt := record.completedAt
  isBaseline := record.isBaseline
  scenarioIds := record.scenarioIds
  repetitions := record.repetitions

/-- The answer of the endpoint, and the regression that its background task runs. -/
structure RegressionCreated where
  summary : RegressionSummary
  scheduled : ℕ
  deriving Repr, DecidableEq

/- `payload.scenario_ids or ...` and `payload.repetitions or ...`: an empty list and a zero
count as not given. -/
def newRegressionRun (payload : RegressionCreateRequest) : NewRegressionRun where
  name := payload.name
  agentVersion := "mock-agent-v1"
  agentModelProvider := payload.agentModelProvider
  agentModelName := payload.agentModelName
  promptVersion := payload.promptVersion
  scenarioIds :=
    match payload.scenarioIds with
    | some (scenarioId :: scenarioIds) => scenarioId :: scenarioIds
    | _ => goldenScenarioIds
  repetitions :=
    match payload.repetitions with
    | some (repetitions + 1) => repetitions + 1
    | _ => finalSuiteRepetitions
  isBaseline := payload.isBaseline

def baselineConflict : Error :=
  .other "HTTPException" "409: a baseline regression already exists"

def regressionCreated (record : RegressionRun) : RegressionCreated :=
  ⟨regressionSummary record, record.id⟩

def createRegression (db : Database) (ids : RegressionIds) (libraries : JudgeLibraries)
    (payload : RegressionCreateRequest) : SessionM RegressionCreated := do
  let found ← if payload.isBaseline then read db baselineExists else pure false
  if found then throw baselineConflict
  else
    let record ← createRegressionRun db ids libraries (newRegressionRun payload)
    return regressionCreated record

end ObsPlatform.Routes
