import ObsPlatform.Platform.ConcurrentEvaluations
import ObsPlatform.Regressions.RunnerThread
import ObsPlatform.Routes.Regressions

/-!
# The writing endpoints, cut at their commits (routes/runs.py, routes/regressions.py)

An ingestion is one step, its transaction. An evaluation and the creation of a regression
commit one write after another, and other requests may commit between any two of them.
-/

namespace ObsPlatform.Routes

open Telemetry Db UnitOfWork Evaluation Ingestion Stateful Regressions Platform

section Endpoints
variable (db : Database)

def createRun (event : ExtendedRunEvent) : SessionM IngestRunResult := do
  let result ← ingestRunEvent db event
  return { runId := result.runId, eventType := result.eventType, status := result.status }

def runNotFound : Error := .other "HTTPException" "404: run not found"

def evaluateRun (environment : JudgeEnvironment) (libraries : JudgeLibraries) (runId : String) :
    SessionM EvaluationTriggerResponse :=
  tryCatch (runEvaluation db environment (allEvaluators libraries) runId) fun e =>
    match e with
    | .runNotFound _ => throw runNotFound
    | e => throw e

def evaluateRunThread (environment : JudgeEnvironment) (libraries : JudgeLibraries)
    (runId : String) : SessionThread EvaluationTriggerResponse :=
  tryCatch (runEvaluationThread db environment (allEvaluators libraries) runId) fun e =>
    match e with
    | .runNotFound _ => throw runNotFound
    | e => throw e

theorem evaluateRunThread_run (environment : JudgeEnvironment) (libraries : JudgeLibraries)
    (runId : String) : (evaluateRunThread db environment libraries runId).run =
      evaluateRun db environment libraries runId := by
  rw [evaluateRunThread, Thread.run_tryCatch, runEvaluationThread_run, evaluateRun]
  congr 1
  funext e
  cases e <;> rfl

variable (ids : RegressionIds) (libraries : JudgeLibraries)

/- The INSERT and the commit that publishes it are one step. -/
def createRegressionRunThread (values : NewRegressionRun) : SessionThread RegressionRun := do
  let id ← .atomic .regressionRun (do
    let id ← tryCatch (insertion db ids libraries values) fun e => do
      rollback
      throw e
    commit
    return id)
  let record ← .atomic .read (refreshRegressionRun db id)
  .atomic .read commit
  return record

def checkBaselineThread (payload : RegressionCreateRequest) : SessionThread Bool :=
  if payload.isBaseline then .atomic .read (read db baselineExists) else pure false

def postRegressionThread (payload : RegressionCreateRequest) :
    SessionThread RegressionCreated := do
  let found ← checkBaselineThread db payload
  if found then throw baselineConflict
  else
    let record ← createRegressionRunThread db ids libraries (newRegressionRun payload)
    return regressionCreated record

theorem createRegressionRunThread_run (values : NewRegressionRun) :
    (createRegressionRunThread db ids libraries values).run =
      createRegressionRun db ids libraries values := by
  simp only [createRegressionRunThread, createRegressionRun, Thread.run_bind, Thread.run_atomic,
    Thread.run_pure, bind_assoc, pure_bind]

theorem postRegressionThread_run (payload : RegressionCreateRequest) :
    (postRegressionThread db ids libraries payload).run =
      createRegression db ids libraries payload := by
  have hanswer : ∀ found : Bool, (if found then throw baselineConflict else do
      let record ← createRegressionRunThread db ids libraries (newRegressionRun payload)
      return regressionCreated record : SessionThread RegressionCreated).run =
        if found then throw baselineConflict else do
          let record ← createRegressionRun db ids libraries (newRegressionRun payload)
          return regressionCreated record := by
    intro found
    cases found with
    | true => rfl
    | false =>
      simp only [Bool.false_eq_true, if_false, Thread.run_bind, createRegressionRunThread_run,
        Thread.run_pure]
  cases hbaseline : payload.isBaseline with
  | true =>
    simp only [postRegressionThread, checkBaselineThread, createRegression, hbaseline, if_true,
      Thread.run_bind, Thread.run_atomic, hanswer]
  | false =>
    simp only [postRegressionThread, checkBaselineThread, createRegression, hbaseline,
      Bool.false_eq_true, if_false, Thread.run_bind, Thread.run_pure, hanswer]

end Endpoints

end ObsPlatform.Routes
