import ObsPlatform.Evaluation.Classifier
import ObsPlatform.Evaluation.Judges
import ObsPlatform.Ingestion.Runs

/-!
# Persistence of evaluations and linkage (evaluation/persistence.py)

Each function writes in the session's transaction, commits, and reads the written row
back; the read begins the session's next transaction.
-/

namespace ObsPlatform.Evaluation

open Telemetry Db UnitOfWork

/-! ### Rows -/

/- The outcome columns are set for a completed evaluator only; reason and findings
whenever there is a result. -/
def evaluationResultRecord (runId evaluatorName evaluatorVersion : String)
    (status : EvaluatorExecutionStatus) (result : Option EvaluationResult)
    (regressionRunId : Option ℕ) (now : Timestamp) (id : ℕ) : Db.EvaluationResult :=
  let completedResult := if status = .completed then result else none
  { id := id
    runId := runId
    evaluatorName := evaluatorName
    evaluatorVersion := evaluatorVersion
    regressionRunId := regressionRunId
    status := status
    passed := completedResult.map EvaluationResult.passed
    score := completedResult.bind EvaluationResult.score
    label := completedResult.bind EvaluationResult.label
    severity := completedResult.bind EvaluationResult.severity
    reason := result.map EvaluationResult.reason
    findings := result.map EvaluationResult.findings
    createdAt := now }

def judgeCallRecord (runId evaluatorName evaluatorVersion : String) (call : JudgeCallResult Unit)
    (succeeded : Bool) (now : Timestamp) (id : ℕ) : JudgeCall where
  id := id
  runId := runId
  evaluatorName := evaluatorName
  evaluatorVersion := evaluatorVersion
  model := call.model
  provider := call.provider
  latencyMs := call.latencyMs
  promptTokens := call.promptTokens
  completionTokens := call.completionTokens
  estimatedCostUsd := call.estimatedCostUsd
  succeeded := succeeded
  createdAt := now

def runFailureValues (runId : String) (classification : RunFailureResult) (now : Timestamp) :
    RunFailure where
  runId := runId
  overallStatus := classification.overallStatus
  primaryCategory := classification.primaryCategory
  secondaryCategory := classification.secondaryCategory
  maxSeverity := classification.maxSeverity
  classifierVersion := classifierVersion
  updatedAt := now

def updateRunFailure (values old : RunFailure) : RunFailure := { values with runId := old.runId }

def linkAgentRun (regressionRunId : ℕ) (scenarioId : String) (repetitionIndex : ℕ)
    (now : Timestamp) (row : AgentRun) : AgentRun :=
  { row with
    regressionRunId := some regressionRunId
    scenarioId := some scenarioId
    repetitionIndex := some repetitionIndex
    updatedAt := now }

/-! ### Store transformers -/

def insertEvaluationResult (record : ℕ → Db.EvaluationResult) (store : Store) : Store :=
  { store with
    evaluationResults := store.evaluationResults ++ [record (store.evaluationResults.length + 1)] }

def insertJudgeCall (record : ℕ → JudgeCall) (store : Store) : Store :=
  { store with judgeCalls := store.judgeCalls ++ [record (store.judgeCalls.length + 1)] }

def upsertRunFailure (values : RunFailure) (store : Store) : Store :=
  { store with
    runFailures := store.runFailures.upsert values (updateRunFailure values) fun _ h => h }

def updateLinkage (runId : String) (regressionRunId : ℕ) (scenarioId : String)
    (repetitionIndex : ℕ) (now : Timestamp) (store : Store) : Store :=
  { store with
    agentRuns := store.agentRuns.modify runId
      (linkAgentRun regressionRunId scenarioId repetitionIndex now) fun _ h => h }

/-! ### The session code -/

variable (db : Database)

def persistEvaluationResult (runId evaluatorName evaluatorVersion : String)
    (status : EvaluatorExecutionStatus) (result : Option EvaluationResult)
    (regressionRunId : Option ℕ) : SessionM (Option Db.EvaluationResult) := do
  if status ≠ .failed ∧ result.isNone then
    throw (.valueError "result is required unless status is failed")
  let now ← now db
  let record := evaluationResultRecord runId evaluatorName evaluatorVersion status result
    regressionRunId now
  let id ← execute db.backend .evaluationResult fun store =>
    (store.evaluationResults.length + 1, insertEvaluationResult record store)
  commit
  read db fun store => store.evaluationResults.find? fun row => row.id = id

def persistRunFailure (runId : String) (classification : RunFailureResult) :
    SessionM RunFailure := do
  let now ← now db
  update db .runFailure (upsertRunFailure (runFailureValues runId classification now))
  commit
  let record ← read db fun store => store.runFailures.find? runId
  match record with
  | none => throw (.other "RuntimeError" "run failure upsert did not return a record")
  | some record => pure record

def persistRegressionLinkage (runId : String) (regressionRunId : ℕ) (scenarioId : String)
    (repetitionIndex : ℕ) : SessionM Unit := do
  let record ← getAgentRun db runId
  match record with
  | none => throw (.valueError ("run " ++ reprText runId ++ " does not exist"))
  | some _ =>
    let now ← now db
    update db .linkage (updateLinkage runId regressionRunId scenarioId repetitionIndex now)
    commit
    refreshAgentRun db runId

def persistJudgeCall (runId evaluatorName evaluatorVersion : String) (call : JudgeCallResult Unit)
    (succeeded : Bool) : SessionM (Option JudgeCall) := do
  let now ← now db
  let record := judgeCallRecord runId evaluatorName evaluatorVersion call succeeded now
  let id ← execute db.backend .judgeCall fun store =>
    (store.judgeCalls.length + 1, insertJudgeCall record store)
  commit
  read db fun store => store.judgeCalls.find? fun row => row.id = id

/-! ### What a linkage leaves behind -/

/-- The session after a linkage that returned: the row is committed with its linkage, and the
transaction the refresh began reads what was committed. -/
structure Linked (runId : String) (regressionRunId : ℕ) (scenarioId : String)
    (repetitionIndex : ℕ) (store : Store) (t : DbSession) : Prop where
  committed : ∃ now, t.committed =
    updateLinkage runId regressionRunId scenarioId repetitionIndex now store
  view : t.view = t.committed
  isOpen : t.inTransaction = true

/-- A linkage needs the run's row; with it, only the server can make it fail. -/
theorem persistRegressionLinkage_ends (runId : String) (regressionRunId : ℕ) (scenarioId : String)
    (repetitionIndex : ℕ) (s : DbSession) :
    Stateful.Ends (persistRegressionLinkage db runId regressionRunId scenarioId repetitionIndex) s
      (fun _ t => (s.view.agentRuns.find? runId).isSome ∧
        Linked runId regressionRunId scenarioId repetitionIndex s.view t)
      fun e _ => db.backend.Refuses e ∨ s.view.agentRuns.find? runId = none := by
  have hread := delivers_selectAgentRun db runId s
  refine Stateful.ends_then _ _ s _ _ _ _ hread (fun _ _ h => .inl h) ?_
  intro found t hreturned
  obtain ⟨rfl, rfl⟩ := hreturned
  cases hrow : s.view.agentRuns.find? runId with
  | none => exact Stateful.ends_of_error _ _ _ _ _ _ rfl (.inr rfl)
  | some row =>
    refine Stateful.ends_bind _ _ _ (fun now t => t = s.spoken s.view) _ _
      (Stateful.ends_of_ok _ _ _ _ _ _ rfl rfl) ?_
    intro now _ hreturned
    subst hreturned
    have hwrite := delivers_execute db.backend .linkage
      (fun store => ((), updateLinkage runId regressionRunId scenarioId repetitionIndex now store))
      (s.spoken s.view)
    refine Stateful.ends_then _ _ _ _ _ _ _ hwrite (fun _ _ h => .inl h) ?_
    intro _ t hreturned
    obtain ⟨_, rfl⟩ := hreturned
    refine Stateful.ends_bind _ _ _ _ _ _ (Stateful.ends_of_ok _ _ _ () (fun _ t =>
      t.inTransaction = false ∧ t.committed = updateLinkage runId regressionRunId scenarioId
        repetitionIndex now s.view) _ rfl ⟨rfl, rfl⟩) ?_
    intro _ t hreturned
    obtain ⟨hclosed, hcommitted⟩ := hreturned
    have hrefresh := delivers_refreshAgentRun db runId t
    refine Stateful.ends_mono _ _ _ _ _ _ hrefresh ?_ fun _ _ h => .inl h
    intro _ _ hreturned
    subst hreturned
    exact ⟨rfl, ⟨now, hcommitted⟩, view_of_closed t hclosed, rfl⟩

end ObsPlatform.Evaluation
