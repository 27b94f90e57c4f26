import ObsPlatform.Db.Constraints
import ObsPlatform.Evaluation.Service

/-!
# Registering a regression (regressions/persistence.py)

The row is inserted and committed, and read back for the caller. Its id comes from the
sequence of the table, which never gives out the id of a row that is there.
-/

namespace ObsPlatform.Regressions

open Db UnitOfWork Evaluation

structure RegressionIds where
  next : Store → ℕ
  unused : ∀ store : Store, store.regressionRuns.find? (next store) = none

/- The keyword arguments of create_regression_run. -/
structure NewRegressionRun where
  agentVersion : String
  agentModelProvider : String
  agentModelName : String
  promptVersion : String
  repetitions : ℕ
  scenarioIds : List String
  name : Option String := none
  isBaseline : Bool := false

def regressionRunRecord (libraries : JudgeLibraries) (values : NewRegressionRun) (id : ℕ) :
    RegressionRun where
  id := id
  name := values.name
  agentVersion := values.agentVersion
  agentModelProvider := values.agentModelProvider
  agentModelName := values.agentModelName
  promptVersion := values.promptVersion
  scenarioContractVersion := scenarioContractsVersion
  evaluatorVersions :=
    (allEvaluators libraries).map fun evaluator => (evaluator.name, evaluator.version)
  repetitions := values.repetitions
  scenarioIds := values.scenarioIds
  status := .pending
  isBaseline := values.isBaseline
  startedAt := none
  completedAt := none

def insertRegressionRun (ids : RegressionIds) (libraries : JudgeLibraries)
    (values : NewRegressionRun) (store : Store) : Store :=
  { store with
    regressionRuns := store.regressionRuns.insert
      (regressionRunRecord libraries values (ids.next store)) (ids.unused store) }

/-! ### The session code -/

section Session
variable (db : Database) (ids : RegressionIds) (libraries : JudgeLibraries)

/- The INSERT that `session.commit()` flushes before it commits. -/
def insertion (values : NewRegressionRun) : SessionM ℕ :=
  execute db.backend .regressionRun fun store =>
    (ids.next store, insertRegressionRun ids libraries values store)

/- `session.refresh(record)`. -/
def refreshRegressionRun (id : ℕ) : SessionM RegressionRun := do
  let row ← read db fun store => store.regressionRuns.find? id
  match row with
  | none => throw (.other "InvalidRequestError" "Could not refresh instance")
  | some row => pure row

/- A flush that fails rolls the transaction back and raises. -/
def createRegressionRun (values : NewRegressionRun) : SessionM RegressionRun := do
  let id ← tryCatch (insertion db ids libraries values) fun e => do
    rollback
    throw e
  commit
  let record ← refreshRegressionRun db id
  commit
  return record

end Session

/-! ### The baseline -/

def baselines (store : Store) : List RegressionRun :=
  store.regressionRuns.rows.filter RegressionRun.isBaseline

/- select(exists().where(RegressionRun.is_baseline.is_(True))). -/
def baselineExists (store : Store) : Bool := store.regressionRuns.rows.any RegressionRun.isBaseline

theorem baseline_eq_some_iff (row : RegressionRun) :
    row.baseline = some () ↔ row.isBaseline = true := by
  simp [RegressionRun.baseline]

/-- The index lets at most one row in. -/
theorem baselines_length (store : Store) (h : store.Consistent) : (baselines store).length ≤ 1 := by
  have hunique : (store.regressionRuns.rows.filterMap RegressionRun.baseline).Nodup :=
    h .regressionRunsBaseline
  have hcount : ∀ rows : List RegressionRun,
      (rows.filter RegressionRun.isBaseline).length =
        (rows.filterMap RegressionRun.baseline).length := by
    intro rows
    induction rows with
    | nil => rfl
    | cons row rows ih =>
      cases hrow : row.isBaseline with
      | true => simp [RegressionRun.baseline, hrow, ih]
      | false => simp [RegressionRun.baseline, hrow, ih]
  rw [baselines, hcount]
  exact hunique.length_le_card

section Insert
variable (ids : RegressionIds) (libraries : JudgeLibraries) (values : NewRegressionRun)
  (store : Store)

theorem insertRegressionRun_find? (id : ℕ) :
    (insertRegressionRun ids libraries values store).regressionRuns.find? id =
      if id = ids.next store then some (regressionRunRecord libraries values (ids.next store))
      else store.regressionRuns.find? id :=
  Table.find?_insert store.regressionRuns _ (ids.unused store) id

theorem baselineExists_insert :
    baselineExists (insertRegressionRun ids libraries values store) =
      (baselineExists store || values.isBaseline) := by
  simp [baselineExists, insertRegressionRun, Table.insert, regressionRunRecord]

theorem unclashed_baseline_iff (row : RegressionRun) :
    Unclashed RegressionRun.baseline store.regressionRuns.rows row ↔
      (row.isBaseline = true → baselineExists store = false) := by
  simp only [Unclashed, baselineExists, Option.mem_def, List.any_eq_false]
  constructor
  · intro h hrow old hold hbaseline
    exact h old hold () ((baseline_eq_some_iff old).mpr hbaseline) ((baseline_eq_some_iff row).mpr hrow)
  · intro h old hold k hk hrow
    exact h ((baseline_eq_some_iff row).mp hrow) old hold ((baseline_eq_some_iff old).mp hk)

/-- The new row breaks the index or nothing. -/
theorem consistent_insert_iff (h : store.Consistent) :
    (insertRegressionRun ids libraries values store).Consistent ↔
      (values.isBaseline = true → baselineExists store = false) := by
  have hunique := uniqueOn_append RegressionRun.baseline store.regressionRuns.rows
    (regressionRunRecord libraries values (ids.next store))
  rw [unclashed_baseline_iff] at hunique
  have hkeys : ∀ k ∈ store.regressionRunIds,
      k ∈ (insertRegressionRun ids libraries values store).regressionRunIds := by
    intro k hk
    have hids : (insertRegressionRun ids libraries values store).regressionRunIds =
        store.regressionRunIds ++ [ids.next store] := by
      simp [Store.regressionRunIds, insertRegressionRun, Table.insert, regressionRunRecord]
    rw [hids]
    exact List.mem_append_left _ hk
  constructor
  · intro hconsistent
    exact (hunique.mp (hconsistent .regressionRunsBaseline)).2
  · intro hbaseline constraint
    cases constraint with
    | regressionRunsBaseline => exact hunique.mpr ⟨h .regressionRunsBaseline, hbaseline⟩
    | agentRunsRegressionRunId =>
      exact refersOn_mono _ _ _ _ hkeys (h .agentRunsRegressionRunId)
    | evaluationResultsRegressionRunId =>
      exact refersOn_mono _ _ _ _ hkeys (h .evaluationResultsRegressionRunId)
    | agentRunsRegressionScenarioRepetition => exact h .agentRunsRegressionScenarioRepetition
    | evaluationResultsRunEvaluatorVersionRegression =>
      exact h .evaluationResultsRunEvaluatorVersionRegression
    | spansRunId => exact h .spansRunId
    | spansParentSpanId => exact h .spansParentSpanId
    | toolCallsRunId => exact h .toolCallsRunId
    | toolCallsSpanId => exact h .toolCallsSpanId
    | llmCallsRunId => exact h .llmCallsRunId
    | llmCallsSpanId => exact h .llmCallsSpanId
    | evaluationResultsRunId => exact h .evaluationResultsRunId
    | judgeCallsRunId => exact h .judgeCallsRunId
    | runFailuresRunId => exact h .runFailuresRunId

end Insert

end ObsPlatform.Regressions
