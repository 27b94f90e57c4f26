import ObsPlatform.Evaluation.Recorded
import ObsPlatform.Lib.Differences
import ObsPlatform.Regressions.Runner
import ObsPlatform.Regressions.Slices
import ObsPlatform.Routes.Regressions

/-!
# Reading regressions (routes/regressions.py)

A regression is shown with the figures of the runs linked to it and, unless it is the baseline
itself, with what sets it apart from the baseline: the version of the scenario contracts and
the evaluators whose versions are not the same.
-/

namespace ObsPlatform.Routes

open Db UnitOfWork Evaluation Regressions Stateful

structure RegressionComparison where
  baselineId : ℕ
  comparable : Bool
  differences : List String
  deriving Repr, DecidableEq

def regressionComparison (record baseline : RegressionRun) : RegressionComparison :=
  let differences :=
    (if record.scenarioContractVersion ≠ baseline.scenarioContractVersion then
      ["scenario_contract_version"] else []) ++
    differingKeys record.evaluatorVersions baseline.evaluatorVersions
  { baselineId := baseline.id
    comparable := differences.isEmpty
    differences := differences }

/- The response repeats the figures of the aggregation, without the id. -/
structure RegressionAggregationResponse where
  overall : PassRateSummary
  byScenario : List ScenarioPassRateSummary
  byEvaluator : List EvaluatorPassRateSummary
  failureDistribution : List (FailureType × ℕ)
  agent : AgentMetricsSummary
  evaluation : EvaluationMetricsSummary

def regressionAggregationResponse (aggregation : RegressionAggregation) :
    RegressionAggregationResponse where
  overall := aggregation.overall
  byScenario := aggregation.byScenario
  byEvaluator := aggregation.byEvaluator
  failureDistribution := aggregation.failureDistribution
  agent := aggregation.agent
  evaluation := aggregation.evaluation

structure RegressionDetailResponse extends RegressionSummary where
  agentVersion : String
  agentModelProvider : String
  agentModelName : String
  promptVersion : String
  scenarioContractVersion : String
  evaluatorVersions : List (String × String)
  aggregation : RegressionAggregationResponse
  comparison : Option RegressionComparison

def regressionDetail (record : RegressionRun) (aggregation : RegressionAggregation)
    (baseline : Option RegressionRun) : RegressionDetailResponse where
  toRegressionSummary := regressionSummary record
  agentVersion := record.agentVersion
  agentModelProvider := record.agentModelProvider
  agentModelName := record.agentModelName
  promptVersion := record.promptVersion
  scenarioContractVersion := record.scenarioContractVersion
  evaluatorVersions := record.evaluatorVersions
  aggregation := regressionAggregationResponse aggregation
  comparison := baseline.bind fun baseline =>
    if baseline.id ≠ record.id then some (regressionComparison record baseline) else none

def regressionNotFound : Error := .other "HTTPException" "404: regression run not found"

section Endpoints
variable (db : Database) (orders : AggregationOrders db.collation) (regressionRunId : ℕ)

def getRegression : SessionM RegressionDetailResponse := do
  let record ← read db fun store => store.regressionRuns.find? regressionRunId
  match record with
  | none => throw regressionNotFound
  | some record =>
    let aggregation ← aggregateRegressionRun db orders record.id
    let baseline ← read db fun store => (baselines store).head?
    return regressionDetail record aggregation baseline

/- select(RegressionRun).order_by(RegressionRun.id.desc()). -/
def newestFirst (store : Store) : List RegressionRun :=
  store.regressionRuns.rows.insertionSort fun a b => b.id ≤ a.id

def listRegressions : SessionM (List RegressionSummary) := do
  let rows ← read db newestFirst
  return rows.map regressionSummary

end Endpoints

/-! ### Comparisons -/

section Comparison
variable (record baseline : RegressionRun)

end Comparison

/-! ### One regression -/

theorem baselines_head? (store : Store) (hone : (baselines store).length ≤ 1)
    (row : RegressionRun) (hrow : row ∈ baselines store) : (baselines store).head? = some row := by
  cases hbaselines : baselines store with
  | nil =>
    rw [hbaselines] at hrow
    cases hrow
  | cons first rest =>
    rw [hbaselines] at hone hrow
    have hrest : rest = [] := List.length_eq_zero_iff.mp (by simpa using hone)
    subst hrest
    rw [List.mem_singleton.mp hrow]
    rfl

theorem baselineExists_eq_false (store : Store) :
    baselineExists store = false ↔ baselines store = [] := by
  rw [baselineExists, List.any_eq_false, baselines, List.filter_eq_nil_iff]

theorem baselineExists_of_cons (store : Store) (first : RegressionRun) (rest : List RegressionRun)
    (h : baselines store = first :: rest) : baselineExists store = true := by
  rw [← Bool.not_eq_false, baselineExists_eq_false, h]
  exact List.cons_ne_nil _ _

section Delivers
variable (db : Database) (orders : AggregationOrders db.collation) (store : Store)

end Delivers

/-! ### A regression beside its baseline -/

def baselineRegression : RegressionRun := { sampleRegression ["GS-01"] 1 with isBaseline := true }

def laterRegression : RegressionRun :=
  { sampleRegression ["GS-01"] 1 with
    id := 2, scenarioContractVersion := "2", evaluatorVersions := [("schema_validity", "2")] }

def comparedStore : Store :=
  { Store.empty with regressionRuns := ⟨[baselineRegression, laterRegression], by decide⟩ }

end ObsPlatform.Routes
