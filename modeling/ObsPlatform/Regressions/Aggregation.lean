import ObsPlatform.Lib.Regroup
import ObsPlatform.Routes.Analytics

/-!
# Aggregation of a regression (regressions/aggregation.py)

The figures of one regression run, each from a query of its own over the runs linked to it:
pass rates overall, by scenario and by evaluator, the failure categories, and the cost of
the agent and of its evaluation.
-/

namespace ObsPlatform.Regressions

open Telemetry Db UnitOfWork Evaluation
open Ingestion (sumNonNull)
open Routes (byCountThenText latencies JudgedRun judgedRuns failedRunsJoined)

structure PassRateSummary where
  passRate : Option ℚ
  counts : List (OverallEvaluationStatus × ℕ)

structure ScenarioPassRateSummary extends PassRateSummary where
  scenarioId : String

structure EvaluatorPassRateSummary where
  evaluatorName : String
  totalCount : ℕ
  skippedCount : ℕ
  passedCount : ℕ
  passRate : Option ℚ

structure AgentMetricsSummary where
  avgLatencyMs : Option ℚ
  p95LatencyMs : Option ℚ
  avgTokens : Option ℚ
  avgCostUsd : Option ℚ

structure EvaluationMetricsSummary where
  totalTokens : ℤ
  avgTokens : Option ℚ
  totalCostUsd : ℚ
  avgCostUsd : Option ℚ
  avgLatencyMs : Option ℚ

structure RegressionAggregation where
  regressionRunId : ℕ
  overall : PassRateSummary
  byScenario : List ScenarioPassRateSummary
  byEvaluator : List EvaluatorPassRateSummary
  failureDistribution : List (FailureType × ℕ)
  agent : AgentMetricsSummary
  evaluation : EvaluationMetricsSummary

/-! ### Pass rates -/

def emptyStatusCounts : List (OverallEvaluationStatus × ℕ) :=
  [(.pass, 0), (.fail, 0), (.incomplete, 0)]

/- counts[overall_status] = count. -/
def setCount (counts : List (OverallEvaluationStatus × ℕ)) (status : OverallEvaluationStatus)
    (count : ℕ) : List (OverallEvaluationStatus × ℕ) :=
  counts.map fun entry => if entry.1 = status then (status, count) else entry

abbrev StatusRow := Option OverallEvaluationStatus × ℕ

/- The group of the runs that have no verdict yet counts in the total only. -/
def countRow (counted : List (OverallEvaluationStatus × ℕ) × ℕ) (row : StatusRow) :
    List (OverallEvaluationStatus × ℕ) × ℕ :=
  match row.1 with
  | some overallStatus => (setCount counted.1 overallStatus row.2, counted.2 + row.2)
  | none => (counted.1, counted.2 + row.2)

def passRateSummaryFromRows (rows : List StatusRow) : PassRateSummary :=
  let counted := rows.foldl countRow (emptyStatusCounts, 0)
  { passRate :=
      if counted.2 ≠ 0 then some ((counted.1.lookup .pass).getD 0 / counted.2) else none
    counts := counted.1 }

def linkedTo (regressionRunId : ℕ) (run : AgentRun) : Bool :=
  run.regressionRunId = some regressionRunId

def judgedRunsOf (regressionRunId : ℕ) (store : Store) : List JudgedRun :=
  (judgedRuns store).filter fun judged => linkedTo regressionRunId judged.1

abbrev ScenarioStatusRow := (Option String × Option OverallEvaluationStatus) × ℕ

/- order_by(AgentRun.scenario_id.asc()). -/
def byScenario (c : Collation) (a b : ScenarioStatusRow) : Prop := nullsLast c.le a.1.1 b.1.1

/-! ### By evaluator -/

/-- The aggregates of one evaluator's results. -/
structure EvaluatorAggregates where
  totalCount : ℕ
  skippedCount : ℕ
  passedCount : ℕ

def evaluatorAggregates (results : List Db.EvaluationResult) : EvaluatorAggregates where
  totalCount := results.length
  skippedCount := results.countP fun result => result.status = .skipped
  passedCount := results.countP fun result => result.passed = some true

/- evaluation_results JOIN agent_runs ON run_id, WHERE the run is linked. -/
def resultsOf (regressionRunId : ℕ) (store : Store) : List Db.EvaluationResult :=
  semiJoin store.agentRuns Db.EvaluationResult.runId (linkedTo regressionRunId)
    store.evaluationResults

def byEvaluatorName (c : Collation) (a b : String × EvaluatorAggregates) : Prop := c.le a.1 b.1

/- Skipped results leave the denominator. -/
def evaluatorPassRateSummary (row : String × EvaluatorAggregates) : EvaluatorPassRateSummary :=
  let denominator : ℤ := row.2.totalCount - row.2.skippedCount
  { evaluatorName := row.1
    totalCount := row.2.totalCount
    skippedCount := row.2.skippedCount
    passedCount := row.2.passedCount
    passRate := if denominator ≠ 0 then some (row.2.passedCount / denominator) else none }

/-! ### Metrics -/

def agentMetricsOf (runs : List AgentRun) : AgentMetricsSummary where
  avgLatencyMs := average (latencies AgentRun.executionLatencyMs runs)
  p95LatencyMs := percentileCont (95 / 100) (latencies AgentRun.executionLatencyMs runs)
  avgTokens := average (runs.map fun run => (run.usageTotalTokens : ℚ))
  avgCostUsd := average (runs.map AgentRun.usageTotalEstimatedCostUsd)

def evaluationMetricsOf (calls : List JudgeCall) : EvaluationMetricsSummary where
  totalTokens := (calls.map fun call => call.promptTokens + call.completionTokens).sum
  avgTokens :=
    average (calls.map fun call => ((call.promptTokens + call.completionTokens : ℤ) : ℚ))
  totalCostUsd := (calls.map JudgeCall.estimatedCostUsd).sum
  avgCostUsd := average (calls.map JudgeCall.estimatedCostUsd)
  avgLatencyMs := average (calls.map fun call => (call.latencyMs : ℚ))

/-! ### The queries -/

/-- The row orders of the grouped queries; the first one asks for none. -/
structure AggregationOrders (c : Collation) where
  statuses : OrderBy fun _ _ : StatusRow => True
  scenarios : OrderBy (byScenario c)
  evaluators : OrderBy (byEvaluatorName c)
  categories : OrderBy (byCountThenText c FailureType.value)

theorem aggregationOrders_nonempty (c : Collation) : Nonempty (AggregationOrders c) := by
  obtain ⟨statuses⟩ := OrderBy.nonempty (fun _ _ : StatusRow => .inl trivial)
    fun _ _ _ _ _ => trivial
  obtain ⟨scenarios⟩ := OrderBy.nonempty
    (fun a b : ScenarioStatusRow => nullsLast_total c.le c.total a.1.1 b.1.1)
    fun a b d => nullsLast_trans c.le c.trans a.1.1 b.1.1 d.1.1
  obtain ⟨evaluators⟩ := OrderBy.nonempty
    (fun a b : String × EvaluatorAggregates => c.total a.1 b.1) fun a b d => c.trans a.1 b.1 d.1
  have hcategories := Routes.byCountThenText_order c FailureType.value
  obtain ⟨categories⟩ := OrderBy.nonempty hcategories.1 hcategories.2
  exact ⟨statuses, scenarios, evaluators, categories⟩

section Queries
variable (db : Database) (orders : AggregationOrders db.collation) (regressionRunId : ℕ)

def passRateSummary : SessionM PassRateSummary := do
  let rows ← read db fun store => orders.statuses.arrange
    (groupBy JudgedRun.overallStatus List.length (judgedRunsOf regressionRunId store))
  return passRateSummaryFromRows rows

def scenarioPassRateSummaries : SessionM (List ScenarioPassRateSummary) := do
  let rows ← read db fun store => orders.scenarios.arrange
    (groupBy (fun judged : JudgedRun => (judged.scenarioId, judged.overallStatus)) List.length
      (judgedRunsOf regressionRunId store))
  let grouped := regroup (fun row : ScenarioStatusRow => row.1.1) (fun row => (row.1.2, row.2)) rows
  return grouped.map fun entry =>
    { passRateSummaryFromRows entry.2 with scenarioId := entry.1 }

def evaluatorPassRateSummaries : SessionM (List EvaluatorPassRateSummary) := do
  let rows ← read db fun store => orders.evaluators.arrange
    (groupBy Db.EvaluationResult.evaluatorName evaluatorAggregates
      (resultsOf regressionRunId store))
  return rows.map evaluatorPassRateSummary

def failureDistribution : SessionM (List (FailureType × ℕ)) :=
  read db fun store => orders.categories.arrange
    (groupCounts (fun joined : RunFailure × AgentRun => joined.1.primaryCategory)
      ((failedRunsJoined store).filter fun joined => linkedTo regressionRunId joined.2))

def agentMetrics : SessionM AgentMetricsSummary :=
  read db fun store => agentMetricsOf (store.agentRuns.rows.filter (linkedTo regressionRunId))

def evaluationMetrics : SessionM EvaluationMetricsSummary :=
  read db fun store => evaluationMetricsOf
    (semiJoin store.agentRuns JudgeCall.runId (linkedTo regressionRunId) store.judgeCalls)

def aggregateRegressionRun : SessionM RegressionAggregation := do
  let overall ← passRateSummary db orders regressionRunId
  let byScenario ← scenarioPassRateSummaries db orders regressionRunId
  let byEvaluator ← evaluatorPassRateSummaries db orders regressionRunId
  let failureDistribution ← failureDistribution db orders regressionRunId
  let agent ← agentMetrics db regressionRunId
  let evaluation ← evaluationMetrics db regressionRunId
  return {
    regressionRunId := regressionRunId
    overall := overall
    byScenario := byScenario
    byEvaluator := byEvaluator
    failureDistribution := failureDistribution
    agent := agent
    evaluation := evaluation }

end Queries

end ObsPlatform.Regressions
