import ObsPlatform.Lib.Join
import ObsPlatform.Lib.Regroup
import ObsPlatform.Routes.Runs

/-!
# The analytics endpoints (routes/analytics.py)

Each endpoint summarises the runs that started in a time range. `getOverview` reads the
totals the runs carry; `getTools` and `getUsage` group the calls of these runs.
`getFailures` counts the evaluated ones by verdict, and the failed ones by category and by
severity.
-/

namespace ObsPlatform.Routes

open Telemetry Db UnitOfWork Evaluation
open Ingestion (sumNonNull)

structure AnalyticsTimeRangeParams where
  startedAfter : Option Timestamp
  startedBefore : Option Timestamp

structure FailureRunCounts where
  total : ℕ
  byOverallStatus : List (OverallEvaluationStatus × ℕ)

structure FailureTypeBreakdown where
  failureType : FailureType
  count : ℕ
  pctOfEvaluated : ℚ
  pctOfFailing : ℚ

structure FailureSeverityBreakdown where
  severity : String
  count : ℕ
  pctOfEvaluated : ℚ
  pctOfFailing : ℚ

structure FailureAnalyticsResponse where
  runCounts : FailureRunCounts
  byFailureType : List FailureTypeBreakdown
  bySeverity : List FailureSeverityBreakdown

def ratio (numerator denominator : ℕ) : ℚ := if denominator = 0 then 0 else numerator / denominator

def timeRangeFilters (params : AnalyticsTimeRangeParams) (run : AgentRun) : Bool :=
  (params.startedAfter.all fun after => after ≤ run.startedAt) &&
    params.startedBefore.all fun before => run.startedAt ≤ before

/- run_failures JOIN agent_runs ON run_id, WHERE the filters hold. -/
def failuresInRange (params : AnalyticsTimeRangeParams) (store : Store) : List RunFailure :=
  store.runFailures.rows.filter fun failure =>
    (store.agentRuns.find? failure.runId).any (timeRangeFilters params)

def statusCount (status : OverallEvaluationStatus) (failures : List RunFailure) : ℕ :=
  failures.countP fun failure => failure.overallStatus = status

/- The three verdicts are listed even when no run has them. -/
def evaluationStatusCounts (failures : List RunFailure) : List (OverallEvaluationStatus × ℕ) :=
  [(.pass, statusCount .pass failures), (.fail, statusCount .fail failures),
   (.incomplete, statusCount .incomplete failures)]

def failedRuns (failures : List RunFailure) : List RunFailure :=
  failures.filter fun failure => failure.overallStatus = .fail

/- order_by(func.count().desc(), key.asc()). -/
def byCountThenText {κ : Type} (c : Collation) (text : κ → String) (a b : κ × ℕ) : Prop :=
  b.2 < a.2 ∨ a.2 = b.2 ∧ c.le (text a.1) (text b.1)

/-- The row orders of the two grouped queries. -/
structure FailureOrders (c : Collation) where
  failureTypes : OrderBy (byCountThenText c FailureType.value)
  severities : OrderBy (byCountThenText c fun severity => severity)

theorem byCountThenText_order {κ : Type} (c : Collation) (text : κ → String) :
    (∀ a b, byCountThenText c text a b ∨ byCountThenText c text b a) ∧
      ∀ a b d, byCountThenText c text a b → byCountThenText c text b d →
        byCountThenText c text a d := by
  constructor
  · exact descending_total Prod.snd (fun a b : κ × ℕ => c.le (text a.1) (text b.1))
      fun a b => c.total (text a.1) (text b.1)
  · exact descending_trans Prod.snd (fun a b : κ × ℕ => c.le (text a.1) (text b.1))
      fun a b d => c.trans (text a.1) (text b.1) (text d.1)

theorem failureOrders_nonempty (c : Collation) : Nonempty (FailureOrders c) := by
  have hfailureTypes := byCountThenText_order c FailureType.value
  have hseverities := byCountThenText_order c fun severity => severity
  obtain ⟨failureTypes⟩ := OrderBy.nonempty hfailureTypes.1 hfailureTypes.2
  obtain ⟨severities⟩ := OrderBy.nonempty hseverities.1 hseverities.2
  exact ⟨failureTypes, severities⟩

def getFailures (db : Database) (orders : FailureOrders db.collation)
    (params : AnalyticsTimeRangeParams) : SessionM FailureAnalyticsResponse := do
  let evaluatedCount ← read db fun store => (failuresInRange params store).length
  let overallCounts ← read db fun store => evaluationStatusCounts (failuresInRange params store)
  let failingCount :=
    (overallCounts.lookup .fail).getD 0 + (overallCounts.lookup .incomplete).getD 0
  let failureTypeRows ← read db fun store => orders.failureTypes.arrange
    (groupCounts RunFailure.primaryCategory (failedRuns (failuresInRange params store)))
  let severityRows ← read db fun store => orders.severities.arrange
    (groupCounts RunFailure.maxSeverity (failedRuns (failuresInRange params store)))
  return {
    runCounts := ⟨evaluatedCount, overallCounts⟩
    byFailureType := failureTypeRows.map fun row =>
      ⟨row.1, row.2, ratio row.2 evaluatedCount, ratio row.2 failingCount⟩
    bySeverity := severityRows.map fun row =>
      ⟨row.1, row.2, ratio row.2 evaluatedCount, ratio row.2 failingCount⟩ }

/-! ### Overview -/

structure RunCounts where
  total : ℕ
  byStatus : List (RunStatus × ℕ)

structure EvaluationCounts where
  total : ℕ
  byOverallStatus : List (OverallEvaluationStatus × ℕ)

structure OverviewAnalyticsResponse where
  runtimeSuccessRate : Option ℚ
  behavioralPassRate : Option ℚ
  avgLatencyMs : Option ℚ
  p95LatencyMs : Option ℚ
  usageTotalTokens : ℤ
  usageTotalEstimatedCostUsd : ℚ
  runCounts : RunCounts
  evaluationCounts : EvaluationCounts

/-- The row of the ungrouped query. -/
structure OverviewAggregates where
  total : ℕ
  tokens : ℤ
  cost : ℚ
  avgLatency : Option ℚ
  p95Latency : Option ℚ
  terminalCount : ℕ
  successCount : ℕ

def runsInRange (params : AnalyticsTimeRangeParams) (store : Store) : List AgentRun :=
  store.agentRuns.rows.filter (timeRangeFilters params)

def latencies {ρ : Type} (latencyMs : ρ → Option ℤ) (rows : List ρ) : List ℚ :=
  (rows.filterMap latencyMs).map fun latency => (latency : ℚ)

def overviewAggregates (runs : List AgentRun) : OverviewAggregates where
  total := runs.length
  tokens := (runs.map AgentRun.usageTotalTokens).sum
  cost := (runs.map AgentRun.usageTotalEstimatedCostUsd).sum
  avgLatency := average (latencies AgentRun.executionLatencyMs runs)
  p95Latency := percentileCont (95 / 100) (latencies AgentRun.executionLatencyMs runs)
  terminalCount := runs.countP fun run => run.eventType = .runFinal
  successCount := runs.countP fun run => run.eventType = .runFinal ∧ run.status = .success

/- Every status is listed, also one that no run has. -/
def runStatusCounts (runs : List AgentRun) : List (RunStatus × ℕ) :=
  [.success, .toolError, .runtimeError, .awaitingApproval].map fun status =>
    (status, runs.countP fun run => run.status = status)

def getOverview (db : Database) (params : AnalyticsTimeRangeParams) :
    SessionM OverviewAnalyticsResponse := do
  let aggregateRow ← read db fun store => overviewAggregates (runsInRange params store)
  let statusCounts ← read db fun store => runStatusCounts (runsInRange params store)
  let evaluationCounts ← read db fun store =>
    evaluationStatusCounts (failuresInRange params store)
  let passCount := (evaluationCounts.lookup .pass).getD 0
  let behavioralDenominator := passCount + (evaluationCounts.lookup .fail).getD 0
  return {
    runtimeSuccessRate :=
      if aggregateRow.terminalCount > 0 then
        some (aggregateRow.successCount / aggregateRow.terminalCount)
      else none
    behavioralPassRate :=
      if behavioralDenominator > 0 then some (passCount / behavioralDenominator) else none
    avgLatencyMs := aggregateRow.avgLatency
    p95LatencyMs := aggregateRow.p95Latency
    usageTotalTokens := aggregateRow.tokens
    usageTotalEstimatedCostUsd := aggregateRow.cost
    runCounts := ⟨aggregateRow.total, statusCounts⟩
    evaluationCounts := ⟨(evaluationCounts.map Prod.snd).sum, evaluationCounts⟩ }

/-! ### Tools -/

structure ToolStats where
  toolName : String
  callCount : ℕ
  successCount : ℕ
  failureCount : ℕ
  errorCount : ℕ
  failureRate : ℚ
  avgLatencyMs : Option ℚ
  p95LatencyMs : Option ℚ

structure ToolAnalyticsResponse where
  items : List ToolStats

/-- The aggregates of one tool's calls. -/
structure ToolAggregates where
  callCount : ℕ
  successCount : ℕ
  failureCount : ℕ
  errorCount : ℕ
  avgLatency : Option ℚ
  p95Latency : Option ℚ

/- tool_calls JOIN agent_runs ON run_id, WHERE the filters hold. -/
def toolCallsInRange (params : AnalyticsTimeRangeParams) (store : Store) : List Db.ToolCall :=
  semiJoin store.agentRuns Db.ToolCall.runId (timeRangeFilters params) store.toolCalls.rows

def toolAggregates (calls : List Db.ToolCall) : ToolAggregates where
  callCount := calls.length
  successCount := calls.countP fun call => call.status = .success
  failureCount := calls.countP fun call => call.status = .failure
  errorCount := calls.countP fun call => call.status = .error
  avgLatency := average (latencies Db.ToolCall.latencyMs calls)
  p95Latency := percentileCont (95 / 100) (latencies Db.ToolCall.latencyMs calls)

/- order_by(func.count().desc(), tool_name.asc()). -/
def byCallCountThenTool (c : Collation) : String × ToolAggregates → String × ToolAggregates → Prop :=
  Descending (fun row => row.2.callCount) fun a b => c.le a.1 b.1

theorem toolOrder_nonempty (c : Collation) : Nonempty (OrderBy (byCallCountThenTool c)) :=
  OrderBy.nonempty (descending_total _ _ fun a b => c.total a.1 b.1)
    (descending_trans _ _ fun a b d => c.trans a.1 b.1 d.1)

def toolStats (row : String × ToolAggregates) : ToolStats where
  toolName := row.1
  callCount := row.2.callCount
  successCount := row.2.successCount
  failureCount := row.2.failureCount
  errorCount := row.2.errorCount
  failureRate := (row.2.failureCount + row.2.errorCount) / row.2.callCount
  avgLatencyMs := row.2.avgLatency
  p95LatencyMs := row.2.p95Latency

def getTools (db : Database) (order : OrderBy (byCallCountThenTool db.collation))
    (params : AnalyticsTimeRangeParams) : SessionM ToolAnalyticsResponse := do
  let rows ← read db fun store => order.arrange
    (groupBy Db.ToolCall.toolName toolAggregates (toolCallsInRange params store))
  return ⟨rows.map toolStats⟩

/-! ### Usage -/

structure UsageTotals where
  callCount : ℕ
  promptTokens : ℤ
  completionTokens : ℤ
  totalTokens : ℤ
  totalEstimatedCostUsd : ℚ

structure ModelUsageBreakdown extends UsageTotals where
  provider : String
  model : String

structure CallTypeUsageBreakdown extends UsageTotals where
  callType : LLMCallType

structure UsageAnalyticsResponse where
  total : UsageTotals
  byModel : List ModelUsageBreakdown
  byCallType : List CallTypeUsageBreakdown

/- llm_calls JOIN agent_runs ON run_id, WHERE the filters hold. -/
def llmCallsInRange (params : AnalyticsTimeRangeParams) (store : Store) : List Db.LLMCall :=
  semiJoin store.agentRuns Db.LLMCall.runId (timeRangeFilters params) store.llmCalls.rows

def usageTotals (calls : List Db.LLMCall) : UsageTotals where
  callCount := calls.length
  promptTokens := sumNonNull Db.LLMCall.promptTokens calls
  completionTokens := sumNonNull Db.LLMCall.completionTokens calls
  totalTokens := sumNonNull Db.LLMCall.totalTokens calls
  totalEstimatedCostUsd := sumNonNull Db.LLMCall.estimatedCostUsd calls

/- order_by(cost.desc(), key.asc(), ...). -/
def byCostThenText {κ : Type} (le : κ → κ → Prop) : κ × UsageTotals → κ × UsageTotals → Prop :=
  Descending (fun row => row.2.totalEstimatedCostUsd) fun a b => le a.1 b.1

def byProviderThenModel (c : Collation) : String × String → String × String → Prop :=
  ThenBy Prod.fst c.le fun a b => c.le a.2 b.2

/-- The row orders of the two grouped queries. -/
structure UsageOrders (c : Collation) where
  models : OrderBy (byCostThenText (byProviderThenModel c))
  callTypes : OrderBy (byCostThenText fun a b : LLMCallType => c.le a.value b.value)

theorem usageOrders_nonempty (c : Collation) : Nonempty (UsageOrders c) := by
  have horder : ∀ {κ : Type} (le : κ → κ → Prop), (∀ a b, le a b ∨ le b a) →
      (∀ a b d, le a b → le b d → le a d) → Nonempty (OrderBy (byCostThenText le)) :=
    fun le htotal htrans => OrderBy.nonempty (descending_total _ _ fun a b => htotal a.1 b.1)
      (descending_trans _ _ fun a b d => htrans a.1 b.1 d.1)
  obtain ⟨models⟩ := horder (byProviderThenModel c)
    (thenBy_total _ _ _ c.total fun a b => c.total a.2 b.2)
    (thenBy_trans _ _ _ c.trans c.antisymm fun a b d => c.trans a.2 b.2 d.2)
  obtain ⟨callTypes⟩ := horder (fun a b : LLMCallType => c.le a.value b.value)
    (fun a b => c.total a.value b.value) fun a b d => c.trans a.value b.value d.value
  exact ⟨models, callTypes⟩

def getUsage (db : Database) (orders : UsageOrders db.collation)
    (params : AnalyticsTimeRangeParams) : SessionM UsageAnalyticsResponse := do
  let totalRow ← read db fun store => usageTotals (llmCallsInRange params store)
  let byModelRows ← read db fun store => orders.models.arrange
    (groupBy (fun call : Db.LLMCall => (call.provider, call.model)) usageTotals
      (llmCallsInRange params store))
  let byCallTypeRows ← read db fun store => orders.callTypes.arrange
    (groupBy Db.LLMCall.callType usageTotals (llmCallsInRange params store))
  return {
    total := totalRow
    byModel := byModelRows.map fun row =>
      { row.2 with provider := row.1.1, model := row.1.2 }
    byCallType := byCallTypeRows.map fun row => { row.2 with callType := row.1 } }

/-! ### Scenarios -/

structure ScenarioAnalyticsStats where
  scenarioId : String
  executionCount : ℕ
  passRate : Option ℚ
  failureDistribution : List (FailureType × ℕ)
  avgLatencyMs : Option ℚ
  p95LatencyMs : Option ℚ
  avgAgentCostUsd : Option ℚ

structure ScenarioAnalyticsResponse where
  items : List ScenarioAnalyticsStats

/- A run and its failure row, when it has one. -/
abbrev JudgedRun := AgentRun × Option RunFailure

def JudgedRun.overallStatus (judged : JudgedRun) : Option OverallEvaluationStatus :=
  judged.2.map RunFailure.overallStatus

def JudgedRun.scenarioId (judged : JudgedRun) : Option String := judged.1.scenarioId

/- agent_runs LEFT JOIN run_failures ON run_id. -/
def judgedRuns (store : Store) : List JudgedRun :=
  leftJoin store.runFailures AgentRun.runId store.agentRuns.rows

/- run_failures JOIN agent_runs ON run_id. -/
def failedRunsJoined (store : Store) : List (RunFailure × AgentRun) :=
  innerJoin store.agentRuns RunFailure.runId store.runFailures.rows

/- Only runs linked to a regression count. -/
def scenarioExecutions (params : AnalyticsTimeRangeParams) (store : Store) : List JudgedRun :=
  (judgedRuns store).filter fun judged =>
    judged.1.regressionRunId.isSome && judged.1.scenarioId.isSome &&
      timeRangeFilters params judged.1

/-- The aggregates of one scenario's executions. -/
structure ScenarioAggregates where
  executionCount : ℕ
  passCount : ℕ
  avgLatencyMs : Option ℚ
  p95LatencyMs : Option ℚ
  avgAgentCostUsd : Option ℚ

def scenarioAggregates (executions : List JudgedRun) : ScenarioAggregates where
  executionCount := executions.length
  passCount := executions.countP fun judged => judged.overallStatus = some .pass
  avgLatencyMs := average (latencies (fun judged => judged.1.executionLatencyMs) executions)
  p95LatencyMs :=
    percentileCont (95 / 100) (latencies (fun judged => judged.1.executionLatencyMs) executions)
  avgAgentCostUsd := average (executions.map fun judged => judged.1.usageTotalEstimatedCostUsd)

/- The grouping columns of the failure query, both required not to be null. -/
def scenarioCategory (joined : RunFailure × AgentRun) : Option (String × FailureType) :=
  match joined.2.scenarioId, joined.1.primaryCategory with
  | some scenarioId, some category => some (scenarioId, category)
  | _, _ => none

def scenarioFailures (params : AnalyticsTimeRangeParams) (store : Store) :
    List (RunFailure × AgentRun) :=
  (failedRunsJoined store).filter fun joined =>
    joined.2.regressionRunId.isSome && timeRangeFilters params joined.2

abbrev ScenarioRow := Option String × ScenarioAggregates

abbrev ScenarioCategoryRow := (String × FailureType) × ℕ

/-- The row orders of the two grouped queries. -/
structure ScenarioOrders (c : Collation) where
  scenarios : OrderBy fun a b : ScenarioRow => nullsLast c.le a.1 b.1
  failures : OrderBy (ThenBy (fun row : ScenarioCategoryRow => row.1.1) c.le
    (byCountThenText c fun key => key.2.value))

/- Rows without a scenario are skipped. -/
def scenarioStats (failureDistribution : List (String × List (FailureType × ℕ)))
    (row : ScenarioRow) : Option ScenarioAnalyticsStats :=
  row.1.map fun scenarioId =>
    { scenarioId := scenarioId
      executionCount := row.2.executionCount
      passRate :=
        if row.2.executionCount > 0 then some (row.2.passCount / row.2.executionCount) else none
      failureDistribution := (failureDistribution.lookup scenarioId).getD []
      avgLatencyMs := row.2.avgLatencyMs
      p95LatencyMs := row.2.p95LatencyMs
      avgAgentCostUsd := row.2.avgAgentCostUsd }

def getScenarios (db : Database) (orders : ScenarioOrders db.collation)
    (params : AnalyticsTimeRangeParams) : SessionM ScenarioAnalyticsResponse := do
  let summaryRows ← read db fun store => orders.scenarios.arrange
    (groupBy JudgedRun.scenarioId scenarioAggregates (scenarioExecutions params store))
  let failureRows ← read db fun store => orders.failures.arrange
    (groupCounts scenarioCategory (scenarioFailures params store))
  let failureDistribution := regroup (fun row : ScenarioCategoryRow => some row.1.1)
    (fun row => (row.1.2, row.2)) failureRows
  return ⟨summaryRows.filterMap (scenarioStats failureDistribution)⟩

theorem scenarioOrders_nonempty (c : Collation) : Nonempty (ScenarioOrders c) := by
  obtain ⟨scenarios⟩ := OrderBy.nonempty
    (fun a b : ScenarioRow => nullsLast_total c.le c.total a.1 b.1)
    fun a b d => nullsLast_trans c.le c.trans a.1 b.1 d.1
  have hcounts := byCountThenText_order c fun key : String × FailureType => key.2.value
  obtain ⟨failures⟩ := OrderBy.nonempty
    (thenBy_total (fun row : ScenarioCategoryRow => row.1.1) c.le _ c.total hcounts.1)
    (thenBy_trans _ _ _ c.trans c.antisymm hcounts.2)
  exact ⟨scenarios, failures⟩

end ObsPlatform.Routes
