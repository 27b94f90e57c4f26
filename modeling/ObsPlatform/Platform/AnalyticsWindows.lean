import ObsPlatform.Lib.Interval
import ObsPlatform.Platform.AnalyticsReads
import ObsPlatform.Regressions.AcrossRegressions

/-!
# Splitting a time range

Both bounds of a range are inclusive, and every row the analytics count belongs to one run,
which started at one instant. So the figures of two ranges that meet at an instant are those of
the whole range, and those of the runs of that instant once more.
-/

namespace ObsPlatform.Platform

open Telemetry Db UnitOfWork Evaluation Ingestion Stateful Regressions Routes

/-! ### Figures -/

/-- What the five endpoints return for one range. -/
structure Analytics where
  overview : OverviewAnalyticsResponse
  tools : ToolAnalyticsResponse
  usage : UsageAnalyticsResponse
  failures : FailureAnalyticsResponse
  scenarios : ScenarioAnalyticsResponse

inductive ToolColumn where
  | callCount
  | successCount
  | failureCount
  | errorCount

inductive UsageColumn where
  | callCount
  | promptTokens
  | completionTokens
  | totalTokens
  | totalEstimatedCostUsd

/-- The figures that count or sum; averages, percentiles and rates do not add up. -/
inductive Figure where
  | runs
  | status (status : RunStatus)
  | tokens
  | cost
  | evaluated
  | verdict (overallStatus : OverallEvaluationStatus)
  | tool (toolName : String) (column : ToolColumn)
  | usage (column : UsageColumn)
  | model (provider model : String) (column : UsageColumn)
  | callType (callType : LLMCallType) (column : UsageColumn)
  | failureType (failureType : FailureType)
  | severity (severity : String)
  | executions (scenarioId : String)
  | passes (scenarioId : String)
  | scenarioFailures (scenarioId : String) (category : FailureType)

def ToolColumn.of : ToolColumn → ToolStats → ℕ
  | .callCount, stats => stats.callCount
  | .successCount, stats => stats.successCount
  | .failureCount, stats => stats.failureCount
  | .errorCount, stats => stats.errorCount

def UsageColumn.of : UsageColumn → UsageTotals → ℚ
  | .callCount, totals => totals.callCount
  | .promptTokens, totals => totals.promptTokens
  | .completionTokens, totals => totals.completionTokens
  | .totalTokens, totals => totals.totalTokens
  | .totalEstimatedCostUsd, totals => totals.totalEstimatedCostUsd

/-- What a list shows under a key, nothing when it has no item for it. -/
def shownFor {α κ : Type} [DecidableEq κ] (key : α → κ) (value : α → ℚ) (k : κ) (items : List α) : ℚ :=
  ((items.filter fun item => key item = k).map value).sum

def Analytics.figure (answers : Analytics) : Figure → ℚ
  | .runs => answers.overview.runCounts.total
  | .status status =>
    shownFor Prod.fst (fun entry : RunStatus × ℕ => entry.2) status answers.overview.runCounts.byStatus
  | .tokens => answers.overview.usageTotalTokens
  | .cost => answers.overview.usageTotalEstimatedCostUsd
  | .evaluated => answers.failures.runCounts.total
  | .verdict overallStatus =>
    shownFor Prod.fst (fun entry : OverallEvaluationStatus × ℕ => entry.2) overallStatus
      answers.failures.runCounts.byOverallStatus
  | .tool toolName column =>
    shownFor ToolStats.toolName (fun item => column.of item) toolName answers.tools.items
  | .usage column => column.of answers.usage.total
  | .model provider model column =>
    shownFor (fun item : ModelUsageBreakdown => (item.provider, item.model))
      (fun item => column.of item.toUsageTotals) (provider, model) answers.usage.byModel
  | .callType callType column =>
    shownFor CallTypeUsageBreakdown.callType (fun item => column.of item.toUsageTotals) callType
      answers.usage.byCallType
  | .failureType failureType =>
    shownFor FailureTypeBreakdown.failureType (fun item => item.count) failureType
      answers.failures.byFailureType
  | .severity severity =>
    shownFor FailureSeverityBreakdown.severity (fun item => item.count) severity
      answers.failures.bySeverity
  | .executions scenarioId =>
    shownFor ScenarioAnalyticsStats.scenarioId (fun item => item.executionCount) scenarioId
      answers.scenarios.items
  | .passes scenarioId =>
    shownFor ScenarioAnalyticsStats.scenarioId
      (fun item => item.executionCount * item.passRate.getD 0) scenarioId answers.scenarios.items
  | .scenarioFailures scenarioId category =>
    shownFor ScenarioAnalyticsStats.scenarioId
      (fun item => categoryCount category item.failureDistribution) scenarioId
      answers.scenarios.items

/-- The endpoints returned this for the range, each to a session that reads the store. -/
structure AnalyticsOf (store : Store) (params : AnalyticsTimeRangeParams) (answers : Analytics) :
    Prop where
  overview : ∃ (db : Database) (s t : DbSession), s.view = store ∧
    getOverview db params s = .ok answers.overview t
  tools : ∃ (db : Database) (order : OrderBy (byCallCountThenTool db.collation)) (s t : DbSession),
    s.view = store ∧ getTools db order params s = .ok answers.tools t
  usage : ∃ (db : Database) (orders : UsageOrders db.collation) (s t : DbSession),
    s.view = store ∧ getUsage db orders params s = .ok answers.usage t
  failures : ∃ (db : Database) (orders : FailureOrders db.collation) (s t : DbSession),
    s.view = store ∧ getFailures db orders params s = .ok answers.failures t
  scenarios : ∃ (db : Database) (orders : ScenarioOrders db.collation) (s t : DbSession),
    s.view = store ∧ getScenarios db orders params s = .ok answers.scenarios t

/-! ### What the figures count -/

def ToolColumn.counts : ToolColumn → Db.ToolCall → Bool
  | .callCount, _ => true
  | .successCount, call => call.status = .success
  | .failureCount, call => call.status = .failure
  | .errorCount, call => call.status = .error

def UsageColumn.part : UsageColumn → Db.LLMCall → ℚ
  | .callCount, _ => 1
  | .promptTokens, call => call.promptTokens.getD 0
  | .completionTokens, call => call.completionTokens.getD 0
  | .totalTokens, call => call.totalTokens.getD 0
  | .totalEstimatedCostUsd, call => call.estimatedCostUsd.getD 0

section Counted
variable (store : Store) (after before : Option Timestamp)

def startOf (runId : String) : Option Timestamp :=
  (store.agentRuns.find? runId).map AgentRun.startedAt

def ofRuns (p : AgentRun → Bool) (f : AgentRun → ℚ) : ℚ :=
  sumWithin (store.agentRuns.rows.filter p) (fun run => some run.startedAt) f after before

def ofFailures (p : RunFailure → Bool) : ℚ :=
  sumWithin (store.runFailures.rows.filter p) (fun failure => startOf store failure.runId)
    (fun _ => 1) after before

def ofToolCalls (p : Db.ToolCall → Bool) : ℚ :=
  sumWithin (store.toolCalls.rows.filter p) (fun call => startOf store call.runId) (fun _ => 1)
    after before

def ofLlmCalls (p : Db.LLMCall → Bool) (f : Db.LLMCall → ℚ) : ℚ :=
  sumWithin (store.llmCalls.rows.filter p) (fun call => startOf store call.runId) f after before

def ofExecutions (p : JudgedRun → Bool) : ℚ :=
  sumWithin (((judgedRuns store).filter fun run =>
    run.1.regressionRunId.isSome && run.1.scenarioId.isSome).filter p)
    (fun run => some run.1.startedAt) (fun _ => 1) after before

def ofScenarioFailures (p : RunFailure × AgentRun → Bool) : ℚ :=
  sumWithin (((failedRunsJoined store).filter fun joined =>
    joined.2.regressionRunId.isSome).filter p)
    (fun joined => some joined.2.startedAt) (fun _ => 1) after before

/-- Every figure is a sum over rows of one table, each at the start of its run. -/
def counted : Figure → ℚ
  | .runs => ofRuns store after before (fun _ => true) fun _ => 1
  | .status status => ofRuns store after before (fun run => run.status = status) fun _ => 1
  | .tokens => ofRuns store after before (fun _ => true) fun run => run.usageTotalTokens
  | .cost => ofRuns store after before (fun _ => true) AgentRun.usageTotalEstimatedCostUsd
  | .evaluated => ofFailures store after before fun _ => true
  | .verdict overallStatus =>
    ofFailures store after before fun failure => failure.overallStatus = overallStatus
  | .tool toolName column =>
    ofToolCalls store after before fun call => call.toolName = toolName && column.counts call
  | .usage column => ofLlmCalls store after before (fun _ => true) column.part
  | .model provider model column =>
    ofLlmCalls store after before (fun call => (call.provider, call.model) = (provider, model))
      column.part
  | .callType callType column =>
    ofLlmCalls store after before (fun call => call.callType = callType) column.part
  | .failureType failureType =>
    ofFailures store after before fun failure =>
      failure.overallStatus = .fail && failure.primaryCategory = some failureType
  | .severity severity =>
    ofFailures store after before fun failure =>
      failure.overallStatus = .fail && failure.maxSeverity = some severity
  | .executions scenarioId =>
    ofExecutions store after before fun run => run.scenarioId = some scenarioId
  | .passes scenarioId =>
    ofExecutions store after before fun run =>
      run.scenarioId = some scenarioId ∧ run.overallStatus = some .pass
  | .scenarioFailures scenarioId category =>
    ofScenarioFailures store after before fun joined =>
      scenarioCategory joined = some (scenarioId, category)

theorem counted_split (cut : Timestamp) (hafter : ∀ bound ∈ after, bound ≤ cut)
    (hbefore : ∀ bound ∈ before, cut ≤ bound) (figure : Figure) :
    counted store after (some cut) figure + counted store (some cut) before figure =
      counted store after before figure + counted store (some cut) (some cut) figure := by
  cases figure <;> exact sumWithin_split after before cut hafter hbefore _ _ _

end Counted

/-! ### Each endpoint against its rows -/

section Rows
variable (store : Store) (params : AnalyticsTimeRangeParams)

theorem ofRuns_eq (p : AgentRun → Bool) (f : AgentRun → ℚ) :
    ofRuns store params.startedAfter params.startedBefore p f =
      (((runsInRange params store).filter p).map f).sum :=
  sumWithin_filter store.agentRuns.rows p _ f _ _

theorem startOf_any (runId : String) :
    (startOf store runId).any (within params.startedAfter params.startedBefore) =
      (store.agentRuns.find? runId).any (timeRangeFilters params) := by
  rw [startOf, Option.any_map]
  rfl

theorem ofFailures_eq (p : RunFailure → Bool) :
    ofFailures store params.startedAfter params.startedBefore p =
      ((failuresInRange params store).countP p : ℕ) := by
  rw [ofFailures, sumWithin_one]
  simp only [startOf_any]
  rfl

theorem ofToolCalls_eq (p : Db.ToolCall → Bool) :
    ofToolCalls store params.startedAfter params.startedBefore p =
      ((toolCallsInRange params store).countP p : ℕ) := by
  rw [ofToolCalls, sumWithin_one]
  simp only [startOf_any]
  rfl

theorem ofLlmCalls_eq (p : Db.LLMCall → Bool) (f : Db.LLMCall → ℚ) :
    ofLlmCalls store params.startedAfter params.startedBefore p f =
      (((llmCallsInRange params store).filter p).map f).sum := by
  rw [ofLlmCalls, sumWithin_filter]
  simp only [startOf_any]
  rfl

theorem ofExecutions_eq (p : JudgedRun → Bool) :
    ofExecutions store params.startedAfter params.startedBefore p =
      ((scenarioExecutions params store).countP p : ℕ) := by
  rw [ofExecutions, sumWithin_one, List.filter_filter, scenarioExecutions]
  congr 3
  funext run
  exact Bool.and_comm _ _

theorem ofScenarioFailures_eq (p : RunFailure × AgentRun → Bool) :
    ofScenarioFailures store params.startedAfter params.startedBefore p =
      ((scenarioFailures params store).countP p : ℕ) := by
  rw [ofScenarioFailures, sumWithin_one, List.filter_filter, scenarioFailures]
  congr 3
  funext joined
  exact Bool.and_comm _ _

end Rows

section Shown
variable {α κ : Type} [DecidableEq κ] (key : α → κ) (value : α → ℚ) (items : List α)

theorem shownFor_item (hdistinct : (items.map key).Nodup) (item : α) (h : item ∈ items) :
    shownFor key value (key item) items = value item := by
  rw [shownFor, filter_key key items hdistinct item h, List.map_singleton, List.sum_singleton]

theorem shownFor_absent (k : κ) (h : k ∉ items.map key) : shownFor key value k items = 0 := by
  rw [shownFor, filter_key_absent key items k h]
  rfl

end Shown

theorem shownFor_status (status : RunStatus) (runs : List AgentRun) :
    shownFor Prod.fst (fun entry : RunStatus × ℕ => (entry.2 : ℚ)) status (runStatusCounts runs) =
      (runs.countP fun run => run.status = status : ℕ) := by
  cases status <;> simp [shownFor, runStatusCounts]

theorem shownFor_verdict (overallStatus : OverallEvaluationStatus) (failures : List RunFailure) :
    shownFor Prod.fst (fun entry : OverallEvaluationStatus × ℕ => (entry.2 : ℚ)) overallStatus
      (evaluationStatusCounts failures) =
      (failures.countP fun failure => failure.overallStatus = overallStatus : ℕ) := by
  cases overallStatus <;> simp [shownFor, evaluationStatusCounts, statusCount]

/-! ### Grouped figures under their keys -/

theorem shownFor_cast {α κ : Type} [DecidableEq κ] (key : α → κ) (value : α → ℕ) (k : κ)
    (items : List α) :
    shownFor key (fun item => (value item : ℚ)) k items =
      (((items.filter fun item => key item = k).map value).sum : ℕ) := by
  rw [shownFor, Nat.cast_list_sum, List.map_map]
  rfl

theorem sumNonNull_cast (column : Db.LLMCall → Option ℤ) (calls : List Db.LLMCall) :
    ((sumNonNull column calls : ℤ) : ℚ) =
      (calls.map fun call => (((column call).getD 0 : ℤ) : ℚ)).sum := by
  rw [sumNonNull, sum_filterMap, Int.cast_list_sum, List.map_map]
  rfl

theorem usageColumn_sum (column : UsageColumn) (calls : List Db.LLMCall) :
    column.of (usageTotals calls) = (calls.map column.part).sum := by
  cases column with
  | callCount =>
    show (calls.length : ℚ) = (calls.map fun _ => (1 : ℚ)).sum
    simp
  | promptTokens => exact sumNonNull_cast Db.LLMCall.promptTokens calls
  | completionTokens => exact sumNonNull_cast Db.LLMCall.completionTokens calls
  | totalTokens => exact sumNonNull_cast Db.LLMCall.totalTokens calls
  | totalEstimatedCostUsd => exact sum_filterMap Db.LLMCall.estimatedCostUsd calls

theorem toolColumn_count (column : ToolColumn) (toolName : String) (calls : List Db.ToolCall) :
    column.of (toolStats (toolName, toolAggregates calls)) =
      (calls.map fun call => if column.counts call then 1 else 0).sum := by
  rw [sum_indicator]
  cases column with
  | callCount => exact (congrFun List.countP_true calls).symm
  | successCount => rfl
  | failureCount => rfl
  | errorCount => rfl

theorem shownFor_tool (le : String × ToolAggregates → String × ToolAggregates → Prop)
    (order : OrderBy le) (calls : List Db.ToolCall) (toolName : String) (column : ToolColumn) :
    shownFor ToolStats.toolName (fun item => (column.of item : ℚ)) toolName
      ((order.arrange (groupBy Db.ToolCall.toolName toolAggregates calls)).map toolStats) =
      (calls.countP fun call => call.toolName = toolName && column.counts call : ℕ) := by
  have hgroup := sum_groupBy_of_key Db.ToolCall.toolName toolAggregates
    (fun aggregates => column.of (toolStats (toolName, aggregates)))
    (fun call => if column.counts call then 1 else 0) (toolColumn_count column toolName) calls _
    (order.perm _) toolName
  have hrows : (fun row : String × ToolAggregates => column.of (toolStats (toolName, row.2))) =
      column.of ∘ toolStats := by
    funext row
    cases column <;> rfl
  rw [hrows, sum_indicator, List.countP_filter] at hgroup
  rw [shownFor_cast, List.filter_map, List.map_map]
  refine (congrArg (Nat.cast (R := ℚ)) hgroup).trans ?_
  congr 2
  funext call
  exact Bool.and_comm _ _

section Usage
variable {κ : Type} [DecidableEq κ] (key : Db.LLMCall → κ)
  (le : κ × UsageTotals → κ × UsageTotals → Prop) (order : OrderBy le) (calls : List Db.LLMCall)

theorem shownFor_usage {α : Type} (build : κ × UsageTotals → α) (itemKey : α → κ)
    (totals : α → UsageTotals) (hkey : ∀ row, itemKey (build row) = row.1)
    (htotals : ∀ row, totals (build row) = row.2) (k : κ) (column : UsageColumn) :
    shownFor itemKey (fun item => column.of (totals item)) k
      ((order.arrange (groupBy key usageTotals calls)).map build) =
      ((calls.filter fun call => key call = k).map column.part).sum := by
  have hgroup := sum_groupBy_of_key key usageTotals column.of column.part (usageColumn_sum column)
    calls _ (order.perm _) k
  rw [shownFor, List.filter_map, List.map_map]
  simp only [Function.comp_def, hkey, htotals]
  exact hgroup

end Usage

theorem shownFor_breakdown {α κ : Type} [DecidableEq κ] (key : RunFailure → Option κ)
    (failures : List RunFailure) (rows : List (κ × ℕ)) (hrows : rows.Perm (groupCounts key failures))
    (build : κ × ℕ → α) (itemKey : α → κ) (count : α → ℕ) (hkey : ∀ row, itemKey (build row) = row.1)
    (hcount : ∀ row, count (build row) = row.2) (k : κ) :
    shownFor itemKey (fun item => (count item : ℚ)) k (rows.map build) =
      (failures.countP fun failure => key failure = some k : ℕ) := by
  have hgroup := groupCounts_of_key key failures rows hrows k
  rw [shownFor_cast, List.filter_map, List.map_map, ← hgroup]
  simp only [Function.comp_def, hkey, hcount]

/-! ### The scenarios -/

theorem scenarioCategory_scenario (joined : RunFailure × AgentRun) (scenarioId : String)
    (category : FailureType) (h : scenarioCategory joined = some (scenarioId, category)) :
    joined.2.scenarioId = some scenarioId := by
  unfold scenarioCategory at h
  cases hscenario : joined.2.scenarioId with
  | none => simp [hscenario] at h
  | some other =>
    cases hcategory : joined.1.primaryCategory with
    | none => simp [hscenario, hcategory] at h
    | some _ =>
      rw [hscenario, hcategory] at h
      cases h
      rfl

section Scenarios
variable (params : AnalyticsTimeRangeParams) (store : Store) (items : List ScenarioAnalyticsStats)
  (h : ScenarioItems params store items) (scenarioId : String)
include h

/-- A scenario that is not listed has no executions. -/
theorem unlisted_executions
    (hlisted : scenarioId ∉ items.map ScenarioAnalyticsStats.scenarioId) (p : JudgedRun → Bool)
    (hp : ∀ run, p run = true → run.scenarioId = some scenarioId) :
    (scenarioExecutions params store).countP p = 0 := by
  rw [List.countP_eq_zero]
  intro run hrun hcounted
  exact hlisted ((h.listed scenarioId).mpr ⟨run, hrun, hp run hcounted⟩)

/-- Nor failures: the run of a failure is an execution. -/
theorem unlisted_failures
    (hlisted : scenarioId ∉ items.map ScenarioAnalyticsStats.scenarioId) (category : FailureType) :
    (scenarioFailures params store).countP
      (fun joined => scenarioCategory joined = some (scenarioId, category)) = 0 := by
  rw [List.countP_eq_zero]
  intro joined hjoined hcounted
  obtain ⟨hmem, hrange⟩ := List.mem_filter.mp hjoined
  rw [Bool.and_eq_true] at hrange
  have hscenario := scenarioCategory_scenario joined scenarioId category (of_decide_eq_true hcounted)
  have hexecution : (joined.2, store.runFailures.find? joined.2.runId) ∈
      scenarioExecutions params store := by
    refine List.mem_filter.mpr
      ⟨List.mem_map.mpr ⟨joined.2, failedRunsJoined_stored store joined hmem, rfl⟩, ?_⟩
    rw [Bool.and_eq_true, Bool.and_eq_true]
    exact ⟨⟨hrange.1, Option.isSome_iff_exists.mpr ⟨scenarioId, hscenario⟩⟩, hrange.2⟩
  exact hlisted ((h.listed scenarioId).mpr ⟨_, hexecution, hscenario⟩)

theorem shownFor_executions :
    shownFor ScenarioAnalyticsStats.scenarioId (fun item => (item.executionCount : ℚ)) scenarioId
      items = ((scenarioExecutions params store).countP
        fun run => run.scenarioId = some scenarioId : ℕ) := by
  by_cases hlisted : scenarioId ∈ items.map ScenarioAnalyticsStats.scenarioId
  · obtain ⟨item, hitem, rfl⟩ := List.mem_map.mp hlisted
    rw [shownFor_item _ _ _ h.distinct item hitem, h.executions item hitem,
      List.countP_eq_length_filter]
  · rw [shownFor_absent _ _ _ _ hlisted, unlisted_executions params store items h scenarioId hlisted _
      fun run hrun => of_decide_eq_true hrun]
    rfl

theorem shownFor_passes :
    shownFor ScenarioAnalyticsStats.scenarioId
      (fun item => (item.executionCount : ℚ) * item.passRate.getD 0) scenarioId items =
      ((scenarioExecutions params store).countP fun run =>
        run.scenarioId = some scenarioId ∧ run.overallStatus = some .pass : ℕ) := by
  by_cases hlisted : scenarioId ∈ items.map ScenarioAnalyticsStats.scenarioId
  · obtain ⟨item, hitem, rfl⟩ := List.mem_map.mp hlisted
    obtain ⟨rate, hrate, hpasses⟩ := h.passes item hitem
    rw [shownFor_item _ _ _ h.distinct item hitem, hrate, ← hpasses]
    rfl
  · rw [shownFor_absent _ _ _ _ hlisted, unlisted_executions params store items h scenarioId hlisted _
      fun run hrun => (of_decide_eq_true hrun).1]
    rfl

theorem shownFor_scenarioFailures (category : FailureType) :
    shownFor ScenarioAnalyticsStats.scenarioId
      (fun item => (categoryCount category item.failureDistribution : ℚ)) scenarioId items =
      ((scenarioFailures params store).countP fun joined =>
        scenarioCategory joined = some (scenarioId, category) : ℕ) := by
  by_cases hlisted : scenarioId ∈ items.map ScenarioAnalyticsStats.scenarioId
  · obtain ⟨item, hitem, rfl⟩ := List.mem_map.mp hlisted
    rw [shownFor_item _ _ _ h.distinct item hitem, h.failures item hitem category]
  · rw [shownFor_absent _ _ _ _ hlisted,
      unlisted_failures params store items h scenarioId hlisted category]
    rfl

end Scenarios

/-! ### What the endpoints return -/

section Returns
variable (db : Database) (params : AnalyticsTimeRangeParams) (store : Store) (s : DbSession)
  (hs : s.view = store)
include hs

theorem delivers_overviewResponse :
    Delivers db.backend (getOverview db params) s fun overview _ =>
      overview = overviewResponse (overviewAggregates (runsInRange params store))
        (runStatusCounts (runsInRange params store))
        (evaluationStatusCounts (failuresInRange params store)) := by
  apply delivers_bind _ _ _ s _ _ (delivers_read_of db _ store s hs)
  intro aggregateRow t ht
  apply delivers_bind _ _ _ t _ _ (delivers_read_of db _ store t ht.2)
  intro statusCounts u hu
  apply delivers_bind _ _ _ u _ _ (delivers_read_of db _ store u hu.2)
  intro evaluationCounts v hv
  apply delivers_of_ok _ _ v v _ _ rfl
  rw [ht.1, hu.1, hv.1, overviewResponse]

theorem delivers_usageResponse (orders : UsageOrders db.collation) :
    Delivers db.backend (getUsage db orders params) s fun usage _ =>
      usage = usageResponse (usageTotals (llmCallsInRange params store))
        (orders.models.arrange (groupBy (fun call : Db.LLMCall => (call.provider, call.model))
          usageTotals (llmCallsInRange params store)))
        (orders.callTypes.arrange (groupBy Db.LLMCall.callType usageTotals
          (llmCallsInRange params store))) := by
  apply delivers_bind _ _ _ s _ _ (delivers_read_of db _ store s hs)
  intro totalRow t ht
  apply delivers_bind _ _ _ t _ _ (delivers_read_of db _ store t ht.2)
  intro byModelRows u hu
  apply delivers_bind _ _ _ u _ _ (delivers_read_of db _ store u hu.2)
  intro byCallTypeRows v hv
  apply delivers_of_ok _ _ v v _ _ rfl
  rw [ht.1, hu.1, hv.1, usageResponse]

theorem delivers_failuresResponse (orders : FailureOrders db.collation) :
    Delivers db.backend (getFailures db orders params) s fun failures _ =>
      failures = failuresResponse (failuresInRange params store).length
        (evaluationStatusCounts (failuresInRange params store))
        (orders.failureTypes.arrange (groupCounts RunFailure.primaryCategory
          (failedRuns (failuresInRange params store))))
        (orders.severities.arrange (groupCounts RunFailure.maxSeverity
          (failedRuns (failuresInRange params store)))) := by
  apply delivers_bind _ _ _ s _ _ (delivers_read_of db _ store s hs)
  intro evaluatedCount t ht
  apply delivers_bind _ _ _ t _ _ (delivers_read_of db _ store t ht.2)
  intro overallCounts u hu
  apply delivers_bind _ _ _ u _ _ (delivers_read_of db _ store u hu.2)
  intro failureTypeRows v hv
  apply delivers_bind _ _ _ v _ _ (delivers_read_of db _ store v hv.2)
  intro severityRows w hw
  apply delivers_of_ok _ _ w w _ _ rfl
  rw [ht.1, hu.1, hv.1, hw.1, failuresResponse]

end Returns

theorem failedRuns_countP (failures : List RunFailure) (p : RunFailure → Bool) :
    (failedRuns failures).countP p =
      failures.countP fun failure => failure.overallStatus = .fail && p failure := by
  rw [failedRuns, List.countP_filter]
  congr 1
  funext failure
  exact Bool.and_comm _ _

/-- Whatever an endpoint shows for a figure, it counted these rows. -/
theorem figure_counted (store : Store) (params : AnalyticsTimeRangeParams) (answers : Analytics)
    (h : AnalyticsOf store params answers) (figure : Figure) :
    answers.figure figure = counted store params.startedAfter params.startedBefore figure := by
  obtain ⟨⟨db₁, s₁, t₁, hs₁, hoverview⟩, ⟨db₂, order₂, s₂, t₂, hs₂, htools⟩,
    ⟨db₃, orders₃, s₃, t₃, hs₃, husage⟩, ⟨db₄, orders₄, s₄, t₄, hs₄, hfailures⟩,
    ⟨db₅, orders₅, s₅, t₅, hs₅, hscenarios⟩⟩ := h
  have hoverview := ends_returns _ s₁ t₁ answers.overview _ _
    (delivers_overviewResponse db₁ params store s₁ hs₁) hoverview
  have htools := ends_returns _ s₂ t₂ answers.tools _ _
    (delivers_getTools db₂ params store s₂ hs₂ order₂) htools
  have husage := ends_returns _ s₃ t₃ answers.usage _ _
    (delivers_usageResponse db₃ params store s₃ hs₃ orders₃) husage
  have hfailures := ends_returns _ s₄ t₄ answers.failures _ _
    (delivers_failuresResponse db₄ params store s₄ hs₄ orders₄) hfailures
  have hscenarios := ends_returns _ s₅ t₅ answers.scenarios _ _
    (delivers_getScenarios params store db₅ orders₅ s₅ hs₅) hscenarios
  cases figure with
  | runs =>
    simp only [Analytics.figure, counted, ofRuns_eq, hoverview]
    simp [overviewResponse, overviewAggregates]
  | status status =>
    simp only [Analytics.figure, counted, ofRuns_eq, hoverview]
    rw [overviewResponse, shownFor_status, List.countP_eq_length_filter]
    simp
  | tokens =>
    simp only [Analytics.figure, counted, ofRuns_eq, hoverview, List.filter_true]
    rw [overviewResponse, overviewAggregates, Int.cast_list_sum, List.map_map]
    rfl
  | cost =>
    simp only [Analytics.figure, counted, ofRuns_eq, hoverview, List.filter_true]
    rfl
  | evaluated =>
    simp only [Analytics.figure, counted, ofFailures_eq, hfailures, List.countP_true]
    rfl
  | verdict overallStatus =>
    simp only [Analytics.figure, counted, ofFailures_eq, hfailures]
    exact shownFor_verdict overallStatus _
  | tool toolName column =>
    simp only [Analytics.figure, counted, ofToolCalls_eq, htools]
    exact shownFor_tool _ order₂ _ toolName column
  | usage column =>
    simp only [Analytics.figure, counted, ofLlmCalls_eq, husage, List.filter_true]
    exact usageColumn_sum column _
  | model provider model column =>
    simp only [Analytics.figure, counted, ofLlmCalls_eq, husage]
    refine shownFor_usage (fun call => (call.provider, call.model)) _ orders₃.models _ _ _
      ModelUsageBreakdown.toUsageTotals ?_ ?_ _ column
    · exact fun _ => rfl
    · exact fun _ => rfl
  | callType callType column =>
    simp only [Analytics.figure, counted, ofLlmCalls_eq, husage]
    refine shownFor_usage Db.LLMCall.callType _ orders₃.callTypes _ _ _
      CallTypeUsageBreakdown.toUsageTotals ?_ ?_ _ column
    · exact fun _ => rfl
    · exact fun _ => rfl
  | failureType failureType =>
    simp only [Analytics.figure, counted, ofFailures_eq, hfailures, ← failedRuns_countP]
    refine shownFor_breakdown RunFailure.primaryCategory _ _ (orders₄.failureTypes.perm _) _ _
      FailureTypeBreakdown.count ?_ ?_ failureType
    · exact fun _ => rfl
    · exact fun _ => rfl
  | severity severity =>
    simp only [Analytics.figure, counted, ofFailures_eq, hfailures, ← failedRuns_countP]
    refine shownFor_breakdown RunFailure.maxSeverity _ _ (orders₄.severities.perm _) _ _
      FailureSeverityBreakdown.count ?_ ?_ severity
    · exact fun _ => rfl
    · exact fun _ => rfl
  | executions scenarioId =>
    simp only [Analytics.figure, counted, ofExecutions_eq]
    exact shownFor_executions params store _ hscenarios scenarioId
  | passes scenarioId =>
    simp only [Analytics.figure, counted, ofExecutions_eq]
    exact shownFor_passes params store _ hscenarios scenarioId
  | scenarioFailures scenarioId category =>
    simp only [Analytics.figure, counted, ofScenarioFailures_eq]
    exact shownFor_scenarioFailures params store _ hscenarios scenarioId category

/-! ### Two ranges that meet -/

/-- Every figure of the two parts of a range adds up to that of the whole, and that of the
instant they share once more. -/
theorem windows_add (store : Store) (after before : Option Timestamp) (cut : Timestamp)
    (hafter : ∀ bound ∈ after, bound ≤ cut) (hbefore : ∀ bound ∈ before, cut ≤ bound)
    (earlier later whole shared : Analytics)
    (hearlier : AnalyticsOf store ⟨after, some cut⟩ earlier)
    (hlater : AnalyticsOf store ⟨some cut, before⟩ later)
    (hwhole : AnalyticsOf store ⟨after, before⟩ whole)
    (hshared : AnalyticsOf store ⟨some cut, some cut⟩ shared) (figure : Figure) :
    earlier.figure figure + later.figure figure = whole.figure figure + shared.figure figure := by
  rw [figure_counted store _ earlier hearlier, figure_counted store _ later hlater,
    figure_counted store _ whole hwhole, figure_counted store _ shared hshared]
  exact counted_split store after before cut hafter hbefore figure

theorem analyticsOf_exists (store : Store) (params : AnalyticsTimeRangeParams) :
    ∃ answers, AnalyticsOf store params answers := by
  obtain ⟨toolOrder⟩ := toolOrder_nonempty Collation.codePoints
  obtain ⟨usageOrders⟩ := usageOrders_nonempty Collation.codePoints
  obtain ⟨failureOrders⟩ := failureOrders_nonempty Collation.codePoints
  obtain ⟨scenarioOrders⟩ := scenarioOrders_nonempty Collation.codePoints
  exact ⟨⟨_, _, _, _, _⟩,
    { overview := ⟨.plain, Session.fresh store, _, rfl, rfl⟩
      tools := ⟨.plain, toolOrder, Session.fresh store, _, rfl, rfl⟩
      usage := ⟨.plain, usageOrders, Session.fresh store, _, rfl, rfl⟩
      failures := ⟨.plain, failureOrders, Session.fresh store, _, rfl, rfl⟩
      scenarios := ⟨.plain, scenarioOrders, Session.fresh store, _, rfl, rfl⟩ }⟩

/- The one run started at the cut, so that both parts count it. -/
theorem windows_add_atCut : ∃ earlier later whole shared : Analytics,
    AnalyticsOf (comparedMoments 3).shared ⟨none, none⟩ whole ∧
    earlier.figure .runs = 1 ∧ later.figure .runs = 1 ∧ whole.figure .runs = 1 ∧
    earlier.figure .runs + later.figure .runs = whole.figure .runs + shared.figure .runs := by
  obtain ⟨earlier, hearlier⟩ := analyticsOf_exists (comparedMoments 3).shared ⟨none, some 0⟩
  obtain ⟨later, hlater⟩ := analyticsOf_exists (comparedMoments 3).shared ⟨some 0, none⟩
  obtain ⟨whole, hwhole⟩ := analyticsOf_exists (comparedMoments 3).shared ⟨none, none⟩
  obtain ⟨shared, hshared⟩ := analyticsOf_exists (comparedMoments 3).shared ⟨some 0, some 0⟩
  refine ⟨earlier, later, whole, shared, hwhole, ?_, ?_, ?_,
    windows_add _ none none 0 nofun nofun earlier later whole shared hearlier hlater hwhole hshared
      .runs⟩
  · exact (figure_counted _ _ earlier hearlier .runs).trans (by decide +kernel)
  · exact (figure_counted _ _ later hlater .runs).trans (by decide +kernel)
  · exact (figure_counted _ _ whole hwhole .runs).trans (by decide +kernel)

end ObsPlatform.Platform
