import ObsPlatform.Db.Constraints
import ObsPlatform.Regressions.Runner
import ObsPlatform.Regressions.Slices

/-!
# All regressions against the scenario analytics

The scenario endpoint counts the runs of every regression at once, by joins of its own. Its
figures for a scenario are the sums of those the regressions report: a linked run belongs
to one stored regression, and to one scenario.
-/

namespace ObsPlatform.Regressions

open Telemetry Db UnitOfWork Evaluation Stateful Routes
open Ingestion (agentRunValues)

/-- The failures under one category. -/
def categoryCount (category : FailureType) (distribution : List (FailureType × ℕ)) : ℕ :=
  ((distribution.filter fun entry => entry.1 = category).map Prod.snd).sum

/-! ### What the scenario endpoint delivers -/

section Delivers
variable (params : AnalyticsTimeRangeParams) (store : Store)

/-- One item for each scenario executed in the range. -/
structure ScenarioItems (items : List ScenarioAnalyticsStats) : Prop where
  distinct : (items.map ScenarioAnalyticsStats.scenarioId).Nodup
  listed : ∀ scenarioId, scenarioId ∈ items.map ScenarioAnalyticsStats.scenarioId ↔
    ∃ run ∈ scenarioExecutions params store, run.scenarioId = some scenarioId
  executions : ∀ item ∈ items, item.executionCount =
    ((scenarioExecutions params store).filter fun run =>
      run.scenarioId = some item.scenarioId).length
  passes : ∀ item ∈ items, ∃ rate, item.passRate = some rate ∧
    item.executionCount * rate = ((scenarioExecutions params store).countP fun run =>
      run.scenarioId = some item.scenarioId ∧ run.overallStatus = some .pass : ℕ)
  failures : ∀ item ∈ items, ∀ category, categoryCount category item.failureDistribution =
    (scenarioFailures params store).countP fun joined =>
      scenarioCategory joined = some (item.scenarioId, category)

/-- The failures of a scenario, regrouped from the rows of all scenarios. -/
theorem regrouped_failures (rows : List ScenarioCategoryRow)
    (hperm : rows.Perm (groupCounts scenarioCategory (scenarioFailures params store)))
    (scenarioId : String) (category : FailureType) :
    categoryCount category (((regroup (fun row : ScenarioCategoryRow => some row.1.1)
      (fun row => (row.1.2, row.2)) rows).lookup scenarioId).getD []) =
    (scenarioFailures params store).countP fun joined =>
      scenarioCategory joined = some (scenarioId, category) := by
  have hgrouped := regroup_regrouped (fun row : ScenarioCategoryRow => some row.1.1)
    (fun row => (row.1.2, row.2)) rows
  have hvalues : ((regroup (fun row : ScenarioCategoryRow => some row.1.1)
      (fun row => (row.1.2, row.2)) rows).lookup scenarioId).getD [] =
        (rows.filter fun row => row.1.1 = scenarioId).map fun row => (row.1.2, row.2) := by
    cases hlookup : (regroup (fun row : ScenarioCategoryRow => some row.1.1)
        (fun row => (row.1.2, row.2)) rows).lookup scenarioId with
    | some values =>
      have hentry := hgrouped.values _ (lookup_mem _ scenarioId values hlookup)
      simpa using hentry
    | none =>
      have habsent := lookup_none _ scenarioId hlookup
      rw [hgrouped.present scenarioId] at habsent
      have hnone : rows.filter (fun row => row.1.1 = scenarioId) = [] := by
        rw [List.filter_eq_nil_iff]
        intro row hrow hscenario
        exact habsent ⟨row, hrow, congrArg some (of_decide_eq_true hscenario)⟩
      rw [hnone]
      rfl
  have hkey := groupCounts_of_key scenarioCategory (scenarioFailures params store) rows hperm
    (scenarioId, category)
  rw [hvalues, ← hkey, categoryCount, List.filter_map, List.map_map, List.filter_filter]
  have hfilter : (rows.filter fun row =>
      ((fun entry : FailureType × ℕ => decide (entry.1 = category)) ∘
        fun row : ScenarioCategoryRow => (row.1.2, row.2)) row && decide (row.1.1 = scenarioId)) =
      rows.filter fun row => row.1 = (scenarioId, category) := by
    apply List.filter_congr
    intro row _
    simp only [Function.comp_apply, Prod.ext_iff, Bool.decide_and]
    exact Bool.and_comm _ _
  rw [hfilter]
  rfl

/-- The row an item was made from. -/
theorem scenarioStats_row (distribution : List (String × List (FailureType × ℕ)))
    (row : ScenarioRow) (item : ScenarioAnalyticsStats)
    (h : scenarioStats distribution row = some item) :
    row.1 = some item.scenarioId ∧ item.executionCount = row.2.executionCount ∧
      item.passRate = (if row.2.executionCount > 0 then
        some (row.2.passCount / row.2.executionCount : ℚ) else none) ∧
      item.failureDistribution = (distribution.lookup item.scenarioId).getD [] := by
  obtain ⟨scenarioId, hscenario, rfl⟩ := Option.map_eq_some_iff.mp h
  exact ⟨hscenario, rfl, rfl, rfl⟩

theorem scenarioItems_grouped (rows : List ScenarioRow)
    (hrows : rows.Perm
      (groupBy JudgedRun.scenarioId scenarioAggregates (scenarioExecutions params store)))
    (failureRows : List ScenarioCategoryRow)
    (hfailures : failureRows.Perm (groupCounts scenarioCategory (scenarioFailures params store))) :
    ScenarioItems params store (rows.filterMap (scenarioStats (regroup
      (fun row : ScenarioCategoryRow => some row.1.1) (fun row => (row.1.2, row.2))
      failureRows))) := by
  have hnames := hrows.map Prod.fst
  rw [map_fst_groupBy] at hnames
  have hids : ∀ distribution, (rows.filterMap (scenarioStats distribution)).map
      ScenarioAnalyticsStats.scenarioId = (rows.map Prod.fst).filterMap fun name => name := by
    intro distribution
    rw [List.map_filterMap, List.filterMap_map]
    congr 1
    funext row
    simp [scenarioStats, Function.comp_def]
  have hitem : ∀ distribution, ∀ item ∈ rows.filterMap (scenarioStats distribution), ∃ row,
      scenarioStats distribution row = some item ∧
      (∃ run ∈ scenarioExecutions params store, run.scenarioId = some item.scenarioId) ∧
      row.2 = scenarioAggregates ((scenarioExecutions params store).filter fun run =>
        run.scenarioId = some item.scenarioId) := by
    intro distribution item hmem
    obtain ⟨row, hrow, hstats⟩ := List.mem_filterMap.mp hmem
    have hgroup := (mem_groupBy_iff _ _ _ row.1 row.2).mp (hrows.mem_iff.mp hrow)
    rw [(scenarioStats_row distribution row item hstats).1] at hgroup
    exact ⟨row, hstats, hgroup⟩
  exact
    { distinct := by
        rw [hids]
        apply List.Nodup.filterMap
        · intro a b scenarioId ha hb
          rw [Option.mem_def.mp ha, Option.mem_def.mp hb]
        · exact hnames.nodup_iff.mpr (List.nodup_dedup _)
      listed := by
        intro scenarioId
        rw [hids, List.mem_filterMap]
        simp only [exists_eq_right, hnames.mem_iff, List.mem_dedup, List.mem_map]
      executions := by
        intro item hmem
        obtain ⟨row, hstats, _, haggregates⟩ := hitem _ item hmem
        rw [(scenarioStats_row _ row item hstats).2.1, haggregates]
        rfl
      passes := by
        intro item hmem
        obtain ⟨row, hstats, hrun, haggregates⟩ := hitem _ item hmem
        obtain ⟨_, hcount, hrate, _⟩ := scenarioStats_row _ row item hstats
        obtain ⟨run, hrun, hscenario⟩ := hrun
        have hmem : run ∈ (scenarioExecutions params store).filter fun run =>
            run.scenarioId = some item.scenarioId :=
          List.mem_filter.mpr ⟨hrun, decide_eq_true hscenario⟩
        have hpos : 0 < row.2.executionCount := by
          rw [haggregates]
          exact List.length_pos_of_mem hmem
        rw [if_pos hpos] at hrate
        refine ⟨_, hrate, ?_⟩
        have hne : (row.2.executionCount : ℚ) ≠ 0 := by exact_mod_cast ne_of_gt hpos
        rw [hcount, mul_div_cancel₀ _ hne, haggregates]
        norm_cast
        rw [scenarioAggregates, List.countP_filter]
        apply List.countP_congr
        intro other _
        simp [and_comm]
      failures := by
        intro item hmem category
        obtain ⟨row, hstats, _⟩ := hitem _ item hmem
        rw [(scenarioStats_row _ row item hstats).2.2.2]
        exact regrouped_failures params store failureRows hfailures item.scenarioId category }

theorem delivers_getScenarios (db : Database) (orders : ScenarioOrders db.collation)
    (s : DbSession) (hs : s.view = store) :
    Delivers db.backend (getScenarios db orders params) s fun response _ =>
      ScenarioItems params store response.items := by
  apply delivers_bind _ _ _ s _ _ (delivers_read_of db _ store s hs)
  intro summaryRows t ht
  apply delivers_bind _ _ _ t _ _ (delivers_read_of db _ store t ht.2)
  intro failureRows u hu
  apply delivers_of_ok _ _ u u _ _ rfl
  obtain ⟨rfl, _⟩ := ht
  obtain ⟨rfl, _⟩ := hu
  exact scenarioItems_grouped params store _ (orders.scenarios.perm _) _ (orders.failures.perm _)

end Delivers

/-! ### Summing over the regressions -/

/-- The passes a regression reports for one scenario. -/
def scenarioPasses (scenarioId : String) (aggregation : RegressionAggregation) : ℕ :=
  ((aggregation.byScenario.filter fun slice => slice.scenarioId = scenarioId).map fun slice =>
    countOf .pass slice.counts).sum

/-- The scenario endpoint, asked for all time, against the regressions' own figures. -/
structure Matches (store : Store) (aggregations : ℕ → RegressionAggregation)
    (response : ScenarioAnalyticsResponse) : Prop where
  distinct : (response.items.map ScenarioAnalyticsStats.scenarioId).Nodup
  listed : ∀ scenarioId, scenarioId ∈ response.items.map ScenarioAnalyticsStats.scenarioId ↔
    ∃ run ∈ store.agentRuns.rows, run.regressionRunId.isSome ∧ run.scenarioId = some scenarioId
  executions : ∀ item ∈ response.items, item.executionCount = store.agentRuns.rows.countP fun run =>
    run.regressionRunId.isSome ∧ run.scenarioId = some item.scenarioId
  passes : ∀ item ∈ response.items, ∃ rate, item.passRate = some rate ∧
    item.executionCount * rate = ((store.regressionRunIds.map fun regressionRunId =>
      scenarioPasses item.scenarioId (aggregations regressionRunId)).sum : ℕ)
  failures : ∀ category,
    (response.items.map fun item => categoryCount category item.failureDistribution).sum =
      (store.regressionRunIds.map fun regressionRunId =>
        categoryCount category (aggregations regressionRunId).failureDistribution).sum

theorem scenarioExecutions_always (store : Store) :
    scenarioExecutions ⟨none, none⟩ store = (judgedRuns store).filter fun run =>
      run.1.regressionRunId.isSome && run.1.scenarioId.isSome := by
  apply List.filter_congr
  intro run _
  exact Bool.and_true _

theorem scenarioFailures_always (store : Store) :
    scenarioFailures ⟨none, none⟩ store = (failedRunsJoined store).filter fun joined =>
      joined.2.regressionRunId.isSome := by
  apply List.filter_congr
  intro joined _
  exact Bool.and_true _

/-- Of the slices of a regression at most one is the scenario's. -/
theorem scenarioPasses_eq (store : Store) (regressionRunId : ℕ) (aggregation : RegressionAggregation)
    (h : Aggregates store regressionRunId aggregation) (scenarioId : String) :
    scenarioPasses scenarioId aggregation = (judgedRunsOf regressionRunId store).countP fun run =>
      run.scenarioId = some scenarioId ∧ run.overallStatus = some .pass := by
  rw [scenarioPasses]
  by_cases hlisted : scenarioId ∈ aggregation.byScenario.map ScenarioPassRateSummary.scenarioId
  · obtain ⟨slice, hslice, rfl⟩ := List.mem_map.mp hlisted
    rw [filter_key _ _ h.slices.distinct slice hslice, List.map_singleton, List.sum_singleton,
      show slice.counts = slice.toPassRateSummary.counts from rfl, h.slices.summary slice hslice,
      passRateOf, countOf_bucketsOf, withStatus, List.countP_filter]
    apply List.countP_congr
    intro run _
    simp [and_comm]
  · rw [filter_key_absent _ _ _ hlisted]
    symm
    rw [List.map_nil, List.sum_nil, List.countP_eq_zero]
    intro run hrun hboth
    exact hlisted ((h.slices.present scenarioId).mpr ⟨run, hrun, (of_decide_eq_true hboth).1⟩)

theorem failedRunsJoined_stored (store : Store) (joined : RunFailure × AgentRun)
    (h : joined ∈ failedRunsJoined store) : joined.2 ∈ store.agentRuns.rows := by
  obtain ⟨failure, _, hjoined⟩ := List.mem_filterMap.mp h
  obtain ⟨run, hfind, rfl⟩ := Option.map_eq_some_iff.mp hjoined
  exact store.agentRuns.mem_of_find? _ run hfind

section Regressions
variable (store : Store) (hlinked : Constraint.agentRunsRegressionRunId.Holds store)
include hlinked

/-- The rows of linked runs, counted regression by regression. -/
theorem sum_regressions {ρ : Type} (rows : List ρ) (run : ρ → AgentRun)
    (hruns : ∀ row ∈ rows, run row ∈ store.agentRuns.rows) (p : ρ → Bool) :
    (store.regressionRunIds.map fun regressionRunId =>
      (rows.filter fun row => linkedTo regressionRunId (run row)).countP p).sum =
        rows.countP fun row => (run row).regressionRunId.isSome && p row := by
  have hkeys : (store.regressionRunIds.map some).Nodup :=
    store.regressionRuns.unique.map (Option.some_injective _)
  have hcovers : ∀ row ∈ rows.filter fun row => (run row).regressionRunId.isSome,
      (run row).regressionRunId ∈ store.regressionRunIds.map some := by
    intro row hrow
    obtain ⟨hmem, hsome⟩ := List.mem_filter.mp hrow
    obtain ⟨regressionRunId, hid⟩ := Option.isSome_iff_exists.mp hsome
    rw [hid]
    exact List.mem_map_of_mem (hlinked (run row) (hruns row hmem) regressionRunId hid)
  have hsum := sum_countP_fibres (fun row => (run row).regressionRunId) _ hkeys _ hcovers p
  rw [List.map_map, List.countP_filter] at hsum
  have hcomm : (rows.countP fun row => (run row).regressionRunId.isSome && p row) =
      rows.countP fun row => p row && (run row).regressionRunId.isSome := by
    apply List.countP_congr
    intro row _
    rw [Bool.and_comm]
  rw [hcomm, ← hsum]
  congr 1
  apply List.map_congr_left
  intro regressionRunId _
  rw [Function.comp_apply, List.filter_filter]
  congr 1
  apply List.filter_congr
  intro row _
  rw [linkedTo]
  by_cases hid : (run row).regressionRunId = some regressionRunId
  · simp [hid]
  · simp [hid]

variable (aggregations : ℕ → RegressionAggregation)
  (haggregations : ∀ regressionRunId ∈ store.regressionRunIds,
    Aggregates store regressionRunId (aggregations regressionRunId))
include haggregations

theorem sum_scenarioPasses (scenarioId : String) :
    (store.regressionRunIds.map fun regressionRunId =>
      scenarioPasses scenarioId (aggregations regressionRunId)).sum =
      (scenarioExecutions ⟨none, none⟩ store).countP fun run =>
        run.scenarioId = some scenarioId ∧ run.overallStatus = some .pass := by
  have hruns : ∀ run ∈ judgedRuns store, run.1 ∈ store.agentRuns.rows := by
    intro run hrun
    obtain ⟨row, hrow, rfl⟩ := List.mem_map.mp hrun
    exact hrow
  have hsum := sum_regressions store hlinked (judgedRuns store) Prod.fst hruns fun run =>
    decide (run.scenarioId = some scenarioId ∧ run.overallStatus = some .pass)
  have hpasses : store.regressionRunIds.map (fun regressionRunId =>
      scenarioPasses scenarioId (aggregations regressionRunId)) =
        store.regressionRunIds.map fun regressionRunId =>
          ((judgedRuns store).filter fun run => linkedTo regressionRunId run.1).countP fun run =>
            run.scenarioId = some scenarioId ∧ run.overallStatus = some .pass := by
    apply List.map_congr_left
    intro regressionRunId hid
    exact scenarioPasses_eq store regressionRunId _ (haggregations regressionRunId hid) scenarioId
  rw [hpasses, hsum, scenarioExecutions_always, List.countP_filter]
  apply List.countP_congr
  intro run _
  simp only [Bool.and_eq_true, decide_eq_true_eq]
  constructor
  · intro hrun
    obtain ⟨hlinked, hscenario, hpass⟩ := hrun
    exact ⟨⟨hscenario, hpass⟩, hlinked, Option.isSome_iff_exists.mpr ⟨_, hscenario⟩⟩
  · intro hrun
    exact ⟨hrun.2.1, hrun.1⟩

theorem sum_failureDistributions (category : FailureType) :
    (store.regressionRunIds.map fun regressionRunId =>
      categoryCount category (aggregations regressionRunId).failureDistribution).sum =
      (scenarioFailures ⟨none, none⟩ store).countP fun joined =>
        joined.1.primaryCategory = some category := by
  have hsum := sum_regressions store hlinked (failedRunsJoined store) Prod.snd
    (failedRunsJoined_stored store) fun joined =>
      decide (joined.1.primaryCategory = some category)
  have hcounts : store.regressionRunIds.map (fun regressionRunId =>
      categoryCount category (aggregations regressionRunId).failureDistribution) =
        store.regressionRunIds.map fun regressionRunId =>
          ((failedRunsJoined store).filter fun joined =>
            linkedTo regressionRunId joined.2).countP fun joined =>
              joined.1.primaryCategory = some category := by
    apply List.map_congr_left
    intro regressionRunId hid
    exact groupCounts_of_key _ _ _ (haggregations regressionRunId hid).categories category
  rw [hcounts, hsum, scenarioFailures_always, List.countP_filter]
  apply List.countP_congr
  intro joined _
  rw [Bool.and_comm]

end Regressions

/-- Every linked run has a scenario, so no failure is left out. -/
theorem sum_items (store : Store)
    (hscenarios : ∀ run ∈ store.agentRuns.rows, run.regressionRunId.isSome → run.scenarioId.isSome)
    (items : List ScenarioAnalyticsStats) (h : ScenarioItems ⟨none, none⟩ store items)
    (category : FailureType) :
    (items.map fun item => categoryCount category item.failureDistribution).sum =
      (scenarioFailures ⟨none, none⟩ store).countP fun joined =>
        joined.1.primaryCategory = some category := by
  have hkeys : ((items.map ScenarioAnalyticsStats.scenarioId).map some).Nodup :=
    h.distinct.map (Option.some_injective _)
  have hcovers : ∀ joined ∈ scenarioFailures ⟨none, none⟩ store,
      joined.2.scenarioId ∈ (items.map ScenarioAnalyticsStats.scenarioId).map some := by
    intro joined hjoined
    rw [scenarioFailures_always] at hjoined
    obtain ⟨hmem, hlinked⟩ := List.mem_filter.mp hjoined
    have hrun := failedRunsJoined_stored store joined hmem
    obtain ⟨scenarioId, hscenario⟩ := Option.isSome_iff_exists.mp
      (hscenarios joined.2 hrun hlinked)
    have hexecution : (joined.2, store.runFailures.find? joined.2.runId) ∈
        scenarioExecutions ⟨none, none⟩ store := by
      rw [scenarioExecutions_always]
      refine List.mem_filter.mpr ⟨List.mem_map.mpr ⟨joined.2, hrun, rfl⟩, ?_⟩
      rw [Bool.and_eq_true]
      exact ⟨hlinked, hscenarios joined.2 hrun hlinked⟩
    rw [hscenario]
    exact List.mem_map_of_mem ((h.listed scenarioId).mpr ⟨_, hexecution, hscenario⟩)
  have hsum := sum_countP_fibres (fun joined : RunFailure × AgentRun => joined.2.scenarioId) _
    hkeys _ hcovers fun joined => decide (joined.1.primaryCategory = some category)
  rw [List.map_map, List.map_map] at hsum
  rw [← hsum]
  congr 1
  apply List.map_congr_left
  intro item hitem
  rw [h.failures item hitem category, Function.comp_apply, Function.comp_apply, List.countP_filter]
  apply List.countP_congr
  intro joined _
  rw [scenarioCategory]
  cases joined.2.scenarioId <;> cases joined.1.primaryCategory <;> simp [and_comm]

/-! ### The aggregations agree with each other and with the scenario endpoint -/

theorem executions_eq (store : Store) (scenarioId : String) :
    ((scenarioExecutions ⟨none, none⟩ store).filter fun run =>
      run.scenarioId = some scenarioId).length = store.agentRuns.rows.countP fun run =>
        run.regressionRunId.isSome ∧ run.scenarioId = some scenarioId := by
  rw [scenarioExecutions_always, List.filter_filter, ← List.countP_eq_length_filter, judgedRuns,
    leftJoin, List.countP_map]
  apply List.countP_congr
  intro run _
  simp only [Function.comp_apply, JudgedRun.scenarioId, Bool.and_eq_true, decide_eq_true_eq]
  constructor
  · intro h
    exact ⟨h.2.1, of_decide_eq_true h.1⟩
  · intro h
    exact ⟨decide_eq_true h.2, h.1, Option.isSome_iff_exists.mpr ⟨_, h.2⟩⟩

theorem matches_of_aggregates (store : Store)
    (hlinked : Constraint.agentRunsRegressionRunId.Holds store)
    (hscenarios : ∀ run ∈ store.agentRuns.rows, run.regressionRunId.isSome → run.scenarioId.isSome)
    (aggregations : ℕ → RegressionAggregation)
    (haggregations : ∀ regressionRunId ∈ store.regressionRunIds,
      Aggregates store regressionRunId (aggregations regressionRunId))
    (response : ScenarioAnalyticsResponse)
    (h : ScenarioItems ⟨none, none⟩ store response.items) : Matches store aggregations response where
  distinct := h.distinct
  listed := by
    intro scenarioId
    rw [h.listed scenarioId]
    constructor
    · intro hrun
      obtain ⟨run, hrun, hscenario⟩ := hrun
      rw [scenarioExecutions_always] at hrun
      obtain ⟨hmem, hboth⟩ := List.mem_filter.mp hrun
      obtain ⟨row, hrow, rfl⟩ := List.mem_map.mp hmem
      exact ⟨row, hrow, (Bool.and_eq_true _ _ ▸ hboth).1, hscenario⟩
    · intro hrun
      obtain ⟨row, hrow, hid, hscenario⟩ := hrun
      refine ⟨(row, store.runFailures.find? row.runId), ?_, hscenario⟩
      rw [scenarioExecutions_always]
      refine List.mem_filter.mpr ⟨List.mem_map.mpr ⟨row, hrow, rfl⟩, ?_⟩
      rw [Bool.and_eq_true]
      exact ⟨hid, hscenarios row hrow hid⟩
  executions := by
    intro item hitem
    rw [h.executions item hitem]
    exact executions_eq store item.scenarioId
  passes := by
    intro item hitem
    obtain ⟨rate, hrate, hpasses⟩ := h.passes item hitem
    refine ⟨rate, hrate, ?_⟩
    rw [hpasses, sum_scenarioPasses store hlinked aggregations haggregations]
  failures := by
    intro category
    rw [sum_items store hscenarios response.items h category,
      sum_failureDistributions store hlinked aggregations haggregations category]

/-- The figures of an aggregation partition its linked runs, and over all regressions they add
up to those of the scenario endpoint; every query runs over this store. -/
theorem aggregations_partition_and_match (store : Store)
    (hlinked : Constraint.agentRunsRegressionRunId.Holds store)
    (hscenarios : ∀ run ∈ store.agentRuns.rows, run.regressionRunId.isSome → run.scenarioId.isSome)
    (hresults : ∀ row ∈ store.evaluationResults, WrittenResult row) :
    (∀ (db : Database) (orders : AggregationOrders db.collation) (regressionRunId : ℕ)
      (s : DbSession), s.view = store →
      Delivers db.backend (aggregateRegressionRun db orders regressionRunId) s fun aggregation _ =>
        Partitions store regressionRunId aggregation) ∧
    ∀ aggregations : ℕ → RegressionAggregation,
      (∀ regressionRunId ∈ store.regressionRunIds, ∃ (db : Database)
        (orders : AggregationOrders db.collation) (s t : DbSession), s.view = store ∧
        aggregateRegressionRun db orders regressionRunId s =
          .ok (aggregations regressionRunId) t) →
      ∀ (db : Database) (orders : ScenarioOrders db.collation) (s : DbSession), s.view = store →
        Delivers db.backend (getScenarios db orders ⟨none, none⟩) s fun response _ =>
          Matches store aggregations response := by
  constructor
  · intro db orders regressionRunId s hs
    have haggregates := delivers_aggregateRegressionRun db orders regressionRunId store s hs
    apply delivers_mono _ _ s _ _ haggregates
    intro aggregation _ h
    exact partitions_of_aggregates store regressionRunId aggregation h hscenarios hresults
  · intro aggregations hreturned db orders s hs
    have haggregates : ∀ regressionRunId ∈ store.regressionRunIds,
        Aggregates store regressionRunId (aggregations regressionRunId) := by
      intro regressionRunId hid
      obtain ⟨db, orders, s, t, hs, hreturned⟩ := hreturned regressionRunId hid
      have hdelivered := delivers_aggregateRegressionRun db orders regressionRunId store s hs
      exact ends_returns _ s t _ _ _ hdelivered hreturned
    apply delivers_mono _ _ s _ _ (delivers_getScenarios ⟨none, none⟩ store db orders s hs)
    intro response _ h
    exact matches_of_aggregates store hlinked hscenarios aggregations haggregates response h

/- Two linked runs of one scenario: one passed, the other is not evaluated yet. -/
def halfEvaluated : Store :=
  { Store.empty with
    regressionRuns := ⟨[sampleRegression ["GS-03"] 2], by simp⟩
    agentRuns := ⟨[linkAgentRun 1 "GS-03" 1 0 (agentRunValues (successEvent "run-1") 0),
      linkAgentRun 1 "GS-03" 2 0 (agentRunValues (successEvent "run-2") 0)], by decide⟩
    evaluationResults := [evaluationResultRecord "run-1" "groundedness_judge" "1.0.0" .skipped
      (some judgeUnavailableResult) (some 1) 0 1]
    runFailures := ⟨[runFailureValues "run-1" ⟨.pass, none, none, none⟩ 0], by simp⟩ }

theorem aggregations_partition_and_match_halfEvaluated :
    ∃ aggregation response,
      (∃ orders t, aggregateRegressionRun .plain orders 1 (Session.fresh halfEvaluated) =
        .ok aggregation t) ∧
      (∃ orders t, getScenarios .plain orders ⟨none, none⟩ (Session.fresh halfEvaluated) =
        .ok response t) ∧
      Partitions halfEvaluated 1 aggregation ∧
      Matches halfEvaluated (fun _ => aggregation) response := by
  have hwritten : ∀ row ∈ halfEvaluated.evaluationResults, WrittenResult row := by
    intro row hrow
    rw [List.mem_singleton.mp hrow]
    exact ⟨_, _, _, _, _, _, _, _, rfl⟩
  obtain ⟨aggregationOrders⟩ := aggregationOrders_nonempty Collation.codePoints
  obtain ⟨scenarioOrders⟩ := scenarioOrders_nonempty Collation.codePoints
  obtain ⟨hpartitions, hmatches⟩ := aggregations_partition_and_match halfEvaluated (by decide)
    (by decide) hwritten
  obtain ⟨aggregation, t, haggregation, hpartition⟩ := delivers_accepted _ plain_accepts _ _ _
    (hpartitions .plain aggregationOrders 1 (Session.fresh halfEvaluated) rfl)
  have hreturned : ∀ regressionRunId ∈ halfEvaluated.regressionRunIds, ∃ (db : Database)
      (orders : AggregationOrders db.collation) (s t : DbSession), s.view = halfEvaluated ∧
      aggregateRegressionRun db orders regressionRunId s = .ok aggregation t := by
    intro regressionRunId hid
    rw [List.mem_singleton.mp hid]
    exact ⟨.plain, aggregationOrders, Session.fresh halfEvaluated, t, rfl, haggregation⟩
  obtain ⟨response, u, hresponse, hmatch⟩ := delivers_accepted _ plain_accepts _ _ _
    (hmatches (fun _ => aggregation) hreturned .plain scenarioOrders
      (Session.fresh halfEvaluated) rfl)
  exact ⟨aggregation, response, ⟨aggregationOrders, t, haggregation⟩,
    ⟨scenarioOrders, u, hresponse⟩, hpartition, hmatch⟩

end ObsPlatform.Regressions
