import ObsPlatform.Lib.Assoc
import ObsPlatform.Regressions.Aggregation

/-!
# The slices of an aggregation

The queries of an aggregation are independent, and each joins and groups in its own way.
Whatever order their groups come in, the overall and the scenario summaries are those of
the same linked runs: every run is in one scenario, and in at most one bucket of it.
-/

namespace ObsPlatform.Regressions

open Telemetry Db UnitOfWork Evaluation Stateful
open Routes (JudgedRun judgedRuns failedRunsJoined)

/-! ### One summary -/

def countOf (status : OverallEvaluationStatus) (counts : List (OverallEvaluationStatus × ℕ)) : ℕ :=
  (counts.lookup status).getD 0

/-- The three buckets with these counts. -/
def bucketsOf (count : OverallEvaluationStatus → ℕ) : List (OverallEvaluationStatus × ℕ) :=
  [(.pass, count .pass), (.fail, count .fail), (.incomplete, count .incomplete)]

theorem countOf_bucketsOf (count : OverallEvaluationStatus → ℕ) (status : OverallEvaluationStatus) :
    countOf status (bucketsOf count) = count status := by
  cases status <;> rfl

theorem countRow_pending (count : OverallEvaluationStatus → ℕ) (total n : ℕ) :
    countRow (bucketsOf count, total) (none, n) = (bucketsOf count, total + n) := rfl

theorem countRow_judged (count : OverallEvaluationStatus → ℕ) (total n : ℕ)
    (status : OverallEvaluationStatus) :
    countRow (bucketsOf count, total) (some status, n) =
      (bucketsOf (Function.update count status n), total + n) := by
  cases status <;> rfl

/-- The bucket of a status after the loop: the count of its group, if it has one. -/
def bucketAfter (count : OverallEvaluationStatus → ℕ) (rows : List StatusRow)
    (status : OverallEvaluationStatus) : ℕ :=
  (rows.lookup (some status)).getD (count status)

/-- Groups are distinct, so no bucket is set twice. -/
theorem passRate_loop (rows : List StatusRow) (hdistinct : (rows.map Prod.fst).Nodup)
    (count : OverallEvaluationStatus → ℕ) (total : ℕ) :
    rows.foldl countRow (bucketsOf count, total) =
      (bucketsOf (bucketAfter count rows), total + (rows.map Prod.snd).sum) := by
  induction rows generalizing count total with
  | nil => rfl
  | cons row rows ih =>
    obtain ⟨overallStatus, n⟩ := row
    obtain ⟨hnew, hrest⟩ := List.nodup_cons.mp hdistinct
    rw [List.foldl_cons, List.map_cons, List.sum_cons, ← Nat.add_assoc]
    cases overallStatus with
    | none =>
      rw [countRow_pending, ih hrest]
      rfl
    | some status =>
      rw [countRow_judged, ih hrest]
      congr 2
      funext other
      by_cases hother : other = status
      · have habsent : rows.lookup (some status) = none := by
          cases hlookup : rows.lookup (some status) with
          | none => rfl
          | some m => exact absurd (List.mem_map_of_mem (lookup_mem rows _ m hlookup)) hnew
        rw [hother]
        simp [bucketAfter, habsent]
      · have hkey : (some other == some status) = false := by simp [hother]
        simp [bucketAfter, List.lookup_cons, hkey, Function.update_of_ne hother]

/-- How many of the runs have this verdict. -/
def withStatus (status : OverallEvaluationStatus) (judged : List JudgedRun) : ℕ :=
  judged.countP fun run => run.overallStatus = some status

/-- The summary that a group of runs calls for. -/
def passRateOf (judged : List JudgedRun) : PassRateSummary where
  passRate := if judged.length ≠ 0 then some (withStatus .pass judged / judged.length) else none
  counts := bucketsOf fun status => withStatus status judged

/-- The summary read off the groups is that of the grouped runs. -/
theorem passRateSummaryFromRows_eq (rows : List StatusRow) (judged : List JudgedRun)
    (h : CountsOf JudgedRun.overallStatus judged rows) :
    passRateSummaryFromRows rows = passRateOf judged := by
  have hloop := passRate_loop rows h.distinct (fun _ => 0) 0
  have htotal := countsOf_sum _ judged rows h
  have hbuckets : bucketAfter (fun _ => 0) rows = fun status => withStatus status judged := by
    funext status
    rw [bucketAfter, withStatus]
    cases hlookup : rows.lookup (some status) with
    | some n => exact h.counted _ (lookup_mem rows _ n hlookup)
    | none => exact (countsOf_absent _ judged rows h _ (lookup_none rows _ hlookup)).symm
  rw [htotal, hbuckets, Nat.zero_add] at hloop
  rw [passRateSummaryFromRows, show emptyStatusCounts = bucketsOf fun _ => 0 from rfl, hloop]
  rfl

/-! ### By scenario -/

/-- One summary for each scenario of the runs. -/
structure ScenarioSlices (judged : List JudgedRun) (slices : List ScenarioPassRateSummary) :
    Prop where
  distinct : (slices.map ScenarioPassRateSummary.scenarioId).Nodup
  summary : ∀ slice ∈ slices, slice.toPassRateSummary =
    passRateOf (judged.filter fun run => run.scenarioId = some slice.scenarioId)
  present : ∀ scenarioId, scenarioId ∈ slices.map ScenarioPassRateSummary.scenarioId ↔
    ∃ run ∈ judged, run.scenarioId = some scenarioId

theorem scenarioSlices_grouped (judged : List JudgedRun) (rows : List ScenarioStatusRow)
    (h : CountsOf (fun run : JudgedRun => (run.scenarioId, run.overallStatus)) judged rows) :
    ScenarioSlices judged ((regroup (fun row : ScenarioStatusRow => row.1.1)
      (fun row => (row.1.2, row.2)) rows).map fun entry =>
        { passRateSummaryFromRows entry.2 with scenarioId := entry.1 }) := by
  have hgrouped := regroup_regrouped (fun row : ScenarioStatusRow => row.1.1)
    (fun row => (row.1.2, row.2)) rows
  have hids : ((regroup (fun row : ScenarioStatusRow => row.1.1) (fun row => (row.1.2, row.2))
      rows).map fun entry => ({ passRateSummaryFromRows entry.2 with scenarioId := entry.1 } :
        ScenarioPassRateSummary)).map ScenarioPassRateSummary.scenarioId =
      (regroup (fun row : ScenarioStatusRow => row.1.1) (fun row => (row.1.2, row.2))
        rows).map Prod.fst := by
    rw [List.map_map]
    rfl
  exact
    { distinct := by
        rw [hids]
        exact hgrouped.distinct
      summary := by
        intro slice hslice
        obtain ⟨entry, hentry, rfl⟩ := List.mem_map.mp hslice
        have hslice := countsOf_slice _ judged rows h (some entry.1)
        rw [← hgrouped.values entry hentry] at hslice
        exact passRateSummaryFromRows_eq entry.2 _ hslice
      present := by
        intro scenarioId
        rw [hids, hgrouped.present scenarioId]
        constructor
        · intro hrow
          obtain ⟨row, hrow, hscenario⟩ := hrow
          obtain ⟨run, hrun, hkey⟩ := h.inhabited row hrow
          rw [← hkey] at hscenario
          exact ⟨run, hrun, hscenario⟩
        · intro hrun
          obtain ⟨run, hrun, hscenario⟩ := hrun
          obtain ⟨row, hrow, hkey⟩ := List.mem_map.mp (h.covers run hrun)
          exact ⟨row, hrow, by rw [hkey]; exact hscenario⟩ }

/-- Each run is in the slice of its scenario and in no other. -/
theorem sum_slices (judged : List JudgedRun) (slices : List ScenarioPassRateSummary)
    (h : ScenarioSlices judged slices) (hall : ∀ run ∈ judged, run.scenarioId.isSome)
    (p : JudgedRun → Bool) :
    (slices.map fun slice =>
      (judged.filter fun run => run.scenarioId = some slice.scenarioId).countP p).sum =
        judged.countP p := by
  have hkeys : ((slices.map ScenarioPassRateSummary.scenarioId).map some).Nodup :=
    h.distinct.map (Option.some_injective _)
  have hcovers : ∀ run ∈ judged,
      run.scenarioId ∈ (slices.map ScenarioPassRateSummary.scenarioId).map some := by
    intro run hrun
    obtain ⟨scenarioId, hscenario⟩ := Option.isSome_iff_exists.mp (hall run hrun)
    rw [hscenario]
    exact List.mem_map_of_mem ((h.present scenarioId).mpr ⟨run, hrun, hscenario⟩)
  have hsum := sum_countP_fibres JudgedRun.scenarioId _ hkeys judged hcovers p
  rw [List.map_map, List.map_map] at hsum
  exact hsum

/-! ### What an aggregation delivers -/

/-- An aggregation against the store it was computed over. -/
structure Aggregates (store : Store) (regressionRunId : ℕ) (aggregation : RegressionAggregation) :
    Prop where
  overall : aggregation.overall = passRateOf (judgedRunsOf regressionRunId store)
  slices : ScenarioSlices (judgedRunsOf regressionRunId store) aggregation.byScenario
  evaluators : ∀ summary ∈ aggregation.byEvaluator,
    summary = evaluatorPassRateSummary (summary.evaluatorName, evaluatorAggregates
      ((resultsOf regressionRunId store).filter fun result =>
        result.evaluatorName = summary.evaluatorName))
  evaluated : ∀ result ∈ resultsOf regressionRunId store,
    result.evaluatorName ∈ aggregation.byEvaluator.map EvaluatorPassRateSummary.evaluatorName
  categories : aggregation.failureDistribution.Perm
    (groupCounts (fun joined : RunFailure × AgentRun => joined.1.primaryCategory)
      ((failedRunsJoined store).filter fun joined => linkedTo regressionRunId joined.2))

section Delivers
variable (db : Database) (orders : AggregationOrders db.collation) (regressionRunId : ℕ)
  (store : Store) (s : DbSession) (hs : s.view = store)
include hs

theorem delivers_passRateSummary :
    Delivers db.backend (passRateSummary db orders regressionRunId) s fun summary t =>
      summary = passRateOf (judgedRunsOf regressionRunId store) ∧ t.view = store := by
  apply delivers_bind _ _ _ s _ _ (delivers_read_of db _ store s hs)
  intro rows t ht
  obtain ⟨rfl, ht⟩ := ht
  apply delivers_of_ok _ _ t t _ _ rfl
  exact ⟨passRateSummaryFromRows_eq _ _ (countsOf_groupBy _ _ _ (orders.statuses.perm _)), ht⟩

theorem delivers_scenarioPassRateSummaries :
    Delivers db.backend (scenarioPassRateSummaries db orders regressionRunId) s fun slices t =>
      ScenarioSlices (judgedRunsOf regressionRunId store) slices ∧ t.view = store := by
  apply delivers_bind _ _ _ s _ _ (delivers_read_of db _ store s hs)
  intro rows t ht
  obtain ⟨rfl, ht⟩ := ht
  apply delivers_of_ok _ _ t t _ _ rfl
  exact ⟨scenarioSlices_grouped _ _ (countsOf_groupBy _ _ _ (orders.scenarios.perm _)), ht⟩

theorem delivers_evaluatorPassRateSummaries :
    Delivers db.backend (evaluatorPassRateSummaries db orders regressionRunId) s fun summaries t =>
      (∀ summary ∈ summaries, summary = evaluatorPassRateSummary (summary.evaluatorName,
        evaluatorAggregates ((resultsOf regressionRunId store).filter fun result =>
          result.evaluatorName = summary.evaluatorName))) ∧
      (∀ result ∈ resultsOf regressionRunId store,
        result.evaluatorName ∈ summaries.map EvaluatorPassRateSummary.evaluatorName) ∧
      t.view = store := by
  apply delivers_bind _ _ _ s _ _ (delivers_read_of db _ store s hs)
  intro rows t ht
  obtain ⟨rfl, ht⟩ := ht
  apply delivers_of_ok _ _ t t _ _ rfl
  refine ⟨?_, ?_, ht⟩
  · intro summary hsummary
    obtain ⟨row, hrow, rfl⟩ := List.mem_map.mp hsummary
    have hgroup := (orders.evaluators.perm _).mem_iff.mp hrow
    obtain ⟨_, hrow⟩ := (mem_groupBy_iff _ _ _ row.1 row.2).mp hgroup
    exact congrArg evaluatorPassRateSummary (Prod.ext rfl hrow)
  · intro result hresult
    have hgroup := (mem_groupBy_iff Db.EvaluationResult.evaluatorName evaluatorAggregates
      (resultsOf regressionRunId store) result.evaluatorName _).mpr ⟨⟨result, hresult, rfl⟩, rfl⟩
    have hrow := (orders.evaluators.perm _).mem_iff.mpr hgroup
    exact List.mem_map.mpr ⟨_, List.mem_map_of_mem hrow, rfl⟩

theorem delivers_aggregateRegressionRun :
    Delivers db.backend (aggregateRegressionRun db orders regressionRunId) s fun aggregation _ =>
      Aggregates store regressionRunId aggregation := by
  have hoverall := delivers_passRateSummary db orders regressionRunId store s hs
  apply delivers_bind _ _ _ s _ _ hoverall
  intro overall t ht
  have hscenarios := delivers_scenarioPassRateSummaries db orders regressionRunId store t ht.2
  apply delivers_bind _ _ _ t _ _ hscenarios
  intro byScenario u hu
  have hevaluators := delivers_evaluatorPassRateSummaries db orders regressionRunId store u hu.2
  apply delivers_bind _ _ _ u _ _ hevaluators
  intro byEvaluator v hv
  obtain ⟨hsummaries, hevaluated, hv⟩ := hv
  apply delivers_bind _ _ _ v _ _ (delivers_read_of db _ store v hv)
  intro distribution w hw
  apply delivers_bind _ _ _ w _ _ (delivers_read_of db _ store w hw.2)
  intro agent x hx
  apply delivers_bind _ _ _ x _ _ (delivers_read_of db _ store x hx.2)
  intro evaluation y _
  apply delivers_of_ok _ _ y y _ _ rfl
  have hcategories := orders.categories.perm
    (groupCounts (fun joined : RunFailure × AgentRun => joined.1.primaryCategory)
      ((failedRunsJoined store).filter fun joined => linkedTo regressionRunId joined.2))
  rw [← hw.1] at hcategories
  exact ⟨ht.1, hu.1, hsummaries, hevaluated, hcategories⟩

end Delivers

/-! ### The slices partition the linked runs -/

def linkedRuns (regressionRunId : ℕ) (store : Store) : List AgentRun :=
  store.agentRuns.rows.filter (linkedTo regressionRunId)

def ofScenario (scenarioId : String) (runs : List AgentRun) : List AgentRun :=
  runs.filter fun run => run.scenarioId = some scenarioId

/-- The summary of these runs: one without a verdict is in the denominator and in no bucket. -/
structure Summarises (store : Store) (runs : List AgentRun) (summary : PassRateSummary) :
    Prop where
  counted : ∀ status, countOf status summary.counts = runs.countP fun run =>
    (store.runFailures.find? run.runId).any fun failure => failure.overallStatus = status
  buckets : (summary.counts.map Prod.snd).sum =
    runs.countP fun run => (store.runFailures.find? run.runId).isSome
  rate : ∀ rate, summary.passRate = some rate →
    0 ≤ rate ∧ rate ≤ 1 ∧ rate * runs.length = countOf .pass summary.counts
  unrated : summary.passRate = none ↔ runs = []

/-- What the slices of one regression have to do with each other. -/
structure Partitions (store : Store) (regressionRunId : ℕ) (aggregation : RegressionAggregation) :
    Prop where
  overall : Summarises store (linkedRuns regressionRunId store) aggregation.overall
  scenario : ∀ slice ∈ aggregation.byScenario, Summarises store
    (ofScenario slice.scenarioId (linkedRuns regressionRunId store)) slice.toPassRateSummary
  distinct : (aggregation.byScenario.map ScenarioPassRateSummary.scenarioId).Nodup
  rated : ∀ slice ∈ aggregation.byScenario, slice.passRate.isSome
  counts : ∀ status, countOf status aggregation.overall.counts =
    (aggregation.byScenario.map fun slice => countOf status slice.counts).sum
  weights : (linkedRuns regressionRunId store).length = (aggregation.byScenario.map fun slice =>
    (ofScenario slice.scenarioId (linkedRuns regressionRunId store)).length).sum
  mean : ∀ rate, aggregation.overall.passRate = some rate →
    rate = (aggregation.byScenario.map fun slice => slice.passRate.getD 0 *
      ((ofScenario slice.scenarioId (linkedRuns regressionRunId store)).length : ℚ)).sum /
        (linkedRuns regressionRunId store).length
  evaluators : ∀ summary ∈ aggregation.byEvaluator,
    (summary.passedCount : ℤ) ≤ summary.totalCount - summary.skippedCount

theorem judgedRunsOf_eq (regressionRunId : ℕ) (store : Store) :
    judgedRunsOf regressionRunId store =
      leftJoin store.runFailures AgentRun.runId (linkedRuns regressionRunId store) := by
  rw [judgedRunsOf, judgedRuns, leftJoin, List.filter_map]
  rfl

theorem judged_ofScenario (store : Store) (scenarioId : String) (runs : List AgentRun) :
    (leftJoin store.runFailures AgentRun.runId runs).filter
        (fun run : JudgedRun => run.scenarioId = some scenarioId) =
      leftJoin store.runFailures AgentRun.runId (ofScenario scenarioId runs) := by
  rw [leftJoin, List.filter_map]
  rfl

theorem withStatus_sum (judged : List JudgedRun) :
    withStatus .pass judged + withStatus .fail judged + withStatus .incomplete judged =
      judged.countP fun run => run.overallStatus.isSome := by
  induction judged with
  | nil => rfl
  | cons run judged ih =>
    simp only [withStatus, List.countP_cons] at ih ⊢
    cases hstatus : run.overallStatus with
    | none => simpa using ih
    | some status => cases status <;> simp <;> omega

theorem passRateOf_rate (judged : List JudgedRun) (rate : ℚ)
    (h : (passRateOf judged).passRate = some rate) :
    0 ≤ rate ∧ rate ≤ 1 ∧ rate * judged.length = withStatus .pass judged := by
  by_cases hempty : judged.length = 0
  · rw [passRateOf, if_neg (fun hne => hne hempty)] at h
    cases h
  · rw [passRateOf, if_pos hempty, Option.some.injEq] at h
    have hle : withStatus .pass judged ≤ judged.length := List.countP_le_length
    have hle : (withStatus .pass judged : ℚ) ≤ judged.length := by exact_mod_cast hle
    have hpos : (0 : ℚ) < judged.length := by exact_mod_cast Nat.pos_of_ne_zero hempty
    rw [← h]
    refine ⟨?_, ?_, ?_⟩
    · positivity
    · exact (div_le_one hpos).mpr hle
    · exact div_mul_cancel₀ _ (ne_of_gt hpos)

theorem passRateOf_none_iff (judged : List JudgedRun) :
    (passRateOf judged).passRate = none ↔ judged = [] := by
  rw [passRateOf]
  simp

theorem summarises_judged (store : Store) (runs : List AgentRun) :
    Summarises store runs (passRateOf (leftJoin store.runFailures AgentRun.runId runs)) := by
  have hstatus : ∀ status, withStatus status (leftJoin store.runFailures AgentRun.runId runs) =
      runs.countP fun run => (store.runFailures.find? run.runId).any fun failure =>
        failure.overallStatus = status := by
    intro status
    rw [withStatus, leftJoin, List.countP_map]
    apply List.countP_congr
    intro run _
    simp only [Function.comp_apply, JudgedRun.overallStatus]
    cases store.runFailures.find? run.runId <;> simp
  have hlength : (leftJoin store.runFailures AgentRun.runId runs).length = runs.length := by
    rw [leftJoin, List.length_map]
  exact
    { counted := by
        intro status
        rw [passRateOf, countOf_bucketsOf, hstatus]
      buckets := by
        have hsum := withStatus_sum (leftJoin store.runFailures AgentRun.runId runs)
        have hjudged : (leftJoin store.runFailures AgentRun.runId runs).countP
            (fun run : JudgedRun => run.overallStatus.isSome) =
              runs.countP fun run => (store.runFailures.find? run.runId).isSome := by
          rw [leftJoin, List.countP_map]
          apply List.countP_congr
          intro run _
          simp [JudgedRun.overallStatus]
        rw [← hjudged, ← hsum]
        simp [passRateOf, bucketsOf, Nat.add_assoc]
      rate := by
        intro rate hrate
        have hbounds := passRateOf_rate _ rate hrate
        rw [hlength] at hbounds
        rw [passRateOf, countOf_bucketsOf]
        exact hbounds
      unrated := by
        rw [passRateOf_none_iff, leftJoin, List.map_eq_nil_iff] }

/-- A stored result is a record as an evaluation writes it. -/
def WrittenResult (row : Db.EvaluationResult) : Prop :=
  ∃ runId evaluatorName evaluatorVersion status result regressionRunId now id,
    row = evaluationResultRecord runId evaluatorName evaluatorVersion status result
      regressionRunId now id

/-- Only a completed evaluator has an outcome. -/
theorem written_skipped (row : Db.EvaluationResult) (h : WrittenResult row)
    (hskipped : row.status = .skipped) : row.passed ≠ some true := by
  obtain ⟨runId, evaluatorName, evaluatorVersion, status, result, regressionRunId, now, id, rfl⟩ := h
  have hstatus : status = .skipped := hskipped
  rw [hstatus]
  simp [evaluationResultRecord]

theorem evaluatorAggregates_bound (results : List Db.EvaluationResult)
    (h : ∀ result ∈ results, WrittenResult result) :
    (evaluatorAggregates results).passedCount + (evaluatorAggregates results).skippedCount ≤
      (evaluatorAggregates results).totalCount := by
  induction results with
  | nil => exact Nat.le_refl 0
  | cons result results ih =>
    have hrest := ih fun other hother => h other (List.mem_cons_of_mem _ hother)
    have hdisjoint := written_skipped result (h result List.mem_cons_self)
    simp only [evaluatorAggregates, List.countP_cons, List.length_cons] at hrest ⊢
    by_cases hskipped : result.status = .skipped
    · have hpassed := hdisjoint hskipped
      simp only [hskipped, hpassed, decide_true, decide_false, if_true, Bool.false_eq_true,
        if_false]
      omega
    · simp only [hskipped, decide_false, Bool.false_eq_true, if_false]
      split <;> omega

section Partition
variable (store : Store) (regressionRunId : ℕ) (aggregation : RegressionAggregation)
  (h : Aggregates store regressionRunId aggregation)
include h

theorem scenario_summarises (slice : ScenarioPassRateSummary)
    (hslice : slice ∈ aggregation.byScenario) : Summarises store
      (ofScenario slice.scenarioId (linkedRuns regressionRunId store)) slice.toPassRateSummary := by
  have hsummary := h.slices.summary slice hslice
  rw [judgedRunsOf_eq, judged_ofScenario] at hsummary
  rw [hsummary]
  exact summarises_judged store _

theorem scenario_rated (slice : ScenarioPassRateSummary)
    (hslice : slice ∈ aggregation.byScenario) : slice.passRate.isSome := by
  have hsummary := h.slices.summary slice hslice
  obtain ⟨run, hrun, hscenario⟩ := (h.slices.present slice.scenarioId).mp
    (List.mem_map_of_mem hslice)
  rw [show slice.passRate = slice.toPassRateSummary.passRate from rfl, hsummary,
    Option.isSome_iff_ne_none, Ne, passRateOf_none_iff]
  apply List.ne_nil_of_mem
  exact List.mem_filter.mpr ⟨hrun, decide_eq_true hscenario⟩

variable (hscenarios : ∀ run ∈ store.agentRuns.rows, run.regressionRunId.isSome →
  run.scenarioId.isSome)
include hscenarios

theorem sum_scenarios (p : JudgedRun → Bool) :
    (aggregation.byScenario.map fun slice =>
      ((judgedRunsOf regressionRunId store).filter fun run =>
        run.scenarioId = some slice.scenarioId).countP p).sum =
      (judgedRunsOf regressionRunId store).countP p := by
  apply sum_slices _ _ h.slices
  intro run hrun
  rw [judgedRunsOf_eq, leftJoin] at hrun
  obtain ⟨linked, hlinked, rfl⟩ := List.mem_map.mp hrun
  obtain ⟨hmem, hid⟩ := List.mem_filter.mp hlinked
  have hid : linked.regressionRunId = some regressionRunId := of_decide_eq_true hid
  exact hscenarios linked hmem (by rw [hid]; rfl)

theorem scenario_counts (status : OverallEvaluationStatus) :
    countOf status aggregation.overall.counts =
      (aggregation.byScenario.map fun slice => countOf status slice.counts).sum := by
  have hsum := sum_scenarios store regressionRunId aggregation h hscenarios fun run =>
    run.overallStatus = some status
  rw [h.overall, passRateOf, countOf_bucketsOf, withStatus, ← hsum]
  congr 1
  apply List.map_congr_left
  intro slice hslice
  rw [show slice.counts = slice.toPassRateSummary.counts from rfl,
    h.slices.summary slice hslice, passRateOf, countOf_bucketsOf, withStatus]

theorem scenario_weights : (linkedRuns regressionRunId store).length =
    (aggregation.byScenario.map fun slice =>
      (ofScenario slice.scenarioId (linkedRuns regressionRunId store)).length).sum := by
  have hsum := sum_scenarios store regressionRunId aggregation h hscenarios fun _ => true
  have hlength : ∀ runs : List AgentRun,
      (leftJoin store.runFailures AgentRun.runId runs).countP (fun _ => true) = runs.length := by
    intro runs
    rw [leftJoin, List.countP_map]
    exact congrFun List.countP_true runs
  rw [judgedRunsOf_eq, hlength] at hsum
  rw [← hsum]
  congr 1
  apply List.map_congr_left
  intro slice _
  rw [judged_ofScenario, hlength]

/-- The rate of a slice times its weight is its number of passes. -/
theorem scenario_mean (rate : ℚ) (hrate : aggregation.overall.passRate = some rate) :
    rate = (aggregation.byScenario.map fun slice => slice.passRate.getD 0 *
      ((ofScenario slice.scenarioId (linkedRuns regressionRunId store)).length : ℚ)).sum /
        (linkedRuns regressionRunId store).length := by
  have hoverall := summarises_judged store (linkedRuns regressionRunId store)
  rw [← judgedRunsOf_eq, ← h.overall] at hoverall
  obtain ⟨_, _, hpasses⟩ := hoverall.rate rate hrate
  have hlinked : linkedRuns regressionRunId store ≠ [] := by
    intro hempty
    rw [hoverall.unrated.mpr hempty] at hrate
    cases hrate
  have hpos : ((linkedRuns regressionRunId store).length : ℚ) ≠ 0 := by
    exact_mod_cast fun hzero => hlinked (List.length_eq_zero_iff.mp hzero)
  have hslices : (aggregation.byScenario.map fun slice => slice.passRate.getD 0 *
      ((ofScenario slice.scenarioId (linkedRuns regressionRunId store)).length : ℚ)).sum =
        (aggregation.byScenario.map fun slice => (countOf .pass slice.counts : ℚ)).sum := by
    congr 1
    apply List.map_congr_left
    intro slice hslice
    have hsummary := scenario_summarises store regressionRunId aggregation h slice hslice
    obtain ⟨sliceRate, hsliceRate⟩ := Option.isSome_iff_exists.mp
      (scenario_rated store regressionRunId aggregation h slice hslice)
    rw [hsliceRate]
    exact (hsummary.rate sliceRate hsliceRate).2.2
  have hcounts := scenario_counts store regressionRunId aggregation h hscenarios .pass
  rw [eq_div_iff hpos, hpasses, hslices, hcounts]
  push_cast
  rw [List.map_map]
  rfl

theorem partitions_of_aggregates (hresults : ∀ row ∈ store.evaluationResults, WrittenResult row) :
    Partitions store regressionRunId aggregation where
  overall := by
    rw [h.overall, judgedRunsOf_eq]
    exact summarises_judged store _
  scenario := scenario_summarises store regressionRunId aggregation h
  distinct := h.slices.distinct
  rated := scenario_rated store regressionRunId aggregation h
  counts := scenario_counts store regressionRunId aggregation h hscenarios
  weights := scenario_weights store regressionRunId aggregation h hscenarios
  mean := scenario_mean store regressionRunId aggregation h hscenarios
  evaluators := by
    intro summary hsummary
    have hbound := evaluatorAggregates_bound
      ((resultsOf regressionRunId store).filter fun result =>
        result.evaluatorName = summary.evaluatorName) (by
      intro result hresult
      exact hresults result (List.mem_of_mem_filter (List.mem_of_mem_filter hresult)))
    rw [h.evaluators summary hsummary]
    simp only [evaluatorPassRateSummary]
    omega

end Partition

end ObsPlatform.Regressions
