import ObsPlatform.Platform.ServerHistory
import ObsPlatform.Routes.RegressionDetail

/-!
# Reading regressions while the server goes on

The detail of a regression takes a statement for its row, one for each figure and one for the
baseline, and other requests commit in between. What it says of the baseline is true all the
same, and stays true: rows of regressions keep everything a comparison looks at.
-/

namespace ObsPlatform.Platform

open Telemetry Db UnitOfWork Evaluation Ingestion Stateful Regressions Routes

/-! ### The detail, cut at its statements -/

section Threads
variable (db : Database) (orders : AggregationOrders db.collation) (regressionRunId : ℕ)

/- The queries of the aggregation, before what is made of it. -/
def aggregateThread {α : Type} (next : RegressionAggregation → SessionThread α) :
    SessionThread α := do
  let overall ← .atomic .read (passRateSummary db orders regressionRunId)
  let byScenario ← .atomic .read (scenarioPassRateSummaries db orders regressionRunId)
  let byEvaluator ← .atomic .read (evaluatorPassRateSummaries db orders regressionRunId)
  let failureDistribution ← .atomic .read (failureDistribution db orders regressionRunId)
  let agent ← .atomic .read (agentMetrics db regressionRunId)
  let evaluation ← .atomic .read (evaluationMetrics db regressionRunId)
  next {
    regressionRunId := regressionRunId
    overall := overall
    byScenario := byScenario
    byEvaluator := byEvaluator
    failureDistribution := failureDistribution
    agent := agent
    evaluation := evaluation }

def getRegressionThread : SessionThread RegressionDetailResponse := do
  let record ← .atomic .read (read db fun store => store.regressionRuns.find? regressionRunId)
  match record with
  | none => throw regressionNotFound
  | some record =>
    aggregateThread db orders record.id fun aggregation => do
      let baseline ← .atomic .read (read db fun store => (baselines store).head?)
      return regressionDetail record aggregation baseline

theorem getRegressionThread_run :
    (getRegressionThread db orders regressionRunId).run = getRegression db orders regressionRunId := by
  rw [getRegressionThread, Thread.run_bind, Thread.run_atomic, getRegression]
  congr 1
  funext record
  cases record with
  | none => rfl
  | some record =>
    simp only [aggregateThread, aggregateRegressionRun, Thread.run_bind, Thread.run_atomic,
      Thread.run_pure, bind_assoc, pure_bind]

end Threads

section Seeing
variable (db : Database) (hreads : ∀ n w w', db.backend.verdict n .read w w' = none)
  (orders : AggregationOrders db.collation) (stores : ℕ → Store) {β : Type}
include hreads

theorem seeing_mapped {α γ : Type} (f : Store → γ) (g : γ → α) (next : α → SessionThread β) (n : ℕ)
    (s : DbSession) :
    ∃ t, (Thread.atomic .read (do
        let rows ← read db f
        return g rows) >>= next).seeing committedPart stores n s =
      (next (g (f (stores n)))).seeing committedPart stores (n + 1) t := by
  have hr := read_accepted db hreads f (committedPart.install (stores n) s)
  rw [view_install] at hr
  exact ⟨_, Thread.seeing_atomic committedPart stores .read _ next n s _ _
    (bind_of_ok _ _ _ _ _ hr)⟩

/-- The figures against the stores their statements saw. -/
structure FiguresRead (regressionRunId : ℕ) (aggregation : RegressionAggregation) : Prop where
  overall : aggregation.overall = passRateOf (judgedRunsOf regressionRunId (stores 1))
  slices : ScenarioSlices (judgedRunsOf regressionRunId (stores 2)) aggregation.byScenario
  evaluators : aggregation.byEvaluator.Perm ((groupBy Db.EvaluationResult.evaluatorName
    evaluatorAggregates (resultsOf regressionRunId (stores 3))).map evaluatorPassRateSummary)
  categories : aggregation.failureDistribution.Perm
    (groupCounts (fun joined : RunFailure × AgentRun => joined.1.primaryCategory)
      ((failedRunsJoined (stores 4)).filter fun joined => linkedTo regressionRunId joined.2))
  agent : aggregation.agent =
    agentMetricsOf ((stores 5).agentRuns.rows.filter (linkedTo regressionRunId))
  evaluation : aggregation.evaluation = evaluationMetricsOf (semiJoin (stores 6).agentRuns
    JudgeCall.runId (linkedTo regressionRunId) (stores 6).judgeCalls)

theorem aggregateThread_seeing (regressionRunId : ℕ)
    (next : RegressionAggregation → SessionThread β) (s : DbSession) :
    ∃ aggregation t, FiguresRead stores regressionRunId aggregation ∧
      (aggregateThread db orders regressionRunId next).seeing committedPart stores 1 s =
        (next aggregation).seeing committedPart stores 7 t := by
  obtain ⟨s1, h1⟩ := seeing_mapped db hreads stores (fun store => orders.statuses.arrange
    (groupBy JudgedRun.overallStatus List.length (judgedRunsOf regressionRunId store)))
    passRateSummaryFromRows _ 1 s
  obtain ⟨s2, h2⟩ := seeing_mapped db hreads stores (fun store => orders.scenarios.arrange
    (groupBy (fun judged : JudgedRun => (judged.scenarioId, judged.overallStatus)) List.length
      (judgedRunsOf regressionRunId store))) (fun rows =>
        (regroup (fun row : ScenarioStatusRow => row.1.1) (fun row => (row.1.2, row.2)) rows).map
          fun entry => ({ passRateSummaryFromRows entry.2 with scenarioId := entry.1 } :
            ScenarioPassRateSummary)) _ 2 s1
  obtain ⟨s3, h3⟩ := seeing_mapped db hreads stores (fun store => orders.evaluators.arrange
    (groupBy Db.EvaluationResult.evaluatorName evaluatorAggregates
      (resultsOf regressionRunId store))) (List.map evaluatorPassRateSummary) _ 3 s2
  obtain ⟨s4, h4⟩ := seeing_read db hreads stores (fun store => orders.categories.arrange
    (groupCounts (fun joined : RunFailure × AgentRun => joined.1.primaryCategory)
      ((failedRunsJoined store).filter fun joined => linkedTo regressionRunId joined.2))) _ 4 s3
  obtain ⟨s5, h5⟩ := seeing_read db hreads stores (fun store =>
    agentMetricsOf (store.agentRuns.rows.filter (linkedTo regressionRunId))) _ 5 s4
  obtain ⟨s6, h6⟩ := seeing_read db hreads stores (fun store => evaluationMetricsOf
    (semiJoin store.agentRuns JudgeCall.runId (linkedTo regressionRunId) store.judgeCalls)) _ 6 s5
  refine ⟨_, s6, ?_, h1.trans (h2.trans (h3.trans (h4.trans (h5.trans h6))))⟩
  exact
    { overall := passRateSummaryFromRows_eq _ _
        (countsOf_groupBy _ _ _ (orders.statuses.perm _))
      slices := scenarioSlices_grouped _ _ (countsOf_groupBy _ _ _ (orders.scenarios.perm _))
      evaluators := (orders.evaluators.perm _).map _
      categories := orders.categories.perm _
      agent := rfl
      evaluation := rfl }

theorem getRegressionThread_seeing (regressionRunId : ℕ) (record : RegressionRun)
    (hrecord : (stores 0).regressionRuns.find? regressionRunId = some record) (s : DbSession) :
    ∃ aggregation, FiguresRead stores regressionRunId aggregation ∧
      (getRegressionThread db orders regressionRunId).seeing committedPart stores 0 s =
        .ok (regressionDetail record aggregation (baselines (stores 7)).head?) := by
  have hid : record.id = regressionRunId := Table.key_of_find? _ _ record hrecord
  subst hid
  obtain ⟨t, hfound⟩ := seeing_read db hreads stores
    (fun store => store.regressionRuns.find? record.id) (fun found => match found with
      | none => throw regressionNotFound
      | some record => aggregateThread db orders record.id fun aggregation => do
        let baseline ← .atomic .read (read db fun store => (baselines store).head?)
        return regressionDetail record aggregation baseline) 0 s
  rw [hrecord] at hfound
  obtain ⟨aggregation, u, hfigures, haggregated⟩ :=
    aggregateThread_seeing db hreads orders stores record.id (fun aggregation => do
      let baseline ← .atomic .read (read db fun store => (baselines store).head?)
      return regressionDetail record aggregation baseline) t
  obtain ⟨v, hbaseline⟩ := seeing_read db hreads stores (fun store => (baselines store).head?)
    (fun baseline => pure (regressionDetail record aggregation baseline)) 7 u
  exact ⟨aggregation, hfigures, hfound.trans (haggregated.trans hbaseline)⟩

end Seeing

/-! ### Comparisons that stand -/

/-- The comparison of the regression as the store has it. -/
def storedComparison (regressionRunId : ℕ) (store : Store) : Option RegressionComparison :=
  (store.regressionRuns.find? regressionRunId).bind fun record =>
    (baselines store).head?.bind fun baseline =>
      if baseline.id ≠ record.id then some (regressionComparison record baseline) else none

/-- There is no comparison without a baseline. -/
theorem storedComparison_baseline (regressionRunId : ℕ) (store : Store)
    (h : storedComparison regressionRunId store ≠ none) : baselineExists store = true := by
  cases hbaselines : baselines store with
  | nil =>
    have hnone : storedComparison regressionRunId store = none := by
      simp [storedComparison, hbaselines]
    exact absurd hnone h
  | cons baseline rest => exact baselineExists_of_cons store _ _ hbaselines

theorem regressionComparison_continues (record record' baseline baseline' : RegressionRun)
    (hrecord : Continues record record') (hbaseline : Continues baseline baseline') :
    regressionComparison record' baseline' = regressionComparison record baseline := by
  rw [hrecord.metadata, hbaseline.metadata]
  rfl

theorem continues_id (row row' : RegressionRun) (h : Continues row row') :
    row'.id = row.id ∧ row'.isBaseline = row.isBaseline := by
  rw [h.metadata]
  exact ⟨rfl, rfl⟩

section Course
variable (may : ℕ → Prop) (store store' : Store) (hcourse : Course may store store')
include hcourse

theorem course_continues (id : ℕ) (row : RegressionRun)
    (hrow : store.regressionRuns.find? id = some row) :
    ∃ row', store'.regressionRuns.find? id = some row' ∧ Continues row row' := by
  obtain ⟨row', hrow', hmoved⟩ := course_row may store store' hcourse id row hrow
  exact ⟨row', hrow', continues_of_steps row row' hmoved⟩

/-- A baseline stays the baseline. -/
theorem course_baseline (hone : (baselines store').length ≤ 1) (baseline : RegressionRun)
    (hbaseline : (baselines store).head? = some baseline) :
    ∃ baseline', (baselines store').head? = some baseline' ∧ Continues baseline baseline' := by
  have hmem := List.mem_of_mem_head? hbaseline
  obtain ⟨hstored, hflag⟩ := List.mem_filter.mp hmem
  have hfound := (store.regressionRuns.find?_eq_some_iff baseline.id baseline).mpr ⟨hstored, rfl⟩
  obtain ⟨baseline', hfound', hcontinues⟩ := course_continues may store store' hcourse _ _ hfound
  have hflag' : baseline' ∈ baselines store' := by
    refine List.mem_filter.mpr ⟨Table.mem_of_find? _ _ _ hfound', ?_⟩
    rw [(continues_id _ _ hcontinues).2]
    exact hflag
  exact ⟨baseline', baselines_head? store' hone baseline' hflag', hcontinues⟩

/-- A regression that is not the baseline does not become it. -/
theorem course_baselines_nil (hnone : baselines store = []) (regressionRunId : ℕ)
    (record : RegressionRun) (hrecord : store.regressionRuns.find? regressionRunId = some record) :
    ∀ baseline ∈ baselines store', baseline.id ≠ regressionRunId := by
  intro baseline hbaseline hid
  obtain ⟨hstored, hflag⟩ := List.mem_filter.mp hbaseline
  obtain ⟨record', hrecord', hcontinues⟩ :=
    course_continues may store store' hcourse regressionRunId record hrecord
  have hfound := (store'.regressionRuns.find?_eq_some_iff regressionRunId baseline).mpr ⟨hstored, hid⟩
  rw [hrecord', Option.some.injEq] at hfound
  rw [← hfound, (continues_id _ _ hcontinues).2] at hflag
  have hmem : record ∈ baselines store :=
    List.mem_filter.mpr ⟨Table.mem_of_find? _ _ record hrecord, hflag⟩
  rw [hnone] at hmem
  cases hmem

/-- Only a first baseline changes what a comparison says. -/
theorem course_storedComparison (hone : (baselines store').length ≤ 1) (regressionRunId : ℕ)
    (record : RegressionRun) (hrecord : store.regressionRuns.find? regressionRunId = some record) :
    storedComparison regressionRunId store' = storedComparison regressionRunId store ↔
      (baselineExists store' = true → baselineExists store = true) := by
  obtain ⟨record', hrecord', hcontinues⟩ :=
    course_continues may store store' hcourse regressionRunId record hrecord
  have hid : record'.id = regressionRunId := Table.key_of_find? _ _ record' hrecord'
  simp only [storedComparison, hrecord, hrecord', Option.bind_some]
  cases hbaselines : baselines store with
  | nil =>
    have hother := course_baselines_nil may store store' hcourse hbaselines regressionRunId record hrecord
    have hfalse : baselineExists store = false := (baselineExists_eq_false store).mpr hbaselines
    cases hbaselines' : baselines store' with
    | nil =>
      have hfalse' : baselineExists store' = false := (baselineExists_eq_false store').mpr hbaselines'
      simp [hfalse, hfalse']
    | cons baseline' rest =>
      have hne := hother baseline' (by simp [hbaselines'])
      have hexists' := baselineExists_of_cons store' _ _ hbaselines'
      rw [← hid] at hne
      simp [hfalse, hexists', hne]
  | cons baseline rest =>
    have hhead : (baselines store).head? = some baseline := by rw [hbaselines, List.head?_cons]
    obtain ⟨baseline', hbaseline', hbaselineContinues⟩ :=
      course_baseline may store store' hcourse hone baseline hhead
    have hexists := baselineExists_of_cons store _ _ hbaselines
    rw [hbaseline', Option.bind_some, List.head?_cons, Option.bind_some,
      (continues_id _ _ hcontinues).1, (continues_id _ _ hbaselineContinues).1,
      regressionComparison_continues _ _ _ _ hcontinues hbaselineContinues]
    exact iff_of_true rfl fun _ => hexists

end Course

/-! ### In the server -/

section Comparison
variable {ι : Type} [DecidableEq ι] (server : Server ι) (store : Store) (sessions : ι → RunnerState)
  (hstore : Consistent store) (hready : server.Ready store)
  (before : List (Commit ι Statement Store)) (moments : ℕ → ServerPool ι)
  (hbefore : Server.Goes (server.pool store sessions) before (moments 0))
  (hgoes : ∀ n, ∃ history, Server.Goes (moments n) history (moments (n + 1)))
include hstore hready hbefore hgoes

theorem moments_course (n : ℕ) :
    Course (fun _ => True) (moments 0).shared (moments n).shared := by
  induction n with
  | zero => exact course_refl _ _
  | succ n ih =>
    have hchange := moments_change server store sessions hstore hready before moments hbefore hgoes n
    exact course_trans _ _ _ _ ih hchange.course

/-- The statements of one read of a regression, sent while the server goes on: the summary is
that of the first statement, each figure that of its own, and the comparison is what the store
says when the baseline is read, and goes on saying until a first baseline is registered. -/
theorem server_comparison (db : Database)
    (hreads : ∀ n w w', db.backend.verdict n .read w w' = none)
    (orders : AggregationOrders db.collation) (regressionRunId : ℕ) (record : RegressionRun)
    (hrecord : (moments 0).shared.regressionRuns.find? regressionRunId = some record)
    (s : DbSession) :
    ∃ detail aggregation,
      (getRegressionThread db orders regressionRunId).seeing committedPart
        (fun n => (moments n).shared) 0 s = .ok detail ∧
      detail.toRegressionSummary = regressionSummary record ∧
      detail.aggregation = regressionAggregationResponse aggregation ∧
      FiguresRead (fun n => (moments n).shared) regressionRunId aggregation ∧
      detail.comparison = storedComparison regressionRunId (moments 7).shared ∧
      ∀ history u, Server.Goes (moments 7) history u → (baselines u.shared).length ≤ 1 →
        (storedComparison regressionRunId u.shared = detail.comparison ↔
          (baselineExists u.shared = true → baselineExists (moments 7).shared = true)) ∧
        (detail.comparison ≠ none →
          storedComparison regressionRunId u.shared = detail.comparison) := by
  obtain ⟨aggregation, hfigures, hended⟩ := getRegressionThread_seeing db hreads orders
    (fun n => (moments n).shared) regressionRunId record hrecord s
  have hcourse := moments_course server store sessions hstore hready before moments hbefore hgoes 7
  obtain ⟨reached, hreached⟩ :=
    moments_reached server store sessions before moments hbefore hgoes 7
  obtain ⟨record', hrecord', hcontinues⟩ := course_continues _ _ _ hcourse _ record hrecord
  have hcomparison : (regressionDetail record aggregation
      (baselines (moments 7).shared).head?).comparison =
        storedComparison regressionRunId (moments 7).shared := by
    rw [storedComparison, hrecord', Option.bind_some, (continues_id _ _ hcontinues).1]
    simp only [regressionDetail,
      regressionComparison_continues record record' _ _ hcontinues (continues_refl _)]
  refine ⟨_, aggregation, hended, rfl, rfl, hfigures, hcomparison, ?_⟩
  intro history u hlater hone
  have hagreed := server_agreed server store sessions hstore hready reached _ hreached
  have hchange := server.change_goes _ u history hagreed hlater
  rw [hcomparison]
  have hstill := course_storedComparison _ _ _ hchange.course hone regressionRunId record' hrecord'
  exact ⟨hstill, fun hsome => hstill.mpr fun _ => storedComparison_baseline _ _ hsome⟩

end Comparison

/-! ### The list -/

/-- What a summary keeps of an earlier one. -/
structure SummaryContinues (summary summary' : RegressionSummary) : Prop where
  metadata : summary' = { summary with
    status := summary'.status
    startedAt := summary'.startedAt
    completedAt := summary'.completedAt }
  begun : summary.status ≠ .pending →
    summary'.status ≠ .pending ∧ summary'.startedAt = summary.startedAt
  terminal : Terminal summary.status → summary' = summary

theorem regressionSummary_continues (row row' : RegressionRun) (h : Continues row row') :
    SummaryContinues (regressionSummary row) (regressionSummary row') where
  metadata := by
    rw [h.metadata]
    rfl
  begun := h.begun
  terminal := fun hterminal => by rw [h.terminal hterminal]

theorem newestFirst_mem (store : Store) (row : RegressionRun) :
    row ∈ newestFirst store ↔ store.regressionRuns.find? row.id = some row := by
  rw [newestFirst, List.mem_insertionSort, store.regressionRuns.find?_eq_some_iff]
  exact (and_iff_left rfl).symm

/-- Ids are distinct, so that the descending order is strict. -/
theorem newestFirst_pairwise (store : Store) :
    ((newestFirst store).map RegressionRun.id).Pairwise (· > ·) := by
  have htotal : Std.Total fun a b : RegressionRun => b.id ≤ a.id := ⟨fun a b => le_total b.id a.id⟩
  have htrans : IsTrans RegressionRun fun a b => b.id ≤ a.id := ⟨fun _ _ _ h h' => h'.trans h⟩
  have hsorted : (newestFirst store).Pairwise fun a b => b.id ≤ a.id :=
    List.pairwise_insertionSort _ _
  have hdistinct : ((newestFirst store).map RegressionRun.id).Nodup :=
    ((List.perm_insertionSort _ _).map RegressionRun.id).nodup_iff.mpr
      store.regressionRuns.unique
  rw [List.pairwise_map]
  exact (hsorted.and (List.pairwise_map.mp hdistinct)).imp fun h => lt_of_le_of_ne h.1 h.2.symm

theorem listRegressions_items (db : Database) (store : Store) (s t : DbSession)
    (hs : s.view = store) (items : List RegressionSummary)
    (h : listRegressions db s = .ok items t) : items = (newestFirst store).map regressionSummary := by
  obtain ⟨rows, u, hrows, hreturned⟩ := (bind_returns _ _ _ _ _).mp h
  have hread := (ends_returns _ _ _ _ _ _ (delivers_read_of db newestFirst store s hs) hrows).1
  cases hreturned
  rw [hread]

theorem map_id_regressionSummary (rows : List RegressionRun) :
    (rows.map regressionSummary).map RegressionSummary.id = rows.map RegressionRun.id := by
  rw [List.map_map]
  rfl

section List
variable {ι : Type} [DecidableEq ι] (server : Server ι) (store : Store) (sessions : ι → RunnerState)
  (hstore : Consistent store) (hready : server.Ready store)
  (before history : List (Commit ι Statement Store)) (w u : ServerPool ι)
  (hbefore : Server.Goes (server.pool store sessions) before w) (h : Server.Goes w history u)
include hstore hready hbefore h

/-- The list is newest first and complete; what an earlier list showed a later one shows in the
same order, every regression where it was or further on. -/
theorem server_lists (db db' : Database) (s s' t t' : DbSession) (hs : s.view = w.shared)
    (hs' : s'.view = u.shared) (items items' : List RegressionSummary)
    (hitems : listRegressions db s = .ok items t)
    (hitems' : listRegressions db' s' = .ok items' t') :
    (items.map RegressionSummary.id).Pairwise (· > ·) ∧
      (∀ row, w.shared.regressionRuns.find? row.id = some row → regressionSummary row ∈ items) ∧
      (items.map RegressionSummary.id).Sublist (items'.map RegressionSummary.id) ∧
      ∀ item ∈ items, ∃ item' ∈ items', SummaryContinues item item' := by
  have hlist := listRegressions_items db w.shared s t hs items hitems
  have hlist' := listRegressions_items db' u.shared s' t' hs' items' hitems'
  subst hlist hlist'
  have hagreed := server_agreed server store sessions hstore hready before w hbefore
  have hcourse := (server.change_goes w u history hagreed h).course
  have hkept : ∀ row ∈ newestFirst w.shared, ∃ row' ∈ newestFirst u.shared, Continues row row' := by
    intro row hrow
    obtain ⟨row', hfound, hcontinues⟩ :=
      course_continues _ _ _ hcourse row.id row ((newestFirst_mem _ row).mp hrow)
    refine ⟨row', (newestFirst_mem _ row').mpr ?_, hcontinues⟩
    rw [(continues_id _ _ hcontinues).1]
    exact hfound
  simp only [map_id_regressionSummary]
  have hsorted := newestFirst_pairwise w.shared
  have hsubset : (newestFirst w.shared).map RegressionRun.id ⊆
      (newestFirst u.shared).map RegressionRun.id := by
    intro id hid
    obtain ⟨row, hrow, rfl⟩ := List.mem_map.mp hid
    obtain ⟨row', hrow', hcontinues⟩ := hkept row hrow
    exact List.mem_map.mpr ⟨row', hrow', (continues_id _ _ hcontinues).1⟩
  refine ⟨hsorted, ?_, ?_, ?_⟩
  · intro row hrow
    exact List.mem_map_of_mem ((newestFirst_mem _ row).mpr hrow)
  · have hdistinct : ((newestFirst w.shared).map RegressionRun.id).Nodup := hsorted.imp ne_of_gt
    have hsubperm := List.subperm_of_subset hdistinct hsubset
    exact List.sublist_of_subperm_of_pairwise hsubperm hsorted (newestFirst_pairwise u.shared)
  · intro item hitem
    obtain ⟨row, hrow, rfl⟩ := List.mem_map.mp hitem
    obtain ⟨row', hrow', hcontinues⟩ := hkept row hrow
    exact ⟨_, List.mem_map_of_mem hrow', regressionSummary_continues row row' hcontinues⟩

end List

/-! ### A regression read beside the runner of its baseline -/

theorem comparedStore_registered (row : RegressionRun) (h : row ∈ comparedStore.regressionRuns.rows) :
    Registered row := by
  have hmem : row ∈ [baselineRegression, laterRegression] := h
  rcases List.mem_pair.mp hmem with rfl | rfl
  · exact ⟨rfl, rfl, rfl⟩
  · exact ⟨rfl, rfl, rfl⟩

theorem comparedStore_consistent : Consistent comparedStore := by
  have hruns : RunsConsistent comparedStore :=
    runsConsistent_invariant.regressionRuns Store.empty _ runsConsistent_invariant.empty
  refine ⟨hruns.1, hruns.2.1, hruns.2.2, fun _ hm => absurd hm List.not_mem_nil, ?_⟩
  intro id row hrow
  exact registered_lifecycle _ (comparedStore_registered row (Table.mem_of_find? _ id row hrow))

theorem comparedServer_ready : sampleServer.Ready comparedStore := by
  intro i id _ row hrow
  exact (comparedStore_registered row (Table.mem_of_find? _ id row hrow)).status

def comparedMoments : ℕ → ServerPool Bool
  | 0 => sampleServer.pool comparedStore fun _ =>
    { attempts := [], calls := [], session := Session.fresh comparedStore }
  | n + 1 => (comparedMoments n).play runnerPart [true, true, false]

theorem comparedMoments_goes (n : ℕ) :
    ∃ history, Server.Goes (comparedMoments n) history (comparedMoments (n + 1)) :=
  ⟨_, plays_play runnerPart _ _ [] (comparedMoments n) .start [true, true, false]⟩

theorem compared_reached :
    ((comparedMoments 7).shared.regressionRuns.find? 1).map RegressionRun.status =
        some .running ∧
      storedComparison 2 (comparedMoments 7).shared =
        some ⟨1, false, ["scenario_contract_version", "schema_validity"]⟩ := by
  decide +kernel

theorem compared_goes : ∃ history, Server.Goes (comparedMoments 7) history (comparedMoments 9) := by
  obtain ⟨_, h⟩ := comparedMoments_goes 7
  obtain ⟨_, h'⟩ := comparedMoments_goes 8
  exact ⟨_, plays_trans runnerPart _ _ _ _ _ _ h h'⟩

theorem server_comparison_sample : ∃ (orders : AggregationOrders Database.plain.collation)
    (detail : RegressionDetailResponse),
    (getRegressionThread .plain orders 2).seeing committedPart
      (fun n => (comparedMoments n).shared) 0 (Session.fresh comparedStore) = .ok detail ∧
    detail.comparison = some ⟨1, false, ["scenario_contract_version", "schema_validity"]⟩ ∧
    storedComparison 2 (comparedMoments 9).shared = detail.comparison := by
  obtain ⟨orders⟩ := aggregationOrders_nonempty Database.plain.collation
  obtain ⟨detail, _, hended, _, _, _, hcomparison, hlater⟩ :=
    server_comparison sampleServer comparedStore _ comparedStore_consistent comparedServer_ready []
      comparedMoments .start comparedMoments_goes .plain (fun _ _ _ => rfl) orders 2 laterRegression
      rfl (Session.fresh comparedStore)
  obtain ⟨history, h⟩ := compared_goes
  have hcompared := hcomparison.trans compared_reached.2
  have hkept := (hlater history _ h (by decide +kernel)).1.mpr fun _ => by decide +kernel
  exact ⟨orders, detail, hended, hcompared, hkept⟩

theorem server_lists_sample : ∃ items items' t t',
    listRegressions .plain (Session.fresh comparedStore) = .ok items t ∧
    listRegressions .plain (Session.fresh (comparedMoments 1).shared) = .ok items' t' ∧
    items.map RegressionSummary.id = [2, 1] ∧
    (items.map RegressionSummary.id).Sublist (items'.map RegressionSummary.id) ∧
    ∀ item ∈ items, ∃ item' ∈ items', SummaryContinues item item' := by
  obtain ⟨history, h⟩ := comparedMoments_goes 0
  obtain ⟨_, _, hkept, hcontinued⟩ := server_lists sampleServer comparedStore _
    comparedStore_consistent comparedServer_ready [] history (comparedMoments 0) (comparedMoments 1)
    .start h .plain .plain (Session.fresh comparedStore) (Session.fresh (comparedMoments 1).shared)
    _ _ rfl rfl _ _ rfl rfl
  exact ⟨_, _, _, _, rfl, rfl, by decide +kernel, hkept, hcontinued⟩

end ObsPlatform.Platform
