import ObsPlatform.Platform.Analytics
import ObsPlatform.Platform.RegressionReads

/-!
# Analytics while the server goes on

An analytics endpoint takes one statement for its total and others for the parts, and runs are
ingested and evaluated in between. Then a total need not be the sum of its parts any more. But
rows are never deleted, so it never runs ahead of them, and each count lies between that of
the store when the read began and that of the store when it ended.
-/

namespace ObsPlatform.Platform

open Telemetry Db UnitOfWork Evaluation Ingestion Stateful Regressions Routes

/-! ### The endpoints, cut at their statements -/

section Threads
variable (db : Database) (params : AnalyticsTimeRangeParams)

def overviewResponse (aggregateRow : OverviewAggregates) (statusCounts : List (RunStatus × ℕ))
    (evaluationCounts : List (OverallEvaluationStatus × ℕ)) : OverviewAnalyticsResponse :=
  let passCount := (evaluationCounts.lookup .pass).getD 0
  let behavioralDenominator := passCount + (evaluationCounts.lookup .fail).getD 0
  { runtimeSuccessRate :=
      if aggregateRow.terminalCount > 0 then
        some (aggregateRow.successCount / aggregateRow.terminalCount)
      else none
    behavioralPassRate :=
      if behavioralDenominator > 0 then some (passCount / behavioralDenominator) else none
    avgLatencyMs := aggregateRow.avgLatency
    p95LatencyMs := aggregateRow.p95Latency
    usageTotalTokens := aggregateRow.tokens
    usageTotalEstimatedCostUsd := aggregateRow.cost
    runCounts := ⟨aggregateRow.total, statusCounts⟩
    evaluationCounts := ⟨(evaluationCounts.map Prod.snd).sum, evaluationCounts⟩ }

def getOverviewThread : SessionThread OverviewAnalyticsResponse := do
  let aggregateRow ← .atomic .read
    (read db fun store => overviewAggregates (runsInRange params store))
  let statusCounts ← .atomic .read (read db fun store => runStatusCounts (runsInRange params store))
  let evaluationCounts ← .atomic .read
    (read db fun store => evaluationStatusCounts (failuresInRange params store))
  return overviewResponse aggregateRow statusCounts evaluationCounts

theorem getOverviewThread_run : (getOverviewThread db params).run = getOverview db params := by
  simp only [getOverviewThread, getOverview, overviewResponse, Thread.run_bind, Thread.run_atomic,
    Thread.run_pure]

def usageResponse (totalRow : UsageTotals) (byModelRows : List ((String × String) × UsageTotals))
    (byCallTypeRows : List (LLMCallType × UsageTotals)) : UsageAnalyticsResponse where
  total := totalRow
  byModel := byModelRows.map fun row => { row.2 with provider := row.1.1, model := row.1.2 }
  byCallType := byCallTypeRows.map fun row => { row.2 with callType := row.1 }

def getUsageThread (orders : UsageOrders db.collation) : SessionThread UsageAnalyticsResponse := do
  let totalRow ← .atomic .read (read db fun store => usageTotals (llmCallsInRange params store))
  let byModelRows ← .atomic .read (read db fun store => orders.models.arrange
    (groupBy (fun call : Db.LLMCall => (call.provider, call.model)) usageTotals
      (llmCallsInRange params store)))
  let byCallTypeRows ← .atomic .read (read db fun store => orders.callTypes.arrange
    (groupBy Db.LLMCall.callType usageTotals (llmCallsInRange params store)))
  return usageResponse totalRow byModelRows byCallTypeRows

theorem getUsageThread_run (orders : UsageOrders db.collation) :
    (getUsageThread db params orders).run = getUsage db orders params := by
  simp only [getUsageThread, getUsage, usageResponse, Thread.run_bind, Thread.run_atomic,
    Thread.run_pure]

def failuresResponse (evaluatedCount : ℕ) (overallCounts : List (OverallEvaluationStatus × ℕ))
    (failureTypeRows : List (FailureType × ℕ)) (severityRows : List (String × ℕ)) :
    FailureAnalyticsResponse :=
  let failingCount :=
    (overallCounts.lookup .fail).getD 0 + (overallCounts.lookup .incomplete).getD 0
  { runCounts := ⟨evaluatedCount, overallCounts⟩
    byFailureType := failureTypeRows.map fun row =>
      ⟨row.1, row.2, ratio row.2 evaluatedCount, ratio row.2 failingCount⟩
    bySeverity := severityRows.map fun row =>
      ⟨row.1, row.2, ratio row.2 evaluatedCount, ratio row.2 failingCount⟩ }

def getFailuresThread (orders : FailureOrders db.collation) :
    SessionThread FailureAnalyticsResponse := do
  let evaluatedCount ← .atomic .read (read db fun store => (failuresInRange params store).length)
  let overallCounts ← .atomic .read
    (read db fun store => evaluationStatusCounts (failuresInRange params store))
  let failureTypeRows ← .atomic .read (read db fun store => orders.failureTypes.arrange
    (groupCounts RunFailure.primaryCategory (failedRuns (failuresInRange params store))))
  let severityRows ← .atomic .read (read db fun store => orders.severities.arrange
    (groupCounts RunFailure.maxSeverity (failedRuns (failuresInRange params store))))
  return failuresResponse evaluatedCount overallCounts failureTypeRows severityRows

theorem getFailuresThread_run (orders : FailureOrders db.collation) :
    (getFailuresThread db params orders).run = getFailures db orders params := by
  simp only [getFailuresThread, getFailures, failuresResponse, Thread.run_bind, Thread.run_atomic,
    Thread.run_pure]

end Threads

section Seeing
variable (db : Database) (hreads : ∀ n w w', db.backend.verdict n .read w w' = none)
  (params : AnalyticsTimeRangeParams) (stores : ℕ → Store) (s : DbSession)
include hreads

theorem getOverviewThread_seeing :
    (getOverviewThread db params).seeing committedPart stores 0 s =
      .ok (overviewResponse (overviewAggregates (runsInRange params (stores 0)))
        (runStatusCounts (runsInRange params (stores 1)))
        (evaluationStatusCounts (failuresInRange params (stores 2)))) := by
  obtain ⟨t, h0⟩ := seeing_read db hreads stores
    (fun store => overviewAggregates (runsInRange params store)) _ 0 s
  obtain ⟨u, h1⟩ := seeing_read db hreads stores
    (fun store => runStatusCounts (runsInRange params store)) _ 1 t
  obtain ⟨v, h2⟩ := seeing_read db hreads stores
    (fun store => evaluationStatusCounts (failuresInRange params store)) _ 2 u
  exact h0.trans (h1.trans h2)

theorem getUsageThread_seeing (orders : UsageOrders db.collation) :
    (getUsageThread db params orders).seeing committedPart stores 0 s =
      .ok (usageResponse (usageTotals (llmCallsInRange params (stores 0)))
        (orders.models.arrange (groupBy (fun call : Db.LLMCall => (call.provider, call.model))
          usageTotals (llmCallsInRange params (stores 1))))
        (orders.callTypes.arrange (groupBy Db.LLMCall.callType usageTotals
          (llmCallsInRange params (stores 2))))) := by
  obtain ⟨t, h0⟩ := seeing_read db hreads stores
    (fun store => usageTotals (llmCallsInRange params store)) _ 0 s
  obtain ⟨u, h1⟩ := seeing_read db hreads stores (fun store => orders.models.arrange
    (groupBy (fun call : Db.LLMCall => (call.provider, call.model)) usageTotals
      (llmCallsInRange params store))) _ 1 t
  obtain ⟨v, h2⟩ := seeing_read db hreads stores (fun store => orders.callTypes.arrange
    (groupBy Db.LLMCall.callType usageTotals (llmCallsInRange params store))) _ 2 u
  exact h0.trans (h1.trans h2)

theorem getFailuresThread_seeing (orders : FailureOrders db.collation) :
    (getFailuresThread db params orders).seeing committedPart stores 0 s =
      .ok (failuresResponse (failuresInRange params (stores 0)).length
        (evaluationStatusCounts (failuresInRange params (stores 1)))
        (orders.failureTypes.arrange (groupCounts RunFailure.primaryCategory
          (failedRuns (failuresInRange params (stores 2)))))
        (orders.severities.arrange (groupCounts RunFailure.maxSeverity
          (failedRuns (failuresInRange params (stores 3)))))) := by
  obtain ⟨t, h0⟩ := seeing_read db hreads stores
    (fun store => (failuresInRange params store).length) _ 0 s
  obtain ⟨u, h1⟩ := seeing_read db hreads stores
    (fun store => evaluationStatusCounts (failuresInRange params store)) _ 1 t
  obtain ⟨v, h2⟩ := seeing_read db hreads stores (fun store => orders.failureTypes.arrange
    (groupCounts RunFailure.primaryCategory (failedRuns (failuresInRange params store)))) _ 2 u
  obtain ⟨w, h3⟩ := seeing_read db hreads stores (fun store => orders.severities.arrange
    (groupCounts RunFailure.maxSeverity (failedRuns (failuresInRange params store)))) _ 3 v
  exact h0.trans (h1.trans (h2.trans h3))

end Seeing

/-! ### What a range holds only grows -/

/-- A run of the range stays in it: no snapshot moves its start out of it. -/
def StaysInRange (params : AnalyticsTimeRangeParams) (store store' : Store) : Prop :=
  ∀ runId run run', store.agentRuns.find? runId = some run →
    store'.agentRuns.find? runId = some run' →
      timeRangeFilters params run = true → timeRangeFilters params run' = true

section Widens
variable (params : AnalyticsTimeRangeParams) (store store' : Store) (hgrows : Grows store store')
  (hstays : StaysInRange params store store')
include hgrows hstays

theorem inRange_kept (runId : String)
    (h : (store.agentRuns.find? runId).any (timeRangeFilters params) = true) :
    (store'.agentRuns.find? runId).any (timeRangeFilters params) = true := by
  obtain ⟨run, hrun, hrange⟩ := (Option.any_eq_true _ _).mp h
  obtain ⟨run', hrun', _⟩ := hgrows.agentRuns runId run hrun
  exact (Option.any_eq_true _ _).mpr ⟨run', hrun', hstays runId run run' hrun hrun' hrange⟩

theorem runsInRange_grows :
    (runsInRange params store).length ≤ (runsInRange params store').length := by
  apply length_filter_le store.agentRuns store'.agentRuns
  intro run hm hrange
  have hfound := (store.agentRuns.find?_eq_some_iff run.runId run).mpr ⟨hm, rfl⟩
  obtain ⟨run', hrun', _⟩ := hgrows.agentRuns run.runId run hfound
  exact ⟨run', hrun', hstays run.runId run run' hfound hrun' hrange⟩

theorem failuresInRange_grows :
    (failuresInRange params store).length ≤ (failuresInRange params store').length := by
  apply length_filter_le store.runFailures store'.runFailures
  intro failure hm hrange
  have hfound := (store.runFailures.find?_eq_some_iff failure.runId failure).mpr ⟨hm, rfl⟩
  obtain ⟨failure', hfailure'⟩ := Option.isSome_iff_exists.mp
    (hgrows.runFailures failure.runId (by rw [hfound]; rfl))
  refine ⟨failure', hfailure', ?_⟩
  rw [show failure'.runId = failure.runId from Table.key_of_find? _ _ _ hfailure']
  exact inRange_kept params store store' hgrows hstays failure.runId hrange

theorem llmCallsInRange_grows :
    (llmCallsInRange params store).length ≤ (llmCallsInRange params store').length := by
  apply length_filter_le store.llmCalls store'.llmCalls
  intro call hm hrange
  have hfound := (store.llmCalls.find?_eq_some_iff (Db.LLMCall.key call) call).mpr ⟨hm, rfl⟩
  obtain ⟨call', hcall'⟩ := Option.isSome_iff_exists.mp
    (hgrows.llmCalls (Db.LLMCall.key call) (by rw [hfound]; rfl))
  refine ⟨call', hcall', ?_⟩
  rw [show call'.runId = call.runId from congrArg Prod.fst (Table.key_of_find? _ _ _ hcall')]
  exact inRange_kept params store store' hgrows hstays call.runId hrange

end Widens

/-- An evaluated run of the range is one of its runs. -/
theorem failuresInRange_le (params : AnalyticsTimeRangeParams) (store : Store) :
    (failuresInRange params store).length ≤ (runsInRange params store).length := by
  apply length_filter_le store.runFailures store.agentRuns
  intro failure _ hrange
  exact (Option.any_eq_true _ _).mp hrange

/-! ### In the server -/

theorem share_bounds (part total : ℕ) (h : part ≤ total) (htotal : total > 0) :
    (0 : ℚ) ≤ part / total ∧ (part : ℚ) / total ≤ 1 := by
  have hpositive : (0 : ℚ) < total := by exact_mod_cast htotal
  have hle : (part : ℚ) ≤ total := by exact_mod_cast h
  exact ⟨div_nonneg (Nat.cast_nonneg part) hpositive.le, (div_le_one hpositive).mpr hle⟩

section Rates
variable (runs : List AgentRun) (statusCounts : List (RunStatus × ℕ)) (failures : List RunFailure)
  (rate : ℚ)

theorem runtimeSuccessRate_bounds
    (h : (overviewResponse (overviewAggregates runs) statusCounts
      (evaluationStatusCounts failures)).runtimeSuccessRate = some rate) : 0 ≤ rate ∧ rate ≤ 1 := by
  obtain ⟨hterminal, hrate⟩ := Option.ite_none_right_eq_some.mp h
  cases hrate
  apply share_bounds _ _ _ hterminal
  apply List.countP_mono_left
  intro run _ hsuccess
  exact decide_eq_true (of_decide_eq_true hsuccess).1

theorem behavioralPassRate_bounds
    (h : (overviewResponse (overviewAggregates runs) statusCounts
      (evaluationStatusCounts failures)).behavioralPassRate = some rate) : 0 ≤ rate ∧ rate ≤ 1 := by
  obtain ⟨hjudged, hrate⟩ := Option.ite_none_right_eq_some.mp h
  cases hrate
  exact share_bounds _ _ (Nat.le_add_right _ _) hjudged

end Rates

section Calls
variable (c : Collation) (orders : UsageOrders c) (totalRow : UsageTotals) (calls : List Db.LLMCall)

theorem usageResponse_models (byCallTypeRows : List (LLMCallType × UsageTotals)) :
    ((usageResponse totalRow (orders.models.arrange
      (groupBy (fun call : Db.LLMCall => (call.provider, call.model)) usageTotals calls))
      byCallTypeRows).byModel.map fun part => part.callCount).sum = calls.length := by
  have hsum := (usageTotals_addsUp (fun call : Db.LLMCall => (call.provider, call.model)) _
    orders.models calls).callCount
  rw [List.map_map] at hsum
  rw [usageResponse, List.map_map]
  exact hsum

theorem usageResponse_callTypes (byModelRows : List ((String × String) × UsageTotals)) :
    ((usageResponse totalRow byModelRows (orders.callTypes.arrange
      (groupBy Db.LLMCall.callType usageTotals calls))).byCallType.map
        fun part => part.callCount).sum = calls.length := by
  have hsum := (usageTotals_addsUp Db.LLMCall.callType _ orders.callTypes calls).callCount
  rw [List.map_map] at hsum
  rw [usageResponse, List.map_map]
  exact hsum

end Calls

/-- The responses of three reads against the stores of their first and of the last moment. -/
structure Trailing (params : AnalyticsTimeRangeParams) (first last : Store)
    (overview : OverviewAnalyticsResponse) (usage : UsageAnalyticsResponse)
    (failures : FailureAnalyticsResponse) : Prop where
  runs : overview.runCounts.total = (runsInRange params first).length ∧
    overview.runCounts.total ≤ (overview.runCounts.byStatus.map Prod.snd).sum ∧
    (overview.runCounts.byStatus.map Prod.snd).sum ≤ (runsInRange params last).length
  evaluations : (failuresInRange params first).length ≤ overview.evaluationCounts.total ∧
    overview.evaluationCounts.total ≤ (failuresInRange params last).length ∧
    overview.evaluationCounts.total ≤ (runsInRange params last).length
  calls : usage.total.callCount = (llmCallsInRange params first).length ∧
    usage.total.callCount ≤ (usage.byModel.map fun part => part.callCount).sum ∧
    (usage.byModel.map fun part => part.callCount).sum ≤
      (usage.byCallType.map fun part => part.callCount).sum ∧
    (usage.byCallType.map fun part => part.callCount).sum ≤ (llmCallsInRange params last).length
  verdicts : failures.runCounts.total = (failuresInRange params first).length ∧
    failures.runCounts.total ≤ (failures.runCounts.byOverallStatus.map Prod.snd).sum ∧
    (failures.runCounts.byOverallStatus.map Prod.snd).sum ≤ (failuresInRange params last).length
  runtimeSuccess : ∀ rate, overview.runtimeSuccessRate = some rate → 0 ≤ rate ∧ rate ≤ 1
  behavioralPass : ∀ rate, overview.behavioralPassRate = some rate → 0 ≤ rate ∧ rate ≤ 1

section Analytics
variable {ι : Type} [DecidableEq ι] (server : Server ι) (store : Store) (sessions : ι → RunnerState)
  (hstore : Consistent store) (hready : server.Ready store)
  (before : List (Commit ι Statement Store)) (moments : ℕ → ServerPool ι)
  (hbefore : Server.Goes (server.pool store sessions) before (moments 0))
  (hgoes : ∀ n, ∃ history, Server.Goes (moments n) history (moments (n + 1)))
include hstore hready hbefore hgoes

/-- Three reads whose statements are sent while the server goes on. -/
theorem server_analytics (db : Database)
    (hreads : ∀ n w w', db.backend.verdict n .read w w' = none)
    (params : AnalyticsTimeRangeParams) (usageOrders : UsageOrders db.collation)
    (failureOrders : FailureOrders db.collation) (s₁ s₂ s₃ : DbSession)
    (hstays : ∀ n, StaysInRange params (moments n).shared (moments (n + 1)).shared) :
    ∃ overview usage failures,
      (getOverviewThread db params).seeing committedPart (fun n => (moments n).shared) 0 s₁ =
        .ok overview ∧
      (getUsageThread db params usageOrders).seeing committedPart (fun n => (moments n).shared) 0
        s₂ = .ok usage ∧
      (getFailuresThread db params failureOrders).seeing committedPart
        (fun n => (moments n).shared) 0 s₃ = .ok failures ∧
      Trailing params (moments 0).shared (moments 3).shared overview usage failures := by
  have hgrows (n : ℕ) : Grows (moments n).shared (moments (n + 1)).shared :=
    (moments_change server store sessions hstore hready before moments hbefore hgoes n).grows
  have hruns : Monotone fun n => (runsInRange params (moments n).shared).length :=
    monotone_nat_of_le_succ fun n => runsInRange_grows params _ _ (hgrows n) (hstays n)
  have hfailures : Monotone fun n => (failuresInRange params (moments n).shared).length :=
    monotone_nat_of_le_succ fun n => failuresInRange_grows params _ _ (hgrows n) (hstays n)
  have hcalls : Monotone fun n => (llmCallsInRange params (moments n).shared).length :=
    monotone_nat_of_le_succ fun n => llmCallsInRange_grows params _ _ (hgrows n) (hstays n)
  have hstatuses := runStatusCounts_sum (runsInRange params (moments 1).shared)
  have hverdicts := evaluationStatusCounts_sum (failuresInRange params (moments 1).shared)
  have hevaluated := evaluationStatusCounts_sum (failuresInRange params (moments 2).shared)
  have hjudged := (failuresInRange_le params (moments 2).shared).trans (hruns (Nat.le_succ 2))
  refine ⟨_, _, _,
    getOverviewThread_seeing db hreads params (fun n => (moments n).shared) s₁,
    getUsageThread_seeing db hreads params (fun n => (moments n).shared) s₂ usageOrders,
    getFailuresThread_seeing db hreads params (fun n => (moments n).shared) s₃ failureOrders, ?_⟩
  exact
    { runs := ⟨rfl, (hruns (Nat.zero_le 1)).trans hstatuses.ge,
        hstatuses.le.trans (hruns (by decide))⟩
      evaluations := ⟨(hfailures (Nat.zero_le 2)).trans hevaluated.ge,
        hevaluated.le.trans (hfailures (Nat.le_succ 2)), hevaluated.le.trans hjudged⟩
      calls := by
        rw [usageResponse_models, usageResponse_callTypes]
        exact ⟨rfl, hcalls (Nat.zero_le 1), hcalls (Nat.le_succ 1), hcalls (Nat.le_succ 2)⟩
      verdicts := ⟨rfl, (hfailures (Nat.zero_le 1)).trans hverdicts.ge,
        hverdicts.le.trans (hfailures (by decide))⟩
      runtimeSuccess := runtimeSuccessRate_bounds _ _ _
      behavioralPass := behavioralPassRate_bounds _ _ _ }

end Analytics

theorem unbounded_stays (store store' : Store) : StaysInRange ⟨none, none⟩ store store' :=
  fun _ _ _ _ _ _ => rfl

/- The run of the slot is ingested between the first statement and the second. -/
theorem server_analytics_sample : ∃ overview usage failures,
    (getOverviewThread .plain ⟨none, none⟩).seeing committedPart
      (fun n => (comparedMoments (n + 2)).shared) 0 (Session.fresh comparedStore) = .ok overview ∧
    overview.runCounts.total = 0 ∧ (overview.runCounts.byStatus.map Prod.snd).sum = 1 ∧
    Trailing ⟨none, none⟩ (comparedMoments 2).shared (comparedMoments 5).shared overview usage
      failures := by
  obtain ⟨usageOrders⟩ := usageOrders_nonempty Database.plain.collation
  obtain ⟨failureOrders⟩ := failureOrders_nonempty Database.plain.collation
  obtain ⟨before, hbefore⟩ := moments_reached sampleServer comparedStore _ [] comparedMoments .start
    comparedMoments_goes 2
  obtain ⟨overview, usage, failures, hended, _, _, htrailing⟩ :=
    server_analytics sampleServer comparedStore _ comparedStore_consistent comparedServer_ready
      before (fun n => comparedMoments (n + 2)) hbefore (fun n => comparedMoments_goes (n + 2))
      .plain (fun _ _ _ => rfl) ⟨none, none⟩ usageOrders failureOrders (Session.fresh comparedStore)
      (Session.fresh comparedStore) (Session.fresh comparedStore) fun _ => unbounded_stays _ _
  have hread := getOverviewThread_seeing .plain (fun _ _ _ => rfl) ⟨none, none⟩
    (fun n => (comparedMoments (n + 2)).shared) (Session.fresh comparedStore)
  refine ⟨overview, usage, failures, hended, ?_, ?_, htrailing⟩
  · exact htrailing.runs.1.trans (by decide +kernel)
  · cases hended.symm.trans hread
    exact (runStatusCounts_sum _).trans (by decide +kernel)

end ObsPlatform.Platform
