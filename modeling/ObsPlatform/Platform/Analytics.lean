import ObsPlatform.Platform.Usage
import ObsPlatform.Routes.Analytics

/-!
# The analytics endpoints against one another

The overview sums the totals that the runs carry; usage and tools group the calls of the
same runs. A run's totals are those of its stored calls, and a join on the run's key counts
each call once, so the endpoints report the same figures.
-/

namespace ObsPlatform.Platform

open Telemetry Db UnitOfWork Evaluation Ingestion Routes Stateful

/-- The parts of a breakdown add up to its total. -/
structure AddsUp (total : UsageTotals) (parts : List UsageTotals) : Prop where
  callCount : (parts.map UsageTotals.callCount).sum = total.callCount
  promptTokens : (parts.map UsageTotals.promptTokens).sum = total.promptTokens
  completionTokens : (parts.map UsageTotals.completionTokens).sum = total.completionTokens
  totalTokens : (parts.map UsageTotals.totalTokens).sum = total.totalTokens

/-- What the four responses over the same runs have in common. -/
structure Agreeing (runs : List AgentRun) (overview : OverviewAnalyticsResponse)
    (usage : UsageAnalyticsResponse) (tools : ToolAnalyticsResponse)
    (failures : FailureAnalyticsResponse) : Prop where
  tokens : overview.usageTotalTokens = usage.total.totalTokens
  byModel : AddsUp usage.total (usage.byModel.map ModelUsageBreakdown.toUsageTotals)
  byCallType : AddsUp usage.total (usage.byCallType.map CallTypeUsageBreakdown.toUsageTotals)
  llmCalls : (usage.total.callCount : ℤ) = (runs.map AgentRun.usageTotalLlmCalls).sum
  toolCalls : ((tools.items.map ToolStats.callCount).sum : ℤ) =
    (runs.map AgentRun.usageTotalToolCalls).sum
  tool : ∀ item ∈ tools.items,
    item.callCount = item.successCount + item.failureCount + item.errorCount
  statuses : (overview.runCounts.byStatus.map Prod.snd).sum = overview.runCounts.total
  evaluations : overview.evaluationCounts.total = failures.runCounts.total
  verdicts : overview.evaluationCounts.byOverallStatus = failures.runCounts.byOverallStatus

/-! ### Grouped figures -/

theorem sum_arranged {κ γ M : Type} [AddCommMonoid M] (le : κ × γ → κ × γ → Prop)
    (order : OrderBy le) (measure : γ → M) (groups : List (κ × γ)) :
    ((order.arrange groups).map fun group => measure group.2).sum =
      (groups.map fun group => measure group.2).sum :=
  ((order.perm groups).map fun group => measure group.2).sum_eq

theorem usageTotals_addsUp {κ : Type} [DecidableEq κ] (key : Db.LLMCall → κ)
    (le : κ × UsageTotals → κ × UsageTotals → Prop) (order : OrderBy le)
    (calls : List Db.LLMCall) :
    AddsUp (usageTotals calls)
      ((order.arrange (groupBy key usageTotals calls)).map Prod.snd) := by
  have hsum : ∀ {M : Type} [AddCommMonoid M] (measure : UsageTotals → M) (f : Db.LLMCall → M),
      (∀ group, measure (usageTotals group) = (group.map f).sum) →
        (((order.arrange (groupBy key usageTotals calls)).map Prod.snd).map measure).sum =
          measure (usageTotals calls) := by
    intro M _ measure f hmeasure
    have harranged := sum_arranged le order measure (groupBy key usageTotals calls)
    have hgroups := sum_groupBy key usageTotals measure f hmeasure calls
    rw [List.map_map, hmeasure calls, ← hgroups, ← harranged]
    rfl
  exact
    { callCount := hsum UsageTotals.callCount (fun _ => 1) fun group => by simp [usageTotals]
      promptTokens := hsum UsageTotals.promptTokens (fun call => call.promptTokens.getD 0)
        (sum_filterMap Db.LLMCall.promptTokens)
      completionTokens := hsum UsageTotals.completionTokens
        (fun call => call.completionTokens.getD 0) (sum_filterMap Db.LLMCall.completionTokens)
      totalTokens := hsum UsageTotals.totalTokens (fun call => call.totalTokens.getD 0)
        (sum_filterMap Db.LLMCall.totalTokens) }

theorem toolAggregates_adds (calls : List Db.ToolCall) :
    (toolAggregates calls).callCount = (toolAggregates calls).successCount +
      (toolAggregates calls).failureCount + (toolAggregates calls).errorCount := by
  have hkeys : ∀ call ∈ calls, call.status ∈ [ExecutionStatus.success, .failure, .error] := by
    intro call _
    cases call.status <;> decide
  have hsum := sum_countP_keys Db.ToolCall.status [.success, .failure, .error] (by decide) calls
    hkeys
  simp only [List.map_cons, List.map_nil, List.sum_cons, List.sum_nil] at hsum
  simp only [toolAggregates]
  omega

section Tools
variable (le : String × ToolAggregates → String × ToolAggregates → Prop) (order : OrderBy le)
  (calls : List Db.ToolCall)

theorem toolStats_sum :
    (((order.arrange (groupBy Db.ToolCall.toolName toolAggregates calls)).map toolStats).map
      ToolStats.callCount).sum = calls.length := by
  have hgroups := sum_groupBy Db.ToolCall.toolName toolAggregates ToolAggregates.callCount
    (fun _ => 1) (fun group => by simp [toolAggregates]) calls
  have harranged := sum_arranged le order ToolAggregates.callCount
    (groupBy Db.ToolCall.toolName toolAggregates calls)
  have hlength : (calls.map fun _ => 1).sum = calls.length := by simp
  rw [List.map_map, ← hlength, ← hgroups, ← harranged]
  rfl

theorem toolStats_adds (item : ToolStats)
    (hitem : item ∈
      (order.arrange (groupBy Db.ToolCall.toolName toolAggregates calls)).map toolStats) :
    item.callCount = item.successCount + item.failureCount + item.errorCount := by
  obtain ⟨row, hrow, rfl⟩ := List.mem_map.mp hitem
  have hgroup := (order.perm _).mem_iff.mp hrow
  obtain ⟨_, hrow⟩ := (mem_groupBy_iff _ _ _ row.1 row.2).mp hgroup
  simp only [toolStats, hrow]
  exact toolAggregates_adds _

end Tools

theorem runStatusCounts_sum (runs : List AgentRun) :
    ((runStatusCounts runs).map Prod.snd).sum = runs.length := by
  have hkeys : ∀ run ∈ runs,
      run.status ∈ [RunStatus.success, .toolError, .runtimeError, .awaitingApproval] := by
    intro run _
    cases run.status <;> decide
  have hsum := sum_countP_keys AgentRun.status
    [.success, .toolError, .runtimeError, .awaitingApproval] (by decide) runs hkeys
  rw [runStatusCounts, List.map_map, ← hsum]
  rfl

theorem evaluationStatusCounts_sum (failures : List RunFailure) :
    ((evaluationStatusCounts failures).map Prod.snd).sum = failures.length := by
  have hkeys : ∀ failure ∈ failures,
      failure.overallStatus ∈ [OverallEvaluationStatus.pass, .fail, .incomplete] := by
    intro failure _
    cases failure.overallStatus <;> decide
  have hsum := sum_countP_keys RunFailure.overallStatus [.pass, .fail, .incomplete] (by decide)
    failures hkeys
  rw [← hsum]
  rfl

/-! ### Carried totals against stored calls -/

section Carried
variable (store : Store) (h : UsageTotalsExact store) (params : AnalyticsTimeRangeParams)
include h

theorem carried_of_mem (run : AgentRun) (hrun : run ∈ runsInRange params store) :
    UsageExact store run :=
  (usageExact_iff store run).mpr (h run (List.mem_of_mem_filter hrun))

theorem carried_tokens : ((runsInRange params store).map AgentRun.usageTotalTokens).sum =
    (usageTotals (llmCallsInRange params store)).totalTokens := by
  have hjoin := sum_semiJoin store.agentRuns Db.LLMCall.runId (timeRangeFilters params)
    (fun call => call.totalTokens.getD 0) store.llmCalls.rows
  have htotal := sum_filterMap Db.LLMCall.totalTokens (llmCallsInRange params store)
  rw [show (usageTotals (llmCallsInRange params store)).totalTokens = _ from htotal,
    llmCallsInRange, ← hjoin]
  congr 1
  apply List.map_congr_left
  intro run hrun
  rw [(carried_of_mem store h params run hrun).tokens, sum_filterMap]

theorem carried_llmCalls : ((runsInRange params store).map AgentRun.usageTotalLlmCalls).sum =
    ((llmCallsInRange params store).length : ℤ) := by
  have hjoin := sum_semiJoin store.agentRuns Db.LLMCall.runId (timeRangeFilters params)
    (fun _ => (1 : ℤ)) store.llmCalls.rows
  have hlength : ((llmCallsInRange params store).length : ℤ) =
      ((llmCallsInRange params store).map fun _ => (1 : ℤ)).sum := by simp
  rw [hlength, llmCallsInRange, ← hjoin]
  congr 1
  apply List.map_congr_left
  intro run hrun
  rw [(carried_of_mem store h params run hrun).llmCalls]
  simp

theorem carried_toolCalls : ((runsInRange params store).map AgentRun.usageTotalToolCalls).sum =
    ((toolCallsInRange params store).length : ℤ) := by
  have hjoin := sum_semiJoin store.agentRuns Db.ToolCall.runId (timeRangeFilters params)
    (fun _ => (1 : ℤ)) store.toolCalls.rows
  have hlength : ((toolCallsInRange params store).length : ℤ) =
      ((toolCallsInRange params store).map fun _ => (1 : ℤ)).sum := by simp
  rw [hlength, toolCallsInRange, ← hjoin]
  congr 1
  apply List.map_congr_left
  intro run hrun
  rw [(carried_of_mem store h params run hrun).toolCalls]
  simp

end Carried

/-! ### What each endpoint delivers -/

section Endpoints
variable (db : Database) (params : AnalyticsTimeRangeParams) (store : Store) (s : DbSession)
  (hs : s.view = store)
include hs

theorem delivers_getOverview :
    Delivers db.backend (getOverview db params) s fun overview _ =>
      overview.usageTotalTokens = ((runsInRange params store).map AgentRun.usageTotalTokens).sum ∧
      overview.runCounts = ⟨(runsInRange params store).length,
        runStatusCounts (runsInRange params store)⟩ ∧
      overview.evaluationCounts = ⟨(failuresInRange params store).length,
        evaluationStatusCounts (failuresInRange params store)⟩ := by
  apply delivers_bind _ _ _ s _ _ (delivers_read_of db _ store s hs)
  intro aggregateRow t ht
  apply delivers_bind _ _ _ t _ _ (delivers_read_of db _ store t ht.2)
  intro statusCounts u hu
  apply delivers_bind _ _ _ u _ _ (delivers_read_of db _ store u hu.2)
  intro evaluationCounts v hv
  apply delivers_of_ok _ _ v v _ _ rfl
  obtain ⟨rfl, _⟩ := ht
  obtain ⟨rfl, _⟩ := hu
  obtain ⟨rfl, _⟩ := hv
  have htotal := evaluationStatusCounts_sum (failuresInRange params store)
  exact ⟨rfl, rfl, by rw [htotal]⟩

theorem delivers_getTools (order : OrderBy (byCallCountThenTool db.collation)) :
    Delivers db.backend (getTools db order params) s fun tools _ =>
      tools.items = (order.arrange (groupBy Db.ToolCall.toolName toolAggregates
        (toolCallsInRange params store))).map toolStats := by
  apply delivers_bind _ _ _ s _ _ (delivers_read_of db _ store s hs)
  intro rows t ht
  apply delivers_of_ok _ _ t t _ _ rfl
  rw [ht.1]

theorem delivers_getUsage (orders : UsageOrders db.collation) :
    Delivers db.backend (getUsage db orders params) s fun usage _ =>
      usage.total = usageTotals (llmCallsInRange params store) ∧
      AddsUp usage.total (usage.byModel.map ModelUsageBreakdown.toUsageTotals) ∧
      AddsUp usage.total (usage.byCallType.map CallTypeUsageBreakdown.toUsageTotals) := by
  apply delivers_bind _ _ _ s _ _ (delivers_read_of db _ store s hs)
  intro totalRow t ht
  apply delivers_bind _ _ _ t _ _ (delivers_read_of db _ store t ht.2)
  intro byModelRows u hu
  apply delivers_bind _ _ _ u _ _ (delivers_read_of db _ store u hu.2)
  intro byCallTypeRows v hv
  apply delivers_of_ok _ _ v v _ _ rfl
  obtain ⟨rfl, _⟩ := ht
  obtain ⟨rfl, _⟩ := hu
  obtain ⟨rfl, _⟩ := hv
  have hmodels := usageTotals_addsUp (fun call : Db.LLMCall => (call.provider, call.model)) _
    orders.models (llmCallsInRange params store)
  have hcallTypes := usageTotals_addsUp Db.LLMCall.callType _ orders.callTypes
    (llmCallsInRange params store)
  refine ⟨rfl, ?_, ?_⟩
  · simp only [List.map_map]
    exact hmodels
  · simp only [List.map_map]
    exact hcallTypes

theorem delivers_getFailures (orders : FailureOrders db.collation) :
    Delivers db.backend (getFailures db orders params) s fun failures _ =>
      failures.runCounts = ⟨(failuresInRange params store).length,
        evaluationStatusCounts (failuresInRange params store)⟩ := by
  apply delivers_bind _ _ _ s _ _ (delivers_read_of db _ store s hs)
  intro evaluatedCount t ht
  apply delivers_bind _ _ _ t _ _ (delivers_read_of db _ store t ht.2)
  intro overallCounts u hu
  apply delivers_bind _ _ _ u _ _ (delivers_read_of db _ store u hu.2)
  intro failureTypeRows v hv
  apply delivers_bind _ _ _ v _ _ (delivers_read_of db _ store v hv.2)
  intro severityRows w _
  apply delivers_of_ok _ _ w w _ _ rfl
  rw [ht.1, hu.1]

end Endpoints

/-! ### The endpoints agree -/

/-- In every reachable store and for every range, the four endpoints report figures that
agree, each over a session that reads this store. -/
theorem analytics_agree (store : Store) (h : Reachable store) (params : AnalyticsTimeRangeParams)
    (overviewDb usageDb toolsDb failuresDb : Database)
    (usageOrders : UsageOrders usageDb.collation)
    (toolOrder : OrderBy (byCallCountThenTool toolsDb.collation))
    (failureOrders : FailureOrders failuresDb.collation) (s₁ s₂ s₃ s₄ : DbSession)
    (h₁ : s₁.view = store) (h₂ : s₂.view = store) (h₃ : s₃.view = store) (h₄ : s₄.view = store) :
    Delivers overviewDb.backend (getOverview overviewDb params) s₁ fun overview _ =>
    Delivers usageDb.backend (getUsage usageDb usageOrders params) s₂ fun usage _ =>
    Delivers toolsDb.backend (getTools toolsDb toolOrder params) s₃ fun tools _ =>
    Delivers failuresDb.backend (getFailures failuresDb failureOrders params) s₄ fun failures _ =>
      Agreeing (runsInRange params store) overview usage tools failures := by
  have hexact := reachable_invariant UsageTotalsExact usageTotalsExact_invariant store h
  apply delivers_mono _ _ s₁ _ _ (delivers_getOverview overviewDb params store s₁ h₁)
  intro overview _ hoverview
  obtain ⟨htokens, hruns, hevaluations⟩ := hoverview
  apply delivers_mono _ _ s₂ _ _ (delivers_getUsage usageDb params store s₂ h₂ usageOrders)
  intro usage _ husage
  obtain ⟨htotal, hmodels, hcallTypes⟩ := husage
  apply delivers_mono _ _ s₃ _ _ (delivers_getTools toolsDb params store s₃ h₃ toolOrder)
  intro tools _ htools
  apply delivers_mono _ _ s₄ _ _ (delivers_getFailures failuresDb params store s₄ h₄ failureOrders)
  intro failures _ hfailures
  exact
    { tokens := by rw [htokens, htotal, carried_tokens store hexact params]
      byModel := hmodels
      byCallType := hcallTypes
      llmCalls := by
        rw [htotal, carried_llmCalls store hexact params]
        rfl
      toolCalls := by
        rw [carried_toolCalls store hexact params, htools, toolStats_sum]
      tool := by
        intro item hitem
        rw [htools] at hitem
        exact toolStats_adds _ toolOrder _ item hitem
      statuses := by rw [hruns, runStatusCounts_sum]
      evaluations := by rw [hevaluations, hfailures]
      verdicts := by rw [hevaluations, hfailures] }

/- One ingested run, read by sessions that the server refuses nothing. -/
theorem analytics_agree_success :
    ∃ store overview usage tools failures, Reachable store ∧
      runsInRange ⟨none, none⟩ store ≠ [] ∧
      (∃ t, getOverview .plain ⟨none, none⟩ (Session.fresh store) = .ok overview t) ∧
      (∃ orders t, getUsage .plain orders ⟨none, none⟩ (Session.fresh store) = .ok usage t) ∧
      (∃ order t, getTools .plain order ⟨none, none⟩ (Session.fresh store) = .ok tools t) ∧
      (∃ orders t,
        getFailures .plain orders ⟨none, none⟩ (Session.fresh store) = .ok failures t) ∧
      Agreeing (runsInRange ⟨none, none⟩ store) overview usage tools failures := by
  obtain ⟨store, row, hreach, hrow⟩ := reachable_success
  obtain ⟨usageOrders⟩ := usageOrders_nonempty Collation.codePoints
  obtain ⟨toolOrder⟩ := toolOrder_nonempty Collation.codePoints
  obtain ⟨failureOrders⟩ := failureOrders_nonempty Collation.codePoints
  have hagree := analytics_agree store hreach ⟨none, none⟩ .plain .plain .plain .plain usageOrders
    toolOrder failureOrders (Session.fresh store) (Session.fresh store) (Session.fresh store)
    (Session.fresh store) rfl rfl rfl rfl
  obtain ⟨overview, t₁, hoverview, hagree⟩ := delivers_accepted _ plain_accepts _ _ _ hagree
  obtain ⟨usage, t₂, husage, hagree⟩ := delivers_accepted _ plain_accepts _ _ _ hagree
  obtain ⟨tools, t₃, htools, hagree⟩ := delivers_accepted _ plain_accepts _ _ _ hagree
  obtain ⟨failures, t₄, hfailures, hagree⟩ := delivers_accepted _ plain_accepts _ _ _ hagree
  refine ⟨store, overview, usage, tools, failures, hreach, ?_, ⟨t₁, hoverview⟩,
    ⟨usageOrders, t₂, husage⟩, ⟨toolOrder, t₃, htools⟩, ⟨failureOrders, t₄, hfailures⟩, hagree⟩
  have hmem : row ∈ runsInRange ⟨none, none⟩ store := List.mem_filter.mpr ⟨hrow, rfl⟩
  exact List.ne_nil_of_mem hmem

end ObsPlatform.Platform
