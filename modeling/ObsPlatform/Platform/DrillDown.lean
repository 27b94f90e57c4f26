import ObsPlatform.Platform.Analytics
import ObsPlatform.Platform.RunPages
import ObsPlatform.Regressions.AcrossRegressions

/-!
# From a figure to its runs

A client that sees a figure of the analytics asks the run list for the runs behind it, with
the same time range and the figure's own key as a filter. Over one store the list then
reports the figure as its total: by status, by verdict and by failure category, and the
models of the usage are those that some run in range has called.
-/

namespace ObsPlatform.Platform

open Telemetry Db UnitOfWork Evaluation Ingestion Routes Stateful
open Regressions (categoryCount)

/-- The run list, asked for the runs of the range. -/
def inRange (page : RunListParams) (params : AnalyticsTimeRangeParams) : RunListParams where
  limit := page.limit
  limit_ge := page.limit_ge
  limit_le := page.limit_le
  offset := page.offset
  startedAfter := params.startedAfter
  startedBefore := params.startedBefore

/-- Whenever the list is read from this store, it reports this total. -/
def ListsTotal (store : Store) (filters : RunListParams) (total : ℕ) : Prop :=
  ∀ (db : Database) (order : OrderBy byStartDescending) (s : DbSession), s.view = store →
    Delivers db.backend (listRuns db order filters) s fun response _ => response.total = total

/-- What the breakdown counts under each of its categories. -/
def failureDistribution (failures : FailureAnalyticsResponse) : List (FailureType × ℕ) :=
  failures.byFailureType.map fun item => (item.failureType, item.count)

structure DrillsDown (store : Store) (page : RunListParams) (params : AnalyticsTimeRangeParams)
    (overview : OverviewAnalyticsResponse) (usage : UsageAnalyticsResponse)
    (failures : FailureAnalyticsResponse) : Prop where
  runs : ListsTotal store (inRange page params) overview.runCounts.total
  statuses : ∀ entry ∈ overview.runCounts.byStatus,
    ListsTotal store { inRange page params with status := some entry.1 } entry.2
  verdicts : ∀ entry ∈ failures.runCounts.byOverallStatus,
    ListsTotal store { inRange page params with overallStatus := some entry.1.value } entry.2
  categories : ∀ category, ListsTotal store { inRange page params with
      overallStatus := some OverallEvaluationStatus.fail.value
      primaryFailureType := some category.value } (categoryCount category (failureDistribution failures))
  models : ∀ model total,
    ListsTotal store { inRange page params with model := some model } total →
      (0 < total ↔ ∃ item ∈ usage.byModel, item.model = model)

theorem overallStatus_value_injective : Function.Injective OverallEvaluationStatus.value := by
  intro a b h
  cases a <;> cases b <;> first | rfl | simp [OverallEvaluationStatus.value] at h

theorem failureType_value_injective : Function.Injective FailureType.value := by
  intro a b h
  cases a <;> cases b <;> first | rfl | simp [FailureType.value] at h

/-! ### The list -/

theorem lists_matching (store : Store) (filters : RunListParams) :
    ListsTotal store filters (matchingRuns filters store).length := by
  intro db order s hs
  apply delivers_mono _ _ s _ _ (delivers_listRuns db order filters s)
  intro response _ hresponse
  rw [hresponse, hs, runPage, filteredRuns_eq, List.length_map]

/-- What the filters of a list come down to. -/
theorem lists_filtered (store : Store) (filters : RunListParams) (p : AgentRun → Bool)
    (hp : ∀ run, runListFilters filters store (judgedRun store run) = p run) :
    ListsTotal store filters (store.agentRuns.rows.filter p).length := by
  have hsame : matchingRuns filters store = store.agentRuns.rows.filter p := by
    apply List.filter_congr
    intro run _
    rw [Bool.eq_iff_iff, decide_eq_true_eq, matches_iff, hp]
  rw [← hsame]
  exact lists_matching store filters

theorem listsTotal_unique (store : Store) (filters : RunListParams) (m n : ℕ)
    (hm : ListsTotal store filters m) (hn : ListsTotal store filters n) : m = n := by
  obtain ⟨order⟩ := OrderBy.nonempty (total_of byStartDescending) fun _ _ _ => trans_of _
  obtain ⟨response, t, hresponse, rfl⟩ :=
    delivers_accepted _ plain_accepts _ _ _ (hm .plain order (Session.fresh store) rfl)
  exact ends_returns _ _ t response _ _ (hn .plain order (Session.fresh store) rfl) hresponse

section Lists
variable (store : Store) (page : RunListParams) (params : AnalyticsTimeRangeParams)

theorem lists_runs : ListsTotal store (inRange page params) (runsInRange params store).length := by
  apply lists_filtered
  intro run
  simp only [runListFilters, inRange, Option.all_none, Bool.true_and]
  rfl

theorem lists_status (status : RunStatus) :
    ListsTotal store { inRange page params with status := some status }
      ((runsInRange params store).countP fun run => run.status = status) := by
  rw [runsInRange, List.countP_filter, List.countP_eq_length_filter]
  apply lists_filtered
  intro run
  simp only [runListFilters, inRange, Option.all_none, Option.all_some, Bool.and_true,
    Bool.and_assoc]
  rfl

/-- The failure rows of the range that pass a filter, counted at their runs. -/
theorem lists_failures (filters : RunListParams) (q : RunFailure → Bool)
    (hq : ∀ run, runListFilters filters store (judgedRun store run) =
      (timeRangeFilters params run && (store.runFailures.find? run.runId).any q)) :
    ListsTotal store filters ((failuresInRange params store).countP q) := by
  have hjoined := length_joined store.agentRuns store.runFailures (timeRangeFilters params) q
  rw [failuresInRange, List.countP_filter, List.countP_eq_length_filter, ← hjoined]
  exact lists_filtered store filters _ hq

theorem lists_verdict (status : OverallEvaluationStatus) :
    ListsTotal store { inRange page params with overallStatus := some status.value }
      (statusCount status (failuresInRange params store)) := by
  apply lists_failures store params
  intro run
  simp only [runListFilters, inRange, Option.all_none, Option.all_some, Bool.and_true, Bool.true_and,
    Bool.and_assoc, overallStatus_value_injective.eq_iff]
  exact Bool.and_comm _ _

theorem lists_category (category : FailureType) :
    ListsTotal store { inRange page params with
        overallStatus := some OverallEvaluationStatus.fail.value
        primaryFailureType := some category.value }
      ((failedRuns (failuresInRange params store)).countP fun failure =>
        failure.primaryCategory = some category) := by
  rw [failedRuns, List.countP_filter]
  apply lists_failures store params
  intro run
  simp only [runListFilters, inRange, Option.all_none, Option.all_some, Bool.and_true, Bool.true_and,
    Bool.and_assoc, overallStatus_value_injective.eq_iff, failureType_value_injective.eq_iff]
  have hany : ∀ failure : RunFailure, (failure.primaryCategory.any fun found => found = category) =
      decide (failure.primaryCategory = some category) := by
    intro failure
    cases failure.primaryCategory <;> simp
  simp only [hany, judgedRun]
  cases store.runFailures.find? run.runId with
  | none => exact (Bool.and_false _).symm
  | some failure =>
    simp only [Option.any_some, timeRangeFilters]
    rw [← Bool.and_assoc, Bool.and_comm (decide _), Bool.and_comm]
    rfl

/-- Some run in range has called the model. -/
theorem lists_model (model : String) (total : ℕ)
    (h : ListsTotal store { inRange page params with model := some model } total) :
    0 < total ↔ ∃ call ∈ llmCallsInRange params store, call.model = model := by
  have htotal := lists_filtered store { inRange page params with model := some model }
    (fun run => calledModel store run.runId model && timeRangeFilters params run) fun run => by
      simp only [runListFilters, inRange, Option.all_none, Option.all_some, Bool.and_true,
        Bool.true_and, Bool.and_assoc]
      rfl
  rw [listsTotal_unique store _ _ _ h htotal, List.length_pos_iff_exists_mem]
  constructor
  · rintro ⟨run, hrun⟩
    obtain ⟨hmem, hcalled⟩ := List.mem_filter.mp hrun
    obtain ⟨hcalled, hrange⟩ := (Bool.and_eq_true _ _).mp hcalled
    obtain ⟨call, hcall, hboth⟩ := List.any_eq_true.mp hcalled
    obtain ⟨hrunId, hmodel⟩ := of_decide_eq_true hboth
    refine ⟨call, List.mem_filter.mpr ⟨hcall, ?_⟩, hmodel⟩
    rw [hrunId, (Table.find?_eq_some_iff store.agentRuns run.runId run).mpr ⟨hmem, rfl⟩]
    exact hrange
  · rintro ⟨call, hcall, hmodel⟩
    obtain ⟨hmem, hany⟩ := List.mem_filter.mp hcall
    obtain ⟨run, hfind, hrange⟩ := (Option.any_eq_true _ _).mp hany
    have hkey := store.agentRuns.key_of_find? call.runId run hfind
    refine ⟨run, List.mem_filter.mpr ⟨store.agentRuns.mem_of_find? _ run hfind, ?_⟩⟩
    rw [hrange, Bool.and_true]
    exact List.any_eq_true.mpr ⟨call, hmem, decide_eq_true ⟨hkey.symm, hmodel⟩⟩

end Lists

/-! ### The figures -/

section Figures
variable (db : Database) (params : AnalyticsTimeRangeParams) (store : Store) (s : DbSession)
  (hs : s.view = store)

include hs

theorem delivers_categories (orders : FailureOrders db.collation) :
    Delivers db.backend (getFailures db orders params) s fun failures _ =>
      failures.runCounts.byOverallStatus =
        evaluationStatusCounts (failuresInRange params store) ∧
      ∀ category, categoryCount category (failureDistribution failures) =
        (failedRuns (failuresInRange params store)).countP fun failure =>
          failure.primaryCategory = some category := by
  apply delivers_bind _ _ _ s _ _ (delivers_read_of db _ store s hs)
  intro evaluatedCount t ht
  apply delivers_bind _ _ _ t _ _ (delivers_read_of db _ store t ht.2)
  intro overallCounts u hu
  apply delivers_bind _ _ _ u _ _ (delivers_read_of db _ store u hu.2)
  intro failureTypeRows v hv
  apply delivers_bind _ _ _ v _ _ (delivers_read_of db _ store v hv.2)
  intro severityRows w _
  apply delivers_of_ok _ _ w w _ _ rfl
  refine ⟨hu.1, fun category => ?_⟩
  have hcount := groupCounts_of_key RunFailure.primaryCategory
    (failedRuns (failuresInRange params store)) _ (orders.failureTypes.perm _) category
  rw [categoryCount, failureDistribution, hv.1, List.map_map, List.filter_map, List.map_map, ← hcount]
  rfl

theorem delivers_models (orders : UsageOrders db.collation) :
    Delivers db.backend (getUsage db orders params) s fun usage _ => ∀ model,
      (∃ item ∈ usage.byModel, item.model = model) ↔
        ∃ call ∈ llmCallsInRange params store, call.model = model := by
  apply delivers_bind _ _ _ s _ _ (delivers_read_of db _ store s hs)
  intro totalRow t ht
  apply delivers_bind _ _ _ t _ _ (delivers_read_of db _ store t ht.2)
  intro byModelRows u hu
  apply delivers_bind _ _ _ u _ _ (delivers_read_of db _ store u hu.2)
  intro byCallTypeRows v _
  apply delivers_of_ok _ _ v v _ _ rfl
  intro model
  rw [hu.1]
  constructor
  · rintro ⟨item, hitem, hmodel⟩
    obtain ⟨row, hrow, rfl⟩ := List.mem_map.mp hitem
    obtain ⟨⟨call, hcall, hkey⟩, _⟩ := (mem_groupBy_iff _ _ _ row.1 row.2).mp
      ((orders.models.perm _).mem_iff.mp hrow)
    exact ⟨call, hcall, (congrArg Prod.snd hkey).trans hmodel⟩
  · rintro ⟨call, hcall, rfl⟩
    have hrow := (mem_groupBy_iff (fun call : Db.LLMCall => (call.provider, call.model)) usageTotals
      _ _ _).mpr ⟨⟨call, hcall, rfl⟩, rfl⟩
    exact ⟨_, List.mem_map.mpr ⟨_, (orders.models.perm _).mem_iff.mpr hrow, rfl⟩, rfl⟩

end Figures

/-- Over one store, the list has the total of each figure a client drills into. -/
theorem figures_drill_down (store : Store) (page : RunListParams)
    (params : AnalyticsTimeRangeParams) (overviewDb usageDb failuresDb : Database)
    (usageOrders : UsageOrders usageDb.collation)
    (failureOrders : FailureOrders failuresDb.collation) (s₁ s₂ s₃ : DbSession)
    (h₁ : s₁.view = store) (h₂ : s₂.view = store) (h₃ : s₃.view = store) :
    Delivers overviewDb.backend (getOverview overviewDb params) s₁ fun overview _ =>
    Delivers usageDb.backend (getUsage usageDb usageOrders params) s₂ fun usage _ =>
    Delivers failuresDb.backend (getFailures failuresDb failureOrders params) s₃ fun failures _ =>
      DrillsDown store page params overview usage failures := by
  apply delivers_mono _ _ s₁ _ _ (delivers_getOverview overviewDb params store s₁ h₁)
  intro overview _ hoverview
  obtain ⟨_, hruns, _⟩ := hoverview
  apply delivers_mono _ _ s₂ _ _ (delivers_models usageDb params store s₂ h₂ usageOrders)
  intro usage _ hmodels
  apply delivers_mono _ _ s₃ _ _ (delivers_categories failuresDb params store s₃ h₃ failureOrders)
  intro failures _ hfailures
  obtain ⟨hverdicts, hcategories⟩ := hfailures
  exact
    { runs := by
        rw [hruns]
        exact lists_runs store page params
      statuses := by
        intro entry hentry
        rw [hruns] at hentry
        obtain ⟨status, _, rfl⟩ := List.mem_map.mp hentry
        exact lists_status store page params status
      verdicts := by
        intro entry hentry
        rw [hverdicts] at hentry
        have heq : entry.2 = statusCount entry.1 (failuresInRange params store) := by
          rcases List.mem_cons.mp hentry with rfl | hentry
          · rfl
          rcases List.mem_cons.mp hentry with rfl | hentry
          · rfl
          rw [List.mem_singleton.mp hentry]
        rw [heq]
        exact lists_verdict store page params entry.1
      categories := by
        intro category
        rw [hcategories]
        exact lists_category store page params category
      models := by
        intro model total htotal
        rw [lists_model store page params model total htotal]
        exact (hmodels model).symm }

/- One ingested run, read by sessions that the server refuses nothing. -/
theorem figures_drill_down_success :
    ∃ store overview usage failures, runsInRange ⟨none, none⟩ store ≠ [] ∧
      (∃ t, getOverview .plain ⟨none, none⟩ (Session.fresh store) = .ok overview t) ∧
      (∃ orders t, getUsage .plain orders ⟨none, none⟩ (Session.fresh store) = .ok usage t) ∧
      (∃ orders t,
        getFailures .plain orders ⟨none, none⟩ (Session.fresh store) = .ok failures t) ∧
      DrillsDown store {} ⟨none, none⟩ overview usage failures := by
  obtain ⟨store, row, _, hrow⟩ := reachable_success
  obtain ⟨usageOrders⟩ := usageOrders_nonempty Collation.codePoints
  obtain ⟨failureOrders⟩ := failureOrders_nonempty Collation.codePoints
  have hdrill := figures_drill_down store {} ⟨none, none⟩ .plain .plain .plain usageOrders
    failureOrders (Session.fresh store) (Session.fresh store) (Session.fresh store) rfl rfl rfl
  obtain ⟨overview, t₁, hoverview, hdrill⟩ := delivers_accepted _ plain_accepts _ _ _ hdrill
  obtain ⟨usage, t₂, husage, hdrill⟩ := delivers_accepted _ plain_accepts _ _ _ hdrill
  obtain ⟨failures, t₃, hfailures, hdrill⟩ := delivers_accepted _ plain_accepts _ _ _ hdrill
  refine ⟨store, overview, usage, failures, ?_, ⟨t₁, hoverview⟩, ⟨usageOrders, t₂, husage⟩,
    ⟨failureOrders, t₃, hfailures⟩, hdrill⟩
  have hmem : row ∈ runsInRange ⟨none, none⟩ store := List.mem_filter.mpr ⟨hrow, rfl⟩
  exact List.ne_nil_of_mem hmem

end ObsPlatform.Platform
