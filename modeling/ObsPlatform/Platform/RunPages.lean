import ObsPlatform.Platform.Ownership
import ObsPlatform.Routes.RunList

/-!
# Paging through the runs

A client reads the pages at offsets 0, limit, 2 * limit, ... of a store that does not
change. Each page is a query of its own and the sort key is the start alone, so the pages
hold every matching run once exactly when none of them ends amid runs that started at the
same time.
-/

namespace ObsPlatform.Platform

open Telemetry Db UnitOfWork Evaluation Routes

/-- What the given filters ask of a stored run and of the rows that belong to it. -/
structure Matches (params : RunListParams) (store : Store) (run : AgentRun) : Prop where
  status : ∀ status ∈ params.status, run.status = status
  scenarioId : ∀ scenarioId ∈ params.scenarioId, run.scenarioId = some scenarioId
  agentVersion : ∀ agentVersion ∈ params.agentVersion, run.agentVersion = agentVersion
  model : ∀ model ∈ params.model,
    ∃ call ∈ store.llmCalls.rows, call.runId = run.runId ∧ call.model = model
  overallStatus : ∀ overallStatus ∈ params.overallStatus,
    ∃ failure ∈ store.runFailures.rows, failure.runId = run.runId ∧
      failure.overallStatus.value = overallStatus
  primaryFailureType : ∀ primaryFailureType ∈ params.primaryFailureType,
    ∃ failure ∈ store.runFailures.rows, failure.runId = run.runId ∧
      ∃ category ∈ failure.primaryCategory, category.value = primaryFailureType
  startedAfter : ∀ after ∈ params.startedAfter, after ≤ run.startedAt
  startedBefore : ∀ before ∈ params.startedBefore, run.startedAt ≤ before

theorem any_find?_iff (store : Store) (runId : String) (p : RunFailure → Bool) :
    (store.runFailures.find? runId).any p = true ↔
      ∃ failure ∈ store.runFailures.rows, failure.runId = runId ∧ p failure = true := by
  constructor
  · intro hany
    obtain ⟨failure, hfind, hp⟩ := (Option.any_eq_true p _).mp hany
    obtain ⟨hmem, hkey⟩ := (Table.find?_eq_some_iff _ runId failure).mp hfind
    exact ⟨failure, hmem, hkey, hp⟩
  · rintro ⟨failure, hmem, hkey, hp⟩
    have hfind := (Table.find?_eq_some_iff store.runFailures runId failure).mpr ⟨hmem, hkey⟩
    rw [hfind]
    exact hp

/-- A run with the row the outer join puts beside it. -/
def judgedRun (store : Store) (run : AgentRun) : JudgedRun :=
  (run, store.runFailures.find? run.runId)

theorem matches_iff (params : RunListParams) (store : Store) (run : AgentRun) :
    Matches params store run ↔ runListFilters params store (judgedRun store run) = true := by
  have hmodel : ∀ model, calledModel store run.runId model = true ↔
      ∃ call ∈ store.llmCalls.rows, call.runId = run.runId ∧ call.model = model := by
    intro model
    simp [calledModel]
  simp only [runListFilters, Bool.and_eq_true, Option.all_eq_true, decide_eq_true_eq]
  simp only [judgedRun, hmodel, any_find?_iff]
  simp only [Option.any_eq_true, decide_eq_true_eq]
  constructor
  · intro h
    exact ⟨⟨⟨⟨⟨⟨⟨h.status, h.scenarioId⟩, h.agentVersion⟩, h.model⟩, h.overallStatus⟩,
      h.primaryFailureType⟩, h.startedAfter⟩, h.startedBefore⟩
  · rintro ⟨⟨⟨⟨⟨⟨⟨hstatus, hscenario⟩, hversion⟩, hmodel⟩, hoverall⟩, hprimary⟩, hafter⟩, hbefore⟩
    exact ⟨hstatus, hscenario, hversion, hmodel, hoverall, hprimary, hafter, hbefore⟩

instance (params : RunListParams) (store : Store) (run : AgentRun) :
    Decidable (Matches params store run) :=
  decidable_of_iff _ (matches_iff params store run).symm

def matchingRuns (params : RunListParams) (store : Store) : List AgentRun :=
  store.agentRuns.rows.filter fun run => Matches params store run

/-- The outer join and the EXISTS neither drop nor repeat a run. -/
theorem filteredRuns_eq (params : RunListParams) (store : Store) :
    filteredRuns params store = (matchingRuns params store).map (judgedRun store) := by
  unfold filteredRuns judgedRuns leftJoin matchingRuns
  rw [List.filter_map]
  congr 1
  apply List.filter_congr
  intro run _
  rw [Bool.eq_iff_iff, decide_eq_true_eq, matches_iff]
  rfl

theorem matchingRuns_unique (params : RunListParams) (store : Store) :
    ((matchingRuns params store).map AgentRun.runId).Nodup :=
  store.agentRuns.unique.sublist (List.filter_sublist.map AgentRun.runId)

/-! ### The listing -/

/-- The request for one page more. -/
def pageParams (params : RunListParams) (k : ℕ) : RunListParams :=
  { params with offset := k * params.limit }

def listed (responses : ℕ → RunListResponse) (pages : ℕ) : List RunSummary :=
  (List.range pages).flatMap fun k => (responses k).items

def summaryOf (store : Store) (run : AgentRun) : RunSummary :=
  runSummaryResponse run (store.runFailures.find? run.runId)

/-- The pages lose and repeat nothing. -/
structure ListsExactly (params : RunListParams) (store : Store)
    (responses : ℕ → RunListResponse) : Prop where
  eachOnce : ∀ pages, (matchingRuns params store).length ≤ pages * params.limit →
    (listed responses pages).Perm ((matchingRuns params store).map (summaryOf store))
  latestFirst : ∀ pages, (listed responses pages).Pairwise fun a b => b.startedAt ≤ a.startedAt
  total : ∀ k, (responses k).total = (matchingRuns params store).length

/-- Every page is returned, and however the server orders the rows of each query, the pages
lose and repeat nothing. -/
structure PagesExact (params : RunListParams) (store : Store) : Prop where
  returned : ∀ (db : Database) (order : OrderBy byStartDescending) (k : ℕ), db.backend.Accepts →
    ∃ response t, listRuns db order (pageParams params k) (Session.fresh store) = .ok response t
  exact : ∀ (db : ℕ → Database) (order : ℕ → OrderBy byStartDescending)
    (responses : ℕ → RunListResponse),
    (∀ k, ∃ t, listRuns (db k) (order k) (pageParams params k) (Session.fresh store) =
      .ok (responses k) t) → ListsExactly params store responses

/-- A page ends amid matching runs that started at the same time. -/
def TiesSplit (params : RunListParams) (store : Store) : Prop :=
  ∃ k, ∃ run ∈ matchingRuns params store,
    (matchingRuns params store).countP (fun other => run.startedAt < other.startedAt) <
      k * params.limit ∧
    k * params.limit <
      (matchingRuns params store).countP fun other => run.startedAt ≤ other.startedAt

section Listing
variable (params : RunListParams) (store : Store)

theorem splitsTies_iff (place : ℕ) :
    SplitsTies byStartDescending (filteredRuns params store) place ↔
      ∃ run ∈ matchingRuns params store,
        (matchingRuns params store).countP (fun other => run.startedAt < other.startedAt) <
          place ∧
        place <
          (matchingRuns params store).countP fun other => run.startedAt ≤ other.startedAt := by
  have hearlier : ∀ run, earlier byStartDescending (filteredRuns params store)
      (judgedRun store run) =
        (matchingRuns params store).countP fun other => run.startedAt < other.startedAt := by
    intro run
    rw [earlier, filteredRuns_eq, List.countP_map]
    apply List.countP_congr
    intro other _
    rw [Function.comp_apply, decide_eq_true_eq, decide_eq_true_eq]
    exact not_le
  have hnotLater : ∀ run, notLater byStartDescending (filteredRuns params store)
      (judgedRun store run) =
        (matchingRuns params store).countP fun other => run.startedAt ≤ other.startedAt := by
    intro run
    rw [notLater, filteredRuns_eq, List.countP_map]
    apply List.countP_congr
    intro other _
    rw [Function.comp_apply, decide_eq_true_eq, decide_eq_true_eq]
    exact Iff.rfl
  constructor
  · rintro ⟨judged, hjudged, hbefore, hafter⟩
    have hrun := hjudged
    rw [filteredRuns_eq] at hrun
    obtain ⟨run, hmem, rfl⟩ := List.mem_map.mp hrun
    rw [hearlier] at hbefore
    rw [hnotLater] at hafter
    exact ⟨run, hmem, hbefore, hafter⟩
  · rintro ⟨run, hmem, hbefore, hafter⟩
    refine ⟨judgedRun store run, ?_, ?_, ?_⟩
    · rw [filteredRuns_eq]
      exact List.mem_map_of_mem hmem
    · rw [hearlier]
      exact hbefore
    · rw [hnotLater]
      exact hafter

variable (db : ℕ → Database) (order : ℕ → OrderBy byStartDescending)
  (responses : ℕ → RunListResponse)
  (hread : ∀ k, ∃ t,
    listRuns (db k) (order k) (pageParams params k) (Session.fresh store) = .ok (responses k) t)
include hread

theorem response_eq (k : ℕ) : responses k = runPage (order k) (pageParams params k) store := by
  obtain ⟨t, ht⟩ := hread k
  exact listRuns_eq (db k) (order k) (pageParams params k) (Session.fresh store) t (responses k) ht

theorem listed_eq (pages : ℕ) : listed responses pages =
    (paged params.limit (fun k => (order k).arrange (filteredRuns params store)) pages).map
      fun judged => runSummaryResponse judged.1 judged.2 := by
  unfold listed paged
  rw [List.map_flatMap]
  congr 1
  funext k
  rw [response_eq params store db order responses hread k]
  rfl

theorem listed_latestFirst (pages : ℕ) :
    (listed responses pages).Pairwise fun a b => b.startedAt ≤ a.startedAt := by
  rw [listed_eq params store db order responses hread, List.pairwise_map]
  exact paged_sorted byStartDescending (filteredRuns params store) params.limit _
    (fun k => (order k).perm _) (fun k => (order k).sorted _) pages

theorem response_total (k : ℕ) : (responses k).total = (matchingRuns params store).length := by
  rw [response_eq params store db order responses hread k]
  change (filteredRuns params store).length = _
  rw [filteredRuns_eq, List.length_map]

theorem listed_perm (hties : ¬ TiesSplit params store) (pages : ℕ)
    (hpages : (matchingRuns params store).length ≤ pages * params.limit) :
    (listed responses pages).Perm ((matchingRuns params store).map (summaryOf store)) := by
  have hends : ∀ k, ¬ SplitsTies byStartDescending (filteredRuns params store)
      (k * params.limit) := by
    intro k hsplit
    exact hties ⟨k, (splitsTies_iff params store _).mp hsplit⟩
  have hlength : (filteredRuns params store).length ≤ pages * params.limit := by
    rw [filteredRuns_eq, List.length_map]
    exact hpages
  have hperm := paged_perm byStartDescending (filteredRuns params store) params.limit
    (fun k => (order k).arrange (filteredRuns params store)) (fun k => (order k).perm _)
    (fun k => (order k).sorted _) hends pages hlength
  rw [listed_eq params store db order responses hread]
  have hsummaries : (filteredRuns params store).map
      (fun judged => runSummaryResponse judged.1 judged.2) =
        (matchingRuns params store).map (summaryOf store) := by
    rw [filteredRuns_eq, List.map_map]
    rfl
  rw [← hsummaries]
  exact hperm.map _

end Listing

theorem page_returned (params : RunListParams) (store : Store) (db : Database)
    (order : OrderBy byStartDescending) (k : ℕ) (hdb : db.backend.Accepts) :
    ∃ response t,
      listRuns db order (pageParams params k) (Session.fresh store) = .ok response t := by
  obtain ⟨response, t, hread, _⟩ := delivers_accepted db.backend hdb _ _ _
    (delivers_listRuns db order (pageParams params k) (Session.fresh store))
  exact ⟨response, t, hread⟩

/-- Where a page ends amid ties, the server may show a run on that page and again on the
next. -/
theorem ties_split_inexact (params : RunListParams) (store : Store)
    (hties : TiesSplit params store) : ¬ PagesExact params store := by
  intro hexact
  obtain ⟨k, hsplit⟩ := hties
  obtain ⟨otherwise⟩ := OrderBy.nonempty (total_of byStartDescending)
    fun a b c => IsTrans.trans (r := byStartDescending) a b c
  obtain ⟨arrangements, hperm, hsorted, judged, j, hj, hjudgedj, hjudgedk⟩ :=
    split_repeats byStartDescending (filteredRuns params store)
      (otherwise.arrange (filteredRuns params store)) (otherwise.perm _) (otherwise.sorted _)
      (k * params.limit) ((splitsTies_iff params store _).mpr hsplit) params.limit k rfl
  choose order horder using fun k => OrderBy.exists_arranging byStartDescending
    (filteredRuns params store) (arrangements k) (hperm k) (hsorted k)
  choose responses t hread using fun k =>
    page_returned params store .plain (order k) k plain_accepts
  have hlisted := hexact.exact (fun _ => .plain) order responses fun k => ⟨t k, hread k⟩
  -- Enough pages to have read every run and to include both pages that hold the tied one.
  have hlimit := params.limit_ge
  have hpages : (matchingRuns params store).length ≤
      ((matchingRuns params store).length + k + 1) * params.limit := by
    nlinarith
  have honce := (hlisted.eachOnce _ hpages).map RunSummary.runId
  have hids : ((matchingRuns params store).map (summaryOf store)).map RunSummary.runId =
      (matchingRuns params store).map AgentRun.runId := by
    rw [List.map_map]
    rfl
  rw [hids] at honce
  have hnodup := honce.nodup_iff.mpr (matchingRuns_unique params store)
  rw [listed_eq params store (fun _ => .plain) order responses (fun k => ⟨t k, hread k⟩),
    List.map_map] at hnodup
  have hpaged := hnodup.of_map
  simp only [horder] at hpaged
  exact paged_not_nodup params.limit arrangements _ j k hj (by omega) judged hjudgedj hjudgedk
    hpaged

theorem unsplit_exact (params : RunListParams) (store : Store) (hties : ¬ TiesSplit params store) :
    PagesExact params store := by
  refine ⟨page_returned params store, ?_⟩
  intro db order responses hread
  exact ⟨listed_perm params store db order responses hread hties,
    listed_latestFirst params store db order responses hread,
    response_total params store db order responses hread⟩

/-- The pages of an unchanged store lose and repeat nothing, however the server orders each
query, if and only if none of them ends amid matching runs of the same start. -/
theorem run_pages_exact_iff (params : RunListParams) (store : Store) :
    PagesExact params store ↔ ¬ TiesSplit params store := by
  constructor
  · intro hexact hties
    exact ties_split_inexact params store hties hexact
  · exact unsplit_exact params store

/-! ### Runs of different starts -/

theorem countP_noEarlier (runs : List AgentRun) (start : Timestamp) :
    runs.countP (fun other => start ≤ other.startedAt) =
      runs.countP (fun other => start < other.startedAt) +
        (runs.map AgentRun.startedAt).count start := by
  induction runs with
  | nil => rfl
  | cons run runs ih =>
    rw [List.countP_cons, List.countP_cons, List.map_cons, List.count_cons, ih]
    rcases lt_trichotomy start run.startedAt with hstart | hstart | hstart
    · simp [hstart, hstart.le, hstart.ne']
      omega
    · simp [hstart]
      omega
    · simp [not_le.mpr hstart, not_lt.mpr hstart.le, hstart.ne]

/-- Runs that all started at different times are paged exactly at any limit. -/
theorem distinct_starts_exact (params : RunListParams) (store : Store)
    (hdistinct : ((matchingRuns params store).map AgentRun.startedAt).Nodup) :
    PagesExact params store := by
  apply unsplit_exact
  rintro ⟨k, run, _, hbefore, hafter⟩
  have hcount := countP_noEarlier (matchingRuns params store) run.startedAt
  have honce := List.nodup_iff_count_le_one.mp hdistinct run.startedAt
  omega

/-! ### Two runs of the same start -/

def tiedRuns : Store :=
  served .plain (.ingest (successEvent "run-2") (successEvent_validated "run-2"))
    (served .plain (.ingest (successEvent "run-1") (successEvent_validated "run-1")) Store.empty)

def oneEach : RunListParams := { limit := 1 }

theorem same_start_split :
    Reachable tiedRuns ∧ (matchingRuns oneEach tiedRuns).map AgentRun.runId = ["run-1", "run-2"] ∧
      ¬ PagesExact oneEach tiedRuns := by
  refine ⟨.request _ (.request _ .empty _ _) _ _, by decide +kernel, ?_⟩
  apply ties_split_inexact
  refine ⟨1, ?_⟩
  decide +kernel

end ObsPlatform.Platform
