import ObsPlatform.Platform.Enforced
import ObsPlatform.Platform.Repeatable
import ObsPlatform.Regressions.Slices

/-!
# How often a regression counts a run

The evaluator figures of a regression are counts of result rows, of the runs linked to it
now. A row keeps the regression run id its run had when it was written, and only rows of one
regression run id are unique for an evaluator. A run whose rows are all of its present
linkage is counted once; one evaluated before it was linked can be counted twice.
-/

namespace ObsPlatform.Platform

open Telemetry Db UnitOfWork Evaluation Ingestion Stateful Regressions

def runResults (runId : String) (store : Store) : List Db.EvaluationResult :=
  store.evaluationResults.filter fun row => row.runId = runId

/-- The regression run id that an evaluation of the run reads. -/
def regressionOf (runId : String) (store : Store) : Option ℕ :=
  (store.agentRuns.find? runId).bind AgentRun.regressionRunId

def OneEach (runId : String) (store : Store) : Prop :=
  ((runResults runId store).map Db.EvaluationResult.evaluatorName).Nodup

/-- Each linked run has at most one result of an evaluator. -/
def CountedOnce (store : Store) : Prop :=
  ∀ runId regressionRunId, regressionOf runId store = some regressionRunId → OneEach runId store

/-! ### Which requests count a run once -/

/-- A further result of one of these evaluators clashes with every one that the run has. -/
structure ClashesOnly (runId : String) (regressionRunId : ℕ) (evaluators : List Evaluator)
    (rows : List Db.EvaluationResult) : Prop where
  oneVersion : ∀ evaluator ∈ evaluators, ∀ other ∈ evaluators,
    evaluator.name = other.name → evaluator.version = other.version
  stored : ∀ evaluator ∈ evaluators, ∀ row ∈ rows, row.runId = runId →
    row.evaluatorName = evaluator.name →
      row.evaluatorVersion = evaluator.version ∧ row.regressionRunId = some regressionRunId

/-- A run is linked while it has one result of an evaluator at most, and a linked run is
evaluated while its results are of its present linkage. -/
def KeepsCount (store : Store) : Request → Prop
  | .ingest _ _ => True
  | .link runId _ _ _ => OneEach runId store
  | .evaluate _ evaluators runId => ∀ regressionRunId,
      regressionOf runId store = some regressionRunId →
        ClashesOnly runId regressionRunId evaluators store.evaluationResults

/-- Requests that meet a condition, each on a server that enforces the constraints, between
which regression_runs rows appear and change under them. -/
inductive EnforcedRun (P : Store → Request → Prop) : Store → Prop where
  | empty : EnforcedRun P Store.empty
  | request (store : Store) (h : EnforcedRun P store) (db : Database) (hdb : Enforces db)
      (request : Request) (hrequest : P store request) : EnforcedRun P (served db request store)
  | regressionRuns (store : Store) (h : EnforcedRun P store)
      (regressionRuns : Table RegressionRun.id)
      (hconsistent : Store.Consistent { store with regressionRuns := regressionRuns }) :
      EnforcedRun P { store with regressionRuns := regressionRuns }

/-! ### Each request -/

theorem oneEach_congr (runId : String) (store store' : Store)
    (h : store'.evaluationResults = store.evaluationResults) (hone : OneEach runId store) :
    OneEach runId store' := by
  rw [OneEach, runResults, h]
  exact hone

/-- An ingestion of a linked run leaves it linked to the same regression, and a new run is
not linked. -/
theorem ingest_regressionOf (event : ExtendedRunEvent) (now : Timestamp) (store store' : Store)
    (h : ingestEffect event now store = .ok store') (runId : String) :
    regressionOf runId store' = regressionOf runId store := by
  rw [regressionOf, regressionOf, ingestEffect_agentRuns event now store store' h runId]
  by_cases hrun : runId = event.runId
  · rw [if_pos hrun, hrun]
    cases store.agentRuns.find? event.runId with
    | none => rfl
    | some row => rfl
  · rw [if_neg hrun]

theorem ingest_countedOnce (db : Database) (event : ExtendedRunEvent) (validated : Validated event)
    (store : Store) (h : CountedOnce store) :
    CountedOnce (served db (.ingest event validated) store) := by
  rcases served_ingest db event validated store with hsame | ⟨now, heffect⟩
  · rw [hsame]
    exact h
  · intro runId regressionRunId hlinked
    rw [ingest_regressionOf event now store _ heffect runId] at hlinked
    have hingested := ingestEffect_ingested event now store _ heffect
      ((validated_iff event).mp validated).1
    exact oneEach_congr runId store _ hingested.evaluationResults (h runId regressionRunId hlinked)

theorem link_countedOnce (db : Database) (runId : String) (regressionRunId : ℕ)
    (scenarioId : String) (repetitionIndex : ℕ) (store : Store) (h : CountedOnce store)
    (hone : OneEach runId store) :
    CountedOnce (served db (.link runId regressionRunId scenarioId repetitionIndex) store) := by
  have hsound := sound_persistRegressionLinkage
    (fun w => w.evaluationResults = store.evaluationResults ∧ CountedOnce w) db runId
    regressionRunId scenarioId repetitionIndex (by
      intro now w hw
      obtain ⟨hresults, hw⟩ := hw
      refine ⟨hresults, ?_⟩
      intro other otherRegression hlinked
      by_cases hrun : other = runId
      · rw [hrun]
        exact oneEach_congr runId store _ hresults hone
      · rw [regressionOf, updateLinkage_find?, if_neg hrun] at hlinked
        exact hw other otherRegression hlinked)
  exact (hsound (Session.fresh store) (sound_fresh _ store ⟨rfl, h⟩)).1.2

/-- An accepted result of a linked run is the first one of its evaluator. -/
theorem insert_countedOnce (runId : String) (regressionRunId : Option ℕ)
    (evaluators : List Evaluator) (evaluator : Evaluator) (hlisted : evaluator ∈ evaluators)
    (row : Db.EvaluationResult) (store : Store)
    (hrow : row.runId = runId ∧ row.evaluatorName = evaluator.name ∧
      row.evaluatorVersion = evaluator.version ∧ row.regressionRunId = regressionRunId)
    (hunclashed : Unclashed Db.EvaluationResult.slot store.evaluationResults row)
    (hclashes : ∀ k, regressionRunId = some k →
      ClashesOnly runId k evaluators store.evaluationResults)
    (k : ℕ) (hk : regressionRunId = some k) (hone : OneEach runId store) :
    ((runResults runId store ++ [row]).map Db.EvaluationResult.evaluatorName).Nodup := by
  obtain ⟨hrun, hname, hversion, hregression⟩ := hrow
  rw [List.map_append, List.nodup_append]
  refine ⟨hone, List.nodup_singleton _, ?_⟩
  intro name hold other hnew heq
  obtain ⟨old, holdRow, rfl⟩ := List.mem_map.mp hold
  obtain ⟨hmem, holdRun⟩ := List.mem_filter.mp holdRow
  have holdRun : old.runId = runId := of_decide_eq_true holdRun
  rw [List.map_singleton, List.mem_singleton] at hnew
  rw [hnew, hname] at heq
  obtain ⟨holdVersion, holdRegression⟩ :=
    (hclashes k hk).stored evaluator hlisted old hmem holdRun heq
  have holdSlot := (slot_eq_some_iff old runId evaluator.name evaluator.version k).mpr
    ⟨holdRun, heq, holdVersion, holdRegression⟩
  have hslot := (slot_eq_some_iff row runId evaluator.name evaluator.version k).mpr
    ⟨hrun, hname, hversion, hregression.trans hk⟩
  exact hunclashed old hmem _ holdSlot hslot

/-- What holds of the store all through an evaluation of the run. -/
structure Evaluating (store : Store) (runId : String) (evaluators : List Evaluator) (w : Store) :
    Prop where
  runs : w.agentRuns = store.agentRuns
  counted : CountedOnce w
  clashes : ∀ regressionRunId, regressionOf runId store = some regressionRunId →
    ClashesOnly runId regressionRunId evaluators w.evaluationResults

theorem evaluating_congr (store : Store) (runId : String) (evaluators : List Evaluator)
    (w w' : Store) (hruns : w'.agentRuns = w.agentRuns)
    (hresults : w'.evaluationResults = w.evaluationResults)
    (h : Evaluating store runId evaluators w) : Evaluating store runId evaluators w' where
  runs := hruns.trans h.runs
  counted := by
    intro other regressionRunId hlinked
    rw [regressionOf, hruns] at hlinked
    exact oneEach_congr other w w' hresults (h.counted other regressionRunId hlinked)
  clashes := by
    rw [hresults]
    exact h.clashes

theorem runResults_insert (runId : String) (record : ℕ → Db.EvaluationResult) (store : Store) :
    runResults runId (insertEvaluationResult record store) = runResults runId store ++
      if (record (store.evaluationResults.length + 1)).runId = runId then
        [record (store.evaluationResults.length + 1)] else [] := by
  rw [runResults, insertEvaluationResult, List.filter_append]
  by_cases hrun : (record (store.evaluationResults.length + 1)).runId = runId
  · simp [runResults, hrun]
  · simp [runResults, hrun]

theorem evaluating_insert (store : Store) (runId : String) (evaluators : List Evaluator)
    (evaluator : Evaluator) (hlisted : evaluator ∈ evaluators)
    (status : EvaluatorExecutionStatus) (result : Option Evaluation.EvaluationResult)
    (now : Timestamp) (w : Store) (h : Evaluating store runId evaluators w)
    (hconsistent : (insertEvaluationResult (evaluationResultRecord runId evaluator.name
      evaluator.version status result (regressionOf runId store) now) w).Consistent) :
    Evaluating store runId evaluators (insertEvaluationResult (evaluationResultRecord runId
      evaluator.name evaluator.version status result (regressionOf runId store) now) w) where
  runs := h.runs
  counted := by
    intro other k hlinked
    have hunclashed := ((uniqueOn_append _ _ _).mp
      (hconsistent .evaluationResultsRunEvaluatorVersionRegression)).2
    have hlinked : regressionOf other w = some k := hlinked
    have hone := h.counted other k hlinked
    rw [OneEach, runResults_insert]
    split
    case isTrue hrun =>
      have hrun : runId = other := hrun
      subst hrun
      rw [regressionOf, h.runs] at hlinked
      exact insert_countedOnce runId (regressionOf runId store) evaluators evaluator hlisted _ w
        ⟨rfl, rfl, rfl, rfl⟩ hunclashed h.clashes k hlinked hone
    case isFalse =>
      rw [List.append_nil]
      exact hone
  clashes := by
    intro k hlinked
    obtain ⟨honeVersion, hstored⟩ := h.clashes k hlinked
    refine ⟨honeVersion, ?_⟩
    intro other hother row hrow hrun hname
    rcases List.mem_append.mp hrow with hold | hnew
    · exact hstored other hother row hold hrun hname
    · rw [List.mem_singleton] at hnew
      subst hnew
      exact ⟨honeVersion evaluator hlisted other hother hname, hlinked⟩

theorem evaluate_countedOnce (db : Database) (hdb : Enforces db) (environment : JudgeEnvironment)
    (evaluators : List Evaluator) (runId : String) (store : Store) (h : CountedOnce store)
    (hclashes : KeepsCount store (.evaluate environment evaluators runId)) :
    CountedOnce (served db (.evaluate environment evaluators runId) store) := by
  have happends : ∀ w, Evaluating store runId evaluators w →
      AppendsKeep (Evaluating store runId evaluators) db runId
        ((w.agentRuns.find? runId).bind AgentRun.regressionRunId) evaluators := by
    intro w hw
    rw [hw.runs]
    constructor
    · intro evaluator hlisted status result m n v hv haccepted
      exact evaluating_insert store runId evaluators evaluator hlisted status result (db.clock m) v
        hv (hdb n .evaluationResult v _ nofun haccepted)
    · intro evaluator _ call succeeded m n v hv _
      exact evaluating_congr store runId evaluators v _ rfl rfl hv
  have hsound := sound_runEvaluation_at (Evaluating store runId evaluators) db runId environment
    evaluators (Session.fresh store) (sound_fresh _ store ⟨rfl, h, hclashes⟩) happends
    fun _ _ _ _ _ v hv _ => evaluating_congr store runId evaluators v _ rfl rfl hv
  have hserved : Sound (Evaluating store runId evaluators)
      (after (serve db (.evaluate environment evaluators runId)) (Session.fresh store)) :=
    after_bind _ _ _ _ hsound fun _ _ _ ht => ht
  exact hserved.1.counted

/-- Every state of a run whose requests keep the count has each linked run counted once. -/
theorem enforcedRun_countedOnce (store : Store) (h : EnforcedRun KeepsCount store) :
    CountedOnce store := by
  induction h with
  | empty => exact fun _ _ _ => List.nodup_nil
  | request store _ db hdb request hrequest ih =>
    cases request with
    | ingest event validated => exact ingest_countedOnce db event validated store ih
    | link runId regressionRunId scenarioId repetitionIndex =>
      exact link_countedOnce db runId regressionRunId scenarioId repetitionIndex store ih hrequest
    | evaluate environment evaluators runId =>
      exact evaluate_countedOnce db hdb environment evaluators runId store ih hrequest
  | regressionRuns store _ regressionRuns _ ih => exact ih

/-! ### The reported figures -/

theorem countP_runResults (name : String) (rows : List Db.EvaluationResult)
    (h : (rows.map Db.EvaluationResult.evaluatorName).Nodup) :
    rows.countP (fun row => row.evaluatorName = name) ≤ 1 := by
  have hcount := List.nodup_iff_count_le_one.mp h name
  rw [List.count, List.countP_map] at hcount
  have hsame : rows.countP (fun row => row.evaluatorName = name) =
      rows.countP ((fun other => other == name) ∘ Db.EvaluationResult.evaluatorName) := by
    apply List.countP_congr
    intro row _
    simp
  rw [hsame]
  exact hcount

/-- The rows of an evaluator, summed over the linked runs. -/
theorem totalCount_le (store : Store) (h : CountedOnce store) (regressionRunId : ℕ)
    (name : String) :
    ((resultsOf regressionRunId store).filter fun row => row.evaluatorName = name).length ≤
      (linkedRuns regressionRunId store).length := by
  have hsum := sum_semiJoin store.agentRuns Db.EvaluationResult.runId (linkedTo regressionRunId)
    (fun row => if decide (row.evaluatorName = name) then 1 else 0) store.evaluationResults
  simp only [sum_indicator] at hsum
  rw [← List.countP_eq_length_filter, resultsOf, ← hsum]
  have hbound : ∀ run ∈ linkedRuns regressionRunId store,
      (store.evaluationResults.filter fun row => row.runId = run.runId).countP
        (fun row => row.evaluatorName = name) ≤ 1 := by
    intro run hrun
    obtain ⟨hmem, hlinked⟩ := List.mem_filter.mp hrun
    have hregression : regressionOf run.runId store = some regressionRunId := by
      rw [regressionOf, (store.agentRuns.find?_eq_some_iff run.runId run).mpr ⟨hmem, rfl⟩]
      exact of_decide_eq_true hlinked
    exact countP_runResults name _ (h run.runId regressionRunId hregression)
  have htotal := List.sum_le_card_nsmul
    ((linkedRuns regressionRunId store).map fun run =>
      (store.evaluationResults.filter fun row => row.runId = run.runId).countP
        (fun row => row.evaluatorName = name)) 1 (by
      intro n hn
      obtain ⟨run, hrun, rfl⟩ := List.mem_map.mp hn
      exact hbound run hrun)
  simpa [linkedRuns] using htotal

theorem totalCount_eq (store : Store) (regressionRunId : ℕ) (aggregation : RegressionAggregation)
    (h : Aggregates store regressionRunId aggregation) (summary : EvaluatorPassRateSummary)
    (hsummary : summary ∈ aggregation.byEvaluator) :
    summary.totalCount = ((resultsOf regressionRunId store).filter fun row =>
      row.evaluatorName = summary.evaluatorName).length := by
  rw [h.evaluators summary hsummary]
  rfl

/-- An evaluator with results is among the summaries. -/
theorem exists_totalCount (store : Store) (regressionRunId : ℕ)
    (aggregation : RegressionAggregation) (h : Aggregates store regressionRunId aggregation)
    (name : String) (n : ℕ) (hcount : ((resultsOf regressionRunId store).filter fun row =>
      row.evaluatorName = name).length = n + 1) :
    ∃ summary ∈ aggregation.byEvaluator, summary.totalCount = n + 1 := by
  obtain ⟨row, hrow⟩ := List.exists_mem_of_length_eq_add_one hcount
  obtain ⟨hmem, hname⟩ := List.mem_filter.mp hrow
  obtain ⟨summary, hsummary, hsummaryName⟩ := List.mem_map.mp (h.evaluated row hmem)
  rw [of_decide_eq_true hname] at hsummaryName
  refine ⟨summary, hsummary, ?_⟩
  rw [totalCount_eq store regressionRunId aggregation h summary hsummary, hsummaryName]
  exact hcount

/-- In every state that requests which keep the count lead to, each evaluator's total is at most
the number of linked runs. -/
theorem evaluator_total_bounded (store : Store) (h : EnforcedRun KeepsCount store) (db : Database)
    (orders : AggregationOrders db.collation) (regressionRunId : ℕ) (s : DbSession)
    (hs : s.view = store) :
    Delivers db.backend (aggregateRegressionRun db orders regressionRunId) s fun aggregation _ =>
      ∀ summary ∈ aggregation.byEvaluator,
        summary.totalCount ≤ (linkedRuns regressionRunId store).length := by
  have haggregates := delivers_aggregateRegressionRun db orders regressionRunId store s hs
  apply delivers_mono _ _ s _ _ haggregates
  intro aggregation _ hagg summary hsummary
  rw [totalCount_eq store regressionRunId aggregation hagg summary hsummary]
  exact totalCount_le store (enforcedRun_countedOnce store h) regressionRunId summary.evaluatorName

/- A run is linked and then evaluated, as the regression runner does it. -/
def linkedThenEvaluated : Store :=
  served .enforcing (.evaluate noJudge (allEvaluators noLibraries) "run-1") enforcedLink

theorem registered_enforced (P : Store → Request → Prop) : EnforcedRun P registered :=
  .regressionRuns Store.empty .empty _ (by decide +kernel)

theorem ingestedRun_enforced (P : Store → Request → Prop)
    (hingest : P registered (.ingest (successEvent "run-1") (successEvent_validated "run-1"))) :
    EnforcedRun P ingestedRun :=
  .request registered (registered_enforced P) .enforcing
    (healthy_enforces .enforcing enforcing_healthy)
    (.ingest (successEvent "run-1") (successEvent_validated "run-1")) hingest

theorem unevaluated_oneEach (runId : String) (store : Store) (h : store.evaluationResults = []) :
    OneEach runId store := by
  rw [OneEach, runResults, h]
  exact List.nodup_nil

theorem unevaluated_clashesOnly (store : Store) (h : store.evaluationResults = [])
    (evaluators : List Evaluator) (hnames : (evaluators.map Evaluator.name).Nodup)
    (runId : String) (regressionRunId : ℕ) :
    ClashesOnly runId regressionRunId evaluators store.evaluationResults where
  oneVersion := by
    intro evaluator hlisted other hother hname
    rw [List.inj_on_of_nodup_map hnames hlisted hother hname]
  stored := by
    intro evaluator _ row hrow
    rw [h] at hrow
    cases hrow

theorem linkedThenEvaluated_keepsCount : EnforcedRun KeepsCount linkedThenEvaluated := by
  have henforces := healthy_enforces .enforcing enforcing_healthy
  have hingested : ingestedRun.evaluationResults = [] := by decide +kernel
  have hlinked : enforcedLink.evaluationResults = [] := by decide +kernel
  have hlink : KeepsCount ingestedRun (.link "run-1" 1 "GS-01" 0) :=
    unevaluated_oneEach "run-1" ingestedRun hingested
  have hevaluate : KeepsCount enforcedLink
      (.evaluate noJudge (allEvaluators noLibraries) "run-1") := by
    intro regressionRunId _
    exact unevaluated_clashesOnly enforcedLink hlinked (allEvaluators noLibraries)
      (by decide +kernel) "run-1" regressionRunId
  exact .request enforcedLink
    (.request ingestedRun (ingestedRun_enforced KeepsCount True.intro) .enforcing henforces
      (.link "run-1" 1 "GS-01" 0) hlink)
    .enforcing henforces (.evaluate noJudge (allEvaluators noLibraries) "run-1") hevaluate

theorem evaluator_total_bounded_linked :
    linkedThenEvaluated.evaluationResults ≠ [] ∧ ∃ orders aggregation t,
      aggregateRegressionRun .plain orders 1 (Session.fresh linkedThenEvaluated) =
        .ok aggregation t ∧
      ∀ summary ∈ aggregation.byEvaluator,
        summary.totalCount ≤ (linkedRuns 1 linkedThenEvaluated).length := by
  refine ⟨by decide +kernel, ?_⟩
  have hkept := linkedThenEvaluated_keepsCount
  generalize linkedThenEvaluated = store at hkept ⊢
  obtain ⟨orders⟩ := aggregationOrders_nonempty Collation.codePoints
  obtain ⟨aggregation, t, hreturned, hbound⟩ := delivers_accepted _ plain_accepts _ _ _
    (evaluator_total_bounded store hkept .plain orders 1 (Session.fresh store) rfl)
  exact ⟨orders, aggregation, t, hreturned, hbound⟩

/-! ### Evaluated before it was linked -/

def evaluatedLive : Store :=
  served .enforcing (.evaluate noJudge (allEvaluators noLibraries) "run-1") ingestedRun

def linkedAfterwards : Store := served .enforcing (.link "run-1" 1 "GS-01" 0) evaluatedLive

def evaluatedTwice : Store :=
  served .enforcing (.evaluate noJudge (allEvaluators noLibraries) "run-1") linkedAfterwards

theorem evaluatedTwice_enforced : EnforcedRun (fun _ _ => True) evaluatedTwice := by
  have henforces := healthy_enforces .enforcing enforcing_healthy
  have hingested := ingestedRun_enforced (fun _ _ => True) True.intro
  have hevaluated : EnforcedRun (fun _ _ => True) evaluatedLive :=
    .request ingestedRun hingested .enforcing henforces
      (.evaluate noJudge (allEvaluators noLibraries) "run-1") True.intro
  have hlinked : EnforcedRun (fun _ _ => True) linkedAfterwards :=
    .request evaluatedLive hevaluated .enforcing henforces (.link "run-1" 1 "GS-01" 0) True.intro
  exact .request linkedAfterwards hlinked .enforcing henforces
    (.evaluate noJudge (allEvaluators noLibraries) "run-1") True.intro

/-- The one run of the regression counts twice: its first results were written when it was not
linked, so the second ones do not clash with them. -/
theorem evaluated_live_counted_twice :
    EnforcedRun (fun _ _ => True) evaluatedTwice ∧ (linkedRuns 1 evaluatedTwice).length = 1 ∧
    ∃ orders aggregation t, aggregateRegressionRun .plain orders 1
        (Session.fresh evaluatedTwice) = .ok aggregation t ∧
      ∃ summary ∈ aggregation.byEvaluator, summary.totalCount = 2 := by
  have hcount : ((resultsOf 1 evaluatedTwice).filter fun row =>
      row.evaluatorName = "tool_execution").length = 1 + 1 := by decide +kernel
  refine ⟨evaluatedTwice_enforced, by decide +kernel, ?_⟩
  generalize evaluatedTwice = store at hcount ⊢
  obtain ⟨orders⟩ := aggregationOrders_nonempty Collation.codePoints
  obtain ⟨aggregation, t, hreturned, haggregates⟩ := delivers_accepted _ plain_accepts _ _ _
    (delivers_aggregateRegressionRun .plain orders 1 store (Session.fresh store) rfl)
  exact ⟨orders, aggregation, t, hreturned,
    exists_totalCount store 1 aggregation haggregates "tool_execution" 1 hcount⟩

end ObsPlatform.Platform
