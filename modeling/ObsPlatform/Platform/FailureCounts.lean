import ObsPlatform.Evaluation.Categories
import ObsPlatform.Platform.Ownership
import ObsPlatform.Platform.Records
import ObsPlatform.Routes.Analytics

/-!
# Failed runs and their categories

Failed runs that all have a category are counted once under some category, so the
categories add up to them. Whether they all have one depends on the judges' answers.
-/

namespace ObsPlatform.Platform

open Telemetry Db UnitOfWork Evaluation Ingestion Routes Stateful

/-- Requests one after another, each meeting a condition on it and the store it starts from. -/
inductive ReachableWith (P : Database → Request → Store → Prop) : Store → Prop where
  | empty : ReachableWith P Store.empty
  | request (store : Store) (h : ReachableWith P store) (db : Database) (request : Request)
      (hrequest : P db request store) :
      ReachableWith P (after (serve db request) (Session.fresh store)).committed

/-- An evaluation runs the registered evaluators, and its verdict on the view it reads is
one that has a category if it fails. -/
def EvaluatesCategorised (db : Database) (request : Request) (store : Store) : Prop :=
  ∀ environment evaluators runId, request = .evaluate environment evaluators runId →
    ∃ libraries, evaluators = allEvaluators libraries ∧
      ∀ view t, evaluationRunView db runId (Session.fresh store) = .ok (some view) t →
        ∃ groundedness uncertainty,
          outcomesOf environment view 0 none (allEvaluators libraries) =
            registryOutcomes view groundedness uncertainty ∧
          Categorised view groundedness uncertainty

def FailuresCategorised (store : Store) : Prop :=
  ∀ failure ∈ store.runFailures.rows, failure.overallStatus = .fail →
    failure.primaryCategory.isSome

theorem upsertRunFailure_categorised (values : RunFailure) (store : Store)
    (hvalues : values.overallStatus = .fail → values.primaryCategory.isSome)
    (h : FailuresCategorised store) : FailuresCategorised (upsertRunFailure values store) := by
  intro failure hm
  have hfound := (Table.find?_eq_some_iff _ failure.runId failure).mpr ⟨hm, rfl⟩
  by_cases hrun : failure.runId = values.runId
  · rw [hrun, upsertRunFailure_find?] at hfound
    cases hfound
    exact hvalues
  · rw [upsertRunFailure_other values store failure.runId hrun] at hfound
    exact h failure (Table.mem_of_find? _ _ _ hfound)

theorem reachableWith_categorised (store : Store) (h : ReachableWith EvaluatesCategorised store) :
    FailuresCategorised store := by
  induction h with
  | empty => exact fun _ hm => absurd hm List.not_mem_nil
  | request store _ db request hrequest ih =>
    cases request with
    | ingest event validated =>
      have hserve : Preserves (Sound FailuresCategorised) (serve db (.ingest event validated)) := by
        refine preserves_bind _ _ _ (sound_ingestRunEvent _ db event ?_) fun _ => preserves_pure _ _
        intro now w w' hw heffect
        have hsame := (ingestEffect_ingested event now w w' heffect
          ((validated_iff event).mp validated).1).runFailures
        unfold FailuresCategorised
        rw [hsame]
        exact hw
      exact (hserve (Session.fresh store) (sound_fresh _ store ih)).1
    | link runId regressionRunId scenarioId repetitionIndex =>
      have hserve := sound_persistRegressionLinkage FailuresCategorised db runId regressionRunId
        scenarioId repetitionIndex fun _ _ h => h
      exact (hserve (Session.fresh store) (sound_fresh _ store ih)).1
    | evaluate environment evaluators runId =>
      obtain ⟨libraries, rfl, hviews⟩ := hrequest environment evaluators runId rfl
      have hkeeps : AcceptedKeep FailuresCategorised db runId :=
        ⟨fun _ _ _ _ _ _ _ _ h _ => h, fun _ _ _ _ _ _ _ h _ => h⟩
      have hevaluated := sound_runEvaluation_of FailuresCategorised db runId hkeeps environment
        (allEvaluators libraries) (Session.fresh store) (sound_fresh _ store ih) (by
          intro view t hview _ _ w hw _
          apply upsertRunFailure_categorised _ w _ hw
          obtain ⟨groundedness, uncertainty, houtcomes, hcategorised⟩ := hviews view t hview
          have hverdict := (registry_categorised_iff view groundedness uncertainty).mpr hcategorised
          rw [← houtcomes] at hverdict
          exact hverdict.mp)
      have hserved : Sound FailuresCategorised (after
          (serve db (.evaluate environment (allEvaluators libraries) runId)) (Session.fresh store)) :=
        after_bind _ _ _ _ hevaluated fun _ _ _ ht => ht
      exact hserved.1

/-! ### The counts of one store -/

/-- The categories add up to the failed runs that have one. -/
theorem sum_failureTypes (failures : List RunFailure)
    (h : ∀ failure ∈ failures, failure.overallStatus = .fail → failure.primaryCategory.isSome) :
    ((groupCounts RunFailure.primaryCategory (failedRuns failures)).map Prod.snd).sum =
      statusCount .fail failures := by
  rw [sum_groupCounts, failedRuns, List.countP_filter, statusCount]
  apply List.countP_congr
  intro failure hm
  simp only [Bool.and_eq_true, decide_eq_true_eq]
  exact ⟨fun h => h.2, fun hfail => ⟨h failure hm hfail, hfail⟩⟩

theorem getFailures_sums (db : Database) (orders : FailureOrders db.collation)
    (params : AnalyticsTimeRangeParams) (store : Store) (h : FailuresCategorised store)
    (s : DbSession) (hs : s.view = store) :
    Delivers db.backend (getFailures db orders params) s fun response _ =>
      response.runCounts.byOverallStatus.lookup .fail =
        some (response.byFailureType.map FailureTypeBreakdown.count).sum := by
  apply delivers_bind _ _ _ s _ _ (delivers_read_of db _ store s hs)
  intro evaluatedCount t ht
  apply delivers_bind _ _ _ t _ _ (delivers_read_of db _ store t ht.2)
  intro overallCounts u hu
  obtain ⟨rfl, hu⟩ := hu
  apply delivers_bind _ _ _ u _ _ (delivers_read_of db _ store u hu)
  intro failureTypeRows v hv
  obtain ⟨rfl, hv⟩ := hv
  apply delivers_bind _ _ _ v _ _ (delivers_read_of db _ store v hv)
  intro severityRows w _
  apply delivers_of_ok _ _ w w _ _ rfl
  have harranged := (orders.failureTypes.perm (groupCounts RunFailure.primaryCategory
    (failedRuns (failuresInRange params store)))).map Prod.snd
  have hcategorised : ∀ failure ∈ failuresInRange params store, failure.overallStatus = .fail →
      failure.primaryCategory.isSome :=
    fun failure hm => h failure (List.mem_of_mem_filter hm)
  have hsum := sum_failureTypes (failuresInRange params store) hcategorised
  rw [← harranged.sum_eq] at hsum
  simp only [List.map_map]
  rw [show FailureTypeBreakdown.count ∘ _ = Prod.snd from rfl, hsum]
  rfl

/-! ### Every failure has a category but the unexplained rejections -/

/-- A verdict fails exactly when it has a category, but for a judge that rejects the run
and lists no claim where nothing else names a finding; in every store that evaluations
without such a verdict lead to, the categories of any time range add up to its failed runs. -/
theorem every_fail_categorised_iff (view : EvaluationRunView)
    (groundedness : JudgeOutcome GroundednessJudgeOutput)
    (uncertainty : JudgeOutcome UncertaintyJudgeOutput) :
    (((classify (registryOutcomes view groundedness uncertainty)).overallStatus = .fail ↔
        (classify (registryOutcomes view groundedness uncertainty)).primaryCategory.isSome) ↔
      Categorised view groundedness uncertainty) ∧
    (∀ libraries environment view, ∃ groundedness uncertainty,
      outcomesOf environment view 0 none (allEvaluators libraries) =
        registryOutcomes view groundedness uncertainty) ∧
    ∀ store, ReachableWith EvaluatesCategorised store →
      ∀ (reader : Database) (orders : FailureOrders reader.collation)
        (params : AnalyticsTimeRangeParams) (s : DbSession), s.view = store →
        Delivers reader.backend (getFailures reader orders params) s fun response _ =>
          response.runCounts.byOverallStatus.lookup .fail =
            some (response.byFailureType.map FailureTypeBreakdown.count).sum := by
  refine ⟨registry_categorised_iff view groundedness uncertainty, registry_outcomes, ?_⟩
  intro store hstore reader orders params s hs
  exact getFailures_sums reader orders params store (reachableWith_categorised store hstore) s hs

theorem unjudged_outcomes (view : EvaluationRunView) :
    outcomesOf noJudge view 0 none (allEvaluators noLibraries) =
      registryOutcomes view .skipped .skipped := by
  have hg : ∀ position judgeClient, evaluateOne noJudge view position judgeClient
      (groundednessJudge noLibraries) = ⟨.skipped, judgeUnavailableResult, [], judgeClient⟩ := by
    intro position judgeClient
    rw [evaluateOne, if_pos (by decide)]
  have hu : ∀ position judgeClient, evaluateOne noJudge view position judgeClient
      (uncertaintyJudge noLibraries) = ⟨.skipped, judgeUnavailableResult, [], judgeClient⟩ := by
    intro position judgeClient
    rw [evaluateOne, if_pos (by decide)]
  simp only [allEvaluators, toolExecutionEvaluator, structuredOutputEvaluator, trajectoryEvaluator,
    policyEvaluator, evidenceEvaluator, outcomesOf, deterministic_evaluated, hg, hu]
  rfl

/- A run ingested and then evaluated without judge credentials. -/
theorem every_fail_categorised_iff_unjudged :
    ∃ ingested evaluated,
      ingested = served .plain (.ingest (successEvent "run-1") (successEvent_validated "run-1"))
        Store.empty ∧
      evaluated = served .plain (.evaluate noJudge (allEvaluators noLibraries) "run-1") ingested ∧
      ∀ orders : FailureOrders Database.plain.collation,
        Delivers Database.plain.backend (getFailures .plain orders ⟨none, none⟩)
          (Session.fresh evaluated) fun response _ =>
            response.runCounts.byOverallStatus.lookup .fail =
              some (response.byFailureType.map FailureTypeBreakdown.count).sum := by
  obtain ⟨ingested, hingested⟩ : ∃ store, store = served .plain
    (.ingest (successEvent "run-1") (successEvent_validated "run-1")) Store.empty := ⟨_, rfl⟩
  obtain ⟨evaluated, hevaluated⟩ : ∃ store, store = served .plain
    (.evaluate noJudge (allEvaluators noLibraries) "run-1") ingested := ⟨_, rfl⟩
  have hfirst : ReachableWith EvaluatesCategorised ingested := by
    rw [hingested]
    apply ReachableWith.request Store.empty .empty .plain
    intro _ _ _ h
    cases h
  have hsecond : ReachableWith EvaluatesCategorised evaluated := by
    rw [hevaluated]
    apply ReachableWith.request ingested hfirst .plain
    intro environment evaluators runId h
    cases h
    refine ⟨noLibraries, rfl, ?_⟩
    intro view _ _
    refine ⟨.skipped, .skipped, unjudged_outcomes view, .inr (.inr (.inr ⟨?_, ?_⟩))⟩
    · simp [JudgeOutcome.Rejects]
    · simp [JudgeOutcome.Rejects]
  refine ⟨ingested, evaluated, hingested, hevaluated, ?_⟩
  intro orders
  exact (every_fail_categorised_iff bypassedView .skipped .skipped).2.2 evaluated hsecond .plain orders ⟨none, none⟩
    (Session.fresh evaluated) rfl

/-! ### A rejection without claims -/

/- The judge's answer: the run does not pass, and no claim is listed. -/
def silentRejection : GroundednessJudgeOutput where
  passed := false
  score := 1 / 5
  reason := "the answer is not grounded in the evidence"
  unsupportedClaims := []
  nonneg := by norm_num
  atMostOne := by norm_num

def silentApproval : UncertaintyJudgeOutput where
  passed := true
  score := 1
  reason := "the answer is suitably uncertain"
  overconfidentClaims := []
  nonneg := by norm_num
  atMostOne := by norm_num

/- The two answers as the provider sends them, and their validation. -/
def rejectingAnswer : JsonObject :=
  [("passed", .bool false), ("score", .num (1 / 5)),
   ("reason", .str "the answer is not grounded in the evidence"), ("unsupported_claims", .arr [])]

def approvingAnswer : JsonObject :=
  [("passed", .bool true), ("score", .int 1), ("reason", .str "the answer is suitably uncertain"),
   ("overconfident_claims", .arr [])]

def judgeLibraries : JudgeLibraries where
  groundednessModel := ⟨[], fun output =>
    match output.lookup "unsupported_claims" with
    | some _ => .ok silentRejection
    | none => .error "unsupported_claims: field required"⟩
  uncertaintyModel := ⟨[], fun output =>
    match output.lookup "overconfident_claims" with
    | some _ => .ok silentApproval
    | none => .error "overconfident_claims: field required"⟩
  dumps := fun _ => ""
  repr := fun _ => ""

/- Configured judges; the provider rejects in the groundedness judge's place. -/
def rejectingJudge : JudgeEnvironment where
  settings := ⟨"claude-sonnet-4-6", some "key", 1024⟩
  judgeClientFactory := fun _ => .ok
    { provider := "anthropic"
      model := "claude-sonnet-4-6"
      rawComplete := fun position _ _ _ =>
        ⟨.completion ⟨if position = 5 then rejectingAnswer else approvingAnswer, 10, 10, 0⟩, 1⟩ }

/- A finished run with an answer and no tool calls. -/
def answeredView : EvaluationRunView :=
  { bypassedView with
    eventType := .runFinal
    completedAt := some 1
    status := .success
    hitlRequired := false
    hitlState := .notRequired
    hitlCheckpointId := none
    hitlRequestedAt := none
    hitlPendingAction := none
    usageTotalToolCalls := 0
    finalResultOutput := some [("answer", .str "replace the seal")]
    finalResultSourceReferences := some []
    toolCalls := [] }

/-- A verdict that fails and has no category. -/
theorem silent_rejection_uncategorised :
    classify (outcomesOf rejectingJudge answeredView 0 none (allEvaluators judgeLibraries)) =
      ⟨.fail, none, none, none⟩ ∧
    outcomesOf rejectingJudge answeredView 0 none (allEvaluators judgeLibraries) =
      registryOutcomes answeredView (.completed silentRejection) (.completed silentApproval) ∧
    ¬ ((classify (registryOutcomes answeredView (.completed silentRejection)
        (.completed silentApproval))).overallStatus = .fail ↔
      (classify (registryOutcomes answeredView (.completed silentRejection)
        (.completed silentApproval))).primaryCategory.isSome) := by
  refine ⟨by decide +kernel, rfl, by decide +kernel⟩

end ObsPlatform.Platform
