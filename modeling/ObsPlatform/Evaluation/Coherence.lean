import ObsPlatform.Evaluation.Categories
import ObsPlatform.Evaluation.Trajectory

/-!
# The registry is coherent

Each evaluator sets passed, label, score and findings by expressions of its own, and the
classifier looks the finding codes up in a table of its own. They agree on every result an
evaluator of the registry can return.
-/

namespace ObsPlatform.Evaluation

open Telemetry Db

/-- The evaluator can return the result: a judge for some client, whatever it answers. -/
def Returns (evaluator : Evaluator) (run : EvaluationRunView) (result : EvaluationResult) : Prop :=
  match evaluator.type with
  | .deterministic => evaluator.evaluate run = .ok result
  | .llmBased => ∃ client position, (evaluator.evaluateAsync client position run).1 = .ok result

theorem deterministic_returns (name : String) (evaluate : EvaluationRunView → EvaluationResult)
    (run : EvaluationRunView) (result : EvaluationResult)
    (h : Returns (deterministicEvaluator name evaluate) run result) : result = evaluate run :=
  (Except.ok.inj h).symm

theorem evaluated_returns (environment : JudgeEnvironment) (run : EvaluationRunView)
    (position : ℕ) (judgeClient : Option JudgeClient) (evaluator : Evaluator)
    (h : (evaluateOne environment run position judgeClient evaluator).status = .completed) :
    Returns evaluator run (evaluateOne environment run position judgeClient evaluator).result := by
  cases htype : evaluator.type with
  | deterministic =>
    have hskip : shouldSkipUnconfiguredJudge evaluator environment.settings = false := by
      simp [shouldSkipUnconfiguredJudge, htype]
    simp only [Returns, evaluateOne, hskip, htype, Bool.false_eq_true, if_false] at h ⊢
    obtain ⟨result, hresult, hsettled⟩ := settle_completed _ _ _ h
    rw [hsettled, hresult]
  | llmBased =>
    obtain ⟨client, hresult⟩ := judge_completed environment run position judgeClient evaluator
      htype h
    simp only [Returns, htype]
    exact ⟨client, position, hresult⟩

/-- A judge returns what it makes of a valid answer, or that it does not apply. -/
theorem judge_returns {T : Type} (evaluator : Evaluator) (libraries : JudgeLibraries)
    (responseModel : ResponseModel T) (promptFor : EvaluationRunView → String)
    (resultOf : T → EvaluationResult) (hllm : evaluator.type = .llmBased)
    (hasync : evaluator.evaluateAsync = judgeEvaluate libraries responseModel promptFor resultOf)
    (run : EvaluationRunView) (result : EvaluationResult) (h : Returns evaluator run result) :
    (∃ reason, result = notApplicable reason) ∨ ∃ output, result = resultOf output := by
  simp only [Returns, hllm, hasync] at h
  obtain ⟨client, position, h⟩ := h
  exact judgeEvaluate_returns libraries responseModel promptFor resultOf client position run result h

/-! ### Labels and scores -/

/-- The label is one of three, and says fail exactly when the result did not pass. -/
structure Coherent (result : EvaluationResult) : Prop where
  label : result.label = some "pass" ∨ result.label = some "fail" ∨
    result.label = some "not_applicable"
  fails : result.passed = false ↔ result.label = some "fail"

theorem coherent_notApplicable (reason : String) : Coherent (notApplicable reason) where
  label := by simp [notApplicable]
  fails := by simp [notApplicable]

theorem coherent_passLabel (result : EvaluationResult)
    (h : result.label = passLabel result.passed) : Coherent result where
  label := by
    rw [h]
    cases result.passed <;> simp [passLabel]
  fails := by rw [h, passLabel_fail_iff]

/-- A finding for every failure, and a score that is full for a pass only. -/
structure Scored (result : EvaluationResult) : Prop where
  findings : result.findings = [] ↔ result.passed = true
  score : ∀ score, result.score = some score →
    0 ≤ score ∧ score ≤ 1 ∧ (score = 1 ↔ result.passed = true)

theorem scored_unscored (result : EvaluationResult) (hscore : result.score = none)
    (hfindings : result.findings = [] ↔ result.passed = true) : Scored result where
  findings := hfindings
  score := by
    intro score h
    rw [hscore] at h
    cases h

theorem scored_share (result : EvaluationResult) (satisfied total : ℕ) (hle : satisfied ≤ total)
    (hscore : result.score = share satisfied total)
    (hpassed : result.passed = result.findings.isEmpty)
    (hclean : result.findings = [] ↔ satisfied = total) : Scored result := by
  have hfindings : result.findings = [] ↔ result.passed = true := by
    rw [hpassed, List.isEmpty_iff]
  constructor
  · exact hfindings
  · intro score h
    rw [hscore] at h
    obtain ⟨_, hnonneg, hmost, hone⟩ := (share_of_counts satisfied total hle).2 score h
    exact ⟨hnonneg, hmost, by rw [hone, ← hclean, hfindings]⟩

/-- The entries that fail a test are none when as many pass it as there are. -/
theorem failing_eq_nil_iff {α : Type} (entries : List α) (p : α → Bool) (f : α → EvaluationFinding) :
    (entries.filter fun entry => ¬ p entry).map f = [] ↔
      (entries.filter p).length = entries.length := by
  rw [List.map_eq_nil_iff, List.filter_eq_nil_iff, List.length_filter_eq_length_iff]
  simp

theorem toolExecution_scored (run : EvaluationRunView) : Scored (toolExecution run) := by
  have hclean := failing_eq_nil_iff run.toolCalls (fun toolCall => toolCall.status = .success)
    toolExecutionFinding
  simp only [decide_eq_true_eq] at hclean
  exact scored_share _ _ _ (List.length_filter_le _ _) rfl rfl hclean

theorem structuredOutput_scored (run : EvaluationRunView) : Scored (structuredOutput run) := by
  unfold structuredOutput
  split
  · exact scored_unscored _ rfl (by simp [notApplicable])
  · split
    · exact scored_unscored _ rfl (by simp)
    · exact scored_unscored _ rfl (by simp)

theorem trajectory_scored (run : EvaluationRunView) : Scored (trajectory run) := by
  unfold trajectory
  cases scenarioContractFor run.scenarioId with
  | none => exact scored_unscored _ rfl (by simp [notApplicable])
  | some contract =>
    obtain ⟨hsatisfied, htotal, hle, hclean⟩ := trajectoryTally_counts run contract
    have hscore : (trajectoryResult (trajectoryTally run contract)).score =
        share (satisfiedCount run contract) (constraintCount run contract) := by
      simp only [trajectoryResult, hsatisfied, htotal]
    exact scored_share _ _ _ hle hscore rfl hclean

theorem policy_scored (run : EvaluationRunView) : Scored (policy run) :=
  scored_unscored _ rfl (by
    show _ ↔ List.isEmpty _ = true
    rw [List.isEmpty_iff]
    rfl)

theorem evidence_scored (run : EvaluationRunView) : Scored (evidence run) := by
  unfold evidence
  cases scenarioContractFor run.scenarioId with
  | none => exact scored_unscored _ rfl (by simp [notApplicable])
  | some contract =>
    have hclean := failing_eq_nil_iff contract.requiredEvidence
      (fun evidence => evidence ∈ run.finalResultSourceReferences.getD [])
    simp only [decide_eq_true_eq] at hclean
    exact scored_share _ _ _ (List.length_filter_le _ _) rfl rfl (hclean _)

/-! ### The registry -/

/- A code that FINDING_TO_FAILURE_TYPE lists. -/
def Mapped (finding : EvaluationFinding) : Prop :=
  finding.code ∈ findingToFailureType.map Prod.fst

theorem mapped_of_codes (codes : List String) (hcodes : codes ⊆ findingToFailureType.map Prod.fst)
    (finding : EvaluationFinding) (h : finding.code ∈ codes) : Mapped finding := hcodes h

theorem failureTypeOf_known (finding : EvaluationFinding) (h : Mapped finding) :
    failureTypeOf finding ≠ .unknown := by
  unfold failureTypeOf
  cases hlookup : findingToFailureType.lookup finding.code with
  | none => exact absurd h (lookup_none _ _ hlookup)
  | some failureType =>
    have hentries : ∀ entry ∈ findingToFailureType, entry.2 ≠ .unknown := by decide
    exact hentries _ (lookup_mem _ _ _ hlookup)

/-- What holds of a result that an evaluator of the registry returns. -/
structure Registered (evaluator : Evaluator) (result : EvaluationResult) : Prop where
  coherent : Coherent result
  scored : evaluator.type = .deterministic → Scored result
  mapped : ∀ finding ∈ result.findings, Mapped finding

theorem registered_deterministic (name : String) (evaluate : EvaluationRunView → EvaluationResult)
    (codes : List String) (run : EvaluationRunView) (hjustified : Coherent (evaluate run))
    (hscored : Scored (evaluate run))
    (hcodes : ∀ finding ∈ (evaluate run).findings, finding.code ∈ codes)
    (hmapped : codes ⊆ findingToFailureType.map Prod.fst) (result : EvaluationResult)
    (h : Returns (deterministicEvaluator name evaluate) run result) :
    Registered (deterministicEvaluator name evaluate) result := by
  rw [deterministic_returns name evaluate run result h]
  exact ⟨hjustified, fun _ => hscored,
    fun finding hfinding => mapped_of_codes codes hmapped finding (hcodes finding hfinding)⟩

theorem registered_judge {T : Type} (evaluator : Evaluator) (libraries : JudgeLibraries)
    (responseModel : ResponseModel T) (promptFor : EvaluationRunView → String)
    (resultOf : T → EvaluationResult) (code : String) (hllm : evaluator.type = .llmBased)
    (hasync : evaluator.evaluateAsync = judgeEvaluate libraries responseModel promptFor resultOf)
    (hlabel : ∀ output, (resultOf output).label = passLabel (resultOf output).passed)
    (hcode : ∀ output, ∀ finding ∈ (resultOf output).findings, finding.code = code)
    (hmapped : code ∈ findingToFailureType.map Prod.fst) (run : EvaluationRunView)
    (result : EvaluationResult) (h : Returns evaluator run result) : Registered evaluator result := by
  have hnot : evaluator.type ≠ .deterministic := by
    rw [hllm]
    decide
  rcases judge_returns evaluator libraries responseModel promptFor resultOf hllm hasync run result h
    with ⟨reason, rfl⟩ | ⟨output, rfl⟩
  · exact ⟨coherent_notApplicable reason, fun h => absurd h hnot, by simp [notApplicable]⟩
  · constructor
    · exact coherent_passLabel _ (hlabel output)
    · exact fun h => absurd h hnot
    · intro finding hfinding
      rw [Mapped, hcode output finding hfinding]
      exact hmapped

theorem coherent_structuredOutput (run : EvaluationRunView) : Coherent (structuredOutput run) := by
  unfold structuredOutput
  split
  · exact coherent_notApplicable _
  · split
    · exact coherent_passLabel _ rfl
    · exact coherent_passLabel _ rfl

theorem coherent_trajectory (run : EvaluationRunView) : Coherent (trajectory run) := by
  unfold trajectory
  split
  · exact coherent_notApplicable _
  · exact coherent_passLabel _ rfl

theorem coherent_evidence (run : EvaluationRunView) : Coherent (evidence run) := by
  unfold evidence
  split
  · exact coherent_notApplicable _
  · exact coherent_passLabel _ rfl

/-- The codes an evaluator emits in an evaluation are those it returns. -/
theorem codes_of_emits (name : String) (evaluate : EvaluationRunView → EvaluationResult)
    (codes : List String) (h : Emits (deterministicEvaluator name evaluate) codes)
    (run : EvaluationRunView) : ∀ finding ∈ (evaluate run).findings, finding.code ∈ codes := by
  have hemits := h noJudge run 0 none
  rw [deterministic_evaluated] at hemits
  exact hemits rfl

theorem registry_registered (libraries : JudgeLibraries) (run : EvaluationRunView)
    (evaluator : Evaluator) (hevaluator : evaluator ∈ allEvaluators libraries)
    (result : EvaluationResult) (h : Returns evaluator run result) :
    Registered evaluator result := by
  simp only [allEvaluators, List.mem_cons, List.not_mem_nil, or_false] at hevaluator
  rcases hevaluator with rfl | rfl | rfl | rfl | rfl | rfl | rfl
  · exact registered_deterministic _ _ _ run (coherent_passLabel _ rfl) (toolExecution_scored run)
      (codes_of_emits _ _ _ toolExecution_emits run) (by decide) result h
  · exact registered_deterministic _ _ _ run (coherent_structuredOutput run)
      (structuredOutput_scored run) (codes_of_emits _ _ _ structuredOutput_emits run) (by decide)
      result h
  · exact registered_deterministic _ _ _ run (coherent_trajectory run) (trajectory_scored run)
      (codes_of_emits _ _ _ trajectory_emits run) (by decide) result h
  · have hcodes : ∀ finding ∈ (policy run).findings, finding.code ∈
        ["unauthorized_consequential_action", "unknown_asset_downstream_call"] := by
      intro finding hfinding
      rcases List.mem_append.mp hfinding with hf | hf
      · rw [unauthorized_code run finding hf]
        decide
      · rw [downstream_code run finding hf]
        decide
    exact registered_deterministic _ _ _ run (coherent_passLabel _ rfl) (policy_scored run) hcodes
      (by decide) result h
  · exact registered_deterministic _ _ _ run (coherent_evidence run) (evidence_scored run)
      (codes_of_emits _ _ _ evidence_emits run) (by decide) result h
  · exact registered_judge _ libraries _ _ groundednessResult "unsupported_claim" rfl rfl
      (fun _ => rfl) (by simp [groundednessResult]) (by decide) run result h
  · exact registered_judge _ libraries _ _ uncertaintyResult "overconfident_hypothesis" rfl rfl
      (fun _ => rfl) (by simp [uncertaintyResult]) (by decide) run result h

/-! ### Classifying the registry -/

/-- An outcome of the registry that completed carries a result its evaluator returned. -/
theorem registry_outcome (libraries : JudgeLibraries) (environment : JudgeEnvironment)
    (run : EvaluationRunView) (outcome : EvaluatorOutcome)
    (h : outcome ∈ outcomesOf environment run 0 none (allEvaluators libraries))
    (hcompleted : outcome.executionStatus = .completed) :
    ∃ evaluator result, outcome.result = some result ∧ Registered evaluator result := by
  obtain ⟨evaluator, hevaluator, position, judgeClient, rfl⟩ :=
    outcomesOf_mem environment run 0 none _ outcome h
  have hreturns := evaluated_returns environment run position judgeClient evaluator hcompleted
  exact ⟨evaluator, _, rfl, registry_registered libraries run evaluator hevaluator _ hreturns⟩

theorem labelledFail_iff (outcome : EvaluatorOutcome) :
    labelledFail outcome = true ↔ outcome.executionStatus = .completed ∧
      ∃ result ∈ outcome.result, result.label = some "fail" := by
  simp [labelledFail, Option.any_eq_true]

theorem registry_known (libraries : JudgeLibraries) (environment : JudgeEnvironment)
    (run : EvaluationRunView) :
    .unknown ∉ detectedFailureTypes
      (outcomesOf environment run 0 none (allEvaluators libraries)) := by
  intro h
  obtain ⟨outcome, ho, hlabelled, finding, hfinding, hunknown⟩ := (mem_detected_iff _ _).mp h
  obtain ⟨hcompleted, _⟩ := (labelledFail_iff outcome).mp hlabelled
  obtain ⟨evaluator, result, hresult, hregistered⟩ :=
    registry_outcome libraries environment run outcome ho hcompleted
  rw [findingsOf, hresult] at hfinding
  exact failureTypeOf_known finding (hregistered.mapped finding hfinding) hunknown

/-- A run of the registry fails by label exactly when it fails by passed. -/
theorem registry_fails_by_passed (libraries : JudgeLibraries) (environment : JudgeEnvironment)
    (run : EvaluationRunView) :
    overallStatus (outcomesOf environment run 0 none (allEvaluators libraries)) = .fail ↔
      ∃ outcome ∈ outcomesOf environment run 0 none (allEvaluators libraries),
        outcome.executionStatus = .completed ∧ ∃ result ∈ outcome.result, result.passed = false := by
  have hagree : ∀ outcome ∈ outcomesOf environment run 0 none (allEvaluators libraries),
      labelledFail outcome = true ↔ outcome.executionStatus = .completed ∧
        ∃ result ∈ outcome.result, result.passed = false := by
    intro outcome ho
    rw [labelledFail_iff]
    apply and_congr_right
    intro hcompleted
    obtain ⟨evaluator, result, hresult, hregistered⟩ :=
      registry_outcome libraries environment run outcome ho hcompleted
    simp [hresult, hregistered.coherent.fails]
  rw [overallStatus_fail_iff]
  constructor
  · intro h
    obtain ⟨outcome, ho, hlabelled⟩ := h
    exact ⟨outcome, ho, (hagree outcome ho).mp hlabelled⟩
  · intro h
    obtain ⟨outcome, ho, hpassed⟩ := h
    exact ⟨outcome, ho, (hagree outcome ho).mpr hpassed⟩

/-- The evaluators of the registry, the table of finding codes and the classifier agree. -/
theorem registry_coherent (libraries : JudgeLibraries) (run : EvaluationRunView) :
    (∀ evaluator ∈ allEvaluators libraries, ∀ result, Returns evaluator run result →
      Coherent result ∧ (evaluator.type = .deterministic → Scored result) ∧
        ∀ finding ∈ result.findings, Mapped finding) ∧
    ∀ environment,
      (classify (outcomesOf environment run 0 none (allEvaluators libraries))).primaryCategory ≠
        some .unknown ∧
      (classify (outcomesOf environment run 0 none (allEvaluators libraries))).secondaryCategory ≠
        some .unknown ∧
      (overallStatus (outcomesOf environment run 0 none (allEvaluators libraries)) = .fail ↔
        ∃ outcome ∈ outcomesOf environment run 0 none (allEvaluators libraries),
          outcome.executionStatus = .completed ∧
            ∃ result ∈ outcome.result, result.passed = false) := by
  constructor
  · intro evaluator hevaluator result hreturns
    have h := registry_registered libraries run evaluator hevaluator result hreturns
    exact ⟨h.coherent, h.scored, h.mapped⟩
  · intro environment
    have hknown := registry_known libraries environment run
    have hfails := registry_fails_by_passed libraries environment run
    exact ⟨fun h => hknown (classify_mentions _ _ (.inl h)),
      fun h => hknown (classify_mentions _ _ (.inr h)), hfails⟩

theorem registry_coherent_policy :
    Coherent (policy bypassedView) ∧ Scored (policy bypassedView) ∧
      ∀ finding ∈ (policy bypassedView).findings, Mapped finding := by
  obtain ⟨hcoherent, hscored, hmapped⟩ := (registry_coherent noLibraries bypassedView).1
    policyEvaluator (by simp [allEvaluators]) (policy bypassedView) rfl
  exact ⟨hcoherent, hscored rfl, hmapped⟩

end ObsPlatform.Evaluation
