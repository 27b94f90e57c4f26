import ObsPlatform.Evaluation.Verdict

/-!
# Which failures have a category

Labels decide whether a run fails, findings decide its category. The deterministic
evaluators report a finding whenever they fail; a judge's verdict and its list of claims
are two fields of the model's answer that nothing ties together.
-/

namespace ObsPlatform.Evaluation

open Telemetry Db

/-! ### The outcomes of the registered evaluators -/

/-- What became of a judge. -/
inductive JudgeOutcome (T : Type) where
  | skipped
  | failed (error : Error)
  | notApplicable
  | completed (output : T)

def deterministicEvaluations : List (String × (EvaluationRunView → EvaluationResult)) :=
  [("tool_execution", toolExecution), ("structured_output", structuredOutput),
   ("trajectory", trajectory), ("policy", policy), ("evidence", evidence)]

def judgeOutcome {T : Type} (name : String) (resultOf : T → EvaluationResult) :
    JudgeOutcome T → EvaluatorOutcome
  | .skipped => ⟨name, "1.0.0", .skipped, some judgeUnavailableResult⟩
  | .failed error => ⟨name, "1.0.0", .failed, some (evaluatorExceptionResult error)⟩
  | .notApplicable => ⟨name, "1.0.0", .completed,
      some (notApplicable "final result output is not expected for this run status")⟩
  | .completed output => ⟨name, "1.0.0", .completed, some (resultOf output)⟩

/-- The outcomes of the registered evaluators on a view, given those of the two judges. -/
def registryOutcomes (run : EvaluationRunView) (groundedness : JudgeOutcome GroundednessJudgeOutput)
    (uncertainty : JudgeOutcome UncertaintyJudgeOutput) : List EvaluatorOutcome :=
  (deterministicEvaluations.map fun entry =>
    ⟨entry.1, "1.0.0", .completed, some (entry.2 run)⟩) ++
  [judgeOutcome "groundedness" groundednessResult groundedness,
   judgeOutcome "uncertainty" uncertaintyResult uncertainty]

theorem judgeEvaluate_outcome {T : Type} (libraries : JudgeLibraries)
    (responseModel : ResponseModel T) (promptFor : EvaluationRunView → String)
    (resultOf : T → EvaluationResult) (client : JudgeClient) (position : ℕ)
    (run : EvaluationRunView) (evaluator : Evaluator) (hversion : evaluator.version = "1.0.0")
    (callLog : List (JudgeCallResult Unit)) (judgeClient : Option JudgeClient) :
    ∃ outcome : JudgeOutcome T, evaluatorOutcome evaluator (settle
      (judgeEvaluate libraries responseModel promptFor resultOf client position run).1 callLog
        judgeClient) = judgeOutcome evaluator.name resultOf outcome := by
  unfold judgeEvaluate judgeNotApplicableResult
  by_cases hstatus : run.status = .success
  · rw [if_pos hstatus]
    cases hgenerated :
        (generateStructured libraries.repr client position (promptFor run) responseModel).1 with
    | error e =>
      refine ⟨.failed e, ?_⟩
      simp [evaluatorOutcome, judgeOutcome, settle, hversion, Except.map, hgenerated]
    | ok call =>
      refine ⟨.completed call.output, ?_⟩
      simp [evaluatorOutcome, judgeOutcome, settle, hversion, Except.map, hgenerated]
  · rw [if_neg hstatus]
    refine ⟨.notApplicable, ?_⟩
    simp [evaluatorOutcome, judgeOutcome, settle, hversion]

theorem judge_outcome {T : Type} (libraries : JudgeLibraries) (responseModel : ResponseModel T)
    (promptFor : EvaluationRunView → String) (resultOf : T → EvaluationResult)
    (environment : JudgeEnvironment) (run : EvaluationRunView) (position : ℕ)
    (judgeClient : Option JudgeClient) (evaluator : Evaluator) (hllm : evaluator.type = .llmBased)
    (hversion : evaluator.version = "1.0.0")
    (hasync : evaluator.evaluateAsync =
      judgeEvaluate libraries responseModel promptFor resultOf) :
    ∃ outcome : JudgeOutcome T,
      evaluatorOutcome evaluator (evaluateOne environment run position judgeClient evaluator) =
        judgeOutcome evaluator.name resultOf outcome := by
  unfold evaluateOne
  by_cases hskip : shouldSkipUnconfiguredJudge evaluator environment.settings
  · rw [if_pos hskip]
    refine ⟨.skipped, ?_⟩
    simp [evaluatorOutcome, judgeOutcome, hversion]
  · rw [if_neg hskip, hllm]
    cases obtainJudgeClient environment position judgeClient with
    | error e =>
      refine ⟨.failed e, ?_⟩
      simp [evaluatorOutcome, judgeOutcome, settle, hversion]
    | ok client =>
      rw [hasync]
      exact judgeEvaluate_outcome libraries responseModel promptFor resultOf client position run
        evaluator hversion _ _

/-- Every evaluation with the registry has such outcomes. -/
theorem registry_outcomes (libraries : JudgeLibraries) (environment : JudgeEnvironment)
    (run : EvaluationRunView) : ∃ groundedness uncertainty,
      outcomesOf environment run 0 none (allEvaluators libraries) =
        registryOutcomes run groundedness uncertainty := by
  have hdeterministic : ∀ name evaluate position judgeClient evaluators,
      outcomesOf environment run position judgeClient
        (deterministicEvaluator name evaluate :: evaluators) =
      ⟨name, "1.0.0", .completed, some (evaluate run)⟩ ::
        outcomesOf environment run (position + 1) judgeClient evaluators := by
    intro name evaluate position judgeClient evaluators
    rw [outcomesOf, deterministic_evaluated]
    rfl
  obtain ⟨groundedness, hg⟩ := judge_outcome libraries libraries.groundednessModel
    (groundednessPrompt libraries.dumps) groundednessResult environment run 5 none
    (groundednessJudge libraries) rfl rfl rfl
  obtain ⟨uncertainty, hu⟩ := judge_outcome libraries libraries.uncertaintyModel
    (uncertaintyPrompt libraries.dumps) uncertaintyResult environment run 6
    (evaluateOne environment run 5 none (groundednessJudge libraries)).judgeClient
    (uncertaintyJudge libraries) rfl rfl rfl
  refine ⟨groundedness, uncertainty, ?_⟩
  simp only [allEvaluators, toolExecutionEvaluator, structuredOutputEvaluator, trajectoryEvaluator,
    policyEvaluator, evidenceEvaluator, hdeterministic]
  simp only [outcomesOf, hg, hu]
  rfl

/-! ### Labels and findings -/

theorem passLabel_fail_iff (passed : Bool) : passLabel passed = some "fail" ↔ passed = false := by
  cases passed <;> simp [passLabel]

/-- A result that fails exactly when it did not pass, and then has a finding. -/
structure Justified (result : EvaluationResult) : Prop where
  label : result.label = some "fail" ↔ result.passed = false
  findings : result.passed = false → result.findings ≠ []

theorem justified_notApplicable (reason : String) : Justified (notApplicable reason) where
  label := by simp [notApplicable]
  findings := by simp [notApplicable]

/-- A result that passes when it has no finding. -/
theorem justified_of_findings (result : EvaluationResult)
    (hpassed : result.passed = result.findings.isEmpty)
    (hlabel : result.label = passLabel result.findings.isEmpty) : Justified result where
  label := by rw [hlabel, passLabel_fail_iff, hpassed]
  findings := by
    intro hfalse
    rw [hpassed] at hfalse
    exact List.isEmpty_eq_false_iff.mp hfalse

theorem deterministic_justified (run : EvaluationRunView) :
    ∀ entry ∈ deterministicEvaluations, Justified (entry.2 run) := by
  intro entry hentry
  simp only [deterministicEvaluations, List.mem_cons, List.not_mem_nil, or_false] at hentry
  rcases hentry with rfl | rfl | rfl | rfl | rfl
  · exact justified_of_findings _ rfl rfl
  · show Justified (structuredOutput run)
    unfold structuredOutput
    split
    · exact justified_notApplicable _
    · split
      · exact ⟨by simp, by simp⟩
      · exact ⟨by simp, by simp⟩
  · show Justified (trajectory run)
    unfold trajectory
    split
    · exact justified_notApplicable _
    · exact justified_of_findings _ rfl rfl
  · exact justified_of_findings _ rfl rfl
  · show Justified (evidence run)
    unfold evidence
    split
    · exact justified_notApplicable _
    · exact justified_of_findings _ rfl rfl

/-! ### The condition -/

section Judge
variable {T C : Type}

/-- The judge answered that the run does not pass. -/
def JudgeOutcome.Rejects (passed : T → Bool) (outcome : JudgeOutcome T) : Prop :=
  ∃ output, outcome = .completed output ∧ passed output = false

/-- It did, and listed a claim. -/
def JudgeOutcome.Lists (passed : T → Bool) (claims : T → List C) (outcome : JudgeOutcome T) :
    Prop :=
  ∃ output, outcome = .completed output ∧ passed output = false ∧ claims output ≠ []

theorem judgeOutcome_rejects (name : String) (resultOf : T → EvaluationResult) (passed : T → Bool)
    (hlabel : ∀ output, (resultOf output).label = passLabel (passed output))
    (outcome : JudgeOutcome T) :
    labelledFail (judgeOutcome name resultOf outcome) = true ↔ outcome.Rejects passed := by
  cases outcome with
  | skipped => simp [judgeOutcome, labelledFail, JudgeOutcome.Rejects]
  | failed e => simp [judgeOutcome, labelledFail, JudgeOutcome.Rejects]
  | notApplicable =>
    simp [judgeOutcome, labelledFail, JudgeOutcome.Rejects, notApplicable]
  | completed output =>
    simp [judgeOutcome, labelledFail, JudgeOutcome.Rejects, hlabel, passLabel_fail_iff]

theorem judgeOutcome_lists (name : String) (resultOf : T → EvaluationResult) (passed : T → Bool)
    (claims : T → List C) (hlabel : ∀ output, (resultOf output).label = passLabel (passed output))
    (hfindings : ∀ output, (resultOf output).findings = [] ↔ claims output = [])
    (outcome : JudgeOutcome T) :
    (labelledFail (judgeOutcome name resultOf outcome) = true ∧
      findingsOf (judgeOutcome name resultOf outcome) ≠ []) ↔ outcome.Lists passed claims := by
  rw [judgeOutcome_rejects name resultOf passed hlabel]
  cases outcome with
  | skipped => simp [JudgeOutcome.Rejects, JudgeOutcome.Lists]
  | failed e => simp [JudgeOutcome.Rejects, JudgeOutcome.Lists]
  | notApplicable => simp [JudgeOutcome.Rejects, JudgeOutcome.Lists]
  | completed output =>
    simp [JudgeOutcome.Rejects, JudgeOutcome.Lists, judgeOutcome, findingsOf, hfindings]

end Judge

/-- Some deterministic evaluator fails the run. -/
def DeterministicFails (run : EvaluationRunView) : Prop :=
  ∃ entry ∈ deterministicEvaluations, (entry.2 run).passed = false

/-- Either no judge rejects the run, or something that fails it names a finding. -/
def Categorised (run : EvaluationRunView) (groundedness : JudgeOutcome GroundednessJudgeOutput)
    (uncertainty : JudgeOutcome UncertaintyJudgeOutput) : Prop :=
  DeterministicFails run ∨
  groundedness.Lists GroundednessJudgeOutput.passed GroundednessJudgeOutput.unsupportedClaims ∨
  uncertainty.Lists UncertaintyJudgeOutput.passed UncertaintyJudgeOutput.overconfidentClaims ∨
  ¬ groundedness.Rejects GroundednessJudgeOutput.passed ∧
    ¬ uncertainty.Rejects UncertaintyJudgeOutput.passed

theorem overallStatus_fail_iff (outcomes : List EvaluatorOutcome) :
    overallStatus outcomes = .fail ↔ ∃ outcome ∈ outcomes, labelledFail outcome = true := by
  unfold overallStatus
  by_cases h : outcomes.any labelledFail = true
  · simp only [h, if_true, true_iff]
    exact List.any_eq_true.mp h
  · rw [if_neg h]
    constructor
    · intro hstatus
      split at hstatus <;> cases hstatus
    · intro hlabelled
      exact absurd (List.any_eq_true.mpr hlabelled) h

theorem detected_iff (outcomes : List EvaluatorOutcome) :
    detectedFailureTypes outcomes ≠ [] ↔
      ∃ outcome ∈ outcomes, labelledFail outcome = true ∧ findingsOf outcome ≠ [] := by
  constructor
  · intro h
    obtain ⟨failureType, hm⟩ := List.exists_mem_of_ne_nil _ h
    obtain ⟨outcome, ho, hl, finding, hf, _⟩ := (mem_detected_iff _ _).mp hm
    exact ⟨outcome, ho, hl, List.ne_nil_of_mem hf⟩
  · intro h
    obtain ⟨outcome, ho, hl, hfindings⟩ := h
    obtain ⟨finding, hf⟩ := List.exists_mem_of_ne_nil _ hfindings
    exact List.ne_nil_of_mem ((mem_detected_iff _ _).mpr ⟨outcome, ho, hl, finding, hf, rfl⟩)

/-- Every failure type has a place in the priority list. -/
theorem classify_category_iff (outcomes : List EvaluatorOutcome) :
    (classify outcomes).primaryCategory.isSome ↔
      overallStatus outcomes = .fail ∧ detectedFailureTypes outcomes ≠ [] := by
  unfold classify
  by_cases h : overallStatus outcomes ≠ .fail ∨ detectedFailureTypes outcomes = []
  · simp only [h, if_true, Option.isSome_none, Bool.false_eq_true, false_iff]
    tauto
  · simp only [h, if_false]
    have hfail := not_or.mp h
    obtain ⟨failureType, hm⟩ := List.exists_mem_of_ne_nil _ hfail.2
    have hplace : failureType ∈ failureTypePriority.filter fun failureType =>
        failureType ∈ detectedFailureTypes outcomes := by
      apply List.mem_filter.mpr
      refine ⟨?_, decide_eq_true hm⟩
      cases failureType <;> simp [failureTypePriority]
    have hlength := List.length_pos_of_mem hplace
    rw [List.getElem?_eq_getElem hlength]
    simp only [Option.isSome_some, true_iff]
    exact ⟨not_not.mp hfail.1, hfail.2⟩

theorem registry_fails_iff (run : EvaluationRunView)
    (groundedness : JudgeOutcome GroundednessJudgeOutput)
    (uncertainty : JudgeOutcome UncertaintyJudgeOutput) :
    overallStatus (registryOutcomes run groundedness uncertainty) = .fail ↔
      DeterministicFails run ∨ groundedness.Rejects GroundednessJudgeOutput.passed ∨
        uncertainty.Rejects UncertaintyJudgeOutput.passed := by
  have hg := judgeOutcome_rejects "groundedness" groundednessResult GroundednessJudgeOutput.passed
    (fun _ => rfl) groundedness
  have hu := judgeOutcome_rejects "uncertainty" uncertaintyResult UncertaintyJudgeOutput.passed
    (fun _ => rfl) uncertainty
  have hd : (∃ entry ∈ deterministicEvaluations, labelledFail
      ⟨entry.1, "1.0.0", .completed, some (entry.2 run)⟩ = true) ↔ DeterministicFails run := by
    apply exists_congr
    intro entry
    apply and_congr_right
    intro hm
    simp [labelledFail, (deterministic_justified run entry hm).label]
  rw [overallStatus_fail_iff, ← hg, ← hu, ← hd]
  simp [registryOutcomes, or_and_right, exists_or]

theorem registry_detects_iff (run : EvaluationRunView)
    (groundedness : JudgeOutcome GroundednessJudgeOutput)
    (uncertainty : JudgeOutcome UncertaintyJudgeOutput) :
    detectedFailureTypes (registryOutcomes run groundedness uncertainty) ≠ [] ↔
      DeterministicFails run ∨
      groundedness.Lists GroundednessJudgeOutput.passed
        GroundednessJudgeOutput.unsupportedClaims ∨
      uncertainty.Lists UncertaintyJudgeOutput.passed
        UncertaintyJudgeOutput.overconfidentClaims := by
  have hg := judgeOutcome_lists "groundedness" groundednessResult GroundednessJudgeOutput.passed
    GroundednessJudgeOutput.unsupportedClaims (fun _ => rfl) (fun _ => List.map_eq_nil_iff)
    groundedness
  have hu := judgeOutcome_lists "uncertainty" uncertaintyResult UncertaintyJudgeOutput.passed
    UncertaintyJudgeOutput.overconfidentClaims (fun _ => rfl) (fun _ => List.map_eq_nil_iff)
    uncertainty
  have hd : (∃ entry ∈ deterministicEvaluations,
      labelledFail ⟨entry.1, "1.0.0", .completed, some (entry.2 run)⟩ = true ∧
      findingsOf ⟨entry.1, "1.0.0", .completed, some (entry.2 run)⟩ ≠ []) ↔
        DeterministicFails run := by
    apply exists_congr
    intro entry
    apply and_congr_right
    intro hm
    have hjustified := deterministic_justified run entry hm
    simp only [labelledFail, findingsOf, Option.any_some, Option.elim_some, true_and,
      decide_eq_true_eq, hjustified.label]
    exact ⟨fun h => h.1, fun h => ⟨h, hjustified.findings h⟩⟩
  rw [detected_iff, ← hg, ← hu, ← hd]
  simp [registryOutcomes, or_and_right, exists_or]

/-- A verdict has a category exactly when it fails, but for a judge that rejects the run
without naming a claim where nothing else names a finding. -/
theorem registry_categorised_iff (run : EvaluationRunView)
    (groundedness : JudgeOutcome GroundednessJudgeOutput)
    (uncertainty : JudgeOutcome UncertaintyJudgeOutput) :
    ((classify (registryOutcomes run groundedness uncertainty)).overallStatus = .fail ↔
      (classify (registryOutcomes run groundedness uncertainty)).primaryCategory.isSome) ↔
    Categorised run groundedness uncertainty := by
  have hstatus : (classify (registryOutcomes run groundedness uncertainty)).overallStatus =
      overallStatus (registryOutcomes run groundedness uncertainty) := by
    simp only [classify]
    split <;> rfl
  rw [hstatus, classify_category_iff, registry_fails_iff, registry_detects_iff, Categorised]
  tauto

end ObsPlatform.Evaluation
