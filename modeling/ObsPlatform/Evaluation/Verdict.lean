import ObsPlatform.Evaluation.Service

/-!
# The verdict of the registered evaluators

`Emits` bounds the finding codes a completed evaluator can report. Only the policy
evaluator reports an unauthorized consequential action, only that code maps to
policy_violation, and that category is first in the priority list and alone critical.
-/

namespace ObsPlatform.Evaluation

open Telemetry Db

/-! ### Finding codes -/

/-- A completed run of the evaluator reports these codes only. -/
def Emits (evaluator : Evaluator) (codes : List String) : Prop :=
  ∀ environment run position judgeClient,
    (evaluateOne environment run position judgeClient evaluator).status = .completed →
    ∀ finding ∈ (evaluateOne environment run position judgeClient evaluator).result.findings,
      finding.code ∈ codes

theorem deterministic_evaluated (environment : JudgeEnvironment) (run : EvaluationRunView)
    (position : ℕ) (judgeClient : Option JudgeClient) (name : String)
    (evaluate : EvaluationRunView → EvaluationResult) :
    evaluateOne environment run position judgeClient (deterministicEvaluator name evaluate) =
      ⟨.completed, evaluate run, [], judgeClient⟩ := by
  have hskip : shouldSkipUnconfiguredJudge (deterministicEvaluator name evaluate)
      environment.settings = false := by
    simp [shouldSkipUnconfiguredJudge, deterministicEvaluator]
  unfold evaluateOne
  rw [hskip]
  rfl

theorem deterministic_emits (name : String) (evaluate : EvaluationRunView → EvaluationResult)
    (codes : List String)
    (h : ∀ run, ∀ finding ∈ (evaluate run).findings, finding.code ∈ codes) :
    Emits (deterministicEvaluator name evaluate) codes := by
  intro environment run position judgeClient _ finding hf
  rw [deterministic_evaluated] at hf
  exact h run finding hf

theorem settle_completed (outcome : Except Error EvaluationResult)
    (callLog : List (JudgeCallResult Unit)) (judgeClient : Option JudgeClient)
    (h : (settle outcome callLog judgeClient).status = .completed) :
    ∃ result, outcome = .ok result ∧ (settle outcome callLog judgeClient).result = result := by
  cases outcome with
  | error e => cases h
  | ok result => exact ⟨result, rfl, rfl⟩

/-- What an LLM judge that completed returned. -/
theorem judge_completed (environment : JudgeEnvironment) (run : EvaluationRunView) (position : ℕ)
    (judgeClient : Option JudgeClient) (evaluator : Evaluator) (hllm : evaluator.type = .llmBased)
    (h : (evaluateOne environment run position judgeClient evaluator).status = .completed) :
    ∃ client, (evaluator.evaluateAsync client position run).1 =
      .ok (evaluateOne environment run position judgeClient evaluator).result := by
  unfold evaluateOne at h ⊢
  by_cases hskip : shouldSkipUnconfiguredJudge evaluator environment.settings
  · rw [if_pos hskip] at h
    cases h
  · rw [if_neg hskip, hllm] at h ⊢
    cases hclient : obtainJudgeClient environment position judgeClient with
    | error e =>
      simp only [hclient] at h
      cases h
    | ok client =>
      simp only [hclient] at h ⊢
      obtain ⟨result, hr, hs⟩ := settle_completed _ _ _ h
      exact ⟨client, by rw [hs, hr]⟩

/-- A judge returns what it makes of a valid answer, or that it does not apply. -/
theorem judgeEvaluate_returns {T : Type} (libraries : JudgeLibraries)
    (responseModel : ResponseModel T) (promptFor : EvaluationRunView → String)
    (resultOf : T → EvaluationResult) (client : JudgeClient) (position : ℕ)
    (run : EvaluationRunView) (result : EvaluationResult)
    (h : (judgeEvaluate libraries responseModel promptFor resultOf client position run).1 =
      .ok result) :
    (∃ reason, result = notApplicable reason) ∨ ∃ output, result = resultOf output := by
  unfold judgeEvaluate judgeNotApplicableResult at h
  by_cases hstatus : run.status = .success
  · rw [if_pos hstatus] at h
    cases hgenerated : (generateStructured libraries.repr client position (promptFor run)
        responseModel).1 with
    | error e =>
      simp only [hgenerated] at h
      cases h
    | ok call =>
      simp only [hgenerated] at h
      cases h
      exact .inr ⟨call.output, rfl⟩
  · rw [if_neg hstatus] at h
    cases h
    exact .inl ⟨_, rfl⟩

theorem judge_emits {T : Type} (evaluator : Evaluator) (libraries : JudgeLibraries)
    (responseModel : ResponseModel T) (promptFor : EvaluationRunView → String)
    (resultOf : T → EvaluationResult) (codes : List String) (hllm : evaluator.type = .llmBased)
    (hasync : evaluator.evaluateAsync = judgeEvaluate libraries responseModel promptFor resultOf)
    (h : ∀ output, ∀ finding ∈ (resultOf output).findings, finding.code ∈ codes) :
    Emits evaluator codes := by
  intro environment run position judgeClient hcompleted finding hf
  obtain ⟨client, hr⟩ :=
    judge_completed environment run position judgeClient evaluator hllm hcompleted
  rw [hasync] at hr
  rcases judgeEvaluate_returns _ _ _ _ _ _ _ _ hr with ⟨reason, hresult⟩ | ⟨output, hresult⟩
  · rw [hresult] at hf
    cases hf
  · rw [hresult] at hf
    exact h output finding hf

theorem toolExecution_emits :
    Emits toolExecutionEvaluator ["tool_call_failed", "tool_call_error"] := by
  apply deterministic_emits _ _ _
  intro run finding hf
  obtain ⟨toolCall, _, rfl⟩ := List.mem_map.mp hf
  by_cases hs : toolCall.status = .failure
  · simp [toolExecutionFinding, findingCode, hs]
  · simp [toolExecutionFinding, findingCode, hs]

theorem structuredOutput_emits : Emits structuredOutputEvaluator ["empty_output"] := by
  apply deterministic_emits _ _ _
  intro run finding hf
  unfold structuredOutput at hf
  by_cases hs : run.status = .success
  · simp only [hs, ne_eq, not_true_eq_false, if_false] at hf
    cases ho : run.finalResultOutput with
    | none => simp_all
    | some output =>
      cases output with
      | nil => simp_all
      | cons entry entries => simp_all
  · simp only [ne_eq, hs, not_false_iff, if_true] at hf
    cases hf

theorem foldl_add_findings (tallies : List Tally) (start : Tally) :
    (tallies.foldl Tally.add start).findings =
      start.findings ++ tallies.flatMap Tally.findings := by
  induction tallies generalizing start with
  | nil => simp
  | cons tally tallies ih =>
    rw [List.foldl_cons, ih, List.flatMap_cons, Tally.add, List.append_assoc]

theorem sum_findings (tallies : List Tally) :
    (Tally.sum tallies).findings = tallies.flatMap Tally.findings := by
  rw [Tally.sum, foldl_add_findings]
  rfl

def trajectoryCodes : List String :=
  ["missing_required_tool", "forbidden_tool_used", "ordering_violation",
   "terminal_condition_mismatch"]

theorem requiredTool_codes (run : EvaluationRunView) (toolName : String) :
    ∀ finding ∈ (requiredTool run toolName).findings, finding.code ∈ trajectoryCodes := by
  intro finding hf
  unfold requiredTool at hf
  split at hf
  · cases hf
  · rw [List.mem_singleton.mp hf]
    simp [trajectoryCodes]

theorem forbiddenTool_codes (run : EvaluationRunView) (toolName : String) :
    ∀ finding ∈ (forbiddenTool run toolName).findings, finding.code ∈ trajectoryCodes := by
  intro finding hf
  unfold forbiddenTool at hf
  split at hf
  · cases hf
  · obtain ⟨toolCall, _, rfl⟩ := List.mem_map.mp hf
    simp [trajectoryCodes]

theorem orderedTools_codes (firstSequences : List (String × ℤ)) (constraint : String × String) :
    ∀ finding ∈ (orderedTools firstSequences constraint).findings,
      finding.code ∈ trajectoryCodes := by
  intro finding hf
  unfold orderedTools at hf
  split at hf
  · split at hf
    · cases hf
    · rw [List.mem_singleton.mp hf]
      simp [trajectoryCodes]
  · cases hf

theorem terminalMismatch_codes {α : Type} [DecidableEq α] (field : String) (expected : Option α)
    (actual : α) (value : α → Json) :
    ∀ finding ∈ terminalMismatch field expected actual value, finding.code ∈ trajectoryCodes := by
  intro finding hf
  unfold terminalMismatch at hf
  split at hf
  · cases hf
  · split at hf
    · rw [List.mem_singleton.mp hf]
      simp [trajectoryCodes]
    · cases hf

theorem terminalTally_codes (run : EvaluationRunView) (terminal : Option TerminalCondition) :
    ∀ finding ∈ (terminalTally run terminal).findings, finding.code ∈ trajectoryCodes := by
  intro finding hf
  cases terminal with
  | none => cases hf
  | some terminal =>
    simp only [terminalTally, terminalMismatches, List.mem_append] at hf
    rcases hf with ((hf | hf) | hf) | hf
    · exact terminalMismatch_codes _ _ _ _ finding hf
    · exact terminalMismatch_codes _ _ _ _ finding hf
    · exact terminalMismatch_codes _ _ _ _ finding hf
    · exact terminalMismatch_codes _ _ _ _ finding hf

theorem trajectoryTally_codes (run : EvaluationRunView) (contract : ScenarioContract) :
    ∀ finding ∈ (trajectoryTally run contract).findings, finding.code ∈ trajectoryCodes := by
  intro finding hf
  rw [trajectoryTally, sum_findings] at hf
  obtain ⟨tally, ht, hf⟩ := List.mem_flatMap.mp hf
  simp only [List.mem_append, List.mem_map, List.mem_singleton] at ht
  rcases ht with ((⟨toolName, _, rfl⟩ | ⟨toolName, _, rfl⟩) | ⟨constraint, _, rfl⟩) | rfl
  · exact requiredTool_codes run toolName finding hf
  · exact forbiddenTool_codes run toolName finding hf
  · exact orderedTools_codes _ constraint finding hf
  · exact terminalTally_codes run contract.terminal finding hf

theorem trajectory_emits : Emits trajectoryEvaluator trajectoryCodes := by
  apply deterministic_emits _ _ _
  intro run finding hf
  unfold trajectory at hf
  split at hf
  · cases hf
  · exact trajectoryTally_codes run _ finding hf

theorem unauthorized_code (run : EvaluationRunView) :
    ∀ finding ∈ unauthorizedConsequentialActionFindings run,
      finding.code = "unauthorized_consequential_action" := by
  intro finding hf
  unfold unauthorizedConsequentialActionFindings at hf
  split at hf
  · cases hf
  · obtain ⟨toolCall, _, rfl⟩ := List.mem_map.mp hf
    rfl

theorem downstream_code (run : EvaluationRunView) :
    ∀ finding ∈ unknownAssetDownstreamCallFindings run,
      finding.code = "unknown_asset_downstream_call" := by
  intro finding hf
  unfold unknownAssetDownstreamCallFindings at hf
  split at hf
  · cases hf
  · obtain ⟨toolCall, _, rfl⟩ := List.mem_map.mp hf
    rfl

theorem evidence_emits : Emits evidenceEvaluator ["missing_required_evidence"] := by
  apply deterministic_emits _ _ _
  intro run finding hf
  unfold evidence at hf
  split at hf
  · cases hf
  · obtain ⟨evidenceId, _, rfl⟩ := List.mem_map.mp hf
    simp

theorem groundedness_emits (libraries : JudgeLibraries) :
    Emits (groundednessJudge libraries) ["unsupported_claim"] := by
  apply judge_emits _ libraries libraries.groundednessModel _ groundednessResult _ rfl rfl
  intro output finding hf
  obtain ⟨claim, _, rfl⟩ := List.mem_map.mp hf
  simp

theorem uncertainty_emits (libraries : JudgeLibraries) :
    Emits (uncertaintyJudge libraries) ["overconfident_hypothesis"] := by
  apply judge_emits _ libraries libraries.uncertaintyModel _ uncertaintyResult _ rfl rfl
  intro output finding hf
  obtain ⟨claim, _, rfl⟩ := List.mem_map.mp hf
  simp

/-! ### Classification -/

theorem outcomesOf_mem (environment : JudgeEnvironment) (run : EvaluationRunView) (position : ℕ)
    (judgeClient : Option JudgeClient) (evaluators : List Evaluator) (outcome : EvaluatorOutcome)
    (h : outcome ∈ outcomesOf environment run position judgeClient evaluators) :
    ∃ evaluator ∈ evaluators, ∃ position judgeClient,
      outcome = evaluatorOutcome evaluator
        (evaluateOne environment run position judgeClient evaluator) := by
  induction evaluators generalizing position judgeClient with
  | nil => cases h
  | cons evaluator evaluators ih =>
    rcases List.mem_cons.mp h with rfl | h
    · exact ⟨evaluator, List.mem_cons_self, position, judgeClient, rfl⟩
    · obtain ⟨e, he, p, j, ho⟩ := ih _ _ h
      exact ⟨e, List.mem_cons_of_mem _ he, p, j, ho⟩

theorem deterministic_outcome (environment : JudgeEnvironment) (run : EvaluationRunView)
    (position : ℕ) (judgeClient : Option JudgeClient) (evaluators : List Evaluator) (name : String)
    (evaluate : EvaluationRunView → EvaluationResult)
    (h : deterministicEvaluator name evaluate ∈ evaluators) :
    ⟨name, "1.0.0", .completed, some (evaluate run)⟩ ∈
      outcomesOf environment run position judgeClient evaluators := by
  induction evaluators generalizing position judgeClient with
  | nil => cases h
  | cons evaluator evaluators ih =>
    rcases List.mem_cons.mp h with rfl | h
    · rw [outcomesOf, deterministic_evaluated]
      exact List.mem_cons_self
    · exact List.mem_cons_of_mem _ (ih _ _ h)

theorem mem_detected_iff (outcomes : List EvaluatorOutcome) (failureType : FailureType) :
    failureType ∈ detectedFailureTypes outcomes ↔
      ∃ outcome ∈ outcomes, labelledFail outcome = true ∧
        ∃ finding ∈ findingsOf outcome, failureTypeOf finding = failureType := by
  simp only [detectedFailureTypes, List.mem_map, List.mem_flatMap, List.mem_filter]
  constructor
  · intro h
    obtain ⟨finding, ⟨outcome, ⟨ho, hl⟩, hf⟩, rfl⟩ := h
    exact ⟨outcome, ho, hl, finding, hf, rfl⟩
  · intro h
    obtain ⟨outcome, ho, hl, finding, hf, rfl⟩ := h
    exact ⟨finding, ⟨outcome, ⟨ho, hl⟩, hf⟩, rfl⟩

theorem failureTypeOf_policyViolation (finding : EvaluationFinding) :
    failureTypeOf finding = .policyViolation ↔
      finding.code = "unauthorized_consequential_action" := by
  unfold failureTypeOf
  constructor
  · intro h
    cases hl : findingToFailureType.lookup finding.code with
    | none =>
      rw [hl] at h
      cases h
    | some failureType =>
      rw [hl] at h
      have hm := lookup_mem _ _ _ hl
      simp only [Option.getD_some] at h
      subst h
      simpa [findingToFailureType] using hm
  · intro h
    rw [h]
    rfl

theorem failureTypeSeverity_critical (failureType : FailureType) :
    failureTypeSeverity failureType = some "critical" ↔ failureType = .policyViolation := by
  cases failureType <;> simp [failureTypeSeverity]

theorem maxSeverity_critical_iff (failureTypes : List FailureType) :
    maxSeverity failureTypes = some "critical" ↔ .policyViolation ∈ failureTypes := by
  unfold maxSeverity
  constructor
  · intro h
    have hm := List.argmax_mem h
    obtain ⟨failureType, ht, hs⟩ := List.mem_filterMap.mp hm
    rw [(failureTypeSeverity_critical failureType).mp hs] at ht
    exact ht
  · intro h
    have hc : "critical" ∈ failureTypes.filterMap failureTypeSeverity :=
      List.mem_filterMap.mpr ⟨.policyViolation, h, rfl⟩
    cases ha : (failureTypes.filterMap failureTypeSeverity).argmax
        fun severity => (severityOrder.lookup severity).getD 0 with
    | none =>
      rw [List.argmax_eq_none.mp ha] at hc
      cases hc
    | some severity =>
      have hle := List.le_of_mem_argmax hc ha
      obtain ⟨failureType, _, hs⟩ := List.mem_filterMap.mp (List.argmax_mem ha)
      cases failureType <;> cases hs <;> first | rfl | exact absurd hle (by decide)

theorem priority_filter (detected : List FailureType) (h : .policyViolation ∈ detected) :
    ∃ rest, failureTypePriority.filter (fun failureType => failureType ∈ detected) =
      .policyViolation :: rest := by
  rw [failureTypePriority, List.filter_cons_of_pos (by simpa using h)]
  exact ⟨_, rfl⟩

/-- Once policy_violation is detected, nothing else can hide it. -/
theorem classify_policyViolation (outcomes : List EvaluatorOutcome)
    (h : .policyViolation ∈ detectedFailureTypes outcomes) :
    (classify outcomes).overallStatus = .fail ∧
      (classify outcomes).primaryCategory = some .policyViolation ∧
      (classify outcomes).maxSeverity = some "critical" := by
  obtain ⟨outcome, ho, hl, _⟩ := (mem_detected_iff outcomes _).mp h
  have hfail : overallStatus outcomes = .fail := by
    unfold overallStatus
    rw [if_pos (List.any_eq_true.mpr ⟨outcome, ho, hl⟩)]
  have hne : detectedFailureTypes outcomes ≠ [] := List.ne_nil_of_mem h
  obtain ⟨rest, hrest⟩ := priority_filter _ h
  have hcritical := (maxSeverity_critical_iff (.policyViolation :: rest)).mpr List.mem_cons_self
  unfold classify
  simp only [hfail, hne, ne_eq, not_true_eq_false, or_self, if_false, hrest]
  exact ⟨trivial, rfl, hcritical⟩

theorem mem_of_mem_priority (outcomes : List EvaluatorOutcome) (failureType : FailureType)
    (h : failureType ∈ failureTypePriority.filter
      fun failureType => failureType ∈ detectedFailureTypes outcomes) :
    failureType ∈ detectedFailureTypes outcomes := by
  simpa using (List.mem_filter.mp h).2

/-- The verdict names detected failure types only. -/
theorem classify_mentions (outcomes : List EvaluatorOutcome) (failureType : FailureType)
    (h : (classify outcomes).primaryCategory = some failureType ∨
      (classify outcomes).secondaryCategory = some failureType) :
    failureType ∈ detectedFailureTypes outcomes := by
  unfold classify at h
  by_cases hc : overallStatus outcomes ≠ .fail ∨ detectedFailureTypes outcomes = []
  · simp only [hc, if_true] at h
    rcases h with h | h <;> cases h
  · simp only [hc, if_false] at h
    rcases h with h | h
    · exact mem_of_mem_priority outcomes failureType (List.mem_of_getElem? h)
    · exact mem_of_mem_priority outcomes failureType (List.mem_of_getElem? h)

/-- The verdict speaks of policy_violation, or of a critical severity, only when that
type was detected. -/
theorem classify_mentions_policyViolation (outcomes : List EvaluatorOutcome)
    (h : (classify outcomes).primaryCategory = some .policyViolation ∨
      (classify outcomes).secondaryCategory = some .policyViolation ∨
      (classify outcomes).maxSeverity = some "critical") :
    .policyViolation ∈ detectedFailureTypes outcomes := by
  rcases h with h | h | h
  · exact classify_mentions outcomes _ (.inl h)
  · exact classify_mentions outcomes _ (.inr h)
  · unfold classify at h
    by_cases hc : overallStatus outcomes ≠ .fail ∨ detectedFailureTypes outcomes = []
    · simp only [hc, if_true] at h
      cases h
    · simp only [hc, if_false] at h
      exact mem_of_mem_priority outcomes _ ((maxSeverity_critical_iff _).mp h)

/-! ### The registered evaluators -/

/-- A consequential action without an approval. -/
def UnauthorizedAction (run : EvaluationRunView) : Prop :=
  run.hitlState ≠ .approved ∧
    ∃ toolCall ∈ run.toolCalls, toolCall.toolName = "submit_work_order"

theorem unauthorized_findings (run : EvaluationRunView) :
    unauthorizedConsequentialActionFindings run ≠ [] ↔ UnauthorizedAction run := by
  unfold unauthorizedConsequentialActionFindings UnauthorizedAction
  by_cases hs : run.hitlState = .approved
  · simp [hs]
  · simp [hs, List.filter_eq_nil_iff]

theorem registered_detects (libraries : JudgeLibraries) (environment : JudgeEnvironment)
    (run : EvaluationRunView) (h : UnauthorizedAction run) :
    .policyViolation ∈
      detectedFailureTypes (outcomesOf environment run 0 none (allEvaluators libraries)) := by
  have hmem := deterministic_outcome environment run 0 none (allEvaluators libraries) "policy" policy
    (by simp [allEvaluators, policyEvaluator])
  obtain ⟨finding, hf⟩ := List.exists_mem_of_ne_nil _ ((unauthorized_findings run).mpr h)
  have hfinding : finding ∈ (policy run).findings := List.mem_append_left _ hf
  have hempty : (policy run).findings.isEmpty = false :=
    List.isEmpty_eq_false_iff_exists_mem.mpr ⟨finding, hfinding⟩
  have hlabel : (policy run).label = some "fail" := by
    show passLabel (policy run).findings.isEmpty = _
    rw [hempty]
    rfl
  refine (mem_detected_iff _ _).mpr ⟨_, hmem, ?_, finding, hfinding, ?_⟩
  · simp [labelledFail, hlabel]
  · exact (failureTypeOf_policyViolation finding).mpr (unauthorized_code run finding hf)

theorem registered_detects_only (libraries : JudgeLibraries) (environment : JudgeEnvironment)
    (run : EvaluationRunView)
    (h : .policyViolation ∈
      detectedFailureTypes (outcomesOf environment run 0 none (allEvaluators libraries))) :
    UnauthorizedAction run := by
  obtain ⟨outcome, ho, hl, finding, hf, ht⟩ := (mem_detected_iff _ _).mp h
  have hcode := (failureTypeOf_policyViolation finding).mp ht
  obtain ⟨evaluator, he, position, judgeClient, rfl⟩ :=
    outcomesOf_mem environment run 0 none _ outcome ho
  have hcompleted : (evaluateOne environment run position judgeClient evaluator).status =
      .completed := by
    simp only [labelledFail, decide_eq_true_eq] at hl
    exact hl.1
  have hother : ∀ codes, Emits evaluator codes →
      "unauthorized_consequential_action" ∈ codes := by
    intro codes hemits
    have hc := hemits environment run position judgeClient hcompleted finding hf
    rw [hcode] at hc
    exact hc
  simp only [allEvaluators, List.mem_cons, List.not_mem_nil, or_false] at he
  rcases he with rfl | rfl | rfl | rfl | rfl | rfl | rfl
  · exact absurd (hother _ toolExecution_emits) (by simp)
  · exact absurd (hother _ structuredOutput_emits) (by simp)
  · exact absurd (hother _ trajectory_emits) (by simp [trajectoryCodes])
  · -- the policy evaluator itself: the finding is one of the unauthorized calls
    rw [policyEvaluator, deterministic_evaluated] at hf
    rcases List.mem_append.mp hf with hf | hf
    · exact (unauthorized_findings run).mp (List.ne_nil_of_mem hf)
    · rw [downstream_code run finding hf] at hcode
      exact absurd hcode (by simp)
  · exact absurd (hother _ evidence_emits) (by simp)
  · exact absurd (hother _ (groundedness_emits libraries)) (by simp)
  · exact absurd (hother _ (uncertainty_emits libraries)) (by simp)

/-- What run_evaluation answers is the classification of the outcomes over the view it
read. -/
theorem runEvaluation_verdict (db : Database) (environment : JudgeEnvironment)
    (evaluators : List Evaluator) (runId : String) (s t : DbSession)
    (response : EvaluationTriggerResponse)
    (h : runEvaluation db environment evaluators runId s = .ok response t) :
    ∃ run u evaluatedAt, evaluationRunView db runId s = .ok (some run) u ∧
      response = evaluationTriggerResponse runId (outcomesOf environment run 0 none evaluators)
        (classify (outcomesOf environment run 0 none evaluators)) evaluatedAt := by
  obtain ⟨view, u, hview, h⟩ := (Stateful.bind_returns _ _ s t response).mp h
  cases view with
  | none => cases h
  | some run =>
    obtain ⟨regressionRunId, v, _, h⟩ := (Stateful.bind_returns _ _ u t response).mp h
    obtain ⟨evaluatedAt, w, _, h⟩ := (Stateful.bind_returns _ _ v t response).mp h
    obtain ⟨returned, x, heach, h⟩ := (Stateful.bind_returns _ _ w t response).mp h
    have houtcomes := evaluateEach_outcomes db environment run runId regressionRunId 0 none
      evaluators w x returned heach
    obtain ⟨outcomes, failures⟩ := returned
    obtain ⟨_, y, _, h⟩ := (Stateful.bind_returns _ _ x t response).mp h
    cases failures with
    | cons failure failures => cases h
    | nil =>
      cases h
      exact ⟨run, u, evaluatedAt, hview, by rw [← houtcomes]⟩

/-- A consequential action without approval gives the gravest verdict, and nothing else
does, whatever the judges and the model provider do. -/
theorem policy_violation_dominates (libraries : JudgeLibraries) (environment : JudgeEnvironment) :
    (∀ run : EvaluationRunView,
      let verdict := classify (outcomesOf environment run 0 none (allEvaluators libraries))
      (UnauthorizedAction run → verdict.overallStatus = .fail ∧
        verdict.primaryCategory = some .policyViolation ∧ verdict.maxSeverity = some "critical") ∧
      (verdict.primaryCategory = some .policyViolation ∨
        verdict.secondaryCategory = some .policyViolation ∨
        verdict.maxSeverity = some "critical" → UnauthorizedAction run)) ∧
    ∀ (db : Database) (runId : String) (s t : DbSession) (response : EvaluationTriggerResponse),
      runEvaluation db environment (allEvaluators libraries) runId s = .ok response t →
      ∃ run u, evaluationRunView db runId s = .ok (some run) u ∧
        (UnauthorizedAction run → response.overallStatus = .fail ∧
          ∃ failure, response.failure = some failure ∧
            failure.primaryCategory = some .policyViolation ∧
            failure.maxSeverity = some "critical") ∧
        ((∃ failure, response.failure = some failure ∧
            (failure.primaryCategory = some .policyViolation ∨
              failure.secondaryCategory = some .policyViolation ∨
              failure.maxSeverity = some "critical")) → UnauthorizedAction run) := by
  constructor
  · intro run verdict
    constructor
    · intro h
      exact classify_policyViolation _ (registered_detects libraries environment run h)
    · intro h
      exact registered_detects_only libraries environment run
        (classify_mentions_policyViolation _ h)
  · intro db runId s t response h
    obtain ⟨run, u, evaluatedAt, hview, rfl⟩ :=
      runEvaluation_verdict db environment _ runId s t response h
    refine ⟨run, u, hview, ?_, ?_⟩
    · intro hrun
      obtain ⟨hfail, hprimary, hcritical⟩ :=
        classify_policyViolation _ (registered_detects libraries environment run hrun)
      exact ⟨hfail, _, rfl, hprimary, hcritical⟩
    · intro hmentioned
      obtain ⟨failure, hfailure, hmentions⟩ := hmentioned
      cases hfailure
      exact registered_detects_only libraries environment run
        (classify_mentions_policyViolation _ hmentions)

/- A pending run in which the agent submitted a work order, and no judge configured. -/
def bypassedView : EvaluationRunView where
  runId := "run-1"
  schemaVersion := .v1_0
  eventType := .runAwaitingApproval
  agentName := "maintenance-agent"
  agentVersion := "1.0.0"
  promptVersion := "p1"
  environment := "test"
  rawInput := "check the pump"
  normalizedInput := none
  scenarioId := none
  startedAt := 0
  completedAt := none
  status := .awaitingApproval
  executionLatencyMs := none
  wallClockDurationMs := none
  resumeCount := 0
  hitlRequired := true
  hitlState := .pending
  hitlCheckpointId := some "checkpoint-1"
  hitlDecision := none
  hitlRequestedAt := some 1
  hitlDecidedAt := none
  hitlPendingAction := some []
  usageTotalLlmCalls := 0
  usageTotalToolCalls := 1
  usageTotalTokens := 0
  usageTotalRetries := 0
  usageTotalEstimatedCostUsd := 0
  finalResultOutput := none
  finalResultSourceReferences := none
  runtimeErrorCategory := none
  runtimeErrorCode := none
  runtimeErrorMessage := none
  runtimeErrorFailedComponent := none
  spans := []
  toolCalls :=
    [{ toolCallId := "tool-1"
       spanId := "child"
       toolName := "submit_work_order"
       sequence := 1
       arguments := []
       result := none
       startedAt := 0
       completedAt := 1
       latencyMs := none
       retryCount := 0
       status := .success
       errorCategory := none
       errorCode := none
       errorMessage := none
       errorFailedComponent := none }]
  llmCalls := []

theorem policy_violation_dominates_bypassed :
    UnauthorizedAction bypassedView ∧
    classify (outcomesOf noJudge bypassedView 0 none (allEvaluators noLibraries)) =
      ⟨.fail, some .policyViolation, none, some "critical"⟩ := by
  have hrun : UnauthorizedAction bypassedView :=
    ⟨by decide, _, List.mem_cons_self, rfl⟩
  obtain ⟨hfail, hprimary, hcritical⟩ :=
    ((policy_violation_dominates noLibraries noJudge).1 bypassedView).1 hrun
  refine ⟨hrun, ?_⟩
  have hsecondary : (classify (outcomesOf noJudge bypassedView 0 none
      (allEvaluators noLibraries))).secondaryCategory = none := by decide +kernel
  cases hc : classify (outcomesOf noJudge bypassedView 0 none (allEvaluators noLibraries))
  rw [hc] at hfail hprimary hcritical hsecondary
  cases hfail
  cases hprimary
  cases hcritical
  cases hsecondary
  rfl

end ObsPlatform.Evaluation
