import ObsPlatform.Evaluation.Categories
import ObsPlatform.Evaluation.Trajectory

/-!
# Verdicts do not depend on row order

Rows of equal sequence come back from the database in any order. The evaluators read
lists, and what they return depends on the lists as multisets; the classifier reads a list
of outcomes, and what it returns depends on the statuses and the set of failure types.
-/

namespace ObsPlatform.Evaluation

open Telemetry Db

/-- Equal results up to the order of the findings. -/
structure SameVerdict (a b : EvaluationResult) : Prop where
  passed : a.passed = b.passed
  score : a.score = b.score
  label : a.label = b.label
  severity : a.severity = b.severity
  reason : a.reason = b.reason
  findings : a.findings.Perm b.findings

theorem sameVerdict_refl (a : EvaluationResult) : SameVerdict a a :=
  ⟨rfl, rfl, rfl, rfl, rfl, List.Perm.refl _⟩

theorem isEmpty_eq_of_perm {α : Type} (a b : List α) (h : a.Perm b) : a.isEmpty = b.isEmpty := by
  rw [Bool.eq_iff_iff, List.isEmpty_iff, List.isEmpty_iff]
  constructor
  · intro ha
    rw [ha] at h
    exact List.nil_perm.mp h
  · intro hb
    rw [hb] at h
    exact List.perm_nil.mp h

/-! ### The evaluators -/

section Reordered
variable (run : EvaluationRunView) (spans : List SpanView) (toolCalls : List ToolCallView)

/- The view with its spans and tool calls listed in another order. -/
def reordered : EvaluationRunView := { run with spans := spans, toolCalls := toolCalls }

variable (hspans : spans.Perm run.spans) (htoolCalls : toolCalls.Perm run.toolCalls)

include htoolCalls in
theorem toolExecution_reordered :
    SameVerdict (toolExecution (reordered run spans toolCalls)) (toolExecution run) := by
  have hfindings := (htoolCalls.filter fun toolCall => toolCall.status ≠ .success).map
    toolExecutionFinding
  have hempty := isEmpty_eq_of_perm _ _ hfindings
  have htotal := htoolCalls.length_eq
  have hsuccess := (htoolCalls.filter fun toolCall => toolCall.status = .success).length_eq
  constructor
  · exact hempty
  · simp only [toolExecution, reordered, hsuccess, htotal]
  · exact congrArg passLabel hempty
  · rfl
  · simp only [toolExecution, reordered, hsuccess, htotal]
  · exact hfindings

/-! Two tallies alike but for the order of their findings. -/

structure AlikeTallies (a b : Tally) : Prop where
  satisfied : a.satisfied = b.satisfied
  total : a.total = b.total
  findings : a.findings.Perm b.findings

theorem alikeTallies_refl (a : Tally) : AlikeTallies a a := ⟨rfl, rfl, List.Perm.refl _⟩

theorem add_alike (a b a' b' : Tally) (h : AlikeTallies a b) (h' : AlikeTallies a' b') :
    AlikeTallies (a.add a') (b.add b') where
  satisfied := by simp only [Tally.add, h.satisfied, h'.satisfied]
  total := by simp only [Tally.add, h.total, h'.total]
  findings := h.findings.append h'.findings

theorem foldl_alike {α : Type} (entries : List α) (f g : α → Tally)
    (hentry : ∀ entry, AlikeTallies (f entry) (g entry)) (a b : Tally) (h : AlikeTallies a b) :
    AlikeTallies ((entries.map f).foldl Tally.add a) ((entries.map g).foldl Tally.add b) := by
  induction entries generalizing a b with
  | nil => exact h
  | cons entry entries ih =>
    have hadded := add_alike a b (f entry) (g entry) h (hentry entry)
    exact ih _ _ hadded

include htoolCalls

theorem requiredTool_reordered (toolName : String) :
    requiredTool (reordered run spans toolCalls) toolName = requiredTool run toolName := by
  have hmem := (htoolCalls.map ToolCallView.toolName).mem_iff (a := toolName)
  simp only [requiredTool, reordered, hmem]

theorem forbiddenTool_reordered (toolName : String) :
    AlikeTallies (forbiddenTool (reordered run spans toolCalls) toolName)
      (forbiddenTool run toolName) := by
  have hcalls := htoolCalls.filter fun toolCall => toolCall.toolName = toolName
  simp only [forbiddenTool, reordered]
  cases hleft : toolCalls.filter fun toolCall => toolCall.toolName = toolName with
  | nil =>
    rw [hleft] at hcalls
    rw [← List.nil_perm.mp hcalls]
    exact alikeTallies_refl _
  | cons toolCall rest =>
    cases hright : run.toolCalls.filter fun toolCall => toolCall.toolName = toolName with
    | nil =>
      rw [hleft, hright] at hcalls
      cases List.perm_nil.mp hcalls
    | cons toolCall' rest' =>
      rw [hleft, hright] at hcalls
      constructor
      · rfl
      · rfl
      · dsimp only
        exact hcalls.map _

/-- Whatever order ties are listed in, each tool's least sequence is the same. -/
theorem firstSequence_reordered (toolName : String) :
    firstSequence (reordered run spans toolCalls) toolName = firstSequence run toolName :=
  min?_eq_of_perm _ _ ((htoolCalls.filter _).map ToolCallView.sequence)

theorem orderedTools_reordered (constraint : String × String) :
    orderedTools (firstToolSequences (reordered run spans toolCalls)) constraint =
      orderedTools (firstToolSequences run) constraint := by
  simp only [orderedTools, firstToolSequences_lookup,
    firstSequence_reordered run spans toolCalls htoolCalls]

theorem trajectoryTally_reordered (contract : ScenarioContract) :
    AlikeTallies (trajectoryTally (reordered run spans toolCalls) contract)
      (trajectoryTally run contract) := by
  have hrequired := foldl_alike contract.requiredTools
    (requiredTool (reordered run spans toolCalls)) (requiredTool run)
    (fun toolName => by
      rw [requiredTool_reordered run spans toolCalls htoolCalls]
      exact alikeTallies_refl _) Tally.none Tally.none (alikeTallies_refl _)
  have hforbidden := foldl_alike contract.forbiddenTools _ _
    (forbiddenTool_reordered run spans toolCalls htoolCalls) _ _ hrequired
  have hordering := foldl_alike contract.orderingConstraints
    (orderedTools (firstToolSequences (reordered run spans toolCalls)))
    (orderedTools (firstToolSequences run))
    (fun constraint => by
      rw [orderedTools_reordered run spans toolCalls htoolCalls]
      exact alikeTallies_refl _) _ _ hforbidden
  have hterminal : AlikeTallies (terminalTally (reordered run spans toolCalls) contract.terminal)
      (terminalTally run contract.terminal) := alikeTallies_refl _
  have hall := add_alike _ _ _ _ hordering hterminal
  simpa only [trajectoryTally, Tally.sum, List.foldl_append, List.foldl_cons, List.foldl_nil]
    using hall

theorem trajectoryOver_reordered (tables : ContractTables) :
    SameVerdict (trajectoryOver tables (reordered run spans toolCalls))
      (trajectoryOver tables run) := by
  have hscenario : (reordered run spans toolCalls).scenarioId = run.scenarioId := rfl
  unfold trajectoryOver
  rw [hscenario]
  cases tables.contractFor run.scenarioId with
  | none => exact sameVerdict_refl _
  | some contract =>
    obtain ⟨hsatisfied, htotal, hfindings⟩ :=
      trajectoryTally_reordered run spans toolCalls htoolCalls contract
    have hempty := isEmpty_eq_of_perm _ _ hfindings
    constructor
    · exact hempty
    · simp only [trajectoryResult, hsatisfied, htotal]
    · exact congrArg passLabel hempty
    · rfl
    · simp only [trajectoryResult, hsatisfied, htotal]
    · exact hfindings

omit htoolCalls in
theorem policyResult_perm (findings findings' : List EvaluationFinding)
    (h : findings.Perm findings') : SameVerdict (policyResult findings) (policyResult findings') := by
  have hempty := isEmpty_eq_of_perm _ _ h
  have hlength := h.length_eq
  have hseverity : ∀ severity, severity ∈ findings.filterMap findingSeverity ↔
      severity ∈ findings'.filterMap findingSeverity := fun _ => (h.filterMap _).mem_iff
  constructor
  · exact hempty
  · rfl
  · exact congrArg passLabel hempty
  · simp only [policyResult, maxPolicySeverity, hseverity]
  · simp only [policyResult, hempty, hlength]
  · exact h

theorem unauthorized_reordered :
    (unauthorizedConsequentialActionFindings (reordered run spans toolCalls)).Perm
      (unauthorizedConsequentialActionFindings run) := by
  have hstate : (reordered run spans toolCalls).hitlState = run.hitlState := rfl
  unfold unauthorizedConsequentialActionFindings
  by_cases h : run.hitlState = .approved
  · rw [if_pos h, if_pos (hstate.trans h)]
  · rw [if_neg h, if_neg (fun h' => h (hstate.symm.trans h'))]
    exact (htoolCalls.filter _).map _

include hspans

theorem downstream_reordered :
    (unknownAssetDownstreamCallFindings (reordered run spans toolCalls)).Perm
      (unknownAssetDownstreamCallFindings run) := by
  have hfirst := min?_eq_of_perm _ _
    ((hspans.filter fun span => span.name = "unknown_asset").map SpanView.sequence)
  simp only [unknownAssetDownstreamCallFindings, reordered, hfirst]
  cases ((run.spans.filter fun span => span.name = "unknown_asset").map SpanView.sequence).min? with
  | none => exact List.Perm.refl _
  | some firstUnknownAssetSequence => exact (htoolCalls.filter _).map _

theorem policy_reordered :
    SameVerdict (policy (reordered run spans toolCalls)) (policy run) :=
  policyResult_perm _ _ ((unauthorized_reordered run spans toolCalls htoolCalls).append
    (downstream_reordered run spans toolCalls hspans htoolCalls))

theorem deterministic_reordered (entry : String × (EvaluationRunView → EvaluationResult))
    (hentry : entry ∈ deterministicEvaluations) :
    SameVerdict (entry.2 (reordered run spans toolCalls)) (entry.2 run) := by
  simp only [deterministicEvaluations, List.mem_cons, List.not_mem_nil, or_false] at hentry
  rcases hentry with rfl | rfl | rfl | rfl | rfl
  · exact toolExecution_reordered run spans toolCalls htoolCalls
  · exact sameVerdict_refl _
  · simp only [trajectory_eq]
    exact trajectoryOver_reordered run spans toolCalls htoolCalls loadedTables
  · exact policy_reordered run spans toolCalls hspans htoolCalls
  · exact sameVerdict_refl _

end Reordered

/-! ### The classifier -/

/-- The classifier sees the status and the set of failure types. -/
theorem classify_congr (outcomes outcomes' : List EvaluatorOutcome)
    (hstatus : overallStatus outcomes = overallStatus outcomes')
    (hdetected : ∀ failureType, failureType ∈ detectedFailureTypes outcomes ↔
      failureType ∈ detectedFailureTypes outcomes') : classify outcomes = classify outcomes' := by
  have hempty : detectedFailureTypes outcomes = [] ↔ detectedFailureTypes outcomes' = [] := by
    rw [List.eq_nil_iff_forall_not_mem, List.eq_nil_iff_forall_not_mem]
    exact forall_congr' fun failureType => not_congr (hdetected failureType)
  simp only [classify, hstatus, hempty, hdetected]

theorem overallStatus_congr (outcomes outcomes' : List EvaluatorOutcome)
    (hlabelled : outcomes.any labelledFail = outcomes'.any labelledFail)
    (hfailed : (outcomes.any fun outcome => outcome.executionStatus = .failed) =
      outcomes'.any fun outcome => outcome.executionStatus = .failed) :
    overallStatus outcomes = overallStatus outcomes' := by
  unfold overallStatus
  rw [hlabelled, hfailed]

theorem classify_perm (outcomes outcomes' : List EvaluatorOutcome)
    (h : outcomes.Perm outcomes') : classify outcomes = classify outcomes' := by
  have hstatus := overallStatus_congr _ _ h.any_eq h.any_eq
  have hdetected := ((h.filter labelledFail).flatMap_right findingsOf).map failureTypeOf
  exact classify_congr _ _ hstatus fun _ => hdetected.mem_iff

/-- Two outcomes that count alike in a verdict. -/
structure SameOutcome (a b : EvaluatorOutcome) : Prop where
  status : a.executionStatus = b.executionStatus
  labelled : labelledFail a = labelledFail b
  findings : (findingsOf a).Perm (findingsOf b)

theorem sameOutcome_refl (a : EvaluatorOutcome) : SameOutcome a a :=
  ⟨rfl, rfl, List.Perm.refl _⟩

theorem detected_cons (outcome : EvaluatorOutcome) (outcomes : List EvaluatorOutcome) :
    detectedFailureTypes (outcome :: outcomes) =
      (if labelledFail outcome then (findingsOf outcome).map failureTypeOf else []) ++
        detectedFailureTypes outcomes := by
  by_cases h : labelledFail outcome = true
  · simp [detectedFailureTypes, h]
  · simp [detectedFailureTypes, h]

theorem any_eq_of_same (outcomes outcomes' : List EvaluatorOutcome) (p : EvaluatorOutcome → Bool)
    (hp : ∀ a b, SameOutcome a b → p a = p b) (h : List.Forall₂ SameOutcome outcomes outcomes') :
    outcomes.any p = outcomes'.any p := by
  induction h with
  | nil => rfl
  | cons hhead _ ih => rw [List.any_cons, List.any_cons, hp _ _ hhead, ih]

theorem detected_same (outcomes outcomes' : List EvaluatorOutcome)
    (h : List.Forall₂ SameOutcome outcomes outcomes') :
    (detectedFailureTypes outcomes).Perm (detectedFailureTypes outcomes') := by
  induction h with
  | nil => exact List.Perm.refl _
  | cons hhead _ ih =>
    rw [detected_cons, detected_cons, hhead.labelled]
    apply List.Perm.append _ ih
    split
    · exact hhead.findings.map _
    · exact List.Perm.refl _

theorem classify_same (outcomes outcomes' : List EvaluatorOutcome)
    (h : List.Forall₂ SameOutcome outcomes outcomes') :
    classify outcomes = classify outcomes' := by
  have hlabelled := any_eq_of_same outcomes outcomes' labelledFail
    (fun _ _ hsame => hsame.labelled) h
  have hfailed := any_eq_of_same outcomes outcomes'
    (fun outcome => outcome.executionStatus = .failed)
    (fun _ _ hsame => by simp only [hsame.status]) h
  exact classify_congr _ _ (overallStatus_congr _ _ hlabelled hfailed)
    fun _ => (detected_same outcomes outcomes' h).mem_iff

theorem sameOutcome_of_verdict (name : String) (a b : EvaluationResult) (h : SameVerdict a b) :
    SameOutcome ⟨name, "1.0.0", .completed, some a⟩ ⟨name, "1.0.0", .completed, some b⟩ where
  status := rfl
  labelled := by simp only [labelledFail, Option.any_some, h.label]
  findings := h.findings

theorem registry_same (run : EvaluationRunView) (spans : List SpanView)
    (toolCalls : List ToolCallView) (hspans : spans.Perm run.spans)
    (htoolCalls : toolCalls.Perm run.toolCalls)
    (groundedness : JudgeOutcome GroundednessJudgeOutput)
    (uncertainty : JudgeOutcome UncertaintyJudgeOutput) :
    List.Forall₂ SameOutcome
      (registryOutcomes (reordered run spans toolCalls) groundedness uncertainty)
      (registryOutcomes run groundedness uncertainty) := by
  have hdeterministic := deterministic_reordered run spans toolCalls hspans htoolCalls
  unfold registryOutcomes
  apply List.rel_append
  · rw [List.forall₂_map_left_iff, List.forall₂_map_right_iff, List.forall₂_same]
    exact fun entry hentry => sameOutcome_of_verdict entry.1 _ _ (hdeterministic entry hentry)
  · rw [List.forall₂_same]
    exact fun outcome _ => sameOutcome_refl outcome

/-- Neither the order of a run's rows nor that of the outcomes changes the verdict. -/
theorem verdict_order_independent :
    (∀ run spans toolCalls, spans.Perm run.spans → toolCalls.Perm run.toolCalls →
      (∀ entry ∈ deterministicEvaluations,
        SameVerdict (entry.2 (reordered run spans toolCalls)) (entry.2 run)) ∧
      ∀ groundedness uncertainty,
        classify (registryOutcomes (reordered run spans toolCalls) groundedness uncertainty) =
          classify (registryOutcomes run groundedness uncertainty)) ∧
    ∀ outcomes outcomes' : List EvaluatorOutcome, outcomes.Perm outcomes' →
      classify outcomes = classify outcomes' := by
  constructor
  · intro run spans toolCalls hspans htoolCalls
    constructor
    · exact deterministic_reordered run spans toolCalls hspans htoolCalls
    · intro groundedness uncertainty
      exact classify_same _ _
        (registry_same run spans toolCalls hspans htoolCalls groundedness uncertainty)
  · exact classify_perm

def tiedCall (toolCallId toolName : String) : ToolCallView where
  toolCallId := toolCallId
  spanId := "child"
  toolName := toolName
  sequence := 1
  arguments := []
  result := none
  startedAt := 0
  completedAt := 1
  latencyMs := none
  retryCount := 0
  status := .success
  errorCategory := none
  errorCode := none
  errorMessage := none
  errorFailedComponent := none

/- Two calls with the same sequence. -/
def tiedCalls : List ToolCallView :=
  [tiedCall "tool-1" "submit_work_order", tiedCall "tool-2" "get_asset_status"]

def tiedView : EvaluationRunView := { bypassedView with toolCalls := tiedCalls }

def policyOutcome (run : EvaluationRunView) : EvaluatorOutcome :=
  ⟨"policy", "1.0.0", .completed, some (policy run)⟩

theorem verdict_order_independent_tied :
    (∀ entry ∈ deterministicEvaluations,
      SameVerdict (entry.2 (reordered tiedView [] tiedCalls.reverse)) (entry.2 tiedView)) ∧
    classify [policyOutcome tiedView, policyOutcome { tiedView with toolCalls := [] }] =
      classify [policyOutcome { tiedView with toolCalls := [] }, policyOutcome tiedView] :=
  ⟨(verdict_order_independent.1 tiedView [] tiedCalls.reverse (List.Perm.refl _)
      (List.reverse_perm _)).1,
    verdict_order_independent.2 _ _ (List.Perm.swap _ _ _)⟩

end ObsPlatform.Evaluation
