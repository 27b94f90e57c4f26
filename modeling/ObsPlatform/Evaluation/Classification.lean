import ObsPlatform.Lib.Priority
import ObsPlatform.Evaluation.Categories

/-!
# What the classifier computes

Three passes over the outcomes, each with a filter of its own: the status, the set of
failure types, and the two reported categories with the severity. They are described here
by the set of types found, for any outcomes at all.
-/

namespace ObsPlatform.Evaluation

/-- A completed outcome labelled fail. -/
def FailsBy (outcome : EvaluatorOutcome) : Prop :=
  outcome.executionStatus = .completed ∧ ∃ result ∈ outcome.result, result.label = some "fail"

/-- The failure types of the findings of the outcomes that fail. -/
def Detected (outcomes : List EvaluatorOutcome) : Set FailureType :=
  {failureType | ∃ outcome ∈ outcomes, FailsBy outcome ∧
    ∃ finding ∈ findingsOf outcome, failureTypeOf finding = failureType}

/- The place of a type in FAILURE_TYPE_PRIORITY. -/
def priority (failureType : FailureType) : ℕ := failureTypePriority.idxOf failureType

/- The rank of a severity, no severity being the least. -/
def severityRank : Option String → ℕ
  | none => 0
  | some severity => (severityOrder.lookup severity).getD 0 + 1

/-- A severity that is the greatest over a set of failure types. -/
def IsWorst (failureTypes : Set FailureType) (severity : String) : Prop :=
  (∃ failureType ∈ failureTypes, failureTypeSeverity failureType = some severity) ∧
    ∀ failureType ∈ failureTypes,
      severityRank (failureTypeSeverity failureType) ≤ severityRank (some severity)

/- pass < incomplete < fail. -/
def statusRank : OverallEvaluationStatus → ℕ
  | .pass => 0
  | .incomplete => 1
  | .fail => 2

/-- The classification of a list of outcomes. -/
structure Classifies (outcomes : List EvaluatorOutcome) (result : RunFailureResult) : Prop where
  fails : result.overallStatus = .fail ↔ ∃ outcome ∈ outcomes, FailsBy outcome
  incomplete : result.overallStatus = .incomplete ↔
    (¬ ∃ outcome ∈ outcomes, FailsBy outcome) ∧
      ∃ outcome ∈ outcomes, outcome.executionStatus = .failed
  passes : result.overallStatus = .pass ↔
    (¬ ∃ outcome ∈ outcomes, FailsBy outcome) ∧
      ¬ ∃ outcome ∈ outcomes, outcome.executionStatus = .failed
  uncategorised : ¬ (result.overallStatus = .fail ∧ (Detected outcomes).Nonempty) →
    result.primaryCategory = none ∧ result.secondaryCategory = none ∧ result.maxSeverity = none
  primary : result.overallStatus = .fail → (Detected outcomes).Nonempty →
    ∃ primary, result.primaryCategory = some primary ∧
      IsFirst priority (Detected outcomes) primary ∧
      ∀ secondary, result.secondaryCategory = some secondary ↔
        IsFirst priority (Detected outcomes \ {primary}) secondary
  policyViolation : .policyViolation ∈ Detected outcomes →
    result.primaryCategory = some .policyViolation
  unranked : result.overallStatus = .fail → (Detected outcomes).Nonempty →
    (result.maxSeverity = none ↔ Detected outcomes = {.unknown})
  severity : ∀ severity, result.maxSeverity = some severity → IsWorst (Detected outcomes) severity

/-! ### The passes -/

theorem labelledFail_iff_failsBy (outcome : EvaluatorOutcome) :
    labelledFail outcome = true ↔ FailsBy outcome := by
  simp [labelledFail, FailsBy, Option.any_eq_true]

theorem mem_detected (outcomes : List EvaluatorOutcome) (failureType : FailureType) :
    failureType ∈ detectedFailureTypes outcomes ↔ failureType ∈ Detected outcomes := by
  rw [mem_detected_iff]
  simp only [labelledFail_iff_failsBy, Detected, Set.mem_ofPred_eq]

theorem detected_nonempty_iff (outcomes : List EvaluatorOutcome) :
    (Detected outcomes).Nonempty ↔ detectedFailureTypes outcomes ≠ [] := by
  constructor
  · intro h
    obtain ⟨failureType, hmem⟩ := h
    exact List.ne_nil_of_mem ((mem_detected outcomes failureType).mpr hmem)
  · intro h
    obtain ⟨failureType, hmem⟩ := List.exists_mem_of_ne_nil _ h
    exact ⟨failureType, (mem_detected outcomes failureType).mp hmem⟩

theorem overallStatus_fails (outcomes : List EvaluatorOutcome) :
    overallStatus outcomes = .fail ↔ ∃ outcome ∈ outcomes, FailsBy outcome := by
  simp only [overallStatus_fail_iff, labelledFail_iff_failsBy]

theorem overallStatus_incomplete (outcomes : List EvaluatorOutcome) :
    overallStatus outcomes = .incomplete ↔
      (¬ ∃ outcome ∈ outcomes, FailsBy outcome) ∧
        ∃ outcome ∈ outcomes, outcome.executionStatus = .failed := by
  rw [← overallStatus_fails]
  unfold overallStatus
  by_cases hlabelled : outcomes.any labelledFail = true
  · simp [hlabelled]
  · rw [if_neg hlabelled]
    by_cases hfailed : outcomes.any (fun outcome => outcome.executionStatus = .failed) = true
    · rw [if_pos hfailed]
      simpa using hfailed
    · rw [if_neg hfailed]
      simpa using hfailed

theorem overallStatus_passes (outcomes : List EvaluatorOutcome) :
    overallStatus outcomes = .pass ↔
      (¬ ∃ outcome ∈ outcomes, FailsBy outcome) ∧
        ¬ ∃ outcome ∈ outcomes, outcome.executionStatus = .failed := by
  have hfails := overallStatus_fails outcomes
  have hincomplete := overallStatus_incomplete outcomes
  cases hstatus : overallStatus outcomes with
  | pass =>
    rw [hstatus] at hfails hincomplete
    simp only [reduceCtorEq, false_iff, not_and] at hfails hincomplete
    simp only [true_iff]
    exact ⟨hfails, hincomplete hfails⟩
  | fail =>
    rw [hstatus] at hfails
    simp only [reduceCtorEq, false_iff, not_and]
    intro hnone
    exact absurd (hfails.mp rfl) hnone
  | incomplete =>
    rw [hstatus] at hincomplete
    simp only [reduceCtorEq, false_iff, not_and]
    intro _ hnone
    exact hnone (hincomplete.mp rfl).2

/- The detected types in the order of the priority list. -/
def orderedTypes (outcomes : List EvaluatorOutcome) : List FailureType :=
  failureTypePriority.filter fun failureType => failureType ∈ detectedFailureTypes outcomes

theorem mem_orderedTypes (outcomes : List EvaluatorOutcome) (failureType : FailureType) :
    failureType ∈ orderedTypes outcomes ↔ failureType ∈ Detected outcomes := by
  have hlisted : failureType ∈ failureTypePriority := by
    cases failureType <;> decide
  simp [orderedTypes, List.mem_filter, hlisted, mem_detected]

theorem orderedTypes_sorted (outcomes : List EvaluatorOutcome) :
    (orderedTypes outcomes).Pairwise fun a b => priority a < priority b := by
  have hsorted : failureTypePriority.Pairwise fun a b => priority a < priority b := by decide
  exact hsorted.filter _

theorem orderedTypes_set (outcomes : List EvaluatorOutcome) :
    {failureType | failureType ∈ orderedTypes outcomes} = Detected outcomes := by
  ext failureType
  exact mem_orderedTypes outcomes failureType

theorem classify_uncategorised (outcomes : List EvaluatorOutcome)
    (h : ¬ (overallStatus outcomes = .fail ∧ (Detected outcomes).Nonempty)) :
    classify outcomes = ⟨overallStatus outcomes, none, none, none⟩ := by
  have hcondition : overallStatus outcomes ≠ .fail ∨ detectedFailureTypes outcomes = [] := by
    rw [detected_nonempty_iff] at h
    tauto
  unfold classify
  simp only [hcondition, if_true]

theorem classify_categorised (outcomes : List EvaluatorOutcome)
    (hfail : overallStatus outcomes = .fail) (hdetected : (Detected outcomes).Nonempty) :
    classify outcomes = ⟨.fail, (orderedTypes outcomes)[0]?, (orderedTypes outcomes)[1]?,
      maxSeverity (orderedTypes outcomes)⟩ := by
  have hne := (detected_nonempty_iff outcomes).mp hdetected
  unfold classify
  simp only [hfail, hne, ne_eq, not_true_eq_false, or_self, if_false]
  rfl

theorem classify_overallStatus (outcomes : List EvaluatorOutcome) :
    (classify outcomes).overallStatus = overallStatus outcomes := by
  unfold classify
  simp only
  split <;> rfl

/-- Something that is detected has failed. -/
theorem fails_of_detected (outcomes : List EvaluatorOutcome) (failureType : FailureType)
    (h : failureType ∈ Detected outcomes) : overallStatus outcomes = .fail := by
  obtain ⟨outcome, ho, hfails, _⟩ := h
  exact (overallStatus_fails outcomes).mpr ⟨outcome, ho, hfails⟩

/-! ### Severities -/

theorem failureTypeSeverity_none_iff (failureType : FailureType) :
    failureTypeSeverity failureType = none ↔ failureType = .unknown := by
  cases failureType <;> simp [failureTypeSeverity]

theorem maxSeverity_none_iff (failureTypes : List FailureType) :
    maxSeverity failureTypes = none ↔ ∀ failureType ∈ failureTypes, failureType = .unknown := by
  rw [maxSeverity, List.argmax_eq_none, List.filterMap_eq_nil_iff]
  simp only [failureTypeSeverity_none_iff]

theorem maxSeverity_isWorst (failureTypes : List FailureType) (severity : String)
    (h : maxSeverity failureTypes = some severity) :
    IsWorst {failureType | failureType ∈ failureTypes} severity := by
  have hmem := List.argmax_mem h
  obtain ⟨worst, hworst, hseverity⟩ := List.mem_filterMap.mp hmem
  constructor
  · exact ⟨worst, hworst, hseverity⟩
  · intro failureType ht
    cases hs : failureTypeSeverity failureType with
    | none => exact Nat.zero_le _
    | some other =>
      have hother := List.mem_filterMap.mpr ⟨failureType, ht, hs⟩
      have hle := List.le_of_mem_argmax hother h
      simp only [severityRank]
      omega

/-! ### The classifier -/

theorem policyViolation_isFirst (failureTypes : Set FailureType) (primary : FailureType)
    (hpolicy : .policyViolation ∈ failureTypes) (h : IsFirst priority failureTypes primary) :
    primary = .policyViolation := by
  have hle := h.2 _ hpolicy
  cases primary with
  | policyViolation => rfl
  | _ => exact absurd hle (by decide)

theorem classify_classifies (outcomes : List EvaluatorOutcome) :
    Classifies outcomes (classify outcomes) := by
  have hsorted := orderedTypes_sorted outcomes
  have hset := orderedTypes_set outcomes
  have hprimary : overallStatus outcomes = .fail → (Detected outcomes).Nonempty →
      ∃ primary, (classify outcomes).primaryCategory = some primary ∧
        IsFirst priority (Detected outcomes) primary ∧
        ∀ secondary, (classify outcomes).secondaryCategory = some secondary ↔
          IsFirst priority (Detected outcomes \ {primary}) secondary := by
    intro hfail hdetected
    rw [classify_categorised outcomes hfail hdetected]
    cases hhead : (orderedTypes outcomes)[0]? with
    | none =>
      rw [List.getElem?_eq_none_iff, Nat.le_zero, List.length_eq_zero_iff] at hhead
      rw [← hset, hhead] at hdetected
      obtain ⟨failureType, hmem⟩ := hdetected
      cases hmem
    | some primary =>
      have hfirst := (head_isFirst priority _ hsorted primary).mp hhead
      have hsecond := second_isFirst priority _ hsorted primary
      rw [hset] at hfirst
      refine ⟨primary, rfl, hfirst, ?_⟩
      intro secondary
      have hiff := hsecond secondary hhead
      rw [hset] at hiff
      exact hiff
  constructor
  · rw [classify_overallStatus, overallStatus_fails]
  · rw [classify_overallStatus, overallStatus_incomplete]
  · rw [classify_overallStatus, overallStatus_passes]
  · intro h
    rw [classify_overallStatus] at h
    rw [classify_uncategorised outcomes h]
    exact ⟨rfl, rfl, rfl⟩
  · intro hfail
    rw [classify_overallStatus] at hfail
    exact hprimary hfail
  · intro hpolicy
    have hfail := fails_of_detected outcomes _ hpolicy
    obtain ⟨primary, hcategory, hfirst, _⟩ := hprimary hfail ⟨_, hpolicy⟩
    rw [hcategory, policyViolation_isFirst _ primary hpolicy hfirst]
  · intro hfail hdetected
    rw [classify_overallStatus] at hfail
    rw [classify_categorised outcomes hfail hdetected, maxSeverity_none_iff,
      Set.eq_singleton_iff_nonempty_unique_mem]
    simp only [mem_orderedTypes]
    exact ⟨fun h => ⟨hdetected, h⟩, fun h => h.2⟩
  · intro severity hseverity
    by_cases h : overallStatus outcomes = .fail ∧ (Detected outcomes).Nonempty
    · rw [classify_categorised outcomes h.1 h.2] at hseverity
      have hworst := maxSeverity_isWorst _ severity hseverity
      rw [hset] at hworst
      exact hworst
    · rw [classify_uncategorised outcomes h] at hseverity
      cases hseverity

/-! ### Adding an outcome -/

theorem detected_mono (outcomes more : List EvaluatorOutcome) (h : outcomes ⊆ more) :
    Detected outcomes ⊆ Detected more := by
  intro failureType hmem
  obtain ⟨outcome, ho, hrest⟩ := hmem
  exact ⟨outcome, h ho, hrest⟩

theorem status_mono (outcomes more : List EvaluatorOutcome) (h : outcomes ⊆ more) :
    statusRank (overallStatus outcomes) ≤ statusRank (overallStatus more) := by
  cases hstatus : overallStatus outcomes with
  | pass => exact Nat.zero_le _
  | fail =>
    obtain ⟨outcome, ho, hfails⟩ := (overallStatus_fails outcomes).mp hstatus
    rw [(overallStatus_fails more).mpr ⟨outcome, h ho, hfails⟩]
  | incomplete =>
    obtain ⟨_, outcome, ho, hfailed⟩ := (overallStatus_incomplete outcomes).mp hstatus
    cases hmore : overallStatus more with
    | pass => exact absurd ⟨outcome, h ho, hfailed⟩ ((overallStatus_passes more).mp hmore).2
    | incomplete => exact le_refl _
    | fail => decide

theorem severity_mono (outcomes more : List EvaluatorOutcome) (h : outcomes ⊆ more) :
    severityRank (classify outcomes).maxSeverity ≤ severityRank (classify more).maxSeverity := by
  cases hseverity : (classify outcomes).maxSeverity with
  | none => exact Nat.zero_le _
  | some severity =>
    obtain ⟨⟨failureType, hmem, ht⟩, _⟩ := (classify_classifies outcomes).severity severity hseverity
    have hmore := detected_mono outcomes more h hmem
    have hfail := fails_of_detected more failureType hmore
    rw [classify_categorised more hfail ⟨failureType, hmore⟩]
    cases hmax : maxSeverity (orderedTypes more) with
    | none =>
      have hunknown := (maxSeverity_none_iff _).mp hmax failureType
        ((mem_orderedTypes more failureType).mpr hmore)
      rw [(failureTypeSeverity_none_iff failureType).mpr hunknown] at ht
      cases ht
    | some worst =>
      have hworst := (maxSeverity_isWorst _ worst hmax).2 failureType
        ((mem_orderedTypes more failureType).mpr hmore)
      rw [ht] at hworst
      exact hworst

/-- What the classifier returns for any outcomes, and that one more never improves it. -/
theorem classify_exact :
    (∀ outcomes, Classifies outcomes (classify outcomes)) ∧
    ∀ (before after : List EvaluatorOutcome) (outcome : EvaluatorOutcome),
      statusRank (classify (before ++ after)).overallStatus ≤
        statusRank (classify (before ++ outcome :: after)).overallStatus ∧
      severityRank (classify (before ++ after)).maxSeverity ≤
        severityRank (classify (before ++ outcome :: after)).maxSeverity := by
  constructor
  · exact classify_classifies
  · intro before after outcome
    have hsubset : before ++ after ⊆ before ++ outcome :: after :=
      (List.Sublist.append_left (List.sublist_cons_self outcome after) before).subset
    rw [classify_overallStatus, classify_overallStatus]
    exact ⟨status_mono _ _ hsubset, severity_mono _ _ hsubset⟩

end ObsPlatform.Evaluation
