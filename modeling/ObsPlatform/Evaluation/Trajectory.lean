import ObsPlatform.Lib.OrderBy
import ObsPlatform.Evaluation.Verdict

/-!
# What the trajectory evaluator decides

The four families of constraints add to two shared counters and one list of findings. A
tally stands for the constraints it counted: so many of them, so many satisfied, and a
finding exactly when one is not.
-/

namespace ObsPlatform.Evaluation

open Telemetry Db

/-! ### Resolving a contract -/

/-- SCENARIO_CONTRACTS and DEBUG_SCENARIO_CONTRACTS, with whatever contracts they hold. -/
structure ContractTables where
  scenarioContracts : List (String × ScenarioContract)
  debugScenarioContracts : List (String × ScenarioContract)

def ContractTables.contractFor (tables : ContractTables) : Option String → Option ScenarioContract
  | none => none
  | some scenarioId => (tables.scenarioContracts.lookup scenarioId).or
      (tables.debugScenarioContracts.lookup scenarioId)

/- TrajectoryEvaluator.evaluate against the contracts of the tables. -/
def trajectoryOver (tables : ContractTables) (run : EvaluationRunView) : EvaluationResult :=
  match tables.contractFor run.scenarioId with
  | none => notApplicable "no scenario contract applies"
  | some contract => trajectoryResult (trajectoryTally run contract)

def loadedContracts (manifest : Manifest) : List (String × ScenarioContract) :=
  manifest.map fun entry => (entry.1, entry.2.contract)

/- The tables as the module fills them from the contract files. -/
def loadedTables : ContractTables :=
  ⟨loadedContracts contractManifest, loadedContracts debugContractManifest⟩

theorem loadedContracts_lookup (manifest : Manifest) (scenarioId : String) :
    (loadedContracts manifest).lookup scenarioId =
      (manifest.lookup scenarioId).map ContractFile.contract := by
  induction manifest with
  | nil => rfl
  | cons entry manifest ih =>
    obtain ⟨name, file⟩ := entry
    simp only [loadedContracts, List.map_cons, List.lookup_cons] at ih ⊢
    cases scenarioId == name with
    | true => rfl
    | false => exact ih

theorem loadedTables_contractFor (scenarioId : Option String) :
    loadedTables.contractFor scenarioId = scenarioContractFor scenarioId := by
  cases scenarioId with
  | none => rfl
  | some scenarioId =>
    simp only [ContractTables.contractFor, loadedTables, loadedContracts_lookup,
      scenarioContractFor]
    cases contractManifest.lookup scenarioId with
    | none => rfl
    | some file => rfl

/-- The evaluator of the registry is the one over the loaded tables. -/
theorem trajectory_eq (run : EvaluationRunView) :
    trajectory run = trajectoryOver loadedTables run := by
  have hcontract := loadedTables_contractFor run.scenarioId
  unfold trajectory trajectoryOver
  generalize loadedTables.contractFor run.scenarioId = contract at hcontract ⊢
  subst hcontract
  cases scenarioContractFor run.scenarioId with
  | none => rfl
  | some contract => rfl

/-! ### What a contract asks for -/

def Called (run : EvaluationRunView) (toolName : String) : Prop :=
  ∃ toolCall ∈ run.toolCalls, toolCall.toolName = toolName

instance (run : EvaluationRunView) (toolName : String) : Decidable (Called run toolName) :=
  inferInstanceAs (Decidable (∃ toolCall ∈ run.toolCalls, toolCall.toolName = toolName))

/- The least sequence of the calls of a tool. -/
def firstSequence (run : EvaluationRunView) (toolName : String) : Option ℤ :=
  ((run.toolCalls.filter fun toolCall => toolCall.toolName = toolName).map
    ToolCallView.sequence).min?

/- An ordering constraint applies when both of its tools are called. -/
def Applicable (run : EvaluationRunView) (constraint : String × String) : Prop :=
  Called run constraint.1 ∧ Called run constraint.2

instance (run : EvaluationRunView) (constraint : String × String) :
    Decidable (Applicable run constraint) :=
  inferInstanceAs (Decidable (_ ∧ _))

def InOrder (run : EvaluationRunView) (constraint : String × String) : Prop :=
  ∃ beforeSequence ∈ firstSequence run constraint.1, ∃ afterSequence ∈
    firstSequence run constraint.2, beforeSequence < afterSequence

instance (run : EvaluationRunView) (constraint : String × String) :
    Decidable (InOrder run constraint) :=
  inferInstanceAs (Decidable (∃ beforeSequence ∈ firstSequence run constraint.1, _))

section Field
variable {α : Type} [DecidableEq α]

def specified (expected : Option α) : ℕ := if expected.isSome then 1 else 0

def matching (expected : Option α) (actual : α) : ℕ := if expected = some actual then 1 else 0

end Field

def specifiedFields (terminal : TerminalCondition) : ℕ :=
  specified terminal.expectedStatus + specified terminal.expectedEventType +
    specified terminal.expectedHitlRequired + specified terminal.expectedHitlState

def matchingFields (run : EvaluationRunView) (terminal : TerminalCondition) : ℕ :=
  matching terminal.expectedStatus run.status + matching terminal.expectedEventType run.eventType +
    matching terminal.expectedHitlRequired run.hitlRequired +
    matching terminal.expectedHitlState run.hitlState

/-- The run does what the contract asks for. -/
structure Meets (run : EvaluationRunView) (contract : ScenarioContract) : Prop where
  required : ∀ toolName ∈ contract.requiredTools, Called run toolName
  forbidden : ∀ toolName ∈ contract.forbiddenTools, ¬ Called run toolName
  ordering : ∀ constraint ∈ contract.orderingConstraints,
    Applicable run constraint → InOrder run constraint
  status : ∀ terminal ∈ contract.terminal, ∀ wanted ∈ terminal.expectedStatus, run.status = wanted
  eventType : ∀ terminal ∈ contract.terminal, ∀ wanted ∈ terminal.expectedEventType,
    run.eventType = wanted
  hitlRequired : ∀ terminal ∈ contract.terminal, ∀ wanted ∈ terminal.expectedHitlRequired,
    run.hitlRequired = wanted
  hitlState : ∀ terminal ∈ contract.terminal, ∀ wanted ∈ terminal.expectedHitlState,
    run.hitlState = wanted

/- The number of constraints of a contract that apply to a run. -/
def constraintCount (run : EvaluationRunView) (contract : ScenarioContract) : ℕ :=
  contract.requiredTools.length + contract.forbiddenTools.length +
    (contract.orderingConstraints.filter fun constraint => Applicable run constraint).length +
    contract.terminal.elim 0 specifiedFields

/- The number of those that the run satisfies. -/
def satisfiedCount (run : EvaluationRunView) (contract : ScenarioContract) : ℕ :=
  (contract.requiredTools.filter fun toolName => Called run toolName).length +
    (contract.forbiddenTools.filter fun toolName => ¬ Called run toolName).length +
    (contract.orderingConstraints.filter fun constraint => InOrder run constraint).length +
    contract.terminal.elim 0 (matchingFields run)

/-! ### Tallies -/

/-- The tally has counted so many constraints, so many of them satisfied. -/
structure Counts (tally : Tally) (satisfied total : ℕ) : Prop where
  satisfied_eq : tally.satisfied = satisfied
  total_eq : tally.total = total
  bounded : satisfied ≤ total
  clean : tally.findings = [] ↔ satisfied = total

theorem none_counts : Counts Tally.none 0 0 := ⟨rfl, rfl, le_refl _, by simp [Tally.none]⟩

theorem satisfied_counts : Counts ⟨1, 1, []⟩ 1 1 := ⟨rfl, rfl, le_refl _, by simp⟩

theorem violated_counts (findings : List EvaluationFinding) (h : findings ≠ []) :
    Counts ⟨0, 1, findings⟩ 0 1 := ⟨rfl, rfl, by omega, by simp [h]⟩

theorem add_counts (a b : Tally) (s t s' t' : ℕ) (ha : Counts a s t) (hb : Counts b s' t') :
    Counts (a.add b) (s + s') (t + t') := by
  have hsatisfied : (a.add b).satisfied = a.satisfied + b.satisfied := rfl
  have htotal : (a.add b).total = a.total + b.total := rfl
  have hfindings : (a.add b).findings = a.findings ++ b.findings := rfl
  obtain ⟨hs, ht, hle, hclean⟩ := ha
  obtain ⟨hs', ht', hle', hclean'⟩ := hb
  constructor
  · omega
  · omega
  · omega
  · rw [hfindings, List.append_eq_nil_iff, hclean, hclean']
    omega

/-- One family: every entry that applies counts, and is satisfied when it holds. -/
theorem foldl_counts {α : Type} (entries : List α) (tally : α → Tally) (holds applies : α → Prop)
    [DecidablePred holds] [DecidablePred applies]
    (hentry : ∀ entry, Counts (tally entry) (if holds entry then 1 else 0)
      (if applies entry then 1 else 0)) (start : Tally) (s t : ℕ) (hstart : Counts start s t) :
    Counts ((entries.map tally).foldl Tally.add start)
      (s + (entries.filter fun entry => holds entry).length)
      (t + (entries.filter fun entry => applies entry).length) := by
  induction entries generalizing start s t with
  | nil => exact hstart
  | cons entry entries ih =>
    have hnext := ih _ _ _ (add_counts start (tally entry) _ _ _ _ hstart (hentry entry))
    have hholds : ((entry :: entries).filter fun entry => holds entry).length =
        (if holds entry then 1 else 0) + (entries.filter fun entry => holds entry).length := by
      by_cases h : holds entry
      · simp [h, add_comm]
      · simp [h]
    have happlies : ((entry :: entries).filter fun entry => applies entry).length =
        (if applies entry then 1 else 0) + (entries.filter fun entry => applies entry).length := by
      by_cases h : applies entry
      · simp [h, add_comm]
      · simp [h]
    rw [hholds, happlies, ← add_assoc, ← add_assoc]
    exact hnext

/-! ### The four families -/

theorem requiredTool_counts (run : EvaluationRunView) (toolName : String) :
    Counts (requiredTool run toolName) (if Called run toolName then 1 else 0)
      (if True then 1 else 0) := by
  unfold requiredTool
  by_cases h : Called run toolName
  · have hmem : toolName ∈ run.toolCalls.map ToolCallView.toolName := List.mem_map.mpr h
    rw [if_pos hmem, if_pos h]
    exact satisfied_counts
  · have hmem : toolName ∉ run.toolCalls.map ToolCallView.toolName :=
      fun hmem => h (List.mem_map.mp hmem)
    rw [if_neg hmem, if_neg h]
    exact violated_counts _ (by simp)

theorem callsOf_eq_nil_iff (run : EvaluationRunView) (toolName : String) :
    (run.toolCalls.filter fun toolCall => toolCall.toolName = toolName) = [] ↔
      ¬ Called run toolName := by
  simp [List.filter_eq_nil_iff, Called]

theorem forbiddenTool_counts (run : EvaluationRunView) (toolName : String) :
    Counts (forbiddenTool run toolName) (if ¬ Called run toolName then 1 else 0)
      (if True then 1 else 0) := by
  have hnil := callsOf_eq_nil_iff run toolName
  unfold forbiddenTool
  cases hcalls : run.toolCalls.filter fun toolCall => toolCall.toolName = toolName with
  | nil =>
    rw [if_pos (hnil.mp hcalls)]
    exact satisfied_counts
  | cons toolCall toolCalls =>
    have hcalled : ¬ ¬ Called run toolName := by
      intro h
      rw [hnil.mpr h] at hcalls
      cases hcalls
    rw [if_neg hcalled]
    exact violated_counts _ (by simp)

/-- setdefault over the sorted calls keeps the least sequence of each tool. -/
theorem firstToolSequences_lookup (run : EvaluationRunView) (toolName : String) :
    (firstToolSequences run).lookup toolName = firstSequence run toolName := by
  have hperm := List.perm_insertionSort (fun a b : ToolCallView => a.sequence ≤ b.sequence)
    run.toolCalls
  have hsorted : (run.toolCalls.insertionSort fun a b => a.sequence ≤ b.sequence).Pairwise
      fun a b => a.sequence ≤ b.sequence :=
    List.pairwise_insertionSort (fun a b : ToolCallView => a.sequence ≤ b.sequence) run.toolCalls
  exact lookup_arranged _ run.toolCalls ToolCallView.toolName ToolCallView.sequence hperm hsorted
    toolName

theorem firstSequence_eq_none_iff (run : EvaluationRunView) (toolName : String) :
    firstSequence run toolName = none ↔ ¬ Called run toolName := by
  rw [firstSequence, List.min?_eq_none_iff, List.map_eq_nil_iff, callsOf_eq_nil_iff]

theorem called_of_firstSequence (run : EvaluationRunView) (toolName : String) (sequence : ℤ)
    (h : firstSequence run toolName = some sequence) : Called run toolName := by
  by_contra hcalled
  rw [(firstSequence_eq_none_iff run toolName).mpr hcalled] at h
  cases h

theorem orderedTools_counts (run : EvaluationRunView) (constraint : String × String) :
    Counts (orderedTools (firstToolSequences run) constraint)
      (if InOrder run constraint then 1 else 0) (if Applicable run constraint then 1 else 0) := by
  unfold orderedTools
  rw [firstToolSequences_lookup, firstToolSequences_lookup]
  cases hb : firstSequence run constraint.1 with
  | none =>
    have happlicable : ¬ Applicable run constraint :=
      fun h => (firstSequence_eq_none_iff run constraint.1).mp hb h.1
    have horder : ¬ InOrder run constraint := by simp [InOrder, hb]
    rw [if_neg happlicable, if_neg horder]
    exact none_counts
  | some beforeSequence =>
    cases ha : firstSequence run constraint.2 with
    | none =>
      have happlicable : ¬ Applicable run constraint :=
        fun h => (firstSequence_eq_none_iff run constraint.2).mp ha h.2
      have horder : ¬ InOrder run constraint := by simp [InOrder, ha]
      rw [if_neg happlicable, if_neg horder]
      exact none_counts
    | some afterSequence =>
      have happlicable : Applicable run constraint :=
        ⟨called_of_firstSequence run _ _ hb, called_of_firstSequence run _ _ ha⟩
      have horder : InOrder run constraint ↔ beforeSequence < afterSequence := by
        simp [InOrder, hb, ha]
      rw [if_pos happlicable]
      by_cases hlt : beforeSequence < afterSequence
      · rw [if_pos (horder.mpr hlt)]
        simp only [hlt, if_true]
        exact satisfied_counts
      · rw [if_neg (fun h => hlt (horder.mp h))]
        simp only [hlt, if_false]
        exact violated_counts _ (by simp)

theorem terminalMismatch_length {α : Type} [DecidableEq α] (field : String) (expected : Option α)
    (actual : α) (value : α → Json) :
    (terminalMismatch field expected actual value).length + matching expected actual =
      specified expected := by
  unfold terminalMismatch matching specified
  cases expected with
  | none => simp
  | some wanted =>
    by_cases h : actual = wanted
    · simp [h]
    · have hne : ¬ wanted = actual := fun hw => h hw.symm
      simp [h, hne]

theorem terminalMismatches_length (run : EvaluationRunView) (terminal : TerminalCondition) :
    (terminalMismatches run terminal).length + matchingFields run terminal =
      specifiedFields terminal := by
  have hstatus := terminalMismatch_length "status" terminal.expectedStatus run.status
    fun s => .str s.value
  have heventType := terminalMismatch_length "event_type" terminal.expectedEventType run.eventType
    fun e => .str e.value
  have hrequired := terminalMismatch_length "hitl_required" terminal.expectedHitlRequired
    run.hitlRequired .bool
  have hstate := terminalMismatch_length "hitl_state" terminal.expectedHitlState run.hitlState
    fun h => .str h.value
  simp only [terminalMismatches, List.length_append, matchingFields, specifiedFields]
  omega

theorem terminalCheckCount_eq (terminal : TerminalCondition) :
    terminalCheckCount terminal = specifiedFields terminal := by
  simp only [terminalCheckCount, specifiedFields, specified, Nat.cast_add, Nat.cast_ite,
    Nat.cast_one, Nat.cast_zero]

/-- The terminal family counts its mismatches and its matches apart. -/
theorem terminalTally_counts (run : EvaluationRunView) (terminal : Option TerminalCondition) :
    Counts (terminalTally run terminal) (terminal.elim 0 (matchingFields run))
      (terminal.elim 0 specifiedFields) := by
  cases terminal with
  | none => exact none_counts
  | some terminal =>
    have hlength := terminalMismatches_length run terminal
    have hcount := terminalCheckCount_eq terminal
    simp only [terminalTally, Option.elim_some]
    constructor
    · show terminalCheckCount terminal - ((terminalMismatches run terminal).length : ℤ) = _
      omega
    · show ((terminalMismatches run terminal).length : ℤ) +
        (terminalCheckCount terminal - (terminalMismatches run terminal).length) = _
      omega
    · omega
    · show terminalMismatches run terminal = [] ↔ _
      rw [← List.length_eq_zero_iff]
      omega

/-- The counters of the whole contract. -/
theorem trajectoryTally_counts (run : EvaluationRunView) (contract : ScenarioContract) :
    Counts (trajectoryTally run contract) (satisfiedCount run contract)
      (constraintCount run contract) := by
  have hrequired := foldl_counts contract.requiredTools (requiredTool run) (Called run)
    (fun _ => True) (requiredTool_counts run) Tally.none 0 0 none_counts
  have hforbidden := foldl_counts contract.forbiddenTools (forbiddenTool run)
    (fun toolName => ¬ Called run toolName) (fun _ => True) (forbiddenTool_counts run) _ _ _
    hrequired
  have hordering := foldl_counts contract.orderingConstraints
    (orderedTools (firstToolSequences run)) (InOrder run) (Applicable run)
    (orderedTools_counts run) _ _ _ hforbidden
  have hall := add_counts _ _ _ _ _ _ hordering (terminalTally_counts run contract.terminal)
  simp only [decide_true, List.filter_true, zero_add] at hall
  simpa only [trajectoryTally, Tally.sum, List.foldl_append, List.foldl_cons, List.foldl_nil,
    satisfiedCount, constraintCount] using hall

/-! ### The decision -/

theorem terminalMismatch_eq_nil_iff {α : Type} [DecidableEq α] (field : String)
    (expected : Option α) (actual : α) (value : α → Json) :
    terminalMismatch field expected actual value = [] ↔ ∀ wanted ∈ expected, actual = wanted := by
  unfold terminalMismatch
  cases expected with
  | none => simp
  | some wanted => simp

theorem requiredTool_clean (run : EvaluationRunView) (toolName : String) :
    (requiredTool run toolName).findings = [] ↔ Called run toolName := by
  rw [(requiredTool_counts run toolName).clean]
  by_cases h : Called run toolName <;> simp [h]

theorem forbiddenTool_clean (run : EvaluationRunView) (toolName : String) :
    (forbiddenTool run toolName).findings = [] ↔ ¬ Called run toolName := by
  rw [(forbiddenTool_counts run toolName).clean]
  by_cases h : Called run toolName <;> simp [h]

theorem applicable_of_inOrder (run : EvaluationRunView) (constraint : String × String)
    (h : InOrder run constraint) : Applicable run constraint := by
  obtain ⟨beforeSequence, hb, afterSequence, ha, _⟩ := h
  exact ⟨called_of_firstSequence run _ _ hb, called_of_firstSequence run _ _ ha⟩

theorem orderedTools_clean (run : EvaluationRunView) (constraint : String × String) :
    (orderedTools (firstToolSequences run) constraint).findings = [] ↔
      (Applicable run constraint → InOrder run constraint) := by
  rw [(orderedTools_counts run constraint).clean]
  have happlicable := applicable_of_inOrder run constraint
  by_cases horder : InOrder run constraint
  · simp [horder, happlicable horder]
  · by_cases h : Applicable run constraint <;> simp [horder, h]

/-- There is no finding exactly when the run meets the contract. -/
theorem trajectoryTally_clean (run : EvaluationRunView) (contract : ScenarioContract) :
    (trajectoryTally run contract).findings = [] ↔ Meets run contract := by
  have hterminal : (terminalTally run contract.terminal).findings = [] ↔
      ∀ terminal ∈ contract.terminal, terminalMismatches run terminal = [] := by
    cases contract.terminal with
    | none => simp [terminalTally, Tally.none]
    | some terminal => simp [terminalTally]
  simp only [trajectoryTally, sum_findings, List.flatMap_append, List.append_eq_nil_iff,
    List.flatMap_eq_nil_iff, List.forall_mem_map, List.forall_mem_singleton, requiredTool_clean,
    forbiddenTool_clean, orderedTools_clean, hterminal]
  simp only [terminalMismatches, List.append_eq_nil_iff, terminalMismatch_eq_nil_iff]
  constructor
  · intro h
    obtain ⟨⟨⟨hrequired, hforbidden⟩, hordering⟩, hfields⟩ := h
    exact
      { required := hrequired
        forbidden := hforbidden
        ordering := hordering
        status := fun terminal ht => (hfields terminal ht).1.1.1
        eventType := fun terminal ht => (hfields terminal ht).1.1.2
        hitlRequired := fun terminal ht => (hfields terminal ht).1.2
        hitlState := fun terminal ht => (hfields terminal ht).2 }
  · intro h
    exact ⟨⟨⟨h.required, h.forbidden⟩, h.ordering⟩, fun terminal ht =>
      ⟨⟨⟨h.status terminal ht, h.eventType terminal ht⟩, h.hitlRequired terminal ht⟩,
        h.hitlState terminal ht⟩⟩

/-- A score is a share: none of nothing, and otherwise between 0 and 1, being 1 when the
whole is satisfied. -/
theorem share_of_counts (satisfied total : ℕ) (hle : satisfied ≤ total) :
    (share satisfied total = none ↔ total = 0) ∧
    ∀ score, share satisfied total = some score →
      score = (satisfied : ℚ) / total ∧ 0 ≤ score ∧ score ≤ 1 ∧ (score = 1 ↔ satisfied = total) := by
  unfold share
  by_cases htotal : total = 0
  · simp [htotal]
  · have hpos : (total : ℤ) > 0 := by omega
    have hq : (0 : ℚ) < total := by exact_mod_cast Nat.pos_of_ne_zero htotal
    have hleq : (satisfied : ℚ) ≤ total := by exact_mod_cast hle
    rw [if_pos hpos, Int.cast_natCast, Int.cast_natCast]
    constructor
    · simp [htotal]
    · intro score hscore
      obtain rfl := Option.some.inj hscore
      have hone : (satisfied : ℚ) / total = 1 ↔ satisfied = total := by
        rw [div_eq_one_iff_eq (ne_of_gt hq)]
        exact Nat.cast_inj
      exact ⟨rfl, by positivity, (div_le_one hq).mpr hleq, hone⟩

/-- What the evaluator returns for a run that a contract applies to. -/
structure Decides (run : EvaluationRunView) (contract : ScenarioContract)
    (result : EvaluationResult) : Prop where
  passed : result.passed = true ↔ Meets run contract
  reason : result.reason = toString (satisfiedCount run contract) ++ "/" ++
    toString (constraintCount run contract) ++ " trajectory constraints satisfied"
  unscored : result.score = none ↔ constraintCount run contract = 0
  scored : ∀ score, result.score = some score →
    score = (satisfiedCount run contract : ℚ) / constraintCount run contract ∧
      0 ≤ score ∧ score ≤ 1 ∧ (score = 1 ↔ result.passed = true)

/-- The trajectory evaluator decides whatever contract its run resolves to exactly. -/
theorem trajectory_exact (tables : ContractTables) (run : EvaluationRunView)
    (contract : ScenarioContract) (h : tables.contractFor run.scenarioId = some contract) :
    Decides run contract (trajectoryOver tables run) := by
  have hresult : trajectoryOver tables run = trajectoryResult (trajectoryTally run contract) := by
    unfold trajectoryOver
    rw [h]
  obtain ⟨hsatisfied, htotal, hle, hclean⟩ := trajectoryTally_counts run contract
  have hmeets := trajectoryTally_clean run contract
  have hpassed : (trajectoryResult (trajectoryTally run contract)).passed = true ↔
      (trajectoryTally run contract).findings = [] := List.isEmpty_iff
  obtain ⟨hnone, hsome⟩ := share_of_counts _ _ hle
  rw [hresult]
  constructor
  · rw [hpassed, hmeets]
  · simp only [trajectoryResult, hsatisfied, htotal]
    rfl
  · simpa only [trajectoryResult, hsatisfied, htotal] using hnone
  · intro score hscore
    simp only [trajectoryResult, hsatisfied, htotal] at hscore
    obtain ⟨hvalue, hnonneg, hmost, hone⟩ := hsome score hscore
    exact ⟨hvalue, hnonneg, hmost, by rw [hone, hpassed, hclean]⟩

/- A tool required twice, and required to come before itself. -/
def repeatingContract : ScenarioContract where
  scenarioId := "GS-TEST"
  requiredTools := ["submit_work_order", "submit_work_order"]
  orderingConstraints := [("submit_work_order", "submit_work_order")]
  terminal := some { expectedStatus := some .awaitingApproval }

def repeatingTables : ContractTables := ⟨[("GS-TEST", repeatingContract)], []⟩

def repeatingView : EvaluationRunView := { bypassedView with scenarioId := some "GS-TEST" }

theorem trajectory_exact_repeating :
    Decides repeatingView repeatingContract (trajectoryOver repeatingTables repeatingView) ∧
    (trajectoryOver repeatingTables repeatingView).score = some (3 / 4) :=
  ⟨trajectory_exact repeatingTables repeatingView repeatingContract rfl, by decide +kernel⟩

end ObsPlatform.Evaluation
