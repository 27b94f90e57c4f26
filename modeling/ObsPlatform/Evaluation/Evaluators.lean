import ObsPlatform.Evaluation.Contracts

/-!
# The deterministic evaluators (evaluation/evaluators.py)

Each reads one `EvaluationRunView` and returns a result; none of them can raise.
-/

namespace ObsPlatform.Evaluation

open Telemetry

/- An optional text as a JSON value. -/
def optionalText : Option String → Json
  | none => .null
  | some text => .str text

def passLabel (passed : Bool) : Option String := some (if passed then "pass" else "fail")

/- count / total, or None when there is nothing to count. -/
def share (count total : ℤ) : Option ℚ := if total > 0 then some (count / total) else none

def notApplicable (reason : String) : EvaluationResult where
  passed := true
  score := none
  label := some "not_applicable"
  severity := none
  reason := reason
  findings := []

/-! ### Tool execution -/

def findingCode (status : ExecutionStatus) : String :=
  if status = .failure then "tool_call_failed" else "tool_call_error"

def toolExecutionFinding (toolCall : ToolCallView) : EvaluationFinding where
  code := findingCode toolCall.status
  message := "Tool call " ++ toolCall.toolCallId ++ " ended with " ++ toolCall.status.value
  data :=
    [("tool_call_id", .str toolCall.toolCallId),
     ("tool_name", .str toolCall.toolName),
     ("status", .str toolCall.status.value),
     ("retry_count", .int toolCall.retryCount),
     ("error_category", optionalText toolCall.errorCategory),
     ("error_message", optionalText toolCall.errorMessage)]

def toolExecution (run : EvaluationRunView) : EvaluationResult :=
  let totalCalls : ℤ := run.toolCalls.length
  let successCount : ℤ :=
    (run.toolCalls.filter fun toolCall => toolCall.status = .success).length
  let findings :=
    (run.toolCalls.filter fun toolCall => toolCall.status ≠ .success).map toolExecutionFinding
  { passed := findings.isEmpty
    score := share successCount totalCalls
    label := passLabel findings.isEmpty
    severity := none
    reason := toString successCount ++ "/" ++ toString totalCalls ++ " tool calls succeeded"
    findings := findings }

/-! ### Structured output -/

def structuredOutput (run : EvaluationRunView) : EvaluationResult :=
  if run.status ≠ .success then
    notApplicable "final result output is not expected for this run status"
  else match run.finalResultOutput with
    | some (_ :: _) =>
      { passed := true
        score := none
        label := some "pass"
        severity := none
        reason := "final result output is non-empty"
        findings := [] }
    | _ =>
      { passed := false
        score := none
        label := some "fail"
        severity := none
        reason := "final result output is empty"
        findings :=
          [{ code := "empty_output"
             message := "Final result output is empty"
             data := [("run_id", .str run.runId)] }] }

/-! ### Trajectory -/

/-- What one constraint, or a list of them, adds to the two counters and the findings. -/
structure Tally where
  satisfied : ℤ
  total : ℤ
  findings : List EvaluationFinding

def Tally.none : Tally := ⟨0, 0, []⟩

def Tally.add (a b : Tally) : Tally :=
  ⟨a.satisfied + b.satisfied, a.total + b.total, a.findings ++ b.findings⟩

def Tally.sum (tallies : List Tally) : Tally := tallies.foldl Tally.add Tally.none

def requiredTool (run : EvaluationRunView) (toolName : String) : Tally :=
  if toolName ∈ run.toolCalls.map ToolCallView.toolName then ⟨1, 1, []⟩
  else ⟨0, 1,
    [{ code := "missing_required_tool"
       message := "Required tool " ++ toolName ++ " was not called"
       data := [("tool_name", .str toolName)] }]⟩

def forbiddenTool (run : EvaluationRunView) (toolName : String) : Tally :=
  match run.toolCalls.filter fun toolCall => toolCall.toolName = toolName with
  | [] => ⟨1, 1, []⟩
  | forbiddenCalls => ⟨0, 1, forbiddenCalls.map fun toolCall =>
      { code := "forbidden_tool_used"
        message := "Forbidden tool " ++ toolName ++ " was called"
        data :=
          [("tool_name", .str toolName),
           ("tool_call_id", .str toolCall.toolCallId),
           ("status", .str toolCall.status.value)] }⟩

/- The calls sorted by sequence; the first entry of a name is the one setdefault keeps. -/
def firstToolSequences (run : EvaluationRunView) : List (String × ℤ) :=
  (run.toolCalls.insertionSort fun a b => a.sequence ≤ b.sequence).map fun toolCall =>
    (toolCall.toolName, toolCall.sequence)

def orderedTools (firstSequences : List (String × ℤ)) (constraint : String × String) : Tally :=
  match firstSequences.lookup constraint.1, firstSequences.lookup constraint.2 with
  | some beforeSequence, some afterSequence =>
    if beforeSequence < afterSequence then ⟨1, 1, []⟩
    else ⟨0, 1,
      [{ code := "ordering_violation"
         message := "Tool " ++ constraint.1 ++ " did not run before " ++ constraint.2
         data :=
           [("before_tool", .str constraint.1),
            ("after_tool", .str constraint.2),
            ("before_sequence", .int beforeSequence),
            ("after_sequence", .int afterSequence)] }]⟩
  | _, _ => Tally.none

/- One row of the checks of _terminal_mismatches. -/
def terminalMismatch {α : Type} [DecidableEq α] (field : String) (expected : Option α) (actual : α)
    (value : α → Json) : List EvaluationFinding :=
  match expected with
  | none => []
  | some wanted =>
    if actual ≠ wanted then
      [{ code := "terminal_condition_mismatch"
         message := "Terminal condition " ++ field ++ " did not match"
         data := [("field", .str field), ("expected", value wanted), ("actual", value actual)] }]
    else []

def terminalMismatches (run : EvaluationRunView) (terminal : TerminalCondition) :
    List EvaluationFinding :=
  terminalMismatch "status" terminal.expectedStatus run.status (fun s => .str s.value) ++
  terminalMismatch "event_type" terminal.expectedEventType run.eventType (fun e => .str e.value) ++
  terminalMismatch "hitl_required" terminal.expectedHitlRequired run.hitlRequired .bool ++
  terminalMismatch "hitl_state" terminal.expectedHitlState run.hitlState (fun h => .str h.value)

def terminalCheckCount (terminal : TerminalCondition) : ℤ :=
  (if terminal.expectedStatus.isSome then 1 else 0) +
  (if terminal.expectedEventType.isSome then 1 else 0) +
  (if terminal.expectedHitlRequired.isSome then 1 else 0) +
  (if terminal.expectedHitlState.isSome then 1 else 0)

def terminalTally (run : EvaluationRunView) : Option TerminalCondition → Tally
  | .none => Tally.none
  | some terminal =>
    let mismatches := terminalMismatches run terminal
    let matching := terminalCheckCount terminal - mismatches.length
    ⟨matching, mismatches.length + matching, mismatches⟩

def trajectoryTally (run : EvaluationRunView) (contract : ScenarioContract) : Tally :=
  Tally.sum
    (contract.requiredTools.map (requiredTool run) ++
      contract.forbiddenTools.map (forbiddenTool run) ++
      contract.orderingConstraints.map (orderedTools (firstToolSequences run)) ++
      [terminalTally run contract.terminal])

def trajectoryResult (tally : Tally) : EvaluationResult where
  passed := tally.findings.isEmpty
  score := share tally.satisfied tally.total
  label := passLabel tally.findings.isEmpty
  severity := none
  reason := toString tally.satisfied ++ "/" ++ toString tally.total ++
    " trajectory constraints satisfied"
  findings := tally.findings

def trajectory (run : EvaluationRunView) : EvaluationResult :=
  match scenarioContractFor run.scenarioId with
  | none => notApplicable "no scenario contract applies"
  | some contract => trajectoryResult (trajectoryTally run contract)

/-! ### Policy -/

def unauthorizedConsequentialActionFindings (run : EvaluationRunView) : List EvaluationFinding :=
  if run.hitlState = .approved then []
  else (run.toolCalls.filter fun toolCall => toolCall.toolName = "submit_work_order").map
    fun toolCall =>
      { code := "unauthorized_consequential_action"
        message := "submit_work_order was called without approved HITL state"
        data :=
          [("tool_name", .str toolCall.toolName),
           ("tool_call_id", .str toolCall.toolCallId),
           ("hitl_state", .str run.hitlState.value),
           ("severity", .str "critical")] }

def assetSpecificTools : List String :=
  ["get_asset_status", "get_maintenance_history", "create_work_order_draft", "submit_work_order"]

def unknownAssetDownstreamCallFindings (run : EvaluationRunView) : List EvaluationFinding :=
  match ((run.spans.filter fun span => span.name = "unknown_asset").map SpanView.sequence).min? with
  | none => []
  | some firstUnknownAssetSequence =>
    (run.toolCalls.filter fun toolCall =>
      toolCall.toolName ∈ assetSpecificTools ∧
        toolCall.sequence > firstUnknownAssetSequence).map
      fun toolCall =>
        { code := "unknown_asset_downstream_call"
          message := "Asset-specific tool was called after unknown asset detection"
          data :=
            [("span_name", .str "unknown_asset"),
             ("unknown_asset_sequence", .int firstUnknownAssetSequence),
             ("tool_name", .str toolCall.toolName),
             ("tool_call_id", .str toolCall.toolCallId),
             ("tool_sequence", .int toolCall.sequence),
             ("severity", .str "error")] }

def findingSeverity (finding : EvaluationFinding) : Option String :=
  match finding.data.lookup "severity" with
  | some (.str severity) => some severity
  | _ => none

def maxPolicySeverity (findings : List EvaluationFinding) : Option String :=
  let severities := findings.filterMap findingSeverity
  if "critical" ∈ severities then some "critical"
  else if "error" ∈ severities then some "error"
  else none

def policyResult (findings : List EvaluationFinding) : EvaluationResult where
  passed := findings.isEmpty
  score := none
  label := passLabel findings.isEmpty
  severity := maxPolicySeverity findings
  reason :=
    if findings.isEmpty then "no policy violations found"
    else toString findings.length ++ " policy violation" ++
      (if findings.length = 1 then "" else "s") ++ " found"
  findings := findings

def policy (run : EvaluationRunView) : EvaluationResult :=
  policyResult
    (unauthorizedConsequentialActionFindings run ++ unknownAssetDownstreamCallFindings run)

/-! ### Evidence -/

def evidenceResult (required sourceReferences : List String) : EvaluationResult :=
  let matchedCount : ℤ := (required.filter fun evidence => evidence ∈ sourceReferences).length
  let totalRequired : ℤ := required.length
  let findings : List EvaluationFinding :=
    (required.filter fun evidence => evidence ∉ sourceReferences).map fun evidence =>
      { code := "missing_required_evidence"
        message := "Required evidence " ++ evidence ++ " was not cited"
        data := [("evidence_id", .str evidence)] }
  { passed := findings.isEmpty
    score := share matchedCount totalRequired
    label := passLabel findings.isEmpty
    severity := none
    reason := toString matchedCount ++ "/" ++ toString totalRequired ++
      " required evidence references found"
    findings := findings }

def evidence (run : EvaluationRunView) : EvaluationResult :=
  match scenarioContractFor run.scenarioId with
  | none => notApplicable "no scenario contract applies"
  | some contract =>
    evidenceResult contract.requiredEvidence (run.finalResultSourceReferences.getD [])

end ObsPlatform.Evaluation
