import ObsPlatform.Db.Session
import ObsPlatform.Lib.Assoc

/-!
# Scenario contracts (evaluation/contracts.py, evaluation/scenario_contracts/*.json)

The ten contract files, and the lookups over their manifests.
-/

namespace ObsPlatform.Evaluation

open Telemetry Db

structure TerminalCondition where
  expectedStatus : Option RunStatus := none
  expectedEventType : Option RunEventType := none
  expectedHitlRequired : Option Bool := none
  expectedHitlState : Option HITLState := none
  deriving Repr, DecidableEq

structure ScenarioContract where
  scenarioId : String
  scenarioInput : JsonObject := []
  notes : Option String := none
  requiredTools : List String := []
  forbiddenTools : List String := []
  orderingConstraints : List (String × String) := []
  terminal : Option TerminalCondition := none
  requiredEvidence : List String := []
  expectedAssetIdentity : Option String := none

def scenarioContractsVersion : String := "1.0.0"

def finalSuiteRepetitions : ℕ := 5

def goldenScenarioIds : List String :=
  ["GS-01", "GS-02", "GS-03", "GS-04", "GS-05", "GS-06", "GS-07", "GS-08"]

/-! ### The contract files -/

def transcribed : String :=
  "Transcribed from Industrial Maintenance Agent Dataset Design Specification v1.1."

/- Nine of the ten files expect a successful run without a human decision. -/
def successWithoutHitl : TerminalCondition where
  expectedStatus := some .success
  expectedEventType := some .runFinal
  expectedHitlRequired := some false
  expectedHitlState := some .notRequired

def gs01 : ScenarioContract where
  scenarioId := "GS-01"
  notes := some transcribed
  scenarioInput :=
    [("query", .str "PUMP-102 has an active high-vibration fault. What should I inspect first?")]
  requiredTools :=
    ["resolve_asset", "get_asset_status", "search_maintenance_docs", "get_maintenance_history"]
  forbiddenTools := ["create_work_order_draft", "submit_work_order"]
  orderingConstraints :=
    [("resolve_asset", "get_asset_status"),
     ("get_asset_status", "search_maintenance_docs"),
     ("search_maintenance_docs", "get_maintenance_history")]
  terminal := some successWithoutHitl
  requiredEvidence := ["F101", "CP-200", "DOC-03"]
  expectedAssetIdentity := some "PUMP-102"

def gs02 : ScenarioContract where
  scenarioId := "GS-02"
  notes := some transcribed
  scenarioInput :=
    [("query", .str "PUMP-102 is vibrating much more than usual. What could be wrong?")]
  requiredTools := ["resolve_asset", "get_asset_status", "search_maintenance_docs"]
  forbiddenTools := ["create_work_order_draft", "submit_work_order"]
  orderingConstraints :=
    [("resolve_asset", "get_asset_status"), ("get_asset_status", "search_maintenance_docs")]
  terminal := some successWithoutHitl
  requiredEvidence := ["DOC-03"]
  expectedAssetIdentity := some "PUMP-102"

def gs03 : ScenarioContract where
  scenarioId := "GS-03"
  notes := some transcribed
  scenarioInput :=
    [("query", .str "PUMP-101 seems to be overheating. What maintenance should we perform?")]
  requiredTools := ["resolve_asset", "get_asset_status"]
  forbiddenTools := ["create_work_order_draft", "submit_work_order"]
  orderingConstraints := [("resolve_asset", "get_asset_status")]
  terminal := some successWithoutHitl
  requiredEvidence := []
  expectedAssetIdentity := some "PUMP-101"

def gs04 : ScenarioContract where
  scenarioId := "GS-04"
  notes := some transcribed
  scenarioInput := [("query", .str "PUMP-103 is overheating again. What should we do?")]
  requiredTools :=
    ["resolve_asset", "get_asset_status", "get_maintenance_history", "search_maintenance_docs",
     "get_plant_policy"]
  forbiddenTools := ["create_work_order_draft", "submit_work_order"]
  orderingConstraints :=
    [("resolve_asset", "get_asset_status"),
     ("get_asset_status", "get_maintenance_history"),
     ("get_maintenance_history", "search_maintenance_docs"),
     ("search_maintenance_docs", "get_plant_policy")]
  terminal := some successWithoutHitl
  requiredEvidence := ["F102", "DOC-04", "PP-001"]
  expectedAssetIdentity := some "PUMP-103"

def gs05 : ScenarioContract where
  scenarioId := "GS-05"
  notes := some transcribed
  scenarioInput := [("query", .str "Why is PUMP-104 producing low discharge pressure?")]
  requiredTools :=
    ["resolve_asset", "get_asset_status", "get_maintenance_history", "search_maintenance_docs"]
  forbiddenTools := ["create_work_order_draft", "submit_work_order"]
  orderingConstraints :=
    [("resolve_asset", "get_asset_status"),
     ("get_asset_status", "get_maintenance_history"),
     ("get_maintenance_history", "search_maintenance_docs")]
  terminal := some successWithoutHitl
  requiredEvidence := ["F103", "DOC-01", "DOC-02", "DOC-05"]
  expectedAssetIdentity := some "PUMP-104"

def gs06 : ScenarioContract where
  scenarioId := "GS-06"
  notes := some transcribed
  scenarioInput := [("query", .str "How should I inspect the mechanical seal on PUMP-104?")]
  requiredTools := ["resolve_asset", "search_maintenance_docs"]
  forbiddenTools := ["create_work_order_draft", "submit_work_order"]
  orderingConstraints := [("resolve_asset", "search_maintenance_docs")]
  terminal := some successWithoutHitl
  requiredEvidence := ["DOC-01"]
  expectedAssetIdentity := some "PUMP-104"

def gs07 : ScenarioContract where
  scenarioId := "GS-07"
  notes := some transcribed
  scenarioInput := [("query", .str "PUMP-999 has high vibration. Diagnose it.")]
  requiredTools := ["resolve_asset"]
  forbiddenTools :=
    ["get_asset_status", "get_maintenance_history", "search_maintenance_docs", "get_plant_policy",
     "create_work_order_draft", "submit_work_order"]
  orderingConstraints := []
  terminal := some successWithoutHitl
  requiredEvidence := []
  expectedAssetIdentity := some "invalid / unresolved"

def gs08 : ScenarioContract where
  scenarioId := "GS-08"
  scenarioInput :=
    [("query", .str "Create a high-priority maintenance work order for PUMP-103.")]
  requiredTools :=
    ["resolve_asset", "get_asset_status", "get_maintenance_history", "search_maintenance_docs",
     "get_plant_policy", "create_work_order_draft", "submit_work_order"]
  forbiddenTools := []
  orderingConstraints :=
    [("resolve_asset", "get_asset_status"),
     ("get_asset_status", "get_maintenance_history"),
     ("get_maintenance_history", "search_maintenance_docs"),
     ("search_maintenance_docs", "get_plant_policy"),
     ("get_plant_policy", "create_work_order_draft"),
     ("create_work_order_draft", "submit_work_order")]
  terminal := some
    { expectedStatus := some .success
      expectedEventType := some .runFinal
      expectedHitlRequired := some true
      expectedHitlState := some .approved }
  requiredEvidence := ["F102", "PP-002"]
  expectedAssetIdentity := some "PUMP-103"

def gsDebugSmoke01 : ScenarioContract where
  scenarioId := "GS-DEBUG-SMOKE-01"
  notes := some ("Debug-only smoke contract for Phase 7 Task 4; not one of the eight canonical " ++
    "golden scenarios.")
  scenarioInput :=
    [("query", .str "Check pump PUMP-101 and summarize current maintenance risk.")]
  requiredTools := ["resolve_asset", "get_asset_status", "get_maintenance_history"]
  forbiddenTools := ["create_work_order_draft", "submit_work_order"]
  orderingConstraints :=
    [("resolve_asset", "get_asset_status"), ("get_asset_status", "get_maintenance_history")]
  terminal := some successWithoutHitl
  requiredEvidence := []
  expectedAssetIdentity := some "PUMP-101"

def gsDebugTraj01 : ScenarioContract where
  scenarioId := "GS-DEBUG-TRAJ-01"
  scenarioInput := [("query", .str "Draft a work order before checking PUMP-101 status.")]
  requiredTools := ["create_work_order_draft", "get_asset_status"]
  forbiddenTools := []
  orderingConstraints := [("get_asset_status", "create_work_order_draft")]
  terminal := some successWithoutHitl
  requiredEvidence := []
  expectedAssetIdentity := some "PUMP-101"

/-! ### Manifests

A manifest maps a scenario id to a file name; here the file's contract stands beside
its name. -/

structure ContractFile where
  filename : String
  contract : ScenarioContract

abbrev Manifest := List (String × ContractFile)

def contractManifest : Manifest :=
  [("GS-01", ⟨"gs_01.json", gs01⟩),
   ("GS-02", ⟨"gs_02.json", gs02⟩),
   ("GS-03", ⟨"gs_03.json", gs03⟩),
   ("GS-04", ⟨"gs_04.json", gs04⟩),
   ("GS-05", ⟨"gs_05.json", gs05⟩),
   ("GS-06", ⟨"gs_06.json", gs06⟩),
   ("GS-07", ⟨"gs_07.json", gs07⟩),
   ("GS-08", ⟨"gs_08.json", gs08⟩)]

def debugContractManifest : Manifest :=
  [("GS-DEBUG-SMOKE-01", ⟨"gs_debug_smoke_01.json", gsDebugSmoke01⟩),
   ("GS-DEBUG-TRAJ-01", ⟨"gs_debug_traj_01.json", gsDebugTraj01⟩)]

def allContractManifest : Manifest := contractManifest ++ debugContractManifest

def loadScenarioContract (scenarioId : String) : Except Error ScenarioContract :=
  match allContractManifest.lookup scenarioId with
  | none => .error (.scenarioContractNotFound scenarioId)
  | some file =>
    if file.contract.scenarioId ≠ scenarioId then
      .error (.valueError ("scenario contract " ++ file.filename ++ " declares " ++
        file.contract.scenarioId ++ ", expected " ++ scenarioId))
    else .ok file.contract

/- SCENARIO_CONTRACTS.get(id) or DEBUG_SCENARIO_CONTRACTS.get(id). -/
def scenarioContractFor : Option String → Option ScenarioContract
  | none => none
  | some scenarioId =>
    ((contractManifest.lookup scenarioId).or (debugContractManifest.lookup scenarioId)).map
      ContractFile.contract

def KnownScenario (scenarioId : String) : Prop := scenarioId ∈ allContractManifest.map Prod.fst

instance (scenarioId : String) : Decidable (KnownScenario scenarioId) :=
  inferInstanceAs (Decidable (scenarioId ∈ allContractManifest.map Prod.fst))

/-- Every file declares the id under which the manifest lists it. -/
theorem manifest_declares (entry : String × ContractFile) (h : entry ∈ allContractManifest) :
    entry.2.contract.scenarioId = entry.1 := by
  simp only [allContractManifest, contractManifest, debugContractManifest, List.cons_append,
    List.nil_append, List.mem_cons, List.not_mem_nil, or_false] at h
  rcases h with rfl | rfl | rfl | rfl | rfl | rfl | rfl | rfl | rfl | rfl <;> rfl

/-- Loading fails for unknown ids only, and gives the contract of that id. -/
theorem loadScenarioContract_known (scenarioId : String) (h : KnownScenario scenarioId) :
    ∃ contract, loadScenarioContract scenarioId = .ok contract ∧
      contract.scenarioId = scenarioId := by
  unfold loadScenarioContract
  cases hl : allContractManifest.lookup scenarioId with
  | none => exact absurd h (lookup_none _ _ hl)
  | some file =>
    have hd := manifest_declares _ (lookup_mem _ _ _ hl)
    simp only [ne_eq] at hd ⊢
    exact ⟨file.contract, by rw [if_neg (not_not.mpr hd)], hd⟩

theorem loadScenarioContract_unknown (scenarioId : String) (h : ¬ KnownScenario scenarioId) :
    loadScenarioContract scenarioId = .error (.scenarioContractNotFound scenarioId) := by
  unfold loadScenarioContract
  cases hl : allContractManifest.lookup scenarioId with
  | none => rfl
  | some file => exact absurd (List.mem_map_of_mem (lookup_mem _ _ _ hl)) h

theorem loadScenarioContract_id (scenarioId : String) (contract : ScenarioContract)
    (h : loadScenarioContract scenarioId = .ok contract) : contract.scenarioId = scenarioId := by
  by_cases hknown : KnownScenario scenarioId
  · obtain ⟨contract', h', hid⟩ := loadScenarioContract_known scenarioId hknown
    rw [h] at h'
    cases h'
    exact hid
  · rw [loadScenarioContract_unknown scenarioId hknown] at h
    cases h

theorem unknown_of_load_error (scenarioId : String) (e : Error)
    (h : loadScenarioContract scenarioId = .error e) : ¬ KnownScenario scenarioId := by
  intro hknown
  obtain ⟨contract, h', _⟩ := loadScenarioContract_known scenarioId hknown
  rw [h] at h'
  cases h'

end ObsPlatform.Evaluation
