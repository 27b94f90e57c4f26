import ObsPlatform.Regressions.Linked

/-!
# What a runner reports

Each slot ends with a created run or with an error. `AccountsFor` says that the report lists
the slots so, and that the created runs are stored and linked; both stay true as long as
linkages are kept.
-/

namespace ObsPlatform.Regressions

open Telemetry Db Evaluation Ingestion Platform

section Report
variable (regressionRunId : ℕ)

/-- The run of the slot is stored, and linked to the regression as this repetition. -/
def Filled (slot : Slot) (store : Store) : Prop :=
  ∃ run, store.agentRuns.find?
      (regressionRunEventId regressionRunId slot.scenarioId slot.repetitionIndex) = some run ∧
    run.regressionRunId = some regressionRunId ∧ run.repetitionIndex = some slot.repetitionIndex

theorem filled_kept (slot : Slot) (store store' : Store) (h : LinkageKept store store')
    (hfilled : Filled regressionRunId slot store) : Filled regressionRunId slot store' := by
  obtain ⟨run, hrow, hregression, hrepetition⟩ := hfilled
  obtain ⟨run', hrow', hregression', hrepetition'⟩ := h _ run hrow (by rw [hregression]; rfl)
  exact ⟨run', hrow', hregression'.trans hregression, hrepetition'.trans hrepetition⟩

theorem filled_slotLinked (slot : Slot) (now : Timestamp) (store : Store)
    (hstored : (store.agentRuns.find?
      (regressionRunEventId regressionRunId slot.scenarioId slot.repetitionIndex)).isSome) :
    Filled regressionRunId slot (slotLinked regressionRunId slot now store) := by
  obtain ⟨run, hrow⟩ := Option.isSome_iff_exists.mp hstored
  refine ⟨linkAgentRun regressionRunId slot.scenarioId slot.repetitionIndex now run, ?_, rfl, rfl⟩
  rw [slotLinked, updateLinkage_find?, if_pos rfl, hrow, Option.map_some]

/-- A created run fills the slot; an error names it. -/
def Reported (store : Store) (slot : Slot) : Except RegressionRunError String → Prop
  | .ok childRunId =>
    childRunId = regressionRunEventId regressionRunId slot.scenarioId slot.repetitionIndex ∧
      Filled regressionRunId slot store
  | .error error =>
    error.scenarioId = slot.scenarioId ∧ error.repetitionIndex = slot.repetitionIndex

/-- The progress accounts for these slots, each once and in their order. -/
inductive AccountsFor (store : Store) : List Slot → RegressionRunner.Progress → Prop where
  | none : AccountsFor store [] ⟨[], []⟩
  | next (attempted : List Slot) (progress : RegressionRunner.Progress) (slot : Slot)
      (outcome : Except RegressionRunError String) (h : AccountsFor store attempted progress)
      (hreported : Reported regressionRunId store slot outcome) :
      AccountsFor store (attempted ++ [slot]) (progress.append outcome)

theorem reported_kept (store store' : Store) (h : LinkageKept store store') (slot : Slot)
    (outcome : Except RegressionRunError String)
    (hreported : Reported regressionRunId store slot outcome) :
    Reported regressionRunId store' slot outcome := by
  cases outcome with
  | ok childRunId => exact ⟨hreported.1, filled_kept _ slot store store' h hreported.2⟩
  | error error => exact hreported

theorem accountsFor_kept (store store' : Store) (h : LinkageKept store store')
    (attempted : List Slot) (progress : RegressionRunner.Progress)
    (haccounts : AccountsFor regressionRunId store attempted progress) :
    AccountsFor regressionRunId store' attempted progress := by
  induction haccounts with
  | none => exact .none
  | next attempted progress slot outcome _ hreported ih =>
    exact .next attempted progress slot outcome ih
      (reported_kept _ store store' h slot outcome hreported)

section Read
variable (store : Store) (attempted : List Slot) (progress : RegressionRunner.Progress)
  (h : AccountsFor regressionRunId store attempted progress)
include h

theorem accountsFor_length :
    progress.createdRunIds.length + progress.errors.length = attempted.length := by
  induction h with
  | none => rfl
  | next attempted progress slot outcome _ _ ih =>
    cases outcome <;>
      simp only [RegressionRunner.Progress.append, List.length_append, List.length_singleton] <;>
      omega

theorem accountsFor_created (childRunId : String) (hmem : childRunId ∈ progress.createdRunIds) :
    ∃ slot ∈ attempted,
      childRunId = regressionRunEventId regressionRunId slot.scenarioId slot.repetitionIndex ∧
        Filled regressionRunId slot store := by
  induction h with
  | none => cases hmem
  | next attempted progress slot outcome _ hreported ih =>
    have hbefore := fun hmem =>
      (ih hmem).imp fun _ h => And.imp_left (List.mem_append_left [slot]) h
    cases outcome with
    | error error => exact hbefore hmem
    | ok created =>
      rcases List.mem_append.mp hmem with hmem | hmem
      · exact hbefore hmem
      · rw [List.mem_singleton.mp hmem]
        exact ⟨slot, List.mem_append_right _ List.mem_cons_self, hreported⟩

theorem accountsFor_errors (error : RegressionRunError) (hmem : error ∈ progress.errors) :
    (⟨error.scenarioId, error.repetitionIndex⟩ : Slot) ∈ attempted := by
  induction h with
  | none => cases hmem
  | next attempted progress slot outcome _ hreported ih =>
    cases outcome with
    | ok created => exact List.mem_append_left _ (ih hmem)
    | error last =>
      rcases List.mem_append.mp hmem with hmem | hmem
      · exact List.mem_append_left _ (ih hmem)
      · rw [List.mem_singleton.mp hmem, hreported.1, hreported.2]
        exact List.mem_append_right _ List.mem_cons_self

end Read

end Report

end ObsPlatform.Regressions
