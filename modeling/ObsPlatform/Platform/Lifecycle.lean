import ObsPlatform.Platform.Usage

/-!
# The lifecycle of a stored run

The validator checks the lifecycle matrix event by event. An ingestion writes every
column of the matrix, nulls included, whatever the row held before, and nothing else
writes any of them, so that a stored row always agrees with one column of the matrix.
-/

namespace ObsPlatform.Platform

open Telemetry Db Evaluation Ingestion

def ErrorStatus (status : RunStatus) : Prop := status = .toolError ∨ status = .runtimeError

/-- The row's columns agree with each other as one lifecycle stage has them. -/
structure StoredLifecycle (row : AgentRun) : Prop where
  awaitingStatus : row.eventType = .runAwaitingApproval ↔ row.status = .awaitingApproval
  awaitingCompletion : row.status = .awaitingApproval ↔ row.completedAt = none
  awaitingState : row.completedAt = none ↔ row.hitlState = .pending
  awaitingAction : row.hitlState = .pending ↔ row.hitlPendingAction.isSome
  successOutput : row.status = .success ↔ row.finalResultOutput.isSome
  successReferences : row.finalResultOutput.isSome ↔ row.finalResultSourceReferences.isSome
  errorCategory : ErrorStatus row.status ↔ row.runtimeErrorCategory.isSome
  errorMessage : row.runtimeErrorCategory.isSome ↔ row.runtimeErrorMessage.isSome
  hitlRequired : row.hitlRequired = true ↔ row.hitlState ≠ .notRequired
  errorState : ErrorStatus row.status → row.hitlState = .notRequired

/-! ### What an ingestion writes -/

theorem awaiting_lifecycle (event : ExtendedRunEvent) (now : Timestamp)
    (ht : event.eventType = .runAwaitingApproval) (hl : LifecycleConsistent event) :
    StoredLifecycle (agentRunValues event now) := by
  unfold LifecycleConsistent at hl
  simp only [ht] at hl
  obtain ⟨hcompleted, hstatus, hresult, herror, hrequired, hstate, haction⟩ := hl
  constructor <;>
    simp [agentRunValues, errorFields, ErrorStatus, ht, hcompleted, hstatus, hresult, herror,
      hrequired, hstate, haction]

theorem success_lifecycle (event : ExtendedRunEvent) (now : Timestamp)
    (ht : event.eventType = .runFinal) (hcompleted : event.completedAt.isSome)
    (haction : event.hitl.pendingAction = none) (hstatus : event.status = .success)
    (hresult : event.finalResult.isSome) (herror : event.runtimeError = none)
    (hhitl : event.hitl.required = false ∧ event.hitl.state = .notRequired ∨
      event.hitl.required = true ∧ (event.hitl.state = .approved ∨ event.hitl.state = .rejected)) :
    StoredLifecycle (agentRunValues event now) := by
  have hdone : event.completedAt ≠ none := Option.isSome_iff_ne_none.mp hcompleted
  have hpending : event.hitl.state ≠ .pending := by
    rcases hhitl with ⟨_, hs⟩ | ⟨_, hs | hs⟩ <;> simp [hs]
  have hrequired : event.hitl.required = true ↔ event.hitl.state ≠ .notRequired := by
    rcases hhitl with ⟨hr, hs⟩ | ⟨hr, hs | hs⟩ <;> simp [hr, hs]
  constructor <;>
    simp [agentRunValues, errorFields, ErrorStatus, ht, hdone, haction, hstatus, hresult, herror,
      hpending, hrequired]

theorem error_lifecycle (event : ExtendedRunEvent) (now : Timestamp)
    (ht : event.eventType = .runFinal) (hcompleted : event.completedAt.isSome)
    (haction : event.hitl.pendingAction = none) (hstatus : ErrorStatus event.status)
    (hresult : event.finalResult = none) (herror : event.runtimeError.isSome)
    (hrequired : event.hitl.required = false) (hstate : event.hitl.state = .notRequired) :
    StoredLifecycle (agentRunValues event now) := by
  have hdone : event.completedAt ≠ none := Option.isSome_iff_ne_none.mp hcompleted
  obtain ⟨info, hinfo⟩ := Option.isSome_iff_exists.mp herror
  rcases hstatus with hs | hs <;> constructor <;>
    simp [agentRunValues, errorFields, ErrorStatus, ht, hdone, haction, hs, hresult, hinfo,
      hrequired, hstate]

/-- Every column of the matrix comes from the event. -/
theorem agentRunValues_lifecycle (event : ExtendedRunEvent) (now : Timestamp)
    (hl : LifecycleConsistent event) : StoredLifecycle (agentRunValues event now) := by
  cases ht : event.eventType with
  | runAwaitingApproval => exact awaiting_lifecycle event now ht hl
  | runFinal =>
    unfold LifecycleConsistent at hl
    simp only [ht] at hl
    obtain ⟨hcompleted, haction, hsuccess | herror⟩ := hl
    · obtain ⟨hstatus, hresult, hnone, hhitl⟩ := hsuccess
      exact success_lifecycle event now ht hcompleted haction hstatus hresult hnone hhitl
    · obtain ⟨hstatus, hresult, hsome, hrequired, hstate⟩ := herror
      exact error_lifecycle event now ht hcompleted haction hstatus hresult hsome hrequired hstate

/-! ### What the other writes leave -/

theorem updateAgentRun_lifecycle (values old : AgentRun) (h : StoredLifecycle values) :
    StoredLifecycle (updateAgentRun values old) :=
  ⟨h.awaitingStatus, h.awaitingCompletion, h.awaitingState, h.awaitingAction, h.successOutput,
    h.successReferences, h.errorCategory, h.errorMessage, h.hitlRequired, h.errorState⟩

theorem withUsageTotals_lifecycle (store : Store) (row : AgentRun) (h : StoredLifecycle row) :
    StoredLifecycle (withUsageTotals store row) :=
  ⟨h.awaitingStatus, h.awaitingCompletion, h.awaitingState, h.awaitingAction, h.successOutput,
    h.successReferences, h.errorCategory, h.errorMessage, h.hitlRequired, h.errorState⟩

theorem linkAgentRun_lifecycle (regressionRunId : ℕ) (scenarioId : String) (repetitionIndex : ℕ)
    (now : Timestamp) (row : AgentRun) (h : StoredLifecycle row) :
    StoredLifecycle (linkAgentRun regressionRunId scenarioId repetitionIndex now row) :=
  ⟨h.awaitingStatus, h.awaitingCompletion, h.awaitingState, h.awaitingAction, h.successOutput,
    h.successReferences, h.errorCategory, h.errorMessage, h.hitlRequired, h.errorState⟩

def LifecyclesStored (store : Store) : Prop := ∀ row ∈ store.agentRuns.rows, StoredLifecycle row

theorem ingest_lifecyclesStored (event : ExtendedRunEvent) (now : Timestamp)
    (store store' : Store) (hv : Validated event) (h : LifecyclesStored store)
    (heffect : ingestEffect event now store = .ok store') : LifecyclesStored store' := by
  intro row hrow
  have hvalues := agentRunValues_lifecycle event now ((validated_iff event).mp hv).2
  rcases ingest_row event now store store' heffect row hrow with ⟨_, hold⟩ | rfl | ⟨old, rfl⟩
  · exact h row hold
  · exact withUsageTotals_lifecycle store' _ hvalues
  · exact withUsageTotals_lifecycle store' _ (updateAgentRun_lifecycle _ old hvalues)

theorem link_lifecyclesStored (runId : String) (regressionRunId : ℕ) (scenarioId : String)
    (repetitionIndex : ℕ) (now : Timestamp) (store : Store) (h : LifecyclesStored store) :
    LifecyclesStored (updateLinkage runId regressionRunId scenarioId repetitionIndex now store) := by
  intro row hrow
  have hcases := link_row runId regressionRunId scenarioId repetitionIndex now store row hrow
  rcases hcases with hold | ⟨old, hold, rfl⟩
  · exact h row hold
  · exact linkAgentRun_lifecycle regressionRunId scenarioId repetitionIndex now old (h old hold)

theorem lifecyclesStored_invariant : StoreInvariant LifecyclesStored where
  empty := by
    intro row hrow
    cases hrow
  ingest := ingest_lifecyclesStored
  link := link_lifecyclesStored
  evaluationResult := fun _ _ h => h
  judgeCall := fun _ _ h => h
  runFailure := fun _ _ h => h

/-- In every reachable store each run is lifecycle-consistent. -/
theorem stored_runs_lifecycle_consistent (store : Store) (h : Reachable store) (row : AgentRun)
    (hrow : row ∈ store.agentRuns.rows) : StoredLifecycle row :=
  reachable_invariant LifecyclesStored lifecyclesStored_invariant store h row hrow

theorem stored_runs_lifecycle_consistent_success :
    ∃ store row, Reachable store ∧ row ∈ store.agentRuns.rows ∧ StoredLifecycle row := by
  obtain ⟨store, row, hreach, hmem⟩ := reachable_success
  exact ⟨store, row, hreach, hmem, stored_runs_lifecycle_consistent store hreach row hmem⟩

end ObsPlatform.Platform
