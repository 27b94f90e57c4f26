import ObsPlatform.Platform.Reachable

/-!
# Usage totals

The usage columns of a run are counted from its stored calls in the transaction that
changes them, so they agree with the calls in every reachable store, whatever usage
the snapshots claim.
-/

namespace ObsPlatform.Platform

open Telemetry Db Evaluation Ingestion

/-- The totals of a row are those of the stored calls of its run. -/
structure UsageExact (store : Store) (row : AgentRun) : Prop where
  llmCalls : row.usageTotalLlmCalls =
    ((store.llmCalls.rows.filter fun call => call.runId = row.runId).length : ℤ)
  toolCalls : row.usageTotalToolCalls =
    ((store.toolCalls.rows.filter fun call => call.runId = row.runId).length : ℤ)
  tokens : row.usageTotalTokens =
    ((store.llmCalls.rows.filter fun call => call.runId = row.runId).filterMap
      Db.LLMCall.totalTokens).sum
  retries : row.usageTotalRetries =
    ((store.toolCalls.rows.filter fun call => call.runId = row.runId).map
      Db.ToolCall.retryCount).sum
  cost : row.usageTotalEstimatedCostUsd =
    ((store.llmCalls.rows.filter fun call => call.runId = row.runId).filterMap
      Db.LLMCall.estimatedCostUsd).sum

theorem usageExact_iff (store : Store) (row : AgentRun) :
    UsageExact store row ↔ withUsageTotals store row = row := by
  constructor
  · intro h
    obtain ⟨hllm, htool, htokens, hretries, hcost⟩ := h
    cases row
    simp only [withUsageTotals, llmCallsOf, toolCallsOf, sumNonNull] at *
    rw [← hllm, ← htool, ← htokens, ← hretries, ← hcost]
  · intro h
    exact
      { llmCalls := (congrArg AgentRun.usageTotalLlmCalls h).symm
        toolCalls := (congrArg AgentRun.usageTotalToolCalls h).symm
        tokens := (congrArg AgentRun.usageTotalTokens h).symm
        retries := (congrArg AgentRun.usageTotalRetries h).symm
        cost := (congrArg AgentRun.usageTotalEstimatedCostUsd h).symm }

def UsageTotalsExact (store : Store) : Prop :=
  ∀ row ∈ store.agentRuns.rows, withUsageTotals store row = row

theorem withUsageTotals_idem (store : Store) (row : AgentRun) :
    withUsageTotals store (withUsageTotals store row) = withUsageTotals store row := rfl

theorem find?_of_mem (store : Store) (row : AgentRun) (h : row ∈ store.agentRuns.rows) :
    store.agentRuns.find? row.runId = some row :=
  (store.agentRuns.find?_eq_some_iff row.runId row).mpr ⟨h, rfl⟩

/-- A run's row after an ingestion is as it was, or holds the event's values with its totals
counted again. -/
theorem ingest_row (event : ExtendedRunEvent) (now : Timestamp) (store store' : Store)
    (heffect : ingestEffect event now store = .ok store') (row : AgentRun)
    (hrow : row ∈ store'.agentRuns.rows) :
    (row.runId ≠ event.runId ∧ row ∈ store.agentRuns.rows) ∨
      row = withUsageTotals store' (agentRunValues event now) ∨
      ∃ old, row = withUsageTotals store' (updateAgentRun (agentRunValues event now) old) := by
  have hfind := find?_of_mem store' row hrow
  rw [ingestEffect_agentRuns event now store store' heffect] at hfind
  by_cases hrun : row.runId = event.runId
  · rw [if_pos hrun, Option.some.injEq] at hfind
    right
    cases hstored : store.agentRuns.find? event.runId with
    | none =>
      rw [hstored] at hfind
      exact .inl hfind.symm
    | some old =>
      rw [hstored] at hfind
      exact .inr ⟨old, hfind.symm⟩
  · rw [if_neg hrun] at hfind
    exact .inl ⟨hrun, store.agentRuns.mem_of_find? _ _ hfind⟩

theorem link_row (runId : String) (regressionRunId : ℕ) (scenarioId : String)
    (repetitionIndex : ℕ) (now : Timestamp) (store : Store) (row : AgentRun)
    (hrow : row ∈ (updateLinkage runId regressionRunId scenarioId repetitionIndex now
      store).agentRuns.rows) :
    row ∈ store.agentRuns.rows ∨ ∃ old ∈ store.agentRuns.rows,
      row = linkAgentRun regressionRunId scenarioId repetitionIndex now old := by
  have hmodify := Table.mem_modify store.agentRuns runId
    (linkAgentRun regressionRunId scenarioId repetitionIndex now) (fun _ h => h) row hrow
  rcases hmodify with hold | ⟨old, hold, _, hlinked⟩
  · exact .inl hold
  · exact .inr ⟨old, hold, hlinked⟩

theorem ingest_usageTotalsExact (event : ExtendedRunEvent) (now : Timestamp)
    (store store' : Store) (h : UsageTotalsExact store)
    (heffect : ingestEffect event now store = .ok store') : UsageTotalsExact store' := by
  intro row hrow
  rcases ingest_row event now store store' heffect row hrow with ⟨hrun, hold⟩ | rfl | ⟨old, rfl⟩
  · obtain ⟨htool, hllm⟩ := ingestEffect_otherUsage event now store store' heffect row.runId hrun
    rw [withUsageTotals_congr store store' row htool hllm]
    exact h row hold
  · exact withUsageTotals_idem store' _
  · exact withUsageTotals_idem store' _

theorem link_usageTotalsExact (runId : String) (regressionRunId : ℕ) (scenarioId : String)
    (repetitionIndex : ℕ) (now : Timestamp) (store : Store) (h : UsageTotalsExact store) :
    UsageTotalsExact (updateLinkage runId regressionRunId scenarioId repetitionIndex now store) := by
  intro row hrow
  have hcases := link_row runId regressionRunId scenarioId repetitionIndex now store row hrow
  rcases hcases with hold | ⟨old, hold, rfl⟩
  · exact h row hold
  · have hexact := h old hold
    show linkAgentRun regressionRunId scenarioId repetitionIndex now (withUsageTotals store old) = _
    rw [hexact]

theorem usageTotalsExact_invariant : StoreInvariant UsageTotalsExact where
  empty := by
    intro row hrow
    cases hrow
  ingest := fun event now store store' _ h heffect =>
    ingest_usageTotalsExact event now store store' h heffect
  link := link_usageTotalsExact
  evaluationResult := fun _ _ h => h
  judgeCall := fun _ _ h => h
  runFailure := fun _ _ h => h

/-- In every reachable store each run's totals are those of its stored calls. -/
theorem usage_totals_exact (store : Store) (h : Reachable store) (row : AgentRun)
    (hrow : row ∈ store.agentRuns.rows) : UsageExact store row :=
  (usageExact_iff store row).mpr
    (reachable_invariant UsageTotalsExact usageTotalsExact_invariant store h row hrow)

/-- After one validated snapshot there is a run to speak of. -/
theorem usage_totals_exact_success :
    ∃ store row, Reachable store ∧ row ∈ store.agentRuns.rows ∧ UsageExact store row := by
  obtain ⟨store, row, hreach, hmem⟩ := reachable_success
  exact ⟨store, row, hreach, hmem, usage_totals_exact store hreach row hmem⟩

end ObsPlatform.Platform
