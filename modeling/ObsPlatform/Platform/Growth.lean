import ObsPlatform.Platform.Usage

/-!
# Nothing stored is lost

No writer deletes a row. Rows are updated in place under the key they have, and the
evaluation results and judge calls are journals that are only appended to.
-/

namespace ObsPlatform.Platform

open Telemetry Db Evaluation Ingestion

structure Grows (store store' : Store) : Prop where
  regressionRuns : ∀ id, (store.regressionRuns.find? id).isSome →
    (store'.regressionRuns.find? id).isSome
  agentRuns : ∀ runId row, store.agentRuns.find? runId = some row →
    ∃ row', store'.agentRuns.find? runId = some row' ∧ row'.ingestedAt = row.ingestedAt
  spans : SpanIdsKept store store'
  toolCalls : ∀ k, (store.toolCalls.find? k).isSome → (store'.toolCalls.find? k).isSome
  llmCalls : ∀ k, (store.llmCalls.find? k).isSome → (store'.llmCalls.find? k).isSome
  evaluationResults : store.evaluationResults <+: store'.evaluationResults
  judgeCalls : store.judgeCalls <+: store'.judgeCalls
  runFailures : ∀ runId, (store.runFailures.find? runId).isSome →
    (store'.runFailures.find? runId).isSome

theorem grows_refl (store : Store) : Grows store store where
  regressionRuns := fun _ h => h
  agentRuns := fun _ row h => ⟨row, h, rfl⟩
  spans := fun _ _ _ h => h
  toolCalls := fun _ h => h
  llmCalls := fun _ h => h
  evaluationResults := List.prefix_refl _
  judgeCalls := List.prefix_refl _
  runFailures := fun _ h => h

theorem grows_trans (a b c : Store) (hab : Grows a b) (hbc : Grows b c) : Grows a c where
  regressionRuns := fun id h => hbc.regressionRuns id (hab.regressionRuns id h)
  agentRuns := by
    intro runId row hrow
    obtain ⟨row', hrow', hsame⟩ := hab.agentRuns runId row hrow
    obtain ⟨row'', hrow'', hsame'⟩ := hbc.agentRuns runId row' hrow'
    exact ⟨row'', hrow'', hsame'.trans hsame⟩
  spans := spanIdsKept_trans a b c hab.spans hbc.spans
  toolCalls := fun k h => hbc.toolCalls k (hab.toolCalls k h)
  llmCalls := fun k h => hbc.llmCalls k (hab.llmCalls k h)
  evaluationResults := hab.evaluationResults.trans hbc.evaluationResults
  judgeCalls := hab.judgeCalls.trans hbc.judgeCalls
  runFailures := fun runId h => hbc.runFailures runId (hab.runFailures runId h)

section Ingest
variable (event : ExtendedRunEvent) (now : Timestamp) (store store' : Store)
  (hi : Ingested event now store store')
include hi

theorem ingest_agentRuns_kept (runId : String) (row : AgentRun)
    (hrow : store.agentRuns.find? runId = some row) :
    ∃ row', store'.agentRuns.find? runId = some row' ∧ row'.ingestedAt = row.ingestedAt := by
  by_cases hrun : runId = event.runId
  · subst hrun
    have hstored := hi.agentRun
    rw [hrow, Option.elim_some] at hstored
    exact ⟨_, hstored, rfl⟩
  · exact ⟨row, (hi.otherAgentRuns runId hrun).trans hrow, rfl⟩

theorem ingest_toolCalls_kept (k : String × String) (h : (store.toolCalls.find? k).isSome) :
    (store'.toolCalls.find? k).isSome := by
  by_cases hk : ∃ toolCall ∈ event.toolCalls, k = (event.runId, toolCall.toolCallId)
  · obtain ⟨toolCall, hmem, rfl⟩ := hk
    obtain ⟨row, hrow, _⟩ := hi.toolCalls toolCall hmem
    rw [hrow]
    rfl
  · rw [hi.otherToolCalls k fun toolCall hmem he => hk ⟨toolCall, hmem, he⟩]
    exact h

theorem ingest_llmCalls_kept (k : String × String) (h : (store.llmCalls.find? k).isSome) :
    (store'.llmCalls.find? k).isSome := by
  by_cases hk : ∃ llmCall ∈ event.llmCalls, k = (event.runId, llmCall.llmCallId)
  · obtain ⟨llmCall, hmem, rfl⟩ := hk
    obtain ⟨row, hrow, _⟩ := hi.llmCalls llmCall hmem
    rw [hrow]
    rfl
  · rw [hi.otherLlmCalls k fun llmCall hmem he => hk ⟨llmCall, hmem, he⟩]
    exact h

theorem ingest_grows : Grows store store' where
  regressionRuns := fun id h => by rw [hi.regressionRuns]; exact h
  agentRuns := ingest_agentRuns_kept event now store store' hi
  spans := hi.spanIds
  toolCalls := ingest_toolCalls_kept event now store store' hi
  llmCalls := ingest_llmCalls_kept event now store store' hi
  evaluationResults := by rw [hi.evaluationResults]
  judgeCalls := by rw [hi.judgeCalls]
  runFailures := fun runId h => by rw [hi.runFailures]; exact h

end Ingest

theorem link_grows (runId : String) (regressionRunId : ℕ) (scenarioId : String)
    (repetitionIndex : ℕ) (now : Timestamp) (store : Store) :
    Grows store (updateLinkage runId regressionRunId scenarioId repetitionIndex now store) := by
  refine { grows_refl store with agentRuns := ?_ }
  intro otherId row hrow
  have hfind := Table.find?_modify store.agentRuns runId otherId
    (linkAgentRun regressionRunId scenarioId repetitionIndex now) fun _ h => h
  by_cases hother : otherId = runId
  · subst hother
    rw [if_pos rfl, hrow] at hfind
    exact ⟨_, hfind, rfl⟩
  · rw [if_neg hother, hrow] at hfind
    exact ⟨row, hfind, rfl⟩

theorem insertEvaluationResult_grows (record : ℕ → Db.EvaluationResult) (store : Store) :
    Grows store (insertEvaluationResult record store) :=
  { grows_refl store with evaluationResults := List.prefix_append _ _ }

theorem insertJudgeCall_grows (record : ℕ → JudgeCall) (store : Store) :
    Grows store (insertJudgeCall record store) :=
  { grows_refl store with judgeCalls := List.prefix_append _ _ }

theorem upsertRunFailure_grows (values : RunFailure) (store : Store) :
    Grows store (upsertRunFailure values store) := by
  refine { grows_refl store with runFailures := ?_ }
  intro runId h
  have hfind := Table.find?_upsert store.runFailures values (updateRunFailure values)
    (fun _ h => h) runId
  show ((store.runFailures.upsert values (updateRunFailure values) fun _ h => h).find?
    runId).isSome
  rw [hfind]
  by_cases hrun : runId = values.runId
  · rw [if_pos hrun]
    rfl
  · rw [if_neg hrun]
    exact h

theorem regressionRuns_grows (store : Store) (regressionRuns : Table RegressionRun.id)
    (h : ∀ id, (store.regressionRuns.find? id).isSome → (regressionRuns.find? id).isSome) :
    Grows store { store with regressionRuns := regressionRuns } :=
  { grows_refl store with regressionRuns := h }

end ObsPlatform.Platform
