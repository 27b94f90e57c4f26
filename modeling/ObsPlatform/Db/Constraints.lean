import ObsPlatform.Db.Session
import ObsPlatform.Lib.Constraint

/-!
# The declared constraints (db/models.py)

Primary keys and the span ids of a run are unique by the types of the tables, and a
CHECK on an enumeration is the type of its column. The other UNIQUE and FOREIGN KEY
constraints are listed here, and a server that enforces exactly the declared ones.
-/

namespace ObsPlatform.Db

open UnitOfWork

/- uq_agent_runs_regression_scenario_repetition. -/
def AgentRun.slot (row : AgentRun) : Option (ℕ × String × ℕ) :=
  match row.regressionRunId, row.scenarioId, row.repetitionIndex with
  | some regressionRunId, some scenarioId, some repetitionIndex =>
    some (regressionRunId, scenarioId, repetitionIndex)
  | _, _, _ => none

/- uq_evaluation_results_run_evaluator_version_regression. -/
def EvaluationResult.slot (row : EvaluationResult) : Option (String × String × String × ℕ) :=
  row.regressionRunId.map fun regressionRunId =>
    (row.runId, row.evaluatorName, row.evaluatorVersion, regressionRunId)

/- uq_regression_runs_baseline: a partial index on the rows with is_baseline = true. -/
def RegressionRun.baseline (row : RegressionRun) : Option Unit :=
  if row.isBaseline then some () else none

inductive Constraint where
  | regressionRunsBaseline
  | agentRunsRegressionScenarioRepetition
  | evaluationResultsRunEvaluatorVersionRegression
  | agentRunsRegressionRunId
  | spansRunId
  | spansParentSpanId
  | toolCallsRunId
  | toolCallsSpanId
  | llmCallsRunId
  | llmCallsSpanId
  | evaluationResultsRunId
  | evaluationResultsRegressionRunId
  | judgeCallsRunId
  | runFailuresRunId
  deriving Repr, DecidableEq

def Constraint.all : List Constraint :=
  [.regressionRunsBaseline, .agentRunsRegressionScenarioRepetition,
   .evaluationResultsRunEvaluatorVersionRegression, .agentRunsRegressionRunId, .spansRunId,
   .spansParentSpanId, .toolCallsRunId, .toolCallsSpanId, .llmCallsRunId, .llmCallsSpanId,
   .evaluationResultsRunId, .evaluationResultsRegressionRunId, .judgeCallsRunId, .runFailuresRunId]

/- Postgres names an unnamed foreign key after its table and column. -/
def Constraint.name : Constraint → String
  | .regressionRunsBaseline => "uq_regression_runs_baseline"
  | .agentRunsRegressionScenarioRepetition => "uq_agent_runs_regression_scenario_repetition"
  | .evaluationResultsRunEvaluatorVersionRegression =>
    "uq_evaluation_results_run_evaluator_version_regression"
  | .agentRunsRegressionRunId => "fk_agent_runs_regression_run_id"
  | .spansRunId => "spans_run_id_fkey"
  | .spansParentSpanId => "spans_parent_span_id_fkey"
  | .toolCallsRunId => "tool_calls_run_id_fkey"
  | .toolCallsSpanId => "tool_calls_span_id_fkey"
  | .llmCallsRunId => "llm_calls_run_id_fkey"
  | .llmCallsSpanId => "llm_calls_span_id_fkey"
  | .evaluationResultsRunId => "evaluation_results_run_id_fkey"
  | .evaluationResultsRegressionRunId => "fk_evaluation_results_regression_run_id"
  | .judgeCallsRunId => "judge_calls_run_id_fkey"
  | .runFailuresRunId => "run_failures_run_id_fkey"

def Store.runIds (store : Store) : List String := store.agentRuns.rows.map AgentRun.runId

def Store.spanIds (store : Store) : List ℕ := store.spans.rows.map Span.id

def Store.regressionRunIds (store : Store) : List ℕ := store.regressionRuns.rows.map RegressionRun.id

def Constraint.Holds (store : Store) : Constraint → Prop
  | .regressionRunsBaseline => UniqueOn RegressionRun.baseline store.regressionRuns.rows
  | .agentRunsRegressionScenarioRepetition => UniqueOn AgentRun.slot store.agentRuns.rows
  | .evaluationResultsRunEvaluatorVersionRegression =>
    UniqueOn EvaluationResult.slot store.evaluationResults
  | .agentRunsRegressionRunId =>
    RefersOn AgentRun.regressionRunId store.regressionRunIds store.agentRuns.rows
  | .spansRunId => RefersOn (fun row : Span => some row.runId) store.runIds store.spans.rows
  | .spansParentSpanId => RefersOn Span.parentSpanId store.spanIds store.spans.rows
  | .toolCallsRunId =>
    RefersOn (fun row : ToolCall => some row.runId) store.runIds store.toolCalls.rows
  | .toolCallsSpanId =>
    RefersOn (fun row : ToolCall => some row.spanId) store.spanIds store.toolCalls.rows
  | .llmCallsRunId =>
    RefersOn (fun row : LLMCall => some row.runId) store.runIds store.llmCalls.rows
  | .llmCallsSpanId =>
    RefersOn (fun row : LLMCall => some row.spanId) store.spanIds store.llmCalls.rows
  | .evaluationResultsRunId =>
    RefersOn (fun row : EvaluationResult => some row.runId) store.runIds store.evaluationResults
  | .evaluationResultsRegressionRunId =>
    RefersOn EvaluationResult.regressionRunId store.regressionRunIds store.evaluationResults
  | .judgeCallsRunId =>
    RefersOn (fun row : JudgeCall => some row.runId) store.runIds store.judgeCalls
  | .runFailuresRunId =>
    RefersOn (fun row : RunFailure => some row.runId) store.runIds store.runFailures.rows

instance (store : Store) : (constraint : Constraint) → Decidable (constraint.Holds store)
  | .regressionRunsBaseline => inferInstanceAs (Decidable (UniqueOn _ _))
  | .agentRunsRegressionScenarioRepetition => inferInstanceAs (Decidable (UniqueOn _ _))
  | .evaluationResultsRunEvaluatorVersionRegression => inferInstanceAs (Decidable (UniqueOn _ _))
  | .agentRunsRegressionRunId => inferInstanceAs (Decidable (RefersOn _ _ _))
  | .spansRunId => inferInstanceAs (Decidable (RefersOn _ _ _))
  | .spansParentSpanId => inferInstanceAs (Decidable (RefersOn _ _ _))
  | .toolCallsRunId => inferInstanceAs (Decidable (RefersOn _ _ _))
  | .toolCallsSpanId => inferInstanceAs (Decidable (RefersOn _ _ _))
  | .llmCallsRunId => inferInstanceAs (Decidable (RefersOn _ _ _))
  | .llmCallsSpanId => inferInstanceAs (Decidable (RefersOn _ _ _))
  | .evaluationResultsRunId => inferInstanceAs (Decidable (RefersOn _ _ _))
  | .evaluationResultsRegressionRunId => inferInstanceAs (Decidable (RefersOn _ _ _))
  | .judgeCallsRunId => inferInstanceAs (Decidable (RefersOn _ _ _))
  | .runFailuresRunId => inferInstanceAs (Decidable (RefersOn _ _ _))

def Store.Consistent (store : Store) : Prop := ∀ constraint : Constraint, constraint.Holds store

/-- The first constraint the store breaks. -/
def Store.violated (store : Store) : Option Constraint :=
  Constraint.all.find? fun constraint => ¬ constraint.Holds store

theorem violated_none_iff (store : Store) : store.violated = none ↔ store.Consistent := by
  simp only [Store.violated, List.find?_eq_none, decide_eq_true_eq, not_not]
  constructor
  · intro h constraint
    have hlisted : constraint ∈ Constraint.all := by cases constraint <;> decide
    exact h constraint hlisted
  · exact fun h constraint _ => h constraint

instance (store : Store) : Decidable store.Consistent :=
  decidable_of_iff (store.violated = none) (violated_none_iff store)

/-- What asyncpg's refusal of a statement becomes in SQLAlchemy. -/
def integrityError (message : String) : Error := .database "IntegrityError" message

/-- No statement that would violate a declared constraint passes; others may fail too. -/
def Enforces (db : Database) : Prop :=
  ∀ n l w w', l ≠ .read → db.backend.verdict n l w w' = none → w'.Consistent

/-- Statements fail when they would violate a declared constraint, and only then. -/
structure Healthy (db : Database) : Prop where
  reads : ∀ n w w', db.backend.verdict n .read w w' = none
  accepts : ∀ n l w w', w'.Consistent → db.backend.verdict n l w w' = none
  refuses : ∀ n l w w', l ≠ .read → ¬ w'.Consistent →
    ∃ message, db.backend.verdict n l w w' = some (integrityError message)

/- A plain server that enforces the constraints. -/
def Database.enforcing : Database :=
  { Database.plain with
    backend := ⟨fun _ label _ w' =>
      match label, w'.violated with
      | .read, _ => none
      | _, some constraint => some (integrityError constraint.name)
      | _, none => none⟩ }

theorem enforcing_healthy : Healthy .enforcing where
  reads := fun _ _ _ => rfl
  accepts := by
    intro n l w w' h
    have hnone := (violated_none_iff w').mpr h
    cases l <;> simp only [Database.enforcing, hnone]
  refuses := by
    intro n l w w' hread h
    have hsome : w'.violated ≠ none := fun hnone => h ((violated_none_iff w').mp hnone)
    obtain ⟨constraint, hconstraint⟩ := Option.ne_none_iff_exists'.mp hsome
    refine ⟨constraint.name, ?_⟩
    simp only [Database.enforcing, hconstraint]

section Healthy
variable (db : Database) (hdb : Healthy db) (n : ℕ) (label : Statement) (w w' : Store)
include hdb

theorem consistent_of_accepted (hlabel : label ≠ .read)
    (h : db.backend.verdict n label w w' = none) : w'.Consistent := by
  by_contra hbroken
  obtain ⟨message, hrefused⟩ := hdb.refuses n label w w' hlabel hbroken
  rw [h] at hrefused
  cases hrefused

omit n label w w' in
theorem healthy_enforces : Enforces db :=
  fun n l w w' hread h => consistent_of_accepted db hdb n l w w' hread h

theorem broken_of_refused (e : Error) (h : db.backend.verdict n label w w' = some e) :
    ¬ w'.Consistent ∧ ∃ message, e = integrityError message := by
  have hlabel : label ≠ .read := by
    intro hread
    rw [hread, hdb.reads n w w'] at h
    cases h
  have hbroken : ¬ w'.Consistent := by
    intro hconsistent
    rw [hdb.accepts n label w w' hconsistent] at h
    cases h
  obtain ⟨message, hrefused⟩ := hdb.refuses n label w w' hlabel hbroken
  rw [h] at hrefused
  cases hrefused
  exact ⟨hbroken, message, rfl⟩

end Healthy

end ObsPlatform.Db
