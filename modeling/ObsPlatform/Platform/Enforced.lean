import ObsPlatform.Db.Constraints
import ObsPlatform.Platform.Reachable

/-!
# The constraints are kept

On a server that enforces the declared constraints no request leaves a store that violates
one: a statement that would break it is refused, whatever transaction it is part of.
-/

namespace ObsPlatform.Platform

open Telemetry Db UnitOfWork Evaluation Ingestion Stateful

section Enforced
variable (db : Database) (hdb : Enforces db)
include hdb

theorem sound_enforcedExecute {α : Type} (label : Statement) (hlabel : label ≠ .read)
    (f : Store → α × Store) :
    Preserves (Sound Store.Consistent) (execute db.backend label f : SessionM α) :=
  sound_accepted Store.Consistent db.backend label f fun n w _ hv =>
    hdb n label w _ hlabel hv

theorem sound_enforcedUpdate (label : Statement) (hlabel : label ≠ .read) (f : Store → Store) :
    Preserves (Sound Store.Consistent) (update db label f) :=
  sound_enforcedExecute db hdb label hlabel fun store => ((), f store)

omit hdb in
theorem sound_forEachResolved {χ ι : Type} (I : Store → Prop) (resolve : χ → SessionM ι)
    (statement : χ → ι → SessionM Unit) (hresolve : ∀ item, Preserves (Sound I) (resolve item))
    (hstatement : ∀ item found, Preserves (Sound I) (statement item found)) (items : List χ) :
    Preserves (Sound I) (forEachResolved resolve statement items) := by
  induction items with
  | nil => exact preserves_pure _ _
  | cons item items ih =>
    exact preserves_bind _ _ _ (hresolve item) fun found =>
      preserves_bind _ _ _ (hstatement item found) fun _ => ih

omit hdb in
theorem sound_spanIdOf (I : Store → Prop) (spanIds : SpanIds) (key : String) :
    Preserves (Sound I) (spanIdOf spanIds key) := by
  unfold spanIdOf
  cases spanIds.lookup key with
  | none => exact preserves_throw _ _
  | some id => exact preserves_pure _ _

omit hdb in
theorem sound_parentIdOf (I : Store → Prop) (spanIds : SpanIds) (parent : Option String) :
    Preserves (Sound I) (parentIdOf spanIds parent) := by
  cases parent with
  | none => exact preserves_pure _ _
  | some parent =>
    exact preserves_bind _ _ _ (sound_spanIdOf I spanIds parent) fun _ => preserves_pure _ _

omit hdb in
theorem sound_rejectPending (I : Store → Prop) (event : ExtendedRunEvent) :
    Preserves (Sound I) (rejectPendingAfterTerminalHitlState db event) := by
  unfold rejectPendingAfterTerminalHitlState
  by_cases hstate : event.hitl.state ≠ .pending
  · rw [if_pos hstate]
    exact preserves_pure _ _
  · rw [if_neg hstate]
    refine preserves_bind _ _ _ (sound_read I db _) fun stored => ?_
    rcases stored with _ | _ | _ | _ | _
    · exact preserves_pure _ _
    · exact preserves_pure _ _
    · exact preserves_pure _ _
    · exact preserves_throw _ _
    · exact preserves_throw _ _

theorem sound_upsertSpans (runId : String) (spans : List Telemetry.Span) (spanIds : SpanIds) :
    Preserves (Sound Store.Consistent) (upsertSpans db runId spans spanIds) := by
  induction spans generalizing spanIds with
  | nil => exact preserves_pure _ _
  | cons span spans ih =>
    exact preserves_bind _ _ _ (sound_enforcedExecute db hdb .span nofun _) fun returned =>
      ih (returned :: spanIds)

/-- The body of an ingestion keeps the constraints with every statement. -/
theorem sound_ingestStatements (event : ExtendedRunEvent) (now : Timestamp) :
    Preserves (Sound Store.Consistent) (ingestStatements db event now) := by
  have hupdate := sound_enforcedUpdate db hdb
  refine preserves_bind _ _ _ (sound_rejectPending db _ event) fun _ => ?_
  refine preserves_bind _ _ _ (hupdate .agentRun nofun _) fun _ => ?_
  refine preserves_bind _ _ _ (sound_upsertSpans db hdb event.runId event.spans []) fun spanIds => ?_
  refine preserves_bind _ _ _ ?_ fun _ => ?_
  · exact sound_forEachResolved _ _ _ (fun span => sound_parentIdOf _ spanIds span.parentSpanId)
      (fun _ _ => hupdate .spanParent nofun _) event.spans
  refine preserves_bind _ _ _ ?_ fun _ => ?_
  · exact sound_forEachResolved _ _ _ (fun toolCall => sound_spanIdOf _ spanIds toolCall.spanId)
      (fun _ _ => hupdate .toolCall nofun _) event.toolCalls
  refine preserves_bind _ _ _ ?_ fun _ => hupdate .usageTotals nofun _
  exact sound_forEachResolved _ _ _ (fun llmCall => sound_spanIdOf _ spanIds llmCall.spanId)
    (fun _ _ => hupdate .llmCall nofun _) event.llmCalls

theorem sound_enforcedIngest (event : ExtendedRunEvent) :
    Preserves (Sound Store.Consistent) (ingestRunEvent db event) := by
  refine preserves_bind _ _ _ (sound_now _ db) fun now => ?_
  exact preserves_bind _ _ _ (sound_transaction _ _ _ (sound_ingestStatements db hdb event now))
    fun _ => preserves_pure _ _

theorem sound_enforcedLinkage (runId : String) (regressionRunId : ℕ) (scenarioId : String)
    (repetitionIndex : ℕ) :
    Preserves (Sound Store.Consistent)
      (persistRegressionLinkage db runId regressionRunId scenarioId repetitionIndex) := by
  refine preserves_bind _ _ _ (sound_selectAgentRun _ db runId) fun record => ?_
  cases record with
  | none => exact preserves_throw _ _
  | some row =>
    refine preserves_bind _ _ _ (sound_now _ db) fun now => ?_
    refine preserves_bind _ _ _ (sound_enforcedUpdate db hdb .linkage nofun _) fun _ => ?_
    exact preserves_bind _ _ _ (sound_commit _) fun _ => sound_refreshAgentRun _ db runId

theorem sound_enforcedEvaluation (environment : JudgeEnvironment) (evaluators : List Evaluator)
    (runId : String) :
    Preserves (Sound Store.Consistent) (runEvaluation db environment evaluators runId) := by
  have hkeep : AcceptedKeep Store.Consistent db runId :=
    { evaluationResult := fun _ _ _ _ _ _ n store _ hv =>
        hdb n .evaluationResult store _ nofun hv
      judgeCall := fun _ _ _ _ _ n store _ hv =>
        hdb n .judgeCall store _ nofun hv }
  intro s hs
  exact sound_runEvaluation_of _ db runId hkeep environment evaluators s hs
    fun _ _ _ _ n store _ hv => hdb n .runFailure store _ nofun hv

end Enforced

end ObsPlatform.Platform
