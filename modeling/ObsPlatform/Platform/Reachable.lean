import ObsPlatform.Evaluation.Service
import ObsPlatform.Ingestion.Snapshot

/-!
# Reachable stores

The platform's writers are ingestion, regression linkage and evaluation. A reachable
store is one that requests to them leave behind, each on a session of its own and each
with a server of its own: a server that refuses every statement from some point on
leaves the store a request had committed by then, so the intermediate commits of a
request are reachable too.
-/

namespace ObsPlatform.Platform

open Telemetry Db UnitOfWork Evaluation Ingestion Stateful

inductive Request where
  | ingest (event : ExtendedRunEvent) (validated : Validated event)
  | link (runId : String) (regressionRunId : ℕ) (scenarioId : String) (repetitionIndex : ℕ)
  | evaluate (environment : JudgeEnvironment) (evaluators : List Evaluator) (runId : String)

def serve (db : Database) : Request → SessionM Unit
  | .ingest event _ => do
    let _ ← ingestRunEvent db event
  | .link runId regressionRunId scenarioId repetitionIndex =>
    persistRegressionLinkage db runId regressionRunId scenarioId repetitionIndex
  | .evaluate environment evaluators runId => do
    let _ ← runEvaluation db environment evaluators runId

inductive Reachable : Store → Prop where
  | empty : Reachable Store.empty
  | request (store : Store) (h : Reachable store) (db : Database) (request : Request) :
      Reachable (after (serve db request) (Session.fresh store)).committed

/-- The writes of an evaluation keep the property. -/
structure EvaluationKeeps (I : Store → Prop) : Prop where
  evaluationResult : ∀ record store, I store → I (insertEvaluationResult record store)
  judgeCall : ∀ record store, I store → I (insertJudgeCall record store)
  runFailure : ∀ values store, I store → I (upsertRunFailure values store)

/-- The results and judge calls an evaluation of the run writes keep the property. -/
structure WritesKeep (I : Store → Prop) (db : Database) (runId : String) : Prop where
  evaluationResult : ∀ evaluatorName evaluatorVersion status result regressionRunId n store,
    I store → I (insertEvaluationResult (evaluationResultRecord runId evaluatorName
      evaluatorVersion status result regressionRunId (db.clock n)) store)
  judgeCall : ∀ evaluatorName evaluatorVersion call succeeded n store, I store →
    I (insertJudgeCall (judgeCallRecord runId evaluatorName evaluatorVersion call succeeded
      (db.clock n)) store)

/-- The results and judge calls of the run that the server accepts keep the property. -/
structure AcceptedKeep (I : Store → Prop) (db : Database) (runId : String) : Prop where
  evaluationResult : ∀ evaluatorName evaluatorVersion status result regressionRunId m n store,
    I store → db.backend.verdict n .evaluationResult store (insertEvaluationResult
      (evaluationResultRecord runId evaluatorName evaluatorVersion status result regressionRunId
        (db.clock m)) store) = none →
    I (insertEvaluationResult (evaluationResultRecord runId evaluatorName evaluatorVersion status
      result regressionRunId (db.clock m)) store)
  judgeCall : ∀ evaluatorName evaluatorVersion call succeeded m n store, I store →
    db.backend.verdict n .judgeCall store (insertJudgeCall (judgeCallRecord runId evaluatorName
      evaluatorVersion call succeeded (db.clock m)) store) = none →
    I (insertJudgeCall (judgeCallRecord runId evaluatorName evaluatorVersion call succeeded
      (db.clock m)) store)

/-- The rows that an evaluation of the run by these evaluators writes, under this regression run
id, keep the property when the server accepts them. -/
structure AppendsKeep (I : Store → Prop) (db : Database) (runId : String)
    (regressionRunId : Option ℕ) (evaluators : List Evaluator) : Prop where
  evaluationResult : ∀ evaluator ∈ evaluators, ∀ status result m n store,
    I store → db.backend.verdict n .evaluationResult store (insertEvaluationResult
      (evaluationResultRecord runId evaluator.name evaluator.version status result regressionRunId
        (db.clock m)) store) = none →
    I (insertEvaluationResult (evaluationResultRecord runId evaluator.name evaluator.version status
      result regressionRunId (db.clock m)) store)
  judgeCall : ∀ evaluator ∈ evaluators, ∀ call succeeded m n store, I store →
    db.backend.verdict n .judgeCall store (insertJudgeCall (judgeCallRecord runId evaluator.name
      evaluator.version call succeeded (db.clock m)) store) = none →
    I (insertJudgeCall (judgeCallRecord runId evaluator.name evaluator.version call succeeded
      (db.clock m)) store)

theorem appendsKeep_of_acceptedKeep (I : Store → Prop) (db : Database) (runId : String)
    (h : AcceptedKeep I db runId) (regressionRunId : Option ℕ) (evaluators : List Evaluator) :
    AppendsKeep I db runId regressionRunId evaluators where
  evaluationResult := fun _ _ status result m n store hstore hv =>
    h.evaluationResult _ _ status result _ m n store hstore hv
  judgeCall := fun _ _ call succeeded m n store hstore hv =>
    h.judgeCall _ _ call succeeded m n store hstore hv

theorem acceptedKeep_of_writesKeep (I : Store → Prop) (db : Database) (runId : String)
    (h : WritesKeep I db runId) : AcceptedKeep I db runId where
  evaluationResult := fun _ _ _ _ _ m _ store hstore _ =>
    h.evaluationResult _ _ _ _ _ m store hstore
  judgeCall := fun _ _ _ _ m _ store hstore _ => h.judgeCall _ _ _ _ m store hstore

theorem acceptedKeep_of_evaluationKeeps (I : Store → Prop) (h : EvaluationKeeps I) (db : Database)
    (runId : String) : AcceptedKeep I db runId where
  evaluationResult := fun _ _ _ _ _ _ _ store hstore _ => h.evaluationResult _ store hstore
  judgeCall := fun _ _ _ _ _ _ store hstore _ => h.judgeCall _ store hstore

/-- What an invariant of the store has to survive. -/
structure StoreInvariant (I : Store → Prop) : Prop extends EvaluationKeeps I where
  empty : I Store.empty
  ingest : ∀ event now store store', Validated event → I store →
    ingestEffect event now store = .ok store' → I store'
  link : ∀ runId regressionRunId scenarioId repetitionIndex now store, I store →
    I (updateLinkage runId regressionRunId scenarioId repetitionIndex now store)

/-! ### What the writers preserve -/

section Writers
variable (I : Store → Prop) (db : Database)

theorem sound_read {α : Type} (f : Store → α) : Preserves (Sound I) (read db f) :=
  sound_query I db.backend .read f

theorem sound_selectAgentRun (runId : String) : Preserves (Sound I) (selectAgentRun db runId) :=
  sound_read I db _

theorem sound_refreshAgentRun (runId : String) : Preserves (Sound I) (refreshAgentRun db runId) :=
  preserves_bind _ _ _ (sound_selectAgentRun I db runId) fun _ => preserves_pure _ _

theorem sound_now : Preserves (Sound I) (now db) :=
  preserves_bind _ _ _ (preserves_get _) fun _ => preserves_pure _ _

theorem sound_readOrdered {α : Type} (f : Plan db.collation → Store → α) :
    Preserves (Sound I) (readOrdered db f) :=
  preserves_bind _ _ _ (preserves_get _) fun _ => sound_query I db.backend .read _

theorem sound_ingestRunEvent (event : ExtendedRunEvent)
    (hkept : ∀ now store store', I store → ingestEffect event now store = .ok store' → I store') :
    Preserves (Sound I) (ingestRunEvent db event) := by
  intro s hs
  cases hr : ingestRunEvent db event s with
  | ok result t =>
    obtain ⟨_, ht, heffect⟩ := ingestRunEvent_returns db event s t result hr
    rw [after_ok _ s t result hr]
    refine ⟨hkept _ _ _ hs.1 heffect, ?_⟩
    intro hopen
    rw [ht] at hopen
    cases hopen
  | error e t =>
    obtain ⟨hc, ⟨_, _, rfl⟩ | ⟨_, ht, _⟩⟩ := ingestRunEvent_raises db event s t e hr
    · rw [after_error _ _ _ e hr]
      exact hs
    · rw [after_error _ s t e hr]
      refine ⟨hc ▸ hs.1, ?_⟩
      intro hopen
      rw [ht] at hopen
      cases hopen

theorem sound_persistRegressionLinkage (runId : String) (regressionRunId : ℕ)
    (scenarioId : String) (repetitionIndex : ℕ)
    (hkept : ∀ now store, I store →
      I (updateLinkage runId regressionRunId scenarioId repetitionIndex now store)) :
    Preserves (Sound I)
      (persistRegressionLinkage db runId regressionRunId scenarioId repetitionIndex) := by
  refine preserves_bind _ _ _ (sound_selectAgentRun I db runId) ?_
  intro record
  cases record with
  | none => exact preserves_throw _ _
  | some row =>
    refine preserves_bind _ _ _ (sound_now I db) fun now => ?_
    refine preserves_bind _ _ _ (sound_write I db.backend .linkage _ ?_) fun _ => ?_
    · exact hkept now
    · exact preserves_bind _ _ _ (sound_commit I) fun _ => sound_refreshAgentRun I db runId

theorem sound_evaluationRunView (runId : String) :
    Preserves (Sound I) (evaluationRunView db runId) := by
  refine preserves_bind _ _ _ (sound_selectAgentRun I db runId) fun run => ?_
  cases run with
  | none => exact preserves_pure _ _
  | some run =>
    refine preserves_bind _ _ _ (sound_readOrdered I db _) fun spans => ?_
    refine preserves_bind _ _ _ (sound_readOrdered I db _) fun toolCalls => ?_
    refine preserves_bind _ _ _ (sound_readOrdered I db _) fun llmCalls => ?_
    refine preserves_bind _ _ _ ?_ fun view => preserves_pure _ _
    cases assembleView run spans toolCalls llmCalls with
    | ok view => exact preserves_pure _ _
    | error e => exact preserves_throw _ _

/-- What follows a look at the clock runs with the time of some statement. -/
theorem preserves_now {α : Type} (f : Timestamp → SessionM α)
    (hf : ∀ n, Preserves (Sound I) (f (db.clock n))) : Preserves (Sound I) (now db >>= f) :=
  fun s hs => hf s.statements s hs

section Evaluation
variable (runId : String)

theorem sound_persistEvaluationResult (evaluatorName evaluatorVersion : String)
    (status : EvaluatorExecutionStatus) (result : Option Evaluation.EvaluationResult)
    (regressionRunId : Option ℕ)
    (hkept : ∀ m n store, I store → db.backend.verdict n .evaluationResult store
      (insertEvaluationResult (evaluationResultRecord runId evaluatorName evaluatorVersion status
        result regressionRunId (db.clock m)) store) = none →
      I (insertEvaluationResult (evaluationResultRecord runId evaluatorName evaluatorVersion status
        result regressionRunId (db.clock m)) store)) :
    Preserves (Sound I) (persistEvaluationResult db runId evaluatorName evaluatorVersion status
      result regressionRunId) := by
  have hinsert : Preserves (Sound I) (do
      let now ← now db
      let record := evaluationResultRecord runId evaluatorName evaluatorVersion status result
        regressionRunId now
      let id ← execute db.backend .evaluationResult fun store =>
        (store.evaluationResults.length + 1, insertEvaluationResult record store)
      commit
      read db fun store => store.evaluationResults.find? fun row => row.id = id :
        SessionM (Option Db.EvaluationResult)) := by
    apply preserves_now
    intro n
    refine preserves_bind _ _ _ (sound_accepted I db.backend _ _ (hkept n)) fun id => ?_
    exact preserves_bind _ _ _ (sound_commit I) fun _ => sound_read I db _
  unfold persistEvaluationResult
  by_cases hmissing : status ≠ .failed ∧ result.isNone
  · rw [if_pos hmissing]
    exact preserves_bind _ _ _ (preserves_throw _ _) fun _ => hinsert
  · rw [if_neg hmissing]
    exact hinsert

theorem sound_persistJudgeCall (evaluatorName evaluatorVersion : String)
    (call : JudgeCallResult Unit) (succeeded : Bool)
    (hkept : ∀ m n store, I store → db.backend.verdict n .judgeCall store (insertJudgeCall
      (judgeCallRecord runId evaluatorName evaluatorVersion call succeeded (db.clock m)) store) =
        none →
      I (insertJudgeCall (judgeCallRecord runId evaluatorName evaluatorVersion call succeeded
        (db.clock m)) store)) :
    Preserves (Sound I)
      (persistJudgeCall db runId evaluatorName evaluatorVersion call succeeded) := by
  apply preserves_now
  intro n
  refine preserves_bind _ _ _ (sound_accepted I db.backend _ _ (hkept n)) fun id => ?_
  exact preserves_bind _ _ _ (sound_commit I) fun _ => sound_read I db _

/-- A judge call that is refused is rolled back. -/
theorem sound_tryJudgeCall (evaluator : Evaluator) (call : JudgeCallResult Unit) (succeeded : Bool)
    (hkept : ∀ m n store, I store → db.backend.verdict n .judgeCall store (insertJudgeCall
      (judgeCallRecord runId evaluator.name evaluator.version call succeeded (db.clock m)) store) =
        none →
      I (insertJudgeCall (judgeCallRecord runId evaluator.name evaluator.version call succeeded
        (db.clock m)) store)) :
    Preserves (Sound I) (tryCatch
      (do
        let _ ← persistJudgeCall db runId evaluator.name evaluator.version call succeeded
        pure [])
      (fun e => do
        rollback
        pure [e])) := by
  apply preserves_tryCatch
  · exact preserves_bind _ _ _ (sound_persistJudgeCall I db runId _ _ call succeeded hkept)
      fun _ => preserves_pure _ _
  · intro e
    exact preserves_bind _ _ _ (sound_rollback I) fun _ => preserves_pure _ _

theorem sound_persistJudgeCalls (evaluator : Evaluator) (succeeded : Bool)
    (calls : List (JudgeCallResult Unit))
    (hkept : ∀ call m n store, I store → db.backend.verdict n .judgeCall store (insertJudgeCall
      (judgeCallRecord runId evaluator.name evaluator.version call succeeded (db.clock m)) store) =
        none →
      I (insertJudgeCall (judgeCallRecord runId evaluator.name evaluator.version call succeeded
        (db.clock m)) store)) :
    Preserves (Sound I) (persistJudgeCalls db runId evaluator succeeded calls) := by
  induction calls with
  | nil => exact preserves_pure _ _
  | cons call calls ih =>
    have hcall := sound_tryJudgeCall I db runId evaluator call succeeded (hkept call)
    exact preserves_bind _ _ _ hcall fun failure =>
      preserves_bind _ _ _ ih fun failures => preserves_pure _ _

theorem sound_evaluateEach (environment : JudgeEnvironment) (run : EvaluationRunView)
    (regressionRunId : Option ℕ) (position : ℕ) (judgeClient : Option JudgeClient)
    (evaluators : List Evaluator) (hI : AppendsKeep I db runId regressionRunId evaluators) :
    Preserves (Sound I) (evaluateEach db environment run runId regressionRunId position judgeClient
      evaluators) := by
  induction evaluators generalizing position judgeClient with
  | nil => exact preserves_pure _ _
  | cons evaluator evaluators ih =>
    have hrest : AppendsKeep I db runId regressionRunId evaluators :=
      ⟨fun other hother => hI.evaluationResult other (List.mem_cons_of_mem _ hother),
        fun other hother => hI.judgeCall other (List.mem_cons_of_mem _ hother)⟩
    refine preserves_bind _ _ _ (sound_persistEvaluationResult I db runId _ _ _ _ _
      (hI.evaluationResult evaluator List.mem_cons_self _ _)) fun _ => ?_
    refine preserves_bind _ _ _ (sound_persistJudgeCalls I db runId evaluator _ _ fun call =>
      hI.judgeCall evaluator List.mem_cons_self call _) fun failures => ?_
    exact preserves_bind _ _ _ (ih _ _ hrest) fun rest => preserves_pure _ _

theorem sound_persistRunFailure (classification : RunFailureResult)
    (hfailure : ∀ m n store, I store → db.backend.verdict n .runFailure store (upsertRunFailure
      (runFailureValues runId classification (db.clock m)) store) = none →
      I (upsertRunFailure (runFailureValues runId classification (db.clock m)) store)) :
    Preserves (Sound I) (persistRunFailure db runId classification) := by
  apply preserves_now
  intro n
  refine preserves_bind _ _ _ (sound_acceptedWrite I db.backend .runFailure _ (hfailure n))
    fun _ => ?_
  refine preserves_bind _ _ _ (sound_commit I) fun _ => ?_
  refine preserves_bind _ _ _ (sound_read I db _) fun record => ?_
  cases record with
  | none => exact preserves_throw _ _
  | some record => exact preserves_pure _ _

/-- Results are written under the linkage the run has by then; the classification stored is
that of the view read before. -/
theorem sound_runEvaluation_at (environment : JudgeEnvironment) (evaluators : List Evaluator)
    (s : DbSession) (hs : Sound I s)
    (hI : ∀ store, I store → AppendsKeep I db runId
      ((store.agentRuns.find? runId).bind AgentRun.regressionRunId) evaluators)
    (hfailure : ∀ view t, evaluationRunView db runId s = .ok (some view) t → ∀ m n store,
      I store → db.backend.verdict n .runFailure store (upsertRunFailure (runFailureValues runId
        (classify (outcomesOf environment view 0 none evaluators)) (db.clock m)) store) = none →
      I (upsertRunFailure (runFailureValues runId
        (classify (outcomesOf environment view 0 none evaluators)) (db.clock m)) store)) :
    Sound I (after (runEvaluation db environment evaluators runId) s) := by
  apply after_bind (Sound I) _ _ s (sound_evaluationRunView I db runId s hs)
  intro view t hview ht
  cases view with
  | none => exact ht
  | some run =>
    apply after_bind (Sound I) _ _ t (sound_read I db _ t ht)
    intro regressionRunId u hread hu
    have hregression := (ends_returns _ t u _ _ _ (delivers_read db _ t) hread).1
    apply after_bind (Sound I) _ _ u (sound_now I db u hu)
    intro evaluatedAt v _ hv
    have heach := sound_evaluateEach I db runId environment run regressionRunId 0 none evaluators
      (by rw [hregression]; exact hI t.view (sound_view I t ht))
    apply after_bind (Sound I) _ _ v (heach v hv)
    intro returned w hreturned hw
    have houtcomes := evaluateEach_outcomes db environment run runId regressionRunId 0 none
      evaluators v w returned hreturned
    have hpersist := sound_persistRunFailure I db runId (classify returned.1)
      (by rw [houtcomes]; exact hfailure run t hview)
    apply after_bind (Sound I) _ _ w (hpersist w hw)
    intro _ x _ hx
    cases returned.2 with
    | nil => exact hx
    | cons failure failures => exact hx

theorem sound_runEvaluation_of (hI : AcceptedKeep I db runId) (environment : JudgeEnvironment)
    (evaluators : List Evaluator) (s : DbSession) (hs : Sound I s)
    (hfailure : ∀ view t, evaluationRunView db runId s = .ok (some view) t → ∀ m n store,
      I store → db.backend.verdict n .runFailure store (upsertRunFailure (runFailureValues runId
        (classify (outcomesOf environment view 0 none evaluators)) (db.clock m)) store) = none →
      I (upsertRunFailure (runFailureValues runId
        (classify (outcomesOf environment view 0 none evaluators)) (db.clock m)) store)) :
    Sound I (after (runEvaluation db environment evaluators runId) s) :=
  sound_runEvaluation_at I db runId environment evaluators s hs
    (fun _ _ => appendsKeep_of_acceptedKeep I db runId hI _ evaluators) hfailure

end Evaluation

theorem sound_runEvaluation (hI : EvaluationKeeps I) (environment : JudgeEnvironment)
    (evaluators : List Evaluator) (runId : String) :
    Preserves (Sound I) (runEvaluation db environment evaluators runId) :=
  fun s hs => sound_runEvaluation_of I db runId (acceptedKeep_of_evaluationKeeps I hI db runId)
    environment evaluators s hs fun _ _ _ _ _ store hstore _ => hI.runFailure _ store hstore

theorem sound_serve (hI : StoreInvariant I) (request : Request) :
    Preserves (Sound I) (serve db request) := by
  cases request with
  | ingest event validated =>
    exact preserves_bind _ _ _ (sound_ingestRunEvent I db event fun now store store' =>
      hI.ingest event now store store' validated) fun _ => preserves_pure _ _
  | link runId regressionRunId scenarioId repetitionIndex =>
    exact sound_persistRegressionLinkage I db runId regressionRunId scenarioId repetitionIndex
      (hI.link runId regressionRunId scenarioId repetitionIndex)
  | evaluate environment evaluators runId =>
    exact preserves_bind _ _ _ (sound_runEvaluation I db hI.toEvaluationKeeps environment evaluators
      runId) fun _ => preserves_pure _ _

/-- A property of the stored results alone is up to the evaluations. -/
theorem sound_serve_results
    (hresults : ∀ store store', store'.evaluationResults = store.evaluationResults →
      I store → I store')
    (hwrites : ∀ runId, WritesKeep I db runId) (request : Request) :
    Preserves (Sound I) (serve db request) := by
  cases request with
  | ingest event validated =>
    refine preserves_bind _ _ _ (sound_ingestRunEvent I db event ?_) fun _ => preserves_pure _ _
    intro now store store' hstore heffect
    have hi := ingestEffect_ingested event now store store' heffect
      ((validated_iff event).mp validated).1
    exact hresults store store' hi.evaluationResults hstore
  | link runId regressionRunId scenarioId repetitionIndex =>
    exact sound_persistRegressionLinkage I db _ _ _ _ fun _ store h => hresults store _ rfl h
  | evaluate environment evaluators runId =>
    refine preserves_bind _ _ _ (fun s hs => ?_) fun _ => preserves_pure _ _
    exact sound_runEvaluation_of I db runId
      (acceptedKeep_of_writesKeep I db runId (hwrites runId)) environment evaluators s hs
      fun _ _ _ _ _ store h _ => hresults store _ rfl h

end Writers

theorem reachable_invariant (I : Store → Prop) (hI : StoreInvariant I) (store : Store)
    (h : Reachable store) : I store := by
  induction h with
  | empty => exact hI.empty
  | request store _ db request ih =>
    exact (sound_serve I db hI request (Session.fresh store) (sound_fresh I store ih)).1

/-- One validated snapshot leaves a run. -/
/- One run, ingested into an empty store. -/
def ingestedStore : Store :=
  (after (serve .plain (.ingest (successEvent "run-1") (successEvent_validated "run-1")))
    (Session.fresh Store.empty)).committed

theorem ingestedStore_reachable : Reachable ingestedStore := .request _ .empty _ _

theorem reachable_success : ∃ store row, Reachable store ∧ row ∈ store.agentRuns.rows := by
  have hrow : ingestedStore.agentRuns.rows ≠ [] := by
    intro hempty
    have hlength := congrArg List.length hempty
    revert hlength
    decide +kernel
  obtain ⟨row, hmem⟩ := List.exists_mem_of_ne_nil _ hrow
  exact ⟨ingestedStore, row, ingestedStore_reachable, hmem⟩

end ObsPlatform.Platform
