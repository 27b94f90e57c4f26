import ObsPlatform.Platform.Usage
import ObsPlatform.Routes.Requests

/-!
# What the steps of the server keep

A step of a thread sees the store the others have left and commits at most one write, or one
ingestion. What each write keeps, every step keeps, and so does every thread made of them.
-/

namespace ObsPlatform.Platform

open Telemetry Db UnitOfWork Evaluation Ingestion Stateful Regressions Routes

/-- Every ingestion of the event keeps to the terms. -/
def IngestKeeps (terms : Terms Store) (event : ExtendedRunEvent) : Prop :=
  ∀ now store store', terms.invariant store → ingestEffect event now store = .ok store' →
    terms.Keep store store'

/-- Every write of an evaluation of the run keeps to the terms. -/
structure EvaluationWritersKeep (terms : Terms Store) (runId : String) : Prop where
  evaluationResult : ∀ record store, (∀ id, (record id).runId = runId) → terms.invariant store →
    terms.Keep store (insertEvaluationResult record store)
  judgeCall : ∀ record store, (∀ id, (record id).runId = runId) → terms.invariant store →
    terms.Keep store (insertJudgeCall record store)
  runFailure : ∀ values store, values.runId = runId → terms.invariant store →
    terms.Keep store (upsertRunFailure values store)

structure WritersKeep (terms : Terms Store) : Prop where
  ingest : ∀ event, Validated event → IngestKeeps terms event
  evaluation : ∀ runId, EvaluationWritersKeep terms runId

theorem sound_ingest_from (terms : Terms Store) (w : Store) (db : Database)
    (event : ExtendedRunEvent) (h : IngestKeeps terms event) :
    Preserves (Sound (terms.From w)) (ingestRunEvent db event) := by
  apply sound_ingestRunEvent
  intro now store store' hstore heffect
  exact terms.from_step w store store' hstore fun hI => h now store store' hI heffect

/-- A step that keeps to the terms, whatever store it sees. -/
def StepKeeps (terms : Terms Store) (_ : Statement) (act : DbSession → DbSession) : Prop :=
  ∀ w s, terms.invariant w → terms.Keep w (act (committedPart.install w s)).committed

section Steps
variable (terms : Terms Store)

theorem stepKeeps_of_sound {α : Type} (label : Statement) (x : SessionM α)
    (hx : ∀ w, Preserves (Sound (terms.From w)) x) : StepKeeps terms label (after x) := by
  intro w s hw
  have hself := terms.from_self w hw
  exact (hx w (committedPart.install w s) ⟨hself, fun _ => hself⟩).1

theorem each_of_sound {α : Type} (label : Statement) (x : SessionM α)
    (hx : ∀ w, Preserves (Sound (terms.From w)) x) :
    (Thread.atomic label x).Each (StepKeeps terms) :=
  Thread.each_atomic _ _ _ (stepKeeps_of_sound terms label x hx)

theorem evaluationRunViewThread_keeps (db : Database) (runId : String) :
    (evaluationRunViewThread db runId).Each (StepKeeps terms) := by
  have hordered {α : Type} (f : Plan db.collation → Store → α) :
      (Thread.atomic .read (readOrdered db f)).Each (StepKeeps terms) :=
    each_of_sound terms _ _ fun _ => sound_readOrdered _ db f
  apply Thread.each_bind
  · exact each_of_sound terms _ _ fun _ => sound_selectAgentRun _ db runId
  intro run
  cases run with
  | none => exact .done _
  | some run =>
    apply Thread.each_bind _ _ _ (hordered _)
    intro spans
    apply Thread.each_bind _ _ _ (hordered _)
    intro toolCalls
    apply Thread.each_bind _ _ _ (hordered _)
    intro llmCalls
    exact Thread.each_bind _ _ _ (.done _) fun _ => .done _

theorem assertHitlGateHeldThread_keeps (db : Database) (runId : String) :
    (assertHitlGateHeldThread db runId).Each (StepKeeps terms) := by
  apply Thread.each_bind
  · exact each_of_sound terms _ _ fun _ => sound_selectAgentRun _ db runId
  intro run
  cases run with
  | none => exact .done _
  | some run =>
    dsimp only
    split
    · exact .done _
    · split
      · exact .done _
      · split
        · exact .done _
        · apply Thread.each_bind
          · exact each_of_sound terms _ _ fun _ => sound_read _ db _
          intro submitted
          split
          · exact .done _
          · apply Thread.each_bind _ _ _ ?_ fun _ => .done _
            exact each_of_sound terms _ _ fun _ => sound_commit _

section Evaluation
variable (db : Database) (runId : String) (h : EvaluationWritersKeep terms runId)
include h

theorem persistJudgeCallsThread_keeps (evaluator : Evaluator) (succeeded : Bool)
    (calls : List (JudgeCallResult Unit)) :
    (persistJudgeCallsThread db runId evaluator succeeded calls).Each (StepKeeps terms) := by
  induction calls with
  | nil => exact .done _
  | cons call calls ih =>
    apply Thread.each_bind
    · refine each_of_sound terms _ _ fun w => sound_tryJudgeCall _ db runId evaluator call succeeded ?_
      exact fun _ _ store hstore _ => terms.from_step w store _ hstore
        (h.judgeCall _ store fun _ => rfl)
    · intro failure
      exact Thread.each_bind _ _ _ ih fun _ => .done _

theorem evaluateEachThread_keeps (environment : JudgeEnvironment) (run : EvaluationRunView)
    (regressionRunId : Option ℕ) (position : ℕ) (judgeClient : Option JudgeClient)
    (evaluators : List Evaluator) :
    (evaluateEachThread db environment run runId regressionRunId position judgeClient
      evaluators).Each (StepKeeps terms) := by
  induction evaluators generalizing position judgeClient with
  | nil => exact .done _
  | cons evaluator evaluators ih =>
    apply Thread.each_bind
    · refine each_of_sound terms _ _ fun w =>
        sound_persistEvaluationResult _ db runId _ _ _ _ _ ?_
      exact fun _ _ store hstore _ => terms.from_step w store _ hstore
        (h.evaluationResult _ store fun _ => rfl)
    intro _
    apply Thread.each_bind _ _ _ (persistJudgeCallsThread_keeps terms db runId h evaluator _ _)
    intro failures
    exact Thread.each_bind _ _ _ (ih _ _) fun _ => .done _

theorem runEvaluationThread_keeps (environment : JudgeEnvironment) (evaluators : List Evaluator) :
    (runEvaluationThread db environment evaluators runId).Each (StepKeeps terms) := by
  apply Thread.each_bind _ _ _ (evaluationRunViewThread_keeps terms db runId)
  intro view
  cases view with
  | none => exact .done _
  | some run =>
    apply Thread.each_bind
    · exact each_of_sound terms _ _ fun _ => sound_read _ db _
    intro regressionRunId
    apply Thread.each_bind
    · exact each_of_sound terms _ _ fun _ => sound_now _ db
    intro evaluatedAt
    apply Thread.each_bind _ _ _
      (evaluateEachThread_keeps terms db runId h environment run regressionRunId 0 none evaluators)
    intro returned
    apply Thread.each_bind
    · refine each_of_sound terms _ _ fun w => sound_persistRunFailure _ db runId _ ?_
      exact fun _ _ store hstore _ => terms.from_step w store _ hstore
        (h.runFailure _ store rfl)
    intro _
    cases returned.2 with
    | nil => exact .done _
    | cons failure failures => exact .done _

theorem evaluateRunThread_keeps (environment : JudgeEnvironment) (libraries : JudgeLibraries) :
    (evaluateRunThread db environment libraries runId).Each (StepKeeps terms) := by
  apply Thread.each_followedBy _ _ _ (runEvaluationThread_keeps terms db runId h environment _)
  intro result
  cases result with
  | ok response => exact .done _
  | error e => cases e <;> exact .done _

end Evaluation

theorem postRegressionThread_keeps (db : Database) (ids : RegressionIds)
    (libraries : JudgeLibraries) (payload : RegressionCreateRequest)
    (hinsert : ∀ values store, terms.invariant store →
      terms.Keep store (insertRegressionRun ids libraries values store)) :
    (postRegressionThread db ids libraries payload).Each (StepKeeps terms) := by
  have hcheck : (checkBaselineThread db payload).Each (StepKeeps terms) := by
    unfold checkBaselineThread
    cases payload.isBaseline with
    | true => exact each_of_sound terms _ _ fun _ => sound_read _ db _
    | false => exact .done _
  apply Thread.each_bind _ _ _ hcheck
  intro found
  cases found with
  | true => exact .done _
  | false =>
    apply Thread.each_bind _ _ _ ?_ fun _ => .done _
    apply Thread.each_bind
    · refine each_of_sound terms _ _ fun w => ?_
      have hexecute : Preserves (Sound (terms.From w))
          (insertion db ids libraries (newRegressionRun payload)) :=
        sound_execute _ db.backend .regressionRun _ fun store hstore =>
          terms.from_step w store _ hstore (hinsert _ store)
      refine preserves_bind _ _ _ ?_ fun id => preserves_bind _ _ _ (sound_commit _) fun _ =>
        preserves_pure _ _
      exact preserves_tryCatch _ _ _ hexecute fun e =>
        preserves_bind _ _ _ (sound_rollback _) fun _ => preserves_throw _ _
    intro id
    apply Thread.each_bind
    · refine each_of_sound terms _ _ fun w => preserves_bind _ _ _ (sound_read _ db _) fun row => ?_
      cases row with
      | none => exact preserves_throw _ _
      | some row => exact preserves_pure _ _
    intro record
    apply Thread.each_bind
    · exact each_of_sound terms _ _ fun _ => sound_commit _
    · exact fun _ => .done _

/-! ### The steps of a runner -/

/-- A step of a runner that keeps to the terms, whatever store it sees. -/
def RunnerStepKeeps (_ : Statement) (act : RunnerState → RunnerState) : Prop :=
  ∀ w state, terms.invariant w →
    terms.Keep w (runnerPart.published (act (runnerPart.install w state)))

/-- A step that commits nothing. -/
theorem quiet_keeps {α : Type} (x : RunnerM α)
    (hx : ∀ w state, runnerPart.published (after x (runnerPart.install w state)) = w) :
    (Thread.atomic .read x).Each (RunnerStepKeeps terms) := by
  apply Thread.each_atomic
  intro w state hw
  rw [hx w state]
  exact terms.from_self w hw

theorem threadOnSession_keeps {α : Type} (t : SessionThread α) (ht : t.Each (StepKeeps terms)) :
    (threadOnSession t).Each (RunnerStepKeeps terms) := by
  refine Thread.each_zoom _ _ _ _ ?_ t ht
  exact fun _ act hact w state hw => hact w state.session hw

theorem request_keeps {α β : Type} (reply : α → β) (t : SessionThread α)
    (ht : t.Each (StepKeeps terms)) :
    (do
      let a ← threadOnSession t
      return reply a : RunnerThread β).Each (RunnerStepKeeps terms) :=
  Thread.each_bind _ _ _ (threadOnSession_keeps terms t ht) fun _ => .done _

end Steps

end ObsPlatform.Platform
