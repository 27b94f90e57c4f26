import ObsPlatform.Evaluation.Recorded
import ObsPlatform.Platform.ReadBack

/-!
# An evaluation runs to its end

Unless the server refuses a statement, the evaluation of a stored run whose rows refer
to each other returns, whatever the judges do. Its last step reads the failure row it
has just committed, and leaves the transaction of that read open.
-/

namespace ObsPlatform.Platform

open Telemetry Db UnitOfWork Evaluation

section Persist
variable (db : Database)

theorem delivers_insertAndRead {α : Type} (label : Statement) (nextId : Store → ℕ)
    (inserted : Timestamp → Store → Store) (shown : ℕ → Store → α) (s : DbSession) :
    Delivers db.backend (do
        let now ← now db
        let id ← execute db.backend label fun store => (nextId store, inserted now store)
        commit
        read db (shown id)) s fun _ _ => True := by
  apply delivers_bind db.backend _ _ s (fun _ _ => True)
  · exact delivers_of_ok db.backend _ s s _ _ rfl trivial
  intro now t _
  have hwrite := delivers_execute db.backend label
    (fun store => (nextId store, inserted now store)) t
  apply delivers_bind db.backend _ _ t _ _ hwrite
  intro id u _
  apply delivers_bind db.backend _ _ u (fun _ _ => True)
  · exact delivers_of_ok db.backend _ _ _ () _ rfl trivial
  intro _ v _
  exact delivers_mono db.backend _ v _ _ (delivers_read db _ v) fun _ _ _ => trivial

theorem delivers_persistEvaluationResult (runId evaluatorName evaluatorVersion : String)
    (status : EvaluatorExecutionStatus) (result : Evaluation.EvaluationResult) (regressionRunId : Option ℕ)
    (s : DbSession) :
    Delivers db.backend (persistEvaluationResult db runId evaluatorName evaluatorVersion status
      (some result) regressionRunId) s fun _ _ => True := by
  simp only [persistEvaluationResult, Option.isNone_some, Bool.false_eq_true, and_false, if_false]
  exact delivers_insertAndRead db .evaluationResult
    (fun store => store.evaluationResults.length + 1)
    (fun now => insertEvaluationResult (evaluationResultRecord runId evaluatorName evaluatorVersion
      status (some result) regressionRunId now))
    (fun id store => store.evaluationResults.find? fun row => row.id = id) s

theorem delivers_persistJudgeCall (runId evaluatorName evaluatorVersion : String)
    (call : JudgeCallResult Unit) (succeeded : Bool) (s : DbSession) :
    Delivers db.backend (persistJudgeCall db runId evaluatorName evaluatorVersion call succeeded) s
      fun _ _ => True :=
  delivers_insertAndRead db .judgeCall (fun store => store.judgeCalls.length + 1)
    (fun now => insertJudgeCall
      (judgeCallRecord runId evaluatorName evaluatorVersion call succeeded now))
    (fun id store => store.judgeCalls.find? fun row : JudgeCall => row.id = id) s

/-- Only what the server refused is reported. -/
theorem delivers_persistJudgeCalls (runId : String) (evaluator : Evaluator) (succeeded : Bool)
    (calls : List (JudgeCallResult Unit)) (s : DbSession) :
    Delivers db.backend (persistJudgeCalls db runId evaluator succeeded calls) s
      fun failures _ => ∀ e ∈ failures, db.backend.Refuses e := by
  induction calls generalizing s with
  | nil => exact delivers_of_ok db.backend _ s s [] _ rfl fun _ h => absurd h List.not_mem_nil
  | cons call calls ih =>
    apply delivers_bind db.backend _ _ s fun failure _ => ∀ e ∈ failure, db.backend.Refuses e
    · apply Stateful.ends_tryCatch _ _ s _ fun e _ => db.backend.Refuses e
      · apply delivers_bind db.backend _ _ s _ _
          (delivers_persistJudgeCall db runId evaluator.name evaluator.version call succeeded s)
        intro _ t _
        exact delivers_of_ok db.backend _ t t [] _ rfl fun _ h => absurd h List.not_mem_nil
      · intro e t he
        have hreported : ∀ e' ∈ [e], db.backend.Refuses e' := by
          intro e' hmem
          rw [List.mem_singleton.mp hmem]
          exact he
        exact Stateful.ends_of_ok _ t _ [e] _ _ rfl hreported
    intro failure t hfailure
    apply delivers_bind db.backend _ _ t _ _ (ih t)
    intro failures u hfailures
    apply delivers_of_ok db.backend _ u u (failure ++ failures) _ rfl
    intro e hmem
    rcases List.mem_append.mp hmem with h | h
    · exact hfailure e h
    · exact hfailures e h

theorem delivers_evaluateEach (environment : JudgeEnvironment) (run : EvaluationRunView)
    (runId : String) (regressionRunId : Option ℕ) (position : ℕ)
    (judgeClient : Option JudgeClient) (evaluators : List Evaluator) (s : DbSession) :
    Delivers db.backend (evaluateEach db environment run runId regressionRunId position judgeClient
      evaluators) s fun returned _ => ∀ e ∈ returned.2, db.backend.Refuses e := by
  induction evaluators generalizing position judgeClient s with
  | nil => exact delivers_of_ok db.backend _ s s ([], []) _ rfl fun _ h => absurd h List.not_mem_nil
  | cons evaluator evaluators ih =>
    have hresult := delivers_persistEvaluationResult db runId evaluator.name evaluator.version
      (evaluateOne environment run position judgeClient evaluator).status
      (evaluateOne environment run position judgeClient evaluator).result regressionRunId s
    apply delivers_bind db.backend _ _ s _ _ hresult
    intro _ t _
    apply delivers_bind db.backend _ _ t _ _ (delivers_persistJudgeCalls db runId evaluator _ _ t)
    intro failures u hfailures
    apply delivers_bind db.backend _ _ u _ _ (ih _ _ u)
    intro rest v hrest
    apply delivers_of_ok db.backend _ v v _ _ rfl
    intro e hmem
    rcases List.mem_append.mp hmem with h | h
    · exact hfailures e h
    · exact hrest e h

/-- The row that was committed is read in a transaction of its own. -/
theorem delivers_persistRunFailure (runId : String) (classification : RunFailureResult)
    (s : DbSession) :
    Delivers db.backend (persistRunFailure db runId classification) s
      fun _ t => t.inTransaction = true := by
  apply delivers_bind db.backend _ _ s fun _ t => t = s
  · exact delivers_of_ok db.backend _ s s _ _ rfl rfl
  intro now t ht
  have hwrite := delivers_execute db.backend .runFailure
    (fun store : Store => ((), upsertRunFailure (runFailureValues runId classification now) store)) t
  apply delivers_bind db.backend _ _ t _ _ hwrite
  intro _ u hu
  obtain ⟨_, rfl⟩ := hu
  apply delivers_bind db.backend _ _ _ fun _ v =>
    v.view = upsertRunFailure (runFailureValues runId classification now) t.view
  · exact delivers_of_ok db.backend _ _ _ () _ rfl rfl
  intro _ v hv
  apply delivers_bind db.backend _ _ v _ _ (delivers_read db _ v)
  intro record w hw
  obtain ⟨rfl, rfl⟩ := hw
  have hstored := upsertRunFailure_find? (runFailureValues runId classification now) t.view
  rw [hv]
  have hid : (runFailureValues runId classification now).runId = runId := rfl
  rw [hid] at hstored
  rw [hstored]
  exact delivers_of_ok db.backend _ _ _ _ _ rfl rfl

end Persist

/-- An evaluation of a stored run returns, and leaves a transaction open. -/
theorem delivers_runEvaluation (db : Database) (environment : JudgeEnvironment)
    (evaluators : List Evaluator) (store : Store) (run : AgentRun)
    (hrun : store.agentRuns.find? run.runId = some run) (hclosed : RunClosed store run.runId)
    (s : DbSession) (hs : s.view = store) :
    Delivers db.backend (runEvaluation db environment evaluators run.runId) s
      fun _ t => t.inTransaction = true := by
  apply delivers_bind db.backend _ _ s _ _
    (delivers_evaluationRunView db store run hrun hclosed s hs)
  intro returned t hview
  obtain ⟨_, view, rfl, _⟩ := hview
  apply delivers_bind db.backend _ _ t _ _ (delivers_read db _ t)
  intro regressionRunId u _
  apply delivers_bind db.backend _ _ u (fun _ _ => True)
  · exact delivers_of_ok db.backend _ u u _ _ rfl trivial
  intro evaluatedAt v _
  apply delivers_bind db.backend _ _ v _ _ (delivers_evaluateEach db environment view run.runId
    regressionRunId 0 none evaluators v)
  intro returned w hfailures
  obtain ⟨outcomes, failures⟩ := returned
  apply delivers_bind db.backend _ _ w _ _
    (delivers_persistRunFailure db run.runId (classify outcomes) w)
  intro _ x hopen
  cases failures with
  | nil => exact delivers_of_ok db.backend _ x x _ _ rfl hopen
  | cons failure _ =>
    have hrefused := hfailures failure List.mem_cons_self
    exact Stateful.ends_of_error _ x x failure _ _ rfl hrefused

end ObsPlatform.Platform
