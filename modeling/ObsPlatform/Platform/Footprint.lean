import ObsPlatform.Evaluation.Recorded
import ObsPlatform.Platform.ReadBack

/-!
# The footprint of an evaluation

What an evaluation leaves in the store, whichever evaluators fail and whichever judge
calls the server refuses: one result for each evaluator, the judge calls that were
accepted, and one classification of the run. A refused judge call is reported when all of
this is committed.
-/

namespace ObsPlatform.Platform

open Telemetry Db UnitOfWork Evaluation Stateful

/-! ### A whole evaluation -/

/-- The database without its refusals of writes. -/
def readsOnly (db : Database) : Database :=
  { db with backend := ⟨fun n l w w' =>
      match l with
      | .read => db.backend.verdict n .read w w'
      | _ => none⟩ }

theorem readsOnly_refuses (db : Database) (e : Error) (h : (readsOnly db).backend.Refuses e) :
    ReadsRefused db := by
  obtain ⟨n, l, w, w', hv⟩ := h
  cases l
  case read => exact ⟨n, w, w', e, hv⟩
  all_goals cases hv

section Whole
variable (db : Database) (environment : JudgeEnvironment) (evaluators : List Evaluator)
  (store : Store) (run : AgentRun)

/-- The evaluation of the run ran to its end and reported these failures. -/
structure Completed (view : EvaluationRunView) (store' : Store) (failures : List Error) : Prop where
  shows : ViewShows db.collation store run view
  recorded : ∃ mid n, Recorded db run.runId run.regressionRunId
      (evaluatedOf environment view 0 none evaluators) store mid failures ∧
    store' = upsertRunFailure (runFailureValues run.runId
      (classify (outcomesOf environment view 0 none evaluators)) (db.clock n)) mid

/-- The server refused one of the rows that an evaluation cannot do without. -/
inductive WriteRefused (e : Error) : Prop where
  | result (view : EvaluationRunView) (hview : ViewShows db.collation store run view)
      (h : ResultRefused db run.runId run.regressionRunId
        (evaluatedOf environment view 0 none evaluators) store e)
  | failure (view : EvaluationRunView) (hview : ViewShows db.collation store run view)
      (mid : Store) (failures : List Error) (n : ℕ)
      (hrecorded : Recorded db run.runId run.regressionRunId
        (evaluatedOf environment view 0 none evaluators) store mid failures)
      (hanswer : db.backend.verdict n .runFailure mid (upsertRunFailure
        (runFailureValues run.runId (classify (outcomesOf environment view 0 none evaluators))
          (db.clock n)) mid) = some e)

variable (hrun : store.agentRuns.find? run.runId = some run) (hclosed : RunClosed store run.runId)
  (s : DbSession) (hs : s.view = store)
include hrun hclosed hs

theorem evaluationRunView_ends :
    Ends (evaluationRunView db run.runId) s
      (fun returned t =>
        t.view = store ∧ ∃ view, returned = some view ∧ ViewShows db.collation store run view)
      fun _ _ => ReadsRefused db := by
  have hreads := delivers_evaluationRunView (readsOnly db) store run hrun hclosed s hs
  exact ends_mono _ s _ _ _ _ hreads (fun _ _ h => h) fun e _ h => readsOnly_refuses db e h

theorem runEvaluation_ends :
    Ends (runEvaluation db environment evaluators run.runId) s
      (fun response t => t.inTransaction = true ∧ t.view = t.committed ∧ ∃ view n,
        Completed db environment evaluators store run view t.committed [] ∧
        response = evaluationTriggerResponse run.runId (outcomesOf environment view 0 none evaluators)
          (classify (outcomesOf environment view 0 none evaluators)) (db.clock n))
      fun e t => ReadsRefused db ∨ WriteRefused db environment evaluators store run e ∨
        ∃ view failures,
          Completed db environment evaluators store run view t.committed (e :: failures) := by
  apply ends_then _ _ s _ _ _ _ (evaluationRunView_ends db store run hrun hclosed s hs)
    (fun _ _ h => .inl h)
  intro returned t ht
  obtain ⟨hview, view, rfl, hshows⟩ := ht
  apply ends_bind _ _ t fun regressionRunId u =>
    regressionRunId = run.regressionRunId ∧ u.view = store
  · apply ends_read
    · rw [hview, hrun]
      exact ⟨rfl, rfl⟩
    · exact fun _ h => .inl h
  intro regressionRunId u hu
  obtain ⟨rfl, hu⟩ := hu
  apply ends_congr _ _ u u _ _ (bind_of_ok (now db) _ u u _ (now_apply db u))
  have heach : Ends (evaluateEach db environment view run.runId run.regressionRunId 0 none
      evaluators) u (fun returned v =>
        returned.1 = outcomesOf environment view 0 none evaluators ∧
        (Recorded db run.runId run.regressionRunId (evaluatedOf environment view 0 none evaluators)
          store v.view returned.2 ∨ returned.2 ≠ [] ∧ ReadsRefused db))
      fun e _ => ReadsRefused db ∨ WriteRefused db environment evaluators store run e := by
    have hends := evaluateEach_ends db run.runId environment view run.regressionRunId 0 none
      evaluators u
    rw [hu] at hends
    cases hends with
    | ok returned v hr h =>
      exact .ok returned v hr ⟨evaluateEach_outcomes db environment view run.runId _ 0 none
        evaluators u v returned hr, h⟩
    | error e v hr h => exact .error e v hr (h.imp_right fun h => .result view hshows h)
  apply ends_then _ _ u _ _ _ _ heach (fun e v h =>
    h.imp_right .inl)
  intro returned v hv
  obtain ⟨outcomes, failures⟩ := returned
  obtain ⟨rfl, hv⟩ := hv
  have hfailure := persistRunFailure_ends db run.runId
    (classify (outcomesOf environment view 0 none evaluators)) v
  apply ends_then _ _ v _ _ _ _ hfailure (fun e w h => ?_)
  · intro _ w hw
    obtain ⟨hopen, hsync, n, hview'⟩ := hw
    have hdone : ReadsRefused db ∧ failures ≠ [] ∨
        Completed db environment evaluators store run view w.committed failures := by
      rcases hv with hrecorded | ⟨hne, hr⟩
      · exact .inr ⟨hshows, v.view, n, hrecorded, hsync.symm.trans hview'⟩
      · exact .inl ⟨hr, hne⟩
    cases failures with
    | nil =>
      rcases hdone with ⟨_, hne⟩ | hdone
      · exact absurd rfl hne
      · exact ends_of_ok _ w w _ _ _ rfl ⟨hopen, hsync, view, _, hdone, rfl⟩
    | cons failure failures =>
      rcases hdone with ⟨hr, _⟩ | hdone
      · exact ends_of_error _ w w failure _ _ rfl (.inl hr)
      · exact ends_of_error _ w w failure _ _ rfl (.inr (.inr ⟨view, failures, hdone⟩))
  · rcases h with hr | ⟨n, hanswer⟩
    · exact .inl hr
    · rcases hv with hrecorded | ⟨_, hr⟩
      · exact .inr (.inl (.failure view hshows v.view failures n hrecorded hanswer))
      · exact .inl hr

end Whole

/-! ### The rows it appends -/

/-- The row of an evaluator, written at some time under an id above `above`. -/
def RecordOf (db : Database) (runId : String) (regressionRunId : Option ℕ) (above : ℕ)
    (evaluated : Evaluator × Evaluated) (row : Db.EvaluationResult) : Prop :=
  ∃ n id, above < id ∧ row = evaluationResultRecord runId evaluated.1.name evaluated.1.version
    evaluated.2.status (some evaluated.2.result) regressionRunId (db.clock n) id

/-- What a reader finds in the row: its outcome columns are set when it completed. -/
structure ResultRow (runId : String) (regressionRunId : Option ℕ)
    (evaluated : Evaluator × Evaluated) (row : Db.EvaluationResult) : Prop where
  runId : row.runId = runId
  evaluatorName : row.evaluatorName = evaluated.1.name
  evaluatorVersion : row.evaluatorVersion = evaluated.1.version
  regressionRunId : row.regressionRunId = regressionRunId
  status : row.status = evaluated.2.status
  completed : row.status = .completed → row.passed = some evaluated.2.result.passed ∧
    row.score = evaluated.2.result.score ∧ row.label = evaluated.2.result.label ∧
    row.severity = evaluated.2.result.severity
  cleared : row.status ≠ .completed →
    row.passed = none ∧ row.score = none ∧ row.label = none ∧ row.severity = none
  reason : row.reason = some evaluated.2.result.reason
  findings : row.findings = some evaluated.2.result.findings

theorem recordOf_row (db : Database) (runId : String) (regressionRunId : Option ℕ) (above : ℕ)
    (evaluated : Evaluator × Evaluated) (row : Db.EvaluationResult)
    (h : RecordOf db runId regressionRunId above evaluated row) :
    ResultRow runId regressionRunId evaluated row := by
  obtain ⟨n, id, _, rfl⟩ := h
  refine ⟨rfl, rfl, rfl, rfl, rfl, ?_, ?_, rfl, rfl⟩
  · intro h
    have hstatus : evaluated.2.status = .completed := h
    simp [evaluationResultRecord, hstatus]
  · intro h
    have hstatus : evaluated.2.status ≠ .completed := h
    simp [evaluationResultRecord, hstatus]

structure CallRow (runId : String) (logged : EvaluatorCall) (row : JudgeCall) : Prop where
  runId : row.runId = runId
  evaluatorName : row.evaluatorName = logged.evaluatorName
  evaluatorVersion : row.evaluatorVersion = logged.evaluatorVersion
  model : row.model = logged.call.model
  provider : row.provider = logged.call.provider
  latencyMs : row.latencyMs = logged.call.latencyMs
  promptTokens : row.promptTokens = logged.call.promptTokens
  completionTokens : row.completionTokens = logged.call.completionTokens
  estimatedCostUsd : row.estimatedCostUsd = logged.call.estimatedCostUsd
  succeeded : row.succeeded = logged.succeeded

theorem judgeCallRecord_row (runId : String) (logged : EvaluatorCall) (now : Timestamp) (id : ℕ) :
    CallRow runId logged (judgeCallRecord runId logged.evaluatorName logged.evaluatorVersion
      logged.call logged.succeeded now id) :=
  ⟨rfl, rfl, rfl, rfl, rfl, rfl, rfl, rfl, rfl, rfl⟩

structure FailureRow (runId : String) (classification : RunFailureResult) (row : RunFailure) :
    Prop where
  runId : row.runId = runId
  overallStatus : row.overallStatus = classification.overallStatus
  primaryCategory : row.primaryCategory = classification.primaryCategory
  secondaryCategory : row.secondaryCategory = classification.secondaryCategory
  maxSeverity : row.maxSeverity = classification.maxSeverity
  classifierVersion : row.classifierVersion = "1.0.0"

theorem runFailureValues_row (runId : String) (classification : RunFailureResult)
    (now : Timestamp) :
    FailureRow runId classification (runFailureValues runId classification now) :=
  ⟨rfl, rfl, rfl, rfl, rfl, rfl⟩

/-- The server's answer to the insertion of one judge call. -/
def Answered (db : Database) (runId : String) (answer : EvaluatorCall × Option Error) : Prop :=
  ∃ n store, db.backend.verdict n .judgeCall store
    (recordCall runId answer.1 (db.clock n) store) = answer.2

/-- The calls the server accepted. -/
def acceptedCalls (answers : List (EvaluatorCall × Option Error)) : List EvaluatorCall :=
  (answers.filter fun answer => answer.2.isNone).map Prod.fst

/-- The server's answers to all logged calls, with the rows and the errors they gave. -/
structure CallsAnswered (db : Database) (runId : String) (calls : List EvaluatorCall)
    (answers : List (EvaluatorCall × Option Error)) (rows : List JudgeCall)
    (failures : List Error) : Prop where
  logged : answers.map Prod.fst = calls
  answered : ∀ answer ∈ answers, Answered db runId answer
  rows : List.Forall₂ (CallRow runId) (acceptedCalls answers) rows
  failures : failures = answers.filterMap Prod.snd

theorem callsAnswered_append (db : Database) (runId : String) (calls calls' : List EvaluatorCall)
    (answers answers' : List (EvaluatorCall × Option Error)) (rows rows' : List JudgeCall)
    (failures failures' : List Error) (h : CallsAnswered db runId calls answers rows failures)
    (h' : CallsAnswered db runId calls' answers' rows' failures') :
    CallsAnswered db runId (calls ++ calls') (answers ++ answers') (rows ++ rows')
      (failures ++ failures') where
  logged := by rw [List.map_append, h.logged, h'.logged]
  answered := by
    intro answer hm
    rcases List.mem_append.mp hm with hm | hm
    · exact h.answered answer hm
    · exact h'.answered answer hm
  rows := by
    simp only [acceptedCalls, List.filter_append, List.map_append]
    exact List.rel_append h.rows h'.rows
  failures := by rw [List.filterMap_append, h.failures, h'.failures]

theorem callsRecorded_rows (db : Database) (runId : String) (calls : List EvaluatorCall)
    (store store' : Store) (failures : List Error)
    (h : CallsRecorded db runId calls store store' failures) :
    ∃ answers rows, CallsAnswered db runId calls answers rows failures ∧
      store' = { store with judgeCalls := store.judgeCalls ++ rows } := by
  induction h with
  | nil store =>
    have hnone : CallsAnswered db runId [] [] [] [] :=
      ⟨rfl, fun _ hm => absurd hm List.not_mem_nil, .nil, rfl⟩
    refine ⟨[], [], hnone, ?_⟩
    rw [List.append_nil]
  | accepted logged calls store store' failures n hanswer _ ih =>
    obtain ⟨answers, rows, hrest, hstore⟩ := ih
    have hone : CallsAnswered db runId [logged] [(logged, none)]
        [judgeCallRecord runId logged.evaluatorName logged.evaluatorVersion logged.call
          logged.succeeded (db.clock n) (store.judgeCalls.length + 1)] [] := by
      refine ⟨rfl, ?_, .cons (judgeCallRecord_row runId logged _ _) .nil, rfl⟩
      intro answer hm
      rw [List.mem_singleton.mp hm]
      exact ⟨n, store, hanswer⟩
    refine ⟨_, _, callsAnswered_append _ _ _ _ _ _ _ _ _ _ hone hrest, ?_⟩
    rw [hstore]
    simp [recordCall, insertJudgeCall]
  | refused logged calls store store' failures n e hanswer _ ih =>
    obtain ⟨answers, rows, hrest, hstore⟩ := ih
    have hone : CallsAnswered db runId [logged] [(logged, some e)] [] [e] := by
      refine ⟨rfl, ?_, .nil, rfl⟩
      intro answer hm
      rw [List.mem_singleton.mp hm]
      exact ⟨n, store, hanswer⟩
    exact ⟨_, _, callsAnswered_append _ _ _ _ _ _ _ _ _ _ hone hrest, hstore⟩

theorem recorded_rows (db : Database) (runId : String) (regressionRunId : Option ℕ)
    (evaluated : List (Evaluator × Evaluated)) (store store' : Store) (failures : List Error)
    (h : Recorded db runId regressionRunId evaluated store store' failures) :
    ∃ results answers rows,
      List.Forall₂ (RecordOf db runId regressionRunId store.evaluationResults.length) evaluated
        results ∧
      CallsAnswered db runId (evaluated.flatMap loggedCalls) answers rows failures ∧
      store' = { store with
        evaluationResults := store.evaluationResults ++ results
        judgeCalls := store.judgeCalls ++ rows } := by
  induction h with
  | nil store =>
    have hnone : CallsAnswered db runId [] [] [] [] :=
      ⟨rfl, fun _ hm => absurd hm List.not_mem_nil, .nil, rfl⟩
    refine ⟨[], [], [], .nil, hnone, ?_⟩
    simp only [List.append_nil]
  | cons one rest store mid store' failures failures' n _ hcalls _ ih =>
    obtain ⟨results, answers, rows, hresults, hrest, hstore⟩ := ih
    obtain ⟨answers', rows', hone, hmid⟩ := callsRecorded_rows db runId _ _ _ _ hcalls
    have hlater : List.Forall₂ (RecordOf db runId regressionRunId store.evaluationResults.length)
        rest results := by
      apply hresults.imp
      intro evaluated row hrow
      obtain ⟨m, id, hid, hrow⟩ := hrow
      have hlength : mid.evaluationResults.length = store.evaluationResults.length + 1 := by
        simp [hmid, recordResult, insertEvaluationResult]
      exact ⟨m, id, by omega, hrow⟩
    have hfirst : RecordOf db runId regressionRunId store.evaluationResults.length one _ :=
      ⟨n, store.evaluationResults.length + 1, Nat.lt_succ_self _, rfl⟩
    refine ⟨_, _, _, .cons hfirst hlater, callsAnswered_append _ _ _ _ _ _ _ _ _ _ hone hrest, ?_⟩
    rw [hstore, hmid]
    simp [recordResult, insertEvaluationResult]

/-! ### The footprint -/

section Footprint
variable (db : Database) (environment : JudgeEnvironment) (evaluators : List Evaluator)
  (store : Store) (run : AgentRun)

/-- The store after an evaluation differs from the store before it by these rows, and the
server refused these judge calls. -/
structure EvaluationFootprint (view : EvaluationRunView) (store' : Store) (failures : List Error) :
    Prop where
  shows : ViewShows db.collation store run view
  inOrder : (evaluatedOf environment view 0 none evaluators).map Prod.fst = evaluators
  accords : ∀ evaluated ∈ evaluatedOf environment view 0 none evaluators,
    Accords environment view evaluated.1 evaluated.2
  rows : ∃ results answers calls failure,
    List.Forall₂ (ResultRow run.runId run.regressionRunId)
      (evaluatedOf environment view 0 none evaluators) results ∧
    CallsAnswered db run.runId
      ((evaluatedOf environment view 0 none evaluators).flatMap loggedCalls) answers calls failures ∧
    FailureRow run.runId (classify (outcomesOf environment view 0 none evaluators)) failure ∧
    store'.runFailures.find? run.runId = some failure ∧
    store' = { store with
      evaluationResults := store.evaluationResults ++ results
      judgeCalls := store.judgeCalls ++ calls
      runFailures := (upsertRunFailure failure store).runFailures }
  otherRuns : ∀ runId, runId ≠ run.runId →
    store'.evaluationResults.filter (fun row => row.runId = runId) =
      store.evaluationResults.filter (fun row => row.runId = runId) ∧
    store'.judgeCalls.filter (fun row => row.runId = runId) =
      store.judgeCalls.filter (fun row => row.runId = runId) ∧
    store'.runFailures.find? runId = store.runFailures.find? runId

/-- Rows of one run are no rows of another. -/
theorem filter_appended {α χ : Type} (key : χ → String) (runId other : String) (hne : other ≠ runId)
    (rows added : List χ) (values : List α) (P : α → χ → Prop) (hP : ∀ a row, P a row → key row = runId)
    (h : List.Forall₂ P values added) :
    (rows ++ added).filter (fun row => key row = other) =
      rows.filter fun row => key row = other := by
  have hnone : added.filter (fun row => key row = other) = [] := by
    induction h with
    | nil => rfl
    | cons hrow _ ih =>
      have hkey := hP _ _ hrow
      rw [List.filter_cons_of_neg, ih]
      simp [hkey, Ne.symm hne]
  rw [List.filter_append, hnone, List.append_nil]

theorem completed_footprint (view : EvaluationRunView) (store' : Store) (failures : List Error)
    (h : Completed db environment evaluators store run view store' failures) :
    EvaluationFootprint db environment evaluators store run view store' failures := by
  obtain ⟨hview, mid, n, hrecorded, hstore⟩ := h
  obtain ⟨results, answers, calls, hresults, hcalls, hmid⟩ := recorded_rows db _ _ _ _ _ _ hrecorded
  let values := runFailureValues run.runId
    (classify (outcomesOf environment view 0 none evaluators)) (db.clock n)
  have hfinal : store' = { store with
      evaluationResults := store.evaluationResults ++ results
      judgeCalls := store.judgeCalls ++ calls
      runFailures := (upsertRunFailure values store).runFailures } := by
    rw [hstore, hmid]
    rfl
  have hstored : store'.runFailures.find? run.runId = some values := by
    rw [hfinal]
    exact upsertRunFailure_find? values store
  have hrows := hresults.imp fun _ _ h => recordOf_row db _ _ _ _ _ h
  refine ⟨hview, evaluatedOf_evaluators _ _ _ _ _, evaluatedOf_accords _ _ _ _ _,
    ⟨results, answers, calls, values, hrows, hcalls, runFailureValues_row _ _ _, hstored, hfinal⟩,
    ?_⟩
  intro runId hne
  rw [hfinal]
  refine ⟨filter_appended Db.EvaluationResult.runId _ runId hne _ _ _ _
    (fun _ _ h => h.runId) hrows, filter_appended JudgeCall.runId _ runId hne _ _ _ _
    (fun _ _ h => h.runId) hcalls.rows, ?_⟩
  exact upsertRunFailure_other _ store runId hne

end Footprint

end ObsPlatform.Platform
