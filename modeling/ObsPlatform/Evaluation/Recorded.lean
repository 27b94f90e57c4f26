import ObsPlatform.Evaluation.Service

/-!
# What an evaluation writes

Every row of an evaluation is committed before the next one is written. `Recorded` is the
store those commits lead to, one evaluator after another; a judge call the server refuses
is rolled back and leaves the store as it was.
-/

namespace ObsPlatform.Evaluation

open Db UnitOfWork Stateful

/-! ### The evaluators and what became of them -/

def evaluatedOf (environment : JudgeEnvironment) (run : EvaluationRunView) :
    ℕ → Option JudgeClient → List Evaluator → List (Evaluator × Evaluated)
  | _, _, [] => []
  | position, judgeClient, evaluator :: evaluators =>
    let evaluated := evaluateOne environment run position judgeClient evaluator
    (evaluator, evaluated) ::
      evaluatedOf environment run (position + 1) evaluated.judgeClient evaluators

theorem evaluatedOf_evaluators (environment : JudgeEnvironment) (run : EvaluationRunView)
    (position : ℕ) (judgeClient : Option JudgeClient) (evaluators : List Evaluator) :
    (evaluatedOf environment run position judgeClient evaluators).map Prod.fst = evaluators := by
  induction evaluators generalizing position judgeClient with
  | nil => rfl
  | cons evaluator evaluators ih => simp only [evaluatedOf, List.map_cons, ih]

theorem evaluatedOf_outcomes (environment : JudgeEnvironment) (run : EvaluationRunView)
    (position : ℕ) (judgeClient : Option JudgeClient) (evaluators : List Evaluator) :
    (evaluatedOf environment run position judgeClient evaluators).map
        (fun evaluated => evaluatorOutcome evaluated.1 evaluated.2) =
      outcomesOf environment run position judgeClient evaluators := by
  induction evaluators generalizing position judgeClient with
  | nil => rfl
  | cons evaluator evaluators ih => simp only [evaluatedOf, outcomesOf, List.map_cons, ih]

/-- What an evaluator returns or raises when it is run. -/
def attempt (environment : JudgeEnvironment) (run : EvaluationRunView) (position : ℕ)
    (judgeClient : Option JudgeClient) (evaluator : Evaluator) : Except Error EvaluationResult :=
  match evaluator.type with
  | .deterministic => evaluator.evaluate run
  | .llmBased =>
    match obtainJudgeClient environment position judgeClient with
    | .ok client => (evaluator.evaluateAsync client position run).1
    | .error e => .error e

/-- An evaluator is skipped, or its status says whether it returned. -/
inductive Accords (environment : JudgeEnvironment) (run : EvaluationRunView) (evaluator : Evaluator)
    (evaluated : Evaluated) : Prop where
  | skipped (hskip : shouldSkipUnconfiguredJudge evaluator environment.settings = true)
      (hstatus : evaluated.status = .skipped) (hresult : evaluated.result = judgeUnavailableResult)
      (hlog : evaluated.callLog = [])
  | completed (hskip : shouldSkipUnconfiguredJudge evaluator environment.settings = false)
      (position : ℕ) (judgeClient : Option JudgeClient)
      (hattempt : attempt environment run position judgeClient evaluator = .ok evaluated.result)
      (hstatus : evaluated.status = .completed)
  | failed (hskip : shouldSkipUnconfiguredJudge evaluator environment.settings = false)
      (position : ℕ) (judgeClient : Option JudgeClient) (e : Error)
      (hattempt : attempt environment run position judgeClient evaluator = .error e)
      (hstatus : evaluated.status = .failed) (hresult : evaluated.result = evaluatorExceptionResult e)

theorem evaluateOne_accords (environment : JudgeEnvironment) (run : EvaluationRunView)
    (position : ℕ) (judgeClient : Option JudgeClient) (evaluator : Evaluator) :
    Accords environment run evaluator
      (evaluateOne environment run position judgeClient evaluator) := by
  have hsettle : ∀ callLog client,
      shouldSkipUnconfiguredJudge evaluator environment.settings = false →
      Accords environment run evaluator
        (settle (attempt environment run position judgeClient evaluator) callLog client) := by
    intro callLog client hskip
    cases hattempt : attempt environment run position judgeClient evaluator with
    | ok result => exact .completed hskip position judgeClient hattempt rfl
    | error e => exact .failed hskip position judgeClient e hattempt rfl rfl
  cases hskip : shouldSkipUnconfiguredJudge evaluator environment.settings with
  | true =>
    rw [evaluateOne, if_pos hskip]
    exact .skipped hskip rfl rfl rfl
  | false =>
    rw [evaluateOne, if_neg (by rw [hskip]; exact Bool.false_ne_true)]
    unfold attempt at hsettle
    cases htype : evaluator.type with
    | deterministic =>
      simp only [htype] at hsettle
      exact hsettle [] judgeClient hskip
    | llmBased =>
      simp only [htype] at hsettle
      cases hclient : obtainJudgeClient environment position judgeClient with
      | ok client =>
        simp only [hclient] at hsettle
        exact hsettle _ (some client) hskip
      | error e =>
        simp only [hclient] at hsettle
        exact hsettle [] judgeClient hskip

theorem evaluatedOf_accords (environment : JudgeEnvironment) (run : EvaluationRunView)
    (position : ℕ) (judgeClient : Option JudgeClient) (evaluators : List Evaluator) :
    ∀ evaluated ∈ evaluatedOf environment run position judgeClient evaluators,
      Accords environment run evaluated.1 evaluated.2 := by
  induction evaluators generalizing position judgeClient with
  | nil => exact fun _ hm => absurd hm List.not_mem_nil
  | cons evaluator evaluators ih =>
    intro evaluated hm
    rcases List.mem_cons.mp hm with rfl | hm
    · exact evaluateOne_accords environment run position judgeClient evaluator
    · exact ih _ _ evaluated hm

/-! ### The commits one after another -/

structure EvaluatorCall where
  evaluatorName : String
  evaluatorVersion : String
  call : JudgeCallResult Unit
  succeeded : Bool

def loggedCallsOf (evaluator : Evaluator) (succeeded : Bool) (calls : List (JudgeCallResult Unit)) :
    List EvaluatorCall :=
  calls.map fun call => ⟨evaluator.name, evaluator.version, call, succeeded⟩

/-- The calls an evaluator logged, in order. -/
def loggedCalls (evaluated : Evaluator × Evaluated) : List EvaluatorCall :=
  loggedCallsOf evaluated.1 (evaluated.2.status = .completed) evaluated.2.callLog

def recordCall (runId : String) (logged : EvaluatorCall) (now : Timestamp) : Store → Store :=
  insertJudgeCall (judgeCallRecord runId logged.evaluatorName logged.evaluatorVersion logged.call
    logged.succeeded now)

def recordResult (runId : String) (regressionRunId : Option ℕ) (evaluated : Evaluator × Evaluated)
    (now : Timestamp) : Store → Store :=
  insertEvaluationResult (evaluationResultRecord runId evaluated.1.name evaluated.1.version
    evaluated.2.status (some evaluated.2.result) regressionRunId now)

section Recorded
variable (db : Database) (runId : String)

/-- The server refused a read. -/
def ReadsRefused : Prop := ∃ n w w' e, db.backend.verdict n .read w w' = some e

/-- The server's answer to each logged call, and the store they lead to. -/
inductive CallsRecorded : List EvaluatorCall → Store → Store → List Error → Prop where
  | nil (store : Store) : CallsRecorded [] store store []
  | accepted (logged : EvaluatorCall) (calls : List EvaluatorCall) (store store' : Store)
      (failures : List Error) (n : ℕ)
      (hanswer : db.backend.verdict n .judgeCall store
        (recordCall runId logged (db.clock n) store) = none)
      (hrest : CallsRecorded calls (recordCall runId logged (db.clock n) store) store' failures) :
      CallsRecorded (logged :: calls) store store' failures
  | refused (logged : EvaluatorCall) (calls : List EvaluatorCall) (store store' : Store)
      (failures : List Error) (n : ℕ) (e : Error)
      (hanswer : db.backend.verdict n .judgeCall store
        (recordCall runId logged (db.clock n) store) = some e)
      (hrest : CallsRecorded calls store store' failures) :
      CallsRecorded (logged :: calls) store store' (e :: failures)

/-- The results and the calls of the evaluators, one evaluator after another. -/
inductive Recorded (regressionRunId : Option ℕ) :
    List (Evaluator × Evaluated) → Store → Store → List Error → Prop where
  | nil (store : Store) : Recorded regressionRunId [] store store []
  | cons (evaluated : Evaluator × Evaluated) (rest : List (Evaluator × Evaluated))
      (store mid store' : Store) (failures failures' : List Error) (n : ℕ)
      (hanswer : db.backend.verdict n .evaluationResult store
        (recordResult runId regressionRunId evaluated (db.clock n) store) = none)
      (hcalls : CallsRecorded db runId (loggedCalls evaluated)
        (recordResult runId regressionRunId evaluated (db.clock n) store) mid failures)
      (hrest : Recorded regressionRunId rest mid store' failures') :
      Recorded regressionRunId (evaluated :: rest) store store' (failures ++ failures')

/-! ### The session code against the commits -/

theorem ends_read {α : Type} (f : Store → α) (s : DbSession) (returned : α → DbSession → Prop)
    (raised : Error → DbSession → Prop) (hok : returned (f s.view) (s.spoken s.view))
    (herr : ∀ e, ReadsRefused db → raised e (s.spoken s.view)) :
    Ends (read db f) s returned raised :=
  ends_execute db.backend .read (fun w => (f w, w)) s _ _ (fun _ => hok)
    fun e hv => herr e ⟨_, _, _, e, hv⟩

/-- A row that is inserted and read back is committed; one that is refused leaves no trace. -/
theorem ends_insertAndRead {α : Type} (label : Statement) (nextId : Store → ℕ)
    (inserted : Timestamp → Store → Store) (shown : ℕ → Store → α) (s : DbSession) :
    Ends (do
        let now ← now db
        let id ← execute db.backend label fun store => (nextId store, inserted now store)
        commit
        read db (shown id)) s
      (fun _ t => t.view = t.committed ∧ ∃ n,
        db.backend.verdict n label s.view (inserted (db.clock n) s.view) = none ∧
        t.view = inserted (db.clock n) s.view)
      fun e t => ReadsRefused db ∨ t.committed = s.committed ∧ ∃ n,
        db.backend.verdict n label s.view (inserted (db.clock n) s.view) = some e := by
  apply ends_congr _ _ s s _ _ (bind_of_ok (now db) _ s s _ (now_apply db s))
  apply ends_bind _ _ s fun _ t =>
    db.backend.verdict s.statements label s.view (inserted (db.clock s.statements) s.view) = none ∧
      t = s.spoken (inserted (db.clock s.statements) s.view)
  · apply ends_execute
    · exact fun hv => ⟨hv, rfl⟩
    · exact fun e hv => .inr ⟨rfl, _, hv⟩
  intro id t ht
  obtain ⟨hanswer, rfl⟩ := ht
  apply ends_congr _ _ _ _ _ _ (bind_of_ok commit _ _ _ () rfl)
  apply ends_read
  · exact ⟨rfl, _, hanswer, rfl⟩
  · exact fun _ hr => .inl hr

theorem persistEvaluationResult_ends (regressionRunId : Option ℕ)
    (evaluated : Evaluator × Evaluated) (s : DbSession) :
    Ends (persistEvaluationResult db runId evaluated.1.name evaluated.1.version evaluated.2.status
        (some evaluated.2.result) regressionRunId) s
      (fun _ t => t.view = t.committed ∧ ∃ n,
        db.backend.verdict n .evaluationResult s.view
          (recordResult runId regressionRunId evaluated (db.clock n) s.view) = none ∧
        t.view = recordResult runId regressionRunId evaluated (db.clock n) s.view)
      fun e _ => ReadsRefused db ∨ ∃ n, db.backend.verdict n .evaluationResult s.view
        (recordResult runId regressionRunId evaluated (db.clock n) s.view) = some e := by
  simp only [persistEvaluationResult, Option.isNone_some, Bool.false_eq_true, and_false, if_false]
  have hends := ends_insertAndRead db .evaluationResult
    (fun store => store.evaluationResults.length + 1)
    (fun now store => recordResult runId regressionRunId evaluated now store)
    (fun id store => store.evaluationResults.find? fun row => row.id = id) s
  apply ends_mono _ s _ _ _ _ hends
  · exact fun _ _ h => h
  · exact fun _ _ h => h.imp_right And.right

theorem persistJudgeCall_ends (logged : EvaluatorCall) (s : DbSession) :
    Ends (persistJudgeCall db runId logged.evaluatorName logged.evaluatorVersion logged.call
        logged.succeeded) s
      (fun _ t => t.view = t.committed ∧ ∃ n,
        db.backend.verdict n .judgeCall s.view (recordCall runId logged (db.clock n) s.view) = none ∧
        t.view = recordCall runId logged (db.clock n) s.view)
      fun e t => ReadsRefused db ∨ t.committed = s.committed ∧ ∃ n,
        db.backend.verdict n .judgeCall s.view (recordCall runId logged (db.clock n) s.view) =
          some e :=
  ends_insertAndRead db .judgeCall (fun store => store.judgeCalls.length + 1)
    (fun now store => recordCall runId logged now store)
    (fun id store => store.judgeCalls.find? fun row : JudgeCall => row.id = id) s

theorem persistJudgeCalls_ends (evaluator : Evaluator) (succeeded : Bool)
    (calls : List (JudgeCallResult Unit)) (s : DbSession) (hs : s.view = s.committed) :
    Ends (persistJudgeCalls db runId evaluator succeeded calls) s
      (fun failures t => t.view = t.committed ∧
        (CallsRecorded db runId (loggedCallsOf evaluator succeeded calls) s.view t.view failures ∨
          failures ≠ [] ∧ ReadsRefused db))
      fun _ _ => False := by
  induction calls generalizing s with
  | nil => exact ends_of_ok _ s s [] _ _ rfl ⟨hs, .inl (.nil _)⟩
  | cons call calls ih =>
    let logged : EvaluatorCall := ⟨evaluator.name, evaluator.version, call, succeeded⟩
    apply ends_bind _ _ s fun failure t => t.view = t.committed ∧
      ((failure = [] ∧ ∃ n, db.backend.verdict n .judgeCall s.view
          (recordCall runId logged (db.clock n) s.view) = none ∧
          t.view = recordCall runId logged (db.clock n) s.view) ∨
        (∃ e n, failure = [e] ∧ db.backend.verdict n .judgeCall s.view
          (recordCall runId logged (db.clock n) s.view) = some e ∧ t.view = s.view) ∨
        failure ≠ [] ∧ ReadsRefused db)
    · apply ends_tryCatch _ _ s _ fun e t => ReadsRefused db ∨ t.committed = s.committed ∧ ∃ n,
        db.backend.verdict n .judgeCall s.view (recordCall runId logged (db.clock n) s.view) = some e
      · apply ends_bind _ _ s _ _ _ (persistJudgeCall_ends db runId logged s)
        intro _ t ht
        obtain ⟨hsync, n, hanswer, hview⟩ := ht
        exact ends_of_ok _ t t [] _ _ rfl ⟨hsync, .inl ⟨rfl, n, hanswer, hview⟩⟩
      · intro e t ht
        apply ends_of_ok _ t { t with inTransaction := false } [e] _ _
          rfl
        rcases ht with hr | ⟨hkept, n, hanswer⟩
        · exact ⟨rfl, .inr (.inr ⟨List.cons_ne_nil _ _, hr⟩)⟩
        · exact ⟨rfl, .inr (.inl ⟨e, n, rfl, hanswer, hkept.trans hs.symm⟩)⟩
    intro failure t ht
    obtain ⟨hsync, hfailure⟩ := ht
    apply ends_bind _ _ t _ _ _ (ih t hsync)
    intro failures u hu
    obtain ⟨hsync', hrest⟩ := hu
    apply ends_of_ok _ u u (failure ++ failures) _ _ rfl
    refine ⟨hsync', ?_⟩
    rcases hrest with hrest | ⟨hne, hr⟩
    · rcases hfailure with ⟨rfl, n, hanswer, hview⟩ | ⟨e, n, rfl, hanswer, hview⟩ | ⟨hne, hr⟩
      · rw [hview] at hrest
        exact .inl (.accepted logged _ _ _ _ n hanswer hrest)
      · rw [hview] at hrest
        exact .inl (.refused logged _ _ _ _ n e hanswer hrest)
      · exact .inr ⟨List.append_ne_nil_of_left_ne_nil hne _, hr⟩
    · exact .inr ⟨List.append_ne_nil_of_right_ne_nil _ hne, hr⟩

/-- An evaluator's row was refused after those before it were recorded. -/
def ResultRefused (regressionRunId : Option ℕ) (evaluated : List (Evaluator × Evaluated))
    (store : Store) (e : Error) : Prop :=
  ∃ done one rest mid failures n, evaluated = done ++ one :: rest ∧
    Recorded db runId regressionRunId done store mid failures ∧
    db.backend.verdict n .evaluationResult mid
      (recordResult runId regressionRunId one (db.clock n) mid) = some e

theorem evaluateEach_ends (environment : JudgeEnvironment) (run : EvaluationRunView)
    (regressionRunId : Option ℕ) (position : ℕ) (judgeClient : Option JudgeClient)
    (evaluators : List Evaluator) (s : DbSession) :
    Ends (evaluateEach db environment run runId regressionRunId position judgeClient evaluators) s
      (fun returned t =>
        Recorded db runId regressionRunId (evaluatedOf environment run position judgeClient evaluators)
          s.view t.view returned.2 ∨ returned.2 ≠ [] ∧ ReadsRefused db)
      fun e _ => ReadsRefused db ∨ ResultRefused db runId regressionRunId
        (evaluatedOf environment run position judgeClient evaluators) s.view e := by
  induction evaluators generalizing position judgeClient s with
  | nil => exact ends_of_ok _ s s ([], []) _ _ rfl (.inl (.nil _))
  | cons evaluator evaluators ih =>
    have hresult := persistEvaluationResult_ends db runId regressionRunId
      (evaluator, evaluateOne environment run position judgeClient evaluator) s
    apply ends_then _ _ s _ _ _ _ hresult (fun e t h => ?_)
    · intro _ t ht
      obtain ⟨hsync, n, hanswer, hview⟩ := ht
      apply ends_then _ _ t _ _ _ _ (persistJudgeCalls_ends db runId evaluator _ _ t hsync)
        (fun _ _ h => h.elim)
      intro failures u hu
      obtain ⟨_, hcalls⟩ := hu
      apply ends_then _ _ u _ _ _ _ (ih _ _ u) (fun e v h => ?_)
      · intro rest v hrest
        apply ends_of_ok _ v v _ _ _ rfl
        rcases hrest with hrest | ⟨hne, hr⟩
        · rcases hcalls with hcalls | ⟨hne, hr⟩
          · rw [hview] at hcalls
            exact .inl (.cons _ _ _ _ _ _ _ n hanswer hcalls hrest)
          · exact .inr ⟨List.append_ne_nil_of_left_ne_nil hne _, hr⟩
        · exact .inr ⟨List.append_ne_nil_of_right_ne_nil _ hne, hr⟩
      · rcases h with hr | ⟨done, one, rest, mid, failures', m, hsplit, hdone, hrefused⟩
        · exact .inl hr
        · rcases hcalls with hcalls | ⟨_, hr⟩
          · rw [hview] at hcalls
            have hrecorded := Recorded.cons (evaluator,
              evaluateOne environment run position judgeClient evaluator) _ _ _ _ _ _ n hanswer hcalls
              hdone
            refine .inr ⟨_, one, rest, mid, _, m, ?_, hrecorded, hrefused⟩
            rw [evaluatedOf, hsplit, List.cons_append]
          · exact .inl hr
    · rcases h with hr | ⟨n, hanswer⟩
      · exact .inl hr
      · exact .inr ⟨[], _, _, _, [], n, rfl, .nil _, hanswer⟩

theorem upsertRunFailure_find? (values : RunFailure) (store : Store) :
    (upsertRunFailure values store).runFailures.find? values.runId = some values := by
  have hstored := Table.find?_upsert_self store.runFailures values (updateRunFailure values)
    fun _ h => h
  rw [upsertRunFailure, hstored]
  cases hold : store.runFailures.find? values.runId with
  | none => rfl
  | some old =>
    have hkey := store.runFailures.key_of_find? values.runId old hold
    rw [Option.elim_some, updateRunFailure, hkey]

/-- The stored verdict of a run is the one last written. -/
theorem upsertRunFailure_classified (runId : String) (classification : RunFailureResult)
    (now : Timestamp) (store : Store) :
    ∃ failure, (upsertRunFailure (runFailureValues runId classification now) store).runFailures.find?
        runId = some failure ∧
      classification = ⟨failure.overallStatus, failure.primaryCategory, failure.secondaryCategory,
        failure.maxSeverity⟩ :=
  ⟨_, upsertRunFailure_find? (runFailureValues runId classification now) store, rfl⟩

theorem upsertRunFailure_other (values : RunFailure) (store : Store) (runId : String)
    (hne : runId ≠ values.runId) :
    (upsertRunFailure values store).runFailures.find? runId = store.runFailures.find? runId := by
  have hfind := Table.find?_upsert store.runFailures values (updateRunFailure values)
    (fun _ h => h) runId
  rw [if_neg hne] at hfind
  exact hfind

theorem persistRunFailure_ends (classification : RunFailureResult) (s : DbSession) :
    Ends (persistRunFailure db runId classification) s
      (fun _ t => t.inTransaction = true ∧ t.view = t.committed ∧ ∃ n,
        t.view = upsertRunFailure (runFailureValues runId classification (db.clock n)) s.view)
      fun e _ => ReadsRefused db ∨ ∃ n, db.backend.verdict n .runFailure s.view
        (upsertRunFailure (runFailureValues runId classification (db.clock n)) s.view) = some e := by
  have hstored := upsertRunFailure_find?
    (runFailureValues runId classification (db.clock s.statements)) s.view
  apply ends_congr _ _ s s _ _ (bind_of_ok (now db) _ s s _ (now_apply db s))
  apply ends_bind _ _ s fun _ t => t = s.spoken
    (upsertRunFailure (runFailureValues runId classification (db.clock s.statements)) s.view)
  · apply ends_write db.backend .runFailure _ s
    · exact fun _ => rfl
    · exact fun e hv => .inr ⟨_, hv⟩
  intro _ t ht
  subst ht
  apply ends_congr _ _ _ _ _ _ (bind_of_ok commit _ _ _ () rfl)
  apply ends_bind _ _ _ fun record t => record.isSome ∧ t.inTransaction = true ∧
    t.view = t.committed ∧ ∃ n, t.view =
      upsertRunFailure (runFailureValues runId classification (db.clock n)) s.view
  · apply ends_read
    · exact ⟨Option.isSome_iff_exists.mpr ⟨_, hstored⟩, rfl, rfl, _, rfl⟩
    · exact fun _ hr => .inl hr
  intro record t ht
  obtain ⟨hrecord, hstate⟩ := ht
  obtain ⟨row, rfl⟩ := Option.isSome_iff_exists.mp hrecord
  exact ends_of_ok _ t t row _ _ rfl hstate

end Recorded
end ObsPlatform.Evaluation
