import ObsPlatform.Lib.Pool
import ObsPlatform.Platform.ConcurrentReads
import ObsPlatform.Platform.Records

/-!
# Evaluations of one run beside each other

Calls of one run read their views when they start, insert one result after another and
write their verdict last, each insert and the verdict committed on its own. Of the rows
shown, each is the latest of its evaluator; the verdict shown is the last one written.
-/

namespace ObsPlatform.Platform

open Telemetry Db UnitOfWork Evaluation Ingestion Routes Stateful

/-! ### The evaluation, cut at its commits -/

section Threads
variable (db : Database)

def persistJudgeCallsThread (runId : String) (evaluator : Evaluator) (succeeded : Bool) :
    List (JudgeCallResult Unit) → SessionThread (List Error)
  | [] => pure []
  | call :: calls => do
    let failure ← .atomic .judgeCall (tryCatch
      (do
        let _ ← persistJudgeCall db runId evaluator.name evaluator.version call succeeded
        pure [])
      (fun e => do
        rollback
        pure [e]))
    let failures ← persistJudgeCallsThread runId evaluator succeeded calls
    return failure ++ failures

def evaluateEachThread (environment : JudgeEnvironment) (run : EvaluationRunView) (runId : String)
    (regressionRunId : Option ℕ) : ℕ → Option JudgeClient → List Evaluator →
      SessionThread (List EvaluatorOutcome × List Error)
  | _, _, [] => pure ([], [])
  | position, judgeClient, evaluator :: evaluators => do
    let evaluated := evaluateOne environment run position judgeClient evaluator
    let _ ← .atomic .evaluationResult (persistEvaluationResult db runId evaluator.name
      evaluator.version evaluated.status (some evaluated.result) regressionRunId)
    let failures ← persistJudgeCallsThread db runId evaluator (evaluated.status = .completed)
      evaluated.callLog
    let rest ← evaluateEachThread environment run runId regressionRunId (position + 1)
      evaluated.judgeClient evaluators
    return (evaluatorOutcome evaluator evaluated :: rest.1, failures ++ rest.2)

def runEvaluationThread (environment : JudgeEnvironment) (evaluators : List Evaluator)
    (runId : String) : SessionThread EvaluationTriggerResponse := do
  let view ← evaluationRunViewThread db runId
  match view with
  | none => throw (.runNotFound runId)
  | some run =>
    let regressionRunId ← .atomic .read (read db fun store =>
      (store.agentRuns.find? runId).bind AgentRun.regressionRunId)
    let evaluatedAt ← .atomic .read (now db)
    let (outcomes, failures) ← evaluateEachThread db environment run runId regressionRunId 0 none
      evaluators
    let classification := classify outcomes
    let _ ← .atomic .runFailure (persistRunFailure db runId classification)
    match failures with
    | failure :: _ => throw failure
    | [] => pure (evaluationTriggerResponse runId outcomes classification evaluatedAt)

theorem persistJudgeCallsThread_run (runId : String) (evaluator : Evaluator) (succeeded : Bool)
    (calls : List (JudgeCallResult Unit)) :
    (persistJudgeCallsThread db runId evaluator succeeded calls).run =
      persistJudgeCalls db runId evaluator succeeded calls := by
  induction calls with
  | nil => rfl
  | cons call calls ih =>
    simp only [persistJudgeCallsThread, persistJudgeCalls, Thread.run_bind, Thread.run_atomic,
      Thread.run_pure, ih]

theorem evaluateEachThread_run (environment : JudgeEnvironment) (run : EvaluationRunView)
    (runId : String) (regressionRunId : Option ℕ) (position : ℕ) (judgeClient : Option JudgeClient)
    (evaluators : List Evaluator) :
    (evaluateEachThread db environment run runId regressionRunId position judgeClient
      evaluators).run =
      evaluateEach db environment run runId regressionRunId position judgeClient evaluators := by
  induction evaluators generalizing position judgeClient with
  | nil => rfl
  | cons evaluator evaluators ih =>
    simp only [evaluateEachThread, evaluateEach, Thread.run_bind, Thread.run_atomic,
      Thread.run_pure, persistJudgeCallsThread_run, ih]

theorem runEvaluationThread_run (environment : JudgeEnvironment) (evaluators : List Evaluator)
    (runId : String) :
    (runEvaluationThread db environment evaluators runId).run =
      runEvaluation db environment evaluators runId := by
  rw [runEvaluationThread, Thread.run_bind, evaluationRunViewThread_run, runEvaluation]
  congr 1
  funext view
  cases view with
  | none => rfl
  | some run =>
    simp only [Thread.run_bind, Thread.run_atomic, evaluateEachThread_run]
    congr 1
    funext regressionRunId
    congr 1
    funext evaluatedAt
    congr 1
    funext returned
    congr 1
    funext _
    cases returned.2 <;> rfl

end Threads

/-! ### What a call writes -/

variable {ι : Type}

abbrev StoreCommit (ι : Type) := Commit ι Statement Store

/-- The results a step appended. -/
def inserted (c : StoreCommit ι) : List Db.EvaluationResult :=
  c.after.evaluationResults.drop c.before.evaluationResults.length

/-- A step that writes neither results nor verdicts. -/
structure Aside (c : StoreCommit ι) : Prop where
  label : c.label ≠ .runFailure
  results : c.after.evaluationResults = c.before.evaluationResults
  failures : c.after.runFailures = c.before.runFailures

theorem inserted_aside (c : StoreCommit ι) (h : Aside c) : inserted c = [] := by
  rw [inserted, h.results, List.drop_length]

theorem flatMap_aside (steps : List (StoreCommit ι)) (h : ∀ c ∈ steps, Aside c) :
    steps.flatMap inserted = [] :=
  List.flatMap_eq_nil_iff.mpr fun c hm => inserted_aside c (h c hm)

/-- Whatever the step saw, it leaves results and verdicts as they are. -/
def LeavesAside (label : Statement) (act : DbSession → DbSession) : Prop :=
  label ≠ .runFailure ∧ ∀ w s,
    (act (committedPart.install w s)).committed.evaluationResults = w.evaluationResults ∧
      (act (committedPart.install w s)).committed.runFailures = w.runFailures

theorem leavesAside_of_quiet (act : DbSession → DbSession) (h : Quiet committedPart act) :
    LeavesAside .read act := by
  refine ⟨nofun, fun w s => ?_⟩
  have hcommitted : (act (committedPart.install w s)).committed = w :=
    h (committedPart.install w s)
  rw [hcommitted]
  exact ⟨rfl, rfl⟩

section Calls
variable (db : Database) (runId : String) (i : ι)

theorem aside_of_each {α : Type} (t t' : SessionThread α) (s s' : DbSession)
    (steps : List (StoreCommit ι)) (ht : t.Each LeavesAside)
    (h : Walk committedPart i t s steps t' s') : ∀ c ∈ steps, Aside c := by
  intro c hm
  obtain ⟨act, u, ⟨hlabel, hkept⟩, hc⟩ := walk_each committedPart i LeavesAside t t' s s' steps ht h c hm
  obtain ⟨hresults, hfailures⟩ := hkept c.before u
  refine ⟨hlabel, ?_, ?_⟩
  · rw [hc]
    exact hresults
  · rw [hc]
    exact hfailures

theorem evaluationRunViewThread_aside : (evaluationRunViewThread db runId).Each LeavesAside := by
  have hordered {α : Type} (f : Plan db.collation → Store → α) :
      (Thread.atomic .read (readOrdered db f)).Each LeavesAside :=
    Thread.each_atomic _ _ _ (leavesAside_of_quiet _ fun s => quiet_read db _ s)
  apply Thread.each_bind
  · exact Thread.each_atomic _ _ _ (leavesAside_of_quiet _ fun s => quiet_read db _ s)
  intro run
  cases run with
  | none => exact .done _
  | some run =>
    apply Thread.each_bind _ _ _ (hordered _)
    intro spans
    apply Thread.each_bind _ _ _ (hordered _)
    intro toolCalls
    apply Thread.each_bind _ _ _ (hordered _)
    intro llmCalls
    apply Thread.each_bind _ _ _ (.done _)
    exact fun _ => .done _

theorem persistJudgeCallsThread_aside (evaluator : Evaluator) (succeeded : Bool)
    (calls : List (JudgeCallResult Unit)) :
    (persistJudgeCallsThread db runId evaluator succeeded calls).Each LeavesAside := by
  induction calls with
  | nil => exact .done _
  | cons call calls ih =>
    apply Thread.each_bind
    · apply Thread.each_atomic
      refine ⟨nofun, fun w s => ?_⟩
      have hsound := sound_tryJudgeCall (fun store => store.evaluationResults = w.evaluationResults ∧
        store.runFailures = w.runFailures) db runId evaluator call succeeded
        fun _ _ _ h _ => h
      exact (hsound (committedPart.install w s) ⟨⟨rfl, rfl⟩, fun _ => ⟨rfl, rfl⟩⟩).1
    intro failure
    apply Thread.each_bind _ _ _ ih
    exact fun _ => .done _

/-- A result row is inserted on top of the stored ones. -/
theorem persistEvaluationResult_walk (regressionRunId : Option ℕ)
    (evaluated : Evaluator × Evaluated) (s u : DbSession) (steps : List (StoreCommit ι))
    (returned : Option Db.EvaluationResult)
    (h : Walk committedPart i (.atomic .evaluationResult (persistEvaluationResult db runId
      evaluated.1.name evaluated.1.version evaluated.2.status (some evaluated.2.result)
      regressionRunId)) s steps (.done (.ok returned)) u) :
    ∃ w n, steps = [⟨i, .evaluationResult, w,
      recordResult runId regressionRunId evaluated (db.clock n) w⟩] := by
  obtain ⟨w, rfl, hr⟩ := walk_atomic committedPart i _ _ s u steps returned h
  obtain ⟨hpublished, n, _, hview⟩ := ends_returns _ _ u returned _ _
    (persistEvaluationResult_ends db runId regressionRunId evaluated (committedPart.install w s)) hr
  rw [view_install] at hview
  refine ⟨w, n, ?_⟩
  rw [commitOf, after_ok _ _ u returned hr, ← hview, hpublished]
  rfl

theorem persistRunFailure_walk (classification : RunFailureResult) (s u : DbSession)
    (steps : List (StoreCommit ι)) (returned : RunFailure)
    (h : Walk committedPart i (.atomic .runFailure (persistRunFailure db runId classification)) s
      steps (.done (.ok returned)) u) :
    ∃ w n, steps = [⟨i, .runFailure, w,
      upsertRunFailure (runFailureValues runId classification (db.clock n)) w⟩] := by
  obtain ⟨w, rfl, hr⟩ := walk_atomic committedPart i _ _ s u steps returned h
  obtain ⟨_, hpublished, n, hview⟩ := ends_returns _ _ u returned _ _
    (persistRunFailure_ends db runId classification (committedPart.install w s)) hr
  rw [view_install] at hview
  refine ⟨w, n, ?_⟩
  rw [commitOf, after_ok _ _ u returned hr, ← hview, hpublished]
  rfl

/-- A step that appends one result under the next id, or none. -/
def Appends (c : StoreCommit ι) : Prop :=
  c.after.evaluationResults = c.before.evaluationResults ∨
    ∃ row, row.id = c.before.evaluationResults.length + 1 ∧
      c.after.evaluationResults = c.before.evaluationResults ++ [row]

omit db i in
theorem appends_inserted (c : StoreCommit ι) (h : Appends c) :
    c.after.evaluationResults = c.before.evaluationResults ++ inserted c := by
  rcases h with h | ⟨row, _, h⟩
  · rw [inserted, h, List.drop_length, List.append_nil]
  · rw [inserted, h, List.drop_left]

/-- The results of an evaluation are inserted in order, and nothing else is written but
judge calls. -/
structure ResultsInserted (regressionRunId : Option ℕ) (evaluated : List (Evaluator × Evaluated))
    (steps : List (StoreCommit ι)) : Prop where
  rows : List.Forall₂ (RecordOf db runId regressionRunId 0) evaluated (steps.flatMap inserted)
  appends : ∀ c ∈ steps, Appends c
  labels : ∀ c ∈ steps, c.label ≠ .runFailure
  failures : ∀ c ∈ steps, c.after.runFailures = c.before.runFailures

omit i in
theorem resultsInserted_aside (steps : List (StoreCommit ι)) (regressionRunId : Option ℕ)
    (h : ∀ c ∈ steps, Aside c) : ResultsInserted db runId regressionRunId [] steps where
  rows := by
    rw [flatMap_aside steps h]
    exact .nil
  appends := fun c hm => .inl (h c hm).results
  labels := fun c hm => (h c hm).label
  failures := fun c hm => (h c hm).failures

omit i in
theorem resultsInserted_append (regressionRunId : Option ℕ)
    (evaluated evaluated' : List (Evaluator × Evaluated)) (steps steps' : List (StoreCommit ι))
    (h : ResultsInserted db runId regressionRunId evaluated steps)
    (h' : ResultsInserted db runId regressionRunId evaluated' steps') :
    ResultsInserted db runId regressionRunId (evaluated ++ evaluated') (steps ++ steps') where
  rows := by
    rw [List.flatMap_append]
    exact List.rel_append h.rows h'.rows
  appends := List.forall_mem_append.mpr ⟨h.appends, h'.appends⟩
  labels := List.forall_mem_append.mpr ⟨h.labels, h'.labels⟩
  failures := List.forall_mem_append.mpr ⟨h.failures, h'.failures⟩

theorem resultsInserted_one (regressionRunId : Option ℕ) (evaluated : Evaluator × Evaluated)
    (w : Store) (n : ℕ) :
    ResultsInserted db runId regressionRunId [evaluated]
      [⟨i, .evaluationResult, w, recordResult runId regressionRunId evaluated (db.clock n) w⟩] where
  rows := by
    have hinserted : inserted (⟨i, .evaluationResult, w,
        recordResult runId regressionRunId evaluated (db.clock n) w⟩ : StoreCommit ι) =
        [evaluationResultRecord runId evaluated.1.name evaluated.1.version evaluated.2.status
          (some evaluated.2.result) regressionRunId (db.clock n) (w.evaluationResults.length + 1)] :=
      List.drop_left
    rw [List.flatMap_singleton, hinserted]
    exact .cons ⟨n, _, Nat.succ_pos _, rfl⟩ .nil
  appends := by
    intro c hm
    rw [List.mem_singleton.mp hm]
    exact .inr ⟨_, rfl, rfl⟩
  labels := by
    intro c hm
    rw [List.mem_singleton.mp hm]
    exact nofun
  failures := by
    intro c hm
    rw [List.mem_singleton.mp hm]
    rfl

theorem evaluateEachThread_walk (environment : JudgeEnvironment) (run : EvaluationRunView)
    (regressionRunId : Option ℕ) (position : ℕ) (judgeClient : Option JudgeClient)
    (evaluators : List Evaluator) (s u : DbSession) (steps : List (StoreCommit ι))
    (returned : List EvaluatorOutcome × List Error)
    (h : Walk committedPart i (evaluateEachThread db environment run runId regressionRunId position
      judgeClient evaluators) s steps (.done (.ok returned)) u) :
    ResultsInserted db runId regressionRunId
        (evaluatedOf environment run position judgeClient evaluators) steps ∧
      returned.1 = outcomesOf environment run position judgeClient evaluators := by
  induction evaluators generalizing position judgeClient s u steps returned with
  | nil =>
    obtain ⟨rfl, hreturned, _⟩ := walk_done committedPart i _ _ u steps _ h
    cases hreturned
    exact ⟨resultsInserted_aside db runId [] regressionRunId fun _ hm => absurd hm List.not_mem_nil,
      rfl⟩
  | cons evaluator evaluators ih =>
    obtain ⟨first, later, _, s1, rfl, hfirst, hlater⟩ := walk_bind committedPart i _ _ s u steps _ h
    obtain ⟨calls, rest, failures, s2, rfl, hcalls, hrest⟩ :=
      walk_bind committedPart i _ _ s1 u later _ hlater
    obtain ⟨tail, last, others, s3, rfl, htail, hlast⟩ :=
      walk_bind committedPart i _ _ s2 u rest _ hrest
    obtain ⟨rfl, hreturned, _⟩ := walk_done committedPart i _ _ u last _ hlast
    cases hreturned
    obtain ⟨w, n, rfl⟩ := persistEvaluationResult_walk db runId i regressionRunId
      (evaluator, evaluateOne environment run position judgeClient evaluator) s s1 first _ hfirst
    have haside := aside_of_each i _ _ s1 s2 calls
      (persistJudgeCallsThread_aside db runId evaluator _ _) hcalls
    obtain ⟨htailInserted, houtcomes⟩ := ih _ _ s2 s3 tail others htail
    have hone := resultsInserted_one db runId i regressionRunId
      (evaluator, evaluateOne environment run position judgeClient evaluator) w n
    have hmore := resultsInserted_append db runId regressionRunId [] _ calls tail
      (resultsInserted_aside db runId calls regressionRunId haside) htailInserted
    refine ⟨?_, by rw [outcomesOf, houtcomes]⟩
    rw [List.append_nil]
    exact resultsInserted_append db runId regressionRunId [_] _ _ _ hone hmore

/-- A call that returned inserted the results of its view, then wrote their verdict. -/
def CallSteps (environment : JudgeEnvironment) (evaluators : List Evaluator)
    (view : EvaluationRunView) (steps : List (StoreCommit ι)) : Prop :=
  ∃ inserts regressionRunId w n,
    steps = inserts ++ [⟨i, .runFailure, w, upsertRunFailure (runFailureValues runId
      (classify (outcomesOf environment view 0 none evaluators)) (db.clock n)) w⟩] ∧
    ResultsInserted db runId regressionRunId (evaluatedOf environment view 0 none evaluators) inserts

theorem runEvaluationThread_walk (environment : JudgeEnvironment) (evaluators : List Evaluator)
    (s u : DbSession) (steps : List (StoreCommit ι)) (response : EvaluationTriggerResponse)
    (h : Walk committedPart i (runEvaluationThread db environment evaluators runId) s steps
      (.done (.ok response)) u) :
    ∃ view, CallSteps db runId i environment evaluators view steps := by
  obtain ⟨reads, rest, found, s1, rfl, hreads, hrest⟩ := walk_bind committedPart i _ _ s u steps _ h
  have hreadsAside := aside_of_each i _ _ s s1 reads (evaluationRunViewThread_aside db runId) hreads
  cases found with
  | none =>
    cases (walk_done committedPart i _ _ u rest _ hrest).2.1
  | some view =>
    obtain ⟨linked, rest, regressionRunId, s2, rfl, hlinked, hrest⟩ :=
      walk_bind committedPart i _ _ s1 u rest _ hrest
    have hlinkedAside := aside_of_each i _ _ s1 s2 linked
      (Thread.each_atomic _ _ _ (leavesAside_of_quiet _ (quiet_read db _))) hlinked
    obtain ⟨timed, rest, evaluatedAt, s3, rfl, htimed, hrest⟩ :=
      walk_bind committedPart i _ _ s2 u rest _ hrest
    have htimedAside := aside_of_each i _ _ s2 s3 timed
      (Thread.each_atomic _ _ _ (leavesAside_of_quiet _ fun _ => rfl)) htimed
    obtain ⟨results, rest, returned, s4, rfl, hresults, hrest⟩ :=
      walk_bind committedPart i _ _ s3 u rest _ hrest
    obtain ⟨hinserted, houtcomes⟩ := evaluateEachThread_walk db runId i environment view
      regressionRunId 0 none evaluators s3 s4 results returned hresults
    obtain ⟨verdict, last, failure, s5, rfl, hverdict, hlast⟩ :=
      walk_bind committedPart i _ _ s4 u rest _ hrest
    obtain ⟨w, n, rfl⟩ := persistRunFailure_walk db runId i (classify returned.1) s4 s5 verdict
      failure hverdict
    have hended : last = [] := by
      cases hfailures : returned.2 with
      | nil =>
        simp only [hfailures] at hlast
        exact (walk_done committedPart i _ _ u last _ hlast).1
      | cons e es =>
        simp only [hfailures] at hlast
        cases (walk_done committedPart i _ _ u last _ hlast).2.1
    subst hended
    have haside : ∀ c ∈ reads ++ (linked ++ timed), Aside c :=
      List.forall_mem_append.mpr ⟨hreadsAside, List.forall_mem_append.mpr ⟨hlinkedAside, htimedAside⟩⟩
    refine ⟨view, reads ++ (linked ++ timed) ++ results, regressionRunId, w, n, ?_, ?_⟩
    · rw [← houtcomes]
      simp only [List.append_assoc, List.append_nil]
    · exact resultsInserted_append db runId regressionRunId [] _ _ results
        (resultsInserted_aside db runId _ regressionRunId haside) hinserted

section Steps
variable (environment : JudgeEnvironment) (evaluators : List Evaluator) (view : EvaluationRunView)
  (steps : List (StoreCommit ι)) (h : CallSteps db runId i environment evaluators view steps)
include h

theorem callSteps_appends : ∀ c ∈ steps, Appends c := by
  obtain ⟨inserts, regressionRunId, w, n, rfl, hinserts⟩ := h
  refine List.forall_mem_append.mpr ⟨hinserts.appends, ?_⟩
  intro c hm
  rw [List.mem_singleton.mp hm]
  exact .inl rfl

theorem callSteps_kept : ∀ c ∈ steps, c.label ≠ .runFailure →
    c.after.runFailures = c.before.runFailures := by
  obtain ⟨inserts, regressionRunId, w, n, rfl, hinserts⟩ := h
  intro c hm hlabel
  rcases List.mem_append.mp hm with hm | hm
  · exact hinserts.failures c hm
  · rw [List.mem_singleton.mp hm] at hlabel
    exact absurd rfl hlabel

theorem callSteps_verdict : ∀ c ∈ steps, c.label = .runFailure → ∃ now,
    c.after = upsertRunFailure (runFailureValues runId
      (classify (outcomesOf environment view 0 none evaluators)) now) c.before := by
  obtain ⟨inserts, regressionRunId, w, n, rfl, hinserts⟩ := h
  intro c hm hlabel
  rcases List.mem_append.mp hm with hm | hm
  · exact absurd hlabel (hinserts.labels c hm)
  · rw [List.mem_singleton.mp hm]
    exact ⟨_, rfl⟩

theorem callSteps_ends : ∃ c ∈ steps, c.label = .runFailure := by
  obtain ⟨inserts, regressionRunId, w, n, rfl, _⟩ := h
  exact ⟨_, List.mem_append_right _ List.mem_cons_self, rfl⟩

theorem callSteps_rows : ∃ regressionRunId,
    List.Forall₂ (RecordOf db runId regressionRunId 0)
      (evaluatedOf environment view 0 none evaluators) (steps.flatMap inserted) := by
  obtain ⟨inserts, regressionRunId, w, n, rfl, hinserts⟩ := h
  have hverdict : inserted (⟨i, .runFailure, w, upsertRunFailure (runFailureValues runId
      (classify (outcomesOf environment view 0 none evaluators)) (db.clock n)) w⟩ :
        StoreCommit ι) = [] := List.drop_length
  refine ⟨regressionRunId, ?_⟩
  rw [List.flatMap_append, List.flatMap_singleton, hverdict, List.append_nil]
  exact hinserts.rows

end Steps

end Calls

/-! ### What the run detail shows -/

theorem classify_of_mem_iff (a b : List EvaluatorOutcome) (h : ∀ outcome, outcome ∈ a ↔ outcome ∈ b) :
    classify a = classify b := by
  apply classify_congr
  · have hany (p : EvaluatorOutcome → Bool) : a.any p = b.any p := by
      rw [Bool.eq_iff_iff]
      simp only [List.any_eq_true, h]
    unfold overallStatus
    rw [hany, hany]
  · intro failureType
    simp only [detectedFailureTypes, List.mem_map, List.mem_flatMap, List.mem_filter, h]

/-- Every evaluator with results has a latest one. -/
theorem exists_latest (runId : String) (store : Store) (row : Db.EvaluationResult)
    (hm : row ∈ store.evaluationResults) (hrun : row.runId = runId) :
    ∃ latest ∈ latestEvaluationResults runId store, latest.evaluatorName = row.evaluatorName := by
  let rows := store.evaluationResults.filter fun other => other.runId = runId
  let named := rows.filter fun other => other.evaluatorName = row.evaluatorName
  let stamp (other : Db.EvaluationResult) : ℤ ×ₗ ℕ := toLex (other.createdAt, other.id)
  have hrow : row ∈ named := by
    simp only [named, rows, List.mem_filter, hm, hrun, decide_true, and_self]
  cases hlatest : named.argmax stamp with
  | none =>
    rw [List.argmax_eq_none.mp hlatest] at hrow
    exact absurd hrow List.not_mem_nil
  | some latest =>
    obtain ⟨hrows, hname⟩ := List.mem_filter.mp (List.argmax_mem hlatest)
    refine ⟨latest, List.mem_filter.mpr ⟨hrows, ?_⟩, of_decide_eq_true hname⟩
    apply List.all_eq_true.mpr
    intro other hother
    apply decide_eq_true
    by_cases hsame : other.evaluatorName = latest.evaluatorName
    · have hnamed : other ∈ named :=
        List.mem_filter.mpr ⟨hother, decide_eq_true (hsame.trans (of_decide_eq_true hname))⟩
      have hle := List.le_of_mem_argmax hnamed hlatest
      rcases (Prod.Lex.toLex_le_toLex.mp hle) with hlt | ⟨heq, hid⟩
      · exact .inr (.inl hlt)
      · exact .inr (.inr ⟨heq, hid⟩)
    · exact .inl hsame

theorem assembleDetail_shows (run : AgentRun) (spans : List Db.Span) (toolCalls : List Db.ToolCall)
    (llmCalls : List Db.LLMCall) (failure : Option RunFailure)
    (summary : List EvaluatorResultSummary) (detail : RunDetailResponse)
    (h : assembleDetail run spans toolCalls llmCalls failure summary = .ok detail) :
    detail.failure = failure.map runFailureSummary ∧ detail.evaluationSummary.getD [] = summary := by
  unfold assembleDetail at h
  cases hspans : spans.mapM (spanResponse (spanNames spans)) with
  | error e =>
    simp only [hspans] at h
    cases h
  | ok spanResponses =>
    cases htools : toolCalls.mapM (toolCallResponse (spanNames spans)) with
    | error e =>
      simp only [hspans, htools] at h
      cases h
    | ok toolCallResponses =>
      cases hllms : (llmCalls.zipIdx 1).mapM (llmCallResponse (spanNames spans)) with
      | error e =>
        simp only [hspans, htools, hllms] at h
        cases h
      | ok llmCallResponses =>
        simp only [hspans, htools, hllms] at h
        cases h
        refine ⟨rfl, ?_⟩
        cases summary <;> rfl

/-- The verdict and the results that a run detail reads. -/
theorem getRun_returns (reader : Database) (runId : String) (store : Store) (v t : DbSession)
    (hv : v.view = store) (detail : RunDetailResponse) (h : getRun reader runId v = .ok detail t) :
    detail.failure = (store.runFailures.find? runId).map runFailureSummary ∧
      ∃ rows : List Db.EvaluationResult, rows.Perm (latestEvaluationResults runId store) ∧
        detail.evaluationSummary.getD [] = rows.map evaluatorResultSummary := by
  obtain ⟨found, s1, hselect, h⟩ := (bind_returns _ _ v t detail).mp h
  obtain ⟨_, h1⟩ := ends_returns _ _ s1 found _ _ (delivers_read_of reader _ store v hv) hselect
  cases found with
  | none => cases h
  | some run =>
    obtain ⟨spans, s2, hspans, h⟩ := (bind_returns _ _ s1 t detail).mp h
    obtain ⟨_, _, h2⟩ := ends_returns _ _ s2 spans _ _
      (delivers_ordered reader Plan.spans _ store s1 h1) hspans
    obtain ⟨toolCalls, s3, htools, h⟩ := (bind_returns _ _ s2 t detail).mp h
    obtain ⟨_, _, h3⟩ := ends_returns _ _ s3 toolCalls _ _
      (delivers_ordered reader Plan.toolCalls _ store s2 h2) htools
    obtain ⟨llmCalls, s4, hllms, h⟩ := (bind_returns _ _ s3 t detail).mp h
    obtain ⟨_, _, h4⟩ := ends_returns _ _ s4 llmCalls _ _
      (delivers_ordered reader Plan.llmCalls _ store s3 h3) hllms
    obtain ⟨failure, s5, hfailure, h⟩ := (bind_returns _ _ s4 t detail).mp h
    obtain ⟨rfl, rfl⟩ := ends_returns _ _ s5 failure _ _ (delivers_read reader _ s4) hfailure
    obtain ⟨summary, s6, hsummary, h⟩ := (bind_returns _ _ _ t detail).mp h
    obtain ⟨rows, s7, hrows, hmapped⟩ := (bind_returns _ _ _ s6 summary).mp hsummary
    obtain ⟨hperm, _, _⟩ := ends_returns _ _ s7 rows _ _
      (delivers_ordered reader Plan.evaluationResults (latestEvaluationResults runId) store
        (s4.spoken s4.view) h4) hrows
    cases hmapped
    cases hassembled : assembleDetail run spans toolCalls llmCalls (s4.view.runFailures.find? runId)
        (rows.map evaluatorResultSummary) with
    | error e =>
      rw [hassembled] at h
      cases h
    | ok shown =>
      rw [hassembled] at h
      cases h
      obtain ⟨hverdict, hresults⟩ := assembleDetail_shows run spans toolCalls llmCalls _ _ _ hassembled
      rw [h4] at hverdict
      exact ⟨hverdict, rows, hperm, hresults⟩

/-- The verdict shown is the classification of the results shown beside it. -/
def VerdictAgrees (runId : String) (store : Store) : Prop :=
  ∀ (reader : Database) (v t : DbSession) (detail : RunDetailResponse), v.view = store →
    getRun reader runId v = .ok detail t →
      ∃ failure, detail.failure = some failure ∧
        classify ((detail.evaluationSummary.getD []).map summaryOutcome) =
          ⟨failure.overallStatus, failure.primaryFailureType, failure.secondaryFailureType,
            failure.maxSeverity⟩

/-! ### Ids in the order of the inserts -/

/-- Result ids ascend, and the next one is free. -/
def Numbered (rows : List Db.EvaluationResult) : Prop :=
  (∀ row ∈ rows, row.id ≤ rows.length) ∧ rows.Pairwise fun a b => a.id < b.id

theorem numbered_append (rows : List Db.EvaluationResult) (row : Db.EvaluationResult)
    (h : Numbered rows) (hrow : row.id = rows.length + 1) : Numbered (rows ++ [row]) := by
  obtain ⟨hbound, hascend⟩ := h
  constructor
  · intro other hm
    rw [List.length_append, List.length_singleton]
    rcases List.mem_append.mp hm with hm | hm
    · have hle := hbound other hm
      omega
    · rw [List.mem_singleton.mp hm]
      omega
  · rw [List.pairwise_append]
    refine ⟨hascend, List.pairwise_singleton _ _, ?_⟩
    intro a ha b hb
    have hle := hbound a ha
    rw [List.mem_singleton.mp hb]
    omega

theorem stored_numbered (store : Store) (h : Stored store) : Numbered store.evaluationResults := by
  induction h with
  | empty => exact ⟨fun _ hm => absurd hm List.not_mem_nil, List.Pairwise.nil⟩
  | request store _ db request ih =>
    have hwrites : ∀ runId, WritesKeep (fun store => Numbered store.evaluationResults) db runId := by
      intro runId
      refine ⟨?_, fun _ _ _ _ _ _ h => h⟩
      intro _ _ _ _ _ n store h
      exact numbered_append store.evaluationResults _ h rfl
    have hserve := sound_serve_results (fun store => Numbered store.evaluationResults) db
      (fun _ _ he h => he ▸ h) hwrites request
    exact (hserve (Session.fresh store) (sound_fresh _ store ih)).1
  | regressionRuns store _ regressionRuns ih => exact ih

/-! ### Calls beside each other -/

section Pool
variable [DecidableEq ι] (db : ι → Database) (environment : ι → JudgeEnvironment)
  (evaluators : ι → List Evaluator) (runId : String) (store : Store)

abbrev EvaluationPool (ι : Type) :=
  Pool ι Statement Store Error DbSession EvaluationTriggerResponse

/- Every call has a session of its own. -/
def evaluationPool : EvaluationPool ι where
  shared := store
  sessions := fun _ => Session.fresh store
  threads := fun i => runEvaluationThread (db i) (environment i) (evaluators i) runId

def SnapshotCommits (store store' : Store) : Prop := ∃ event, IngestionCommits event store store'

/-- A snapshot leaves what evaluations write. -/
theorem snapshot_keeps (store store' : Store) (h : SnapshotCommits store store') :
    store'.evaluationResults = store.evaluationResults ∧
      store'.runFailures = store.runFailures := by
  obtain ⟨event, hcommits⟩ := h
  obtain ⟨now, hingested⟩ := commits_ingested event store store' hcommits
  exact ⟨hingested.evaluationResults, hingested.runFailures⟩

/-- The last verdict in the history is that of this call. -/
def VerdictLast (history : List (StoreCommit ι)) (last : ι) : Prop :=
  ∃ earlier c later, history = earlier ++ c :: later ∧ c.who = last ∧ c.label = .runFailure ∧
    ∀ d ∈ later, d.label ≠ .runFailure

/-- The row was inserted by this call. -/
def InsertedBy (history : List (StoreCommit ι)) (last : ι) (row : Db.EvaluationResult) : Prop :=
  row ∈ (stepsOf history last).flatMap inserted

/-- No other call inserts a result once this one has begun to. -/
def InsertsLast (history : List (StoreCommit ι)) (last : ι) : Prop :=
  ∃ earlier later, history = earlier ++ later ∧
    (∀ c ∈ earlier, c.who = last → inserted c = []) ∧
    ∀ c ∈ later, c.who ≠ last → inserted c = []

variable (history : List (StoreCommit ι)) (u : EvaluationPool ι)
  (h : Plays committedPart SnapshotCommits (evaluationPool db environment evaluators runId store)
    history u)
  (hdone : ∀ i, ∃ response, u.threads i = .done (.ok response))
include h hdone

theorem calls_steps (i : ι) :
    ∃ view, CallSteps (db i) runId i (environment i) (evaluators i) view (stepsOf history i) := by
  obtain ⟨response, hresponse⟩ := hdone i
  have hwalk := plays_walk committedPart SnapshotCommits _ history u h i
  rw [hresponse] at hwalk
  exact runEvaluationThread_walk (db i) runId i (environment i) (evaluators i) _ _ _ response hwalk

/-- A step of the history is one of the call that took it. -/
theorem step_of_call (c : StoreCommit ι) (hm : c ∈ history) :
    ∃ view, CallSteps (db c.who) runId c.who (environment c.who) (evaluators c.who) view
      (stepsOf history c.who) ∧ c ∈ stepsOf history c.who := by
  obtain ⟨view, hsteps⟩ := calls_steps db environment evaluators runId store history u h hdone c.who
  exact ⟨view, hsteps, (mem_stepsOf history c.who c).mpr ⟨hm, rfl⟩⟩

theorem history_appends : ∀ c ∈ history, Appends c := by
  intro c hm
  obtain ⟨view, hsteps, hstep⟩ :=
    step_of_call db environment evaluators runId store history u h hdone c hm
  exact callSteps_appends (db c.who) runId c.who _ _ view _ hsteps c hstep

theorem pool_results :
    u.shared.evaluationResults = store.evaluationResults ++ history.flatMap inserted := by
  have happends := history_appends db environment evaluators runId store history u h hdone
  refine plays_induction committedPart SnapshotCommits _
    (fun earlier w => w.evaluationResults = store.evaluationResults ++ earlier.flatMap inserted)
    ?_ history u ?_ ?_ h
  · rw [List.flatMap_nil, List.append_nil]
    rfl
  · intro earlier c hm hbefore
    rw [appends_inserted c (happends c hm), hbefore, List.flatMap_append, List.flatMap_singleton,
      List.append_assoc]
  · intro earlier w w' hcommits hw
    rw [(snapshot_keeps w w' hcommits).1, hw]

/-- The stored verdict is the one written last. -/
theorem verdict_stored (last : ι) (hlast : VerdictLast history last) (view : EvaluationRunView)
    (hview : CallSteps (db last) runId last (environment last) (evaluators last) view
      (stepsOf history last)) :
    ∃ failure, u.shared.runFailures.find? runId = some failure ∧
      classify (outcomesOf (environment last) view 0 none (evaluators last)) =
        ⟨failure.overallStatus, failure.primaryCategory, failure.secondaryCategory,
          failure.maxSeverity⟩ := by
  have hkept : ∀ c ∈ history, c.label ≠ .runFailure →
      c.after.runFailures = c.before.runFailures := by
    intro c hm
    obtain ⟨view, hsteps, hstep⟩ :=
      step_of_call db environment evaluators runId store history u h hdone c hm
    exact callSteps_kept (db c.who) runId c.who _ _ view _ hsteps c hstep
  obtain ⟨earlier, c, later, hhistory, hwho, hlabel, hlater⟩ := hlast
  have hc : c ∈ history := by
    rw [hhistory]
    exact List.mem_append_right _ List.mem_cons_self
  have hstored := plays_induction committedPart SnapshotCommits _
    (fun steps w => ∀ later, steps = earlier ++ c :: later →
      (∀ d ∈ later, d.label ≠ .runFailure) → w.runFailures = c.after.runFailures)
    ?_ history u ?_ ?_ h later hhistory hlater
  · obtain ⟨now, hverdict⟩ := callSteps_verdict (db last) runId last _ _ view _ hview c
      ((mem_stepsOf history last c).mpr ⟨hc, hwho⟩) hlabel
    obtain ⟨failure, hfailure, hclassified⟩ := upsertRunFailure_classified runId
      (classify (outcomesOf (environment last) view 0 none (evaluators last))) now c.before
    refine ⟨failure, ?_, hclassified⟩
    rw [hstored, hverdict]
    exact hfailure
  · intro later hnil _
    exact absurd hnil.symm (List.append_ne_nil_of_right_ne_nil _ (List.cons_ne_nil _ _))
  · intro steps d hm hbefore later hsteps hnone
    rcases List.eq_nil_or_concat later with rfl | ⟨later, e, rfl⟩
    · obtain ⟨_, hd⟩ := List.append_inj' hsteps rfl
      rw [List.singleton_inj.mp hd]
    · have hsplit : steps ++ [d] = (earlier ++ c :: later) ++ [e] := by
        rw [hsteps, List.concat_eq_append, List.append_assoc, List.cons_append]
      obtain ⟨hrest, hd⟩ := List.append_inj' hsplit rfl
      rw [List.singleton_inj.mp hd] at hm ⊢
      have hlabel := hnone e (by rw [List.concat_eq_append]; exact List.mem_append_right _ List.mem_cons_self)
      rw [hkept e hm hlabel, ← List.singleton_inj.mp hd]
      exact hbefore later hrest fun x hx =>
        hnone x (by rw [List.concat_eq_append]; exact List.mem_append_left _ hx)
  · intro steps w w' hcommits hw later hsteps hnone
    rw [(snapshot_keeps w w' hcommits).2, hw later hsteps hnone]

theorem verdict_exists [Nonempty ι] : ∃ last, VerdictLast history last := by
  obtain ⟨i⟩ := ‹Nonempty ι›
  obtain ⟨view, hsteps⟩ := calls_steps db environment evaluators runId store history u h hdone i
  obtain ⟨c, hm, hlabel⟩ := callSteps_ends (db i) runId i _ _ view _ hsteps
  obtain ⟨earlier, last, later, hhistory, hverdict, hlater⟩ :=
    exists_last (fun c => c.label = .runFailure) history
      ⟨c, ((mem_stepsOf history i c).mp hm).1, hlabel⟩
  exact ⟨last.who, earlier, last, later, hhistory, rfl, hverdict, hlater⟩

theorem pool_numbered (hstored : Stored store) : Numbered u.shared.evaluationResults := by
  have happends := history_appends db environment evaluators runId store history u h hdone
  refine plays_induction committedPart SnapshotCommits _
    (fun _ w => Numbered w.evaluationResults) (stored_numbered store hstored) history u ?_ ?_ h
  · intro earlier c hm hbefore
    rcases happends c hm with hsame | ⟨row, hrow, hafter⟩
    · rw [hsame]
      exact hbefore
    · rw [hafter]
      exact numbered_append _ row hbefore hrow
  · intro earlier w w' hcommits hw
    rw [(snapshot_keeps w w' hcommits).1]
    exact hw

section Last
variable (last : ι) (hlast : VerdictLast history last)
  (hnames : ((evaluators last).map Evaluator.name).Nodup)

include hlast hnames in
/-- The verdict written last agrees with the rows shown when its call inserted them all. -/
theorem verdict_agrees
    (hshown : ∀ row ∈ latestEvaluationResults runId u.shared, InsertedBy history last row) :
    VerdictAgrees runId u.shared := by
  obtain ⟨view, hview⟩ := calls_steps db environment evaluators runId store history u h hdone last
  obtain ⟨failure, hfailure, hclassified⟩ :=
    verdict_stored db environment evaluators runId store history u h hdone last hlast view hview
  obtain ⟨regressionRunId, hrows⟩ := callSteps_rows (db last) runId last _ _ view _ hview
  generalize hinserted : (stepsOf history last).flatMap inserted = rows at hrows
  have hrowNames := record_names (db last) runId regressionRunId 0 _ rows hrows
  rw [evaluatedOf_evaluators] at hrowNames
  have hwritten := record_written (db last) runId regressionRunId 0 _ rows hrows
  have hlatest : ∀ row, row ∈ latestEvaluationResults runId u.shared ↔ row ∈ rows := by
    intro row
    constructor
    · intro hm
      have hby := hshown row hm
      rw [InsertedBy, hinserted] at hby
      exact hby
    · intro hm
      have hstored : row ∈ u.shared.evaluationResults := by
        rw [pool_results db environment evaluators runId store history u h hdone]
        rw [← hinserted] at hm
        obtain ⟨c, hc, hrow⟩ := List.mem_flatMap.mp hm
        exact List.mem_append_right _
          (List.mem_flatMap.mpr ⟨c, ((mem_stepsOf history last c).mp hc).1, hrow⟩)
      obtain ⟨latest, hlatest, hname⟩ := exists_latest runId u.shared row hstored (hwritten row hm).1
      have hby := hshown latest hlatest
      rw [InsertedBy, hinserted] at hby
      rw [List.inj_on_of_nodup_map (hrowNames ▸ hnames) hm hby hname.symm]
      exact hlatest
  intro reader v t detail hv hdetail
  obtain ⟨hverdict, shown, hperm, hsummary⟩ :=
    getRun_returns reader runId u.shared v t hv detail hdetail
  refine ⟨runFailureSummary failure, by rw [hverdict, hfailure]; rfl, ?_⟩
  have hsame : classify ((shown.map evaluatorResultSummary).map summaryOutcome) =
      classify ((rows.map evaluatorResultSummary).map summaryOutcome) := by
    apply classify_of_mem_iff
    intro outcome
    simp only [List.mem_map, hperm.mem_iff, hlatest]
  rw [hsummary, hsame, record_summary (db last) runId regressionRunId 0 _ rows hrows,
    evaluatedOf_outcomes, classify_summaries, hclassified]
  rfl

/-- Rows inserted last, on a clock that never goes back, are the ones shown. -/
theorem inserts_shown (hstored : Stored store) (hinserts : InsertsLast history last)
    (hclock : u.shared.evaluationResults.Pairwise fun a b => a.createdAt ≤ b.createdAt)
    (hcovered : ∀ row ∈ u.shared.evaluationResults, row.runId = runId →
      row.evaluatorName ∈ (evaluators last).map Evaluator.name) :
    ∀ row ∈ latestEvaluationResults runId u.shared, InsertedBy history last row := by
  have hresults := pool_results db environment evaluators runId store history u h hdone
  have hids := (pool_numbered db environment evaluators runId store history u h hdone hstored).2
  obtain ⟨view, hview⟩ := calls_steps db environment evaluators runId store history u h hdone last
  obtain ⟨regressionRunId, hrows⟩ := callSteps_rows (db last) runId last _ _ view _ hview
  obtain ⟨earlier, later, rfl, hearlier, hlater⟩ := hinserts
  have hown : (stepsOf (earlier ++ later) last).flatMap inserted = later.flatMap inserted := by
    have hnone : (stepsOf earlier last).flatMap inserted = [] := by
      apply List.flatMap_eq_nil_iff.mpr
      intro c hm
      obtain ⟨hc, hwho⟩ := (mem_stepsOf earlier last c).mp hm
      exact hearlier c hc hwho
    rw [stepsOf, List.filter_append, List.flatMap_append, ← stepsOf, ← stepsOf, hnone,
      stepsOf_flatMap inserted later last hlater, List.nil_append]
  rw [hown] at hrows
  have hrowNames := record_names (db last) runId regressionRunId 0 _ _ hrows
  rw [evaluatedOf_evaluators] at hrowNames
  have hwritten := record_written (db last) runId regressionRunId 0 _ _ hrows
  rw [List.flatMap_append, ← List.append_assoc] at hresults
  rw [hresults, List.pairwise_append] at hclock hids
  intro row hm
  rw [InsertedBy, hown]
  obtain ⟨hrun, hbest⟩ := List.mem_filter.mp hm
  obtain ⟨hrow, hrunId⟩ := List.mem_filter.mp hrun
  have hrunId := of_decide_eq_true hrunId
  have hname := hcovered row hrow hrunId
  rw [hresults] at hrow
  rcases List.mem_append.mp hrow with hold | hnew
  · rw [← hrowNames] at hname
    obtain ⟨newer, hnewer, hsame⟩ := List.mem_map.mp hname
    have hstored : newer ∈ u.shared.evaluationResults.filter fun other => other.runId = runId := by
      rw [hresults]
      exact List.mem_filter.mpr ⟨List.mem_append_right _ hnewer,
        decide_eq_true (hwritten newer hnewer).1⟩
    have hbeaten := of_decide_eq_true (List.all_eq_true.mp hbest newer hstored)
    have htime := hclock.2.2 row hold newer hnewer
    have hid := hids.2.2 row hold newer hnewer
    rcases hbeaten with hne | hlt | ⟨_, hle⟩
    · exact absurd hsame hne
    · exact absurd hlt (not_lt.mpr htime)
    · omega
  · exact hnew

end Last

/-- When every call has returned, one of them has written the verdict last. What the run
detail shows agrees with it where the same call inserted all rows shown, as it does when
no other call inserts once it has begun to. -/
theorem concurrent_evaluations_agree [Nonempty ι]
    (hnames : ∀ i, ((evaluators i).map Evaluator.name).Nodup) (hstored : Stored store) :
    (∃ last, VerdictLast history last) ∧
    ∀ last, VerdictLast history last →
      ((∀ row ∈ latestEvaluationResults runId u.shared, InsertedBy history last row) →
        VerdictAgrees runId u.shared) ∧
      (InsertsLast history last →
        (u.shared.evaluationResults.Pairwise fun a b => a.createdAt ≤ b.createdAt) →
        (∀ row ∈ u.shared.evaluationResults, row.runId = runId →
          row.evaluatorName ∈ (evaluators last).map Evaluator.name) →
        VerdictAgrees runId u.shared) := by
  have hexists := verdict_exists db environment evaluators runId store history u h hdone
  refine ⟨hexists, ?_⟩
  intro last hlast
  have hagrees := verdict_agrees db environment evaluators runId store history u h hdone last hlast
    (hnames last)
  refine ⟨hagrees, ?_⟩
  intro hinserts hclock hcovered
  exact hagrees (inserts_shown db environment evaluators runId store history u h hdone last hstored
    hinserts hclock hcovered)

end Pool

/-! ### Two calls and a new snapshot -/

def twoCalls : EvaluationPool Bool :=
  evaluationPool (fun _ => standingClock) (fun _ => noJudge) (fun _ => allEvaluators noLibraries)
    "run-1" readStore

/- A snapshot with another verdict is ingested. -/
def withFailure (w : EvaluationPool Bool) : EvaluationPool Bool :=
  { w with shared := served .plain (.ingest (errorEvent "run-1") (errorEvent_validated _)) w.shared }

theorem withFailure_commits (w : EvaluationPool Bool) :
    SnapshotCommits w.shared (withFailure w).shared :=
  ⟨errorEvent "run-1", served_commits _ (errorEvent_validated "run-1") w.shared rfl⟩

/- The calls with the snapshot in between, each following its part of the schedule. -/
def playedAround (first second : List Bool) : EvaluationPool Bool :=
  (withFailure (twoCalls.play committedPart first)).play committedPart second

def historyAround (first second : List Bool) : List (StoreCommit Bool) :=
  twoCalls.history committedPart first ++
    (withFailure (twoCalls.play committedPart first)).history committedPart second

theorem around_plays (first second : List Bool) :
    Plays committedPart SnapshotCommits twoCalls (historyAround first second)
      (playedAround first second) := by
  have hfirst := plays_play committedPart SnapshotCommits twoCalls [] twoCalls .start first
  exact plays_play committedPart SnapshotCommits twoCalls _ _
    (.strange _ _ _ hfirst (withFailure_commits _)) second

theorem returned_of_isSome {α : Type} (t : SessionThread α)
    (h : (t.result?.bind Except.toOption).isSome) : ∃ response, t = .done (.ok response) := by
  cases hresult : t.result? with
  | none =>
    rw [hresult] at h
    cases h
  | some result =>
    rw [hresult] at h
    cases result with
    | ok response => exact ⟨response, Thread.done_of_result? t _ hresult⟩
    | error e => cases h

/- One call after the other. -/
def serialPool : EvaluationPool Bool :=
  playedAround (List.replicate 14 false) (List.replicate 14 true)

def serialHistory : List (StoreCommit Bool) :=
  historyAround (List.replicate 14 false) (List.replicate 14 true)

theorem concurrent_evaluations_agree_serial : VerdictAgrees "run-1" serialPool.shared := by
  have hdone : ∀ i, ((serialPool.threads i).result?.bind Except.toOption).isSome := by
    decide +kernel
  have hclock : (serialPool.shared.evaluationResults.map Db.EvaluationResult.createdAt).Pairwise
      fun a b => a ≤ b := by decide +kernel
  have hnames : (serialPool.shared.evaluationResults.map Db.EvaluationResult.evaluatorName).all
      fun name => name ∈ (allEvaluators noLibraries).map Evaluator.name := by decide +kernel
  have hended : serialHistory.getLast?.map (fun c => (c.who, c.label)) =
      some (true, .runFailure) := by decide +kernel
  have hplays : Plays committedPart SnapshotCommits twoCalls serialHistory serialPool :=
    around_plays _ _
  have hstored : Stored readStore := .request _ .empty _ _
  have hinserts : InsertsLast serialHistory true := by
    refine ⟨_, _, rfl, ?_, ?_⟩
    · intro c hm hwho
      have hfirst := history_who committedPart _ twoCalls c hm
      rw [hwho] at hfirst
      exact absurd (List.eq_of_mem_replicate hfirst) nofun
    · intro c hm hwho
      exact absurd (List.eq_of_mem_replicate (history_who committedPart _ _ c hm)) hwho
  have hlast : VerdictLast serialHistory true := by
    obtain ⟨c, hc, hlabel⟩ := Option.map_eq_some_iff.mp hended
    obtain ⟨earlier, hhistory⟩ := List.getLast?_eq_some_iff.mp hc
    obtain ⟨hwho, hlabel⟩ := Prod.mk.inj hlabel
    exact ⟨earlier, c, [], hhistory, hwho, hlabel, fun _ hm => absurd hm List.not_mem_nil⟩
  generalize serialPool = u at *
  have hagree := concurrent_evaluations_agree (fun _ => standingClock) (fun _ => noJudge)
    (fun _ => allEvaluators noLibraries) "run-1" readStore serialHistory u hplays
    (fun i => returned_of_isSome _ (hdone i)) (fun _ => by decide) hstored
  apply (hagree.2 true hlast).2 hinserts (List.pairwise_map.mp hclock)
  intro row hm _
  exact of_decide_eq_true (List.all_eq_true.mp hnames _ (List.mem_map_of_mem hm))

/- A call that is overtaken before it writes its verdict. -/
def crossedPool : EvaluationPool Bool :=
  playedAround (List.replicate 13 false) (List.replicate 14 true ++ [false])

/- The verdict a run detail shows, and the one its results have. -/
def verdictsShown (detail : RunDetailResponse) :
    Option OverallEvaluationStatus × OverallEvaluationStatus :=
  (detail.failure.map RunFailureSummary.overallStatus,
    (classify ((detail.evaluationSummary.getD []).map summaryOutcome)).overallStatus)

/-- The overtaken call has the last word on a run whose results all pass. -/
theorem overtaken_verdict_stays :
    ∃ history, Plays committedPart SnapshotCommits twoCalls history crossedPool ∧
      (∀ i, ∃ response, crossedPool.threads i = .done (.ok response)) ∧
      ¬ VerdictAgrees "run-1" crossedPool.shared := by
  have hdone : ∀ i, ((crossedPool.threads i).result?.bind Except.toOption).isSome := by
    decide +kernel
  have hshown : (resultOf (getRun .plain "run-1") (Session.fresh crossedPool.shared)).map
      verdictsShown = .ok (some .fail, .pass) := by decide +kernel
  have hplays : Plays committedPart SnapshotCommits twoCalls
      (historyAround (List.replicate 13 false) (List.replicate 14 true ++ [false])) crossedPool :=
    around_plays _ _
  generalize crossedPool = u at hdone hshown hplays ⊢
  refine ⟨_, hplays, fun i => returned_of_isSome _ (hdone i), ?_⟩
  intro hagrees
  cases hr : getRun .plain "run-1" (Session.fresh u.shared) with
  | error e t =>
    rw [resultOf, hr] at hshown
    cases hshown
  | ok detail t =>
    rw [resultOf, hr] at hshown
    obtain ⟨failure, hfailure, hclassified⟩ := hagrees .plain _ t detail rfl hr
    simp only [Except.map, verdictsShown, hfailure, hclassified, Option.map_some, Except.ok.injEq,
      Prod.mk.injEq, Option.some.injEq] at hshown
    rw [hshown.1] at hshown
    cases hshown.2

end ObsPlatform.Platform
