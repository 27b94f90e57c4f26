import ObsPlatform.Db.Constraints
import ObsPlatform.Platform.Footprint
import ObsPlatform.Platform.Ownership
import ObsPlatform.Regressions.Runner

/-!
# Evaluating a run again

An evaluation appends results and never replaces them. Results of a live run have no
regression run id and so never clash; a linked run takes one result of each evaluator
version, and the server refuses the first one that is there already, whichever earlier
call left it and however that call ended.
-/

namespace ObsPlatform.Platform

open Telemetry Db UnitOfWork Evaluation Ingestion Stateful

/-- The store at any moment: after requests, each with a server of its own, between which
regression_runs rows appear and change. -/
inductive Stored : Store → Prop where
  | empty : Stored Store.empty
  | request (store : Store) (h : Stored store) (db : Database) (request : Request) :
      Stored (served db request store)
  | regressionRuns (store : Store) (h : Stored store) (regressionRuns : Table RegressionRun.id) :
      Stored { store with regressionRuns := regressionRuns }

theorem stored_referencesClosed (store : Store) (h : Stored store) : ReferencesClosed store := by
  induction h with
  | empty => exact referencesClosed_invariant.empty
  | request store _ db request ih =>
    exact (sound_serve _ db referencesClosed_invariant request (Session.fresh store)
      (sound_fresh _ store ih)).1
  | regressionRuns store _ regressionRuns ih =>
    exact ⟨fun runId => runClosed_congr store _ runId (ih.closed runId) rfl rfl rfl, ih.runs⟩

/-! ### The constraints an evaluation meets -/

section Insert
variable (record : ℕ → Db.EvaluationResult) (store : Store) (h : store.Consistent)
  (hrun : (record (store.evaluationResults.length + 1)).runId ∈ store.runIds)
  (hregression : ∀ k ∈ (record (store.evaluationResults.length + 1)).regressionRunId,
    k ∈ store.regressionRunIds)
include h hrun hregression

/-- No other constraint can be broken by a result of a stored run. -/
theorem insertEvaluationResult_holds (constraint : Constraint)
    (hother : constraint ≠ .evaluationResultsRunEvaluatorVersionRegression) :
    constraint.Holds (insertEvaluationResult record store) := by
  have hold := h constraint
  cases constraint
  case evaluationResultsRunEvaluatorVersionRegression => exact absurd rfl hother
  case evaluationResultsRunId =>
    apply (refersOn_append _ _ _ _).mpr
    refine ⟨hold, ?_⟩
    intro k hk
    cases hk
    exact hrun
  case evaluationResultsRegressionRunId =>
    exact (refersOn_append _ _ _ _).mpr ⟨hold, hregression⟩
  all_goals exact hold

theorem insertEvaluationResult_consistent :
    (insertEvaluationResult record store).Consistent ↔
      Unclashed Db.EvaluationResult.slot store.evaluationResults
        (record (store.evaluationResults.length + 1)) := by
  constructor
  · intro hinserted
    exact ((uniqueOn_append _ _ _).mp
      (hinserted .evaluationResultsRunEvaluatorVersionRegression)).2
  · intro hunclashed constraint
    by_cases hslot : constraint = .evaluationResultsRunEvaluatorVersionRegression
    · subst hslot
      exact (uniqueOn_append _ _ _).mpr ⟨h .evaluationResultsRunEvaluatorVersionRegression, hunclashed⟩
    · exact insertEvaluationResult_holds record store h hrun hregression constraint hslot

end Insert

theorem insertJudgeCall_consistent (record : ℕ → JudgeCall) (store : Store) (h : store.Consistent)
    (hrun : (record (store.judgeCalls.length + 1)).runId ∈ store.runIds) :
    (insertJudgeCall record store).Consistent := by
  intro constraint
  have hold := h constraint
  cases constraint
  case judgeCallsRunId =>
    apply (refersOn_append _ _ _ _).mpr
    refine ⟨hold, ?_⟩
    intro k hk
    cases hk
    exact hrun
  all_goals exact hold

theorem upsertRunFailure_consistent (values : RunFailure) (store : Store) (h : store.Consistent)
    (hrun : values.runId ∈ store.runIds) : (upsertRunFailure values store).Consistent := by
  intro constraint
  have hold := h constraint
  cases constraint
  case runFailuresRunId =>
    intro row hrow k hk
    cases hk
    rcases Table.mem_upsert _ _ _ _ row hrow with hm | hkey
    · exact hold row hm _ rfl
    · rw [show row.runId = values.runId from hkey]
      exact hrun
  all_goals exact hold

/-! ### Which results a run can take -/

/-- The results of the evaluators would have slots of their own. -/
def Unrecorded (rows : List Db.EvaluationResult) (runId : String) (regressionRunId : Option ℕ)
    (evaluators : List Evaluator) : Prop :=
  ∀ k ∈ regressionRunId,
    (evaluators.map fun evaluator => (evaluator.name, evaluator.version)).Nodup ∧
    ∀ evaluator ∈ evaluators, ∀ row ∈ rows,
      ¬ (row.runId = runId ∧ row.evaluatorName = evaluator.name ∧
        row.evaluatorVersion = evaluator.version ∧ row.regressionRunId = some k)

theorem slot_eq_some_iff (row : Db.EvaluationResult) (runId evaluatorName evaluatorVersion : String)
    (k : ℕ) :
    row.slot = some (runId, evaluatorName, evaluatorVersion, k) ↔
      row.runId = runId ∧ row.evaluatorName = evaluatorName ∧
        row.evaluatorVersion = evaluatorVersion ∧ row.regressionRunId = some k := by
  rw [Db.EvaluationResult.slot, Option.map_eq_some_iff]
  constructor
  · intro hslot
    obtain ⟨j, hj, he⟩ := hslot
    cases he
    exact ⟨rfl, rfl, rfl, hj⟩
  · intro hcolumns
    obtain ⟨rfl, rfl, rfl, hj⟩ := hcolumns
    exact ⟨k, hj, rfl⟩

theorem unrecorded_cons (rows : List Db.EvaluationResult) (row : Db.EvaluationResult)
    (runId : String) (regressionRunId : Option ℕ) (evaluator : Evaluator)
    (evaluators : List Evaluator)
    (hrow : row.slot = regressionRunId.map fun k => (runId, evaluator.name, evaluator.version, k)) :
    Unrecorded rows runId regressionRunId (evaluator :: evaluators) ↔
      Unclashed Db.EvaluationResult.slot rows row ∧
        Unrecorded (rows ++ [row]) runId regressionRunId evaluators := by
  cases regressionRunId with
  | none => simp [Unrecorded, Unclashed, hrow]
  | some k =>
    simp only [Option.map_some] at hrow
    have hcolumns := (slot_eq_some_iff row _ _ _ k).mp hrow
    have hclash : Unclashed Db.EvaluationResult.slot rows row ↔ ∀ old ∈ rows,
        old.slot ≠ some (runId, evaluator.name, evaluator.version, k) := by
      simp only [Unclashed, hrow]
      constructor
      · exact fun h old hold hslot => h old hold _ hslot rfl
      · intro h old hold j hj he
        cases he
        exact h old hold hj
    rw [hclash]
    simp only [Unrecorded, Option.mem_some_iff, forall_eq', ← slot_eq_some_iff, List.map_cons,
      List.nodup_cons, List.mem_cons, List.mem_append, List.not_mem_nil, or_false, List.mem_map,
      not_exists, not_and]
    constructor
    · intro h
      obtain ⟨⟨hfirst, hnodup⟩, hrows⟩ := h
      refine ⟨hrows evaluator (.inl rfl), hnodup, ?_⟩
      intro other hother old hold
      rcases hold with hold | rfl
      · exact hrows other (.inr hother) old hold
      · intro hslot
        rw [hrow] at hslot
        injection hslot with hslot
        injection hslot with _ hslot
        injection hslot with hname hslot
        injection hslot with hversion _
        exact hfirst other hother (by rw [hname, hversion])
    · intro h
      obtain ⟨hfirst, hnodup, hrows⟩ := h
      refine ⟨⟨?_, hnodup⟩, ?_⟩
      · intro other hother he
        injection he with hname hversion
        apply hrows other hother row (.inr rfl)
        rw [hrow, hname, hversion]
      · intro other hother old hold
        rcases hother with rfl | hother
        · exact hfirst old hold
        · exact hrows other hother old (.inl hold)

/-! ### An evaluation on a healthy database -/

/-- What the declared constraints require of the rows of a run. -/
structure Kept (store : Store) (runId : String) (regressionRunId : Option ℕ) : Prop where
  consistent : store.Consistent
  run : runId ∈ store.runIds
  regression : ∀ k ∈ regressionRunId, k ∈ store.regressionRunIds

/-- The server refused a result for uq_evaluation_results_run_evaluator_version_regression,
the one constraint that its insertion would break. -/
def SlotRefused (db : Database) (e : Error) : Prop :=
  (∃ message, e = integrityError message) ∧
  ∃ n store store', db.backend.verdict n .evaluationResult store store' = some e ∧
    ∀ constraint : Constraint, ¬ constraint.Holds store' ↔
      constraint = .evaluationResultsRunEvaluatorVersionRegression

section Healthy
variable (db : Database) (hdb : Healthy db) (runId : String) (regressionRunId : Option ℕ)
include hdb

theorem recordResult_accepted_iff (evaluated : Evaluator × Evaluated) (store : Store)
    (h : Kept store runId regressionRunId) (n m : ℕ) :
    db.backend.verdict n .evaluationResult store
        (recordResult runId regressionRunId evaluated (db.clock m) store) = none ↔
      Unclashed Db.EvaluationResult.slot store.evaluationResults
        (evaluationResultRecord runId evaluated.1.name evaluated.1.version evaluated.2.status
          (some evaluated.2.result) regressionRunId (db.clock m)
          (store.evaluationResults.length + 1)) := by
  have hinserted := insertEvaluationResult_consistent (evaluationResultRecord runId evaluated.1.name
    evaluated.1.version evaluated.2.status (some evaluated.2.result) regressionRunId (db.clock m))
    store h.consistent h.run h.regression
  rw [← hinserted]
  constructor
  · exact consistent_of_accepted db hdb n .evaluationResult store _ nofun
  · exact hdb.accepts n .evaluationResult store _

theorem callsRecorded_healthy (calls : List EvaluatorCall) (store store' : Store)
    (failures : List Error) (hrecorded : CallsRecorded db runId calls store store' failures)
    (h : Kept store runId regressionRunId) :
    Kept store' runId regressionRunId ∧ failures = [] ∧
      store'.evaluationResults = store.evaluationResults := by
  induction hrecorded with
  | nil store => exact ⟨h, rfl, rfl⟩
  | accepted logged calls store store' failures n hanswer hrest ih =>
    have hkept : Kept (recordCall runId logged (db.clock n) store) runId regressionRunId :=
      ⟨consistent_of_accepted db hdb n .judgeCall store _ nofun hanswer, h.run, h.regression⟩
    exact ih hkept
  | refused logged calls store store' failures n e hanswer hrest ih =>
    have hbroken := (broken_of_refused db hdb n .judgeCall store _ e hanswer).1
    exact absurd (insertJudgeCall_consistent _ store h.consistent h.run) hbroken

/-- The evaluators recorded so far decide with those to come whether any of them clashes. -/
theorem recorded_healthy (evaluated : List (Evaluator × Evaluated)) (store store' : Store)
    (failures : List Error)
    (hrecorded : Recorded db runId regressionRunId evaluated store store' failures)
    (h : Kept store runId regressionRunId) :
    Kept store' runId regressionRunId ∧ failures = [] ∧ ∀ rest,
      Unrecorded store.evaluationResults runId regressionRunId (evaluated.map Prod.fst ++ rest) ↔
        Unrecorded store'.evaluationResults runId regressionRunId rest := by
  induction hrecorded with
  | nil store => exact ⟨h, rfl, fun _ => Iff.rfl⟩
  | cons one evaluated store mid store' failures failures' n hanswer hcalls hrest ih =>
    have hunclashed := (recordResult_accepted_iff db hdb runId regressionRunId one store h n n).mp
      hanswer
    have hkept : Kept (recordResult runId regressionRunId one (db.clock n) store) runId
        regressionRunId :=
      ⟨consistent_of_accepted db hdb n .evaluationResult store _ nofun hanswer, h.run, h.regression⟩
    obtain ⟨hmid, rfl, hrows⟩ := callsRecorded_healthy db hdb runId regressionRunId _ _ mid failures
      hcalls hkept
    obtain ⟨hstore', rfl, hrecorded⟩ := ih hmid
    refine ⟨hstore', rfl, ?_⟩
    intro rest
    have hcons := unrecorded_cons store.evaluationResults (evaluationResultRecord runId one.1.name
      one.1.version one.2.status (some one.2.result) regressionRunId (db.clock n)
      (store.evaluationResults.length + 1)) runId regressionRunId one.1
      (evaluated.map Prod.fst ++ rest) rfl
    rw [← hrecorded rest, hrows]
    exact hcons.trans (and_iff_right hunclashed)

theorem slotRefused_of_refused (evaluated : Evaluator × Evaluated) (store : Store)
    (h : Kept store runId regressionRunId) (n : ℕ) (e : Error)
    (hanswer : db.backend.verdict n .evaluationResult store
      (recordResult runId regressionRunId evaluated (db.clock n) store) = some e) :
    SlotRefused db e := by
  obtain ⟨hbroken, hmessage⟩ := broken_of_refused db hdb n .evaluationResult store _ e hanswer
  refine ⟨hmessage, n, store, _, hanswer, ?_⟩
  have hholds := insertEvaluationResult_holds (evaluationResultRecord runId evaluated.1.name
    evaluated.1.version evaluated.2.status (some evaluated.2.result) regressionRunId (db.clock n))
    store h.consistent h.run h.regression
  intro constraint
  constructor
  · intro hconstraint
    by_contra hother
    exact hconstraint (hholds constraint hother)
  · intro hslot hconstraint
    apply hbroken
    intro other
    by_cases hother : other = .evaluationResultsRunEvaluatorVersionRegression
    · rw [hother, ← hslot]
      exact hconstraint
    · exact hholds other hother

theorem resultRefused_healthy (evaluated : List (Evaluator × Evaluated)) (store : Store) (e : Error)
    (hrefused : ResultRefused db runId regressionRunId evaluated store e)
    (h : Kept store runId regressionRunId) :
    ¬ Unrecorded store.evaluationResults runId regressionRunId (evaluated.map Prod.fst) ∧
      SlotRefused db e := by
  obtain ⟨done, one, rest, mid, failures, n, rfl, hdone, hanswer⟩ := hrefused
  obtain ⟨hmid, _, hrecorded⟩ := recorded_healthy db hdb runId regressionRunId done store mid failures
    hdone h
  refine ⟨?_, slotRefused_of_refused db hdb runId regressionRunId one mid hmid n e hanswer⟩
  rw [List.map_append, List.map_cons, hrecorded (one.1 :: rest.map Prod.fst)]
  intro hunrecorded
  have hunclashed := ((unrecorded_cons mid.evaluationResults (evaluationResultRecord runId one.1.name
    one.1.version one.2.status (some one.2.result) regressionRunId (db.clock n)
    (mid.evaluationResults.length + 1)) runId regressionRunId one.1 _ rfl).mp hunrecorded).1
  have haccepted := (recordResult_accepted_iff db hdb runId regressionRunId one mid hmid n n).mpr
    hunclashed
  rw [hanswer] at haccepted
  cases haccepted

/-- The call returned, appended its results and stored the classification of its outcomes. -/
structure Reevaluated (environment : JudgeEnvironment) (evaluators : List Evaluator) (store : Store)
    (run : AgentRun) (response : EvaluationTriggerResponse) (store' : Store) : Prop where
  consistent : store'.Consistent
  appended : ∃ view now failure,
    EvaluationFootprint db environment evaluators store run view store' [] ∧
    response = evaluationTriggerResponse run.runId (outcomesOf environment view 0 none evaluators)
      (classify (outcomesOf environment view 0 none evaluators)) now ∧
    store'.runFailures.find? run.runId = some failure ∧
    classify (outcomesOf environment view 0 none evaluators) = ⟨failure.overallStatus,
      failure.primaryCategory, failure.secondaryCategory, failure.maxSeverity⟩

theorem runEvaluation_healthy (environment : JudgeEnvironment) (evaluators : List Evaluator)
    (store : Store) (hstored : Stored store) (hconsistent : store.Consistent) (run : AgentRun)
    (hrun : run ∈ store.agentRuns.rows) (s : DbSession) (hs : s.view = store) :
    Ends (runEvaluation db environment evaluators run.runId) s
      (fun response t =>
        Unrecorded store.evaluationResults run.runId run.regressionRunId evaluators ∧
        Reevaluated db environment evaluators store run response t.committed)
      fun e _ => ¬ Unrecorded store.evaluationResults run.runId run.regressionRunId evaluators ∧
        SlotRefused db e := by
  have hfound := (store.agentRuns.find?_eq_some_iff run.runId run).mpr ⟨hrun, rfl⟩
  have hclosed := (stored_referencesClosed store hstored).closed run.runId
  have hkept : Kept store run.runId run.regressionRunId :=
    ⟨hconsistent, List.mem_map_of_mem hrun, hconsistent .agentRunsRegressionRunId run hrun⟩
  have hnames : ∀ view, (evaluatedOf environment view 0 none evaluators).map Prod.fst = evaluators :=
    fun view => evaluatedOf_evaluators environment view 0 none evaluators
  have hends := runEvaluation_ends db environment evaluators store run hfound hclosed s hs
  apply ends_mono _ s _ _ _ _ hends
  · intro response t h
    obtain ⟨_, _, view, now, hdone, hresponse⟩ := h
    obtain ⟨mid, n, hrecorded, hfinal⟩ := hdone.recorded
    obtain ⟨hmid, _, hunrecorded⟩ := recorded_healthy db hdb _ _ _ store mid [] hrecorded hkept
    obtain ⟨failure, hfailure, hclassified⟩ := upsertRunFailure_classified run.runId
      (classify (outcomesOf environment view 0 none evaluators)) (db.clock n) mid
    rw [← hfinal] at hfailure
    have hall := hunrecorded []
    rw [List.append_nil, hnames view] at hall
    refine ⟨hall.mpr ?_, ?_, view, db.clock now, failure, ?_, hresponse, hfailure, hclassified⟩
    · exact fun _ _ => ⟨List.nodup_nil, fun _ hm => absurd hm List.not_mem_nil⟩
    · rw [hfinal]
      exact upsertRunFailure_consistent _ mid hmid.consistent hmid.run
    · exact completed_footprint db environment evaluators store run view _ _ hdone
  · intro e t h
    rcases h with ⟨n, w, w', e', hv⟩ | hwrite | ⟨view, failures, hdone⟩
    · rw [hdb.reads n w w'] at hv
      cases hv
    · cases hwrite with
      | result view _ hrefused =>
        have hclash := resultRefused_healthy db hdb _ _ _ store e hrefused hkept
        rw [hnames view] at hclash
        exact hclash
      | failure view _ mid failures n hrecorded hanswer =>
        have hmid := (recorded_healthy db hdb _ _ _ store mid failures hrecorded hkept).1
        have hbroken := (broken_of_refused db hdb n .runFailure mid _ e hanswer).1
        exact absurd (upsertRunFailure_consistent _ mid hmid.consistent hmid.run) hbroken
    · obtain ⟨mid, n, hrecorded, _⟩ := hdone.recorded
      have hnone := (recorded_healthy db hdb _ _ _ store mid (e :: failures) hrecorded hkept).2.1
      cases hnone

end Healthy

/-- Whatever earlier calls left, an evaluation on a healthy database returns exactly when
its results have slots of their own, which those of a live run always have; otherwise
uq_evaluation_results_run_evaluator_version_regression refuses it. -/
theorem evaluation_repeatable (db : Database) (hdb : Healthy db) (environment : JudgeEnvironment)
    (evaluators : List Evaluator) (store : Store) (hstored : Stored store)
    (hconsistent : store.Consistent) (run : AgentRun) (hrun : run ∈ store.agentRuns.rows)
    (s : DbSession) (hs : s.view = store) :
    (run.regressionRunId = none →
      Unrecorded store.evaluationResults run.runId run.regressionRunId evaluators) ∧
    (Unrecorded store.evaluationResults run.runId run.regressionRunId evaluators →
      ∃ response t, runEvaluation db environment evaluators run.runId s = .ok response t ∧
        Reevaluated db environment evaluators store run response t.committed) ∧
    (¬ Unrecorded store.evaluationResults run.runId run.regressionRunId evaluators →
      ∃ message t, runEvaluation db environment evaluators run.runId s =
        .error (integrityError message) t ∧ SlotRefused db (integrityError message)) := by
  have hends := runEvaluation_healthy db hdb environment evaluators store hstored hconsistent run hrun
    s hs
  refine ⟨?_, ?_, ?_⟩
  · intro hlive k hk
    rw [hlive] at hk
    cases hk
  · intro hunrecorded
    cases hends with
    | ok response t hr h => exact ⟨response, t, hr, h.2⟩
    | error e t hr h => exact absurd hunrecorded h.1
  · intro hclash
    cases hends with
    | ok response t hr h => exact absurd h.1 hclash
    | error e t hr h =>
      obtain ⟨message, rfl⟩ := h.2.1
      exact ⟨message, t, hr, h.2⟩

/- A registered regression, and a run ingested and linked to it. -/
def registered : Store :=
  { Store.empty with
    regressionRuns := ⟨[Regressions.sampleRegression ["GS-01"] 1], List.nodup_singleton 1⟩ }

def ingestedRun : Store :=
  served .enforcing (.ingest (successEvent "run-1") (successEvent_validated "run-1")) registered

def enforcedLink : Store := served .enforcing (.link "run-1" 1 "GS-01" 0) ingestedRun

theorem ingestedRun_stored : Stored ingestedRun :=
  .request _ (.regressionRuns _ .empty _) .enforcing _

theorem evaluation_repeatable_success :
    ∃ run ∈ ingestedRun.agentRuns.rows, ∃ response t,
      runEvaluation .enforcing noJudge (allEvaluators noLibraries) run.runId
        (Session.fresh ingestedRun) = .ok response t ∧
      Reevaluated .enforcing noJudge (allEvaluators noLibraries) ingestedRun run response
        t.committed := by
  have hconsistent : ingestedRun.Consistent := by decide +kernel
  have hrow : (ingestedRun.agentRuns.rows.map AgentRun.regressionRunId) = [none] := by
    decide +kernel
  obtain ⟨run, hrun, hlive⟩ := List.mem_map.mp (hrow ▸ List.mem_singleton.mpr rfl)
  have hrepeatable := evaluation_repeatable .enforcing enforcing_healthy noJudge
    (allEvaluators noLibraries) ingestedRun ingestedRun_stored hconsistent run hrun
    (Session.fresh ingestedRun) rfl
  exact ⟨run, hrun, hrepeatable.2.1 (hrepeatable.1 hlive)⟩

/-- A linked run that has been evaluated has its slots taken. -/
theorem reevaluated_clashes (db : Database) (environment : JudgeEnvironment) (evaluator : Evaluator)
    (evaluators : List Evaluator) (store : Store) (run : AgentRun) (k : ℕ)
    (hlinked : run.regressionRunId = some k) (response : EvaluationTriggerResponse) (store' : Store)
    (h : Reevaluated db environment (evaluator :: evaluators) store run response store') :
    ¬ Unrecorded store'.evaluationResults run.runId run.regressionRunId (evaluator :: evaluators) := by
  obtain ⟨view, _, _, hfootprint, _⟩ := h.appended
  obtain ⟨results, _, _, _, hresults, _, _, _, hstore⟩ := hfootprint.rows
  intro hunrecorded
  cases hresults with
  | cons hfirst _ =>
    refine (hunrecorded k hlinked).2 evaluator List.mem_cons_self _ ?_
      ⟨hfirst.runId, hfirst.evaluatorName, hfirst.evaluatorVersion,
        hfirst.regressionRunId.trans hlinked⟩
    rw [hstore]
    exact List.mem_append_right _ List.mem_cons_self

/-- The plain server names the constraint. -/
theorem slotRefused_enforcing (e : Error) (h : SlotRefused .enforcing e) :
    e = integrityError "uq_evaluation_results_run_evaluator_version_regression" := by
  obtain ⟨_, n, store, store', hanswer, hbroken⟩ := h
  cases hviolated : store'.violated with
  | none =>
    have hnone := enforcing_healthy.accepts n .evaluationResult store store'
      ((violated_none_iff store').mp hviolated)
    rw [hnone] at hanswer
    cases hanswer
  | some constraint =>
    have hnot : ¬ constraint.Holds store' := by
      have hfound := List.find?_some hviolated
      simpa using hfound
    simp only [Database.enforcing, hviolated, (hbroken constraint).mp hnot] at hanswer
    cases hanswer
    rfl

/-- A linked run is evaluated, and evaluated again: the second call is refused. -/
theorem linked_evaluation_refused :
    Stored enforcedLink ∧ enforcedLink.Consistent ∧
    ∃ run ∈ enforcedLink.agentRuns.rows, ∃ response t u,
      runEvaluation .enforcing noJudge (allEvaluators noLibraries) run.runId
        (Session.fresh enforcedLink) = .ok response t ∧
      runEvaluation .enforcing noJudge (allEvaluators noLibraries) run.runId
        (Session.fresh t.committed) =
          .error (integrityError "uq_evaluation_results_run_evaluator_version_regression") u := by
  have hstored : Stored enforcedLink := .request _ ingestedRun_stored .enforcing _
  have hconsistent : enforcedLink.Consistent := by decide +kernel
  have hrow : (enforcedLink.agentRuns.rows.map AgentRun.regressionRunId) = [some 1] := by
    decide +kernel
  obtain ⟨run, hrun, hlinked⟩ := List.mem_map.mp (hrow ▸ List.mem_singleton.mpr rfl)
  have hnone : enforcedLink.evaluationResults = [] := by decide +kernel
  refine ⟨hstored, hconsistent, run, hrun, ?_⟩
  have hfirst := runEvaluation_healthy .enforcing enforcing_healthy noJudge (allEvaluators noLibraries)
    enforcedLink hstored hconsistent run hrun (Session.fresh enforcedLink) rfl
  cases hfirst with
  | error e t hr h =>
    refine absurd ?_ h.1
    rw [hnone]
    exact fun _ _ => ⟨by decide, fun _ _ _ hm => absurd hm List.not_mem_nil⟩
  | ok response t hr h =>
    have hkept : run ∈ t.committed.agentRuns.rows := by
      obtain ⟨_, _, _, hfootprint, _⟩ := h.2.appended
      obtain ⟨_, _, _, _, _, _, _, _, hstore⟩ := hfootprint.rows
      rw [hstore]
      exact hrun
    have hagain : Stored t.committed := by
      have hserved := Stored.request enforcedLink hstored .enforcing
        (.evaluate noJudge (allEvaluators noLibraries) run.runId)
      rw [served, serve, after_ok _ _ t () (by rw [bind_of_ok _ _ _ t response hr]; rfl)] at hserved
      exact hserved
    have hsecond := runEvaluation_healthy .enforcing enforcing_healthy noJudge
      (allEvaluators noLibraries) t.committed hagain h.2.consistent run hkept
      (Session.fresh t.committed) rfl
    cases hsecond with
    | ok _ _ _ h' =>
      exact absurd h'.1 (reevaluated_clashes .enforcing noJudge _ _ enforcedLink run 1 hlinked
        response t.committed h.2)
    | error e u hr' h' =>
      rw [slotRefused_enforcing e h'.2] at hr'
      exact ⟨response, t, u, hr, hr'⟩

end ObsPlatform.Platform
