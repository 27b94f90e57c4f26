import ObsPlatform.Evaluation.OrderIndependence
import ObsPlatform.Platform.Evaluable
import ObsPlatform.Platform.Footprint

/-!
# The records of one evaluation

An evaluation leaves three records: its response, a result row for each evaluator, and
the failure row of the run. The run detail shows the latest result of each evaluator;
when the clock never goes back these are the rows of the last evaluation, and all three
records agree.
-/

namespace ObsPlatform.Platform

open Telemetry Db UnitOfWork Evaluation Ingestion Routes Stateful

/-! ### Requests one after another, on a clock that never goes back -/

inductive ReachableBy : Timestamp → Store → Prop where
  | empty (t : Timestamp) : ReachableBy t Store.empty
  | request (t t' : Timestamp) (store : Store) (h : ReachableBy t store) (db : Database)
      (request : Request) (hclock : ∀ n, t ≤ db.clock n ∧ db.clock n ≤ t') :
      ReachableBy t' (after (serve db request) (Session.fresh store)).committed

theorem reachableBy_reachable (t : Timestamp) (store : Store) (h : ReachableBy t store) :
    Reachable store := by
  induction h with
  | empty t => exact .empty
  | request t t' store _ db request _ ih => exact .request store ih db request

/-- Every result was written by then, under an id that was free. -/
def Stamped (t : Timestamp) (store : Store) : Prop :=
  ∀ row ∈ store.evaluationResults, row.createdAt ≤ t ∧ row.id ≤ store.evaluationResults.length

theorem stamped_congr (t : Timestamp) (store store' : Store)
    (he : store'.evaluationResults = store.evaluationResults) (h : Stamped t store) :
    Stamped t store' := by
  unfold Stamped
  rw [he]
  exact h

theorem writesKeep_stamped (t : Timestamp) (db : Database) (hclock : ∀ n, db.clock n ≤ t)
    (runId : String) : WritesKeep (Stamped t) db runId where
  evaluationResult := by
    intro _ _ _ _ _ n store h row hm
    have hlength : ∀ record, (insertEvaluationResult record store).evaluationResults.length =
        store.evaluationResults.length + 1 := by
      intro record
      simp [insertEvaluationResult]
    rw [hlength]
    rcases List.mem_append.mp hm with hm | hm
    · have hrow := h row hm
      exact ⟨hrow.1, by omega⟩
    · rw [List.mem_singleton.mp hm]
      exact ⟨hclock n, le_rfl⟩
  judgeCall := fun _ _ _ _ _ _ h => h

theorem reachableBy_stamped (t : Timestamp) (store : Store) (h : ReachableBy t store) :
    Stamped t store := by
  induction h with
  | empty t => exact fun _ hm => absurd hm List.not_mem_nil
  | request t t' store _ db request hclock ih =>
    have hle : t ≤ t' := (hclock 0).1.trans (hclock 0).2
    have hstart : Stamped t' store := fun row hm => ⟨(ih row hm).1.trans hle, (ih row hm).2⟩
    have hserve := sound_serve_results (Stamped t') db (stamped_congr t')
      (writesKeep_stamped t' db fun n => (hclock n).2) request
    exact (hserve (Session.fresh store) (sound_fresh _ store hstart)).1

/-! ### The latest results -/

/-- Rows written last, one for each name, are the latest of their names. -/
theorem latest_appended (runId : String) (t : Timestamp) (store : Store)
    (old rows : List Db.EvaluationResult) (hstore : store.evaluationResults = old ++ rows)
    (hold : ∀ row ∈ old, row.createdAt ≤ t ∧ row.id ≤ old.length)
    (hrows : ∀ row ∈ rows, row.runId = runId ∧ t ≤ row.createdAt ∧ old.length < row.id)
    (hnames : (rows.map Db.EvaluationResult.evaluatorName).Nodup) :
    (latestEvaluationResults runId store).filter
      (fun row => row.evaluatorName ∈ rows.map Db.EvaluationResult.evaluatorName) = rows := by
  have hall : (old ++ rows).filter (fun row => row.runId = runId) =
      old.filter (fun row => row.runId = runId) ++ rows := by
    have hself : rows.filter (fun row => row.runId = runId) = rows := by
      apply List.filter_eq_self.mpr
      intro row hm
      simp [(hrows row hm).1]
    rw [List.filter_append, hself]
  have hnew : ∀ row ∈ rows, ∀ other ∈ old.filter (fun row => row.runId = runId) ++ rows,
      other.evaluatorName ≠ row.evaluatorName ∨ other.createdAt < row.createdAt ∨
        other.createdAt = row.createdAt ∧ other.id ≤ row.id := by
    intro row hm other hother
    have hrow := hrows row hm
    rcases List.mem_append.mp hother with hother | hother
    · have hstored := hold other (List.mem_of_mem_filter hother)
      have hid : other.id ≤ row.id := by omega
      rcases lt_or_eq_of_le (hstored.1.trans hrow.2.1) with hlt | heq
      · exact .inr (.inl hlt)
      · exact .inr (.inr ⟨heq, hid⟩)
    · by_cases hname : other.evaluatorName = row.evaluatorName
      · rw [List.inj_on_of_nodup_map hnames hother hm hname]
        exact .inr (.inr ⟨rfl, le_rfl⟩)
      · exact .inl hname
  simp only [latestEvaluationResults, hstore, hall]
  rw [List.filter_append, List.filter_append]
  have hfirst : ((old.filter (fun row => row.runId = runId)).filter fun row =>
      (old.filter (fun row => row.runId = runId) ++ rows).all fun other =>
        other.evaluatorName ≠ row.evaluatorName ∨ other.createdAt < row.createdAt ∨
          other.createdAt = row.createdAt ∧ other.id ≤ row.id).filter
      (fun row => row.evaluatorName ∈ rows.map Db.EvaluationResult.evaluatorName) = [] := by
    apply List.filter_eq_nil_iff.mpr
    intro row hm hname
    obtain ⟨hm, hlatest⟩ := List.mem_filter.mp hm
    obtain ⟨other, hother, hsame⟩ := List.mem_map.mp (of_decide_eq_true hname)
    have hbeaten := of_decide_eq_true
      (List.all_eq_true.mp hlatest other (List.mem_append_right _ hother))
    have hstored := hold row (List.mem_of_mem_filter hm)
    have hwritten := hrows other hother
    rcases hbeaten with hne | hlt | ⟨heq, hle⟩
    · exact hne hsame
    · exact absurd hlt (not_lt.mpr (hstored.1.trans hwritten.2.1))
    · omega
  have hlast : (rows.filter fun row =>
      (old.filter (fun row => row.runId = runId) ++ rows).all fun other =>
        other.evaluatorName ≠ row.evaluatorName ∨ other.createdAt < row.createdAt ∨
          other.createdAt = row.createdAt ∧ other.id ≤ row.id) = rows := by
    apply List.filter_eq_self.mpr
    intro row hm
    apply List.all_eq_true.mpr
    intro other hother
    exact decide_eq_true (hnew row hm other hother)
  have hnamed : rows.filter
      (fun row => row.evaluatorName ∈ rows.map Db.EvaluationResult.evaluatorName) = rows := by
    apply List.filter_eq_self.mpr
    intro row hm
    exact decide_eq_true (List.mem_map_of_mem hm)
  rw [hfirst, hlast, hnamed, List.nil_append]

/-! ### Classifying again -/

/-- The outcome that one row of the summary stands for. -/
def summaryOutcome (summary : EvaluatorResultSummary) : EvaluatorOutcome where
  evaluatorName := summary.evaluatorName
  evaluatorVersion := summary.evaluatorVersion
  executionStatus := summary.executionStatus
  result := some
    { passed := summary.passed.getD false
      score := summary.score
      label := summary.label
      severity := summary.severity
      reason := summary.reason.getD ""
      findings := summary.findings }

theorem summaryOutcome_labelledFail (outcome : EvaluatorOutcome) :
    labelledFail (summaryOutcome (outcomeSummary outcome)) = labelledFail outcome := by
  by_cases hstatus : outcome.executionStatus = .completed
  · cases hresult : outcome.result with
    | none => simp [labelledFail, summaryOutcome, outcomeSummary, hresult]
    | some result => simp [labelledFail, summaryOutcome, outcomeSummary, hstatus, hresult]
  · simp [labelledFail, summaryOutcome, outcomeSummary, hstatus]

/-- What a row forgets of its outcome, the classifier does not look at. -/
theorem classify_summaries (outcomes : List EvaluatorOutcome) :
    classify ((outcomes.map outcomeSummary).map summaryOutcome) = classify outcomes := by
  have hlabelled : labelledFail ∘ summaryOutcome ∘ outcomeSummary = labelledFail :=
    funext summaryOutcome_labelledFail
  rw [List.map_map]
  apply classify_congr
  · unfold overallStatus
    rw [List.any_map, List.any_map, hlabelled]
    rfl
  · intro failureType
    rw [detectedFailureTypes, List.filter_map, hlabelled, List.flatMap_map]
    rfl

/-! ### The records agree -/

/-- What a record shows is read off the evaluator and its outcome, whatever its id and time. -/
theorem record_map {γ : Type} (db : Database) (runId : String) (regressionRunId : Option ℕ)
    (above : ℕ) (evaluated : List (Evaluator × Evaluated)) (rows : List Db.EvaluationResult)
    (f : Db.EvaluationResult → γ) (g : Evaluator × Evaluated → γ)
    (hfg : ∀ e row, RecordOf db runId regressionRunId above e row → f row = g e)
    (h : List.Forall₂ (RecordOf db runId regressionRunId above) evaluated rows) :
    rows.map f = evaluated.map g := by
  induction h with
  | nil => rfl
  | cons hrow _ ih => rw [List.map_cons, List.map_cons, hfg _ _ hrow, ih]

theorem record_summary (db : Database) (runId : String) (regressionRunId : Option ℕ) (above : ℕ)
    (evaluated : List (Evaluator × Evaluated)) (rows : List Db.EvaluationResult)
    (h : List.Forall₂ (RecordOf db runId regressionRunId above) evaluated rows) :
    rows.map evaluatorResultSummary =
      (evaluated.map fun evaluated => evaluatorOutcome evaluated.1 evaluated.2).map
        outcomeSummary := by
  rw [List.map_map]
  apply record_map db runId regressionRunId above evaluated rows _ _ _ h
  rintro e row ⟨n, id, _, rfl⟩
  rfl

theorem record_names (db : Database) (runId : String) (regressionRunId : Option ℕ) (above : ℕ)
    (evaluated : List (Evaluator × Evaluated)) (rows : List Db.EvaluationResult)
    (h : List.Forall₂ (RecordOf db runId regressionRunId above) evaluated rows) :
    rows.map Db.EvaluationResult.evaluatorName =
      (evaluated.map Prod.fst).map Evaluator.name := by
  rw [List.map_map]
  apply record_map db runId regressionRunId above evaluated rows _ _ _ h
  rintro e row ⟨n, id, _, rfl⟩
  rfl

theorem record_written (db : Database) (runId : String) (regressionRunId : Option ℕ) (above : ℕ)
    (evaluated : List (Evaluator × Evaluated)) (rows : List Db.EvaluationResult)
    (h : List.Forall₂ (RecordOf db runId regressionRunId above) evaluated rows) :
    ∀ row ∈ rows, row.runId = runId ∧ above < row.id ∧ ∃ n, row.createdAt = db.clock n := by
  induction h with
  | nil => exact fun _ hm => absurd hm List.not_mem_nil
  | cons hrow _ ih =>
    intro row hm
    rcases List.mem_cons.mp hm with rfl | hm
    · obtain ⟨n, id, hid, rfl⟩ := hrow
      exact ⟨rfl, hid, n, rfl⟩
    · exact ih row hm

/-- The rows of an evaluation that has just ended are the latest of their evaluators. -/
theorem completed_latest (db : Database) (environment : JudgeEnvironment)
    (evaluators : List Evaluator) (store : Store) (run : AgentRun) (view : EvaluationRunView)
    (store' : Store) (failures : List Error) (t : Timestamp) (hstamped : Stamped t store)
    (hclock : ∀ n, t ≤ db.clock n) (hnames : (evaluators.map Evaluator.name).Nodup)
    (h : Completed db environment evaluators store run view store' failures) :
    ((latestEvaluationResults run.runId store').filter
      (fun row => row.evaluatorName ∈ evaluators.map Evaluator.name)).map evaluatorResultSummary =
      (outcomesOf environment view 0 none evaluators).map outcomeSummary := by
  obtain ⟨mid, n, hrecorded, hstore⟩ := h.recorded
  obtain ⟨rows, _, _, hrows, _, hmid⟩ := recorded_rows db _ _ _ _ _ _ hrecorded
  have hrowNames := record_names db _ _ _ _ rows hrows
  rw [evaluatedOf_evaluators] at hrowNames
  have hwritten : ∀ row ∈ rows, row.runId = run.runId ∧ t ≤ row.createdAt ∧
      store.evaluationResults.length < row.id := by
    intro row hm
    obtain ⟨hrun, hid, m, hnow⟩ := record_written db _ _ _ _ rows hrows row hm
    exact ⟨hrun, hnow ▸ hclock m, hid⟩
  have happended : store'.evaluationResults = store.evaluationResults ++ rows := by
    rw [hstore, hmid]
    rfl
  have hlatest := latest_appended run.runId t store' store.evaluationResults rows happended
    hstamped hwritten (by rw [hrowNames]; exact hnames)
  rw [hrowNames] at hlatest
  rw [hlatest, record_summary db _ _ _ _ rows hrows, evaluatedOf_outcomes]

/-- A sorted list is the only sorted one of its permutations when no two names are equal. -/
theorem sorted_unique (c : Collation) (a b : List EvaluatorResultSummary) (h : a.Perm b)
    (hnames : (b.map EvaluatorResultSummary.evaluatorName).Nodup)
    (ha : a.Pairwise fun x y => c.le x.evaluatorName y.evaluatorName)
    (hb : b.Pairwise fun x y => c.le x.evaluatorName y.evaluatorName) : a = b := by
  apply List.Perm.eq_of_pairwise _ ha hb h
  intro x y hx hy hxy hyx
  have hname := c.antisymm _ _ hxy hyx
  exact List.inj_on_of_nodup_map hnames (h.mem_iff.mp hx) hy hname

/-- What the run detail shows of these evaluators is the response, sorted by name, and
classifies as the stored failure row does. -/
structure SummaryAgrees (c : Collation) (evaluators : List Evaluator)
    (response : EvaluationTriggerResponse) (failure : RunFailure)
    (summary : List EvaluatorResultSummary) : Prop where
  sorted : ∀ order : OrderBy fun a b : EvaluatorResultSummary => c.le a.evaluatorName b.evaluatorName,
    (summary.filter fun row => row.evaluatorName ∈ evaluators.map Evaluator.name) =
      order.arrange response.evaluatorResults
  classified : classify ((summary.filter fun row =>
      row.evaluatorName ∈ evaluators.map Evaluator.name).map summaryOutcome) =
    ⟨failure.overallStatus, failure.primaryCategory, failure.secondaryCategory, failure.maxSeverity⟩

theorem summary_agrees (reader : Database) (evaluators : List Evaluator)
    (hnames : (evaluators.map Evaluator.name).Nodup) (outcomes : List EvaluatorOutcome)
    (runId : String) (now : Timestamp) (failure : RunFailure)
    (hfailure : classify outcomes = ⟨failure.overallStatus, failure.primaryCategory,
      failure.secondaryCategory, failure.maxSeverity⟩)
    (rows latest : List Db.EvaluationResult) (hperm : rows.Perm latest)
    (hsorted : rows.Pairwise (Db.EvaluationResult.byName reader.collation))
    (houtcomes : outcomes.map EvaluatorOutcome.evaluatorName = evaluators.map Evaluator.name)
    (hlatest : (latest.filter fun row =>
      row.evaluatorName ∈ evaluators.map Evaluator.name).map evaluatorResultSummary =
        outcomes.map outcomeSummary) :
    SummaryAgrees reader.collation evaluators
      (evaluationTriggerResponse runId outcomes (classify outcomes) now) failure
      (rows.map evaluatorResultSummary) := by
  have hshown : (rows.map evaluatorResultSummary).filter
      (fun row => row.evaluatorName ∈ evaluators.map Evaluator.name) =
      (rows.filter fun row => row.evaluatorName ∈ evaluators.map Evaluator.name).map
        evaluatorResultSummary := by
    rw [List.filter_map]
    rfl
  have hmatches : ((rows.map evaluatorResultSummary).filter
      fun row => row.evaluatorName ∈ evaluators.map Evaluator.name).Perm
      (outcomes.map outcomeSummary) := by
    rw [hshown, ← hlatest]
    exact (hperm.filter _).map _
  constructor
  · intro order
    have hsummaryNames : (outcomes.map outcomeSummary).map EvaluatorResultSummary.evaluatorName =
        evaluators.map Evaluator.name := by
      rw [← houtcomes, List.map_map]
      rfl
    have harranged := order.perm (outcomes.map outcomeSummary)
    apply sorted_unique reader.collation _ _ (hmatches.trans harranged.symm)
    · rw [(harranged.map _).nodup_iff, hsummaryNames]
      exact hnames
    · have hordered : (rows.map evaluatorResultSummary).Pairwise fun x y =>
          reader.collation.le x.evaluatorName y.evaluatorName := List.pairwise_map.mpr hsorted
      exact hordered.filter _
    · exact order.sorted _
  · rw [classify_perm _ _ (hmatches.map summaryOutcome), classify_summaries, hfailure]

/-- An evaluation on a clock that never goes back: its response, the rows shown as the
latest of its evaluators, and the stored failure row are one record. -/
theorem evaluation_records_agree (t : Timestamp) (store : Store) (hreach : ReachableBy t store)
    (run : AgentRun) (hrun : run ∈ store.agentRuns.rows) (db : Database)
    (hclock : ∀ n, t ≤ db.clock n) (environment : JudgeEnvironment) (evaluators : List Evaluator)
    (hnames : (evaluators.map Evaluator.name).Nodup) (s u : DbSession)
    (hs : s.view = store) (response : EvaluationTriggerResponse)
    (h : runEvaluation db environment evaluators run.runId s = .ok response u) :
    ∃ failure, u.committed.runFailures.find? run.runId = some failure ∧
      failure.overallStatus = response.overallStatus ∧
      response.failure =
        some ⟨failure.primaryCategory, failure.secondaryCategory, failure.maxSeverity⟩ ∧
      ∀ (reader : Database) (v : DbSession), v.view = u.committed →
        Delivers reader.backend (latestEvaluationSummary reader run.runId) v fun summary _ =>
          SummaryAgrees reader.collation evaluators response failure summary := by
  have hfound := (store.agentRuns.find?_eq_some_iff run.runId run).mpr ⟨hrun, rfl⟩
  have hclosed := (reachable_referencesClosed store (reachableBy_reachable t store hreach)).closed
  obtain ⟨_, _, view, n, hdone, rfl⟩ := ends_returns _ s u response _ _
    (runEvaluation_ends db environment evaluators store run hfound (hclosed run.runId) s hs) h
  have hlatest := completed_latest db environment evaluators store run view u.committed []
    t (reachableBy_stamped t store hreach) hclock hnames hdone
  obtain ⟨mid, m, _, hstore⟩ := hdone.recorded
  obtain ⟨failure, hfailure, hclassified⟩ := upsertRunFailure_classified run.runId
    (classify (outcomesOf environment view 0 none evaluators)) (db.clock m) mid
  rw [← hstore] at hfailure
  have hnamed : (outcomesOf environment view 0 none evaluators).map EvaluatorOutcome.evaluatorName =
      evaluators.map Evaluator.name := by
    rw [← evaluatedOf_outcomes, List.map_map]
    conv_rhs => rw [← evaluatedOf_evaluators environment view 0 none evaluators, List.map_map]
    rfl
  refine ⟨failure, hfailure, ?_, ?_, ?_⟩
  · rw [evaluationTriggerResponse, hclassified]
  · rw [evaluationTriggerResponse, hclassified]
  · intro reader v hv
    apply delivers_bind _ _ _ v _ _ (delivers_ordered reader Plan.evaluationResults
      (latestEvaluationResults run.runId) u.committed v hv)
    intro rows w hrows
    obtain ⟨hperm, hsorted, _⟩ := hrows
    apply delivers_of_ok _ _ w w _ _ rfl
    exact summary_agrees reader evaluators hnames _ run.runId _ failure hclassified rows _ hperm
      hsorted hnamed hlatest

/- A plain server whose clock stands still. -/
def standingClock : Database := { Database.plain with clock := fun _ => 0 }

theorem evaluation_records_agree_success :
    ∃ store run response u failure, ReachableBy 0 store ∧ run ∈ store.agentRuns.rows ∧
      runEvaluation standingClock noJudge (allEvaluators noLibraries) run.runId
        (Session.fresh store) = .ok response u ∧
      u.committed.runFailures.find? run.runId = some failure ∧
      failure.overallStatus = response.overallStatus := by
  have hreach := ReachableBy.request 0 0 Store.empty (.empty 0) standingClock
    (.ingest (successEvent "run-1") (successEvent_validated _)) fun _ => ⟨le_rfl, le_rfl⟩
  have hrow : (after (serve standingClock (.ingest (successEvent "run-1")
      (successEvent_validated "run-1"))) (Session.fresh Store.empty)).committed.agentRuns.rows ≠ [] := by
    intro hempty
    have hlength := congrArg List.length hempty
    revert hlength
    decide +kernel
  obtain ⟨run, hrun⟩ := List.exists_mem_of_ne_nil _ hrow
  have hfound := (Table.find?_eq_some_iff _ run.runId run).mpr ⟨hrun, rfl⟩
  have hclosed := (reachable_referencesClosed _ (reachableBy_reachable 0 _ hreach)).closed run.runId
  obtain ⟨response, u, hreturned, _⟩ := delivers_accepted _ (fun _ _ _ _ => rfl) _ _ _
    (delivers_runEvaluation standingClock noJudge (allEvaluators noLibraries) _ run hfound hclosed
      (Session.fresh _) rfl)
  obtain ⟨failure, hfailure, hstatus, _⟩ := evaluation_records_agree 0 _ hreach run hrun
    standingClock (fun _ => le_rfl) noJudge (allEvaluators noLibraries) (by decide) (Session.fresh _)
    u rfl response hreturned
  exact ⟨_, run, response, u, failure, hreach, hrun, hreturned, hfailure, hstatus⟩

end ObsPlatform.Platform
