import ObsPlatform.Platform.ServerHistory
import ObsPlatform.Regressions.SlotIds

/-!
# Runs of others

Requests and regressions that are not about a run leave its rows alone, whatever they do
between each other's commits. So a reader of the run does not notice them: the statements of
one read, made while the server goes on with other runs, all see the run of the first.
-/

namespace ObsPlatform.Platform

open Telemetry Db UnitOfWork Evaluation Ingestion Stateful Regressions Routes

/-! ### What a runner writes -/

/-- Every write of a runner of the regression keeps to the terms. -/
structure RunnerWritersKeep (terms : Terms Store) (regressionRunId : ℕ) : Prop where
  ingest : ∀ event scenarioId repetitionIndex, IngestKeeps terms
    (withRunId event (regressionRunEventId regressionRunId scenarioId repetitionIndex))
  linkage : ∀ scenarioId repetitionIndex now store, terms.invariant store →
    terms.Keep store (updateLinkage
      (regressionRunEventId regressionRunId scenarioId repetitionIndex) regressionRunId scenarioId
      repetitionIndex now store)
  evaluation : ∀ scenarioId repetitionIndex, EvaluationWritersKeep terms
    (regressionRunEventId regressionRunId scenarioId repetitionIndex)
  status : ∀ status startedAt completedAt store, terms.invariant store →
    terms.Keep store (updateRegressionRun regressionRunId status startedAt completedAt store)

section Runner
variable (terms : Terms Store) (regressionRunId : ℕ) (h : RunnerWritersKeep terms regressionRunId)
  (db : Database)
include h

theorem ingestThread_keeps (event : ExtendedRunEvent) (scenarioId : String)
    (repetitionIndex : ℕ) :
    (Regressions.ingestThread db (withRunId event
      (regressionRunEventId regressionRunId scenarioId repetitionIndex))).Each
        (RunnerStepKeeps terms) := by
  apply Thread.each_bind _ _ _ (quiet_keeps terms get fun _ _ => rfl)
  intro state
  apply Thread.each_bind
  · apply threadOnSession_keeps
    apply each_of_sound
    exact fun w => preserves_bind _ _ _
      (sound_ingest_from terms w db _ (h.ingest event scenarioId repetitionIndex))
      fun _ => preserves_pure _ _
  · exact fun _ => quiet_keeps terms _ fun _ _ => rfl

theorem linkThread_keeps (scenarioId : String) (repetitionIndex : ℕ) :
    (linkThread db (regressionRunEventId regressionRunId scenarioId repetitionIndex)
      regressionRunId scenarioId repetitionIndex).Each (RunnerStepKeeps terms) := by
  apply Thread.each_bind
  · apply threadOnSession_keeps
    apply Thread.each_bind
    · exact each_of_sound terms _ _ fun _ => sound_selectAgentRun _ db _
    intro record
    cases record with
    | none => exact .done _
    | some record =>
      apply Thread.each_bind
      · refine each_of_sound terms _ _ fun w => ?_
        refine preserves_bind _ _ _ (sound_now _ db) fun now => ?_
        refine preserves_bind _ _ _ (sound_write _ db.backend .linkage _ ?_) fun _ =>
          sound_commit _
        exact fun store hstore => terms.from_step w store _ hstore
          (h.linkage scenarioId repetitionIndex now store)
      · exact fun _ => each_of_sound terms _ _ fun _ => sound_refreshAgentRun _ db _
  · exact fun _ => quiet_keeps terms _ fun _ _ => rfl

theorem evaluateThread_keeps (environment : History → JudgeEnvironment)
    (libraries : JudgeLibraries) (scenarioId : String) (repetitionIndex : ℕ) :
    (evaluateThread db environment libraries
      (regressionRunEventId regressionRunId scenarioId repetitionIndex)).Each
        (RunnerStepKeeps terms) := by
  apply Thread.each_bind _ _ _ (quiet_keeps terms _ fun _ _ => rfl)
  intro _
  apply Thread.each_bind _ _ _ (quiet_keeps terms get fun _ _ => rfl)
  intro state
  apply threadOnSession_keeps
  apply Thread.each_bind _ _ _
    (runEvaluationThread_keeps terms db _ (h.evaluation scenarioId repetitionIndex) _ _)
  exact fun _ => .done _

theorem mark_runnerKeeps (status : RegressionStatus)
    (startedAt : Timestamp → Option Timestamp → Option Timestamp)
    (completedAt : Timestamp → Option Timestamp) :
    (Thread.atomic Statement.regressionStatus (onSession (do
      let now ← now db
      update db .regressionStatus
        (updateRegressionRun regressionRunId status (startedAt now) (completedAt now))
      commit))).Each (RunnerStepKeeps terms) := by
  apply Thread.each_atomic
  intro w state hw
  have hmark := sound_mark (terms.From w) db (fun now =>
    updateRegressionRun regressionRunId status (startedAt now) (completedAt now)) (fun now =>
      sound_write _ db.backend .regressionStatus _ fun store hstore =>
        terms.from_step w store _ hstore
          (h.status status (startedAt now) (completedAt now) store))
  have hself := terms.from_self w hw
  exact (preserves_onSession _ _ hmark (runnerPart.install w state) ⟨hself, fun _ => hself⟩).1

section Slots
variable (target : AgentTarget) (environment : History → JudgeEnvironment)
  (libraries : JudgeLibraries)

omit h in
theorem runScenario_keeps (runner : RegressionRunner) (contract : ScenarioContract) :
    (Thread.atomic Statement.read (runner.runScenario contract)).Each (RunnerStepKeeps terms) := by
  apply quiet_keeps
  intro w state
  have hquiet : Preserves (fun state : RunnerState => state.session.committed = w)
      (runner.runScenario contract) :=
    preserves_bind _ _ _ (preserves_modify _ _ fun _ h => h) fun _ => preserves_answer _ _
  exact hquiet (runnerPart.install w state) rfl

omit h in
theorem resumeAfterApproval_keeps (runner : RegressionRunner) (checkpointId decision : String) :
    (Thread.atomic Statement.read (runner.resumeAfterApproval checkpointId decision)).Each
      (RunnerStepKeeps terms) := by
  apply quiet_keeps
  intro w state
  have hquiet : Preserves (fun state : RunnerState => state.session.committed = w)
      (runner.resumeAfterApproval checkpointId decision) :=
    preserves_bind _ _ _ (preserves_get _) fun _ =>
      preserves_bind _ _ _ (preserves_modify _ _ fun _ h => h) fun _ => preserves_answer _ _
  exact hquiet (runnerPart.install w state) rfl

omit h in
theorem commit_keeps :
    (Thread.atomic Statement.read (onSession commit)).Each (RunnerStepKeeps terms) :=
  quiet_keeps terms _ fun w state => view_install w state.session

theorem runOneThread_keeps (contract : ScenarioContract) (repetitionIndex : ℕ) :
    (runOneThread db target environment libraries regressionRunId contract repetitionIndex).Each
      (RunnerStepKeeps terms) := by
  have hlink := linkThread_keeps terms regressionRunId h db contract.scenarioId repetitionIndex
  have hevaluate := evaluateThread_keeps terms regressionRunId h db environment libraries
    contract.scenarioId repetitionIndex
  unfold runOneThread
  cases requiresHitlFlow contract with
  | true =>
    apply Thread.each_bind _ _ _ (runScenario_keeps terms _ contract)
    intro pendingEvent
    apply Thread.each_bind _ _ _ (ingestThread_keeps terms regressionRunId h db _ _ _)
    intro _
    apply Thread.each_bind _ _ _ hlink
    intro _
    apply Thread.each_bind _ _ _
      (threadOnSession_keeps terms _ (assertHitlGateHeldThread_keeps terms db _))
    intro checkpointId
    apply Thread.each_bind _ _ _ (resumeAfterApproval_keeps terms _ checkpointId "approve")
    intro approvedEvent
    apply Thread.each_bind _ _ _ (ingestThread_keeps terms regressionRunId h db _ _ _)
    intro _
    apply Thread.each_bind _ _ _ hlink
    intro _
    apply Thread.each_bind _ _ _ (commit_keeps terms)
    intro _
    exact Thread.each_bind _ _ _ hevaluate fun _ => .done _
  | false =>
    apply Thread.each_bind _ _ _ (runScenario_keeps terms _ contract)
    intro event
    apply Thread.each_bind _ _ _ (ingestThread_keeps terms regressionRunId h db _ _ _)
    intro _
    apply Thread.each_bind _ _ _ hlink
    intro _
    apply Thread.each_bind _ _ _ (commit_keeps terms)
    intro _
    exact Thread.each_bind _ _ _ hevaluate fun _ => .done _

theorem runRepetitionThread_keeps (scenarioId : String) (contract : ScenarioContract)
    (repetitionIndex : ℕ) :
    (runRepetitionThread db target environment libraries regressionRunId scenarioId contract
      repetitionIndex).Each (RunnerStepKeeps terms) := by
  apply Thread.each_bind _ _ _ (quiet_keeps terms _ fun _ _ => rfl)
  intro _
  apply Thread.each_followedBy
  · apply Thread.each_bind _ _ _
      (runOneThread_keeps terms regressionRunId h db target environment libraries contract
        repetitionIndex)
    intro childRunId
    exact Thread.each_bind _ _ _ (quiet_keeps terms _ fun _ _ => rfl) fun _ => .done _
  intro result
  cases result with
  | ok outcome => exact .done _
  | error e =>
    apply Thread.each_bind _ _ _ (quiet_keeps terms _ fun _ _ => rfl)
    intro _
    cases e with
    | hitlGateViolation message =>
      exact Thread.each_bind _ _ _ (mark_runnerKeeps terms regressionRunId h db .failed
        (fun _ startedAt => startedAt) some) fun _ => .done _
    | _ => exact .done _

theorem runRepetitionsThread_keeps (scenarioId : String) (contract : ScenarioContract)
    (repetitionIndices : List ℕ) (progress : RegressionRunner.Progress) :
    (runRepetitionsThread db target environment libraries regressionRunId scenarioId contract
      repetitionIndices progress).Each (RunnerStepKeeps terms) := by
  induction repetitionIndices generalizing progress with
  | nil => exact .done _
  | cons repetitionIndex rest ih =>
    exact Thread.each_bind _ _ _ (runRepetitionThread_keeps terms regressionRunId h db target
      environment libraries scenarioId contract repetitionIndex) fun _ => ih _

theorem runScenariosThread_keeps (repetitions : ℕ) (scenarioIds : List String)
    (progress : RegressionRunner.Progress) :
    (runScenariosThread db target environment libraries regressionRunId repetitions scenarioIds
      progress).Each (RunnerStepKeeps terms) := by
  induction scenarioIds generalizing progress with
  | nil => exact .done _
  | cons scenarioId rest ih =>
    apply Thread.each_bind _ _ _ (.done _)
    intro contract
    exact Thread.each_bind _ _ _ (runRepetitionsThread_keeps terms regressionRunId h db target
      environment libraries scenarioId contract _ progress) fun _ => ih _

end Slots

end Runner

/-! ### Activities about other runs -/

/-- What the activity writes may be about the run. -/
def Activity.Concerns : Activity → String → Prop
  | .createRun event _, runId => event.runId = runId
  | .evaluateRun _ _ evaluated, runId => evaluated = runId
  | .createRegression _ _ _, _ => False
  | .executeRegression regressionRunId _ _ _ _, runId => ∃ scenarioId repetitionIndex,
    regressionRunEventId regressionRunId scenarioId repetitionIndex = runId

section Terms
variable (activity : Activity) (runId : String)

/-- An activity about other runs leaves the rows of the run as they are. -/
def isolationTerms : Terms Store where
  invariant := fun _ => True
  change := fun store store' => ¬ activity.Concerns runId → SameRows runId store store'
  refl := fun store _ => sameRows_refl runId store
  trans := fun a b c hab hbc hforeign =>
    sameRows_trans runId a b c (hab hforeign) (hbc hforeign)

theorem isolated_ingest (event : ExtendedRunEvent)
    (hrun : ¬ activity.Concerns runId → event.runId ≠ runId) :
    IngestKeeps (isolationTerms activity runId) event := by
  intro now store store' _ heffect
  refine ⟨trivial, fun hforeign => ?_⟩
  exact ingest_sameRows event.runId runId (hrun hforeign).symm store event rfl now store' heffect

theorem isolated_evaluation (evaluated : String)
    (hrun : ¬ activity.Concerns runId → evaluated ≠ runId) :
    EvaluationWritersKeep (isolationTerms activity runId) evaluated where
  evaluationResult := fun record store hrecord _ => ⟨trivial, fun hforeign =>
    insertEvaluationResult_sameRows evaluated runId (hrun hforeign).symm store record hrecord⟩
  judgeCall := fun record store hrecord _ => ⟨trivial, fun hforeign =>
    insertJudgeCall_sameRows evaluated runId (hrun hforeign).symm store record hrecord⟩
  runFailure := fun values store hvalues _ => ⟨trivial, fun hforeign =>
    upsertRunFailure_sameRows evaluated runId (hrun hforeign).symm store values hvalues⟩

theorem isolated_runner (regressionRunId : ℕ) (target : AgentTarget) (valid : ValidTarget target)
    (environment : History → JudgeEnvironment) (libraries : JudgeLibraries) :
    RunnerWritersKeep (isolationTerms
      (.executeRegression regressionRunId target valid environment libraries) runId)
      regressionRunId where
  ingest := fun _ scenarioId repetitionIndex =>
    isolated_ingest _ runId _ fun hforeign hid => hforeign ⟨scenarioId, repetitionIndex, hid⟩
  linkage := fun scenarioId repetitionIndex now store _ => ⟨trivial, fun hforeign =>
    link_sameRows _ runId (fun hid => hforeign ⟨scenarioId, repetitionIndex, hid.symm⟩) store
      regressionRunId scenarioId repetitionIndex now⟩
  evaluation := fun scenarioId repetitionIndex =>
    isolated_evaluation _ runId _ fun hforeign hid => hforeign ⟨scenarioId, repetitionIndex, hid⟩
  status := fun status startedAt completedAt store _ => ⟨trivial, fun _ =>
    mark_sameRows runId store store regressionRunId status startedAt completedAt
      (sameRows_refl runId store)⟩

/-- The row that is read is the regression's. -/
theorem findRegression_abides (terms : Terms Store) (db : Database) (regressionRunId : ℕ)
    (hterms : ∀ w, terms.invariant w) (w : Store) :
    Abides runnerPart terms Terms.anything
      (fun found _ => ∀ row, found = some row → row.id = regressionRunId) (fun _ _ => True)
      (.atomic Statement.read (onSession (query db.backend .regressionRun fun store =>
        store.regressionRuns.find? regressionRunId))) w := by
  apply abides_atomic
  intro v state _
  have hends := onSession_ends _ (runnerPart.install v state) _ _ (execute_ends db .regressionRun
    (.inl rfl) (fun store => (store.regressionRuns.find? regressionRunId, store))
    (runnerPart.install v state).session)
  constructor
  · rw [findRegression_published db regressionRunId v state]
    exact terms.from_self v (hterms v)
  · refine ends_mono _ _ _ _ _ _ hends ?_ fun _ _ _ _ _ => trivial
    intro found t hreturned _ _ row hrow
    obtain ⟨⟨hfound, _⟩, _⟩ := hreturned
    rw [hrow] at hfound
    exact Table.key_of_find? _ _ row hfound.symm

theorem activity_isolated (db : Database) (w : Store) :
    Abides runnerPart (isolationTerms activity runId) Terms.anything (fun _ _ => True)
      (fun _ _ => True) (activity.thread db) w := by
  have heach {α : Type} (t : RunnerThread α) (v : Store)
      (ht : t.Each (RunnerStepKeeps (isolationTerms activity runId))) :
      Abides runnerPart (isolationTerms activity runId) Terms.anything (fun _ _ => True)
        (fun _ _ => True) t v :=
    abides_of_each runnerPart _ _ t v (fun _ _ => trivial) ht
  cases activity with
  | createRun event valid =>
    apply heach
    apply request_keeps
    apply each_of_sound
    exact fun u => sound_ingest_from _ u db event
      (isolated_ingest (.createRun event valid) runId event fun hforeign => hforeign)
  | evaluateRun environment libraries evaluated =>
    apply heach
    exact request_keeps _ _ _ (evaluateRunThread_keeps _ db evaluated
      (isolated_evaluation (.evaluateRun environment libraries evaluated) runId evaluated
        fun hforeign => hforeign) environment libraries)
  | createRegression ids libraries payload =>
    apply heach
    apply request_keeps
    apply postRegressionThread_keeps
    exact fun values store _ => ⟨trivial, fun _ =>
      ⟨⟨rfl, List.Perm.refl _, rfl, rfl⟩, rfl, rfl, rfl⟩⟩
  | executeRegression regressionRunId target valid environment libraries =>
    refine abides_bind runnerPart _ _ (fun _ _ => True) _ _ _ w trivial (fun _ _ => trivial) ?_
      fun _ _ _ _ => fun _ _ => trivial
    refine abides_bind runnerPart _ _ _ _ _ _ w trivial (fun _ _ => trivial)
      (findRegression_abides _ db regressionRunId (fun _ => trivial) w) ?_
    intro found v _ hfound
    cases found with
    | none => exact fun _ _ => trivial
    | some row =>
      have hid := hfound row rfl
      subst hid
      have hwriters := isolated_runner runId row.id target valid environment libraries
      apply heach
      apply Thread.each_bind _ _ _ (mark_runnerKeeps _ row.id hwriters db .running
        (fun now _ => some now) fun _ => none)
      intro _
      apply Thread.each_bind _ _ _ (runScenariosThread_keeps _ row.id hwriters db target
        environment libraries row.repetitions row.scenarioIds _)
      intro progress
      exact Thread.each_bind _ _ _ (mark_runnerKeeps _ row.id hwriters db .completed
        (fun _ startedAt => startedAt) some) fun _ => .done _

end Terms

/-! ### In the server -/

section Results
variable {ι : Type} [DecidableEq ι] (server : Server ι) (store : Store) (sessions : ι → RunnerState)
  (before history : List (Commit ι Statement Store)) (w u : ServerPool ι)
  (hbefore : Server.Goes (server.pool store sessions) before w) (h : Server.Goes w history u)
  (runId : String)
include hbefore h

theorem isolated_commits (c : Commit ι Statement Store) (hm : c ∈ history) :
    ¬ (server.activity c.who).Concerns runId → SameRows runId c.before c.after := by
  have hplays (start v : ServerPool ι) (commits : List (Commit ι Statement Store))
      (hstart : ∀ i, Abides runnerPart (isolationTerms (server.activity i) runId) Terms.anything
        (fun _ _ => True) (fun _ _ => True) (start.threads i) start.shared)
      (hgoes : Server.Goes start commits v) :=
    abides_plays runnerPart (fun _ => True) (fun i => isolationTerms (server.activity i) runId)
      (fun _ => Terms.anything) (fun _ _ _ => True) (fun _ _ _ => True) (fun _ _ => False) start
      commits v (fun _ => rfl) (fun _ => rfl) (fun _ _ _ _ _ _ _ => trivial)
      (fun _ _ _ hfalse => hfalse.elim) trivial hstart hgoes
  have hstart := (hplays _ w before
    (fun i => activity_isolated (server.activity i) runId (server.database i) store) hbefore).2.1
  exact ((hplays w u history hstart h).2.2 c hm).2.2

/-- A change in the rows of a run goes back to a commit of an activity about that run; every
other activity leaves them alone in each of its commits. -/
theorem server_isolated :
    (∀ c ∈ history, ¬ (server.activity c.who).Concerns runId → SameRows runId c.before c.after) ∧
      (¬ SameRows runId w.shared u.shared → ∃ c ∈ history,
        (server.activity c.who).Concerns runId ∧ ¬ SameRows runId c.before c.after) := by
  have hcommits := isolated_commits server store sessions before history w u hbefore h runId
  refine ⟨hcommits, fun hchanged => ?_⟩
  by_contra hnone
  apply hchanged
  have hsame : ∀ c ∈ history, SameRows runId c.before c.after := by
    intro c hm
    by_contra hrows
    by_cases hconcerns : (server.activity c.who).Concerns runId
    · exact hnone ⟨c, hm, hconcerns, hrows⟩
    · exact hrows (hcommits c hm hconcerns)
  exact plays_induction runnerPart (fun _ _ => False) w
    (fun _ v => SameRows runId w.shared v) (sameRows_refl runId _) history u
    (fun _ c hm hbefore => sameRows_trans runId _ _ _ hbefore (hsame c hm))
    (fun _ _ _ hfalse => hfalse.elim) h

end Results

/-! ### Readers -/

/-- The detail shows the run, its failure and its latest results as the store has them. -/
structure DetailComplete (c : Collation) (store : Store) (run : AgentRun)
    (detail : RunDetailResponse) : Prop extends DetailShows c store run detail where
  failure : detail.failure = (store.runFailures.find? run.runId).map runFailureSummary
  evaluationSummary : ∃ rows : List Db.EvaluationResult,
    rows.Perm (latestEvaluationResults run.runId store) ∧
      detail.evaluationSummary.getD [] = rows.map evaluatorResultSummary

section Readers
variable (db : Database) (hreads : ∀ n w w', db.backend.verdict n .read w w' = none)
  (stores : ℕ → Store) (run : AgentRun)
  (hrun : (stores 0).agentRuns.find? run.runId = some run) (s : DbSession)
include hreads hrun

theorem getRunThread_recorded : ∃ spanRows toolCallRows llmCallRows,
    ∃ rows : List Db.EvaluationResult,
    Fetched db.collation (patched stores) run.runId spanRows toolCallRows llmCallRows ∧
      rows.Perm (latestEvaluationResults run.runId (stores 5)) ∧
      (getRunThread db run.runId).seeing committedPart stores 0 s =
        assembleDetail run spanRows toolCallRows llmCallRows
          ((stores 4).runFailures.find? run.runId) (rows.map evaluatorResultSummary) := by
  let assemble (run : AgentRun) (spans : List Db.Span) (toolCalls : List Db.ToolCall)
      (llmCalls : List Db.LLMCall) : SessionThread RunDetailResponse := do
    let runFailure ← .atomic .read (read db fun store => store.runFailures.find? run.runId)
    let evaluationSummary ← .atomic .read (latestEvaluationSummary db run.runId)
    .done (assembleDetail run spans toolCalls llmCalls runFailure evaluationSummary)
  have hselected : ∃ t, (getRunThread db run.runId).seeing committedPart stores 0 s =
      (fetchThread db run.runId (assemble run)).seeing committedPart stores 1 t := by
    unfold getRunThread
    refine (seeing_select db hreads stores run.runId _ s).imp fun t hselect => hselect.trans ?_
    rw [hrun]
  obtain ⟨t, hselect⟩ := hselected
  obtain ⟨spanRows, toolCallRows, llmCallRows, u, hf, hfetched⟩ :=
    seeing_fetched db hreads stores run.runId (assemble run) t
  obtain ⟨v, hfailure⟩ := seeing_read db hreads stores
    (fun store => store.runFailures.find? run.runId) (fun runFailure => do
      let evaluationSummary ← .atomic .read (latestEvaluationSummary db run.runId)
      .done (assembleDetail run spanRows toolCallRows llmCallRows runFailure evaluationSummary)) 4 u
  have hrows := readOrdered_accepted db hreads (fun plan store =>
    plan.evaluationResults.arrange (latestEvaluationResults run.runId store))
    (committedPart.install (stores 5) v)
  rw [view_install] at hrows
  have hsummary := Thread.seeing_atomic committedPart stores Statement.read
    (latestEvaluationSummary db run.runId)
    (fun evaluationSummary => .done (assembleDetail run spanRows toolCallRows llmCallRows
      ((stores 4).runFailures.find? run.runId) evaluationSummary)) 5 v _ _
    (bind_of_ok _ _ _ _ _ hrows)
  exact ⟨spanRows, toolCallRows, llmCallRows, _, hf, OrderBy.perm _ _,
    hselect.trans (hfetched.trans (hfailure.trans hsummary))⟩

omit hreads hrun in
theorem latestEvaluationResults_sameRows (runId : String) (a b : Store)
    (h : SameRows runId a b) : latestEvaluationResults runId b = latestEvaluationResults runId a := by
  simp only [latestEvaluationResults, h.evaluationResults]

/-- While nothing is written about the run, both readers succeed and show it as it was when
they began. -/
theorem foreign_reads (hclosed : RunClosed (stores 0) run.runId)
    (hsame : ∀ n, SameRows run.runId (stores n) (stores (n + 1))) :
    ∃ view detail,
      (evaluationRunViewThread db run.runId).seeing committedPart stores 0 s = .ok (some view) ∧
      ViewShows db.collation (stores 0) run view ∧
      (getRunThread db run.runId).seeing committedPart stores 0 s = .ok detail ∧
      DetailComplete db.collation (stores 0) run detail := by
  have hfrom : ∀ n, SameRows run.runId (stores 0) (stores n) := by
    intro n
    induction n with
    | zero => exact sameRows_refl _ _
    | succ n ih => exact sameRows_trans _ _ _ _ ih (hsame n)
  have hfetched := fetched_sameRun db.collation stores run.runId (hsame 0).toSameRun
    (hsame 1).toSameRun (hsame 2).toSameRun
  obtain ⟨⟨view, hview, hshown⟩, _⟩ :=
    bothShow_of_fetched db hreads stores run.runId run hrun s (stores 0) hclosed hfetched
  obtain ⟨spanRows, toolCallRows, llmCallRows, rows, hpatched, hrows, hended⟩ :=
    getRunThread_recorded db hreads stores run hrun s
  have hf := hfetched _ _ _ hpatched
  rw [(hfrom 4).runFailure] at hended
  rw [latestEvaluationResults_sameRows run.runId _ _ (hfrom 5)] at hrows
  obtain ⟨detail, hdetail, htrajectory, hnumbered⟩ :=
    assembleDetail_decodes db.collation (stores 0) run spanRows toolCallRows llmCallRows hf hclosed
      ((stores 0).runFailures.find? run.runId) (rows.map evaluatorResultSummary)
  obtain ⟨hfailure, hsummary⟩ :=
    assembleDetail_shows run spanRows toolCallRows llmCallRows _ _ detail hdetail
  rw [hdetail] at hended
  refine ⟨view, detail, hview, hshown, hended, ⟨⟨?_, hnumbered⟩, hfailure, rows, hrows, hsummary⟩⟩
  rw [htrajectory]
  exact fetched_shows db.collation (stores 0) run spanRows toolCallRows llmCallRows hf

end Readers

section Reader
variable {ι : Type} [DecidableEq ι] (server : Server ι) (store : Store) (sessions : ι → RunnerState)
  (hstore : Consistent store) (hready : server.Ready store)
  (before : List (Commit ι Statement Store)) (moments : ℕ → ServerPool ι)
  (hbefore : Server.Goes (server.pool store sessions) before (moments 0))
  (hgoes : ∀ n, ∃ history, Server.Goes (moments n) history (moments (n + 1)))
include hstore hready hbefore hgoes

/-- The statements of one read of a run, sent while the server works on other runs: the read
succeeds, and shows the run, its children, its failure and its latest results as they all were
at its first statement. -/
theorem server_reader (run : AgentRun)
    (hrun : (moments 0).shared.agentRuns.find? run.runId = some run)
    (hforeign : ∀ i, ¬ (server.activity i).Concerns run.runId) (db : Database)
    (hreads : ∀ n w w', db.backend.verdict n .read w w' = none) (s : DbSession) :
    ∃ view detail,
      (evaluationRunViewThread db run.runId).seeing committedPart (fun n => (moments n).shared) 0 s =
        .ok (some view) ∧
      ViewShows db.collation (moments 0).shared run view ∧
      (getRunThread db run.runId).seeing committedPart (fun n => (moments n).shared) 0 s =
        .ok detail ∧
      DetailComplete db.collation (moments 0).shared run detail := by
  have hconsistent := server_consistent server store sessions hstore hready before _ hbefore
  apply foreign_reads db hreads (fun n => (moments n).shared) run hrun s
    (hconsistent.references.closed run.runId)
  intro n
  obtain ⟨history, hhistory⟩ :=
    moments_reached server store sessions before moments hbefore hgoes n
  obtain ⟨later, hlater⟩ := hgoes n
  by_contra hchanged
  obtain ⟨c, _, hconcerns, _⟩ := (server_isolated server store sessions history later _ _ hhistory
    hlater run.runId).2 hchanged
  exact hforeign c.who hconcerns

end Reader

/-! ### Another run ingested and evaluated -/

def otherServer : Server Bool where
  database := fun _ => .plain
  activity := fun i =>
    if i then .createRun (successEvent "run-2") (successEvent_validated "run-2")
    else .evaluateRun noJudge noLibraries "run-2"
  oneRunner := by
    intro i j id hi _
    cases i <;> exact hi.elim

theorem otherServer_foreign (i : Bool) : ¬ (otherServer.activity i).Concerns "run-1" := by
  have hne : "run-2" ≠ "run-1" := by decide
  cases i <;> exact hne

theorem readStore_consistent : Consistent readStore := by
  have hreach : Reachable readStore := .request _ .empty _ _
  have hruns := reachable_invariant RunsConsistent runsConsistent_invariant.toStoreInvariant
    readStore hreach
  have hunlinked : ∀ run ∈ readStore.agentRuns.rows, run.regressionRunId = none := by
    decide +kernel
  refine ⟨hruns.1, hruns.2.1, hruns.2.2, ?_, ?_⟩
  · intro run hrun regressionRunId hlinked
    rw [hunlinked run hrun] at hlinked
    cases hlinked
  · intro id row hrow
    have hnone : readStore.regressionRuns.rows = [] := by decide +kernel
    have hmem := Table.mem_of_find? _ id row hrow
    rw [hnone] at hmem
    cases hmem

def otherMoments : ℕ → ServerPool Bool
  | 0 => otherServer.pool readStore fun _ =>
    { attempts := [], calls := [], session := Session.fresh readStore }
  | n + 1 => (otherMoments n).play runnerPart [true, false, false]

theorem otherMoments_goes (n : ℕ) :
    ∃ history, Server.Goes (otherMoments n) history (otherMoments (n + 1)) :=
  ⟨_, plays_play runnerPart _ _ [] (otherMoments n) .start [true, false, false]⟩

theorem server_isolated_sample : ∃ history, Server.Goes (otherMoments 0) history (otherMoments 1) ∧
    (∀ c ∈ history, SameRows "run-1" c.before c.after) ∧
    ∃ c ∈ history, (otherServer.activity c.who).Concerns "run-2" ∧
      ¬ SameRows "run-2" c.before c.after := by
  obtain ⟨history, h⟩ := otherMoments_goes 0
  have hchanged : ¬ SameRows "run-2" (otherMoments 0).shared (otherMoments 1).shared := by
    intro hsame
    have hbefore : (otherMoments 0).shared.agentRuns.find? "run-2" = none := by decide +kernel
    have hafter : ((otherMoments 1).shared.agentRuns.find? "run-2").isSome = true := by
      decide +kernel
    rw [hsame.agentRun, hbefore] at hafter
    cases hafter
  refine ⟨history, h, fun c hm => ?_, ?_⟩
  · exact (server_isolated otherServer readStore _ [] history _ _ .start h "run-1").1 c hm
      (otherServer_foreign c.who)
  · exact (server_isolated otherServer readStore _ [] history _ _ .start h "run-2").2 hchanged

theorem server_reader_sample : ∃ run view detail,
    (evaluationRunViewThread .plain "run-1").seeing committedPart
      (fun n => (otherMoments n).shared) 0 (Session.fresh readStore) = .ok (some view) ∧
    ViewShows Database.plain.collation readStore run view ∧
    (getRunThread .plain "run-1").seeing committedPart
      (fun n => (otherMoments n).shared) 0 (Session.fresh readStore) = .ok detail ∧
    DetailComplete Database.plain.collation readStore run detail := by
  have hsome : (readStore.agentRuns.find? "run-1").isSome = true := by decide +kernel
  obtain ⟨run, hrun⟩ := Option.isSome_iff_exists.mp hsome
  have hid : run.runId = "run-1" := Table.key_of_find? _ _ run hrun
  obtain ⟨view, detail, h⟩ := server_reader otherServer readStore _ readStore_consistent
    (fun i _ howns => by cases i <;> exact howns.elim) [] otherMoments .start otherMoments_goes run
    (hid ▸ hrun) (hid ▸ otherServer_foreign) .plain (fun _ _ _ => rfl) (Session.fresh readStore)
  rw [hid] at h
  exact ⟨run, view, detail, h⟩

end ObsPlatform.Platform
