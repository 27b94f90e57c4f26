import ObsPlatform.Platform.ServerSteps
import ObsPlatform.Regressions.Report

/-!
# The server at work

Requests and regressions in the background run beside each other on one store, each through
a session of its own, and take turns at their commits. An ingestion is one step, from the read of
its guard to its commit; what the others can do in between is the subject of
`Ingestion.Concurrent`. The runner of a regression relies on nobody else moving its row;
everybody else promises that.
-/

namespace ObsPlatform.Platform

open Telemetry Db UnitOfWork Evaluation Ingestion Stateful Regressions Routes

/-! ### The terms -/

/-- What a side that owns the regressions `may` names does to the store. -/
structure ServerChange (may : ℕ → Prop) (store store' : Store) : Prop where
  grows : Grows store store'
  course : Course may store store'
  linkage : LinkageKept store store'

def serverTerms (I : Store → Prop) (may : ℕ → Prop) : Terms Store where
  invariant := fun store => I store ∧ LinkedInSlots store
  change := ServerChange may
  refl := fun store => ⟨grows_refl store, course_refl may store, linkageKept_same store store rfl⟩
  trans := fun a b c hab hbc => ⟨grows_trans a b c hab.grows hbc.grows,
    course_trans may a b c hab.course hbc.course, linkageKept_trans a b c hab.linkage hbc.linkage⟩

/-- A property of the stored runs, whatever the regressions are. -/
structure RunsInvariant (I : Store → Prop) : Prop extends StoreInvariant I where
  regressionRuns : ∀ store regressionRuns, I store →
    I { store with regressionRuns := regressionRuns }

theorem runsInvariant_and (I J : Store → Prop) (hI : RunsInvariant I) (hJ : RunsInvariant J) :
    RunsInvariant fun store => I store ∧ J store where
  empty := ⟨hI.empty, hJ.empty⟩
  ingest := fun event now store store' hv h heffect =>
    ⟨hI.ingest event now store store' hv h.1 heffect,
      hJ.ingest event now store store' hv h.2 heffect⟩
  link := fun runId regressionRunId scenarioId repetitionIndex now store h =>
    ⟨hI.link runId regressionRunId scenarioId repetitionIndex now store h.1,
      hJ.link runId regressionRunId scenarioId repetitionIndex now store h.2⟩
  evaluationResult := fun record store h =>
    ⟨hI.evaluationResult record store h.1, hJ.evaluationResult record store h.2⟩
  judgeCall := fun record store h => ⟨hI.judgeCall record store h.1, hJ.judgeCall record store h.2⟩
  runFailure := fun values store h =>
    ⟨hI.runFailure values store h.1, hJ.runFailure values store h.2⟩
  regressionRuns := fun store regressionRuns h =>
    ⟨hI.regressionRuns store regressionRuns h.1, hJ.regressionRuns store regressionRuns h.2⟩

section Writes
variable (I : Store → Prop) (hI : RunsInvariant I) (may : ℕ → Prop)

theorem keep_aside (store store' : Store) (h : (serverTerms I may).invariant store) (hI' : I store')
    (hgrows : Grows store store') (hregressions : store'.regressionRuns = store.regressionRuns)
    (hruns : store'.agentRuns = store.agentRuns) : (serverTerms I may).Keep store store' := by
  have hcourse := course_same may store store' hregressions
  exact ⟨⟨hI', linkedInSlots_course may store store' hcourse hruns h.2⟩, hgrows, hcourse,
    linkageKept_same store store' hruns⟩

include hI

theorem server_writersKeep : WritersKeep (serverTerms I may) where
  ingest := by
    intro event hv now store store' h heffect
    have hi := ingestEffect_ingested event now store store' heffect ((validated_iff event).mp hv).1
    exact ⟨⟨hI.ingest event now store store' hv h.1 heffect,
      ingest_linkedInSlots event now store store' heffect h.2⟩,
      ingest_grows event now store store' hi, course_same may store store' hi.regressionRuns,
      ingest_linkageKept event now store store' heffect⟩
  evaluation := fun _ =>
    { evaluationResult := fun record store _ h => keep_aside I may store _ h
        (hI.evaluationResult record store h.1) (insertEvaluationResult_grows record store) rfl rfl
      judgeCall := fun record store _ h => keep_aside I may store _ h
        (hI.judgeCall record store h.1) (insertJudgeCall_grows record store) rfl rfl
      runFailure := fun values store _ h => keep_aside I may store _ h
        (hI.runFailure values store h.1) (upsertRunFailure_grows values store) rfl rfl }

/-- A change of regression_runs alone. -/
theorem keep_course (store : Store) (regressionRuns : Table RegressionRun.id)
    (h : (serverTerms I may).invariant store)
    (hcourse : Course may store { store with regressionRuns := regressionRuns }) :
    (serverTerms I may).Keep store { store with regressionRuns := regressionRuns } :=
  ⟨⟨hI.regressionRuns store regressionRuns h.1,
    linkedInSlots_course may store { store with regressionRuns := regressionRuns } hcourse rfl h.2⟩,
    course_grows may store regressionRuns hcourse, hcourse, linkageKept_same _ _ rfl⟩

theorem insertRegressionRun_keep (ids : RegressionIds) (libraries : JudgeLibraries)
    (values : NewRegressionRun) (store : Store) (h : (serverTerms I may).invariant store) :
    (serverTerms I may).Keep store (insertRegressionRun ids libraries values store) :=
  keep_course I hI may store _ h (course_insert may ids libraries values store)

theorem updateRegressionRun_keep (regressionRunId : ℕ) (howned : may regressionRunId)
    (status : RegressionStatus) (startedAt : Option Timestamp → Option Timestamp)
    (completedAt : Option Timestamp) (store : Store) (row : RegressionRun)
    (h : (serverTerms I may).invariant store)
    (hrow : store.regressionRuns.find? regressionRunId = some row)
    (hstep : StatusStep row { row with
      status := status, startedAt := startedAt row.startedAt, completedAt := completedAt }) :
    (serverTerms I may).Keep store
      (updateRegressionRun regressionRunId status startedAt completedAt store) :=
  keep_course I hI may store _ h
    (course_update may regressionRunId howned status startedAt completedAt store row hrow hstep)

theorem slotLinked_keep (regressionRunId : ℕ) (slot : Slot) (now : Timestamp) (store : Store)
    (regression : RegressionRun) (h : (serverTerms I may).invariant store)
    (hstored : store.regressionRuns.find? regressionRunId = some regression)
    (hslot : slot ∈ slots regression.scenarioIds regression.repetitions) :
    (serverTerms I may).Keep store (slotLinked regressionRunId slot now store) :=
  ⟨⟨hI.link _ _ _ _ now store h.1,
    link_linkedInSlots regressionRunId slot now store regression hstored hslot h.2⟩,
    link_grows _ _ _ _ now store, course_same may _ _ rfl,
    link_linkageKept regressionRunId slot now store h.2⟩

end Writes

/-! ### A slot of a regression under way -/

/-- The events a target returns are validated ones. -/
structure ValidTarget (target : AgentTarget) : Prop where
  runScenario : ∀ history contract event, target.runScenario history contract = .ok event →
    Validated event
  resumeAfterApproval : ∀ history checkpointId decision event,
    target.resumeAfterApproval history checkpointId decision = .ok event → Validated event

section Slot
variable (I : Store → Prop) (row : RegressionRun)

def slotTerms : Terms Store := (serverTerms I fun id => id = row.id).keeping (Underway row)

def slotRely : Terms Store := (serverTerms I fun id => id ≠ row.id).keeping (Underway row)

/-- The runner of the regression keeps its promise, and returns in `returned`. -/
abbrev SlotAbides {α : Type} (returned : α → Store → Prop) (t : RunnerThread α) (w : Store) :
    Prop :=
  Abides runnerPart (slotTerms I row) (slotRely I row) returned (fun _ _ => True) t w

theorem slot_bind {α β : Type} (mid : α → Store → Prop) (returned : β → Store → Prop)
    (t : RunnerThread α) (f : α → RunnerThread β) (w : Store)
    (hw : (slotTerms I row).invariant w) (ht : SlotAbides I row mid t w)
    (hf : ∀ a v, (slotTerms I row).invariant v → mid a v → SlotAbides I row returned (f a) v) :
    SlotAbides I row returned (t >>= f) w :=
  abides_bind runnerPart _ _ _ _ t f w hw (fun _ h => h) ht hf

theorem slot_return {α : Type} (returned : α → Prop) (a : α) (h : returned a) (w : Store) :
    SlotAbides I row (fun a _ => returned a) (pure a) w :=
  fun _ _ => h

/-- A filled slot stays filled, whoever goes on. -/
theorem slot_filled {σ α : Type} (part : SharedPart Store σ) (returned : α → Prop)
    (regressionRunId : ℕ) (slot : Slot) (t : Thread Statement Error σ α) (w : Store)
    (hfilled : Filled regressionRunId slot w)
    (h : Abides part (slotTerms I row) (slotRely I row) (fun a _ => returned a) (fun _ _ => True)
      t w) :
    Abides part (slotTerms I row) (slotRely I row)
      (fun a v => returned a ∧ Filled regressionRunId slot v) (fun _ _ => True) t w := by
  have hstable := abides_stable part (slotTerms I row) (slotRely I row) _ _
    (Filled regressionRunId slot) t w hfilled
    (fun v v' hv hchange => filled_kept _ slot v v' hchange.linkage hv)
    (fun v v' hv hchange => filled_kept _ slot v v' hchange.linkage hv) h
  exact abides_mono part _ _ _ _ _ _ t w hstable (fun _ _ h => h) fun _ _ _ => trivial

/-- A step that commits nothing. -/
theorem slot_quiet {α : Type} (x : RunnerM α)
    (hx : ∀ v state, runnerPart.published (after x (runnerPart.install v state)) = v) (w : Store) :
    SlotAbides I row (fun _ _ => True) (.atomic .read x) w := by
  apply abides_of_each runnerPart (slotTerms I row) (slotRely I row) _ w fun _ h => h
  exact quiet_keeps _ x hx

/-- A commit with nothing to publish. -/
theorem slot_commit (w : Store) :
    SlotAbides I row (fun _ _ => True) (.atomic .read (onSession commit)) w :=
  slot_quiet I row (onSession commit) (fun v state => view_install v state.session) w

theorem slot_onSession {α : Type} (t : SessionThread α) (ht : t.Each (StepKeeps (slotTerms I row)))
    (w : Store) : SlotAbides I row (fun _ _ => True) (threadOnSession t) w := by
  apply abides_of_each runnerPart (slotTerms I row) (slotRely I row) _ w fun _ h => h
  exact threadOnSession_keeps _ t ht

/-- A step that commits nothing, with what it returns. -/
theorem slot_returns {α : Type} (returned : α → Prop) (x : RunnerM α)
    (hx : ∀ v, Preserves (fun state : RunnerState => state.session.committed = v) x)
    (hends : ∀ state, Ends x state (fun a _ => returned a) fun _ _ => True) (w : Store) :
    SlotAbides I row (fun a _ => returned a) (.atomic .read x) w := by
  apply abides_atomic
  intro v state hv
  constructor
  · have hpublished : runnerPart.published (after x (runnerPart.install v state)) = v :=
      hx v (runnerPart.install v state) rfl
    rw [hpublished]
    exact (slotTerms I row).from_self v hv.1
  · exact ends_mono _ _ _ _ _ _ (hends _) (fun _ _ h _ _ => h) fun _ _ _ _ _ => trivial

section Target
variable (runner : RegressionRunner) (htarget : ValidTarget runner.target)
include htarget

theorem slot_runScenario (contract : ScenarioContract) (w : Store) :
    SlotAbides I row (fun event _ => Validated event) (.atomic .read (runner.runScenario contract))
      w := by
  apply slot_returns
  · exact fun v => preserves_bind _ _ _ (preserves_modify _ _ fun _ h => h)
      fun _ => preserves_answer _ _
  · exact fun state => ends_second _ _ state _ fun _ t =>
      ends_mono _ _ _ _ _ _ (answer_ends _ t)
        (fun event _ h => htarget.runScenario t.toHistory contract event h.2) fun _ _ _ => trivial

theorem slot_resumeAfterApproval (checkpointId decision : String) (w : Store) :
    SlotAbides I row (fun event _ => Validated event)
      (.atomic .read (runner.resumeAfterApproval checkpointId decision)) w := by
  apply slot_returns
  · exact fun v => preserves_bind _ _ _ (preserves_get _) fun _ =>
      preserves_bind _ _ _ (preserves_modify _ _ fun _ h => h) fun _ => preserves_answer _ _
  · exact fun state => ends_second _ _ state _ fun _ t => ends_second _ _ t _ fun _ u =>
      ends_mono _ _ _ _ _ _ (answer_ends _ u)
        (fun event _ h => htarget.resumeAfterApproval u.toHistory checkpointId decision event h.2)
        fun _ _ _ => trivial

end Target

theorem validated_withRunId (event : ExtendedRunEvent) (runId : String) (h : Validated event) :
    Validated (withRunId event runId) := h

/-! ### What the slot writes -/

variable (hI : RunsInvariant I)

theorem keep_underway (store store' : Store) (h : (slotTerms I row).invariant store)
    (hregressions : store'.regressionRuns = store.regressionRuns)
    (hkeep : (serverTerms I fun id => id = row.id).Keep store store') :
    (slotTerms I row).Keep store store' := by
  refine ⟨⟨hkeep.1, ?_⟩, hkeep.2⟩
  obtain ⟨now, hrow⟩ := h.2
  exact ⟨now, hregressions ▸ hrow⟩

include hI

theorem slot_writersKeep : WritersKeep (slotTerms I row) := by
  have hwriters := server_writersKeep I hI fun id => id = row.id
  constructor
  · intro event hv now store store' h heffect
    exact keep_underway I row store store' h
      (ingestEffect_regressionRuns event now store store' heffect)
      (hwriters.ingest event hv now store store' h.1 heffect)
  · intro runId
    have hevaluation := hwriters.evaluation runId
    constructor
    · exact fun record store hrecord h => keep_underway I row store _ h rfl
        (hevaluation.evaluationResult record store hrecord h.1)
    · exact fun record store hrecord h => keep_underway I row store _ h rfl
        (hevaluation.judgeCall record store hrecord h.1)
    · exact fun values store hvalues h => keep_underway I row store _ h rfl
        (hevaluation.runFailure values store hvalues h.1)

/-! The linkage: the run is there when it is read, and still there when it is linked. -/

section Linkage
variable (db : Database) (slot : Slot)

def RunStored (store : Store) : Prop :=
  (store.agentRuns.find?
    (regressionRunEventId row.id slot.scenarioId slot.repetitionIndex)).isSome

omit hI in
theorem runStored_grows (store store' : Store) (h : Grows store store')
    (hstored : RunStored row slot store) : RunStored row slot store' := by
  obtain ⟨run, hrow⟩ := Option.isSome_iff_exists.mp hstored
  obtain ⟨run', hrow', _⟩ := h.agentRuns _ run hrow
  exact Option.isSome_iff_exists.mpr ⟨run', hrow'⟩

omit hI in
theorem linkage_read (w : Store) :
    Abides committedPart (slotTerms I row) (slotRely I row)
      (fun record v => record.isSome → RunStored row slot v) (fun _ _ => True)
      (.atomic Statement.read (getAgentRun db
        (regressionRunEventId row.id slot.scenarioId slot.repetitionIndex))) w := by
  apply abides_atomic
  intro v s hv
  constructor
  · exact stepKeeps_of_sound _ .read _ (fun _ => sound_selectAgentRun _ db _) v s hv.1
  · have hread := delivers_selectAgentRun db
      (regressionRunEventId row.id slot.scenarioId slot.repetitionIndex) (committedPart.install v s)
    refine ends_mono _ _ _ _ _ _ hread ?_ fun _ _ _ _ _ => trivial
    intro record t hreturned u hu hsome
    obtain ⟨rfl, rfl⟩ := hreturned
    rw [view_install] at hsome
    exact runStored_grows row slot v u hu.2.grows hsome

theorem linkage_write (hslot : slot ∈ slots row.scenarioIds row.repetitions) (w : Store)
    (hstored : RunStored row slot w) :
    Abides committedPart (slotTerms I row) (slotRely I row)
      (fun _ v => Filled row.id slot v) (fun _ _ => True)
      (.atomic Statement.linkage (do
        let now ← now db
        update db .linkage (updateLinkage
          (regressionRunEventId row.id slot.scenarioId slot.repetitionIndex) row.id
          slot.scenarioId slot.repetitionIndex now)
        commit)) w := by
  apply abides_atomic
  intro v s hv
  constructor
  · refine stepKeeps_of_sound _ .linkage _ (fun w' => ?_) v s hv.1
    refine preserves_bind _ _ _ (sound_now _ db) fun now => ?_
    refine preserves_bind _ _ _ (sound_write _ db.backend .linkage _ ?_) fun _ => sound_commit _
    intro store hstore
    apply (slotTerms I row).from_step w' store _ hstore
    intro h
    obtain ⟨startedAt, hrow⟩ := h.2
    exact keep_underway I row store _ h rfl
      (slotLinked_keep I hI _ row.id slot now store _ h.1 hrow hslot)
  · refine ends_bind _ _ _ (fun _ t => t = committedPart.install v s) _ _
      (ends_of_ok _ _ _ _ _ _ rfl rfl) ?_
    intro now t hreturned
    subst hreturned
    have hwrite := delivers_execute db.backend .linkage (fun store => ((), updateLinkage
      (regressionRunEventId row.id slot.scenarioId slot.repetitionIndex) row.id slot.scenarioId
      slot.repetitionIndex now store)) (committedPart.install v s)
    refine ends_bind _ _ _ _ _ _ (ends_mono _ _ _ _ _ _ hwrite (fun _ _ h => h)
      fun _ _ _ _ _ => trivial) ?_
    intro _ t hreturned
    obtain ⟨_, rfl⟩ := hreturned
    refine ends_of_ok _ _ _ () _ _ rfl fun u hu => ?_
    apply filled_kept _ slot _ u hu.2.linkage
    have hview : (committedPart.install v s).view = v := view_install v s
    show Filled row.id slot (slotLinked row.id slot now (committedPart.install v s).view)
    rw [hview]
    exact filled_slotLinked row.id slot now v (runStored_grows row slot w v hv.2.grows hstored)

theorem linkageThread_fills (hslot : slot ∈ slots row.scenarioIds row.repetitions) (w : Store)
    (hw : (slotTerms I row).invariant w) :
    Abides committedPart (slotTerms I row) (slotRely I row)
      (fun _ v => Filled row.id slot v) (fun _ _ => True)
      (persistRegressionLinkageThread db
        (regressionRunEventId row.id slot.scenarioId slot.repetitionIndex) row.id slot.scenarioId
        slot.repetitionIndex) w := by
  refine abides_bind committedPart (slotTerms I row) (slotRely I row) _ _ _ _ w hw (fun _ h => h)
    (linkage_read I row db slot w) ?_
  intro record v hv hstored
  cases record with
  | none => exact fun _ _ => trivial
  | some record =>
    refine abides_bind committedPart (slotTerms I row) (slotRely I row) _ _ _ _ v hv
      (fun _ h => h) (linkage_write I row hI db slot hslot v (hstored rfl)) ?_
    intro _ u _ hfilled
    have hrefresh := abides_of_each committedPart (slotTerms I row) (slotRely I row) _ u
      (fun _ h => h) (each_of_sound _ .read _ fun _ => sound_refreshAgentRun _ db
        (regressionRunEventId row.id slot.scenarioId slot.repetitionIndex))
    have hstill := slot_filled I row committedPart (fun _ => True) row.id slot _ u hfilled hrefresh
    exact abides_mono committedPart _ _ _ _ _ _ _ u hstill (fun _ _ h => h.2) fun _ _ _ => trivial

end Linkage

theorem slot_ingest (db : Database) (event : ExtendedRunEvent) (hv : Validated event) (w : Store)
    (hw : (slotTerms I row).invariant w) :
    SlotAbides I row (fun _ _ => True) (ingestThread db event) w := by
  apply slot_bind I row (fun _ _ => True) _ _ _ w hw (slot_quiet I row get (fun _ _ => rfl) w)
  intro state v hv' _
  refine slot_bind I row (fun _ _ => True) _ _ _ v hv' (slot_onSession I row _ ?_ v) ?_
  · apply each_of_sound
    exact fun u => preserves_bind _ _ _
      (sound_ingest_from _ u db event ((slot_writersKeep I row hI).ingest event hv))
      fun _ => preserves_pure _ _
  · exact fun _ u _ _ => slot_quiet I row _ (fun _ _ => rfl) u

theorem slot_link (db : Database) (slot : Slot)
    (hslot : slot ∈ slots row.scenarioIds row.repetitions) (w : Store)
    (hw : (slotTerms I row).invariant w) :
    SlotAbides I row (fun _ v => Filled row.id slot v)
      (linkThread db (regressionRunEventId row.id slot.scenarioId slot.repetitionIndex) row.id
        slot.scenarioId slot.repetitionIndex) w := by
  apply slot_bind I row (fun _ v => Filled row.id slot v) _ _ _ w hw
  · exact abides_zoom committedPart _ _ _ _ runnerPart _ _ (fun _ _ => rfl) (fun _ _ => rfl) _ w
      (linkageThread_fills I row hI db slot hslot w hw)
  · intro _ v _ hfilled
    apply abides_mono runnerPart _ _ _ _ _ _ _ v (slot_filled I row runnerPart (fun _ => True)
      row.id slot _ v hfilled (slot_quiet I row _ (fun _ _ => rfl) v))
    · exact fun _ _ h => h.2
    · exact fun _ _ _ => trivial

theorem slot_evaluate (db : Database) (environment : History → JudgeEnvironment)
    (libraries : JudgeLibraries) (runId : String) (w : Store)
    (hw : (slotTerms I row).invariant w) :
    SlotAbides I row (fun _ _ => True) (evaluateThread db environment libraries runId) w := by
  apply slot_bind I row (fun _ _ => True) _ _ _ w hw (slot_quiet I row _ (fun _ _ => rfl) w)
  intro _ v hv _
  apply slot_bind I row (fun _ _ => True) _ _ _ v hv (slot_quiet I row get (fun _ _ => rfl) v)
  intro state u _ _
  apply slot_onSession
  apply Thread.each_bind _ _ _
    (runEvaluationThread_keeps _ db runId ((slot_writersKeep I row hI).evaluation runId) _ _)
  exact fun _ => .done _

section RunOne
variable (db : Database) (target : AgentTarget) (htarget : ValidTarget target)
  (environment : History → JudgeEnvironment) (libraries : JudgeLibraries)
  (contract : ScenarioContract) (repetitionIndex : ℕ)
  (hslot : ⟨contract.scenarioId, repetitionIndex⟩ ∈ slots row.scenarioIds row.repetitions)
include htarget hslot

theorem slot_runOneHitl (w : Store) (hw : (slotTerms I row).invariant w) :
    SlotAbides I row
      (fun runId v => runId = regressionRunEventId row.id contract.scenarioId repetitionIndex ∧
        Filled row.id ⟨contract.scenarioId, repetitionIndex⟩ v)
      (runOneHitlThread db target environment libraries row.id contract repetitionIndex) w := by
  have hlink := slot_link I row hI db ⟨contract.scenarioId, repetitionIndex⟩ hslot
  apply slot_bind I row (fun event _ => Validated event) _ _ _ w hw (slot_runScenario I row
    (defaultRunner db target environment libraries) htarget contract w)
  intro pendingEvent v hv hpending
  apply slot_bind I row (fun _ _ => True) _ _ _ v hv
    (slot_ingest I row hI db _ (validated_withRunId _ _ hpending) v hv)
  intro _ v hv _
  apply slot_bind I row _ _ _ _ v hv (hlink v hv)
  intro _ v hv _
  apply slot_bind I row (fun _ _ => True) _ _ _ v hv
    (slot_onSession I row _ (assertHitlGateHeldThread_keeps _ db _) v)
  intro checkpointId v hv _
  apply slot_bind I row (fun event _ => Validated event) _ _ _ v hv (slot_resumeAfterApproval I row
    (defaultRunner db target environment libraries) htarget checkpointId "approve" v)
  intro approvedEvent v hv happroved
  apply slot_bind I row (fun _ _ => True) _ _ _ v hv
    (slot_ingest I row hI db _ (validated_withRunId _ _ happroved) v hv)
  intro _ v hv _
  apply slot_bind I row _ _ _ _ v hv (hlink v hv)
  intro _ v hv hfilled
  apply slot_filled I row runnerPart _ row.id _ _ v hfilled
  apply slot_bind I row (fun _ _ => True) _ _ _ v hv (slot_commit I row v)
  intro _ v hv _
  apply slot_bind I row (fun _ _ => True) _ _ _ v hv
    (slot_evaluate I row hI db environment libraries _ v hv)
  exact fun _ v _ _ => slot_return I row _ _ rfl v

theorem slot_runOne (w : Store) (hw : (slotTerms I row).invariant w) :
    SlotAbides I row
      (fun runId v => runId = regressionRunEventId row.id contract.scenarioId repetitionIndex ∧
        Filled row.id ⟨contract.scenarioId, repetitionIndex⟩ v)
      (runOneThread db target environment libraries row.id contract repetitionIndex) w := by
  unfold runOneThread
  cases requiresHitlFlow contract with
  | true =>
    exact slot_runOneHitl I row hI db target htarget environment libraries contract
      repetitionIndex hslot w hw
  | false =>
    apply slot_bind I row (fun event _ => Validated event) _ _ _ w hw (slot_runScenario I row
      (defaultRunner db target environment libraries) htarget contract w)
    intro event v hv hevent
    apply slot_bind I row (fun _ _ => True) _ _ _ v hv
      (slot_ingest I row hI db _ (validated_withRunId _ _ hevent) v hv)
    intro _ v hv _
    apply slot_bind I row _ _ _ _ v hv
      (slot_link I row hI db ⟨contract.scenarioId, repetitionIndex⟩ hslot v hv)
    intro _ v hv hfilled
    apply slot_filled I row runnerPart _ row.id _ _ v hfilled
    apply slot_bind I row (fun _ _ => True) _ _ _ v hv (slot_commit I row v)
    intro _ v hv _
    apply slot_bind I row (fun _ _ => True) _ _ _ v hv
      (slot_evaluate I row hI db environment libraries _ v hv)
    exact fun _ v _ _ => slot_return I row _ _ rfl v

end RunOne

end Slot

/-! ### The regression in the background -/

section Regression
variable (I : Store → Prop) (hI : RunsInvariant I) (regressionRunId : ℕ)

def ownTerms : Terms Store := serverTerms I fun id => id = regressionRunId

def othersTerms : Terms Store := serverTerms I fun id => id ≠ regressionRunId

/-- The runner of the regression keeps its promise beside the others. -/
abbrev RunnerAbides {α : Type} (returned : α → Store → Prop) (t : RunnerThread α) (w : Store) :
    Prop :=
  Abides runnerPart (ownTerms I regressionRunId) (othersTerms I regressionRunId) returned
    (fun _ _ => True) t w

theorem underway_others (row : RegressionRun) (hid : row.id = regressionRunId) (v v' : Store)
    (h : Underway row v) (hkeep : (othersTerms I regressionRunId).Keep v v') : Underway row v' :=
  course_underway _ row v v' hkeep.2.course (fun hne => hne hid) h

/-- A slot, seen from outside: the regression is still under way when it ends. -/
theorem abides_slot {α : Type} (returned : α → Store → Prop) (row : RegressionRun)
    (hid : row.id = regressionRunId) (t : RunnerThread α) (w : Store) (hunderway : Underway row w)
    (h : SlotAbides I row returned t w) :
    Abides runnerPart (ownTerms I regressionRunId) (othersTerms I regressionRunId)
      (fun a v => returned a v ∧ Underway row v) (fun _ v => True ∧ Underway row v) t w := by
  subst hid
  exact abides_keeping runnerPart _ _ _ _ (Underway row) t w hunderway
    (fun v v' hv hkeep => underway_others I row.id row rfl v v' hv hkeep) h

section Mark
variable (db : Database) (status : RegressionStatus)
  (startedAt : Timestamp → Option Timestamp → Option Timestamp)
  (completedAt : Timestamp → Option Timestamp)

/-- What marking the regression takes and what it leaves. -/
theorem mark_abides (mid : Store → Prop) (w : Store)
    (hkeep : ∀ v, (othersTerms I regressionRunId).Keep w v → ∀ now,
      (ownTerms I regressionRunId).Keep v
          (updateRegressionRun regressionRunId status (startedAt now) (completedAt now) v) ∧
        mid (updateRegressionRun regressionRunId status (startedAt now) (completedAt now) v))
    (hmid : ∀ v v', mid v → (othersTerms I regressionRunId).Keep v v' → mid v') :
    RunnerAbides I regressionRunId (fun _ v => mid v) (.atomic .regressionStatus (onSession (do
      let now ← now db
      update db .regressionStatus
        (updateRegressionRun regressionRunId status (startedAt now) (completedAt now))
      commit))) w := by
  apply abides_atomic
  intro v state hv
  have hends := onSession_ends _ (runnerPart.install v state) _ _ (mark_ends db (fun now =>
    updateRegressionRun regressionRunId status (startedAt now) (completedAt now))
      (runnerPart.install v state).session)
  have hview : (runnerPart.install v state).session.view = v := view_install v state.session
  cases hends with
  | ok a t hx hreturned =>
    obtain ⟨⟨now, hcommitted, _⟩, _⟩ := hreturned
    rw [hview] at hcommitted
    obtain ⟨hown, hleft⟩ := hkeep v hv now
    have hpublished : runnerPart.published t =
        updateRegressionRun regressionRunId status (startedAt now) (completedAt now) v := hcommitted
    refine ⟨?_, ends_of_ok _ _ t a _ _ hx ?_⟩
    · rw [after_ok _ _ t a hx, hpublished]
      exact hown
    · exact fun v' hv' => hmid _ v' (hpublished ▸ hleft) hv'
  | error e t hx hraised =>
    obtain ⟨⟨_, hcommitted⟩, _⟩ := hraised
    have hpublished : runnerPart.published t = v := hcommitted
    refine ⟨?_, ends_of_error _ _ t e _ _ hx fun _ _ => trivial⟩
    rw [after_error _ _ t e hx, hpublished]
    exact (ownTerms I regressionRunId).from_self v hv.1

end Mark

end Regression

end ObsPlatform.Platform
