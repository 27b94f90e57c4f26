import ObsPlatform.Platform.Server
import ObsPlatform.Regressions.Resumed

/-!
# Runs of the server

Any number of requests, and at most one runner for each regression, take their steps in any
order. What the claims on requests served one after another say of every stored run holds in
every store they leave; a regression only moves on, by its own runner; and nothing is lost.
-/

namespace ObsPlatform.Platform

open Telemetry Db UnitOfWork Evaluation Ingestion Stateful Regressions Routes

/-! ### The loops of the runner -/

section Loops
variable (I : Store → Prop) (hI : RunsInvariant I) (row : RegressionRun) (db : Database)
  (target : AgentTarget) (htarget : ValidTarget target) (environment : History → JudgeEnvironment)
  (libraries : JudgeLibraries)

/-- Where the loops stand: the slots so far are accounted for, and the regression goes on. -/
def Standing (attempted : List Slot) (progress : RegressionRunner.Progress) (store : Store) :
    Prop :=
  AccountsFor row.id store attempted progress ∧ Underway row store

theorem standing_others (attempted : List Slot) (progress : RegressionRunner.Progress)
    (v v' : Store) (h : Standing row attempted progress v)
    (hkeep : (othersTerms I row.id).Keep v v') : Standing row attempted progress v' :=
  ⟨accountsFor_kept row.id v v' hkeep.2.linkage attempted progress h.1,
    underway_others I row.id row rfl v v' h.2 hkeep⟩

/-- A slot leaves the loops where they stand. -/
theorem abides_standing {α : Type} (returned : α → Store → Prop) (attempted : List Slot)
    (progress : RegressionRunner.Progress) (t : RunnerThread α) (w : Store)
    (hstanding : Standing row attempted progress w) (h : SlotAbides I row returned t w) :
    Abides runnerPart (ownTerms I row.id) (othersTerms I row.id)
      (fun a v => returned a v ∧ Standing row attempted progress v)
      (fun _ v => Standing row attempted progress v) t w := by
  have hstable := abides_stable runnerPart (ownTerms I row.id) (othersTerms I row.id) _ _
    (fun v => AccountsFor row.id v attempted progress) t w hstanding.1
    (fun v v' hv hchange => accountsFor_kept row.id v v' hchange.linkage attempted progress hv)
    (fun v v' hv hchange => accountsFor_kept row.id v v' hchange.linkage attempted progress hv)
    (abides_slot I row.id returned row rfl t w hstanding.2 h)
  exact abides_mono runnerPart _ _ _ _ _ _ t w hstable (fun _ _ h => ⟨h.1.1, h.2, h.1.2⟩)
    fun _ _ h => ⟨h.2, h.1.2⟩

include hI

/-- A gate violation marks the regression failed and is raised again; every other error is
reported, and the loop goes on. -/
theorem abides_handler (scenarioId : String) (repetitionIndex : ℕ) (attempted : List Slot)
    (progress : RegressionRunner.Progress) (e : Error) (w : Store)
    (hw : (ownTerms I row.id).invariant w) (hstanding : Standing row attempted progress w) :
    RunnerAbides I row.id
      (fun outcome => Standing row (attempted ++ [⟨scenarioId, repetitionIndex⟩])
        (progress.append outcome))
      (match e with
      | .hitlGateViolation _ => do
        Thread.atomic .regressionStatus (onSession (markFailed db row.id))
        throw e
      | _ => pure (.error
          { scenarioId := scenarioId
            repetitionIndex := repetitionIndex
            errorType := e.typeName
            message := e.message }) : RunnerThread (Except RegressionRunError String)) w := by
  have hothers := standing_others I row attempted progress w
  cases e with
  | hitlGateViolation message =>
    refine abides_bind runnerPart _ _ (fun _ _ => True) _ _ _ w hw (fun _ h => h) ?_
      fun _ _ _ _ => fun _ _ => trivial
    apply mark_abides I row.id db .failed (fun _ startedAt => startedAt) some fun _ => True
    · intro v hv now
      obtain ⟨startedAt, hrow⟩ := (hothers v hstanding hv).2
      refine ⟨?_, trivial⟩
      exact updateRegressionRun_keep I hI (fun id => id = row.id) row.id rfl .failed
        (fun startedAt => startedAt) (some now) v _ hv.1 hrow (.fail _ now rfl)
    · exact fun _ _ _ _ => trivial
  | _ =>
    intro v hv
    obtain ⟨haccounts, hunderway⟩ := hothers v hstanding hv
    exact ⟨.next attempted progress ⟨scenarioId, repetitionIndex⟩ _ haccounts ⟨rfl, rfl⟩,
      hunderway⟩

include htarget

/-- What the slot itself does, up to its report. -/
theorem slot_attempt (contract : ScenarioContract) (repetitionIndex : ℕ)
    (hslot : ⟨contract.scenarioId, repetitionIndex⟩ ∈ slots row.scenarioIds row.repetitions)
    (w : Store) (hw : (slotTerms I row).invariant w) :
    SlotAbides I row
      (fun outcome v => Reported row.id v ⟨contract.scenarioId, repetitionIndex⟩ outcome)
      (do
        let childRunId ← runOneThread db target environment libraries row.id contract
          repetitionIndex
        .atomic .read (do
          let state ← get
          RegressionRunner.endSlot ⟨contract.scenarioId, repetitionIndex⟩ (.ok childRunId)
            state.session.committed)
        return .ok childRunId : RunnerThread (Except RegressionRunError String)) w := by
  refine slot_bind I row _ _ _ _ w hw (slot_runOne I row hI db target htarget environment libraries
    contract repetitionIndex hslot w hw) ?_
  intro childRunId v hv hcreated
  obtain ⟨hid, hfilled⟩ := hcreated
  have hrest : SlotAbides I row (fun outcome _ => outcome = .ok childRunId) (do
      Thread.atomic Statement.read (do
        let state ← get
        RegressionRunner.endSlot ⟨contract.scenarioId, repetitionIndex⟩ (.ok childRunId)
          state.session.committed)
      return .ok childRunId : RunnerThread (Except RegressionRunError String)) v :=
    slot_bind I row (fun _ _ => True) _ _ _ v hv (slot_quiet I row _ (fun _ _ => rfl) v)
      fun _ u _ _ => slot_return I row _ _ rfl u
  apply abides_mono runnerPart _ _ _ _ _ _ _ v
    (slot_filled I row runnerPart _ row.id _ _ v hfilled hrest) ?_ fun _ _ _ => trivial
  intro outcome u hended
  obtain ⟨rfl, hstill⟩ := hended
  exact ⟨hid, hstill⟩

theorem abides_runRepetition (contract : ScenarioContract) (repetitionIndex : ℕ)
    (hslot : ⟨contract.scenarioId, repetitionIndex⟩ ∈ slots row.scenarioIds row.repetitions)
    (attempted : List Slot) (progress : RegressionRunner.Progress) (w : Store)
    (hw : (ownTerms I row.id).invariant w) (hstanding : Standing row attempted progress w) :
    RunnerAbides I row.id
      (fun outcome => Standing row (attempted ++ [⟨contract.scenarioId, repetitionIndex⟩])
        (progress.append outcome))
      (runRepetitionThread db target environment libraries row.id contract.scenarioId contract
        repetitionIndex) w := by
  have hquiet (x : RunnerM Unit) (hx : ∀ v state,
      runnerPart.published (after x (runnerPart.install v state)) = v) (v : Store)
      (hstanding : Standing row attempted progress v) : RunnerAbides I row.id
        (fun _ => Standing row attempted progress) (.atomic Statement.read x) v :=
    abides_mono runnerPart _ _ _ _ _ _ _ v
      (abides_standing I row _ attempted progress _ v hstanding (slot_quiet I row x hx v))
      (fun _ _ h => h.2) fun _ _ _ => trivial
  refine abides_bind runnerPart _ _ _ _ _ _ w hw (fun _ h => h)
    (hquiet _ (fun _ _ => rfl) w hstanding) ?_
  intro _ v hv hstarted
  have hattempt := slot_attempt I hI row db target htarget environment libraries contract
    repetitionIndex hslot v ⟨hv, hstarted.2⟩
  refine abides_followedBy runnerPart _ _ _ _ _ _ _ _ v hv (fun _ h => h)
    (abides_standing I row _ attempted progress _ v hstarted hattempt) ?_ ?_
  · intro outcome u _ hended
    obtain ⟨hreported, haccounts, hunderway⟩ := hended
    exact fun u' hu' => standing_others I row _ _ u u'
      ⟨.next attempted progress _ outcome haccounts hreported, hunderway⟩ hu'
  · intro e u hu hraised
    refine abides_bind runnerPart _ _ _ _ _ _ u hu (fun _ h => h)
      (hquiet _ (fun _ _ => rfl) u hraised) ?_
    intro _ u' hu' hrolled
    exact abides_handler I hI row db contract.scenarioId repetitionIndex attempted progress e u'
      hu' hrolled

theorem abides_runRepetitions (contract : ScenarioContract) (repetitionIndices : List ℕ)
    (hslots : ∀ repetitionIndex ∈ repetitionIndices,
      ⟨contract.scenarioId, repetitionIndex⟩ ∈ slots row.scenarioIds row.repetitions)
    (attempted : List Slot) (progress : RegressionRunner.Progress) (w : Store)
    (hw : (ownTerms I row.id).invariant w) (hstanding : Standing row attempted progress w) :
    RunnerAbides I row.id
      (Standing row (attempted ++ repetitionIndices.map (Slot.mk contract.scenarioId)))
      (runRepetitionsThread db target environment libraries row.id contract.scenarioId contract
        repetitionIndices progress) w := by
  induction repetitionIndices generalizing attempted progress w with
  | nil =>
    intro v hv
    rw [List.map_nil, List.append_nil]
    exact standing_others I row attempted progress w v hstanding hv
  | cons repetitionIndex rest ih =>
    refine abides_bind runnerPart _ _ _ _ _ _ w hw (fun _ h => h)
      (abides_runRepetition I hI row db target htarget environment libraries contract
        repetitionIndex (hslots _ List.mem_cons_self) attempted progress w hw hstanding) ?_
    intro outcome v hv hstill
    have hrest := ih (fun index hmem => hslots index (List.mem_cons_of_mem _ hmem)) _ _ v hv hstill
    rw [List.append_assoc] at hrest
    exact hrest

theorem abides_runScenarios (scenarioIds : List String)
    (hscenarios : ∀ scenarioId ∈ scenarioIds, scenarioId ∈ row.scenarioIds)
    (attempted : List Slot) (progress : RegressionRunner.Progress) (w : Store)
    (hw : (ownTerms I row.id).invariant w) (hstanding : Standing row attempted progress w) :
    RunnerAbides I row.id (Standing row (attempted ++ slots scenarioIds row.repetitions))
      (runScenariosThread db target environment libraries row.id row.repetitions scenarioIds
        progress) w := by
  induction scenarioIds generalizing attempted progress w with
  | nil =>
    intro v hv
    rw [slots, List.flatMap_nil, List.append_nil]
    exact standing_others I row attempted progress w v hstanding hv
  | cons scenarioId rest ih =>
    refine abides_bind runnerPart _ _
      (fun contract v => contract.scenarioId = scenarioId ∧ Standing row attempted progress v) _ _ _
      w hw (fun _ h => h) ?_ ?_
    · apply abides_done
      · exact fun contract hload v hv => ⟨loadScenarioContract_id scenarioId contract hload,
          standing_others I row attempted progress w v hstanding hv⟩
      · exact fun _ _ _ _ => trivial
    intro contract v hv hloaded
    obtain ⟨rfl, hstill⟩ := hloaded
    refine abides_bind runnerPart _ _ _ _ _ _ v hv (fun _ h => h)
      (abides_runRepetitions I hI row db target htarget environment libraries contract
        (List.range row.repetitions) ?_ attempted progress v hv hstill) ?_
    · intro repetitionIndex hmem
      exact List.mem_flatMap.mpr ⟨contract.scenarioId, hscenarios _ List.mem_cons_self,
        List.mem_map.mpr ⟨repetitionIndex, hmem, rfl⟩⟩
    · intro later u hu hagain
      have hrest := ih (fun other hmem => hscenarios other (List.mem_cons_of_mem _ hmem)) _ later
        u hu hagain
      rw [List.append_assoc] at hrest
      exact hrest

end Loops

section Run
variable (I : Store → Prop) (hI : RunsInvariant I) (db : Database) (target : AgentTarget)
  (htarget : ValidTarget target) (environment : History → JudgeEnvironment)
  (libraries : JudgeLibraries)

/-- The regression as it was read, not yet started. -/
def Found (found : Option RegressionRun) (regressionRunId : ℕ) (store : Store) : Prop :=
  ∀ row, found = some row → store.regressionRuns.find? regressionRunId = some row ∧
    row.status = .pending

theorem found_others (found : Option RegressionRun) (regressionRunId : ℕ) (v v' : Store)
    (h : Found found regressionRunId v) (hkeep : (othersTerms I regressionRunId).Keep v v') :
    Found found regressionRunId v' := by
  intro row hrow
  obtain ⟨hstored, hpending⟩ := h row hrow
  exact ⟨course_unowned _ v v' hkeep.2.course regressionRunId (fun hne => hne rfl) row hstored,
    hpending⟩

omit I in
theorem findRegression_published (regressionRunId : ℕ) (v : Store) (state : RunnerState) :
    runnerPart.published (after (onSession (query db.backend .regressionRun fun store =>
      store.regressionRuns.find? regressionRunId)) (runnerPart.install v state)) = v := by
  have hquiet : Preserves (fun session : DbSession => session.committed = v)
      (query db.backend .regressionRun fun store => store.regressionRuns.find? regressionRunId) :=
    fun session hs => (quiet_execute db .regressionRun _ session).trans hs
  exact preserves_onSession _ _ hquiet (runnerPart.install v state) rfl

theorem abides_findRegression (regressionRunId : ℕ) (w : Store)
    (hwaiting : Waiting regressionRunId w) :
    RunnerAbides I regressionRunId (fun found v => Found found regressionRunId v)
      (.atomic .read (onSession (query db.backend .regressionRun fun store =>
        store.regressionRuns.find? regressionRunId))) w := by
  apply abides_atomic
  intro v state hv
  have hview : (runnerPart.install v state).session.view = v := view_install v state.session
  have hends := onSession_ends _ (runnerPart.install v state) _ _ (execute_ends db .regressionRun
    (.inl rfl) (fun store => (store.regressionRuns.find? regressionRunId, store))
    (runnerPart.install v state).session)
  constructor
  · rw [findRegression_published db regressionRunId v state]
    exact (ownTerms I regressionRunId).from_self v hv.1
  · refine ends_mono _ _ _ _ _ _ hends ?_ fun _ _ _ _ _ => trivial
    intro found t hreturned v' hv'
    obtain ⟨⟨rfl, ht⟩, _⟩ := hreturned
    have hpublished : runnerPart.published t = v := by
      show t.session.committed = v
      rw [ht]
      rfl
    rw [hpublished] at hv'
    refine found_others I _ regressionRunId v v' ?_ hv'
    intro row hrow
    rw [hview] at hrow
    exact ⟨hrow, course_waiting _ w v hv.2.course regressionRunId (fun hne => hne rfl) hwaiting
      row hrow⟩

/-- The regression is completed, and the report accounts for all its slots. -/
def RunCompleted (regressionRunId : ℕ) (result : RegressionRunnerResult) (store : Store) : Prop :=
  result.regressionRunId = regressionRunId ∧
    ∃ row, store.regressionRuns.find? regressionRunId = some row ∧ row.status = .completed ∧
      AccountsFor regressionRunId store (slots row.scenarioIds row.repetitions)
        ⟨result.createdRunIds, result.errors⟩

theorem runCompleted_others (regressionRunId : ℕ) (result : RegressionRunnerResult) (v v' : Store)
    (h : RunCompleted regressionRunId result v)
    (hkeep : (othersTerms I regressionRunId).Keep v v') :
    RunCompleted regressionRunId result v' := by
  obtain ⟨hid, row, hrow, hstatus, haccounts⟩ := h
  exact ⟨hid, row, course_unowned _ v v' hkeep.2.course regressionRunId (fun hne => hne rfl) row
    hrow, hstatus, accountsFor_kept regressionRunId v v' hkeep.2.linkage _ _ haccounts⟩

include hI htarget

/-- The runner of a regression that nobody else runs. -/
theorem abides_run (regressionRunId : ℕ) (w : Store)
    (hw : (ownTerms I regressionRunId).invariant w) (hwaiting : Waiting regressionRunId w) :
    RunnerAbides I regressionRunId (RunCompleted regressionRunId)
      (runThread db target environment libraries regressionRunId) w := by
  refine abides_bind runnerPart _ _ _ _ _ _ w hw (fun _ h => h)
    (abides_findRegression I db regressionRunId w hwaiting) ?_
  intro found v hv hfound
  cases found with
  | none => exact fun _ _ => trivial
  | some row =>
    have hid : row.id = regressionRunId := Table.key_of_find? _ _ row (hfound row rfl).1
    subst hid
    refine abides_bind runnerPart _ _ (fun _ u => Underway row u) _ _ _ v hv (fun _ h => h) ?_ ?_
    · apply mark_abides I row.id db .running (fun now _ => some now) (fun _ => none)
      · intro u hu now
        obtain ⟨hstored, hpending⟩ := found_others I _ row.id v u hfound hu row rfl
        refine ⟨updateRegressionRun_keep I hI (fun id => id = row.id) row.id rfl .running
          (fun _ => some now) none u row hu.1 hstored (.start row now hpending), now, ?_⟩
        rw [updateRegressionRun_find?, hstored, Option.map_some]
      · exact fun u u' hu hkeep => underway_others I row.id row rfl u u' hu hkeep
    intro _ u hu hunderway
    refine abides_bind runnerPart _ _ _ _ _ _ u hu (fun _ h => h)
      (abides_runScenarios I hI row db target htarget environment libraries row.scenarioIds
        (fun _ h => h) [] _ u hu ⟨.none, hunderway⟩) ?_
    intro progress u' hu' hstanding
    refine abides_bind runnerPart _ _ (fun _ => RunCompleted row.id
      ⟨row.id, progress.createdRunIds, progress.errors⟩) _ _ _ u' hu' (fun _ h => h) ?_ ?_
    · apply mark_abides I row.id db .completed (fun _ startedAt => startedAt) some
      · intro x hx now
        obtain ⟨haccounts, startedAt, hrow⟩ := standing_others I row _ progress u' x hstanding hx
        have hcompleted := updateRegressionRun_find? row.id .completed
          (fun startedAt => startedAt) (some now) x
        rw [hrow, Option.map_some] at hcompleted
        have hstill : AccountsFor row.id
            (updateRegressionRun row.id .completed (fun startedAt => startedAt) (some now) x)
            (slots row.scenarioIds row.repetitions) progress := by
          apply accountsFor_kept row.id x _ ?_ _ progress haccounts
          exact linkageKept_same x _ rfl
        exact ⟨updateRegressionRun_keep I hI (fun id => id = row.id) row.id rfl .completed
          (fun startedAt => startedAt) (some now) x _ hx.1 hrow (.complete _ now rfl), rfl, _,
          hcompleted, rfl, hstill⟩
      · exact runCompleted_others I row.id _
    · exact fun _ x _ hx x' hx' => runCompleted_others I row.id _ x x' hx hx'

end Run

/-! ### Everything the server does -/

theorem mockedTarget_valid (scriptedEvents approvedEvents : List (String × ExtendedRunEvent))
    (hscripted : ∀ entry ∈ scriptedEvents, Validated entry.2)
    (happroved : ∀ entry ∈ approvedEvents, Validated entry.2) :
    ValidTarget (mockedAgentTarget scriptedEvents approvedEvents) where
  runScenario := by
    intro _ contract event h
    change mockedRunScenario scriptedEvents contract = .ok event at h
    cases hfound : scriptedEvents.lookup contract.scenarioId with
    | none =>
      simp only [mockedRunScenario, hfound] at h
      cases h
    | some found =>
      simp only [mockedRunScenario, hfound, Except.ok.injEq] at h
      subst h
      obtain ⟨before, after, hsplit, _⟩ := List.lookup_eq_some_iff.mp hfound
      exact hscripted _ (hsplit ▸ List.mem_append_right _ List.mem_cons_self)
  resumeAfterApproval := by
    intro _ checkpointId decision event h
    obtain ⟨entry, hm, rfl⟩ :=
      mockedResumeAfterApproval_mem approvedEvents checkpointId decision event h
    exact happroved entry hm

/-- A request, or a regression in the background. -/
inductive Activity where
  | createRun (event : ExtendedRunEvent) (validated : Validated event)
  | evaluateRun (environment : JudgeEnvironment) (libraries : JudgeLibraries) (runId : String)
  | createRegression (ids : RegressionIds) (libraries : JudgeLibraries)
      (payload : RegressionCreateRequest)
  | executeRegression (regressionRunId : ℕ) (target : AgentTarget) (valid : ValidTarget target)
      (environment : History → JudgeEnvironment) (libraries : JudgeLibraries)

/-- What an activity returns. -/
inductive Reply where
  | ingested (result : IngestRunResult)
  | evaluated (response : EvaluationTriggerResponse)
  | created (record : RegressionCreated)
  | executed (result : RegressionRunnerResult)

namespace Activity

def Owns : Activity → ℕ → Prop
  | .executeRegression regressionRunId _ _ _ _, id => id = regressionRunId
  | _, _ => False

def thread (db : Database) : Activity → RunnerThread Reply
  | .createRun event _ => do
    let result ← threadOnSession (.atomic .agentRun (Routes.createRun db event))
    return .ingested result
  | .evaluateRun environment libraries runId => do
    let response ← threadOnSession (evaluateRunThread db environment libraries runId)
    return .evaluated response
  | .createRegression ids libraries payload => do
    let record ← threadOnSession (postRegressionThread db ids libraries payload)
    return .created record
  | .executeRegression regressionRunId target _ environment libraries => do
    let result ← runThread db target environment libraries regressionRunId
    return .executed result

/-- What the reply says of the store. -/
def Returned : Activity → Reply → Store → Prop
  | .executeRegression regressionRunId _ _ _ _, reply, store =>
    ∃ result, reply = .executed result ∧ RunCompleted regressionRunId result store
  | _, _, _ => True

end Activity

section Activities
variable (I : Store → Prop) (hI : RunsInvariant I)

/-- A request promises to move no regression, and relies on nothing. -/
theorem abides_request {α : Type} (rely : ℕ → Prop) (reply : α → Reply) (t : SessionThread α)
    (ht : t.Each (StepKeeps (serverTerms I fun _ => False))) (w : Store) :
    Abides runnerPart (serverTerms I fun _ => False) (serverTerms I rely) (fun _ _ => True)
      (fun _ _ => True) (do
        let a ← threadOnSession t
        return reply a) w :=
  abides_of_each runnerPart (serverTerms I fun _ => False) (serverTerms I rely) _ w (fun _ h => h)
    (request_keeps _ reply t ht)

include hI

theorem activity_abides (db : Database) (activity : Activity) (w : Store)
    (hw : (serverTerms I activity.Owns).invariant w)
    (hwaiting : ∀ id, activity.Owns id → Waiting id w) :
    Abides runnerPart (serverTerms I activity.Owns) (serverTerms I fun id => ¬ activity.Owns id)
      activity.Returned (fun _ _ => True) (activity.thread db) w := by
  have hwriters := server_writersKeep I hI fun _ => False
  cases activity with
  | createRun event hv =>
    apply abides_request I (fun _ => ¬ False) _ _ ?_ w
    apply each_of_sound
    exact fun u => sound_ingest_from _ u db event (hwriters.ingest event hv)
  | evaluateRun environment libraries runId =>
    exact abides_request I (fun _ => ¬ False) _ _
      (evaluateRunThread_keeps _ db runId (hwriters.evaluation runId) environment libraries) w
  | createRegression ids libraries payload =>
    apply abides_request I (fun _ => ¬ False) _ _ ?_ w
    exact postRegressionThread_keeps _ db ids libraries payload
      (insertRegressionRun_keep I hI (fun _ => False) ids libraries)
  | executeRegression regressionRunId target valid environment libraries =>
    show RunnerAbides I regressionRunId _ _ w
    refine abides_bind runnerPart _ _ _ _ _ _ w hw (fun _ h => h)
      (abides_run I hI db target valid environment libraries regressionRunId w hw
        (hwaiting regressionRunId rfl)) ?_
    exact fun result v _ hv v' hv' =>
      ⟨result, rfl, runCompleted_others I regressionRunId result v v' hv hv'⟩

end Activities

end ObsPlatform.Platform
