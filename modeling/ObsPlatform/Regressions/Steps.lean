import ObsPlatform.Regressions.Runner

/-!
# What the runner's steps do

One lemma for each way a slot can end, and one rule for each loop: a claim about a
whole regression gives an invariant, shows that a slot keeps it, and says what a
raised exception leaves behind.
-/

namespace ObsPlatform.Regressions

open Telemetry Db UnitOfWork Evaluation Stateful

/-! ### What the steps of a slot keep -/

/-- Every step of a slot keeps the property. -/
structure Kept (runner : RegressionRunner) (I : RunnerState → Prop) : Prop where
  record : ∀ call, Preserves I (record call)
  ingest : ∀ history event, Preserves I (onSession (runner.ingestRunEvent history event))
  link : ∀ runId regressionRunId scenarioId repetitionIndex, Preserves I
    (onSession (persistRegressionLinkage runner.db runId regressionRunId scenarioId repetitionIndex))
  gate : ∀ runId, Preserves I (onSession (assertHitlGateHeld runner.db runId))
  commit : Preserves I (onSession commit)
  evaluate : ∀ history runId, Preserves I (onSession (runner.runEvaluation history runId))

theorem preserves_answer {α : Type} (I : RunnerState → Prop)
    (reply : History → Except Error α) : Preserves I (answer reply) := by
  intro state h
  cases hr : reply state.toHistory with
  | ok a =>
    simp only [after, answer, hr]
    exact h
  | error e =>
    simp only [after, answer, hr]
    exact h

/-- Every step of a slot of this run id keeps the property. -/
structure KeptFor (runner : RegressionRunner) (slotRunId : String) (I : RunnerState → Prop) :
    Prop where
  record : ∀ call, Preserves I (record call)
  ingest : ∀ history event, event.runId = slotRunId →
    Preserves I (onSession (runner.ingestRunEvent history event))
  link : ∀ regressionRunId scenarioId repetitionIndex, Preserves I (onSession
    (persistRegressionLinkage runner.db slotRunId regressionRunId scenarioId repetitionIndex))
  gate : Preserves I (onSession (assertHitlGateHeld runner.db slotRunId))
  commit : Preserves I (onSession commit)
  evaluate : ∀ history, Preserves I (onSession (runner.runEvaluation history slotRunId))

theorem keptFor_of_kept (runner : RegressionRunner) (I : RunnerState → Prop) (hI : Kept runner I)
    (slotRunId : String) : KeptFor runner slotRunId I where
  record := hI.record
  ingest := fun history event _ => hI.ingest history event
  link := hI.link slotRunId
  gate := hI.gate slotRunId
  commit := hI.commit
  evaluate := fun history => hI.evaluate history slotRunId

theorem kept_of_keptFor (runner : RegressionRunner) (I : RunnerState → Prop)
    (hI : ∀ slotRunId, KeptFor runner slotRunId I) : Kept runner I where
  record := (hI "").record
  ingest := fun history event => (hI event.runId).ingest history event rfl
  link := fun runId => (hI runId).link
  gate := fun runId => (hI runId).gate
  commit := (hI "").commit
  evaluate := fun history runId => (hI runId).evaluate history

section KeptFor
variable (runner : RegressionRunner) (slotRunId : String) (I : RunnerState → Prop)
  (hI : KeptFor runner slotRunId I)
include hI

theorem kept_runScenario (contract : ScenarioContract) :
    Preserves I (runner.runScenario contract) :=
  preserves_bind _ _ _ (hI.record _) fun _ => preserves_answer I _

theorem kept_resumeAfterApproval (checkpointId decision : String) :
    Preserves I (runner.resumeAfterApproval checkpointId decision) :=
  preserves_bind _ _ _ (preserves_get _) fun _ =>
    preserves_bind _ _ _ (hI.record _) fun _ => preserves_answer I _

theorem kept_ingest (event : ExtendedRunEvent) :
    Preserves I (runner.ingest (withRunId event slotRunId)) :=
  preserves_bind _ _ _ (preserves_get _) fun _ =>
    preserves_bind _ _ _ (hI.ingest _ (withRunId event slotRunId) rfl) fun _ => hI.record _

theorem kept_link (regressionRunId : ℕ) (scenarioId : String) (repetitionIndex : ℕ) :
    Preserves I (runner.link slotRunId regressionRunId scenarioId repetitionIndex) :=
  preserves_bind _ _ _ (hI.link regressionRunId scenarioId repetitionIndex) fun _ =>
    preserves_bind _ _ _ (preserves_get _) fun _ => hI.record _

theorem kept_evaluate : Preserves I (runner.evaluate slotRunId) :=
  preserves_bind _ _ _ (preserves_get _) fun _ =>
    preserves_bind _ _ _ (hI.record _) fun _ =>
      preserves_bind _ _ _ (preserves_get _) fun _ => hI.evaluate _

theorem keptFor_runOneHitl (regressionRunId : ℕ) (contract : ScenarioContract)
    (repetitionIndex : ℕ)
    (hid : regressionRunEventId regressionRunId contract.scenarioId repetitionIndex = slotRunId) :
    Preserves I (runner.runOneHitl regressionRunId contract repetitionIndex) := by
  unfold RegressionRunner.runOneHitl
  rw [hid]
  refine preserves_bind _ _ _ (kept_runScenario runner slotRunId I hI contract) ?_
  intro pendingEvent
  refine preserves_bind _ _ _ (kept_ingest runner slotRunId I hI pendingEvent) fun _ => ?_
  refine preserves_bind _ _ _ (kept_link runner slotRunId I hI _ _ _) fun _ => ?_
  refine preserves_bind _ _ _ hI.gate fun checkpointId => ?_
  refine preserves_bind _ _ _ (kept_resumeAfterApproval runner slotRunId I hI _ _) ?_
  intro approvedEvent
  refine preserves_bind _ _ _ (kept_ingest runner slotRunId I hI approvedEvent) fun _ => ?_
  refine preserves_bind _ _ _ (kept_link runner slotRunId I hI _ _ _) fun _ => ?_
  refine preserves_bind _ _ _ hI.commit fun _ => ?_
  exact preserves_bind _ _ _ (kept_evaluate runner slotRunId I hI) fun _ => preserves_pure _ _

theorem keptFor_runOne (regressionRunId : ℕ) (contract : ScenarioContract) (repetitionIndex : ℕ)
    (hid : regressionRunEventId regressionRunId contract.scenarioId repetitionIndex = slotRunId) :
    Preserves I (runner.runOne regressionRunId contract repetitionIndex) := by
  unfold RegressionRunner.runOne
  cases requiresHitlFlow contract with
  | true => exact keptFor_runOneHitl runner slotRunId I hI _ contract repetitionIndex hid
  | false =>
    rw [hid]
    refine preserves_bind _ _ _ (kept_runScenario runner slotRunId I hI contract) ?_
    intro event
    refine preserves_bind _ _ _ (kept_ingest runner slotRunId I hI event) fun _ => ?_
    refine preserves_bind _ _ _ (kept_link runner slotRunId I hI _ _ _) fun _ => ?_
    refine preserves_bind _ _ _ hI.commit fun _ => ?_
    exact preserves_bind _ _ _ (kept_evaluate runner slotRunId I hI) fun _ => preserves_pure _ _

end KeptFor

theorem kept_runOne (runner : RegressionRunner) (I : RunnerState → Prop) (hI : Kept runner I)
    (regressionRunId : ℕ) (contract : ScenarioContract) (repetitionIndex : ℕ) :
    Preserves I (runner.runOne regressionRunId contract repetitionIndex) :=
  keptFor_runOne runner _ I (keptFor_of_kept runner I hI _) regressionRunId contract
    repetitionIndex rfl

/-- What a session computation keeps, the runner keeps. -/
theorem preserves_onSession {α : Type} (I : DbSession → Prop) (x : SessionM α)
    (hx : Preserves I x) : Preserves (fun state => I state.session) (onSession x) := by
  intro state h
  show I (after (onSession x) state).session
  rw [onSession, after_zoom]
  exact hx _ h

theorem onSession_ends {α : Type} (x : SessionM α) (s : RunnerState)
    (returned : α → DbSession → Prop) (raised : Error → DbSession → Prop)
    (h : Ends x s.session returned raised) :
    Ends (onSession x) s (fun a t => returned a t.session ∧ t.toHistory = s.toHistory)
      fun e t => raised e t.session ∧ t.toHistory = s.toHistory :=
  ends_zoom _ _ _ s _ _ (ends_mono _ _ _ _ _ _ h (fun _ _ h => ⟨h, rfl⟩) fun _ _ h => ⟨h, rfl⟩)

theorem answer_ends {α : Type} (reply : History → Except Error α) (s : RunnerState) :
    Ends (answer reply) s (fun a t => t = s ∧ reply s.toHistory = .ok a) fun _ t => t = s := by
  cases hr : reply s.toHistory with
  | ok a =>
    refine .ok a s ?_ ⟨rfl, rfl⟩
    simp only [answer, hr]
  | error e =>
    refine .error e s ?_ rfl
    simp only [answer, hr]

/-- What concerns the record alone, no session computation touches. -/
theorem preserves_history {α : Type} (I : History → Prop) (x : SessionM α) :
    Preserves (fun state => I state.toHistory) (onSession x) :=
  preserves_zoom RunnerState.session (fun session state => { state with session := session }) _
    (fun _ _ h => h) x

theorem kept_attempts (runner : RegressionRunner) (I : List Attempt → Prop) :
    Kept runner fun state => I state.attempts where
  record := fun _ => preserves_modify _ _ fun _ h => h
  ingest := fun _ _ => preserves_history (fun history => I history.attempts) _
  link := fun _ _ _ _ => preserves_history (fun history => I history.attempts) _
  gate := fun _ => preserves_history (fun history => I history.attempts) _
  commit := preserves_history (fun history => I history.attempts) _
  evaluate := fun _ _ => preserves_history (fun history => I history.attempts) _

/-! ### The status statements -/

/-- The server refuses with this error a statement the runner sends for itself: the
read of the regression or an update of its status. -/
def RefusesRunner (db : Database) (e : Error) : Prop :=
  ∃ n label w w', (label = .regressionRun ∨ label = .regressionStatus) ∧
    db.backend.verdict n label w w' = some e

/-- A statement for the regression's own row: refused, or carried out. -/
theorem execute_ends {α : Type} (db : Database) (label : Statement)
    (hlabel : label = .regressionRun ∨ label = .regressionStatus) (f : Store → α × Store)
    (s : DbSession) :
    Ends (execute db.backend label f : SessionM α) s
      (fun a t => a = (f s.view).1 ∧ t = s.spoken (f s.view).2)
      fun e t => RefusesRunner db e ∧ t.committed = s.committed := by
  cases hv : db.backend.verdict s.statements label s.view (f s.view).2 with
  | none =>
    refine .ok (f s.view).1 (s.spoken (f s.view).2) ?_ ⟨rfl, rfl⟩
    simp only [execute, hv, Session.spoken]
  | some e =>
    refine .error e (s.spoken s.view) ?_ ⟨⟨_, label, _, _, hlabel, hv⟩, rfl⟩
    simp only [execute, hv, Session.spoken]

/-- What an update of the status commits. -/
theorem mark_ends (db : Database) (f : Timestamp → Store → Store) (s : DbSession) :
    Ends (do
      let now ← now db
      update db .regressionStatus (f now)
      commit : SessionM Unit) s
      (fun _ t => ∃ now, t.committed = f now s.view ∧ t.inTransaction = false)
      fun e t => RefusesRunner db e ∧ t.committed = s.committed := by
  refine ends_bind _ _ s (fun now t => t = s) _ _ (ends_of_ok _ s s _ _ _ rfl rfl) ?_
  intro now t hreturned
  subst hreturned
  refine ends_bind _ _ t _ _ _
    (execute_ends db .regressionStatus (.inr rfl) (fun store => ((), f now store)) t) ?_
  intro _ u hreturned
  obtain ⟨_, rfl⟩ := hreturned
  exact ends_of_ok _ _ _ () _ _ rfl ⟨now, rfl, rfl⟩

/-! ### How a slot ends -/

def started (state : RunnerState) : RunnerState := { state with calls := [] }

def rolledBack (state : RunnerState) : RunnerState :=
  { state with
    session := { state.session with inTransaction := false } }

def attemptOf (slot : Slot) (outcome : Except Error String) (state : RunnerState) : Attempt where
  slot := slot
  calls := state.calls
  outcome := outcome
  committed := state.session.committed
  settled := state.session.committed

def ended (slot : Slot) (outcome : Except Error String) (state : RunnerState) : RunnerState :=
  { state with attempts := state.attempts ++ [attemptOf slot outcome state] }

def GateViolation (e : Error) : Prop := ∃ message, e = .hitlGateViolation message

def errorOf (slot : Slot) (e : Error) : RegressionRunError where
  scenarioId := slot.scenarioId
  repetitionIndex := slot.repetitionIndex
  errorType := e.typeName
  message := e.message

section Slot
variable (runner : RegressionRunner) (regressionRunId : ℕ) (scenarioId : String)
  (contract : ScenarioContract) (repetitionIndex : ℕ) (state : RunnerState)

theorem runRepetition_of_ok (mid : RunnerState) (childRunId : String)
    (h : runner.runOne regressionRunId contract repetitionIndex (started state) =
      .ok childRunId mid) :
    runner.runRepetition regressionRunId scenarioId contract repetitionIndex state =
      .ok (.ok childRunId) (ended ⟨scenarioId, repetitionIndex⟩ (.ok childRunId) mid) := by
  unfold RegressionRunner.runRepetition
  rw [bind_of_ok _ _ state (started state) () rfl]
  apply tryCatch_of_ok _ _ _ _ _
  rw [bind_of_ok _ _ _ mid childRunId h]
  rfl

/-- An exception other than a gate violation is rolled back and reported. -/
theorem runRepetition_of_error (mid : RunnerState) (e : Error) (he : ¬ GateViolation e)
    (h : runner.runOne regressionRunId contract repetitionIndex (started state) = .error e mid) :
    runner.runRepetition regressionRunId scenarioId contract repetitionIndex state =
      .ok (.error (errorOf ⟨scenarioId, repetitionIndex⟩ e))
        (ended ⟨scenarioId, repetitionIndex⟩ (.error e) (rolledBack mid)) := by
  unfold RegressionRunner.runRepetition
  rw [bind_of_ok _ _ state (started state) () rfl,
    tryCatch_of_error _ _ _ mid e (bind_of_error _ _ _ mid e h)]
  cases e with
  | hitlGateViolation message => exact absurd ⟨message, rfl⟩ he
  | _ => rfl

/-- A gate violation is rolled back, the regression marked failed, and raised again. -/
theorem runRepetition_of_violation (mid : RunnerState) (message : String)
    (h : runner.runOne regressionRunId contract repetitionIndex (started state) =
      .error (.hitlGateViolation message) mid) :
    runner.runRepetition regressionRunId scenarioId contract repetitionIndex state =
      (onSession (markFailed runner.db regressionRunId) >>= fun _ =>
        throw (.hitlGateViolation message) : RunnerM (Except RegressionRunError String))
        (ended ⟨scenarioId, repetitionIndex⟩ (.error (.hitlGateViolation message))
          (rolledBack mid)) := by
  unfold RegressionRunner.runRepetition
  rw [bind_of_ok _ _ state (started state) () rfl,
    tryCatch_of_error _ _ _ mid _ (bind_of_error _ _ _ mid _ h)]
  rfl

/-- What is known of a slot, carried through the handlers around it. -/
theorem runRepetition_ends (okPost : String → RunnerState → Prop)
    (errorPost : Error → RunnerState → Prop)
    (returned : Except RegressionRunError String → RunnerState → Prop)
    (raised : Error → RunnerState → Prop)
    (hone : Ends (runner.runOne regressionRunId contract repetitionIndex) (started state)
      okPost errorPost)
    (hok : ∀ childRunId mid, okPost childRunId mid →
      returned (.ok childRunId) (ended ⟨scenarioId, repetitionIndex⟩ (.ok childRunId) mid))
    (herror : ∀ e mid, errorPost e mid → ¬ GateViolation e →
      returned (.error (errorOf ⟨scenarioId, repetitionIndex⟩ e))
        (ended ⟨scenarioId, repetitionIndex⟩ (.error e) (rolledBack mid)))
    (hfailed : ∀ e mid session now, errorPost e mid → GateViolation e →
      session.inTransaction = false →
      session.committed = updateRegressionRun regressionRunId .failed
        (fun startedAt => startedAt) (some now) mid.session.committed →
      raised e
        { ended ⟨scenarioId, repetitionIndex⟩ (.error e) (rolledBack mid) with session := session })
    (hunmarked : ∀ e e' mid session, errorPost e mid → GateViolation e →
      RefusesRunner runner.db e' → session.committed = mid.session.committed →
      raised e'
        { ended ⟨scenarioId, repetitionIndex⟩ (.error e) (rolledBack mid) with
          session := session }) :
    Ends (runner.runRepetition regressionRunId scenarioId contract repetitionIndex) state
      returned raised := by
  cases hr : runner.runOne regressionRunId contract repetitionIndex (started state) with
  | ok childRunId mid =>
    exact ends_of_ok _ _ _ _ _ _
      (runRepetition_of_ok runner regressionRunId scenarioId contract repetitionIndex state mid
        childRunId hr)
      (hok childRunId mid (ends_returns _ _ _ _ _ _ hone hr))
  | error e mid =>
    have hpost := ends_raises _ _ _ _ _ _ hone hr
    by_cases he : GateViolation e
    · obtain ⟨message, rfl⟩ := he
      have hrun := runRepetition_of_violation runner regressionRunId scenarioId contract
        repetitionIndex state mid message hr
      have hmark := ends_bind _ (fun _ => throw (.hitlGateViolation message)) _ _ returned raised
        (ends_zoom RunnerState.session (fun session state => { state with session := session }) _
          (ended ⟨scenarioId, repetitionIndex⟩ (.error (.hitlGateViolation message))
            (rolledBack mid))
          (fun _ t => raised (.hitlGateViolation message) t) raised
          (ends_mono _ _ _ _ _ _ (mark_ends runner.db (fun now => updateRegressionRun
            regressionRunId .failed (fun startedAt => startedAt) (some now)) _)
            (fun _ session ⟨now, hc, ht⟩ =>
              hfailed _ mid session now hpost ⟨message, rfl⟩ ht hc)
            (fun e' session ⟨hrefused, hc⟩ =>
              hunmarked _ e' mid session hpost ⟨message, rfl⟩ hrefused hc)))
        (fun _ t ht => ends_of_error _ t t _ _ _ rfl ht)
      exact ends_congr _ _ _ _ _ _ hrun hmark
    · exact ends_of_ok _ _ _ _ _ _
        (runRepetition_of_error runner regressionRunId scenarioId contract repetitionIndex state
          mid e he hr)
        (herror e mid hpost he)

end Slot

/-! ### The loops -/

/-- The slots of a regression, scenario by scenario. -/
def slots (scenarioIds : List String) (repetitions : ℕ) : List Slot :=
  scenarioIds.flatMap fun scenarioId => (List.range repetitions).map (Slot.mk scenarioId)

theorem slots_length (scenarioIds : List String) (repetitions : ℕ) :
    (slots scenarioIds repetitions).length = scenarioIds.length * repetitions := by
  simp only [slots, List.length_flatMap, List.length_map, List.length_range, List.map_const',
    List.sum_replicate, smul_eq_mul]

/- An invariant of the loops speaks of the slots done, a prefix of all of them, the
progress and the state. -/
section Loops
variable (runner : RegressionRunner) (regressionRunId : ℕ) (all : List Slot)
  (I : List Slot → RegressionRunner.Progress → RunnerState → Prop)
  (raised : Error → RunnerState → Prop)

/-- A repetition of the scenario keeps the invariant, or raises in `raised`. -/
def SlotKeeps (scenarioId : String) (contract : ScenarioContract) : Prop :=
  ∀ repetitionIndex done progress state, done ++ [⟨scenarioId, repetitionIndex⟩] <+: all →
    I done progress state →
    Ends (runner.runRepetition regressionRunId scenarioId contract repetitionIndex) state
      (fun outcome t => I (done ++ [⟨scenarioId, repetitionIndex⟩]) (progress.append outcome) t)
      raised

theorem runRepetitions_ends (scenarioId : String) (contract : ScenarioContract)
    (hslot : SlotKeeps runner regressionRunId all I raised scenarioId contract)
    (repetitionIndices : List ℕ) (done : List Slot) (progress : RegressionRunner.Progress)
    (state : RunnerState) (hall : done ++ repetitionIndices.map (Slot.mk scenarioId) <+: all)
    (h : I done progress state) :
    Ends (runner.runRepetitions regressionRunId scenarioId contract repetitionIndices progress)
      state (fun p t => I (done ++ repetitionIndices.map (Slot.mk scenarioId)) p t) raised := by
  induction repetitionIndices generalizing done progress state with
  | nil =>
    rw [List.map_nil, List.append_nil]
    exact ends_of_ok _ _ _ _ _ _ rfl h
  | cons repetitionIndex rest ih =>
    rw [List.map_cons, ← List.singleton_append, ← List.append_assoc] at hall
    have hfirst := (List.prefix_append _ _).trans hall
    apply ends_bind _ _ _ _ _ _ (hslot repetitionIndex done progress state hfirst h)
    intro outcome t ht
    have hrest := ih _ _ t hall ht
    rw [List.append_assoc, List.singleton_append, ← List.map_cons] at hrest
    exact hrest

theorem runScenarios_ends (repetitions : ℕ) (scenarioIds : List String)
    (hslot : ∀ scenarioId ∈ scenarioIds, ∀ contract,
      loadScenarioContract scenarioId = .ok contract →
        SlotKeeps runner regressionRunId all I raised scenarioId contract)
    (hload : ∀ scenarioId ∈ scenarioIds, ∀ e, loadScenarioContract scenarioId = .error e →
      ∀ done progress state, done <+: all → I done progress state → raised e state)
    (done : List Slot) (progress : RegressionRunner.Progress) (state : RunnerState)
    (hall : done ++ slots scenarioIds repetitions <+: all) (h : I done progress state) :
    Ends (runner.runScenarios regressionRunId repetitions scenarioIds progress) state
      (fun p t => I (done ++ slots scenarioIds repetitions) p t ∧
        ∀ scenarioId ∈ scenarioIds, ∃ contract, loadScenarioContract scenarioId = .ok contract)
      raised := by
  induction scenarioIds generalizing done progress state with
  | nil =>
    refine ends_of_ok _ _ _ _ _ _ rfl ⟨?_, fun _ hid => absurd hid List.not_mem_nil⟩
    show I (done ++ []) progress state
    rw [List.append_nil]
    exact h
  | cons scenarioId rest ih =>
    have hmem : scenarioId ∈ scenarioId :: rest := List.mem_cons_self
    have hsplit : slots (scenarioId :: rest) repetitions =
        (List.range repetitions).map (Slot.mk scenarioId) ++ slots rest repetitions := rfl
    rw [hsplit] at hall ⊢
    rw [← List.append_assoc] at hall ⊢
    have hfirst := (List.prefix_append _ _).trans hall
    cases hc : loadScenarioContract scenarioId with
    | error e =>
      refine ends_of_error _ state state e _ _ ?_ (hload scenarioId hmem e hc done progress state
        ((List.prefix_append _ _).trans hfirst) h)
      apply bind_of_error _ _ state state e
      simp only [RegressionRunner.loadContract, answer, hc]
    | ok contract =>
      have hloaded : RegressionRunner.loadContract scenarioId state = .ok contract state := by
        simp only [RegressionRunner.loadContract, answer, hc]
      refine ends_bind _ _ state (fun c t => c = contract ∧ t = state) _ _
        (ends_of_ok _ _ _ _ _ _ hloaded ⟨rfl, rfl⟩) ?_
      intro c t hreturned
      obtain ⟨rfl, rfl⟩ := hreturned
      refine ends_bind _ _ t _ _ _ (runRepetitions_ends runner regressionRunId all I raised
        scenarioId c (hslot scenarioId hmem c hc) (List.range repetitions) done progress t hfirst h)
        ?_
      intro p u hu
      refine ends_mono _ _ _ _ _ _ (ih (fun id hid => hslot id (List.mem_cons_of_mem _ hid))
        (fun id hid => hload id (List.mem_cons_of_mem _ hid)) _ p u hall hu) ?_ fun _ _ he => he
      intro p' u' hreturned
      obtain ⟨hI, hrest⟩ := hreturned
      refine ⟨hI, ?_⟩
      intro id hid
      rcases List.mem_cons.mp hid with rfl | hid
      · exact ⟨c, hc⟩
      · exact hrest id hid

/-- A whole run: what holds of the loops when they are done, with the status completed. -/
theorem run_ends (state : RunnerState) (row : RegressionRun)
    (hrow : state.session.view.regressionRuns.find? regressionRunId = some row)
    (hslot : ∀ scenarioId ∈ row.scenarioIds, ∀ contract,
      loadScenarioContract scenarioId = .ok contract →
        SlotKeeps runner regressionRunId (slots row.scenarioIds row.repetitions) I raised
          scenarioId contract)
    (hload : ∀ scenarioId ∈ row.scenarioIds, ∀ e, loadScenarioContract scenarioId = .error e →
      ∀ done progress t, done <+: slots row.scenarioIds row.repetitions → I done progress t →
        raised e t)
    (hstart : ∀ session now, session.inTransaction = false →
      session.committed =
        updateRegressionRun regressionRunId .running (fun _ => some now) none state.session.view →
      I [] ⟨[], []⟩ { state with session := session })
    (hunread : ∀ e session, RefusesRunner runner.db e →
      session.committed = state.session.committed → raised e { state with session := session })
    (hunmarked : ∀ e progress mid session, RefusesRunner runner.db e →
      I (slots row.scenarioIds row.repetitions) progress mid →
      session.committed = mid.session.committed → raised e { mid with session := session }) :
    Ends (runner.run regressionRunId) state
      (fun result t => result.regressionRunId = regressionRunId ∧
        (∀ scenarioId ∈ row.scenarioIds, ∃ contract,
          loadScenarioContract scenarioId = .ok contract) ∧ ∃ mid now,
        I (slots row.scenarioIds row.repetitions) ⟨result.createdRunIds, result.errors⟩ mid ∧
        t.toHistory = mid.toHistory ∧ t.session.inTransaction = false ∧
        t.session.committed = updateRegressionRun regressionRunId .completed
          (fun startedAt => startedAt) (some now) mid.session.view)
      raised := by
  have hid : row.id = regressionRunId := Table.key_of_find? _ _ row hrow
  have hread := execute_ends runner.db .regressionRun (.inl rfl)
    (fun store => (store.regressionRuns.find? regressionRunId, store)) state.session
  refine ends_bind _ _ state (fun found t => found = some row ∧
    t = { state with session := state.session.spoken state.session.view }) _ _ ?_ ?_
  · refine ends_zoom _ _ _ state _ _ (ends_mono _ _ _ _ _ _ hread ?_ ?_)
    · intro found session hreturned
      obtain ⟨rfl, rfl⟩ := hreturned
      exact ⟨hrow, rfl⟩
    · intro e session hraised
      obtain ⟨hr, hc⟩ := hraised
      exact hunread e session hr hc
  intro found t hreturned
  obtain ⟨rfl, rfl⟩ := hreturned
  simp only [hid]
  apply ends_bind _ _ _ (fun _ t => I [] ⟨[], []⟩ t) _ _
  · refine ends_zoom _ _ _ _ _ _ (ends_mono _ _ _ _ _ _ (mark_ends runner.db
      (fun now => updateRegressionRun regressionRunId .running (fun _ => some now) none) _) ?_ ?_)
    · intro _ session hreturned
      obtain ⟨now, hc, ht⟩ := hreturned
      exact hstart session now ht hc
    · intro e session hraised
      obtain ⟨hr, hc⟩ := hraised
      exact hunread e session hr hc
  intro _ t ht
  refine ends_bind _ _ t _ _ _ (runScenarios_ends runner regressionRunId _ I raised
    row.repetitions row.scenarioIds hslot hload [] ⟨[], []⟩ t (List.prefix_refl _) ht) ?_
  intro progress mid hreturned
  obtain ⟨hmid, hloaded⟩ := hreturned
  refine ends_bind _ _ mid (fun _ u => ∃ now, u.toHistory = mid.toHistory ∧
    u.session.inTransaction = false ∧ u.session.committed = updateRegressionRun regressionRunId
      .completed (fun startedAt => startedAt) (some now) mid.session.view) _ _ ?_ ?_
  · refine ends_zoom _ _ _ _ _ _ (ends_mono _ _ _ _ _ _ (mark_ends runner.db (fun now =>
      updateRegressionRun regressionRunId .completed (fun startedAt => startedAt) (some now)) _)
        ?_ ?_)
    · intro _ session hreturned
      obtain ⟨now, hc, ht⟩ := hreturned
      exact ⟨now, rfl, ht, hc⟩
    · intro e session hraised
      obtain ⟨hr, hc⟩ := hraised
      exact hunmarked e progress mid session hr hmid hc
  intro _ u hreturned
  obtain ⟨now, hhistory, hclosed, hcommitted⟩ := hreturned
  exact ends_of_ok _ u u _ _ _ rfl ⟨rfl, hloaded, mid, now, hmid, hhistory, hclosed, hcommitted⟩

end Loops

end ObsPlatform.Regressions
