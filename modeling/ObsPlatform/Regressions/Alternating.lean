import ObsPlatform.Regressions.Healthy
import ObsPlatform.Regressions.SlotIds

/-!
# Every second slot

An evaluation leaves a transaction open on the session the slots share. The slot after it
cannot begin its own and is reported with an `InvalidRequestError`; the rollback of its
handler closes the session, so the slot after that one succeeds again. A regression in which
everything else goes well creates the slots at the even places and no others.
-/

namespace ObsPlatform.Regressions

open Telemetry Db UnitOfWork Evaluation Stateful Platform Ingestion

section Places
variable {α : Type} (p : ℕ → Bool)

/-- The elements of a list whose places are selected. -/
def atPlaces (rows : List α) : List α :=
  (rows.zipIdx.filter fun entry => p entry.2).map Prod.fst

theorem atPlaces_append (rows : List α) (row : α) :
    atPlaces p (rows ++ [row]) =
      if p rows.length then atPlaces p rows ++ [row] else atPlaces p rows := by
  unfold atPlaces
  rw [List.zipIdx_append, List.filter_append, List.map_append]
  by_cases hp : p rows.length = true
  · simp [hp]
  · simp [hp]

theorem atPlaces_disjoint (q : ℕ → Bool) (hpq : ∀ place, p place = true → q place = false)
    (rows : List α) (hdistinct : rows.Nodup) (row : α) (hp : row ∈ atPlaces p rows) :
    row ∉ atPlaces q rows := by
  intro hq
  obtain ⟨entry, hentry, rfl⟩ := List.mem_map.mp hp
  obtain ⟨entry', hentry', hsame⟩ := List.mem_map.mp hq
  obtain ⟨hmem, hplace⟩ := List.mem_filter.mp hentry
  obtain ⟨hmem', hplace'⟩ := List.mem_filter.mp hentry'
  have hat := List.mem_zipIdx_iff_getElem?.mp hmem
  have hat' := List.mem_zipIdx_iff_getElem?.mp hmem'
  obtain ⟨hlt, _⟩ := List.getElem?_eq_some_iff.mp hat
  rw [hsame, ← hat] at hat'
  have hindex := (List.getElem?_inj hlt hdistinct).mp hat'.symm
  rw [← hindex, hpq _ hplace] at hplace'
  cases hplace'

theorem atPlaces_sublist (rows : List α) : (atPlaces p rows).Sublist rows := by
  have h := (List.filter_sublist (l := rows.zipIdx) (p := fun entry => p entry.2)).map Prod.fst
  rw [List.zipIdx_map_fst] at h
  exact h

theorem atPlaces_subset (rows : List α) (row : α) (h : row ∈ atPlaces p rows) : row ∈ rows :=
  (atPlaces_sublist p rows).subset h

theorem atPlaces_nodup (rows : List α) (h : rows.Nodup) : (atPlaces p rows).Nodup :=
  h.sublist (atPlaces_sublist p rows)

end Places

def evenPlace (place : ℕ) : Bool := place % 2 = 0

def oddPlace (place : ℕ) : Bool := place % 2 = 1

theorem length_atPlaces_even {α : Type} (rows : List α) :
    (atPlaces evenPlace rows).length = (rows.length + 1) / 2 := by
  induction rows using List.reverseRecOn with
  | nil => simp [atPlaces]
  | append_singleton rows row ih =>
    rw [atPlaces_append, List.length_append, List.length_singleton]
    by_cases heven : rows.length % 2 = 0
    · rw [if_pos (by simpa [evenPlace] using heven), List.length_append, List.length_singleton, ih]
      omega
    · rw [if_neg (by simpa [evenPlace] using heven), ih]
      omega

/-! ### The slot that finds a transaction open -/

theorem ingest_refused (runner : RegressionRunner)
    (hingest : runner.ingestRunEvent = defaultIngestRunEvent runner.db) (event : ExtendedRunEvent)
    (s : RunnerState) (hs : s.session.inTransaction = true) :
    runner.ingest event s = .error .invalidRequest s := by
  have hcall : runner.ingestRunEvent s.toHistory event s.session =
      .error .invalidRequest s.session := by
    rw [hingest]
    cases hr : ingestRunEvent runner.db event s.session with
    | ok result t =>
      have hclosed := (ingestRunEvent_returns runner.db event s.session t result hr).1
      rw [hs] at hclosed
      cases hclosed
    | error e t =>
      obtain ⟨_, ⟨_, rfl, rfl⟩ | ⟨hclosed, _⟩⟩ :=
        ingestRunEvent_raises runner.db event s.session t e hr
      · exact bind_of_error _ _ _ _ _ hr
      · rw [hs] at hclosed
        cases hclosed
  unfold RegressionRunner.ingest
  rw [bind_of_ok get _ s s s rfl]
  exact bind_of_error _ _ s s _ (zoom_of_error _ _ _ s _ _ hcall)

theorem openSlot_refused (runner : RegressionRunner)
    (hingest : runner.ingestRunEvent = defaultIngestRunEvent runner.db)
    (scenarioIds : List String) (htarget : HealthyTarget runner.target scenarioIds)
    (regressionRunId repetitionIndex : ℕ) (contract : ScenarioContract)
    (hmem : contract.scenarioId ∈ scenarioIds)
    (hload : loadScenarioContract contract.scenarioId = .ok contract) (s : RunnerState)
    (hs : s.session.inTransaction = true) :
    ∃ t, runner.runOne regressionRunId contract repetitionIndex s = .error .invalidRequest t ∧
      t.session = s.session := by
  obtain ⟨event, t0, hdispatched, hsession, _⟩ := runScenario_ok runner s contract _
    (htarget.dispatched contract.scenarioId hmem contract hload)
  have hingested (event : ExtendedRunEvent) :
      runner.ingest event t0 = .error .invalidRequest t0 := by
    apply ingest_refused runner hingest event t0
    rw [hsession]
    exact hs
  refine ⟨t0, ?_, hsession⟩
  unfold RegressionRunner.runOne
  cases requiresHitlFlow contract with
  | true =>
    simp only [if_true, RegressionRunner.runOneHitl]
    rw [bind_of_ok _ _ s t0 event hdispatched]
    exact bind_of_error _ _ t0 t0 _ (hingested _)
  | false =>
    simp only [Bool.false_eq_true, if_false]
    rw [bind_of_ok _ _ s t0 event hdispatched]
    exact bind_of_error _ _ t0 t0 _ (hingested _)

/-! ### The slots in turn -/

theorem sameRows_untouched (runId : String) (reference store : Store)
    (hrows : SameRows runId reference store) (h : Untouched reference runId) :
    Untouched store runId := by
  have hsame := hrows.toSameRun
  have hspans : spansOf runId reference = [] :=
    List.filter_eq_nil_iff.mpr fun span hm => by simpa using h.spans span hm
  have htoolCalls : toolCallsOf runId reference = [] :=
    List.filter_eq_nil_iff.mpr fun call hm => by simpa using h.toolCalls call hm
  have hllmCalls : llmCallsOf runId reference = [] :=
    List.filter_eq_nil_iff.mpr fun call hm => by simpa using h.llmCalls call hm
  have hspans' := hsame.spans
  rw [hspans, List.perm_nil] at hspans'
  have htoolCalls' := hsame.toolCalls.trans htoolCalls
  have hllmCalls' := hsame.llmCalls.trans hllmCalls
  exact
    { agentRun := hsame.agentRun.trans h.agentRun
      spans := fun span hm => by simpa using List.filter_eq_nil_iff.mp hspans' span hm
      toolCalls := fun call hm => by simpa using List.filter_eq_nil_iff.mp htoolCalls' call hm
      llmCalls := fun call hm => by simpa using List.filter_eq_nil_iff.mp hllmCalls' call hm }

theorem slot_runId_inj (regressionRunId : ℕ) (slot slot' : Slot)
    (h : slot.runId regressionRunId = slot'.runId regressionRunId) : slot = slot' := by
  obtain ⟨_, hscenario, hrepetition⟩ := regressionRunEventId_inj _ _ _ _ _ _ h
  cases slot
  cases slot'
  simp only at hscenario hrepetition
  rw [hscenario, hrepetition]

theorem slots_nodup (scenarioIds : List String) (repetitions : ℕ) (h : scenarioIds.Nodup) :
    (slots scenarioIds repetitions).Nodup := by
  apply List.nodup_flatMap.mpr
  constructor
  · intro scenarioId _
    exact List.nodup_range.map fun _ _ hsame => congrArg Slot.repetitionIndex hsame
  · apply h.imp
    intro scenarioId scenarioId' hne slot hslot hslot'
    obtain ⟨_, _, rfl⟩ := List.mem_map.mp hslot
    obtain ⟨_, _, hsame⟩ := List.mem_map.mp hslot'
    exact hne (congrArg Slot.scenarioId hsame).symm

theorem nextSlot_new (done all : List Slot) (slot : Slot) (hall : done ++ [slot] <+: all)
    (hdistinct : all.Nodup) : slot ∈ all ∧ slot ∉ done := by
  have hnodup := hdistinct.sublist hall.sublist
  constructor
  · exact hall.subset (List.mem_append_right done List.mem_cons_self)
  · intro hmem
    exact (List.nodup_append.mp hnodup).2.2 slot hmem slot List.mem_cons_self rfl

theorem oddPlace_succ (place : ℕ) : oddPlace (place + 1) = !oddPlace place := by
  simp only [oddPlace]
  rcases Nat.mod_two_eq_zero_or_one place with h | h
  · simp [h, Nat.add_mod]
  · simp [h, Nat.add_mod]

theorem evenPlace_eq (place : ℕ) : evenPlace place = !oddPlace place := by
  simp only [evenPlace, oddPlace]
  rcases Nat.mod_two_eq_zero_or_one place with h | h
  · simp [h]
  · simp [h]

/-- How far the regression has come: the slots at even places created, those at odd places
refused, the session open after an odd number of them, and no other run touched. -/
structure Alternating (regressionRunId : ℕ) (reference : Store) (done : List Slot)
    (progress : RegressionRunner.Progress) (state : RunnerState) : Prop where
  created : progress.createdRunIds = (atPlaces evenPlace done).map (Slot.runId regressionRunId)
  errors : progress.errors = (atPlaces oddPlace done).map fun slot => errorOf slot .invalidRequest
  isOpen : state.session.inTransaction = oddPlace done.length
  others : ∀ runId, (∀ slot ∈ atPlaces evenPlace done, runId ≠ slot.runId regressionRunId) →
    RowsAre runId reference state

theorem alternating_slot (regressionRunId : ℕ) (reference : Store) (done : List Slot)
    (progress : RegressionRunner.Progress) (state : RunnerState)
    (h : Alternating regressionRunId reference done progress state) (slot : Slot)
    (hslot : slot ∉ atPlaces evenPlace done) :
    RowsAre (slot.runId regressionRunId) reference state := by
  apply h.others
  intro created hcreated hid
  exact hslot (slot_runId_inj regressionRunId slot created hid ▸ hcreated)

theorem alternating_start (regressionRunId : ℕ) (state : RunnerState) (session : DbSession)
    (now : Timestamp) (hclosed : session.inTransaction = false)
    (hcommitted : session.committed = updateRegressionRun regressionRunId .running
      (fun _ => some now) none state.session.view) :
    Alternating regressionRunId state.session.view [] ⟨[], []⟩ { state with session := session } := by
  refine ⟨rfl, rfl, hclosed, ?_⟩
  intro runId _
  refine ⟨?_, fun hopen => ?_⟩
  · show SameRows runId state.session.view session.committed
    rw [hcommitted]
    exact mark_sameRows _ _ _ regressionRunId .running _ none (sameRows_refl _ _)
  · rw [show session.inTransaction = false from hclosed] at hopen
    cases hopen

section Run
variable (db : Database) (hdb : db.backend.Accepts) (target : AgentTarget)
  (environment : History → JudgeEnvironment) (libraries : JudgeLibraries)
include hdb

theorem slotKeeps_alternating (scenarioIds : List String)
    (htarget : HealthyTarget target scenarioIds) (regressionRunId : ℕ) (all : List Slot)
    (hdistinct : all.Nodup) (reference : Store)
    (huntouched : ∀ slot ∈ all, Untouched reference (slot.runId regressionRunId))
    (scenarioId : String) (hmem : scenarioId ∈ scenarioIds) (contract : ScenarioContract)
    (hload : loadScenarioContract scenarioId = .ok contract) :
    SlotKeeps (defaultRunner db target environment libraries) regressionRunId all
      (Alternating regressionRunId reference) (fun _ _ => False) scenarioId contract := by
  have hid := loadScenarioContract_id scenarioId contract hload
  subst hid
  intro repetitionIndex done progress state hall h
  obtain ⟨hslot, hnew⟩ := nextSlot_new done all _ hall hdistinct
  have hnot : (⟨contract.scenarioId, repetitionIndex⟩ : Slot) ∉ atPlaces evenPlace done :=
    fun hmem => hnew (atPlaces_subset evenPlace done _ hmem)
  have hrows := alternating_slot _ _ _ _ _ h _ hnot
  have heven := evenPlace_eq done.length
  have hlater : oddPlace (done ++ [(⟨contract.scenarioId, repetitionIndex⟩ : Slot)]).length =
      !oddPlace done.length := by
    rw [List.length_append, List.length_singleton, oddPlace_succ]
  cases hplace : oddPlace done.length with
  | false =>
    rw [hplace] at heven hlater
    have hclosed : state.session.inTransaction = false := h.isOpen.trans hplace
    have hstored := sameRows_untouched _ reference _ hrows.1 (huntouched _ hslot)
    have hfresh : Untouched (started state).session.committed
        (regressionRunEventId regressionRunId contract.scenarioId repetitionIndex) := hstored
    obtain ⟨t, ht, hopen⟩ := firstSlot_ok (defaultRunner db target environment libraries) hdb rfl
      regressionRunId repetitionIndex scenarioIds htarget contract hmem hload (started state)
      hclosed hfresh environment libraries rfl
    have hrun := runRepetition_of_ok _ regressionRunId contract.scenarioId contract
      repetitionIndex state t _ ht
    refine ends_of_ok _ _ _ _ _ _ hrun ⟨?_, ?_, ?_, ?_⟩
    · rw [atPlaces_append, heven, Bool.not_false, if_pos rfl, List.map_append, ← h.created]
      rfl
    · rw [atPlaces_append, hplace, if_neg Bool.false_ne_true, ← h.errors]
      rfl
    · rw [hlater]
      exact hopen
    · intro runId hother
      rw [atPlaces_append, heven, Bool.not_false, if_pos rfl] at hother
      have hne : runId ≠
          regressionRunEventId regressionRunId contract.scenarioId repetitionIndex :=
        hother ⟨contract.scenarioId, repetitionIndex⟩
          (List.mem_append_right _ (List.mem_singleton.mpr rfl))
      have hbefore : RowsAre runId reference (started state) :=
        h.others runId fun slot hcreated => hother slot (List.mem_append_left _ hcreated)
      have hafter := keptFor_runOne _ _ _ (keptFor_otherRows db target environment libraries _ _ hne
        reference) regressionRunId contract repetitionIndex rfl (started state) hbefore
      rw [after_ok _ _ _ _ ht] at hafter
      exact hafter
  | true =>
    rw [hplace] at heven hlater
    obtain ⟨t, ht, hsame⟩ := openSlot_refused (defaultRunner db target environment libraries) rfl
      scenarioIds htarget regressionRunId repetitionIndex contract hmem hload (started state)
      (h.isOpen.trans hplace)
    have hgate : ¬ GateViolation .invalidRequest := by
      intro hgate
      obtain ⟨_, hmessage⟩ := hgate
      cases hmessage
    have hrun := runRepetition_of_error _ regressionRunId contract.scenarioId contract
      repetitionIndex state t .invalidRequest hgate ht
    refine ends_of_ok _ _ _ _ _ _ hrun ⟨?_, ?_, ?_, ?_⟩
    · rw [atPlaces_append, heven, Bool.not_true, if_neg Bool.false_ne_true, ← h.created]
      rfl
    · rw [atPlaces_append, hplace, if_pos rfl, List.map_append, ← h.errors]
      rfl
    · rw [hlater]
      rfl
    · intro runId hother
      rw [atPlaces_append, heven, Bool.not_true, if_neg Bool.false_ne_true] at hother
      have hbefore := h.others runId hother
      refine ⟨?_, fun hopen => by cases hopen⟩
      show SameRows runId reference t.session.committed
      rw [hsame]
      exact hbefore.1

/-- The run returns: a created run for every slot at an even place, an `InvalidRequestError`
for every other, both in the order of the slots, nothing stored of the refused slots, and the
regression completed all the same. -/
def CreatesEverySecond (runner : RegressionRunner) (row : RegressionRun) (state : RunnerState) :
    Prop :=
  ∃ result t, runner.run row.id state = .ok result t ∧
    result.createdRunIds =
      (atPlaces evenPlace (slots row.scenarioIds row.repetitions)).map (Slot.runId row.id) ∧
    result.createdRunIds.length = (row.scenarioIds.length * row.repetitions + 1) / 2 ∧
    result.errors = (atPlaces oddPlace (slots row.scenarioIds row.repetitions)).map
      (fun slot => errorOf slot .invalidRequest) ∧
    (∀ slot ∈ atPlaces oddPlace (slots row.scenarioIds row.repetitions),
      Untouched t.session.committed (slot.runId row.id)) ∧
    Finished row.id .completed t.session.committed

/-- A regression of known scenarios whose slots keep an invariant without raising returns. -/
theorem healthy_run (row : RegressionRun)
    (hknown : ∀ scenarioId ∈ row.scenarioIds, KnownScenario scenarioId) (state : RunnerState)
    (hrow : state.session.view.regressionRuns.find? row.id = some row)
    (I : List Slot → RegressionRunner.Progress → RunnerState → Prop)
    (hslot : ∀ scenarioId ∈ row.scenarioIds, ∀ contract,
      loadScenarioContract scenarioId = .ok contract →
        SlotKeeps (defaultRunner db target environment libraries) row.id
          (slots row.scenarioIds row.repetitions) I (fun _ _ => False) scenarioId contract)
    (hstart : ∀ session now, session.inTransaction = false →
      session.committed =
        updateRegressionRun row.id .running (fun _ => some now) none state.session.view →
      I [] ⟨[], []⟩ { state with session := session }) :
    ∃ result t mid now, (defaultRunner db target environment libraries).run row.id state =
        .ok result t ∧
      I (slots row.scenarioIds row.repetitions) ⟨result.createdRunIds, result.errors⟩ mid ∧
      t.session.committed = updateRegressionRun row.id .completed (fun startedAt => startedAt)
        (some now) mid.session.view ∧
      Finished row.id .completed t.session.committed ∧ t.toHistory = mid.toHistory := by
  have haccepted (e : Error) : ¬ RefusesRunner db e := by
    intro hrefused
    obtain ⟨n, l, w, w', _, hv⟩ := hrefused
    rw [hdb n l w w'] at hv
    cases hv
  have hrun := run_ends (defaultRunner db target environment libraries) row.id I
    (fun _ _ => False) state row hrow hslot
    (fun scenarioId hmem e hload =>
      absurd (hknown scenarioId hmem) (unknown_of_load_error scenarioId e hload))
    hstart (fun e _ hrefused _ => absurd hrefused (haccepted e))
    (fun e _ _ _ hrefused _ _ => absurd hrefused (haccepted e))
  have hstatus := known_leavesTerminalStatus (defaultRunner db target environment libraries)
    (default_leavesRegressions db target environment libraries) haccepted row state hrow hknown
  cases hrun with
  | error e t hr h => exact h.elim
  | ok result t hr h =>
    obtain ⟨_, _, mid, now, hmid, hhistory, _, hcommitted⟩ := h
    have hcompleted : Finished row.id .completed t.session.committed :=
      ends_returns _ state t result
        (fun _ (t : RunnerState) => Finished row.id .completed t.session.committed) _ hstatus hr
    exact ⟨result, t, mid, now, hr, hmid, hcommitted, hcompleted, hhistory⟩

/-- A healthy regression of distinct known scenarios, nothing stored yet of its slots, creates
every second slot, beginning with the first. -/
theorem healthy_alternates (row : RegressionRun) (htarget : HealthyTarget target row.scenarioIds)
    (hdistinct : row.scenarioIds.Nodup)
    (hknown : ∀ scenarioId ∈ row.scenarioIds, KnownScenario scenarioId) (state : RunnerState)
    (hrow : state.session.view.regressionRuns.find? row.id = some row)
    (huntouched : ∀ slot ∈ slots row.scenarioIds row.repetitions,
      Untouched state.session.view (slot.runId row.id)) :
    CreatesEverySecond (defaultRunner db target environment libraries) row state := by
  have hslots := slots_nodup row.scenarioIds row.repetitions hdistinct
  obtain ⟨result, t, mid, now, hr, hmid, hcommitted, hcompleted, _⟩ := healthy_run db hdb target
    environment libraries row hknown state hrow (Alternating row.id state.session.view)
    (slotKeeps_alternating db hdb target environment libraries row.scenarioIds htarget row.id _
      hslots _ huntouched)
    (alternating_start row.id state)
  refine ⟨result, t, hr, hmid.created, ?_, hmid.errors, ?_, hcompleted⟩
  · have hlength := congrArg List.length hmid.created
    rw [List.length_map, length_atPlaces_even, slots_length] at hlength
    exact hlength
  · intro slot hodd
    have hrefused := atPlaces_disjoint oddPlace evenPlace (fun place hplace => by
      rw [evenPlace_eq, hplace, Bool.not_true]) _ hslots slot hodd
    have hrows : SameRows (slot.runId row.id) state.session.view t.session.committed := by
      rw [hcommitted]
      exact mark_sameRows _ _ _ row.id .completed _ (some now)
        (sound_view _ _ (alternating_slot _ _ _ _ _ hmid slot hrefused))
    exact sameRows_untouched _ _ _ hrows (huntouched slot (atPlaces_subset oddPlace _ slot hodd))

end Run

theorem healthy_alternates_twoByTwo :
    CreatesEverySecond healthyRunner twoByTwo (sampleState twoByTwo) :=
  healthy_alternates .plain plain_accepts healthyTarget _ _ twoByTwo healthyTarget_healthy
    (by decide) (by decide) _ (sampleState_row _ _) fun _ _ => sampleState_untouched _ _

end ObsPlatform.Regressions
