import ObsPlatform.Regressions.SideBySide

/-!
# The reported scenario id in a regression

Two runs whose targets differ in the reported scenario ids end alike as long as no
reported id makes the run's row meet another row on the regression's unique constraint,
and no slot finds its own place taken. Where one does, the run that reports it loses the
slot, or leaves the reported id in the row.
-/

namespace ObsPlatform.Regressions

open Telemetry Db UnitOfWork Evaluation Ingestion Stateful Platform

/-! ### The condition on the steps of a run -/

abbrev Returning {α : Type} (x : RunnerM α) (state : RunnerState)
    (returned : α → RunnerState → Prop) : Prop :=
  Ends x state returned fun _ _ => True

section Clear
variable (runner : RegressionRunner) (regressionRunId : ℕ)

/-- The event that resumes the slot is admitted. -/
def ClearReply (runId : String) (state : RunnerState) : Prop :=
  Returning (onSession (assertHitlGateHeld runner.db runId)) state fun checkpointId s =>
    Returning (runner.resumeAfterApproval checkpointId "approve") s fun reply t =>
      AdmitsOn (withRunId reply runId) t.session

/-- Every event the slot ingests is admitted, and its place is vacant when it is linked. -/
def ClearSlot (contract : ScenarioContract) (repetitionIndex : ℕ) (state : RunnerState) : Prop :=
  let runId := regressionRunEventId regressionRunId contract.scenarioId repetitionIndex
  Returning (runner.runScenario contract) state fun event s =>
    AdmitsOn (withRunId event runId) s.session ∧
    Returning (runner.ingest (withRunId event runId)) s fun _ t =>
      Vacant runId (some (regressionRunId, contract.scenarioId, repetitionIndex))
        t.session.committed ∧
      Returning (runner.link runId regressionRunId contract.scenarioId repetitionIndex) t fun _ u =>
        requiresHitlFlow contract = true → ClearReply runner runId u

/-- The slots are clear, each in the state the run comes to it in. -/
def ClearSlots : List Slot → RunnerState → Prop
  | [], _ => True
  | slot :: rest, state =>
    match loadScenarioContract slot.scenarioId with
    | .error _ => True
    | .ok contract =>
      ClearSlot runner regressionRunId contract slot.repetitionIndex (started state) ∧
      Returning (runner.runRepetition regressionRunId slot.scenarioId contract slot.repetitionIndex)
        state fun _ t => ClearSlots rest t

/-- The slots of the regression that the run finds are clear. -/
def ClearRun (state : RunnerState) : Prop :=
  Returning (onSession (query runner.db.backend .regressionRun fun store =>
      store.regressionRuns.find? regressionRunId)) state fun found s =>
    ∀ row ∈ found, Returning (onSession (markRunning runner.db row.id)) s fun _ t =>
      ClearSlots runner row.id (slots row.scenarioIds row.repetitions) t

instance (event : ExtendedRunEvent) (s : DbSession) : Decidable (AdmitsOn event s) :=
  inferInstanceAs (Decidable (s.inTransaction = false →
    pendingAfterTerminal event s.committed = .ok () →
      Vacant event.runId (reportedSlot event s.committed) s.committed))

instance (runId : String) (state : RunnerState) : Decidable (ClearReply runner runId state) :=
  inferInstanceAs (Decidable (Ends _ _ _ _))

instance (contract : ScenarioContract) (repetitionIndex : ℕ) (state : RunnerState) :
    Decidable (ClearSlot runner regressionRunId contract repetitionIndex state) :=
  inferInstanceAs (Decidable (Ends _ _ _ _))

def decideClearSlots : (slots : List Slot) → (state : RunnerState) →
    Decidable (ClearSlots runner regressionRunId slots state)
  | [], _ => isTrue trivial
  | slot :: rest, state =>
    match hload : loadScenarioContract slot.scenarioId with
    | .error _ => isTrue (by simp only [ClearSlots, hload])
    | .ok contract =>
      have := decideClearSlots rest
      decidable_of_iff
        (ClearSlot runner regressionRunId contract slot.repetitionIndex (started state) ∧
          Returning
            (runner.runRepetition regressionRunId slot.scenarioId contract slot.repetitionIndex)
            state fun _ t => ClearSlots runner regressionRunId rest t)
        (by simp only [ClearSlots, hload])

instance (slots : List Slot) (state : RunnerState) :
    Decidable (ClearSlots runner regressionRunId slots state) :=
  decideClearSlots runner regressionRunId slots state

instance (state : RunnerState) : Decidable (ClearRun runner regressionRunId state) :=
  inferInstanceAs (Decidable (Ends _ _ _ _))

end Clear

/-! ### The place of a linked run -/

theorem vacant_of_linked (runId : String) (k : ℕ × String × ℕ) (store : Store) (row : AgentRun)
    (h : store.Consistent) (hrow : store.agentRuns.find? runId = some row) (hslot : row.slot = some k) :
    Vacant runId (some k) store := by
  intro other hother hne j hj he
  cases he
  have hunique := (uniqueOn_table_iff AgentRun.slot store.agentRuns).mp
    (h .agentRunsRegressionScenarioRepetition)
  have hsame := hunique other hother row (Table.mem_of_find? _ _ row hrow) k hj hslot
  exact hne (hsame.trans (Table.key_of_find? _ _ row hrow))

/-- An ingestion changes no row of another run. -/
theorem vacant_ingested (event : ExtendedRunEvent) (now : Timestamp) (store store' : Store)
    (heffect : ingestEffect event now store = .ok store') (slot : Option (ℕ × String × ℕ))
    (h : Vacant event.runId slot store) : Vacant event.runId slot store' := by
  intro other hother hne k hk
  have hfind := (store'.agentRuns.find?_eq_some_iff other.runId other).mpr ⟨hother, rfl⟩
  rw [ingestEffect_agentRuns event now store store' heffect, if_neg hne] at hfind
  exact h other (Table.mem_of_find? _ _ other hfind) hne k hk

theorem linked_slot (runId : String) (regressionRunId : ℕ) (scenarioId : String)
    (repetitionIndex : ℕ) (store : Store) (s : DbSession)
    (h : Linked runId regressionRunId scenarioId repetitionIndex store s)
    (hrow : runId ∈ store.runIds) :
    ∃ row, s.committed.agentRuns.find? runId = some row ∧
      row.slot = some (regressionRunId, scenarioId, repetitionIndex) := by
  obtain ⟨stored, hstored, hkey⟩ := List.mem_map.mp hrow
  have hfind := (store.agentRuns.find?_eq_some_iff runId stored).mpr ⟨hstored, hkey⟩
  obtain ⟨now, hcommitted⟩ := h.committed
  have hlinked := updateLinkage_find? runId regressionRunId scenarioId repetitionIndex now store runId
  rw [if_pos rfl, hfind, ← hcommitted] at hlinked
  exact ⟨_, hlinked, rfl⟩

/-! ### A slot -/

section Slot
variable (runner : RegressionRunner) (target : AgentTarget)
  (hsame : SameBehaviour runner.target target) (hdb : Healthy runner.db)
  (hingest : runner.ingestRunEvent = defaultIngestRunEvent runner.db)
  (hblind : Blind runner.runEvaluation) (regressionRunId : ℕ)

/-- The session stores the regression and violates nothing. -/
def InOrder (s : RunnerState) : Prop :=
  Sound Store.Consistent s.session ∧ ∃ regressionRuns : Table RegressionRun.id,
    regressionRunId ∈ regressionRuns.rows.map RegressionRun.id ∧
      RegressionsAre regressionRuns s.session

theorem inOrder_regression (s : RunnerState) (h : InOrder regressionRunId s) :
    regressionRunId ∈ s.session.committed.regressionRunIds := by
  obtain ⟨_, regressionRuns, hmem, hare⟩ := h
  have hcommitted : s.session.committed.regressionRuns = regressionRuns := hare.1
  rw [Store.regressionRunIds, hcommitted]
  exact hmem

include hblind in
theorem finish_alike (runId : String) (s t : RunnerState) (h : Matched s t) :
    EndAlike
      (do
        onSession commit
        runner.evaluate runId
        return runId : RunnerM String)
      (do
        onSession commit
        (runner.aimedAt target).evaluate runId
        return runId : RunnerM String) s t (fun a u b v => a = b ∧ Indistinct u v)
      fun _ u v => Indistinct u v := by
  have hmatched (e : Error) (u v : RunnerState) (h : Matched u v) : Indistinct u v :=
    indistinct_of_matched u v h
  refine alike_bind _ _ _ _ s t (fun _ u _ v => Matched u v) _ _ (alike_mono _ _ _ _ _ _ _ _
    (onSession_matched commit s t h) (fun _ _ _ _ h => h.2) hmatched) ?_
  intro _ u _ v huv
  refine alike_bind _ _ _ _ u v (fun _ u _ v => Matched u v) _ _ (alike_mono _ _ _ _ _ _ _ _
    (evaluate_alike runner target hblind runId u v huv) (fun _ _ _ _ h => h) hmatched) ?_
  intro _ u v' v h
  exact .ok runId u runId v rfl rfl ⟨rfl, indistinct_of_matched u v h⟩

include hdb hingest

/-- The run is stored, linked to its slot, and nothing is violated. -/
structure Placed (runId scenarioId : String) (repetitionIndex : ℕ) (s : RunnerState) : Prop where
  consistent : s.session.committed.Consistent
  regression : regressionRunId ∈ s.session.committed.regressionRunIds
  linked : ∃ store, runId ∈ store.runIds ∧
    Linked runId regressionRunId scenarioId repetitionIndex store s.session

/-- An event ingested and linked on two clear sides, and what follows on the run it placed. -/
theorem snapshot_alike (runId scenarioId : String) (repetitionIndex : ℕ)
    (event : ExtendedRunEvent) (hrun : event.runId = runId) (reported : Option String)
    (s t : RunnerState) (h : Indistinct s t) (hconsistent : s.session.committed.Consistent)
    (hregression : regressionRunId ∈ s.session.committed.regressionRunIds)
    (hadmits : AdmitsOn event s.session) (hadmits' : AdmitsOn (withScenario reported event) t.session)
    (P P' : RunnerState → Prop)
    (hclear : Returning (runner.ingest event) s fun _ u =>
      Vacant runId (some (regressionRunId, scenarioId, repetitionIndex)) u.session.committed ∧
      Returning (runner.link runId regressionRunId scenarioId repetitionIndex) u fun _ => P)
    (hclear' : Returning ((runner.aimedAt target).ingest (withScenario reported event)) t fun _ u =>
      Returning ((runner.aimedAt target).link runId regressionRunId scenarioId repetitionIndex) u
        fun _ => P')
    (k k' : RunnerM String)
    (hk : ∀ u v, Matched u v → Placed regressionRunId runId scenarioId repetitionIndex u → P u →
      P' v → EndAlike k k' u v (fun a u b v => a = b ∧ Indistinct u v) fun _ u v => Indistinct u v) :
    EndAlike
      (do
        runner.ingest event
        runner.link runId regressionRunId scenarioId repetitionIndex
        k : RunnerM String)
      (do
        (runner.aimedAt target).ingest (withScenario reported event)
        (runner.aimedAt target).link runId regressionRunId scenarioId repetitionIndex
        k' : RunnerM String) s t (fun a u b v => a = b ∧ Indistinct u v)
      fun _ u v => Indistinct u v := by
  subst hrun
  have hingested := ingest_alike runner target hdb hingest event reported s t h hconsistent hadmits
    hadmits'
  have hleft := alike_and_ends _ _ _ _ _ _ _ _ hingested hclear
  have hboth := alike_and_ends_right _ _ _ _ _ _ _ _ hleft hclear'
  refine alike_bind _ _ _ _ s t _ _ _ (alike_mono _ _ _ _ _ _ _ _ hboth (fun _ _ _ _ h => h)
    fun _ _ _ h => h.1.1) ?_
  intro _ u _ v hreturned
  obtain ⟨⟨⟨hhistory, hreported, now, heffect⟩, hvacant, hlinks⟩, hlinks'⟩ := hreturned
  have hruns := ingestEffect_regressionRuns event now _ _ heffect
  have hstored : regressionRunId ∈ u.session.committed.regressionRunIds := by
    rw [Store.regressionRunIds, hruns]
    exact hregression
  have hlinked := link_alike runner target hdb event.runId regressionRunId scenarioId repetitionIndex
    reported u v hhistory hreported hstored hvacant
  have hends := alike_and_ends_right _ _ _ _ _ _ _ _
    (alike_and_ends _ _ _ _ _ _ _ _ hlinked hlinks) hlinks'
  refine alike_bind _ _ _ _ u v _ _ _ (alike_mono _ _ _ _ _ _ _ _ hends (fun _ _ _ _ h => h)
    fun _ _ _ h => h.1.1.elim) ?_
  intro _ u' _ v' hreturned
  obtain ⟨⟨⟨hmatched, hafter, hlinkage⟩, hP⟩, hP'⟩ := hreturned
  apply hk u' v' hmatched _ hP hP'
  refine ⟨hafter, ?_, _, hreported.run, hlinkage⟩
  obtain ⟨_, hcommitted⟩ := hlinkage.committed
  rw [hcommitted]
  exact hstored

include hsame hblind

/-- From the gate on: the resumption, its event ingested and linked, and the evaluation. -/
theorem gated_alike (runId scenarioId : String) (repetitionIndex : ℕ) (s t : RunnerState)
    (h : Matched s t) (hplaced : Placed regressionRunId runId scenarioId repetitionIndex s)
    (hclear : ClearReply runner runId s) (hclear' : ClearReply (runner.aimedAt target) runId t) :
    EndAlike
      (do
        let checkpointId ← onSession (assertHitlGateHeld runner.db runId)
        let approvedEvent ← runner.resumeAfterApproval checkpointId "approve"
        runner.ingest (withRunId approvedEvent runId)
        runner.link runId regressionRunId scenarioId repetitionIndex
        onSession commit
        runner.evaluate runId
        return runId : RunnerM String)
      (do
        let checkpointId ← onSession (assertHitlGateHeld runner.db runId)
        let approvedEvent ← (runner.aimedAt target).resumeAfterApproval checkpointId "approve"
        (runner.aimedAt target).ingest (withRunId approvedEvent runId)
        (runner.aimedAt target).link runId regressionRunId scenarioId repetitionIndex
        onSession commit
        (runner.aimedAt target).evaluate runId
        return runId : RunnerM String) s t (fun a u b v => a = b ∧ Indistinct u v)
      fun _ u v => Indistinct u v := by
  obtain ⟨store, hstored, hlinked⟩ := hplaced.linked
  obtain ⟨row, hrow, hslot⟩ := linked_slot runId regressionRunId scenarioId repetitionIndex store
    s.session hlinked hstored
  have hvacant := vacant_of_linked runId _ s.session.committed row hplaced.consistent hrow hslot
  have hgate := assertHitlGateHeld_ends runner.db runId s.session hlinked.view
    (hrow ▸ rfl)
  have hmatched := onSession_matched (assertHitlGateHeld runner.db runId) s t h
  have hheld := alike_and_ends _ _ _ _ _ _ _ _ hmatched (onSession_ends _ s _ _ hgate)
  have hleft := alike_and_ends _ _ _ _ _ _ _ _ hheld hclear
  have hboth := alike_and_ends_right _ _ _ _ _ _ _ _ hleft hclear'
  refine alike_bind _ _ _ _ s t _ _ _ (alike_mono _ _ _ _ _ _ _ _ hboth (fun _ _ _ _ h => h)
    fun _ _ _ h => indistinct_of_matched _ _ h.1.1.1) ?_
  intro checkpointId u _ v hreturned
  obtain ⟨⟨⟨⟨rfl, huv⟩, ⟨_, hcommitted, _⟩, _⟩, hresumed⟩, hresumed'⟩ := hreturned
  have hreply := alike_and_ends_right _ _ _ _ _ _ _ _ (alike_and_ends _ _ _ _ _ _ _ _
    (resumeAfterApproval_alike runner target hsame checkpointId "approve" u v huv) hresumed) hresumed'
  refine alike_bind _ _ _ _ u v _ _ _ (alike_mono _ _ _ _ _ _ _ _ hreply (fun _ _ _ _ h => h)
    fun _ _ _ h => indistinct_of_matched _ _ h.1.1) ?_
  intro reply u' reply' v' hreturned
  obtain ⟨⟨⟨hevent, hmatched', hsession⟩, hadmits⟩, hadmits'⟩ := hreturned
  have hstore : u'.session.committed = s.session.committed := by
    rw [hsession]
    exact hcommitted
  rw [hevent] at hadmits' ⊢
  -- the row is linked to its slot already, so no other row can take the slot meanwhile
  have hkept : Returning (runner.ingest (withRunId reply runId)) u' fun _ w =>
      Vacant runId (some (regressionRunId, scenarioId, repetitionIndex)) w.session.committed ∧
      Returning (runner.link runId regressionRunId scenarioId repetitionIndex) w fun _ _ => True := by
    have hends := ingest_ends runner u' (withRunId reply runId)
    apply ends_mono _ _ _ _ _ _ hends
    · intro _ w hreturned
      rw [hingest] at hreturned
      obtain ⟨result, x, hr, hx⟩ := (bind_returns _ _ _ _ _).mp hreturned.2
      cases hx
      have heffect := (ingestRunEvent_returns runner.db _ _ _ _ hr).2.2
      rw [hstore] at heffect
      exact ⟨vacant_ingested (withRunId reply runId) _ _ _ heffect _ hvacant,
        ends_always _ _ _ _ (fun _ _ => trivial) fun _ _ => trivial⟩
    · exact fun _ _ _ => trivial
  refine snapshot_alike runner target hdb hingest regressionRunId runId scenarioId repetitionIndex
    (withRunId reply runId) rfl reply'.scenarioId u' v' (indistinct_of_matched _ _ hmatched') ?_ ?_
    hadmits hadmits' (fun _ => True) (fun _ => True) hkept ?_ _ _ ?_
  · rw [hstore]
    exact hplaced.consistent
  · rw [hstore]
    exact hplaced.regression
  · exact ends_always _ _ _ _ (fun _ _ => ends_always _ _ _ _ (fun _ _ => trivial)
      fun _ _ => trivial) fun _ _ => trivial
  · exact fun w x hwx _ _ _ => finish_alike runner target hblind runId w x hwx

theorem runOne_alike (contract : ScenarioContract) (repetitionIndex : ℕ) (s t : RunnerState)
    (h : Indistinct s t) (hconsistent : s.session.committed.Consistent)
    (hregression : regressionRunId ∈ s.session.committed.regressionRunIds)
    (hclear : ClearSlot runner regressionRunId contract repetitionIndex s)
    (hclear' : ClearSlot (runner.aimedAt target) regressionRunId contract repetitionIndex t) :
    EndAlike (runner.runOne regressionRunId contract repetitionIndex)
      ((runner.aimedAt target).runOne regressionRunId contract repetitionIndex) s t
      (fun a u b v => a = b ∧ Indistinct u v) fun _ u v => Indistinct u v := by
  have hdispatched := alike_and_ends_right _ _ _ _ _ _ _ _ (alike_and_ends _ _ _ _ _ _ _ _
    (runScenario_alike runner target hsame contract s t h) hclear) hclear'
  have hslot := alike_mono _ _ _ _ _ _ _ _ hdispatched (fun _ _ _ _ h => h) fun _ _ _ h => h.1.1
  unfold RegressionRunner.runOne
  cases hflow : requiresHitlFlow contract with
  | true =>
    simp only [if_true]
    refine alike_bind _ _ _ _ s t _ _ _ hslot ?_
    intro event u event' v hreturned
    obtain ⟨⟨⟨hevent, huv, hu, _⟩, hadmits, hingested⟩, hadmits', hingested'⟩ := hreturned
    rw [hevent] at hadmits' hingested' ⊢
    rw [← hu] at hconsistent hregression
    refine snapshot_alike runner target hdb hingest regressionRunId _ contract.scenarioId
      repetitionIndex (withRunId event _) rfl event'.scenarioId u v huv hconsistent hregression
      hadmits hadmits' _ _ hingested (ends_mono _ _ _ _ _ _ hingested' (fun _ _ h => h.2)
        fun _ _ h => h) _ _ ?_
    intro u' v' hmatched hplaced hreply hreply'
    exact gated_alike runner target hsame hdb hingest hblind regressionRunId _ contract.scenarioId
      repetitionIndex u' v' hmatched hplaced (hreply hflow) (hreply' hflow)
  | false =>
    simp only [Bool.false_eq_true, if_false]
    refine alike_bind _ _ _ _ s t _ _ _ hslot ?_
    intro event u event' v hreturned
    obtain ⟨⟨⟨hevent, huv, hu, _⟩, hadmits, hingested⟩, hadmits', hingested'⟩ := hreturned
    rw [hevent] at hadmits' hingested' ⊢
    rw [← hu] at hconsistent hregression
    refine snapshot_alike runner target hdb hingest regressionRunId _ contract.scenarioId
      repetitionIndex (withRunId event _) rfl event'.scenarioId u v huv hconsistent hregression
      hadmits hadmits' _ _ hingested (ends_mono _ _ _ _ _ _ hingested' (fun _ _ h => h.2)
        fun _ _ h => h) _ _ ?_
    exact fun u' v' hmatched _ _ _ => finish_alike runner target hblind _ u' v' hmatched

/-! ### The loops -/

theorem runRepetition_alike (scenarioId : String) (contract : ScenarioContract)
    (repetitionIndex : ℕ) (s t : RunnerState) (h : Indistinct s t)
    (hconsistent : s.session.committed.Consistent)
    (hregression : regressionRunId ∈ s.session.committed.regressionRunIds)
    (hclear : ClearSlot runner regressionRunId contract repetitionIndex (started s))
    (hclear' : ClearSlot (runner.aimedAt target) regressionRunId contract repetitionIndex
      (started t)) :
    EndAlike (runner.runRepetition regressionRunId scenarioId contract repetitionIndex)
      ((runner.aimedAt target).runRepetition regressionRunId scenarioId contract repetitionIndex) s t
      (fun a u b v => a = b ∧ Indistinct u v) fun _ u v => Indistinct u v := by
  have hone := runOne_alike runner target hsame hdb hingest hblind regressionRunId contract
    repetitionIndex (started s) (started t) (started_indistinct s t h) hconsistent hregression hclear
    hclear'
  cases hone with
  | ok childRunId u childRunId' v hx hy huv =>
    obtain ⟨rfl, huv⟩ := huv
    exact .ok _ _ _ _
      (runRepetition_of_ok runner regressionRunId scenarioId contract repetitionIndex s u _ hx)
      (runRepetition_of_ok (runner.aimedAt target) regressionRunId scenarioId contract
        repetitionIndex t v _ hy) ⟨rfl, ended_indistinct _ _ u v huv⟩
  | error e u v hx hy huv =>
    have hrolled := ended_indistinct ⟨scenarioId, repetitionIndex⟩ (.error e) _ _
      (rolledBack_indistinct u v huv)
    by_cases he : GateViolation e
    · obtain ⟨message, rfl⟩ := he
      refine alike_congr _ _ _ _ _ _ _ _ _ _
        (runRepetition_of_violation runner regressionRunId scenarioId contract repetitionIndex s u
          message hx)
        (runRepetition_of_violation (runner.aimedAt target) regressionRunId scenarioId contract
          repetitionIndex t v message hy) ?_
      have hmarked := mark_congr runner.db (fun now => updateRegressionRun regressionRunId .failed
        (fun startedAt => startedAt) (some now)) _ _ hrolled.session
      refine alike_bind _ _ _ _ _ _ _ _ _ (onSession_indistinct _ _ _ hrolled hmarked) ?_
      intro _ u' _ v' hreturned
      exact .error _ u' v' rfl rfl hreturned.2
    · exact .ok _ _ _ _
        (runRepetition_of_error runner regressionRunId scenarioId contract repetitionIndex s u e he
          hx)
        (runRepetition_of_error (runner.aimedAt target) regressionRunId scenarioId contract
          repetitionIndex t v e he hy) ⟨rfl, hrolled⟩

omit hsame hblind in
/-- A slot leaves the session in order; a violation that ends the run may not. -/
theorem runRepetition_inOrder (hsound : ∀ history runId,
      Preserves (Sound Store.Consistent) (runner.runEvaluation history runId))
    (hleaves : LeavesRegressions runner) (scenarioId : String) (contract : ScenarioContract)
    (repetitionIndex : ℕ) (s : RunnerState) (h : InOrder regressionRunId s) :
    Returning (runner.runRepetition regressionRunId scenarioId contract repetitionIndex) s
      fun _ t => InOrder regressionRunId t := by
  obtain ⟨hconsistent, regressionRuns, hmem, hare⟩ := h
  have henforces := healthy_enforces runner.db hdb
  have hkept : Kept runner fun state => Sound Store.Consistent state.session := by
    apply kept_of_keptFor
    intro slotRunId
    apply keptFor_sound
    · intro history event _
      rw [hingest]
      exact preserves_bind _ _ _ (sound_enforcedIngest runner.db henforces event) fun _ =>
        preserves_pure _ _
    · exact fun _ _ _ => sound_enforcedLinkage runner.db henforces _ _ _ _
    · exact fun history => hsound history slotRunId
  have hone := ends_and _ _ _ _ _ _
    (ends_of_preserves _ _ (kept_runOne runner _ hkept regressionRunId contract repetitionIndex)
      (started s) hconsistent)
    (ends_of_preserves _ _ (kept_runOne runner _ (kept_regressions runner hleaves regressionRuns)
      regressionRunId contract repetitionIndex) (started s) hare)
  apply runRepetition_ends runner regressionRunId scenarioId contract repetitionIndex s _ _ _ _ hone
  · intro _ mid hmid
    exact ⟨hmid.1, regressionRuns, hmem, hmid.2⟩
  · intro e mid hmid _
    exact ⟨⟨hmid.1.1, nofun⟩, regressionRuns, hmem, hmid.2.1, nofun⟩
  · exact fun _ _ _ _ _ _ _ _ => trivial
  · exact fun _ _ _ _ _ _ _ _ => trivial

variable (hsound : ∀ history runId,
    Preserves (Sound Store.Consistent) (runner.runEvaluation history runId))
  (hleaves : LeavesRegressions runner)
include hsound hleaves

theorem runRepetitions_alike (scenarioId : String) (contract : ScenarioContract)
    (hload : loadScenarioContract scenarioId = .ok contract) (rest : List Slot)
    (repetitionIndices : List ℕ) (progress : RegressionRunner.Progress) (s t : RunnerState)
    (h : Indistinct s t) (horder : InOrder regressionRunId s)
    (hclear : ClearSlots runner regressionRunId
      (repetitionIndices.map (Slot.mk scenarioId) ++ rest) s)
    (hclear' : ClearSlots (runner.aimedAt target) regressionRunId
      (repetitionIndices.map (Slot.mk scenarioId) ++ rest) t) :
    EndAlike (runner.runRepetitions regressionRunId scenarioId contract repetitionIndices progress)
      ((runner.aimedAt target).runRepetitions regressionRunId scenarioId contract repetitionIndices
        progress) s t
      (fun p u q v => p = q ∧ Indistinct u v ∧ InOrder regressionRunId u ∧
        ClearSlots runner regressionRunId rest u ∧
        ClearSlots (runner.aimedAt target) regressionRunId rest v)
      fun _ u v => Indistinct u v := by
  induction repetitionIndices generalizing progress s t with
  | nil => exact .ok progress s progress t rfl rfl ⟨rfl, h, horder, hclear, hclear'⟩
  | cons repetitionIndex repetitionIndices ih =>
    simp only [List.map_cons, List.cons_append, ClearSlots, hload] at hclear hclear'
    have hslot := runRepetition_alike runner target hsame hdb hingest hblind regressionRunId
      scenarioId contract repetitionIndex s t h horder.1.1
      (inOrder_regression regressionRunId s horder) hclear.1 hclear'.1
    have hkept := runRepetition_inOrder runner hdb hingest regressionRunId hsound hleaves scenarioId
      contract repetitionIndex s horder
    have hleft := alike_and_ends _ _ _ _ _ _ _ _ hslot (ends_and _ _ _ _ _ _ hkept hclear.2)
    have hboth := alike_and_ends_right _ _ _ _ _ _ _ _ hleft hclear'.2
    refine alike_bind _ _ _ _ s t _ _ _ (alike_mono _ _ _ _ _ _ _ _ hboth (fun _ _ _ _ h => h)
      fun _ _ _ h => h.1.1) ?_
    intro outcome u _ v hreturned
    obtain ⟨⟨⟨rfl, huv⟩, hu, hrest⟩, hrest'⟩ := hreturned
    exact ih (progress.append outcome) u v huv hu hrest hrest'

theorem runScenarios_alike (repetitions : ℕ) (scenarioIds : List String)
    (progress : RegressionRunner.Progress) (s t : RunnerState) (h : Indistinct s t)
    (horder : InOrder regressionRunId s)
    (hclear : ClearSlots runner regressionRunId (slots scenarioIds repetitions) s)
    (hclear' : ClearSlots (runner.aimedAt target) regressionRunId (slots scenarioIds repetitions)
      t) :
    EndAlike (runner.runScenarios regressionRunId repetitions scenarioIds progress)
      ((runner.aimedAt target).runScenarios regressionRunId repetitions scenarioIds progress) s t
      (fun p u q v => p = q ∧ Indistinct u v) fun _ u v => Indistinct u v := by
  induction scenarioIds generalizing progress s t with
  | nil => exact .ok progress s progress t rfl rfl ⟨rfl, h⟩
  | cons scenarioId rest ih =>
    cases hload : loadScenarioContract scenarioId with
    | error e =>
      have hleft : RegressionRunner.loadContract scenarioId s = .error e s := by
        simp only [RegressionRunner.loadContract, answer, hload]
      have hright : RegressionRunner.loadContract scenarioId t = .error e t := by
        simp only [RegressionRunner.loadContract, answer, hload]
      exact .error e s t (bind_of_error _ _ s s e hleft) (bind_of_error _ _ t t e hright) h
    | ok contract =>
      have hleft : RegressionRunner.loadContract scenarioId s = .ok contract s := by
        simp only [RegressionRunner.loadContract, answer, hload]
      have hright : RegressionRunner.loadContract scenarioId t = .ok contract t := by
        simp only [RegressionRunner.loadContract, answer, hload]
      refine alike_congr _ _ _ _ _ _ _ _ _ _ (bind_of_ok _ _ s s contract hleft)
        (bind_of_ok _ _ t t contract hright) ?_
      refine alike_bind _ _ _ _ s t _ _ _ (runRepetitions_alike runner target hsame hdb hingest
        hblind regressionRunId hsound hleaves scenarioId contract hload (slots rest repetitions)
        (List.range repetitions) progress s t h horder hclear hclear') ?_
      intro p u _ v hreturned
      obtain ⟨rfl, huv, hu, hrest, hrest'⟩ := hreturned
      exact ih p u v huv hu hrest hrest'

/-! ### A run -/

omit hsame hingest hblind hsound hleaves in
/-- The session after the regression was marked as running. -/
theorem markRunning_inOrder (row : RegressionRun) (s : RunnerState)
    (hconsistent : Sound Store.Consistent s.session)
    (hrow : s.session.view.regressionRuns.find? row.id = some row) :
    Returning (onSession (markRunning runner.db row.id)) s fun _ t => InOrder row.id t := by
  have hkept : Preserves (Sound Store.Consistent) (markRunning runner.db row.id) :=
    sound_mark _ runner.db _ fun _ =>
      sound_enforcedUpdate runner.db (healthy_enforces runner.db hdb) .regressionStatus nofun _
  have hmarked := mark_ends runner.db (fun now => updateRegressionRun row.id .running
    (fun _ => some now) none) s.session
  have hends := ends_and _ _ _ _ _ _ (ends_of_preserves _ _ hkept s.session hconsistent) hmarked
  apply ends_mono _ _ _ _ _ _ (onSession_ends _ s _ _ hends)
  · intro _ t hreturned
    obtain ⟨⟨hsound, now, hcommitted, hclosed⟩, _⟩ := hreturned
    refine ⟨hsound, t.session.committed.regressionRuns, ?_, rfl, ?_⟩
    · have hfind := updateRegressionRun_find? row.id .running (fun _ => some now) none s.session.view
      rw [hrow, Option.map_some, ← hcommitted] at hfind
      exact List.mem_map.mpr ⟨_, Table.mem_of_find? _ _ _ hfind, rfl⟩
    · intro hopen
      rw [hclosed] at hopen
      cases hopen
  · exact fun _ _ _ => trivial

theorem run_alike (s t : RunnerState) (h : Indistinct s t)
    (hconsistent : Sound Store.Consistent s.session) (hclear : ClearRun runner regressionRunId s)
    (hclear' : ClearRun (runner.aimedAt target) regressionRunId t) :
    EndAlike (runner.run regressionRunId) ((runner.aimedAt target).run regressionRunId) s t
      (fun a u b v => a = b ∧ Indistinct u v) fun _ u v => Indistinct u v := by
  have hquery : (query runner.db.backend .regressionRun fun store =>
      store.regressionRuns.find? regressionRunId : SessionM (Option RegressionRun)) s.session =
      query runner.db.backend .regressionRun (fun store =>
        store.regressionRuns.find? regressionRunId) t.session :=
    execute_congr _ _ _ _ _ h.session
  have hread := ends_and _ _ _ _ _ _ (ends_of_preserves _ _ (sound_query Store.Consistent
    runner.db.backend .regressionRun _) s.session hconsistent) (execute_ends runner.db .regressionRun
      (.inl rfl) (fun store => (store.regressionRuns.find? regressionRunId, store)) s.session)
  have hfound := alike_and_ends _ _ _ _ _ _ _ _ (onSession_indistinct _ s t h hquery)
    (ends_and _ _ _ _ _ _ (onSession_ends _ s _ _ hread) hclear)
  have hboth := alike_and_ends_right _ _ _ _ _ _ _ _ hfound hclear'
  refine alike_bind _ _ _ _ s t _ _ _ (alike_mono _ _ _ _ _ _ _ _ hboth (fun _ _ _ _ h => h)
    fun _ _ _ h => h.1.1) ?_
  intro found u _ v hreturned
  obtain ⟨⟨⟨rfl, huv⟩, ⟨⟨hinOrder, hstored, hsession⟩, _⟩, hmarked⟩, hmarked'⟩ := hreturned
  cases found with
  | none => exact .error _ u v rfl rfl huv
  | some row =>
    have hid : row.id = regressionRunId := Table.key_of_find? _ _ row hstored.symm
    have hview : u.session.view.regressionRuns.find? row.id = some row := by
      rw [hsession, hid]
      exact hstored.symm
    have hstart := markRunning_inOrder runner hdb row u hinOrder hview
    have hcongr := mark_congr runner.db (fun now => updateRegressionRun row.id .running
      (fun _ => some now) none) u.session v.session huv.session
    have hrunning := alike_and_ends _ _ _ _ _ _ _ _
      (onSession_indistinct (markRunning runner.db row.id) u v huv hcongr)
      (ends_and _ _ _ _ _ _ hstart (hmarked row rfl))
    refine alike_bind _ _ _ _ u v _ _ _ (alike_mono _ _ _ _ _ _ _ _
      (alike_and_ends_right _ _ _ _ _ _ _ _ hrunning (hmarked' row rfl)) (fun _ _ _ _ h => h)
      fun _ _ _ h => h.1.1) ?_
    intro _ u1 _ v1 hreturned
    obtain ⟨⟨⟨_, huv1⟩, horder, hslots⟩, hslots'⟩ := hreturned
    refine alike_bind _ _ _ _ u1 v1 _ _ _ (runScenarios_alike runner target hsame hdb hingest hblind
      row.id hsound hleaves row.repetitions row.scenarioIds ⟨[], []⟩ u1 v1 huv1 horder hslots
      hslots') ?_
    intro progress u2 _ v2 hreturned
    obtain ⟨rfl, huv2⟩ := hreturned
    have hcompleted := mark_congr runner.db (fun now => updateRegressionRun row.id .completed
      (fun startedAt => startedAt) (some now)) u2.session v2.session huv2.session
    refine alike_bind _ _ _ _ u2 v2 _ _ _ (onSession_indistinct (markCompleted runner.db row.id) u2
      v2 huv2 hcompleted) ?_
    intro _ u3 _ v3 hreturned
    exact .ok _ u3 _ v3 rfl rfl ⟨rfl, hreturned.2⟩

end Slot

/-- On a healthy database, two clear runs of a regression whose targets differ in the scenario
ids of the events they return end alike: they return the same result, or raise the same
error, and commit the same store. -/
theorem scenario_indifferent (db : Database) (hdb : Healthy db) (target target' : AgentTarget)
    (hsame : SameBehaviour target target') (environment : History → JudgeEnvironment)
    (hblind : Blind environment) (libraries : JudgeLibraries) (regressionRunId : ℕ)
    (state : RunnerState) (hconsistent : Sound Store.Consistent state.session)
    (hclear : ClearRun (defaultRunner db target environment libraries) regressionRunId state)
    (hclear' : ClearRun (defaultRunner db target' environment libraries) regressionRunId state) :
    EndAlike ((defaultRunner db target environment libraries).run regressionRunId)
      ((defaultRunner db target' environment libraries).run regressionRunId) state state
      (fun result s result' t => result = result' ∧ s.session.committed = t.session.committed)
      fun _ s t => s.session.committed = t.session.committed := by
  have hevaluation : Blind (defaultRunner db target environment libraries).runEvaluation := by
    intro history history' h
    have henvironment := hblind history history' h
    funext runId
    simp only [defaultRunner, defaultRunEvaluation, henvironment]
  have hsound : ∀ history runId, Preserves (Sound Store.Consistent)
      ((defaultRunner db target environment libraries).runEvaluation history runId) :=
    fun history runId => preserves_bind _ _ _ (sound_enforcedEvaluation db (healthy_enforces db hdb) (environment history)
      (allEvaluators libraries) runId) fun _ => preserves_pure _ _
  have hleaves := default_leavesRegressions db target environment libraries
  have hends := run_alike (defaultRunner db target environment libraries) target' hsame hdb rfl
    hevaluation regressionRunId hsound hleaves state state ⟨rfl, rfl⟩ hconsistent hclear hclear'
  apply alike_mono _ _ _ _ _ _ _ _ hends
  · exact fun _ _ _ _ h => ⟨h.1, committed_congr _ _ h.2.session⟩
  · exact fun _ _ _ h => committed_congr _ _ h.session

/-! ### Mocked targets that report -/

/- The mocked target of the samples, with the scenario id it reports for each scenario. -/
def reporting (report : String → Option String) (entry : String × ExtendedRunEvent) :
    String × ExtendedRunEvent :=
  (entry.1, withScenario (report entry.1) entry.2)

def reportingTarget (report : String → Option String) : AgentTarget :=
  mockedAgentTarget
    ([("GS-01", successEvent "mock"), ("GS-08", pendingEvent "mock")].map (reporting report))
    ([("GS-08", approvedEvent "mock")].map (reporting report))

def reportingRunner (report : String → Option String) : RegressionRunner :=
  defaultRunner .enforcing (reportingTarget report) (fun _ => noJudge) noLibraries

theorem reporting_lookup (report : String → Option String) (key : String)
    (entries : List (String × ExtendedRunEvent)) :
    (entries.map (reporting report)).lookup key =
      (entries.lookup key).map (withScenario (report key)) := by
  induction entries with
  | nil => rfl
  | cons entry entries ih =>
    obtain ⟨name, event⟩ := entry
    simp only [List.map_cons, List.lookup_cons, reporting]
    cases hkey : key == name with
    | true =>
      rw [beq_iff_eq] at hkey
      rw [hkey]
      rfl
    | false => exact ih

theorem reportingTarget_same (report report' : String → Option String) :
    SameBehaviour (reportingTarget report) (reportingTarget report') where
  runScenario := by
    intro history history' _ contract
    simp only [reportingTarget, mockedAgentTarget, mockedRunScenario, reporting_lookup]
    cases List.lookup contract.scenarioId
        [("GS-01", successEvent "mock"), ("GS-08", pendingEvent "mock")] with
    | none => rfl
    | some event => rfl
  resumeAfterApproval := by
    intro history history' _ checkpointId decision
    simp only [reportingTarget, mockedAgentTarget, mockedResumeAfterApproval]
    by_cases hdecision : decision ≠ "approve"
    · rw [if_pos hdecision, if_pos hdecision]
    · rw [if_neg hdecision, if_neg hdecision]
      by_cases hcheckpoint : some "checkpoint-1" = some checkpointId
      · simp [reporting, withScenario, approvedEvent, hcheckpoint, Except.map]
      · simp [reporting, withScenario, approvedEvent, hcheckpoint, Except.map]

theorem scenario_indifferent_own :
    EndAlike ((reportingRunner fun _ => none).run 1) ((reportingRunner some).run 1)
      (sampleState twoByTwo) (sampleState twoByTwo)
      (fun result s result' t => result = result' ∧ s.session.committed = t.session.committed)
      fun _ s t => s.session.committed = t.session.committed :=
  scenario_indifferent .enforcing enforcing_healthy _ _ (reportingTarget_same _ _) _
    (fun _ _ _ => rfl) noLibraries 1 (sampleState twoByTwo) ⟨by decide +kernel, nofun⟩
    (by decide +kernel) (by decide +kernel)

/- The run ids a run returned. -/
def returnedRunIds : EStateM.Result Error RunnerState RegressionRunnerResult → List String
  | .ok result _ => result.createdRunIds
  | .error _ _ => []

/-- The event that resumes GS-08 reports GS-01, whose slot is linked already: the row still
holds the regression and the repetition, and the upsert breaks the unique constraint. -/
theorem reported_scenario_refused :
    Healthy .enforcing ∧
    SameBehaviour (reportingTarget fun _ => none) (reportingTarget fun _ => some "GS-01") ∧
    (sampleState twoByTwo).session.committed.Consistent ∧
    twoByTwo.scenarioIds.Nodup ∧ (∀ scenarioId ∈ twoByTwo.scenarioIds, KnownScenario scenarioId) ∧
    returnedRunIds ((reportingRunner fun _ => none).run 1 (sampleState twoByTwo)) =
      ["phase7-regression-1-GS-01-rep-0", "phase7-regression-1-GS-08-rep-0"] ∧
    returnedRunIds ((reportingRunner fun _ => some "GS-01").run 1 (sampleState twoByTwo)) =
      ["phase7-regression-1-GS-01-rep-0", "phase7-regression-1-GS-08-rep-1"] :=
  ⟨enforcing_healthy, reportingTarget_same _ _, by decide +kernel, by decide, by decide,
    by decide +kernel, by decide +kernel⟩

end ObsPlatform.Regressions
