import ObsPlatform.Ingestion.Relabelled
import ObsPlatform.Platform.Enforced
import ObsPlatform.Regressions.Healthy

/-!
# Two runs of a regression side by side

The steps of a slot, taken by two runners whose targets differ in the scenario ids of
the events they return. Between an ingestion and the linkage after it the two stores
differ in one column; the linkage overwrites it, and from there on the two sessions are
the same.
-/

namespace ObsPlatform.Regressions

open Telemetry Db UnitOfWork Evaluation Ingestion Stateful Platform

/-! ### Linkage after two ingestions -/

section Linkage
variable (runId : String) (regressionRunId : ℕ) (scenarioId : String) (repetitionIndex : ℕ)

theorem updateLinkage_relabelled (reported : Option String) (now : Timestamp) (store : Store) :
    updateLinkage runId regressionRunId scenarioId repetitionIndex now
        (relabelled runId reported store) =
      updateLinkage runId regressionRunId scenarioId repetitionIndex now store := by
  have h := Table.modify_modify store.agentRuns runId
    (fun row => { row with scenarioId := reported })
    (linkAgentRun regressionRunId scenarioId repetitionIndex now) (fun _ h => h) (fun _ h => h)
  exact congrArg (fun agentRuns => ({ store with agentRuns := agentRuns } : Store)) h

/-- A linkage breaks no constraint where its columns are vacant. -/
theorem updateLinkage_consistent (now : Timestamp) (store : Store) (h : store.Consistent)
    (hregression : regressionRunId ∈ store.regressionRunIds)
    (hvacant : Vacant runId (some (regressionRunId, scenarioId, repetitionIndex)) store) :
    (updateLinkage runId regressionRunId scenarioId repetitionIndex now store).Consistent := by
  have hset := rowSet_modify store.agentRuns runId
    (linkAgentRun regressionRunId scenarioId repetitionIndex now) (fun _ h => h)
  apply agentRuns_consistent store _ runId _ hset h
  · intro row hrow
    obtain ⟨old, _, rfl⟩ := Option.map_eq_some_iff.mp hrow
    exact hvacant
  · intro row hrow k hk
    obtain ⟨old, _, rfl⟩ := Option.map_eq_some_iff.mp hrow
    cases hk
    exact hregression

/-- The session after a linkage that committed this store. -/
def linkedSession (linked : Store) (s : DbSession) : DbSession where
  committed := linked
  working := linked
  inTransaction := true
  statements := s.statements + 3

variable (db : Database) (hdb : Healthy db)
include hdb

theorem selectAgentRun_ok (s : DbSession) :
    selectAgentRun db runId s = .ok (s.view.agentRuns.find? runId) (s.spoken s.view) := by
  simp only [selectAgentRun, Db.read, query, execute, hdb.reads, Session.spoken]

theorem persistRegressionLinkage_ok (s : DbSession) (linked : Store) (row : AgentRun)
    (hclosed : s.inTransaction = false) (hrow : s.committed.agentRuns.find? runId = some row)
    (hlinked : updateLinkage runId regressionRunId scenarioId repetitionIndex
      (db.clock (s.statements + 1)) s.committed = linked) (hconsistent : linked.Consistent) :
    persistRegressionLinkage db runId regressionRunId scenarioId repetitionIndex s =
      .ok () (linkedSession linked s) := by
  have hview := view_of_closed s hclosed
  have hfound : s.view.agentRuns.find? runId = some row := by
    rw [hview]
    exact hrow
  have hget : getAgentRun db runId s = .ok (some row) (s.spoken s.view) := by
    rw [← hfound]
    exact selectAgentRun_ok runId db hdb s
  have hwrite : update db .linkage (updateLinkage runId regressionRunId scenarioId repetitionIndex
      (db.clock (s.statements + 1))) (s.spoken s.view) = .ok () ((s.spoken s.view).spoken linked) := by
    rw [← hview] at hlinked
    simp only [update, write, execute, spoken_view, hlinked, hdb.accepts _ _ _ linked hconsistent]
    rfl
  have hrefresh : refreshAgentRun db runId
      { (s.spoken s.view).spoken linked with committed := linked, inTransaction := false } =
        .ok () (linkedSession linked s) :=
    bind_of_ok _ _ _ _ _ (selectAgentRun_ok runId db hdb _)
  unfold persistRegressionLinkage
  rw [bind_of_ok _ _ s _ _ hget]
  dsimp only
  rw [bind_of_ok (now db) _ _ _ _ rfl]
  refine (bind_of_ok _ _ _ _ () hwrite).trans ?_
  exact (bind_of_ok commit _ _ _ () rfl).trans hrefresh

/-- After two ingestions under two scenario ids, the linkages leave the same session. -/
theorem persistRegressionLinkage_reported (reported : Option String) (u v : DbSession)
    (h : Reported runId reported u v) (hregression : regressionRunId ∈ u.committed.regressionRunIds)
    (hvacant : Vacant runId (some (regressionRunId, scenarioId, repetitionIndex)) u.committed) :
    ∃ w, persistRegressionLinkage db runId regressionRunId scenarioId repetitionIndex u = .ok () w ∧
      persistRegressionLinkage db runId regressionRunId scenarioId repetitionIndex v = .ok () w ∧
      w.committed.Consistent := by
  obtain ⟨stored, hstored, hkey⟩ := List.mem_map.mp h.run
  have hrow := (u.committed.agentRuns.find?_eq_some_iff runId stored).mpr ⟨hstored, hkey⟩
  have hconsistent := updateLinkage_consistent runId regressionRunId scenarioId repetitionIndex
    (db.clock (u.statements + 1)) u.committed h.consistent hregression hvacant
  have hclosed : v.inTransaction = false := by
    show v.tidied.inTransaction = false
    rw [h.same]
    exact h.closed
  have hcommitted : v.committed = relabelled runId reported u.committed := by
    show v.tidied.committed = _
    rw [h.same]
  have hstatements : v.statements = u.statements := by
    show v.tidied.statements = _
    rw [h.same]
    rfl
  have hrow' : v.committed.agentRuns.find? runId = some { stored with scenarioId := reported } := by
    have hfind := Table.find?_modify u.committed.agentRuns runId runId
      (fun row => { row with scenarioId := reported }) (fun _ h => h)
    rw [if_pos rfl, hrow] at hfind
    rw [hcommitted]
    exact hfind
  refine ⟨linkedSession _ u, persistRegressionLinkage_ok runId regressionRunId scenarioId
    repetitionIndex db hdb u _ stored h.closed hrow rfl hconsistent, ?_, hconsistent⟩
  have hright := persistRegressionLinkage_ok runId regressionRunId scenarioId repetitionIndex db hdb v
    _ _ hclosed hrow' (by rw [hcommitted, hstatements, updateLinkage_relabelled]) hconsistent
  rw [hright]
  simp only [linkedSession, hstatements]

end Linkage

/-! ### Histories up to the reported scenario ids -/

def Call.anonymous : Call → Call
  | .ingested event => .ingested (withScenario none event)
  | call => call

def Attempt.anonymous (attempt : Attempt) : Attempt :=
  { attempt with calls := attempt.calls.map Call.anonymous }

def History.anonymous (history : History) : History where
  attempts := history.attempts.map Attempt.anonymous
  calls := history.calls.map Call.anonymous

/-- What depends on a history does not depend on the scenario ids reported in it. -/
def Blind {α : Type} (f : History → α) : Prop :=
  ∀ history history', history.anonymous = history'.anonymous → f history = f history'

/-- Two targets answer alike, but for the scenario ids of the events they return. -/
structure SameBehaviour (target target' : AgentTarget) : Prop where
  runScenario : ∀ history history', history.anonymous = history'.anonymous → ∀ contract,
    (target.runScenario history contract).map (withScenario none) =
      (target'.runScenario history' contract).map (withScenario none)
  resumeAfterApproval : ∀ history history', history.anonymous = history'.anonymous →
    ∀ checkpointId decision,
      (target.resumeAfterApproval history checkpointId decision).map (withScenario none) =
        (target'.resumeAfterApproval history' checkpointId decision).map (withScenario none)

/-- The states differ in nothing that a later step looks at. -/
structure Indistinct (s t : RunnerState) : Prop where
  history : s.toHistory.anonymous = t.toHistory.anonymous
  session : s.session.tidied = t.session.tidied

/-- The states differ in the reported scenario ids alone. -/
structure Matched (s t : RunnerState) : Prop where
  history : s.toHistory.anonymous = t.toHistory.anonymous
  session : s.session = t.session

theorem indistinct_of_matched (s t : RunnerState) (h : Matched s t) : Indistinct s t :=
  ⟨h.history, congrArg Session.tidied h.session⟩

theorem called_anonymous (s t : RunnerState) (call call' : Call)
    (h : s.toHistory.anonymous = t.toHistory.anonymous) (hcall : call.anonymous = call'.anonymous) :
    (s.called call).toHistory.anonymous = (t.called call').toHistory.anonymous := by
  have hattempts := congrArg History.attempts h
  have hcalls := congrArg History.calls h
  simp only [History.anonymous] at hattempts hcalls
  simp only [RunnerState.called, History.anonymous, List.map_append, List.map_cons, List.map_nil,
    hattempts, hcalls, hcall]

theorem withScenario_of_anonymous (event event' : ExtendedRunEvent)
    (h : withScenario none event = withScenario none event') :
    event' = withScenario event'.scenarioId event := by
  have hagain := congrArg (withScenario event'.scenarioId) h
  exact hagain.symm

/-! ### The steps -/

theorem answer_alike (reply reply' : History → Except Error ExtendedRunEvent) (s t : RunnerState)
    (h : (reply s.toHistory).map (withScenario none) = (reply' t.toHistory).map (withScenario none)) :
    EndAlike (answer reply) (answer reply') s t
      (fun event u event' v => event' = withScenario event'.scenarioId event ∧ u = s ∧ v = t)
      fun _ u v => u = s ∧ v = t := by
  cases hr : reply s.toHistory with
  | error e =>
    cases hr' : reply' t.toHistory with
    | error e' =>
      rw [hr, hr'] at h
      cases h
      refine .error e s t ?_ ?_ ⟨rfl, rfl⟩
      · simp only [answer, hr]
      · simp only [answer, hr']
    | ok event' =>
      rw [hr, hr'] at h
      cases h
  | ok event =>
    cases hr' : reply' t.toHistory with
    | error e' =>
      rw [hr, hr'] at h
      cases h
    | ok event' =>
      rw [hr, hr'] at h
      injection h with h
      refine .ok event s event' t ?_ ?_ ⟨withScenario_of_anonymous event event' h, rfl, rfl⟩
      · simp only [answer, hr]
      · simp only [answer, hr']

/-- A step on two sessions that are the same. -/
theorem onSession_matched {α : Type} (x : SessionM α) (s t : RunnerState) (h : Matched s t) :
    EndAlike (onSession x) (onSession x) s t (fun a u b v => a = b ∧ Matched u v)
      fun _ u v => Matched u v := by
  apply alike_zoom
  rw [← h.session]
  apply alike_mono _ _ _ _ _ _ _ _ (alike_of_eq x s.session s.session rfl)
  · intro a u b v hreturned
    obtain ⟨rfl, rfl⟩ := hreturned
    exact ⟨rfl, h.history, rfl⟩
  · intro _ u v hraised
    subst hraised
    exact ⟨h.history, rfl⟩

/-- The same runner with another target. -/
def RegressionRunner.aimedAt (runner : RegressionRunner) (target : AgentTarget) :
    RegressionRunner :=
  { runner with target := target }

/-- The event is admitted if the session can ingest at all. -/
def AdmitsOn (event : ExtendedRunEvent) (s : DbSession) : Prop :=
  s.inTransaction = false → Admits event s.committed

section Steps
variable (runner : RegressionRunner) (target : AgentTarget)

section Target
variable (hsame : SameBehaviour runner.target target)
include hsame

theorem runScenario_alike (contract : ScenarioContract) (s t : RunnerState) (h : Indistinct s t) :
    EndAlike (runner.runScenario contract) ((runner.aimedAt target).runScenario contract) s t
      (fun event u event' v => event' = withScenario event'.scenarioId event ∧ Indistinct u v ∧
        u.session = s.session ∧ v.session = t.session)
      fun _ u v => Indistinct u v := by
  have hcalled := called_anonymous s t (.runScenario contract.scenarioId) _ h.history rfl
  refine alike_bind _ _ _ _ s t (fun _ u _ v => u = s.called (.runScenario contract.scenarioId) ∧
    v = t.called (.runScenario contract.scenarioId)) _ _
    (.ok () _ () _ (record_apply s _) (record_apply t _) ⟨rfl, rfl⟩) ?_
  intro _ u _ v hreturned
  obtain ⟨rfl, rfl⟩ := hreturned
  have hreplies := hsame.runScenario _ _ hcalled contract
  apply alike_mono _ _ _ _ _ _ _ _ (answer_alike _ _ _ _ hreplies)
  · intro event u event' v hreturned
    obtain ⟨hevent, rfl, rfl⟩ := hreturned
    exact ⟨hevent, ⟨hcalled, h.session⟩, rfl, rfl⟩
  · intro _ u v hraised
    obtain ⟨rfl, rfl⟩ := hraised
    exact ⟨hcalled, h.session⟩

theorem resumeAfterApproval_alike (checkpointId decision : String) (s t : RunnerState)
    (h : Matched s t) :
    EndAlike (runner.resumeAfterApproval checkpointId decision)
      ((runner.aimedAt target).resumeAfterApproval checkpointId decision) s t
      (fun event u event' v => event' = withScenario event'.scenarioId event ∧ Matched u v ∧
        u.session = s.session)
      fun _ u v => Matched u v := by
  have hcall : (Call.resumeAfterApproval checkpointId decision s.session.committed).anonymous =
      (Call.resumeAfterApproval checkpointId decision t.session.committed).anonymous := by
    rw [h.session]
  have hcalled := called_anonymous s t _ _ h.history hcall
  apply alike_congr _ _ _ _ s s t t _ _ (bind_of_ok get _ s s s rfl) (bind_of_ok get _ t t t rfl)
  refine alike_bind _ _ _ _ s t (fun _ u _ v =>
    u = s.called (.resumeAfterApproval checkpointId decision s.session.committed) ∧
    v = t.called (.resumeAfterApproval checkpointId decision t.session.committed)) _ _
    (.ok () _ () _ (record_apply s _) (record_apply t _) ⟨rfl, rfl⟩) ?_
  intro _ u _ v hreturned
  obtain ⟨rfl, rfl⟩ := hreturned
  have hreplies := hsame.resumeAfterApproval _ _ hcalled checkpointId decision
  apply alike_mono _ _ _ _ _ _ _ _ (answer_alike _ _ _ _ hreplies)
  · intro event u event' v hreturned
    obtain ⟨hevent, rfl, rfl⟩ := hreturned
    exact ⟨hevent, ⟨hcalled, h.session⟩, rfl⟩
  · intro _ u v hraised
    obtain ⟨rfl, rfl⟩ := hraised
    exact ⟨hcalled, h.session⟩

end Target

/-- Two ingestions that the database admits both: the stores differ in one scenario id. -/
theorem ingest_alike (hdb : Healthy runner.db)
    (hingest : runner.ingestRunEvent = defaultIngestRunEvent runner.db) (event : ExtendedRunEvent)
    (reported : Option String) (s t : RunnerState) (h : Indistinct s t)
    (hconsistent : s.session.committed.Consistent) (hadmits : AdmitsOn event s.session)
    (hadmits' : AdmitsOn (withScenario reported event) t.session) :
    EndAlike (runner.ingest event) ((runner.aimedAt target).ingest (withScenario reported event)) s t
      (fun _ u _ v => u.toHistory.anonymous = v.toHistory.anonymous ∧
        Reported event.runId reported u.session v.session ∧
        ∃ now, ingestEffect event now s.session.committed = .ok u.session.committed)
      fun _ u v => Indistinct u v := by
  have hingested := ingestRunEvent_reported runner.db hdb event reported s.session t.session
    h.session hconsistent hadmits hadmits'
  have heffect : Ends (ingestRunEvent runner.db event) s.session
      (fun _ u => ∃ now, ingestEffect event now s.session.committed = .ok u.committed)
      fun _ _ => True := by
    cases hr : ingestRunEvent runner.db event s.session with
    | ok result u =>
      have hreturned := (ingestRunEvent_returns runner.db event s.session u result hr).2.2
      exact .ok result u hr ⟨_, hreturned⟩
    | error e u => exact .error e u hr trivial
  have hboth := alike_and_ends _ _ _ _ _ _ _ _ hingested heffect
  have hdefault : EndAlike (runner.ingestRunEvent s.toHistory event)
      (runner.ingestRunEvent t.toHistory (withScenario reported event)) s.session t.session
      (fun _ u _ v => Reported event.runId reported u v ∧
        ∃ now, ingestEffect event now s.session.committed = .ok u.committed)
      fun _ u v => u.tidied = v.tidied := by
    rw [hingest]
    refine alike_bind _ _ _ _ _ _ _ _ _ (alike_mono _ _ _ _ _ _ _ _ hboth (fun _ _ _ _ h => h)
      fun _ _ _ h => h.1) ?_
    intro _ u _ v hreturned
    exact .ok () u () v rfl rfl hreturned
  apply alike_congr _ _ _ _ s s t t _ _ (bind_of_ok get _ s s s rfl) (bind_of_ok get _ t t t rfl)
  refine alike_bind _ _ _ _ s t (fun _ u _ v => u.toHistory = s.toHistory ∧
    v.toHistory = t.toHistory ∧ Reported event.runId reported u.session v.session ∧
    ∃ now, ingestEffect event now s.session.committed = .ok u.session.committed) _ _ ?_ ?_
  · apply alike_zoom
    apply alike_mono _ _ _ _ _ _ _ _ hdefault
    · exact fun _ _ _ _ hreturned => ⟨rfl, rfl, hreturned⟩
    · exact fun _ _ _ hraised => ⟨h.history, hraised⟩
  intro _ u _ v hreturned
  obtain ⟨hu, hv, hreported, heffect⟩ := hreturned
  refine .ok () _ () _ (record_apply u _) (record_apply v _) ⟨?_, hreported, heffect⟩
  apply called_anonymous
  · rw [hu, hv]
    exact h.history
  · rfl

omit target in
theorem link_returned (s : RunnerState) (runId : String) (regressionRunId : ℕ)
    (scenarioId : String) (repetitionIndex : ℕ) (w : DbSession)
    (h : persistRegressionLinkage runner.db runId regressionRunId scenarioId repetitionIndex
      s.session = .ok () w) :
    runner.link runId regressionRunId scenarioId repetitionIndex s =
      .ok () ({ s with session := w }.called (.linked w.committed)) := by
  unfold RegressionRunner.link
  rw [bind_of_ok _ _ _ _ _ (onSession_ok s _ () w h)]
  rfl

/-- The linkages after them overwrite it. -/
theorem link_alike (hdb : Healthy runner.db) (runId : String) (regressionRunId : ℕ)
    (scenarioId : String) (repetitionIndex : ℕ) (reported : Option String) (s t : RunnerState)
    (hhistory : s.toHistory.anonymous = t.toHistory.anonymous)
    (h : Reported runId reported s.session t.session)
    (hregression : regressionRunId ∈ s.session.committed.regressionRunIds)
    (hvacant : Vacant runId (some (regressionRunId, scenarioId, repetitionIndex))
      s.session.committed) :
    EndAlike (runner.link runId regressionRunId scenarioId repetitionIndex)
      ((runner.aimedAt target).link runId regressionRunId scenarioId repetitionIndex) s t
      (fun _ u _ v => Matched u v ∧ u.session.committed.Consistent ∧
        Linked runId regressionRunId scenarioId repetitionIndex s.session.committed u.session)
      fun _ _ _ => False := by
  obtain ⟨w, hleft, hright, hconsistent⟩ := persistRegressionLinkage_reported runId regressionRunId
    scenarioId repetitionIndex runner.db hdb reported s.session t.session h hregression hvacant
  have hends := persistRegressionLinkage_ends runner.db runId regressionRunId scenarioId
    repetitionIndex s.session
  have hlinked := (ends_returns _ _ _ _ _ _ hends hleft).2
  rw [view_of_closed s.session h.closed] at hlinked
  refine .ok () ({ s with session := w }.called (.linked w.committed)) ()
    ({ t with session := w }.called (.linked w.committed)) ?_ ?_ ⟨⟨?_, rfl⟩, hconsistent, hlinked⟩
  · exact link_returned runner s runId regressionRunId scenarioId repetitionIndex w hleft
  · exact link_returned (runner.aimedAt target) t runId regressionRunId scenarioId repetitionIndex w
      hright
  · exact called_anonymous { s with session := w } { t with session := w } _ _ hhistory rfl

theorem evaluate_alike (hblind : Blind runner.runEvaluation) (runId : String) (s t : RunnerState)
    (h : Matched s t) :
    EndAlike (runner.evaluate runId) ((runner.aimedAt target).evaluate runId) s t
      (fun _ u _ v => Matched u v) fun _ u v => Matched u v := by
  have hcall : (Call.runEvaluation runId s.session.committed).anonymous =
      (Call.runEvaluation runId t.session.committed).anonymous := by
    rw [h.session]
  have hcalled := called_anonymous s t _ _ h.history hcall
  have hevaluation := hblind _ _ hcalled
  apply alike_congr _ _ _ _ s s t t _ _ (bind_of_ok get _ s s s rfl) (bind_of_ok get _ t t t rfl)
  refine alike_bind _ _ _ _ s t (fun _ u _ v =>
    u = s.called (.runEvaluation runId s.session.committed) ∧
    v = t.called (.runEvaluation runId t.session.committed)) _ _
    (.ok () _ () _ (record_apply s _) (record_apply t _) ⟨rfl, rfl⟩) ?_
  intro _ u _ v hreturned
  obtain ⟨rfl, rfl⟩ := hreturned
  apply alike_congr _ _ _ _ _ _ _ _ _ _ (bind_of_ok get _ _ _ _ rfl) (bind_of_ok get _ _ _ _ rfl)
  show EndAlike (onSession (runner.runEvaluation _ runId)) (onSession (runner.runEvaluation _ runId))
    _ _ _ _
  rw [← hevaluation]
  exact alike_mono _ _ _ _ _ _ _ _ (onSession_matched _ _ _ ⟨hcalled, h.session⟩)
    (fun _ _ _ _ hreturned => hreturned.2) fun _ _ _ h => h

end Steps

/-! ### Around a slot -/

theorem started_indistinct (s t : RunnerState) (h : Indistinct s t) :
    Indistinct (started s) (started t) := by
  have hattempts := congrArg History.attempts h.history
  refine ⟨?_, h.session⟩
  simp only [History.anonymous] at hattempts
  simp only [started, History.anonymous, hattempts]

theorem ended_indistinct (slot : Slot) (outcome : Except Error String) (s t : RunnerState)
    (h : Indistinct s t) : Indistinct (ended slot outcome s) (ended slot outcome t) := by
  have hattempts := congrArg History.attempts h.history
  have hcalls := congrArg History.calls h.history
  have hcommitted := committed_congr _ _ h.session
  refine ⟨?_, h.session⟩
  simp only [History.anonymous] at hattempts hcalls
  simp only [ended, attemptOf, History.anonymous, List.map_append, List.map_cons, List.map_nil,
    hattempts, Attempt.anonymous, hcalls, hcommitted]

theorem rolledBack_indistinct (s t : RunnerState) (h : Indistinct s t) :
    Indistinct (rolledBack s) (rolledBack t) :=
  ⟨h.history, rolledBack_tidied s.session t.session (committed_congr _ _ h.session)
    (statements_congr _ _ h.session)⟩

/-- An update of the status sees no difference. -/
theorem mark_congr (db : Database) (f : Timestamp → Store → Store) (s t : DbSession)
    (h : s.tidied = t.tidied) :
    (do
      let now ← now db
      update db .regressionStatus (f now)
      commit : SessionM Unit) s = (do
      let now ← now db
      update db .regressionStatus (f now)
      commit : SessionM Unit) t := by
  have hnow : db.clock s.statements = db.clock t.statements := by
    rw [statements_congr s t h]
  have hwritten := execute_congr (ε := Error) db.backend .regressionStatus
    (fun store => ((), f (db.clock s.statements) store)) s t h
  rw [bind_of_ok _ _ s s _ (now_apply db s), bind_of_ok _ _ t t _ (now_apply db t), ← hnow]
  show (update db .regressionStatus (f (db.clock s.statements)) >>= fun _ => commit) s =
    (update db .regressionStatus (f (db.clock s.statements)) >>= fun _ => commit) t
  have hupdated : update db .regressionStatus (f (db.clock s.statements)) s =
      update db .regressionStatus (f (db.clock s.statements)) t := hwritten
  cases hr : update db .regressionStatus (f (db.clock s.statements)) s with
  | ok a u =>
    rw [bind_of_ok _ _ s u a hr, bind_of_ok _ _ t u a (hupdated.symm.trans hr)]
  | error e u =>
    rw [bind_of_error _ _ s u e hr, bind_of_error _ _ t u e (hupdated.symm.trans hr)]

/-- One session computation that the two sessions give the same result. -/
theorem onSession_indistinct {α : Type} (x : SessionM α) (s t : RunnerState) (h : Indistinct s t)
    (hx : x s.session = x t.session) :
    EndAlike (onSession x) (onSession x) s t (fun a u b v => a = b ∧ Indistinct u v)
      fun _ u v => Indistinct u v := by
  apply alike_zoom
  apply alike_mono _ _ _ _ _ _ _ _ (alike_of_eq x s.session t.session hx)
  · intro a u b v hreturned
    obtain ⟨rfl, rfl⟩ := hreturned
    exact ⟨rfl, h.history, rfl⟩
  · intro _ u v hraised
    subst hraised
    exact ⟨h.history, rfl⟩

end ObsPlatform.Regressions
