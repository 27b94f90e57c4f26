import ObsPlatform.Platform.Lifecycle
import ObsPlatform.Platform.References
import ObsPlatform.Platform.ServerRuns

/-!
# What holds whatever the server does

Any number of requests, and one runner for each regression, take their steps in any order.
Every store they leave is consistent; a regression only moves on, and by its own runner; a
runner that returns has told the truth; and nothing that was stored is lost.
-/

namespace ObsPlatform.Platform

open Telemetry Db UnitOfWork Evaluation Ingestion Stateful Regressions Routes

/-- The activities at work beside each other. A regression has one runner. -/
structure Server (ι : Type) where
  database : ι → Database
  activity : ι → Activity
  oneRunner : ∀ i j id, (activity i).Owns id → (activity j).Owns id → i = j

abbrev ServerPool (ι : Type) := Pool ι Statement Store Error RunnerState Reply

/-! ### The invariant -/

structure Consistent (store : Store) : Prop where
  usage : UsageTotalsExact store
  lifecycles : LifecyclesStored store
  references : ReferencesClosed store
  linked : LinkedInSlots store
  regressions : ∀ id row, store.regressionRuns.find? id = some row → RegressionLifecycle row

theorem usageTotalsExact_runs : RunsInvariant UsageTotalsExact where
  toStoreInvariant := usageTotalsExact_invariant
  regressionRuns := fun _ _ h => h

theorem lifecyclesStored_runs : RunsInvariant LifecyclesStored where
  toStoreInvariant := lifecyclesStored_invariant
  regressionRuns := fun _ _ h => h

theorem referencesClosed_runs : RunsInvariant ReferencesClosed where
  toStoreInvariant := referencesClosed_invariant
  regressionRuns := fun _ _ h =>
    { closed := fun runId => { (h.closed runId) with }, runs := h.runs }

/-- What is said of the stored runs alone. -/
def RunsConsistent (store : Store) : Prop :=
  UsageTotalsExact store ∧ LifecyclesStored store ∧ ReferencesClosed store

theorem runsConsistent_invariant : RunsInvariant RunsConsistent :=
  runsInvariant_and _ _ usageTotalsExact_runs
    (runsInvariant_and _ _ lifecyclesStored_runs referencesClosed_runs)

/-- A new database is consistent, so a server may start on it. -/
theorem consistent_empty : Consistent Store.empty where
  usage := usageTotalsExact_invariant.empty
  lifecycles := lifecyclesStored_invariant.empty
  references := referencesClosed_invariant.empty
  linked := fun _ hmem => absurd hmem List.not_mem_nil
  regressions := nofun

namespace Server
variable {ι : Type} [DecidableEq ι] (server : Server ι)

def pool (store : Store) (sessions : ι → RunnerState) : ServerPool ι where
  shared := store
  sessions := sessions
  threads := fun i => (server.activity i).thread (server.database i)

/-- The steps of the activities in some order, from one moment to another. -/
abbrev Goes (w : ServerPool ι) (history : List (Commit ι Statement Store)) (u : ServerPool ι) :
    Prop :=
  Plays runnerPart (fun _ _ => False) w history u

/-- No regression has been started that is still to be run. -/
def Ready (store : Store) : Prop := ∀ i id, (server.activity i).Owns id → Waiting id store

def termsOf (i : ι) : Terms Store := serverTerms RunsConsistent (server.activity i).Owns

def relyOf (i : ι) : Terms Store :=
  serverTerms RunsConsistent fun id => ¬ (server.activity i).Owns id

/-- Every activity keeps its promise from here on. -/
structure Agreed (w : ServerPool ι) : Prop where
  runs : RunsConsistent w.shared
  linked : LinkedInSlots w.shared
  promises : ∀ i, Abides runnerPart (server.termsOf i) (server.relyOf i)
    (server.activity i).Returned (fun _ _ => True) (w.threads i) w.shared

omit [DecidableEq ι] in
theorem agreed_pool (store : Store) (sessions : ι → RunnerState) (hruns : RunsConsistent store)
    (hlinked : LinkedInSlots store) (hready : server.Ready store) :
    server.Agreed (server.pool store sessions) where
  runs := hruns
  linked := hlinked
  promises := fun i => activity_abides RunsConsistent runsConsistent_invariant (server.database i)
    (server.activity i) store ⟨hruns, hlinked⟩ (hready i)

section Goes
variable (w u : ServerPool ι) (history : List (Commit ι Statement Store)) (hw : server.Agreed w)
  (h : Goes w history u)
include hw h

theorem agreed_goes : server.Agreed u ∧
    ∀ c ∈ history, (server.termsOf c.who).Keep c.before c.after := by
  have hplays := abides_plays runnerPart (fun store => RunsConsistent store ∧ LinkedInSlots store)
    server.termsOf server.relyOf (fun i => (server.activity i).Returned) (fun _ _ _ => True)
    (fun _ _ => False) w history u (fun _ => rfl) (fun _ => rfl) ?_
    (fun _ _ _ hfalse => hfalse.elim) ⟨hw.runs, hw.linked⟩ hw.promises h
  · obtain ⟨hinvariant, hpromises, hhistory⟩ := hplays
    exact ⟨⟨hinvariant.1, hinvariant.2, hpromises⟩, fun c hm => (hhistory c hm).2⟩
  · -- what another activity owns, this one does not
    intro i j hij v v' _ hkeep
    have hchange := hkeep.2
    refine ⟨hchange.grows, ?_, hchange.linkage⟩
    exact course_mono _ _ (fun id hj hi => hij (server.oneRunner i j id hi hj)) v v' hchange.course

theorem change_goes : ServerChange (fun _ => True) w.shared u.shared := by
  have hcommits := (server.agreed_goes w u history hw h).2
  apply plays_change runnerPart (fun _ _ => False) w (serverTerms RunsConsistent fun _ => True)
    history u ?_ (fun _ _ hfalse => hfalse.elim) h
  intro c hm
  have hchange := (hcommits c hm).2
  exact ⟨hchange.grows, course_mono _ _ (fun _ _ => trivial) _ _ hchange.course, hchange.linkage⟩

end Goes

end Server

/-! ### The results -/

section Results
variable {ι : Type} [DecidableEq ι] (server : Server ι) (store : Store) (sessions : ι → RunnerState)
  (hstore : Consistent store) (hready : server.Ready store)
  (before history : List (Commit ι Statement Store)) (w u : ServerPool ι)
  (hbefore : Server.Goes (server.pool store sessions) before w) (h : Server.Goes w history u)
include hstore hready hbefore

theorem server_agreed : server.Agreed w :=
  (server.agreed_goes _ w before (server.agreed_pool store sessions
    ⟨hstore.usage, hstore.lifecycles, hstore.references⟩ hstore.linked hready) hbefore).1

/-- Every store that requests and regressions leave, in whatever order they commit. -/
theorem server_consistent : Consistent w.shared := by
  have hagreed := server_agreed server store sessions hstore hready before w hbefore
  have hchange := server.change_goes _ w before (server.agreed_pool store sessions
    ⟨hstore.usage, hstore.lifecycles, hstore.references⟩ hstore.linked hready) hbefore
  exact {
    usage := hagreed.runs.1
    lifecycles := hagreed.runs.2.1
    references := hagreed.runs.2.2
    linked := hagreed.linked
    regressions := course_lifecycle _ store w.shared hchange.course hstore.regressions }

include h

/-- Between any two moments nothing that was stored is lost. -/
theorem server_grows : Grows w.shared u.shared :=
  (server.change_goes w u history
    (server_agreed server store sessions hstore hready before w hbefore) h).grows

/-- A regression goes on as it was created: only its own runner moves its row, from pending to
running to completed or failed, and nothing else in the row ever changes. -/
theorem server_regressions (id : ℕ) (row : RegressionRun)
    (hrow : w.shared.regressionRuns.find? id = some row) :
    (∃ row', u.shared.regressionRuns.find? id = some row' ∧ Continues row row') ∧
      ∀ c ∈ history, ¬ (server.activity c.who).Owns id → ∀ found,
        c.before.regressionRuns.find? id = some found →
          c.after.regressionRuns.find? id = some found := by
  have hagreed := server_agreed server store sessions hstore hready before w hbefore
  constructor
  · have hcourse := (server.change_goes w u history hagreed h).course
    obtain ⟨row', hrow', hmoved⟩ := course_row _ w.shared u.shared hcourse id row hrow
    exact ⟨row', hrow', continues_of_steps row row' hmoved⟩
  · intro c hm hforeign found hfound
    have hkeep := (server.agreed_goes w u history hagreed h).2 c hm
    exact course_unowned _ c.before c.after hkeep.2.course id hforeign found hfound

/-- Linked runs stay linked as they are, in slots of the regression. -/
theorem server_linked (runId : String) (run : AgentRun) (regressionRunId : ℕ)
    (hrun : w.shared.agentRuns.find? runId = some run)
    (hlinked : run.regressionRunId = some regressionRunId) :
    ∃ run' regression, ∃ slot ∈ slots regression.scenarioIds regression.repetitions,
      u.shared.agentRuns.find? runId = some run' ∧
      u.shared.regressionRuns.find? regressionRunId = some regression ∧
      runId = regressionRunEventId regressionRunId slot.scenarioId slot.repetitionIndex ∧
      run'.regressionRunId = some regressionRunId ∧
      run'.repetitionIndex = some slot.repetitionIndex ∧
      (linkedRuns regressionRunId u.shared).length ≤
        regression.scenarioIds.length * regression.repetitions := by
  have hagreed := server_agreed server store sessions hstore hready before w hbefore
  have hlater := (server.agreed_goes w u history hagreed h).1.linked
  obtain ⟨run', hrun', hregression, _⟩ :=
    (server.change_goes w u history hagreed h).linkage runId run hrun (by rw [hlinked]; rfl)
  rw [hlinked] at hregression
  have hkey := Table.key_of_find? _ _ run' hrun'
  obtain ⟨regression, hstored, slot, hslot, hid, hindex⟩ :=
    hlater run' (Table.mem_of_find? _ _ run' hrun') regressionRunId hregression
  exact ⟨run', regression, slot, hslot, hrun', hstored, hkey.symm.trans hid, hregression, hindex,
    linkedRuns_length u.shared hlater regressionRunId regression hstored⟩

omit h

/-- A runner that returns has completed its regression, and its report accounts for each slot:
with a run that is stored and linked, or with an error. -/
theorem server_reports (i : ι) (regressionRunId : ℕ) (target : AgentTarget)
    (valid : ValidTarget target) (environment : History → JudgeEnvironment)
    (libraries : JudgeLibraries) (reply : Reply)
    (hactivity : server.activity i =
      .executeRegression regressionRunId target valid environment libraries)
    (hreturned : w.threads i = .done (.ok reply)) :
    ∃ result row, reply = .executed result ∧
      w.shared.regressionRuns.find? regressionRunId = some row ∧ row.status = .completed ∧
      AccountsFor regressionRunId w.shared (slots row.scenarioIds row.repetitions)
        ⟨result.createdRunIds, result.errors⟩ ∧
      result.createdRunIds.length + result.errors.length =
        row.scenarioIds.length * row.repetitions ∧
      (∀ childRunId ∈ result.createdRunIds, ∃ slot ∈ slots row.scenarioIds row.repetitions,
        childRunId = regressionRunEventId regressionRunId slot.scenarioId slot.repetitionIndex ∧
          Filled regressionRunId slot w.shared) ∧
      ∀ error ∈ result.errors,
        (⟨error.scenarioId, error.repetitionIndex⟩ : Slot) ∈
          slots row.scenarioIds row.repetitions := by
  have hagreed := server_agreed server store sessions hstore hready before w hbefore
  have hpromise := hagreed.promises i
  rw [hreturned] at hpromise
  have hsaid := hpromise w.shared ((server.relyOf i).from_self _ ⟨hagreed.runs, hagreed.linked⟩)
  rw [hactivity] at hsaid
  obtain ⟨result, rfl, _, row, hrow, hstatus, haccounts⟩ := hsaid
  have hlength := accountsFor_length regressionRunId w.shared _ _ haccounts
  rw [slots_length] at hlength
  exact ⟨result, row, rfl, hrow, hstatus, haccounts, hlength,
    accountsFor_created regressionRunId w.shared _ _ haccounts,
    accountsFor_errors regressionRunId w.shared _ _ haccounts⟩

end Results

/-! ### A server watched at several moments -/

section Moments
variable {ι : Type} [DecidableEq ι] (server : Server ι) (store : Store) (sessions : ι → RunnerState)
  (hstore : Consistent store) (hready : server.Ready store)
  (before : List (Commit ι Statement Store)) (moments : ℕ → ServerPool ι)
  (hbefore : Server.Goes (server.pool store sessions) before (moments 0))
  (hgoes : ∀ n, ∃ history, Server.Goes (moments n) history (moments (n + 1)))
include hbefore hgoes

theorem moments_reached (n : ℕ) :
    ∃ history, Server.Goes (server.pool store sessions) history (moments n) := by
  induction n with
  | zero => exact ⟨before, hbefore⟩
  | succ n ih =>
    obtain ⟨history, hhistory⟩ := ih
    obtain ⟨later, hlater⟩ := hgoes n
    exact ⟨history ++ later, plays_trans runnerPart _ _ history later _ _ hhistory hlater⟩

include hstore hready

theorem moments_change (n : ℕ) :
    ServerChange (fun _ => True) (moments n).shared (moments (n + 1)).shared := by
  obtain ⟨history, hreached⟩ := moments_reached server store sessions before moments hbefore hgoes n
  obtain ⟨later, hlater⟩ := hgoes n
  exact server.change_goes _ _ later
    (server_agreed server store sessions hstore hready history _ hreached) hlater

end Moments

/-! ### A regression beside an evaluation

Its one slot succeeds while a request evaluates the run of the slot. -/

def slotTarget : AgentTarget := mockedAgentTarget [("GS-01", successEvent "mock")] []

theorem slotTarget_valid : ValidTarget slotTarget :=
  mockedTarget_valid _ _
    (fun entry hm => by rw [List.mem_singleton.mp hm]; exact successEvent_validated "mock")
    fun _ hm => absurd hm List.not_mem_nil

def sampleServer : Server Bool where
  database := fun _ => .plain
  activity := fun i =>
    if i then .executeRegression 1 slotTarget slotTarget_valid (fun _ => noJudge) noLibraries
    else .evaluateRun noJudge noLibraries (regressionRunEventId 1 "GS-01" 0)
  oneRunner := by
    intro i j id hi hj
    cases i <;> cases j <;> first | rfl | exact hi.elim | exact hj.elim

def sampleStore : Store := (sampleState (sampleRegression ["GS-01"] 1)).session.committed

def samplePool : ServerPool Bool :=
  sampleServer.pool sampleStore fun _ =>
    { attempts := [], calls := [], session := Session.fresh sampleStore }

/-- The runner up to its linkage, then both in turns. -/
def sampleSchedule : List Bool :=
  List.replicate 9 true ++ (List.replicate 50 [true, false]).flatten

def sampleEnd : ServerPool Bool := samplePool.play runnerPart sampleSchedule

theorem sampleStore_consistent : Consistent sampleStore := by
  have hruns : RunsConsistent sampleStore :=
    runsConsistent_invariant.regressionRuns Store.empty _ runsConsistent_invariant.empty
  refine ⟨hruns.1, hruns.2.1, hruns.2.2, fun _ hm => absurd hm List.not_mem_nil, ?_⟩
  intro id row hrow
  have hmem : row ∈ [sampleRegression ["GS-01"] 1] := Table.mem_of_find? _ id row hrow
  rw [List.mem_singleton.mp hmem]
  exact registered_lifecycle _ ⟨rfl, rfl, rfl⟩

theorem sampleServer_ready : sampleServer.Ready sampleStore := by
  intro i id _ row hrow
  have hmem : row ∈ [sampleRegression ["GS-01"] 1] := Table.mem_of_find? _ id row hrow
  rw [List.mem_singleton.mp hmem]
  rfl

theorem sampleEnd_reached : ∃ history, Server.Goes samplePool history sampleEnd :=
  ⟨_, plays_play runnerPart _ _ [] samplePool .start sampleSchedule⟩

def createdRunIds? : Thread Statement Error RunnerState Reply → Option (List String)
  | .done (.ok (.executed result)) => some result.createdRunIds
  | _ => none

theorem sample_returned :
    createdRunIds? (sampleEnd.threads true) = some ["phase7-regression-1-GS-01-rep-0"] ∧
      sampleEnd.shared.evaluationResults.length = 14 := by
  decide +kernel

theorem returned_of_createdRunIds? (t : Thread Statement Error RunnerState Reply)
    (createdRunIds : List String) (h : createdRunIds? t = some createdRunIds) :
    ∃ result, t = .done (.ok (.executed result)) ∧ result.createdRunIds = createdRunIds := by
  unfold createdRunIds? at h
  split at h
  · exact ⟨_, rfl, Option.some.inj h⟩
  · cases h

theorem sample_linked : ∃ run, sampleEnd.shared.agentRuns.find?
    (regressionRunEventId 1 "GS-01" 0) = some run ∧ run.regressionRunId = some 1 := by
  have hlinked : ((sampleEnd.shared.agentRuns.find? (regressionRunEventId 1 "GS-01" 0)).bind
      fun run => run.regressionRunId) = some 1 := by decide +kernel
  obtain ⟨run, hrun, hregression⟩ := Option.bind_eq_some_iff.mp hlinked
  exact ⟨run, hrun, hregression⟩

theorem server_consistent_sample : Consistent sampleEnd.shared := by
  obtain ⟨history, h⟩ := sampleEnd_reached
  exact server_consistent sampleServer sampleStore _ sampleStore_consistent sampleServer_ready
    history sampleEnd h

theorem server_grows_sample : Grows sampleStore sampleEnd.shared := by
  obtain ⟨history, h⟩ := sampleEnd_reached
  exact server_grows sampleServer sampleStore _ sampleStore_consistent sampleServer_ready [] history
    samplePool sampleEnd .start h

theorem server_regressions_sample : ∃ row, sampleEnd.shared.regressionRuns.find? 1 = some row ∧
    Continues (sampleRegression ["GS-01"] 1) row := by
  obtain ⟨history, h⟩ := sampleEnd_reached
  exact (server_regressions sampleServer sampleStore _ sampleStore_consistent sampleServer_ready []
    history samplePool sampleEnd .start h 1 _ rfl).1

theorem server_linked_sample : ∃ run regression, ∃ slot ∈ slots regression.scenarioIds
    regression.repetitions,
      sampleEnd.shared.agentRuns.find? (regressionRunEventId 1 "GS-01" 0) = some run ∧
      sampleEnd.shared.regressionRuns.find? 1 = some regression ∧
      regressionRunEventId 1 "GS-01" 0 =
        regressionRunEventId 1 slot.scenarioId slot.repetitionIndex ∧
      run.regressionRunId = some 1 ∧ run.repetitionIndex = some slot.repetitionIndex ∧
      (linkedRuns 1 sampleEnd.shared).length ≤
        regression.scenarioIds.length * regression.repetitions := by
  obtain ⟨history, h⟩ := sampleEnd_reached
  obtain ⟨run, hrun, hlinked⟩ := sample_linked
  exact server_linked sampleServer sampleStore _ sampleStore_consistent sampleServer_ready history
    [] sampleEnd sampleEnd h .start _ run 1 hrun hlinked

theorem server_reports_sample : ∃ (result : RegressionRunnerResult) (row : RegressionRun),
    sampleEnd.shared.regressionRuns.find? 1 = some row ∧ row.status = .completed ∧
      result.createdRunIds = ["phase7-regression-1-GS-01-rep-0"] ∧
      AccountsFor 1 sampleEnd.shared (slots row.scenarioIds row.repetitions)
        ⟨result.createdRunIds, result.errors⟩ := by
  obtain ⟨history, h⟩ := sampleEnd_reached
  obtain ⟨result, hdone, hcreated⟩ :=
    returned_of_createdRunIds? (sampleEnd.threads true) _ sample_returned.1
  obtain ⟨_, row, hreply, hrow, hstatus, haccounts, _⟩ := server_reports sampleServer sampleStore _
    sampleStore_consistent sampleServer_ready history sampleEnd h true 1 slotTarget slotTarget_valid
    (fun _ => noJudge) noLibraries (.executed result) rfl hdone
  cases hreply
  exact ⟨result, row, hrow, hstatus, hcreated, haccounts⟩

end ObsPlatform.Platform
