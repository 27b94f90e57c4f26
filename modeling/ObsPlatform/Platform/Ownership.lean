import ObsPlatform.Platform.References

/-!
# Who owns the regression linkage

A linkage writes three columns of a run. An ingestion leaves two of them as they are
and overwrites the third with the scenario id its snapshot carries.
-/

namespace ObsPlatform.Platform

open Telemetry Db UnitOfWork Evaluation Ingestion Stateful

structure Linkage where
  regressionRunId : ℕ
  scenarioId : String
  repetitionIndex : ℕ
  deriving Repr, DecidableEq

/-- The run's linkage, when all three of its columns are set. -/
def rowLinkage (row : AgentRun) : Option Linkage := do
  let regressionRunId ← row.regressionRunId
  let scenarioId ← row.scenarioId
  let repetitionIndex ← row.repetitionIndex
  return ⟨regressionRunId, scenarioId, repetitionIndex⟩

def linkageOf (runId : String) (store : Store) : Option Linkage :=
  (store.agentRuns.find? runId).bind rowLinkage

theorem linkage_eq_some_iff (row : AgentRun) (linkage : Linkage) :
    rowLinkage row = some linkage ↔ row.regressionRunId = some linkage.regressionRunId ∧
      row.scenarioId = some linkage.scenarioId ∧
      row.repetitionIndex = some linkage.repetitionIndex := by
  obtain ⟨regressionRunId, scenarioId, repetitionIndex⟩ := linkage
  unfold rowLinkage
  cases row.regressionRunId <;> cases row.scenarioId <;> cases row.repetitionIndex <;> simp

theorem linkageOf_eq_some_iff (runId : String) (store : Store) (linkage : Linkage) :
    linkageOf runId store = some linkage ↔
      ∃ row, store.agentRuns.find? runId = some row ∧ rowLinkage row = some linkage :=
  Option.bind_eq_some_iff

/-! ### Requests one after another -/

/-- The store a request leaves committed, served on a session of its own. -/
def served (db : Database) (request : Request) (store : Store) : Store :=
  (after (serve db request) (Session.fresh store)).committed

/-- The committed store after each request. -/
def committedStates : List (Database × Request) → Store → List Store
  | [], _ => []
  | (db, request) :: requests, store =>
    served db request store :: committedStates requests (served db request store)

/-- A condition on each request, the store it is served on and the one it leaves. -/
def Throughout (P : Store → Request → Store → Prop) : List (Database × Request) → Store → Prop
  | [], _ => True
  | (db, request) :: requests, store =>
    P store request (served db request store) ∧
      Throughout P requests (served db request store)

/-- No request links the run again, or none that does commits anything. -/
def LinksNothing (runId : String) (before : Store) (request : Request) (after : Store) : Prop :=
  ∀ regressionRunId scenarioId repetitionIndex,
    request = .link runId regressionRunId scenarioId repetitionIndex → after = before

/-- An ingestion of the run that commits anything carries this scenario id. -/
def CarriesScenario (runId scenarioId : String) (before : Store) (request : Request)
    (after : Store) : Prop :=
  ∀ event validated, request = .ingest event validated → event.runId = runId →
    after = before ∨ event.scenarioId = some scenarioId

/-! ### What one request does to a run's row -/

theorem served_ingest (db : Database) (event : ExtendedRunEvent) (validated : Validated event)
    (store : Store) :
    served db (.ingest event validated) store = store ∨
      ∃ now, ingestEffect event now store = .ok (served db (.ingest event validated) store) := by
  have hserve : Ends (serve db (.ingest event validated)) (Session.fresh store)
      (fun _ t => ∃ now, ingestEffect event now store = .ok t.committed)
      fun _ t => t.committed = store := by
    apply ends_bind _ _ _ fun _ t => ∃ now, ingestEffect event now store = .ok t.committed
    · cases hr : ingestRunEvent db event (Session.fresh store) with
      | ok result t =>
        obtain ⟨_, _, heffect⟩ := ingestRunEvent_returns db event _ t result hr
        exact .ok result t hr ⟨_, heffect⟩
      | error e t =>
        obtain ⟨hcommitted, _⟩ := ingestRunEvent_raises db event _ t e hr
        exact .error e t hr hcommitted
    · intro _ t h
      exact ends_of_ok _ _ t () _ _ rfl h
  unfold served
  cases hserve with
  | ok _ t hr h =>
    rw [after_ok _ _ t () hr]
    exact .inr h
  | error e t hr h =>
    rw [after_error _ _ t e hr]
    exact .inl h

/-- A linkage touches the row it links only. -/
theorem served_link (db : Database) (runId : String) (regressionRunId : ℕ) (scenarioId : String)
    (repetitionIndex : ℕ) (store : Store) (otherId : String) (hother : otherId ≠ runId) :
    (served db (.link runId regressionRunId scenarioId repetitionIndex) store).agentRuns.find?
      otherId = store.agentRuns.find? otherId := by
  have hsound := sound_persistRegressionLinkage
    (fun w => w.agentRuns.find? otherId = store.agentRuns.find? otherId) db runId regressionRunId
    scenarioId repetitionIndex (by
      intro now w hw
      rw [updateLinkage_find?, if_neg hother]
      exact hw)
  exact (hsound (Session.fresh store) (sound_fresh _ store rfl)).1

theorem agentRuns_evaluationKeeps (runs : Table AgentRun.runId) :
    EvaluationKeeps fun w => w.agentRuns = runs where
  evaluationResult := fun _ _ h => h
  judgeCall := fun _ _ h => h
  runFailure := fun _ _ h => h

theorem served_evaluate (db : Database) (environment : JudgeEnvironment)
    (evaluators : List Evaluator) (runId : String) (store : Store) :
    (served db (.evaluate environment evaluators runId) store).agentRuns = store.agentRuns := by
  have hsound : Preserves (Sound fun w : Store => w.agentRuns = store.agentRuns)
      (serve db (.evaluate environment evaluators runId)) :=
    preserves_bind _ _ _ (sound_runEvaluation _ db (agentRuns_evaluationKeeps _) environment
      evaluators runId) fun _ => preserves_pure _ _
  exact (hsound (Session.fresh store) (sound_fresh _ store rfl)).1

/-- Of the linkage an ingestion overwrites the scenario id only. -/
theorem ingest_linkage (event : ExtendedRunEvent) (now : Timestamp) (store store' : Store)
    (h : ingestEffect event now store = .ok store') (linkage : Linkage)
    (hlinked : linkageOf event.runId store = some linkage) :
    linkageOf event.runId store' = some linkage ↔ event.scenarioId = some linkage.scenarioId := by
  obtain ⟨row, hrow, hrowLinkage⟩ := (linkageOf_eq_some_iff _ _ _).mp hlinked
  obtain ⟨hregression, _, hrepetition⟩ := (linkage_eq_some_iff row linkage).mp hrowLinkage
  have hstored := ingestEffect_agentRuns event now store store' h event.runId
  rw [if_pos rfl, hrow, Option.elim_some] at hstored
  rw [linkageOf, hstored, Option.bind_some, linkage_eq_some_iff]
  constructor
  · intro hsame
    exact hsame.2.1
  · intro hscenario
    exact ⟨hregression, hscenario, hrepetition⟩

theorem ingest_otherLinkage (event : ExtendedRunEvent) (now : Timestamp) (store store' : Store)
    (h : ingestEffect event now store = .ok store') (runId : String) (hne : runId ≠ event.runId) :
    linkageOf runId store' = linkageOf runId store := by
  unfold linkageOf
  rw [ingestEffect_agentRuns event now store store' h, if_neg hne]

/-- One request keeps the linkage exactly when it carries its scenario id. -/
theorem served_linkage (db : Database) (request : Request) (store : Store) (runId : String)
    (linkage : Linkage) (hlinked : linkageOf runId store = some linkage)
    (hnone : LinksNothing runId store request (served db request store)) :
    linkageOf runId (served db request store) = some linkage ↔
      CarriesScenario runId linkage.scenarioId store request (served db request store) := by
  cases request with
  | ingest event validated =>
    by_cases hrun : event.runId = runId
    · subst hrun
      rcases served_ingest db event validated store with hsame | ⟨now, heffect⟩
      · rw [hsame]
        exact ⟨fun _ _ _ _ _ => .inl rfl, fun _ => hlinked⟩
      · rw [ingest_linkage event now store _ heffect linkage hlinked]
        constructor
        · intro hscenario event' _ he _
          cases he
          exact .inr hscenario
        · intro hcarries
          rcases hcarries event validated rfl rfl with hsame | hscenario
          · rw [hsame] at heffect
            exact (ingest_linkage event now store store heffect linkage hlinked).mp hlinked
          · exact hscenario
    · have hkept : linkageOf runId (served db (.ingest event validated) store) = some linkage := by
        rcases served_ingest db event validated store with hsame | ⟨now, heffect⟩
        · rw [hsame]
          exact hlinked
        · rw [ingest_otherLinkage event now store _ heffect runId (Ne.symm hrun)]
          exact hlinked
      refine ⟨fun _ event' _ he hrun' => ?_, fun _ => hkept⟩
      cases he
      exact absurd hrun' hrun
  | link linkedId regressionRunId scenarioId repetitionIndex =>
    have hkept : linkageOf runId
        (served db (.link linkedId regressionRunId scenarioId repetitionIndex) store) =
          some linkage := by
      by_cases hrun : linkedId = runId
      · subst hrun
        rw [hnone _ _ _ rfl]
        exact hlinked
      · rw [linkageOf, served_link db linkedId _ _ _ store runId (Ne.symm hrun)]
        exact hlinked
    refine ⟨fun _ event' _ he _ => ?_, fun _ => hkept⟩
    cases he
  | evaluate environment evaluators evaluatedId =>
    have hkept : linkageOf runId
        (served db (.evaluate environment evaluators evaluatedId) store) = some linkage := by
      rw [linkageOf, served_evaluate]
      exact hlinked
    refine ⟨fun _ event' _ he _ => ?_, fun _ => hkept⟩
    cases he

/-! ### Any sequence of requests -/

/-- A linked run that is not linked again keeps its linkage in every later committed
store exactly when every ingestion of it carries the scenario id it was linked with. -/
theorem linkage_owned_iff (requests : List (Database × Request)) (store : Store) (runId : String)
    (linkage : Linkage) (hlinked : linkageOf runId store = some linkage)
    (hnone : Throughout (LinksNothing runId) requests store) :
    (∀ state ∈ committedStates requests store, linkageOf runId state = some linkage) ↔
      Throughout (CarriesScenario runId linkage.scenarioId) requests store := by
  induction requests generalizing store with
  | nil => exact ⟨fun _ => trivial, fun _ _ hm => absurd hm List.not_mem_nil⟩
  | cons head requests ih =>
    obtain ⟨db, request⟩ := head
    have hstep := served_linkage db request store runId linkage hlinked hnone.1
    constructor
    · intro hall
      have hfirst := hall _ List.mem_cons_self
      have hrest := (ih _ hfirst hnone.2).mp fun state hm => hall state (List.mem_cons_of_mem _ hm)
      exact ⟨hstep.mp hfirst, hrest⟩
    · intro hcarries state hm
      have hfirst := hstep.mpr hcarries.1
      rcases List.mem_cons.mp hm with rfl | hm
      · exact hfirst
      · exact (ih _ hfirst hnone.2).mpr hcarries.2 state hm

/- A run of no scenario, ingested and then linked. -/
def linkedRun : Store :=
  served .plain (.link "run-1" 1 "GS-01" 0)
    (served .plain (.ingest (successEvent "run-1") (successEvent_validated "run-1")) Store.empty)

/- The same run again, as a producer that knows the scenario sends it. -/
def scenarioEvent : ExtendedRunEvent := { successEvent "run-1" with scenarioId := some "GS-01" }

def scenarioRequests : List (Database × Request) :=
  [(.plain, .ingest scenarioEvent (successEvent_validated "run-1"))]

/- And as a producer sends it that knows of no scenario. -/
def plainRequests : List (Database × Request) :=
  [(.plain, .ingest (successEvent "run-1") (successEvent_validated "run-1"))]

theorem linkage_owned_iff_sample :
    linkageOf "run-1" linkedRun = some ⟨1, "GS-01", 0⟩ ∧
    ∀ state ∈ committedStates scenarioRequests linkedRun,
      linkageOf "run-1" state = some ⟨1, "GS-01", 0⟩ := by
  have hlinked : linkageOf "run-1" linkedRun = some ⟨1, "GS-01", 0⟩ := by decide +kernel
  have hnone : Throughout (LinksNothing "run-1") scenarioRequests linkedRun :=
    ⟨fun _ _ _ he => Request.noConfusion he, trivial⟩
  have hcarries : Throughout (CarriesScenario "run-1" "GS-01") scenarioRequests linkedRun := by
    refine ⟨fun event _ he _ => .inr ?_, trivial⟩
    injection he with he
    rw [← he]
    rfl
  refine ⟨hlinked, ?_⟩
  exact (linkage_owned_iff scenarioRequests linkedRun "run-1" ⟨1, "GS-01", 0⟩ hlinked hnone).mpr
    hcarries

/-- A snapshot that reports no scenario, ingested after the linkage, takes it away. -/
theorem reingestion_unlinks :
    linkageOf "run-1" linkedRun = some ⟨1, "GS-01", 0⟩ ∧
    Throughout (LinksNothing "run-1") plainRequests linkedRun ∧
    ¬ ∀ state ∈ committedStates plainRequests linkedRun,
      linkageOf "run-1" state = some ⟨1, "GS-01", 0⟩ := by
  refine ⟨by decide +kernel, ⟨fun _ _ _ he => Request.noConfusion he, trivial⟩, ?_⟩
  intro hall
  have hkept := hall _ List.mem_cons_self
  revert hkept
  decide +kernel

end ObsPlatform.Platform
