import ObsPlatform.Lib.Pages
import ObsPlatform.Routes.Analytics

/-!
# The run-list endpoint (routes/runs.py)

`listRuns` counts the runs that pass the filters and reads one page of them, the latest
started first. The two queries share the filters and the outer join; only the second one
sorts, by the start alone.
-/

namespace ObsPlatform.Routes

open Telemetry Db UnitOfWork Evaluation

structure RunListParams where
  limit : ℕ := 20
  limit_ge : 1 ≤ limit := by decide
  limit_le : limit ≤ 100 := by decide
  offset : ℕ := 0
  status : Option RunStatus := none
  scenarioId : Option String := none
  agentVersion : Option String := none
  model : Option String := none
  overallStatus : Option String := none
  primaryFailureType : Option String := none
  startedAfter : Option Timestamp := none
  startedBefore : Option Timestamp := none

structure RunSummary where
  runId : String
  scenarioId : Option String
  agentName : String
  agentVersion : String
  promptVersion : String
  environment : String
  status : RunStatus
  eventType : RunEventType
  hitlState : HITLState
  startedAt : Timestamp
  completedAt : Option Timestamp
  executionLatencyMs : Option ℤ
  wallClockDurationMs : Option ℤ
  usageTotalTokens : ℤ
  usageTotalEstimatedCostUsd : ℚ
  overallStatus : Option OverallEvaluationStatus
  primaryFailureType : Option FailureType
  maxSeverity : Option String

structure RunListResponse where
  items : List RunSummary
  total : ℕ
  limit : ℕ
  offset : ℕ

def runSummaryResponse (run : AgentRun) (runFailure : Option RunFailure) : RunSummary where
  runId := run.runId
  scenarioId := run.scenarioId
  agentName := run.agentName
  agentVersion := run.agentVersion
  promptVersion := run.promptVersion
  environment := run.environment
  status := run.status
  eventType := run.eventType
  hitlState := run.hitlState
  startedAt := run.startedAt
  completedAt := run.completedAt
  executionLatencyMs := run.executionLatencyMs
  wallClockDurationMs := run.wallClockDurationMs
  usageTotalTokens := run.usageTotalTokens
  usageTotalEstimatedCostUsd := run.usageTotalEstimatedCostUsd
  overallStatus := runFailure.map RunFailure.overallStatus
  primaryFailureType := runFailure.bind RunFailure.primaryCategory
  maxSeverity := runFailure.bind RunFailure.maxSeverity

/- EXISTS (SELECT ... FROM llm_calls WHERE run_id = ... AND model = ...). -/
def calledModel (store : Store) (runId model : String) : Bool :=
  store.llmCalls.rows.any fun call => call.runId = runId ∧ call.model = model

/- A filter that was not given passes every run; a missing failure row passes neither of
the two filters on it. -/
def runListFilters (params : RunListParams) (store : Store) (judged : JudgedRun) : Bool :=
  (params.status.all fun status => judged.1.status = status) &&
  (params.scenarioId.all fun scenarioId => judged.1.scenarioId = some scenarioId) &&
  (params.agentVersion.all fun agentVersion => judged.1.agentVersion = agentVersion) &&
  (params.model.all fun model => calledModel store judged.1.runId model) &&
  (params.overallStatus.all fun overallStatus =>
    judged.2.any fun failure => failure.overallStatus.value = overallStatus) &&
  (params.primaryFailureType.all fun primaryFailureType =>
    judged.2.any fun failure => failure.primaryCategory.any fun category =>
      category.value = primaryFailureType) &&
  (params.startedAfter.all fun after => after ≤ judged.1.startedAt) &&
  params.startedBefore.all fun before => judged.1.startedAt ≤ before

/- agent_runs LEFT JOIN run_failures ON run_id, WHERE the filters hold. -/
def filteredRuns (params : RunListParams) (store : Store) : List JudgedRun :=
  (judgedRuns store).filter (runListFilters params store)

/- order_by(AgentRun.started_at.desc()). -/
def byStartDescending (a b : JudgedRun) : Prop := b.1.startedAt ≤ a.1.startedAt

instance : DecidableRel byStartDescending :=
  fun a b => inferInstanceAs (Decidable (b.1.startedAt ≤ a.1.startedAt))
instance : Std.Total byStartDescending := ⟨fun a b => le_total b.1.startedAt a.1.startedAt⟩
instance : IsTrans JudgedRun byStartDescending :=
  ⟨fun _ _ _ hab hbc => le_trans (α := ℤ) hbc hab⟩

def listRuns (db : Database) (order : OrderBy byStartDescending) (params : RunListParams) :
    SessionM RunListResponse := do
  let total ← read db fun store => (filteredRuns params store).length
  let rows ← read db fun store =>
    window params.limit params.offset (order.arrange (filteredRuns params store))
  return {
    items := rows.map fun row => runSummaryResponse row.1 row.2
    total := total
    limit := params.limit
    offset := params.offset }

/-! ### What the endpoint returns -/

variable (db : Database) (order : OrderBy byStartDescending) (params : RunListParams)

/-- The page of a store, cut out of the order the server picked. -/
def runPage (store : Store) : RunListResponse where
  items := (window params.limit params.offset (order.arrange (filteredRuns params store))).map
    fun row => runSummaryResponse row.1 row.2
  total := (filteredRuns params store).length
  limit := params.limit
  offset := params.offset

theorem delivers_listRuns (s : DbSession) :
    Delivers db.backend (listRuns db order params) s fun response _ =>
      response = runPage order params s.view := by
  apply delivers_bind _ _ _ s _ _ (delivers_read_of db _ s.view s rfl)
  intro total t htotal
  apply delivers_bind _ _ _ t _ _ (delivers_read_of db _ s.view t htotal.2)
  intro rows u hrows
  apply delivers_of_ok _ _ u u _ _ rfl
  rw [htotal.1, hrows.1]
  rfl

/-- A page that was read is the page of the store. -/
theorem listRuns_eq (s t : DbSession) (response : RunListResponse)
    (h : listRuns db order params s = .ok response t) :
    response = runPage order params s.view :=
  Stateful.ends_returns _ s t response _ _ (delivers_listRuns db order params s) h

end ObsPlatform.Routes
