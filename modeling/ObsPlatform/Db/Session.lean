import ObsPlatform.Db.Models
import ObsPlatform.Lib.OrderBy
import ObsPlatform.Lib.UnitOfWork

/-!
# The database session the services share

The session of `Lib/UnitOfWork` at the platform's store.
-/

namespace ObsPlatform.Db

open UnitOfWork

/-- The exceptions the modelled code raises or receives. -/
inductive Error where
  | hitlStateRegression (message : String)
  | hitlGateViolation (message : String)
  | keyError (keyRepr : String)
  | valueError (message : String)
  | runNotFound (runId : String)
  | scenarioContractNotFound (scenarioId : String)
  | judgeOutputValidation (message : String)
  | invalidRequest
  | database (typeName message : String)
  | other (typeName message : String)
  deriving Repr, DecidableEq

/- `type(exc).__name__`. -/
def Error.typeName : Error → String
  | .hitlStateRegression _ => "HITLStateRegressionError"
  | .hitlGateViolation _ => "HITLGateViolationError"
  | .keyError _ => "KeyError"
  | .valueError _ => "ValueError"
  | .runNotFound _ => "RunNotFoundError"
  | .scenarioContractNotFound _ => "ScenarioContractNotFoundError"
  | .judgeOutputValidation _ => "JudgeOutputValidationError"
  | .invalidRequest => "InvalidRequestError"
  | .database typeName _ => typeName
  | .other typeName _ => typeName

/- `str(exc)`; the text of a KeyError is the repr of its key. -/
def Error.message : Error → String
  | .hitlStateRegression message => message
  | .hitlGateViolation message => message
  | .keyError keyRepr => keyRepr
  | .valueError message => message
  | .runNotFound runId => reprText runId
  | .scenarioContractNotFound scenarioId => reprText scenarioId
  | .judgeOutputValidation message => message
  | .invalidRequest => "A transaction is already begun on this Session."
  | .database _ message => message
  | .other _ message => message

/-- What a statement is for. -/
inductive Statement where
  | read
  | agentRun
  | span
  | spanParent
  | toolCall
  | llmCall
  | usageTotals
  | linkage
  | evaluationResult
  | judgeCall
  | runFailure
  | regressionRun
  | regressionStatus
  deriving Repr, DecidableEq

/-- The order of text values: any total order. -/
structure Collation where
  le : String → String → Prop
  total : ∀ a b, le a b ∨ le b a
  trans : ∀ a b c, le a b → le b c → le a c
  antisymm : ∀ a b, le a b → le b a → a = b

def Span.bySequence (a b : Span) : Prop := a.sequence ≤ b.sequence

def ToolCall.bySequence (a b : ToolCall) : Prop := a.sequence ≤ b.sequence

def LLMCall.byStart (c : Collation) (a b : LLMCall) : Prop :=
  a.startedAt < b.startedAt ∨ a.startedAt = b.startedAt ∧ c.le a.llmCallId b.llmCallId

def EvaluationResult.byName (c : Collation) (a b : EvaluationResult) : Prop :=
  c.le a.evaluatorName b.evaluatorName

/-- The row orders the server picks for one query. -/
structure Plan (c : Collation) where
  spans : OrderBy Span.bySequence
  toolCalls : OrderBy ToolCall.bySequence
  llmCalls : OrderBy (LLMCall.byStart c)
  evaluationResults : OrderBy (EvaluationResult.byName c)

/-- Everything a session depends on outside the code: which statements the server
refuses, the clock, and the row order of each query. -/
structure Database where
  backend : Backend Store Statement Error
  clock : ℕ → Timestamp
  collation : Collation
  plan : ℕ → Plan collation

abbrev DbSession := Session Store

abbrev SessionM (α : Type) := Work Error Store α

variable (db : Database)

/- `datetime.now(UTC)`. -/
def now : SessionM Timestamp := do
  let s ← get
  return db.clock s.statements

theorem now_apply (s : DbSession) : now db s = .ok (db.clock s.statements) s := rfl

def read {α : Type} (f : Store → α) : SessionM α := query db.backend .read f

/- A query whose row order the server picks. -/
def readOrdered {α : Type} (f : Plan db.collation → Store → α) : SessionM α := do
  let s ← get
  query db.backend .read (f (db.plan s.statements))

theorem delivers_read {α : Type} (f : Store → α) (s : DbSession) :
    Delivers db.backend (read db f) s fun a t => a = f s.view ∧ t = s.spoken s.view :=
  delivers_query db.backend .read f s

/-- A read leaves the session reading the same store. -/
theorem delivers_read_of {α : Type} (f : Store → α) (store : Store) (s : DbSession)
    (hs : s.view = store) :
    Delivers db.backend (read db f) s fun a t => a = f store ∧ t.view = store := by
  apply delivers_mono _ _ s _ _ (delivers_read db f s)
  intro a t hread
  obtain ⟨rfl, rfl⟩ := hread
  exact ⟨by rw [hs], hs⟩

theorem delivers_readOrdered {α : Type} (f : Plan db.collation → Store → α) (s : DbSession) :
    Delivers db.backend (readOrdered db f) s fun a t =>
      a = f (db.plan s.statements) s.view ∧ t = s.spoken s.view :=
  Stateful.ends_get _ s _ _ (delivers_query db.backend .read (f (db.plan s.statements)) s)

def update (label : Statement) (f : Store → Store) : SessionM Unit := write db.backend label f

/- `session.scalar(select(AgentRun).where(...))`. The session refers weakly to the rows it loads,
and no row outlives the function that loaded it, so every read of a run is a statement. -/
def selectAgentRun (runId : String) : SessionM (Option AgentRun) :=
  read db fun store => store.agentRuns.find? runId

/- `session.get(AgentRun, run_id)`, with populate_existing or without. -/
def getAgentRun (runId : String) : SessionM (Option AgentRun) := selectAgentRun db runId

/- `session.refresh(record)`. -/
def refreshAgentRun (runId : String) : SessionM Unit := do
  let _ ← selectAgentRun db runId

theorem delivers_selectAgentRun (runId : String) (s : DbSession) :
    Delivers db.backend (selectAgentRun db runId) s fun a t =>
      a = s.view.agentRuns.find? runId ∧ t = s.spoken s.view :=
  delivers_read db _ s

theorem delivers_refreshAgentRun (runId : String) (s : DbSession) :
    Delivers db.backend (refreshAgentRun db runId) s fun _ t => t = s.spoken s.view := by
  apply delivers_bind _ _ _ s _ _ (delivers_selectAgentRun db runId s)
  intro _ t hread
  exact delivers_of_ok _ _ t t () _ rfl hread.2

/-! ### A plain server

It refuses nothing, orders text by code points, keeps ties in stored order, and its
clock counts the statements of the session. -/

def Collation.codePoints : Collation where
  le := fun a b => a ≤ b
  total := fun a b => le_total a b
  trans := fun _ _ _ hab hbc => le_trans hab hbc
  antisymm := fun _ _ hab hba => le_antisymm hab hba

section Plain

instance : DecidableRel Span.bySequence := fun a b => inferInstanceAs (Decidable (a.sequence ≤ b.sequence))
instance : Std.Total Span.bySequence := ⟨fun a b => le_total a.sequence b.sequence⟩
instance : IsTrans Span Span.bySequence := ⟨fun _ _ _ hab hbc => le_trans (α := ℤ) hab hbc⟩

instance : DecidableRel ToolCall.bySequence :=
  fun a b => inferInstanceAs (Decidable (a.sequence ≤ b.sequence))
instance : Std.Total ToolCall.bySequence := ⟨fun a b => le_total a.sequence b.sequence⟩
instance : IsTrans ToolCall ToolCall.bySequence := ⟨fun _ _ _ hab hbc => le_trans (α := ℤ) hab hbc⟩

instance : DecidableRel (LLMCall.byStart .codePoints) := fun a b =>
  inferInstanceAs (Decidable
    (a.startedAt < b.startedAt ∨ a.startedAt = b.startedAt ∧ a.llmCallId ≤ b.llmCallId))

instance : Std.Total (LLMCall.byStart .codePoints) := ⟨by
  intro a b
  rcases lt_trichotomy a.startedAt b.startedAt with h | h | h
  · exact .inl (.inl h)
  · rcases le_total a.llmCallId b.llmCallId with hl | hl
    · exact .inl (.inr ⟨h, hl⟩)
    · exact .inr (.inr ⟨h.symm, hl⟩)
  · exact .inr (.inl h)⟩

instance : IsTrans LLMCall (LLMCall.byStart .codePoints) := ⟨by
  rintro a b c (hab | ⟨hab, hl⟩) (hbc | ⟨hbc, hm⟩)
  · exact .inl (hab.trans hbc)
  · exact .inl (hbc ▸ hab)
  · exact .inl (hab.symm ▸ hbc)
  · exact .inr ⟨hab.trans hbc, le_trans hl hm⟩⟩

instance : DecidableRel (EvaluationResult.byName .codePoints) :=
  fun a b => inferInstanceAs (Decidable (a.evaluatorName ≤ b.evaluatorName))
instance : Std.Total (EvaluationResult.byName .codePoints) :=
  ⟨fun a b => le_total a.evaluatorName b.evaluatorName⟩
instance : IsTrans EvaluationResult (EvaluationResult.byName .codePoints) :=
  ⟨fun _ _ _ hab hbc => le_trans (α := String) hab hbc⟩

end Plain

def Database.plain : Database where
  backend := ⟨fun _ _ _ _ => none⟩
  clock := fun n => n
  collation := .codePoints
  plan := fun _ => ⟨.stable _, .stable _, .stable _, .stable _⟩

theorem plain_accepts : Database.plain.backend.Accepts := fun _ _ _ _ => rfl

end ObsPlatform.Db
