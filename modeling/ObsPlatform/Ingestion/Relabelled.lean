import ObsPlatform.Db.Constraints
import ObsPlatform.Ingestion.Effect
import ObsPlatform.Lib.Assoc
import ObsPlatform.Lib.Relational

/-!
# Two ingestions of one snapshot under two scenario ids

The scenario id of a snapshot lands in one column of one row. On a server that refuses
nothing but violations, the only constraint an ingestion can violate is the one that
column takes part in; where it does not, two ingestions that differ in the scenario id
end alike, in stores that differ in that column.
-/

namespace ObsPlatform.Ingestion

open Telemetry Db UnitOfWork Stateful

/-! ### The columns of the unique constraint -/

/-- What the regression's unique constraint reads of the row once the event is stored. -/
def reportedSlot (event : ExtendedRunEvent) (store : Store) : Option (ℕ × String × ℕ) :=
  (store.agentRuns.find? event.runId).bind fun row =>
    AgentRun.slot { row with scenarioId := event.scenarioId }

/-- No other run is linked so. -/
def Vacant (runId : String) (slot : Option (ℕ × String × ℕ)) (store : Store) : Prop :=
  ∀ row ∈ store.agentRuns.rows, row.runId ≠ runId → ∀ k ∈ row.slot, slot ≠ some k

instance (runId : String) (slot : Option (ℕ × String × ℕ)) (store : Store) :
    Decidable (Vacant runId slot store) :=
  inferInstanceAs (Decidable (∀ row ∈ store.agentRuns.rows, row.runId ≠ runId →
    ∀ k ∈ row.slot, slot ≠ some k))

/-- A changed row of agent_runs that keeps its regression breaks no constraint where its
new columns are vacant. -/
theorem agentRuns_consistent (store : Store) (agentRuns : Table AgentRun.runId) (runId : String)
    (new : Option AgentRun) (hset : RowSet store.agentRuns agentRuns runId new)
    (h : store.Consistent) (hvacant : ∀ row ∈ new, Vacant runId row.slot store)
    (hregression : ∀ row ∈ new, ∀ k ∈ row.regressionRunId, k ∈ store.regressionRunIds) :
    ({ store with agentRuns := agentRuns } : Store).Consistent := by
  have hruns : ∀ k ∈ store.runIds, k ∈ ({ store with agentRuns := agentRuns } : Store).runIds :=
    keys_rowSet store.agentRuns agentRuns runId new hset
  intro constraint
  have hold := h constraint
  cases constraint
  case agentRunsRegressionScenarioRepetition =>
    apply uniqueOn_rowSet store.agentRuns agentRuns runId new hset AgentRun.slot hold
    intro row hrow other hother hne k hk hslot
    exact hvacant row hrow other hother hne k hslot hk
  case agentRunsRegressionRunId =>
    exact refersOn_rowSet store.agentRuns agentRuns runId new hset AgentRun.regressionRunId _ _
      (fun _ hk => hk) hold hregression
  case spansRunId => exact refersOn_mono _ _ _ _ hruns hold
  case toolCallsRunId => exact refersOn_mono _ _ _ _ hruns hold
  case llmCallsRunId => exact refersOn_mono _ _ _ _ hruns hold
  case evaluationResultsRunId => exact refersOn_mono _ _ _ _ hruns hold
  case judgeCallsRunId => exact refersOn_mono _ _ _ _ hruns hold
  case runFailuresRunId => exact refersOn_mono _ _ _ _ hruns hold
  all_goals exact hold

theorem upsertAgentRun_consistent (event : ExtendedRunEvent) (now : Timestamp) (store : Store)
    (h : store.Consistent) (hvacant : Vacant event.runId (reportedSlot event store) store) :
    ({ store with agentRuns := upsertAgentRunRow event now store.agentRuns } : Store).Consistent := by
  have hset := rowSet_upsert store.agentRuns (agentRunValues event now)
    (updateAgentRun (agentRunValues event now)) (fun _ h => h)
  apply agentRuns_consistent store _ event.runId _ hset h
  · intro row hrow
    cases hfind : store.agentRuns.find? event.runId with
    | none =>
      rw [show (agentRunValues event now).runId = event.runId from rfl, hfind] at hrow
      cases hrow
      intro other _ _ k _ hk
      cases hk
    | some old =>
      rw [show (agentRunValues event now).runId = event.runId from rfl, hfind] at hrow
      cases hrow
      rw [reportedSlot, hfind] at hvacant
      exact hvacant
  · intro row hrow k hk
    cases hfind : store.agentRuns.find? event.runId with
    | none =>
      rw [show (agentRunValues event now).runId = event.runId from rfl, hfind] at hrow
      cases hrow
      cases hk
    | some old =>
      rw [show (agentRunValues event now).runId = event.runId from rfl, hfind] at hrow
      cases hrow
      exact h .agentRunsRegressionRunId old (Table.mem_of_find? _ _ old hfind) k hk

/-! ### The statements on the children -/

/-- The constraints hold, and what the rows of the children will refer to is there. -/
structure Prepared (runId : String) (spanIds : SpanIds) (store : Store) : Prop where
  consistent : store.Consistent
  run : runId ∈ store.runIds
  spans : ∀ entry ∈ spanIds, entry.2 ∈ store.spanIds

section Children
variable (runId : String) (spanIds : SpanIds) (store : Store) (h : Prepared runId spanIds store)
include h

/-- A changed span that refers to stored rows. -/
theorem spans_prepared (spans : Spans) (key : String × String) (new : Option Db.Span)
    (hset : RowSet store.spans.toTable spans.toTable key new)
    (hid : ∀ old row, store.spans.toTable.find? key = some old → new = some row → row.id = old.id)
    (hrun : ∀ row ∈ new, row.runId = runId)
    (hparent : ∀ row ∈ new, ∀ id ∈ row.parentSpanId, id ∈ store.spanIds) :
    Prepared runId spanIds { store with spans := spans } := by
  have hids : ∀ id ∈ store.spanIds, id ∈ ({ store with spans := spans } : Store).spanIds :=
    map_rowSet store.spans.toTable spans.toTable key new hset Db.Span.id hid
  refine ⟨?_, h.run, fun entry hentry => hids _ (h.spans entry hentry)⟩
  intro constraint
  have hold := h.consistent constraint
  cases constraint
  case spansRunId =>
    apply refersOn_rowSet store.spans.toTable spans.toTable key new hset _ _ _ (fun _ hk => hk) hold
    intro row hrow k hk
    cases hk
    rw [hrun row hrow]
    exact h.run
  case spansParentSpanId =>
    apply refersOn_rowSet store.spans.toTable spans.toTable key new hset _ _ _ hids hold
    exact fun row hrow id hid => hids id (hparent row hrow id hid)
  case toolCallsSpanId => exact refersOn_mono _ _ _ _ hids hold
  case llmCallsSpanId => exact refersOn_mono _ _ _ _ hids hold
  all_goals exact hold

theorem upsertSpanRow_prepared (span : Telemetry.Span) :
    Prepared runId ((upsertSpanRow runId span store.spans).1 :: spanIds)
      { store with spans := (upsertSpanRow runId span store.spans).2 } := by
  have hfind := SerialTable.find?_upsert store.spans (runId, span.spanId) (spanValues runId span)
    (updateSpan runId span) (fun _ => rfl) (fun _ => rfl) (fun _ h => h) (fun _ => rfl)
  have hkept := spans_prepared runId spanIds store h (upsertSpanRow runId span store.spans).2
    (runId, span.spanId) _ ⟨hfind, fun _ => rfl⟩ ?_ ?_ ?_
  · refine ⟨hkept.consistent, hkept.run, ?_⟩
    intro entry hentry
    rcases List.mem_cons.mp hentry with rfl | hentry
    · have hrow := hfind (runId, span.spanId)
      rw [if_pos rfl] at hrow
      apply List.mem_map.mpr
      refine ⟨_, Table.mem_of_find? _ _ _ hrow, ?_⟩
      show Db.Span.id (Option.elim _ _ _) = Option.elim _ _ _
      cases store.spans.toTable.find? (runId, span.spanId) with
      | none => rfl
      | some old => rfl
    · exact hkept.spans entry hentry
  · intro old row hold hrow
    rw [hold] at hrow
    cases hrow
    rfl
  · intro row hrow
    cases hold : store.spans.toTable.find? (runId, span.spanId) with
    | none =>
      rw [hold] at hrow
      cases hrow
      rfl
    | some old =>
      rw [hold] at hrow
      cases hrow
      have hkey := Table.key_of_find? _ _ old hold
      exact (Prod.mk.inj hkey).1
  · intro row hrow id hid
    cases hold : store.spans.toTable.find? (runId, span.spanId) with
    | none =>
      rw [hold] at hrow
      cases hrow
      cases hid
    | some old =>
      rw [hold] at hrow
      cases hrow
      cases hid

theorem setSpanParent_prepared (spanId : String) (parent : Option ℕ)
    (hparent : ∀ id ∈ parent, id ∈ store.spanIds) :
    Prepared runId spanIds
      { store with spans := setSpanParent runId spanId parent store.spans } := by
  have hset := rowSet_modify store.spans.toTable (runId, spanId)
    (fun row => { row with parentSpanId := parent }) (fun _ h => h)
  apply spans_prepared runId spanIds store h _ (runId, spanId) _ hset
  · intro old row hold hrow
    rw [hold] at hrow
    cases hrow
    rfl
  · intro row hrow
    obtain ⟨old, hold, rfl⟩ := Option.map_eq_some_iff.mp hrow
    have hkey := Table.key_of_find? _ _ old hold
    exact (Prod.mk.inj hkey).1
  · intro row hrow
    obtain ⟨old, hold, rfl⟩ := Option.map_eq_some_iff.mp hrow
    exact hparent

theorem upsertToolCallRow_prepared (toolCall : Telemetry.ToolCall) (spanId : ℕ)
    (hspan : spanId ∈ store.spanIds) :
    Prepared runId spanIds
      { store with toolCalls := upsertToolCallRow runId toolCall spanId store.toolCalls } := by
  refine ⟨?_, h.run, h.spans⟩
  intro constraint
  have hold := h.consistent constraint
  cases constraint
  case toolCallsRunId =>
    apply refersOn_upsert _ _ _ _ _ _ hold runId h.run rfl
    intro old hkey
    exact congrArg (fun key => some key.1) hkey
  case toolCallsSpanId =>
    exact refersOn_upsert _ _ _ _ _ _ hold spanId hspan rfl fun _ _ => rfl
  all_goals exact hold

theorem upsertLlmCallRow_prepared (llmCall : Telemetry.LLMCall) (spanId : ℕ)
    (hspan : spanId ∈ store.spanIds) :
    Prepared runId spanIds
      { store with llmCalls := upsertLlmCallRow runId llmCall spanId store.llmCalls } := by
  refine ⟨?_, h.run, h.spans⟩
  intro constraint
  have hold := h.consistent constraint
  cases constraint
  case llmCallsRunId =>
    apply refersOn_upsert _ _ _ _ _ _ hold runId h.run rfl
    intro old hkey
    exact congrArg (fun key => some key.1) hkey
  case llmCallsSpanId =>
    exact refersOn_upsert _ _ _ _ _ _ hold spanId hspan rfl fun _ _ => rfl
  all_goals exact hold

theorem refreshUsageRow_prepared (usageRunId : String) :
    Prepared runId spanIds (refreshUsageRow usageRunId store) := by
  have hset := rowSet_modify store.agentRuns usageRunId (withUsageTotals store) (fun _ h => h)
  refine ⟨?_, keys_rowSet _ _ _ _ hset _ h.run, h.spans⟩
  apply agentRuns_consistent store _ usageRunId _ hset h.consistent
  · intro row hrow other hother hne k hk hslot
    obtain ⟨old, hold, rfl⟩ := Option.map_eq_some_iff.mp hrow
    have hunique := (uniqueOn_table_iff AgentRun.slot store.agentRuns).mp
      (h.consistent .agentRunsRegressionScenarioRepetition)
    have hsame := hunique other hother old (Table.mem_of_find? _ _ old hold) k hk hslot
    exact hne (hsame.trans (Table.key_of_find? _ _ old hold))
  · intro row hrow k hk
    obtain ⟨old, hold, rfl⟩ := Option.map_eq_some_iff.mp hrow
    exact h.consistent .agentRunsRegressionRunId old (Table.mem_of_find? _ _ old hold) k hk

end Children

/-! ### The scenario id of one row -/

def withScenario (scenarioId : Option String) (event : ExtendedRunEvent) : ExtendedRunEvent :=
  { event with scenarioId := scenarioId }

/-- The store with another scenario id in the row of the run. -/
def relabelled (runId : String) (scenarioId : Option String) (store : Store) : Store :=
  { store with
    agentRuns := store.agentRuns.modify runId (fun row => { row with scenarioId := scenarioId })
      fun _ h => h }

/-- Storing the event under another scenario id is storing it and relabelling its row. -/
theorem upsertAgentRunRow_relabelled (scenarioId : Option String) (event : ExtendedRunEvent)
    (now : Timestamp) (store : Store) :
    ({ store with agentRuns :=
        upsertAgentRunRow (withScenario scenarioId event) now store.agentRuns } : Store) =
      relabelled event.runId scenarioId
        { store with agentRuns := upsertAgentRunRow event now store.agentRuns } := by
  have h := Table.modify_upsert store.agentRuns (agentRunValues event now)
    (updateAgentRun (agentRunValues event now)) (fun row => { row with scenarioId := scenarioId })
    (fun _ h => h) (fun _ h => h) (fun _ h => h)
  show ({ store with agentRuns := _ } : Store) = { store with agentRuns := _ }
  exact congrArg (fun agentRuns => ({ store with agentRuns := agentRuns } : Store)) h.symm

theorem refreshUsageRow_relabelled (runId : String) (scenarioId : Option String) (store : Store) :
    refreshUsageRow runId (relabelled runId scenarioId store) =
      relabelled runId scenarioId (refreshUsageRow runId store) := by
  have hleft := Table.modify_modify store.agentRuns runId
    (fun row => { row with scenarioId := scenarioId })
    (withUsageTotals (relabelled runId scenarioId store)) (fun _ h => h) (fun _ h => h)
  have hright := Table.modify_modify store.agentRuns runId (withUsageTotals store)
    (fun row => { row with scenarioId := scenarioId }) (fun _ h => h) (fun _ h => h)
  exact congrArg (fun agentRuns => ({ store with agentRuns := agentRuns } : Store))
    (hleft.trans hright.symm)

/-! ### Two transactions side by side -/

/-- What a rollback makes the same of two sessions. -/
def Aborted (_ : Error) (u v : DbSession) : Prop := u.rolledBack.tidied = v.rolledBack.tidied

/-- The transactions differ in the scenario id of the run, and in both the rows are as said. -/
structure Relabels (runId : String) (scenarioId : Option String) (J : Store → Prop)
    (s t : DbSession) : Prop where
  same : t = { s with working := relabelled runId scenarioId s.working }
  isOpen : s.inTransaction = true
  left : J s.working
  right : J t.working

section Relational
variable (db : Database) (hdb : Healthy db) (runId : String) (scenarioId : Option String)

theorem aborted_of_relabels (J : Store → Prop) (s t : DbSession)
    (h : Relabels runId scenarioId J s t) (e : Error) : Aborted e s t := by
  obtain ⟨rfl, _, _, _⟩ := h
  exact rolledBack_tidied _ _ rfl rfl

include hdb

/-- A statement that does not look at the scenario id, on two stores it keeps in order. -/
theorem execute_relabels {α : Type} (label : Statement) (f : Store → α × Store)
    (hf : ∀ w, f (relabelled runId scenarioId w) =
      ((f w).1, relabelled runId scenarioId (f w).2))
    (J : Store → Prop) (J' : α → Store → Prop) (hkept : ∀ w, J w → J' (f w).1 (f w).2)
    (hconsistent : ∀ a w, J' a w → w.Consistent) (s t : DbSession)
    (h : Relabels runId scenarioId J s t) :
    EndAlike (execute db.backend label f : SessionM α) (execute db.backend label f : SessionM α) s t
      (fun a u b v => a = b ∧ Relabels runId scenarioId (J' a) u v) Aborted := by
  obtain ⟨rfl, hopen, hleft, hright⟩ := h
  have hview := view_of_open s hopen
  have hview' := view_of_open ({ s with working := relabelled runId scenarioId s.working } : DbSession)
    hopen
  have hs := hkept s.working hleft
  have ht := hkept (relabelled runId scenarioId s.working) hright
  apply alike_accepted
  · rw [hview]
    exact hdb.accepts _ _ _ _ (hconsistent _ _ hs)
  · rw [hview']
    exact hdb.accepts _ _ _ _ (hconsistent _ _ ht)
  · rw [hview, hview']
    have hresult := congrArg Prod.fst (hf s.working)
    have hstore := congrArg Prod.snd (hf s.working)
    refine ⟨hresult.symm, ?_, rfl, hs, ?_⟩
    · rw [Session.spoken, hstore]
      rfl
    · rw [hresult] at ht
      exact ht

theorem update_relabels (label : Statement) (f : Store → Store)
    (hf : ∀ w, f (relabelled runId scenarioId w) = relabelled runId scenarioId (f w))
    (J J' : Store → Prop) (hkept : ∀ w, J w → J' (f w)) (hconsistent : ∀ w, J' w → w.Consistent)
    (s t : DbSession) (h : Relabels runId scenarioId J s t) :
    EndAlike (update db label f) (update db label f) s t
      (fun _ u _ v => Relabels runId scenarioId J' u v) Aborted := by
  have hexecuted := execute_relabels db hdb runId scenarioId label (fun w => ((), f w))
    (fun w => by rw [hf w]) J (fun _ => J') hkept (fun _ => hconsistent) s t h
  exact alike_mono _ _ _ _ _ _ _ _ hexecuted (fun _ _ _ _ h => h.2) fun _ _ _ h => h

theorem upsertSpans_relabels (spans : List Telemetry.Span) (spanIds : SpanIds) (s t : DbSession)
    (h : Relabels runId scenarioId (Prepared runId spanIds) s t) :
    EndAlike (upsertSpans db runId spans spanIds) (upsertSpans db runId spans spanIds) s t
      (fun ids u ids' v => ids = ids' ∧ Relabels runId scenarioId (Prepared runId ids) u v)
      Aborted := by
  induction spans generalizing spanIds s t with
  | nil => exact .ok spanIds s spanIds t rfl rfl ⟨rfl, h⟩
  | cons span spans ih =>
    refine alike_bind _ _ _ _ s t _ _ _ (execute_relabels db hdb runId scenarioId .span
      (fun store => ((upsertSpanRow runId span store.spans).1,
        { store with spans := (upsertSpanRow runId span store.spans).2 })) (fun _ => rfl)
      (Prepared runId spanIds) (fun returned => Prepared runId (returned :: spanIds))
      (fun w hw => upsertSpanRow_prepared runId spanIds w hw span)
      (fun _ _ hw => hw.consistent) s t h) ?_
    intro returned u returned' v hreturned
    obtain ⟨rfl, hreturned⟩ := hreturned
    exact ih (returned :: spanIds) u v hreturned

omit hdb

/-- A loop whose lookups do not touch the session. -/
theorem forEachResolved_relabels {χ ι : Type} (J : Store → Prop) (found : ι → Prop)
    (resolve : χ → SessionM ι) (statement : χ → ι → SessionM Unit)
    (hresolve : ∀ item s t, Relabels runId scenarioId J s t →
      EndAlike (resolve item) (resolve item) s t
        (fun a u b v => a = b ∧ found a ∧ Relabels runId scenarioId J u v) Aborted)
    (hstatement : ∀ item a s t, found a → Relabels runId scenarioId J s t →
      EndAlike (statement item a) (statement item a) s t
        (fun _ u _ v => Relabels runId scenarioId J u v) Aborted)
    (items : List χ) (s t : DbSession) (h : Relabels runId scenarioId J s t) :
    EndAlike (forEachResolved resolve statement items) (forEachResolved resolve statement items) s t
      (fun _ u _ v => Relabels runId scenarioId J u v) Aborted := by
  induction items generalizing s t with
  | nil => exact .ok () s () t rfl rfl h
  | cons item items ih =>
    refine alike_bind _ _ _ _ s t _ _ _ (hresolve item s t h) ?_
    intro a u b v hreturned
    obtain ⟨rfl, hfound, hreturned⟩ := hreturned
    refine alike_bind _ _ _ _ u v _ _ _ (hstatement item a u v hfound hreturned) ?_
    intro _ u' _ v' hreturned
    exact ih u' v' hreturned

theorem spanIdOf_relabels (spanIds : SpanIds) (key : String) (J : Store → Prop) (s t : DbSession)
    (h : Relabels runId scenarioId J s t) :
    EndAlike (spanIdOf spanIds key) (spanIdOf spanIds key) s t
      (fun a u b v => a = b ∧ (∃ entry ∈ spanIds, entry.2 = a) ∧ Relabels runId scenarioId J u v)
      Aborted := by
  unfold spanIdOf
  cases hlookup : spanIds.lookup key with
  | none => exact .error _ s t rfl rfl (aborted_of_relabels runId scenarioId J s t h _)
  | some id => exact .ok id s id t rfl rfl ⟨rfl, ⟨_, lookup_mem _ _ _ hlookup, rfl⟩, h⟩

include hdb in
/-- The loop over the tool calls or the llm calls: each row refers to a span of its call. -/
theorem calls_relabels {χ : Type} (spanIds : SpanIds) (spanKey : χ → String) (label : Statement)
    (row : χ → ℕ → Store → Store)
    (hrow : ∀ call spanId w, row call spanId (relabelled runId scenarioId w) =
      relabelled runId scenarioId (row call spanId w))
    (hprepared : ∀ call spanId w, Prepared runId spanIds w → spanId ∈ w.spanIds →
      Prepared runId spanIds (row call spanId w))
    (calls : List χ) (s t : DbSession)
    (h : Relabels runId scenarioId (Prepared runId spanIds) s t) :
    EndAlike
      (forEachResolved (fun call => spanIdOf spanIds (spanKey call))
        (fun call spanId => update db label (row call spanId)) calls)
      (forEachResolved (fun call => spanIdOf spanIds (spanKey call))
        (fun call spanId => update db label (row call spanId)) calls) s t
      (fun _ u _ v => Relabels runId scenarioId (Prepared runId spanIds) u v) Aborted := by
  apply forEachResolved_relabels runId scenarioId (Prepared runId spanIds)
    (fun id => ∃ entry ∈ spanIds, entry.2 = id) _ _ _ _ calls s t h
  · intro call s t h
    exact spanIdOf_relabels runId scenarioId spanIds (spanKey call) _ s t h
  · intro call spanId s t hfound h
    apply update_relabels db hdb runId scenarioId label (row call spanId) (hrow call spanId) _ _ _
      (fun _ hw => hw.consistent) s t h
    intro w hw
    obtain ⟨entry, hentry, rfl⟩ := hfound
    exact hprepared call entry.2 w hw (hw.spans entry hentry)

theorem parentIdOf_relabels (spanIds : SpanIds) (parent : Option String) (J : Store → Prop)
    (s t : DbSession) (h : Relabels runId scenarioId J s t) :
    EndAlike (parentIdOf spanIds parent) (parentIdOf spanIds parent) s t
      (fun a u b v => a = b ∧ (∀ id ∈ a, ∃ entry ∈ spanIds, entry.2 = id) ∧
        Relabels runId scenarioId J u v) Aborted := by
  cases parent with
  | none => exact .ok none s none t rfl rfl ⟨rfl, nofun, h⟩
  | some parent =>
    refine alike_bind _ _ _ _ s t _ _ _
      (spanIdOf_relabels runId scenarioId spanIds parent J s t h) ?_
    intro a u b v hreturned
    obtain ⟨rfl, hfound, hreturned⟩ := hreturned
    refine .ok (some a) u (some a) v rfl rfl ⟨rfl, ?_, hreturned⟩
    intro id hid
    cases hid
    exact hfound

end Relational

/-! ### Two ingestions -/

section Ingest
variable (db : Database) (hdb : Healthy db) (event : ExtendedRunEvent) (scenarioId : Option String)

/-- Where the upsert of the event is reached, the columns it writes are vacant. -/
def Admits (event : ExtendedRunEvent) (store : Store) : Prop :=
  pendingAfterTerminal event store = .ok () → Vacant event.runId (reportedSlot event store) store

theorem upsertAgentRun_prepared (event : ExtendedRunEvent) (now : Timestamp) (store : Store)
    (h : store.Consistent) (hvacant : Vacant event.runId (reportedSlot event store) store) :
    Prepared event.runId []
      { store with agentRuns := upsertAgentRunRow event now store.agentRuns } := by
  have hfind := Table.find?_upsert_self store.agentRuns (agentRunValues event now)
    (updateAgentRun (agentRunValues event now)) (fun _ h => h)
  refine ⟨upsertAgentRun_consistent event now store h hvacant, ?_, ?_⟩
  · have hkey := Table.key_of_find? _ _ _ hfind
    rw [show event.runId = (agentRunValues event now).runId from rfl, ← hkey]
    exact List.mem_map_of_mem (Table.mem_of_find? _ _ _ hfind)
  · intro entry hentry
    cases hentry

include hdb

theorem upsertAgentRun_relabels (now : Timestamp) (s : DbSession) (hopen : s.inTransaction = true)
    (hconsistent : s.working.Consistent)
    (hvacant : Vacant event.runId (reportedSlot event s.working) s.working)
    (hvacant' : Vacant event.runId (reportedSlot (withScenario scenarioId event) s.working)
      s.working) :
    EndAlike (upsertAgentRun db event now) (upsertAgentRun db (withScenario scenarioId event) now)
      s s (fun _ u _ v => Relabels event.runId scenarioId (Prepared event.runId []) u v) Aborted := by
  have hleft := upsertAgentRun_prepared event now s.working hconsistent hvacant
  have hright := upsertAgentRun_prepared (withScenario scenarioId event) now s.working hconsistent
    hvacant'
  refine alike_accepted db.backend .agentRun
    (fun store => ((), { store with
      agentRuns := upsertAgentRunRow event now store.agentRuns }))
    (fun store => ((), { store with
      agentRuns := upsertAgentRunRow (withScenario scenarioId event) now store.agentRuns }))
    s s _ _ ?_ ?_ ?_
  · rw [view_of_open s hopen]
    exact hdb.accepts _ _ _ _ hleft.consistent
  · rw [view_of_open s hopen]
    exact hdb.accepts _ _ _ _ hright.consistent
  · rw [view_of_open s hopen]
    refine ⟨?_, rfl, hleft, hright⟩
    rw [Session.spoken, upsertAgentRunRow_relabelled scenarioId event now s.working]
    rfl

theorem ingestStatements_relabels (now : Timestamp) (s : DbSession)
    (hopen : s.inTransaction = true) (hconsistent : s.working.Consistent)
    (hadmits : Admits event s.working) (hadmits' : Admits (withScenario scenarioId event) s.working) :
    EndAlike (ingestStatements db event now) (ingestStatements db (withScenario scenarioId event) now)
      s s (fun _ u _ v => Relabels event.runId scenarioId (Prepared event.runId []) u v) Aborted := by
  have hguard := pendingAfterTerminal_block db event
  have hguarded : EndAlike (rejectPendingAfterTerminalHitlState db event)
      (rejectPendingAfterTerminalHitlState db (withScenario scenarioId event)) s s
      (fun _ u _ v => u = v ∧ u.inTransaction = true ∧ u.working = s.working ∧
        pendingAfterTerminal event s.working = .ok ()) Aborted := by
    have hframe := hguard.frame s hopen
    cases hr : rejectPendingAfterTerminalHitlState db event s with
    | ok a u =>
      rw [after_ok _ s u a hr] at hframe
      have hreturned := hguard.returns s u a hopen hr
      cases hp : pendingAfterTerminal event s.working with
      | error e =>
        rw [hp] at hreturned
        cases hreturned
      | ok _ =>
        rw [hp] at hreturned
        injection hreturned with hreturned
        exact .ok a u a u hr hr ⟨rfl, hframe.1, (Prod.mk.inj hreturned).2.symm, rfl⟩
    | error e u => exact .error e u u hr hr rfl
  refine alike_bind _ _ _ _ s s _ _ _ hguarded ?_
  intro _ u _ v hreturned
  obtain ⟨rfl, huopen, hworking, hpending⟩ := hreturned
  rw [← hworking] at hconsistent hpending hadmits hadmits'
  refine alike_bind _ _ _ _ u u _ _ _ (upsertAgentRun_relabels db hdb event scenarioId now u huopen
    hconsistent (hadmits hpending) (hadmits' hpending)) ?_
  intro _ s1 _ t1 h1
  refine alike_bind _ _ _ _ s1 t1 _ _ _ (upsertSpans_relabels db hdb event.runId scenarioId
    event.spans [] s1 t1 h1) ?_
  intro spanIds s2 ids t2 h2
  obtain ⟨rfl, h2⟩ := h2
  refine alike_bind _ _ _ _ s2 t2 _ _ _ (forEachResolved_relabels event.runId scenarioId
    (Prepared event.runId spanIds) (fun parent => ∀ id ∈ parent, ∃ entry ∈ spanIds, entry.2 = id)
    _ _ (fun span s t => parentIdOf_relabels event.runId scenarioId spanIds span.parentSpanId _ s t)
    (fun span parent s t hfound => update_relabels db hdb event.runId scenarioId .spanParent
      (fun store => { store with
        spans := setSpanParent event.runId span.spanId parent store.spans })
      (fun _ => rfl) _ _ (fun w hw => ?_) (fun _ hw => hw.consistent) s t) event.spans s2 t2 h2) ?_
  · apply setSpanParent_prepared event.runId spanIds w hw span.spanId parent
    intro id hid
    obtain ⟨entry, hentry, rfl⟩ := hfound id hid
    exact hw.spans entry hentry
  intro _ s3 _ t3 h3
  refine alike_bind _ _ _ _ s3 t3 _ _ _ (calls_relabels db hdb event.runId scenarioId spanIds
    Telemetry.ToolCall.spanId .toolCall (fun toolCall spanId store => { store with
      toolCalls := upsertToolCallRow event.runId toolCall spanId store.toolCalls })
    (fun _ _ _ => rfl) (fun toolCall spanId w hw hspan =>
      upsertToolCallRow_prepared event.runId spanIds w hw toolCall spanId hspan)
    event.toolCalls s3 t3 h3) ?_
  intro _ s4 _ t4 h4
  refine alike_bind _ _ _ _ s4 t4 _ _ _ (calls_relabels db hdb event.runId scenarioId spanIds
    Telemetry.LLMCall.spanId .llmCall (fun llmCall spanId store => { store with
      llmCalls := upsertLlmCallRow event.runId llmCall spanId store.llmCalls })
    (fun _ _ _ => rfl) (fun llmCall spanId w hw hspan =>
      upsertLlmCallRow_prepared event.runId spanIds w hw llmCall spanId hspan)
    event.llmCalls s4 t4 h4) ?_
  intro _ s5 _ t5 h5
  refine update_relabels db hdb event.runId scenarioId .usageTotals (refreshUsageRow event.runId)
    (refreshUsageRow_relabelled event.runId scenarioId) _ _ (fun w hw => ?_)
    (fun _ hw => hw.consistent) s5 t5 h5
  have hrefreshed := refreshUsageRow_prepared event.runId spanIds w hw event.runId
  exact ⟨hrefreshed.consistent, hrefreshed.run, nofun⟩

/-- Two sessions without a transaction after the ingestion of one snapshot under two ids. -/
structure Reported (runId : String) (scenarioId : Option String) (u v : DbSession) : Prop where
  closed : u.inTransaction = false
  consistent : u.committed.Consistent
  run : runId ∈ u.committed.runIds
  same : v.tidied = { u.tidied with
    committed := relabelled runId scenarioId u.committed
    working := relabelled runId scenarioId u.committed }

/-- Two ingestions that the database admits both end alike. -/
theorem ingestRunEvent_reported (s t : DbSession) (hsame : s.tidied = t.tidied)
    (hconsistent : s.committed.Consistent)
    (hadmits : s.inTransaction = false → Admits event s.committed)
    (hadmits' : t.inTransaction = false → Admits (withScenario scenarioId event) t.committed) :
    EndAlike (ingestRunEvent db event) (ingestRunEvent db (withScenario scenarioId event)) s t
      (fun _ u _ v => Reported event.runId scenarioId u v) fun _ u v => u.tidied = v.tidied := by
  have hopen := inTransaction_congr s t hsame
  have hopened := opened_congr s t hsame
  have hcommitted := committed_congr s t hsame
  have htransaction : EndAlike
      (transaction .invalidRequest (ingestStatements db event (db.clock s.statements)))
      (transaction .invalidRequest
        (ingestStatements db (withScenario scenarioId event) (db.clock s.statements))) s t
      (fun _ u _ v => Reported event.runId scenarioId u v) fun _ u v => u.tidied = v.tidied := by
    cases ho : s.inTransaction with
    | true =>
      exact .error _ s t (transaction_already_open _ _ s ho)
        (transaction_already_open _ _ t (hopen.symm.trans ho)) hsame
    | false =>
      have ho' := hopen.symm.trans ho
      apply alike_transaction _ _ _ _ _ _ _ ho ho'
      rw [← hopened]
      have hadmitted := hadmits' ho'
      rw [← hcommitted] at hadmitted
      have hbody := ingestStatements_relabels db hdb event scenarioId (db.clock s.statements) s.opened
        rfl hconsistent (hadmits ho) hadmitted
      apply alike_mono _ _ _ _ _ _ _ _ hbody
      · intro _ u _ v h
        obtain ⟨rfl, huopen, hleft, _⟩ := h
        have hview := view_of_open u huopen
        refine ⟨rfl, ?_, ?_, ?_⟩
        · rw [hview]
          exact hleft.consistent
        · rw [hview]
          exact hleft.run
        · simp only [Session.tidied, Session.view, huopen, if_true, Bool.false_eq_true, if_false]
      · exact fun _ _ _ h => h
  refine alike_bind _ _ _ _ s t (fun now u now' v =>
    now = db.clock s.statements ∧ now' = db.clock s.statements ∧ u = s ∧ v = t) _ _ ?_ ?_
  · refine .ok _ s _ t rfl rfl ⟨rfl, ?_, rfl, rfl⟩
    rw [statements_congr s t hsame]
  intro now u now' v hreturned
  obtain ⟨rfl, rfl, rfl, rfl⟩ := hreturned
  refine alike_bind _ _ _ _ u v _ _ _ htransaction ?_
  intro _ u' _ v' hreturned
  exact .ok _ u' _ v' rfl rfl hreturned

end Ingest

end ObsPlatform.Ingestion
