import ObsPlatform.Ingestion.Concurrent
import ObsPlatform.Platform.ReadBack
import ObsPlatform.Platform.Repeatable

/-!
# Reading a run while it is ingested

Both readers send one statement after another, and ingestions may commit between any
two of them: the run's row is read from `stores 0`, its spans from `stores 1`, its tool
calls from `stores 2`, its LLM calls from `stores 3`.
-/

namespace ObsPlatform.Platform

open Telemetry Db UnitOfWork Evaluation Ingestion Routes Stateful

/-! ### The readers, cut at their statements -/

abbrev SessionThread (α : Type) := Thread Statement Error DbSession α

section Threads
variable (db : Database)

/- The queries both readers send after the first. -/
def fetchThread {α : Type} (runId : String)
    (assemble : List Db.Span → List Db.ToolCall → List Db.LLMCall → SessionThread α) :
    SessionThread α := do
  let spans ← .atomic .read
    (readOrdered db fun plan store => plan.spans.arrange (spansOf runId store))
  let toolCalls ← .atomic .read
    (readOrdered db fun plan store => plan.toolCalls.arrange (toolCallsOf runId store))
  let llmCalls ← .atomic .read
    (readOrdered db fun plan store => plan.llmCalls.arrange (llmCallsOf runId store))
  assemble spans toolCalls llmCalls

def evaluationRunViewThread (runId : String) : SessionThread (Option EvaluationRunView) := do
  let run ← .atomic .read (selectAgentRun db runId)
  match run with
  | none => pure none
  | some run =>
    fetchThread db runId fun spans toolCalls llmCalls => do
      let view ← .done (assembleView run spans toolCalls llmCalls)
      return some view

def getRunThread (runId : String) : SessionThread RunDetailResponse := do
  let run ← .atomic .read (selectAgentRun db runId)
  match run with
  | none => throw (.other "HTTPException" "404: run not found")
  | some run =>
    fetchThread db runId fun spans toolCalls llmCalls => do
      let runFailure ← .atomic .read (read db fun store => store.runFailures.find? runId)
      let evaluationSummary ← .atomic .read (latestEvaluationSummary db runId)
      .done (assembleDetail run spans toolCalls llmCalls runFailure evaluationSummary)

theorem done_run {α : Type} (result : Except Error α) :
    (.done result : SessionThread α).run = raising result := by
  cases result <;> rfl

theorem evaluationRunViewThread_run (runId : String) :
    (evaluationRunViewThread db runId).run = evaluationRunView db runId := by
  rw [evaluationRunViewThread, Thread.run_bind, Thread.run_atomic, evaluationRunView]
  congr 1
  funext run
  cases run with
  | none => rfl
  | some run =>
    simp only [fetchThread, Thread.run_bind, Thread.run_atomic, done_run, Thread.run_pure]

theorem getRunThread_run (runId : String) : (getRunThread db runId).run = getRun db runId := by
  rw [getRunThread, Thread.run_bind, Thread.run_atomic, getRun]
  congr 1
  funext run
  cases run with
  | none => rfl
  | some run => simp only [fetchThread, Thread.run_bind, Thread.run_atomic, done_run]

end Threads

/-! ### Ingestions that commit meanwhile -/

/-- An ingestion takes the committed store from the one to the other. -/
def IngestionCommits (event : ExtendedRunEvent) (store store' : Store) : Prop :=
  Validated event ∧ ∃ db result s t, s.committed = store ∧
    ingestRunEvent db event s = .ok result t ∧ t.committed = store'

/-- Any number of ingestions commit, each meeting a condition on its snapshot and the
store it commits to. -/
def IngestionsCommit (allowed : ExtendedRunEvent → Store → Prop) : Store → Store → Prop :=
  Relation.ReflTransGen fun store store' =>
    ∃ event, allowed event store ∧ IngestionCommits event store store'

/-- The snapshot brings the run no span that is not stored yet. -/
def AddsNoSpan (runId : String) (event : ExtendedRunEvent) (store : Store) : Prop :=
  event.runId = runId →
    ∀ span ∈ event.spans, (store.spans.find? (runId, span.spanId)).isSome

def OtherRun (runId : String) (event : ExtendedRunEvent) (_ : Store) : Prop :=
  event.runId ≠ runId

theorem commits_ingested (event : ExtendedRunEvent) (store store' : Store)
    (h : IngestionCommits event store store') : ∃ now, Ingested event now store store' := by
  obtain ⟨hv, db, result, s, t, rfl, hr, rfl⟩ := h
  obtain ⟨_, _, heffect⟩ := ingestRunEvent_returns db event s t result hr
  exact ⟨_, ingestEffect_ingested event _ _ _ heffect ((validated_iff event).mp hv).1⟩

/-- What every allowed ingestion preserves, all of them preserve. -/
theorem commits_induction (allowed : ExtendedRunEvent → Store → Prop) (P : Store → Prop)
    (hP : ∀ event now store store', allowed event store → Ingested event now store store' →
      P store → P store')
    (store store' : Store) (h : IngestionsCommit allowed store store') (hstore : P store) :
    P store' := by
  induction h with
  | refl => exact hstore
  | tail _ hstep ih =>
    obtain ⟨event, hallowed, hcommits⟩ := hstep
    obtain ⟨now, hi⟩ := commits_ingested event _ _ hcommits
    exact hP event now _ _ hallowed hi ih

theorem commits_referencesClosed (allowed : ExtendedRunEvent → Store → Prop)
    (store store' : Store) (h : IngestionsCommit allowed store store')
    (hclosed : ReferencesClosed store) : ReferencesClosed store' :=
  commits_induction allowed ReferencesClosed
    (fun event now store store' _ hi => ingest_referencesClosed event now store store' hi)
    store store' h hclosed

/-- The run has no span it did not have before. -/
theorem commits_pointsInto (runId : String) (store store' : Store)
    (h : IngestionsCommit (AddsNoSpan runId) store store') (id : ℕ)
    (hp : PointsInto store' runId id) : PointsInto store runId id := by
  have hkept := commits_induction (AddsNoSpan runId)
    (fun w => ∀ id, PointsInto w runId id → PointsInto store runId id) ?_ store store' h
    fun _ hp => hp
  · exact hkept id hp
  · intro event now w w' hallowed hi ih id hp
    apply ih
    obtain ⟨spanId, hs⟩ := hp
    refine ⟨spanId, ?_⟩
    cases hold : w.spans.find? (runId, spanId) with
    | some span =>
      have hpointer : spanPointer w runId spanId = some span.id := by
        rw [spanPointer, hold, Option.map_some]
      rw [hi.spanIds runId spanId span.id hpointer] at hs
      rw [hpointer]
      exact hs
    | none =>
      have hother : ∀ span ∈ event.spans, (runId, spanId) ≠ (event.runId, span.spanId) := by
        intro span hm he
        obtain ⟨hrun, rfl⟩ := Prod.mk.inj he
        have hstored := hallowed hrun.symm span hm
        rw [hold] at hstored
        cases hstored
      rw [spanPointer, hi.otherSpans _ hother, hold] at hs
      cases hs

/-- The rows a reader of the run fetches are the same in both stores. -/
structure SameRun (runId : String) (store store' : Store) : Prop where
  agentRun : store'.agentRuns.find? runId = store.agentRuns.find? runId
  spans : (spansOf runId store').Perm (spansOf runId store)
  toolCalls : toolCallsOf runId store' = toolCallsOf runId store
  llmCalls : llmCallsOf runId store' = llmCallsOf runId store

theorem sameRun_trans (runId : String) (a b c : Store) (hab : SameRun runId a b)
    (hbc : SameRun runId b c) : SameRun runId a c where
  agentRun := hbc.agentRun.trans hab.agentRun
  spans := hbc.spans.trans hab.spans
  toolCalls := hbc.toolCalls.trans hab.toolCalls
  llmCalls := hbc.llmCalls.trans hab.llmCalls

theorem spansOf_nodup (runId : String) (store : Store) : (spansOf runId store).Nodup := by
  have hrows : store.spans.rows.Nodup := List.Nodup.of_map _ store.spans.distinct
  exact hrows.filter _

theorem spansOf_perm (runId : String) (store store' : Store)
    (h : ∀ spanId, store'.spans.find? (runId, spanId) = store.spans.find? (runId, spanId)) :
    (spansOf runId store').Perm (spansOf runId store) := by
  rw [List.perm_ext_iff_of_nodup (spansOf_nodup runId store') (spansOf_nodup runId store)]
  intro span
  have hstored (w : Store) : span ∈ spansOf runId w ↔
      w.spans.find? (runId, span.spanId) = some span ∧ span.runId = runId := by
    rw [mem_spansOf, and_congr_left_iff]
    rintro rfl
    rw [w.spans.toTable.find?_eq_some_iff]
    exact (and_iff_left rfl).symm
  rw [hstored store', hstored store, h span.spanId]

/-- Ingesting one run leaves the rows of every other. -/
theorem ingestEffect_sameRun (runId : String) (event : ExtendedRunEvent) (now : Timestamp)
    (store store' : Store) (hother : event.runId ≠ runId)
    (h : ingestEffect event now store = .ok store') : SameRun runId store store' where
  agentRun := by rw [ingestEffect_agentRuns event now store store' h, if_neg hother.symm]
  spans := spansOf_perm runId store store' fun _ =>
    ingestEffect_otherSpans event now store store' h _ fun _ _ he =>
      hother (Prod.mk.inj he).1.symm
  toolCalls := (ingestEffect_otherUsage event now store store' h runId hother.symm).1
  llmCalls := (ingestEffect_otherUsage event now store store' h runId hother.symm).2

theorem ingest_sameRun (runId : String) (event : ExtendedRunEvent) (now : Timestamp)
    (store store' : Store) (hother : event.runId ≠ runId) (hi : Ingested event now store store') :
    SameRun runId store store' where
  agentRun := hi.otherAgentRuns runId hother.symm
  spans := spansOf_perm runId store store' fun _ =>
    hi.otherSpans _ fun _ _ he => hother (Prod.mk.inj he).1.symm
  toolCalls := (hi.otherUsage runId hother.symm).1
  llmCalls := (hi.otherUsage runId hother.symm).2

theorem commits_sameRun (runId : String) (store store' : Store)
    (h : IngestionsCommit (OtherRun runId) store store') : SameRun runId store store' := by
  refine commits_induction (OtherRun runId) (SameRun runId store) ?_ store store' h
    ⟨rfl, List.Perm.refl _, rfl, rfl⟩
  intro event now w w' hother hi hw
  exact sameRun_trans runId _ w w' hw (ingest_sameRun runId event now w w' hother hi)

/-! ### What the readers fetch -/

section Seeing
variable (db : Database) (hreads : ∀ n w w', db.backend.verdict n .read w w' = none)
  (stores : ℕ → Store) {β : Type}

/-- The store patched together from the tables as each was read. -/
def patched : Store :=
  { stores 0 with
    spans := (stores 1).spans
    toolCalls := (stores 2).toolCalls
    llmCalls := (stores 3).llmCalls }

theorem view_install (store : Store) (s : DbSession) :
    (committedPart.install store s).view = store := by
  cases hs : s.inTransaction <;> simp [committedPart, Session.view, hs]

include hreads

theorem seeing_read {α : Type} (f : Store → α) (next : α → SessionThread β) (n : ℕ) (s : DbSession) :
    ∃ t, (Thread.atomic .read (read db f) >>= next).seeing committedPart stores n s =
      (next (f (stores n))).seeing committedPart stores (n + 1) t := by
  have hr := read_accepted db hreads f (committedPart.install (stores n) s)
  rw [view_install] at hr
  exact ⟨_, Thread.seeing_atomic committedPart stores .read _ next n s _ _ hr⟩

omit stores in
theorem readOrdered_accepted {α : Type} (f : Plan db.collation → Store → α) (s : DbSession) :
    readOrdered db f s = .ok (f (db.plan s.statements) s.view) (s.spoken s.view) :=
  read_accepted db hreads (f (db.plan s.statements)) s

theorem seeing_ordered {ρ : Type} {le : ρ → ρ → Prop} (order : Plan db.collation → OrderBy le)
    (select : Store → List ρ) (next : List ρ → SessionThread β) (n : ℕ) (s : DbSession) :
    ∃ rows t, rows.Perm (select (stores n)) ∧ rows.Pairwise le ∧
      (Thread.atomic .read (readOrdered db fun plan store =>
        (order plan).arrange (select store)) >>= next).seeing committedPart stores n s =
      (next rows).seeing committedPart stores (n + 1) t := by
  have hr := readOrdered_accepted db hreads
    (fun plan store => (order plan).arrange (select store)) (committedPart.install (stores n) s)
  rw [view_install] at hr
  exact ⟨_, _, (order _).perm _, (order _).sorted _,
    Thread.seeing_atomic committedPart stores .read _ next n s _ _ hr⟩

theorem seeing_select (runId : String) (next : Option AgentRun → SessionThread β) (s : DbSession) :
    ∃ t, (Thread.atomic .read (selectAgentRun db runId) >>= next).seeing committedPart stores 0 s =
      (next ((stores 0).agentRuns.find? runId)).seeing committedPart stores 1 t :=
  seeing_read db hreads stores (fun store => store.agentRuns.find? runId) next 0 s

/-- What the queries of both readers fetch. -/
theorem seeing_fetched (runId : String)
    (assemble : List Db.Span → List Db.ToolCall → List Db.LLMCall → SessionThread β) (s : DbSession) :
    ∃ spanRows toolCallRows llmCallRows t,
      Fetched db.collation (patched stores) runId spanRows toolCallRows llmCallRows ∧
      (fetchThread db runId assemble).seeing committedPart stores 1 s =
        (assemble spanRows toolCallRows llmCallRows).seeing committedPart stores 4 t := by
  obtain ⟨spanRows, s1, hspans, hspanOrder, h1⟩ :=
    seeing_ordered db hreads stores Plan.spans (spansOf runId) (fun spans => do
      let toolCalls ← .atomic .read
        (readOrdered db fun plan store => plan.toolCalls.arrange (toolCallsOf runId store))
      let llmCalls ← .atomic .read
        (readOrdered db fun plan store => plan.llmCalls.arrange (llmCallsOf runId store))
      assemble spans toolCalls llmCalls) 1 s
  obtain ⟨toolCallRows, s2, htools, htoolOrder, h2⟩ :=
    seeing_ordered db hreads stores Plan.toolCalls (toolCallsOf runId) (fun toolCalls => do
      let llmCalls ← .atomic .read
        (readOrdered db fun plan store => plan.llmCalls.arrange (llmCallsOf runId store))
      assemble spanRows toolCalls llmCalls) 2 s1
  obtain ⟨llmCallRows, s3, hllms, hllmOrder, h3⟩ :=
    seeing_ordered db hreads stores Plan.llmCalls (llmCallsOf runId)
      (assemble spanRows toolCallRows) 3 s2
  exact ⟨spanRows, toolCallRows, llmCallRows, s3,
    ⟨hspans, hspanOrder, htools, htoolOrder, hllms, hllmOrder⟩, h1.trans (h2.trans h3)⟩

section Stored
variable (runId : String) (run : AgentRun) (hrun : (stores 0).agentRuns.find? runId = some run)
  (s : DbSession)
include hrun

theorem evaluationRunViewThread_seeing : ∃ spanRows toolCallRows llmCallRows,
    Fetched db.collation (patched stores) runId spanRows toolCallRows llmCallRows ∧
      (evaluationRunViewThread db runId).seeing committedPart stores 0 s =
        (assembleView run spanRows toolCallRows llmCallRows).map some := by
  obtain ⟨t, hselect⟩ := seeing_select db hreads stores runId (fun found => match found with
    | none => pure none
    | some run => fetchThread db runId fun spans toolCalls llmCalls => do
      let view ← .done (assembleView run spans toolCalls llmCalls)
      return some view) s
  rw [hrun] at hselect
  obtain ⟨spanRows, toolCallRows, llmCallRows, u, hf, hfetched⟩ :=
    seeing_fetched db hreads stores runId (fun spans toolCalls llmCalls => do
      let view ← .done (assembleView run spans toolCalls llmCalls)
      return some view) t
  refine ⟨spanRows, toolCallRows, llmCallRows, hf, (hselect.trans hfetched).trans ?_⟩
  cases assembleView run spanRows toolCallRows llmCallRows <;> rfl

theorem getRunThread_seeing : ∃ spanRows toolCallRows llmCallRows failure summary,
    Fetched db.collation (patched stores) runId spanRows toolCallRows llmCallRows ∧
      (getRunThread db runId).seeing committedPart stores 0 s =
        assembleDetail run spanRows toolCallRows llmCallRows failure summary := by
  let assemble (run : AgentRun) (spans : List Db.Span) (toolCalls : List Db.ToolCall)
      (llmCalls : List Db.LLMCall) : SessionThread RunDetailResponse := do
    let runFailure ← .atomic .read (read db fun store => store.runFailures.find? runId)
    let evaluationSummary ← .atomic .read (latestEvaluationSummary db runId)
    .done (assembleDetail run spans toolCalls llmCalls runFailure evaluationSummary)
  obtain ⟨t, hselect⟩ := seeing_select db hreads stores runId (fun found => match found with
    | none => throw (.other "HTTPException" "404: run not found")
    | some run => fetchThread db runId (assemble run)) s
  rw [hrun] at hselect
  obtain ⟨spanRows, toolCallRows, llmCallRows, u, hf, hfetched⟩ :=
    seeing_fetched db hreads stores runId (assemble run) t
  obtain ⟨u1, hfailure⟩ := seeing_read db hreads stores
    (fun store => store.runFailures.find? runId) (fun runFailure => do
      let evaluationSummary ← .atomic .read (latestEvaluationSummary db runId)
      .done (assembleDetail run spanRows toolCallRows llmCallRows runFailure evaluationSummary)) 4 u
  obtain ⟨summary, u2, hsummary⟩ : ∃ summary u2,
      latestEvaluationSummary db runId (committedPart.install (stores 5) u1) = .ok summary u2 :=
    ⟨_, _, bind_of_ok _ _ _ _ _ (readOrdered_accepted db hreads _ _)⟩
  have hended := Thread.seeing_atomic committedPart stores Statement.read _
    (fun evaluationSummary => .done (assembleDetail run spanRows toolCallRows llmCallRows
      ((stores 4).runFailures.find? runId) evaluationSummary)) 5 u1 u2 summary hsummary
  exact ⟨spanRows, toolCallRows, llmCallRows, (stores 4).runFailures.find? runId, summary, hf,
    hselect.trans (hfetched.trans (hfailure.trans hended))⟩

/-- Both readers succeed and show the run as this store has it. -/
def BothShow (store : Store) : Prop :=
  (∃ view, (evaluationRunViewThread db runId).seeing committedPart stores 0 s = .ok (some view) ∧
    ViewShows db.collation store run view) ∧
  ∃ detail, (getRunThread db runId).seeing committedPart stores 0 s = .ok detail ∧
    DetailShows db.collation store run detail

/-- Rows of a store whose pointers all lead somewhere. -/
theorem bothShow_of_fetched (store : Store) (hclosed : RunClosed store runId)
    (hsame : ∀ spanRows toolCallRows llmCallRows,
      Fetched db.collation (patched stores) runId spanRows toolCallRows llmCallRows →
        Fetched db.collation store runId spanRows toolCallRows llmCallRows) :
    BothShow db stores runId run s store := by
  have hkey : run.runId = runId := Table.key_of_find? _ _ run hrun
  subst hkey
  constructor
  · obtain ⟨spanRows, toolCallRows, llmCallRows, hpatched, hended⟩ :=
      evaluationRunViewThread_seeing db hreads stores run.runId run hrun s
    have hf := hsame _ _ _ hpatched
    obtain ⟨view, hview, htrajectory, hnumbered⟩ :=
      assembleView_decodes db.collation store run spanRows toolCallRows llmCallRows hf hclosed
    rw [hview] at hended
    refine ⟨view, hended, ?_, hnumbered⟩
    rw [htrajectory]
    exact fetched_shows db.collation store run spanRows toolCallRows llmCallRows hf
  · obtain ⟨spanRows, toolCallRows, llmCallRows, failure, summary, hpatched, hended⟩ :=
      getRunThread_seeing db hreads stores run.runId run hrun s
    have hf := hsame _ _ _ hpatched
    obtain ⟨detail, hdetail, htrajectory, hnumbered⟩ :=
      assembleDetail_decodes db.collation store run spanRows toolCallRows llmCallRows hf hclosed
        failure summary
    rw [hdetail] at hended
    refine ⟨detail, hended, ?_, hnumbered⟩
    rw [htrajectory]
    exact fetched_shows db.collation store run spanRows toolCallRows llmCallRows hf

end Stored

end Seeing

/-! ### Reads are torn by new spans only -/

/-- Calls stored later point to spans read before, when no span came in between. -/
theorem patched_closed (stores : ℕ → Store) (runId : String) (hclosed : ReferencesClosed (stores 0))
    (hamid : ∀ n, IngestionsCommit (fun _ _ => True) (stores n) (stores (n + 1)))
    (htools : IngestionsCommit (AddsNoSpan runId) (stores 1) (stores 2))
    (hllms : IngestionsCommit (AddsNoSpan runId) (stores 2) (stores 3)) :
    RunClosed (patched stores) runId := by
  have hall : ∀ n, ReferencesClosed (stores n) := by
    intro n
    induction n with
    | zero => exact hclosed
    | succ n ih => exact commits_referencesClosed _ _ _ (hamid n) ih
  have hpatched : ∀ id, PointsInto (stores 1) runId id → PointsInto (patched stores) runId id :=
    fun _ hp => hp
  have hback := commits_pointsInto runId _ _ htools
  have hback' := commits_pointsInto runId _ _ hllms
  refine ⟨?_, ?_, ?_⟩
  · intro span hm hrun id hp
    exact hpatched id (((hall 1).closed runId).parents span hm hrun id hp)
  · intro call hm hrun
    exact hpatched _ (hback _ (((hall 2).closed runId).toolCalls call hm hrun))
  · intro call hm hrun
    exact hpatched _ (hback _ (hback' _ (((hall 3).closed runId).llmCalls call hm hrun)))

theorem fetched_sameRun (c : Collation) (stores : ℕ → Store) (runId : String)
    (hspans : SameRun runId (stores 0) (stores 1)) (htools : SameRun runId (stores 1) (stores 2))
    (hllms : SameRun runId (stores 2) (stores 3)) (spanRows : List Db.Span)
    (toolCallRows : List Db.ToolCall) (llmCallRows : List Db.LLMCall)
    (hf : Fetched c (patched stores) runId spanRows toolCallRows llmCallRows) :
    Fetched c (stores 0) runId spanRows toolCallRows llmCallRows := by
  have htwo := sameRun_trans runId _ _ _ hspans htools
  have hthree := sameRun_trans runId _ _ _ htwo hllms
  exact
    { hf with
      spans := hf.spans.trans hspans.spans
      toolCalls := htwo.toolCalls ▸ hf.toolCalls
      llmCalls := hthree.llmCalls ▸ hf.llmCalls }

/-- Ingestions commit between the statements of a reader. While none of them brings the
run a new span between the reader's spans and its LLM calls, no lookup misses; while none
is of the run itself, the reader shows one committed store. -/
theorem reads_amid_ingestions (db : Database)
    (hreads : ∀ n w w', db.backend.verdict n .read w w' = none) (stores : ℕ → Store)
    (hstored : Stored (stores 0))
    (hamid : ∀ n, IngestionsCommit (fun _ _ => True) (stores n) (stores (n + 1)))
    (runId : String) (run : AgentRun) (hrun : (stores 0).agentRuns.find? runId = some run)
    (s : DbSession) :
    (IngestionsCommit (AddsNoSpan runId) (stores 1) (stores 2) →
      IngestionsCommit (AddsNoSpan runId) (stores 2) (stores 3) →
        BothShow db stores runId run s (patched stores)) ∧
    (IngestionsCommit (OtherRun runId) (stores 0) (stores 1) →
      IngestionsCommit (OtherRun runId) (stores 1) (stores 2) →
        IngestionsCommit (OtherRun runId) (stores 2) (stores 3) →
          BothShow db stores runId run s (stores 0)) := by
  have hclosed := stored_referencesClosed (stores 0) hstored
  constructor
  · intro htools hllms
    have hpatched := patched_closed stores runId hclosed hamid htools hllms
    exact bothShow_of_fetched db hreads stores runId run hrun s _ hpatched
      fun _ _ _ hf => hf
  · intro hspans htools hllms
    apply bothShow_of_fetched db hreads stores runId run hrun s _ (hclosed.closed runId)
    exact fetched_sameRun db.collation stores runId (commits_sameRun runId _ _ hspans)
      (commits_sameRun runId _ _ htools) (commits_sameRun runId _ _ hllms)

/-! ### One ingestion during one read -/

/- The store changes before statement number `k`. -/
def changedAt (k : ℕ) (before after : Store) (n : ℕ) : Store := if n < k then before else after

theorem changedAt_commits (allowed : ExtendedRunEvent → Store → Prop) (k : ℕ) (before after : Store)
    (event : ExtendedRunEvent) (hallowed : allowed event before)
    (h : IngestionCommits event before after) (n : ℕ) :
    IngestionsCommit allowed (changedAt k before after n) (changedAt k before after (n + 1)) := by
  unfold changedAt
  by_cases hnext : n + 1 < k
  · have hn : n < k := by omega
    rw [if_pos hnext, if_pos hn]
    exact .refl
  · by_cases hn : n < k
    · rw [if_neg hnext, if_pos hn]
      exact .single ⟨event, hallowed, h⟩
    · rw [if_neg hnext, if_neg hn]
      exact .refl

theorem served_commits (event : ExtendedRunEvent) (hv : Validated event) (store : Store)
    (hguard : pendingAfterTerminal event store = .ok ()) :
    IngestionCommits event store (served .plain (.ingest event hv) store) := by
  obtain ⟨store', hstore⟩ := ingestEffect_total event (Database.plain.clock 0) store
    ((validated_iff event).mp hv).1 hguard
  obtain ⟨t, hr, _⟩ := ingestRunEvent_accepted .plain plain_accepts event (Session.fresh store) rfl
    store' hstore
  refine ⟨hv, .plain, _, Session.fresh store, t, rfl, hr, ?_⟩
  simp only [served, serve, after, bind_of_ok _ _ _ _ _ hr]
  rfl

/- The run after its first snapshot. -/
def readStore : Store :=
  served .plain (.ingest (successEvent "run-1") (successEvent_validated "run-1")) Store.empty

/- A failure of the run, told by a snapshot of the same spans, and a success of another. -/
def failedStore : Store :=
  served .plain (.ingest (errorEvent "run-1") (errorEvent_validated "run-1")) readStore

def otherStore : Store :=
  served .plain (.ingest (successEvent "run-2") (successEvent_validated "run-2")) readStore

theorem reads_amid_ingestions_interrupted :
    ∃ run, readStore.agentRuns.find? "run-1" = some run ∧
      BothShow .plain (changedAt 2 readStore failedStore) "run-1" run (Session.fresh readStore)
        (patched (changedAt 2 readStore failedStore)) ∧
      BothShow .plain (changedAt 2 readStore otherStore) "run-1" run (Session.fresh readStore)
        readStore := by
  have hstored : Stored readStore := .request _ .empty _ _
  have hfailed : IngestionCommits (errorEvent "run-1") readStore failedStore :=
    served_commits _ (errorEvent_validated "run-1") readStore rfl
  have hother : IngestionCommits (successEvent "run-2") readStore otherStore :=
    served_commits _ (successEvent_validated "run-2") readStore rfl
  have hspans : AddsNoSpan "run-1" (errorEvent "run-1") readStore := fun _ => by decide +kernel
  have hnext : OtherRun "run-1" (successEvent "run-2") readStore := by
    show "run-2" ≠ "run-1"
    decide
  obtain ⟨run, hrun⟩ := Option.isSome_iff_exists.mp
    (show (readStore.agentRuns.find? "run-1").isSome by decide +kernel)
  refine ⟨run, hrun, ?_, ?_⟩
  · have hshows := reads_amid_ingestions .plain (fun _ _ _ => rfl)
      (changedAt 2 readStore failedStore) hstored (changedAt_commits _ 2 _ _ _ trivial hfailed)
      "run-1" run hrun (Session.fresh readStore)
    exact hshows.1 (changedAt_commits _ 2 _ _ _ hspans hfailed 1)
      (changedAt_commits _ 2 _ _ _ hspans hfailed 2)
  · have hshows := reads_amid_ingestions .plain (fun _ _ _ => rfl)
      (changedAt 2 readStore otherStore) hstored (changedAt_commits _ 2 _ _ _ trivial hother)
      "run-1" run hrun (Session.fresh readStore)
    exact hshows.2 (changedAt_commits _ 2 _ _ _ hnext hother 0)
      (changedAt_commits _ 2 _ _ _ hnext hother 1) (changedAt_commits _ 2 _ _ _ hnext hother 2)

/- One more tool call, in a span of its own. -/
def extendedEvent : ExtendedRunEvent :=
  { successEvent "run-1" with
    spans := (successEvent "run-1").spans ++ [sampleSpan "resumed" none 3]
    toolCalls := (successEvent "run-1").toolCalls ++
      [{ sampleToolCall "create_work_order" with toolCallId := "tool-2", spanId := "resumed" }] }

def extendedStore : Store := served .plain (.ingest extendedEvent rfl) readStore

theorem extended_commits : IngestionCommits extendedEvent readStore extendedStore :=
  served_commits extendedEvent rfl readStore rfl

theorem error_of_map {α β : Type} (f : α → β) (result : Except Error α) (e : Error)
    (h : result.map f = .error e) : result = .error e := by
  cases result with
  | ok a => cases h
  | error e' =>
    cases h
    rfl

/- The tool calls a view lists, and how many it says there are. -/
def toolCallCounts (view : EvaluationRunView) : ℕ × ℤ :=
  (view.toolCalls.length, view.usageTotalToolCalls)

/-- A view of a store lists the tool calls of that store and counts those of its row. -/
theorem viewShows_counts (c : Collation) (store : Store) (run : AgentRun)
    (view : EvaluationRunView) (h : ViewShows c store run view) :
    toolCallCounts view = ((toolCallsOf run.runId store).length, run.usageTotalToolCalls) := by
  have hlength := h.trajectory.toolCalls.length_eq
  have husage := congrArg (fun event : ExtendedRunEvent => event.usage.totalToolCalls)
    h.trajectory.fields
  simp only [viewTrajectory, storedTrajectory, detailTrajectory, runDetailOf,
    List.length_map] at hlength
  rw [toolCallCounts, hlength]
  exact congrArg _ husage

/-- The ingestion commits between the spans and the tool calls, and a lookup misses; it
commits between the run's row and the spans, and the view is that of neither store. -/
theorem reads_torn_by_ingestion :
    Stored readStore ∧
    (∀ k n, IngestionsCommit (fun event _ => event.runId = "run-1")
      (changedAt k readStore extendedStore n) (changedAt k readStore extendedStore (n + 1))) ∧
    (evaluationRunViewThread .plain "run-1").seeing committedPart
      (changedAt 2 readStore extendedStore) 0 (Session.fresh readStore) =
        .error (.keyError "5") ∧
    (getRunThread .plain "run-1").seeing committedPart
      (changedAt 2 readStore extendedStore) 0 (Session.fresh readStore) =
        .error (.keyError "5") ∧
    ∃ view, (evaluationRunViewThread .plain "run-1").seeing committedPart
        (changedAt 1 readStore extendedStore) 0 (Session.fresh readStore) = .ok (some view) ∧
      ∀ n run, (changedAt 1 readStore extendedStore n).agentRuns.find? "run-1" = some run →
        ¬ ViewShows Database.plain.collation (changedAt 1 readStore extendedStore n) run view := by
  have hstored : Stored readStore := .request _ .empty _ _
  have hcounts : ((evaluationRunViewThread .plain "run-1").seeing committedPart
      (changedAt 1 readStore extendedStore) 0 (Session.fresh readStore)).map
        (Option.map toolCallCounts) = .ok (some (2, 1)) := by decide +kernel
  have hbefore : (toolCallsOf "run-1" readStore).length = 1 := by decide +kernel
  have hafter : (extendedStore.agentRuns.find? "run-1").map AgentRun.usageTotalToolCalls =
      some 2 := by decide +kernel
  refine ⟨hstored, fun k n => changedAt_commits _ k _ _ extendedEvent rfl extended_commits n,
    error_of_map (fun _ => ()) _ _ (by decide +kernel),
    error_of_map (fun _ => ()) _ _ (by decide +kernel), ?_⟩
  cases hr : (evaluationRunViewThread .plain "run-1").seeing committedPart
      (changedAt 1 readStore extendedStore) 0 (Session.fresh readStore) with
  | error e =>
    rw [hr] at hcounts
    cases hcounts
  | ok returned =>
    rw [hr] at hcounts
    cases returned with
    | none => cases hcounts
    | some view =>
      have hview : toolCallCounts view = (2, 1) := by
        simpa [Except.map] using hcounts
      refine ⟨view, rfl, ?_⟩
      intro n run hrun hshows
      have hcount := viewShows_counts _ _ run view hshows
      rw [hview, Table.key_of_find? _ _ run hrun, Prod.mk.injEq] at hcount
      cases n with
      | zero => exact absurd (hcount.1.trans hbefore) (by decide)
      | succ n =>
        rw [show changedAt 1 readStore extendedStore (n + 1) = extendedStore from rfl] at hrun
        rw [hrun, Option.map_some, Option.some.injEq] at hafter
        exact absurd (hcount.2.trans hafter) (by decide)

end ObsPlatform.Platform
