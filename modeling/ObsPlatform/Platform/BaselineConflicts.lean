import ObsPlatform.Ingestion.Concurrent
import ObsPlatform.Lib.UniqueClaim
import ObsPlatform.Routes.Regressions

/-!
# Baselines registered at the same time

Requests for a baseline, their statements in any order. Each looks for a committed baseline
before it inserts its own; an INSERT waits for the uncommitted baseline of another request
and is refused by the partial index once a baseline is committed. One of the requests
succeeds. The others are conflicts, unless one of them looked while another was between its
check and its commit: the index then refuses it, and nobody handles that error.
-/

namespace ObsPlatform.Platform

open Db UnitOfWork Stateful Evaluation Ingestion Regressions Routes

/-! ### A request as a thread -/

inductive BaselineStep where
  | check
  | insert
  | commit
  | rollback
  | refresh
  | close
  deriving Repr, DecidableEq

abbrev RequestThread (α : Type) := Thread BaselineStep Error DbSession α

def insertsBaseline (step : BaselineStep) : Bool := step = .insert

/-- The transaction has a baseline that is not committed. -/
def holdsBaseline (s : DbSession) : Bool := baselineExists s.view && !baselineExists s.committed

section Threads
variable (db : Database) (ids : RegressionIds) (libraries : JudgeLibraries)

def closedThread (record : RegressionRun) : RequestThread RegressionCreated := do
  .atomic .close commit
  return regressionCreated record

def refreshedThread (id : ℕ) : RequestThread RegressionCreated := do
  let record ← .atomic .refresh (refreshRegressionRun db id)
  closedThread record

def insertedThread (id : ℕ) : RequestThread RegressionCreated := do
  .atomic .commit commit
  refreshedThread db id

def refusedThread {α : Type} (e : Error) : RequestThread α := do
  .atomic .rollback rollback
  throw e

def insertThread (payload : RegressionCreateRequest) : RequestThread RegressionCreated := do
  let id ← tryCatch (.atomic .insert (insertion db ids libraries (newRegressionRun payload)))
    refusedThread
  insertedThread db id

def createRegressionThread (payload : RegressionCreateRequest) :
    RequestThread RegressionCreated := do
  let found ← if payload.isBaseline then .atomic .check (read db baselineExists) else pure false
  if found then throw baselineConflict
  else insertThread db ids libraries payload

/-- Alone, the thread is the endpoint. -/
theorem createRegressionThread_run (payload : RegressionCreateRequest) :
    (createRegressionThread db ids libraries payload).run =
      createRegression db ids libraries payload := by
  have hinsert : (insertThread db ids libraries payload).run = (do
      let record ← createRegressionRun db ids libraries (newRegressionRun payload)
      return regressionCreated record) := by
    simp only [insertThread, insertedThread, refreshedThread, closedThread, refusedThread,
      Thread.run_bind, Thread.run_tryCatch, Thread.run_atomic, Thread.run_pure, Thread.run_throw,
      createRegressionRun, bind_assoc, pure_bind]
  have hfound : ∀ found : Bool,
      (if found then throw baselineConflict else insertThread db ids libraries payload).run =
        if found then throw baselineConflict else (insertThread db ids libraries payload).run := by
    intro found
    cases found with
    | true => rfl
    | false => rfl
  cases hbaseline : payload.isBaseline with
  | true =>
    simp only [createRegressionThread, createRegression, hbaseline, if_true, Thread.run_bind,
      Thread.run_atomic, hfound, hinsert]
  | false =>
    simp only [createRegressionThread, createRegression, hbaseline, Bool.false_eq_true, if_false,
      Thread.run_bind, Thread.run_pure, hfound, hinsert]

/-! ### Its steps -/

theorem createRegressionThread_eq (payload : RegressionCreateRequest)
    (h : payload.isBaseline = true) :
    createRegressionThread db ids libraries payload =
      (Thread.atomic .check (read db baselineExists)).followedBy (Thread.onReturn fun found =>
        if found then throw baselineConflict else insertThread db ids libraries payload) := by
  rw [createRegressionThread, h]
  rfl

def answeredInsertion : Except Error ℕ → RequestThread RegressionCreated
  | .ok id => insertedThread db id
  | .error e => refusedThread e

theorem insertThread_eq (payload : RegressionCreateRequest) :
    insertThread db ids libraries payload =
      (Thread.atomic .insert (insertion db ids libraries (newRegressionRun payload))).followedBy
        (answeredInsertion db) := by
  show ((Thread.atomic _ _).followedBy _).followedBy _ = _
  rw [Thread.followedBy_assoc]
  congr 1
  funext result
  cases result with
  | ok id => rfl
  | error e => rfl

/-! ### Its next statement -/

theorem createRegressionThread_label (payload : RegressionCreateRequest)
    (h : payload.isBaseline = true) :
    (createRegressionThread db ids libraries payload).label? = some .check := by
  rw [createRegressionThread_eq db ids libraries payload h]
  rfl

theorem insertThread_label (payload : RegressionCreateRequest) :
    (insertThread db ids libraries payload).label? = some .insert := rfl

theorem insertedThread_label (id : ℕ) : (insertedThread db id).label? = some .commit := rfl

theorem refreshedThread_label (id : ℕ) : (refreshedThread db id).label? = some .refresh := rfl

theorem closedThread_label (record : RegressionRun) :
    (closedThread record).label? = some .close := rfl

theorem refusedThread_label (e : Error) :
    (refusedThread e : RequestThread RegressionCreated).label? = some .rollback := rfl

end Threads

/-! ### Where a request is -/

/-- An uncommitted baseline whose commit leaves a consistent store. -/
structure Holds (id : ℕ) (s : DbSession) : Prop where
  isOpen : s.inTransaction = true
  consistent : s.working.Consistent
  baseline : baselineExists s.working = true
  stored : ∃ row, s.working.regressionRuns.find? id = some row

inductive StandsAt (db : Database) (ids : RegressionIds) (libraries : JudgeLibraries)
    (payload : RegressionCreateRequest) (shared : Store) (s : DbSession) :
    RequestThread RegressionCreated → Stage → Prop where
  | checking :
    StandsAt db ids libraries payload shared s (createRegressionThread db ids libraries payload)
      .checking
  | inserting :
    StandsAt db ids libraries payload shared s (insertThread db ids libraries payload) .inserting
  | holding (id : ℕ) (h : Holds id s) :
    StandsAt db ids libraries payload shared s (insertedThread db id) .holding
  | refreshing (id : ℕ) (row : RegressionRun) (h : shared.regressionRuns.find? id = some row) :
    StandsAt db ids libraries payload shared s (refreshedThread db id) .won
  | closing (row : RegressionRun) :
    StandsAt db ids libraries payload shared s (closedThread row) .won
  | succeeded (response : RegressionCreated) :
    StandsAt db ids libraries payload shared s (.done (.ok response)) .won
  | conflicted :
    StandsAt db ids libraries payload shared s (.done (.error baselineConflict)) .turnedAway
  | rollingBack (message : String) :
    StandsAt db ids libraries payload shared s (refusedThread (integrityError message)) .clashed
  | failed (message : String) :
    StandsAt db ids libraries payload shared s (.done (.error (integrityError message))) .clashed

/-- Only a request that is reading its row back depends on the committed store. -/
theorem standsAt_shared (db : Database) (ids : RegressionIds) (libraries : JudgeLibraries)
    (payload : RegressionCreateRequest) (shared shared' : Store) (s : DbSession)
    (t : RequestThread RegressionCreated) (stage : Stage) (hstage : stage ≠ .won)
    (h : StandsAt db ids libraries payload shared s t stage) :
    StandsAt db ids libraries payload shared' s t stage := by
  cases h with
  | checking => exact .checking
  | inserting => exact .inserting
  | holding id h => exact .holding id h
  | refreshing => exact absurd rfl hstage
  | closing => exact absurd rfl hstage
  | succeeded => exact absurd rfl hstage
  | conflicted => exact .conflicted
  | rollingBack message => exact .rollingBack message
  | failed message => exact .failed message

section Concurrent
variable {ι : Type} [DecidableEq ι] (db : Database) (ids : ι → RegressionIds)
  (libraries : JudgeLibraries) (payloads : ι → RegressionCreateRequest)

abbrev BaselineRequests (ι : Type) := Contention ι BaselineStep Store Error DbSession RegressionCreated

/-- The requests before any of them has taken a step. -/
def baselineRequests (store : Store) : BaselineRequests ι :=
  .start store (fun _ => Session.fresh store) fun i =>
    createRegressionThread db (ids i) libraries (payloads i)

def serveTurn (w : BaselineRequests ι) (i : ι) : Option (BaselineRequests ι) :=
  w.step committedPart insertsBaseline holdsBaseline i

/-- The requests as claims of the baseline. -/
structure AsClaims (before : Bool) (w : BaselineRequests ι) (c : Claims ι) : Prop where
  settling : Claims.Settling before c
  taken : c.taken = baselineExists w.shared
  holder : c.holder = w.writer
  consistent : w.shared.Consistent
  request : ∀ i, StandsAt db (ids i) libraries (payloads i) w.shared (w.sessions i) (w.threads i)
    (c.stage i)

omit [DecidableEq ι] in
theorem asClaims_start (store : Store) (h : store.Consistent) :
    AsClaims db ids libraries payloads (baselineExists store)
      (baselineRequests db ids libraries payloads store) (Claims.start (baselineExists store)) where
  settling := Claims.settling_start (baselineExists store)
  taken := rfl
  holder := rfl
  consistent := h
  request := fun _ => .checking

/-! ### One turn -/

omit [DecidableEq ι] in
theorem not_waits (w : BaselineRequests ι) (i : ι) (label : BaselineStep) (h : label ≠ .insert) :
    ¬ w.Waits insertsBaseline i label :=
  fun hwaits => h (of_decide_eq_true hwaits.1)

omit [DecidableEq ι] in
theorem not_waits_of_none (w : BaselineRequests ι) (i : ι) (label : BaselineStep)
    (h : w.writer = none) : ¬ w.Waits insertsBaseline i label := by
  intro hwaits
  rw [Contention.Waits, h] at hwaits
  cases hwaits.2.1

theorem installed_view (store : Store) (s : DbSession) :
    (committedPart.install store s).view = store := by
  cases hopen : s.inTransaction with
  | true => exact view_of_open _ hopen
  | false => exact view_of_closed _ hopen

theorem read_healthy (hdb : Healthy db) {α : Type} (f : Store → α) (s : DbSession) :
    Db.read db f s = .ok (f s.view) (s.spoken s.view) := by
  simp only [Db.read, query, execute, hdb.reads, Session.spoken]

/-- The INSERT of a baseline is refused when there is one, and accepted otherwise. -/
theorem insertion_answer (hdb : Healthy db) (ids : RegressionIds) (values : NewRegressionRun)
    (s : DbSession) (hconsistent : s.view.Consistent) (hbaseline : values.isBaseline = true) :
    (baselineExists s.view = false ∧ insertion db ids libraries values s =
      .ok (ids.next s.view) (s.spoken (insertRegressionRun ids libraries values s.view))) ∨
    (baselineExists s.view = true ∧ ∃ message, insertion db ids libraries values s =
      .error (integrityError message) (s.spoken s.view)) := by
  have hinsert := consistent_insert_iff ids libraries values s.view hconsistent
  cases hexists : baselineExists s.view with
  | false =>
    have haccepted := hdb.accepts s.statements .regressionRun s.view _
      (hinsert.mpr fun _ => hexists)
    left
    refine ⟨rfl, ?_⟩
    simp only [insertion, execute, haccepted, Session.spoken]
  | true =>
    have hbroken : ¬ (insertRegressionRun ids libraries values s.view).Consistent := by
      intro hconsistent'
      have hfalse := hinsert.mp hconsistent' hbaseline
      rw [hexists] at hfalse
      cases hfalse
    obtain ⟨message, hrefused⟩ := hdb.refuses s.statements .regressionRun s.view _ (by decide)
      hbroken
    right
    refine ⟨rfl, message, ?_⟩
    simp only [insertion, execute, hrefused, Session.spoken]

theorem standsAt_stepped (w : BaselineRequests ι) (c : Claims ι) (i : ι) (s : DbSession)
    (t : RequestThread RegressionCreated) (stage : Stage)
    (hstands : StandsAt db (ids i) libraries (payloads i) s.committed s t stage)
    (hothers : ∀ j, j ≠ i → StandsAt db (ids j) libraries (payloads j) s.committed (w.sessions j)
      (w.threads j) (c.stage j)) (j : ι) :
    StandsAt db (ids j) libraries (payloads j) (w.stepped committedPart holdsBaseline i s t).shared
      ((w.stepped committedPart holdsBaseline i s t).sessions j)
      ((w.stepped committedPart holdsBaseline i s t).threads j) ((c.moved i stage).stage j) := by
  show StandsAt db (ids j) libraries (payloads j) s.committed (Function.update w.sessions i s j)
    (Function.update w.threads i t j) _
  rw [Claims.moved_stage]
  by_cases hj : j = i
  · subst hj
    rw [Function.update_self, Function.update_self, if_pos rfl]
    exact hstands
  · rw [Function.update_of_ne hj, Function.update_of_ne hj, if_neg hj]
    exact hothers j hj

variable (before : Bool) (w : BaselineRequests ι) (c : Claims ι)
  (h : AsClaims db ids libraries payloads before w c) (i : ι)
include h

omit [DecidableEq ι] in
theorem not_writer (hstage : c.stage i ≠ .holding) : w.writer ≠ some i := by
  intro hwriter
  rw [← h.holder] at hwriter
  exact hstage ((h.settling.held i).mpr hwriter)

/-- A step that leaves the committed store and the writer alone. -/
theorem asClaims_quiet (hwriter : w.writer ≠ some i) (s : DbSession)
    (t : RequestThread RegressionCreated) (stage : Stage) (hcommitted : s.committed = w.shared)
    (hview : s.view = w.shared) (hsettling : Claims.Settling before (c.moved i stage))
    (hstands : StandsAt db (ids i) libraries (payloads i) w.shared s t stage) :
    AsClaims db ids libraries payloads before (w.stepped committedPart holdsBaseline i s t)
      (c.moved i stage) where
  settling := hsettling
  taken := by
    show c.taken = baselineExists s.committed
    rw [hcommitted]
    exact h.taken
  holder := by
    have hclaims : holdsBaseline s = false := by
      rw [holdsBaseline, hview, hcommitted, Bool.and_not_self]
    show c.holder = w.writerAfter holdsBaseline i s
    rw [Contention.writerAfter, hclaims, if_neg Bool.false_ne_true, if_neg hwriter]
    exact h.holder
  consistent := by
    show s.committed.Consistent
    rw [hcommitted]
    exact h.consistent
  request := by
    apply standsAt_stepped
    · rw [hcommitted]
      exact hstands
    · intro j _
      rw [hcommitted]
      exact h.request j

/-- A quiet step of a thread that need not wait. -/
theorem asClaims_quietTurn {β : Type} (hwriter : w.writer ≠ some i) (label : BaselineStep)
    (x : SessionM β) (k : Except Error β → RequestThread RegressionCreated)
    (hthread : w.threads i = (Thread.atomic label x).followedBy k)
    (hwaits : ¬ w.Waits insertsBaseline i label) (result : Except Error β) (s : DbSession)
    (hresult : resultOf x (committedPart.install w.shared (w.sessions i)) = result)
    (hafter : after x (committedPart.install w.shared (w.sessions i)) = s)
    (hcommitted : s.committed = w.shared) (hview : s.view = w.shared) (stage : Stage)
    (hsettling : Claims.Settling before (c.moved i stage))
    (hstands : StandsAt db (ids i) libraries (payloads i) w.shared s (k result) stage) :
    AsClaims db ids libraries payloads before ((serveTurn w i).getD w) (c.moved i stage) := by
  have hseen : w.seen committedPart i = committedPart.install w.shared (w.sessions i) :=
    if_neg hwriter
  have hturn := w.step_atomic committedPart insertsBaseline holdsBaseline i label x k hthread hwaits
  rw [hseen, hresult, hafter] at hturn
  rw [serveTurn, hturn]
  exact asClaims_quiet db ids libraries payloads before w c h i hwriter s (k result) stage hcommitted
    hview hsettling hstands

/-- A statement that reads, on a session that holds nothing. -/
theorem asClaims_readTurn {β : Type} (hdb : Healthy db) (hstage : c.stage i ≠ .holding)
    (label : BaselineStep) (hlabel : label ≠ .insert) (f : Store → β)
    (k : Except Error β → RequestThread RegressionCreated)
    (hthread : w.threads i = (Thread.atomic label (Db.read db f)).followedBy k) (stage : Stage)
    (hsettling : Claims.Settling before (c.moved i stage))
    (hstands : ∀ s, StandsAt db (ids i) libraries (payloads i) w.shared s (k (.ok (f w.shared)))
      stage) :
    AsClaims db ids libraries payloads before ((serveTurn w i).getD w) (c.moved i stage) := by
  have hwriter := not_writer db ids libraries payloads before w c h i hstage
  have hread := read_healthy db hdb f (committedPart.install w.shared (w.sessions i))
  rw [installed_view] at hread
  apply asClaims_quietTurn db ids libraries payloads before w c h i hwriter label _ k hthread
    (not_waits w i label hlabel) (.ok (f w.shared)) _
    (by rw [resultOf, hread]) (after_ok _ _ _ _ hread) rfl rfl stage hsettling (hstands _)

theorem asClaims_check (hdb : Healthy db) (hbaseline : (payloads i).isBaseline = true)
    (hthread : w.threads i = createRegressionThread db (ids i) libraries (payloads i))
    (hstage : c.stage i = .checking) :
    AsClaims db ids libraries payloads before ((serveTurn w i).getD w) ((c.step i).getD c) := by
  have hstep : c.step i = some (c.moved i (if c.taken then .turnedAway else .inserting)) := by
    simp only [Claims.step, hstage]
  have hsettling := Claims.settling_step before c i _ h.settling hstep
  rw [createRegressionThread_eq db (ids i) libraries (payloads i) hbaseline] at hthread
  rw [hstep]
  apply asClaims_readTurn db ids libraries payloads before w c h i hdb (by simp [hstage]) .check
    (by decide) baselineExists _ hthread _ hsettling
  intro s
  rw [h.taken]
  show StandsAt db (ids i) libraries (payloads i) w.shared s
    (if baselineExists w.shared then throw baselineConflict
      else insertThread db (ids i) libraries (payloads i)) _
  cases hexists : baselineExists w.shared with
  | true => exact .conflicted
  | false => exact .inserting

/-- A step that the claim of the request does not see. -/
theorem asClaims_afterwards {β : Type} (stage : Stage) (hstage : c.stage i = stage)
    (hended : stage.ended = true) (label : BaselineStep) (hlabel : label ≠ .insert) (x : SessionM β)
    (k : Except Error β → RequestThread RegressionCreated)
    (hthread : w.threads i = (Thread.atomic label x).followedBy k) (result : Except Error β)
    (s : DbSession)
    (hresult : resultOf x (committedPart.install w.shared (w.sessions i)) = result)
    (hafter : after x (committedPart.install w.shared (w.sessions i)) = s)
    (hcommitted : s.committed = w.shared) (hview : s.view = w.shared)
    (hstands : StandsAt db (ids i) libraries (payloads i) w.shared s (k result) stage) :
    AsClaims db ids libraries payloads before ((serveTurn w i).getD w) ((c.step i).getD c) := by
  have hsame := c.moved_same i stage hstage
  have hholding : c.stage i ≠ .holding := by
    intro hholding
    rw [← hstage, hholding] at hended
    cases hended
  have hstep : c.step i = none := by
    cases stage <;> simp_all [Claims.step, Stage.ended]
  have hclaims := asClaims_quietTurn db ids libraries payloads before w c h i
    (not_writer db ids libraries payloads before w c h i hholding) label x k hthread
    (not_waits w i label hlabel) result s hresult hafter hcommitted hview
    stage (by rw [hsame]; exact h.settling) hstands
  rw [hsame] at hclaims
  rw [hstep]
  exact hclaims

theorem asClaims_refresh (hdb : Healthy db) (id : ℕ) (row : RegressionRun)
    (hrow : w.shared.regressionRuns.find? id = some row)
    (hthread : w.threads i = refreshedThread db id) (hstage : c.stage i = .won) :
    AsClaims db ids libraries payloads before ((serveTurn w i).getD w) ((c.step i).getD c) := by
  have hread := read_healthy db hdb (fun store => store.regressionRuns.find? id)
    (committedPart.install w.shared (w.sessions i))
  rw [installed_view, hrow] at hread
  have hrefresh : refreshRegressionRun db id (committedPart.install w.shared (w.sessions i)) =
      .ok row ((committedPart.install w.shared (w.sessions i)).spoken w.shared) :=
    bind_of_ok _ _ _ _ _ hread
  exact asClaims_afterwards db ids libraries payloads before w c h i .won hstage rfl .refresh
    (by decide) _
    (Thread.onReturn closedThread) hthread (.ok row) _ (by rw [resultOf, hrefresh])
    (after_ok _ _ _ _ hrefresh) rfl rfl (.closing row)

theorem asClaims_close (row : RegressionRun) (hthread : w.threads i = closedThread row)
    (hstage : c.stage i = .won) :
    AsClaims db ids libraries payloads before ((serveTurn w i).getD w) ((c.step i).getD c) := by
  have hview := installed_view w.shared (w.sessions i)
  exact asClaims_afterwards db ids libraries payloads before w c h i .won hstage rfl .close
    (by decide) commit
    (Thread.onReturn fun _ => .done (.ok (regressionCreated row))) hthread (.ok ()) _ rfl rfl hview
    hview (.succeeded (regressionCreated row))

theorem asClaims_rollback (message : String)
    (hthread : w.threads i = refusedThread (integrityError message))
    (hstage : c.stage i = .clashed) :
    AsClaims db ids libraries payloads before ((serveTurn w i).getD w) ((c.step i).getD c) :=
  asClaims_afterwards db ids libraries payloads before w c h i .clashed hstage rfl .rollback
    (by decide) rollback (Thread.onReturn fun _ => .done (.error (integrityError message))) hthread (.ok ()) _
    rfl rfl rfl rfl (.failed message)

/-! ### The insertion and the commit -/

/-- An accepted insertion makes the request the writer. -/
theorem asClaims_accepted (hwriter : w.writer ≠ some i) (hnone : w.writer = none)
    (hexists : baselineExists w.shared = false) (hstage : c.stage i = .inserting)
    (values : NewRegressionRun) (hvalues : values.isBaseline = true) (x : SessionM ℕ)
    (hinserted : x (committedPart.install w.shared (w.sessions i)) =
      .ok ((ids i).next w.shared) ((committedPart.install w.shared (w.sessions i)).spoken
        (insertRegressionRun (ids i) libraries values w.shared)))
    (hthread : w.threads i = (Thread.atomic .insert x).followedBy (answeredInsertion db)) :
    AsClaims db ids libraries payloads before ((serveTurn w i).getD w) ((c.step i).getD c) := by
  have hstep : c.step i = some { c.moved i .holding with holder := some i } := by
    simp [Claims.step, hstage, h.holder.trans hnone, h.taken.trans hexists]
  have hturn := w.step_atomic committedPart insertsBaseline holdsBaseline i .insert x _ hthread
    (not_waits_of_none w i .insert hnone)
  have hseen : w.seen committedPart i = committedPart.install w.shared (w.sessions i) :=
    if_neg hwriter
  rw [hseen, resultOf, hinserted, after_ok _ _ _ _ hinserted] at hturn
  have hconsistent := (consistent_insert_iff (ids i) libraries values w.shared h.consistent).mpr
    fun _ => hexists
  have hnew : baselineExists (insertRegressionRun (ids i) libraries values w.shared) = true := by
    rw [baselineExists_insert, hexists]
    exact hvalues
  have hrow : (insertRegressionRun (ids i) libraries values w.shared).regressionRuns.find?
      ((ids i).next w.shared) = some (regressionRunRecord libraries values ((ids i).next w.shared)) := by
    rw [insertRegressionRun_find?, if_pos rfl]
  rw [serveTurn, hturn, hstep]
  constructor
  · exact Claims.settling_step before c i _ h.settling hstep
  · exact h.taken
  · show some i = w.writerAfter holdsBaseline i _
    rw [Contention.writerAfter, if_pos]
    show (baselineExists _ && !baselineExists w.shared) = true
    rw [hexists]
    exact congrArg (· && true) hnew
  · exact h.consistent
  · apply standsAt_stepped
    · exact .holding _ ⟨rfl, hconsistent, hnew, _, hrow⟩
    · exact fun j _ => h.request j

theorem asClaims_insert (hdb : Healthy db) (hbaseline : (payloads i).isBaseline = true)
    (hthread : w.threads i = insertThread db (ids i) libraries (payloads i))
    (hstage : c.stage i = .inserting) :
    AsClaims db ids libraries payloads before ((serveTurn w i).getD w) ((c.step i).getD c) := by
  have hwriter := not_writer db ids libraries payloads before w c h i (by simp [hstage])
  rw [insertThread_eq] at hthread
  cases hsome : w.writer with
  | some j =>
    have hholder := h.holder.trans hsome
    have hwaits : w.Waits insertsBaseline i .insert := ⟨rfl, by rw [hsome]; rfl, hwriter⟩
    have hstep : c.step i = none := by simp [Claims.step, hstage, hholder]
    rw [serveTurn, w.step_waits _ _ _ i .insert _ _ hthread hwaits, hstep]
    exact h
  | none =>
    have hview := installed_view w.shared (w.sessions i)
    have hanswer := insertion_answer db libraries hdb (ids i) (newRegressionRun (payloads i))
      (committedPart.install w.shared (w.sessions i)) (by rw [hview]; exact h.consistent) hbaseline
    rw [hview] at hanswer
    rcases hanswer with ⟨hexists, hinserted⟩ | ⟨hexists, message, hrefused⟩
    · exact asClaims_accepted db ids libraries payloads before w c h i hwriter hsome hexists hstage
        _ hbaseline _ hinserted hthread
    · have hstep : c.step i = some (c.moved i .clashed) := by
        simp [Claims.step, hstage, h.holder.trans hsome, h.taken.trans hexists]
      rw [hstep]
      exact asClaims_quietTurn db ids libraries payloads before w c h i hwriter .insert _ _ hthread
        (not_waits_of_none w i .insert hsome) (.error (integrityError message)) _
        (by rw [resultOf, hrefused])
        (after_error _ _ _ _ hrefused) rfl rfl .clashed
        (Claims.settling_step before c i _ h.settling hstep) (.rollingBack message)

theorem asClaims_commit (id : ℕ) (hholds : Holds id (w.sessions i))
    (hthread : w.threads i = insertedThread db id) (hstage : c.stage i = .holding) :
    AsClaims db ids libraries payloads before ((serveTurn w i).getD w) ((c.step i).getD c) := by
  have hwriter : w.writer = some i := by
    rw [← h.holder]
    exact (h.settling.held i).mp hstage
  have hview := view_of_open (w.sessions i) hholds.isOpen
  have hstep : c.step i = some { c.moved i .won with taken := true, holder := none } := by
    simp only [Claims.step, hstage]
  have hseen : w.seen committedPart i = w.sessions i := if_pos hwriter
  have hturn := w.step_atomic committedPart insertsBaseline holdsBaseline i .commit commit
    (Thread.onReturn fun _ => refreshedThread db id) hthread (not_waits w i .commit (by decide))
  have hcommit : (commit : SessionM Unit) (w.sessions i) = .ok () { w.sessions i with
      committed := (w.sessions i).working, inTransaction := false } := by
    rw [← hview]
    rfl
  rw [hseen, resultOf, hcommit, after_ok _ _ _ _ hcommit] at hturn
  rw [serveTurn, hturn, hstep]
  constructor
  · exact Claims.settling_step before c i _ h.settling hstep
  · exact hholds.baseline.symm
  · show none = w.writerAfter holdsBaseline i _
    have hclaims : holdsBaseline { w.sessions i with
        committed := (w.sessions i).working, inTransaction := false } = false := by
      rw [holdsBaseline, view_of_closed _ rfl, Bool.and_not_self]
    rw [Contention.writerAfter, hclaims, if_neg Bool.false_ne_true, if_pos hwriter]
  · exact hholds.consistent
  · apply standsAt_stepped
    · obtain ⟨row, hrow⟩ := hholds.stored
      exact .refreshing id row hrow
    · intro j _
      have huntaken := h.settling.untaken (h.settling.open_of_held i hstage)
      have hnotWon : c.stage j ≠ .won := by
        intro hwon
        have hended := huntaken.2 j
        rw [hwon] at hended
        cases hended
      exact standsAt_shared db (ids j) libraries (payloads j) w.shared _ _ _ _ hnotWon (h.request j)

theorem asClaims_done (result : Except Error RegressionCreated)
    (hthread : w.threads i = .done result) (stage : Stage) (hstage : c.stage i = stage)
    (hended : stage.ended = true) :
    AsClaims db ids libraries payloads before ((serveTurn w i).getD w) ((c.step i).getD c) := by
  have hstep : c.step i = none := by
    cases stage <;> simp_all [Claims.step, Stage.ended]
  rw [serveTurn, w.step_done _ _ _ i result hthread, hstep]
  exact h

omit h in
/-- Every turn of a request is a turn of its claim, or none. -/
theorem asClaims_turn (hdb : Healthy db) (hbaseline : ∀ i, (payloads i).isBaseline = true)
    (w : BaselineRequests ι) (c : Claims ι) (i : ι)
    (h : AsClaims db ids libraries payloads before w c) :
    AsClaims db ids libraries payloads before ((serveTurn w i).getD w) ((c.step i).getD c) := by
  have hstands := h.request i
  generalize hthread : w.threads i = t at hstands
  generalize hstage : c.stage i = stage at hstands
  cases hstands with
  | checking =>
    exact asClaims_check db ids libraries payloads before w c h i hdb (hbaseline i) hthread hstage
  | inserting =>
    exact asClaims_insert db ids libraries payloads before w c h i hdb (hbaseline i) hthread hstage
  | holding id hholds =>
    exact asClaims_commit db ids libraries payloads before w c h i id hholds hthread hstage
  | refreshing id row hrow =>
    exact asClaims_refresh db ids libraries payloads before w c h i hdb id row hrow hthread hstage
  | closing row => exact asClaims_close db ids libraries payloads before w c h i row hthread hstage
  | succeeded response =>
    exact asClaims_done db ids libraries payloads before w c h i _ hthread _ hstage rfl
  | conflicted =>
    exact asClaims_done db ids libraries payloads before w c h i _ hthread _ hstage rfl
  | rollingBack message =>
    exact asClaims_rollback db ids libraries payloads before w c h i message hthread hstage
  | failed message =>
    exact asClaims_done db ids libraries payloads before w c h i _ hthread _ hstage rfl

/-! ### The end of a schedule -/

omit h in
theorem moves_of_label (label : BaselineStep) (hlabel : (w.threads i).label? = some label)
    (hinsert : label ≠ .insert) : serveTurn w i ≠ none :=
  w.step_ne_none committedPart insertsBaseline holdsBaseline i label hlabel
    (not_waits w i label hinsert)

/-- When a request cannot step, neither can its claim. -/
theorem still_of_still (hbaseline : (payloads i).isBaseline = true) (hend : serveTurn w i = none) :
    c.step i = none := by
  have hmoves := fun label hlabel hinsert => moves_of_label w i label hlabel hinsert hend
  have hstands := h.request i
  generalize hthread : w.threads i = t at hstands hmoves
  generalize hstage : c.stage i = stage at hstands
  cases hstands with
  | checking =>
    exact (hmoves .check
      (createRegressionThread_label db (ids i) libraries (payloads i) hbaseline) (by decide)).elim
  | inserting =>
    by_cases hwaits : w.Waits insertsBaseline i .insert
    · have hholder : c.holder.isSome := by
        rw [h.holder]
        exact hwaits.2.1
      simp [Claims.step, hstage, hholder]
    · have hlabel := insertThread_label db (ids i) libraries (payloads i)
      rw [← hthread] at hlabel
      exact absurd hend (w.step_ne_none _ _ _ i .insert hlabel hwaits)
  | holding id => exact (hmoves .commit (insertedThread_label db id) (by decide)).elim
  | refreshing => simp [Claims.step, hstage]
  | closing => simp [Claims.step, hstage]
  | succeeded => simp [Claims.step, hstage]
  | conflicted => simp [Claims.step, hstage]
  | rollingBack => simp [Claims.step, hstage]
  | failed => simp [Claims.step, hstage]

/-- How a request has ended. -/
inductive AnsweredWith (t : RequestThread RegressionCreated) : Stage → Prop where
  | created (response : RegressionCreated) (ht : t = .done (.ok response)) : AnsweredWith t .won
  | conflict (ht : t = .done (.error baselineConflict)) : AnsweredWith t .turnedAway
  | unhandled (message : String) (ht : t = .done (.error (integrityError message))) :
    AnsweredWith t .clashed

/-- A request that cannot step has been answered, when its claim has ended. -/
theorem answeredWith_of_still (hended : (c.stage i).ended = true) (hend : serveTurn w i = none) :
    AnsweredWith (w.threads i) (c.stage i) := by
  have hmoves := fun label hlabel hinsert => moves_of_label w i label hlabel hinsert hend
  have hstands := h.request i
  generalize w.threads i = t at hstands hmoves
  generalize c.stage i = stage at hstands hended
  cases hstands with
  | checking => cases hended
  | inserting => cases hended
  | holding => cases hended
  | refreshing id => exact (hmoves .refresh (refreshedThread_label db id) (by decide)).elim
  | closing row => exact (hmoves .close (closedThread_label row) (by decide)).elim
  | succeeded response => exact .created response rfl
  | conflicted => exact .conflict rfl
  | rollingBack message => exact (hmoves .rollback (refusedThread_label _) (by decide)).elim
  | failed message => exact .unhandled message rfl

end Concurrent

/-! ### Conflicts are reported -/

section Conflicts
variable {ι : Type} [DecidableEq ι]

def Succeeds (w : BaselineRequests ι) (i : ι) : Prop := ∃ response, w.threads i = .done (.ok response)

/-- One baseline at most at any time; of the requests one succeeds, or none when there was a
baseline before, and the others are answered with 409. -/
structure ReportsConflicts (start : BaselineRequests ι) (schedule : List ι) : Prop where
  oneBaseline : ∀ earlier, earlier <+: schedule →
    (baselines (turns serveTurn start earlier).shared).length ≤ 1
  oneSucceeds : baselineExists start.shared = false →
    ∃! i, Succeeds (turns serveTurn start schedule) i
  noneSucceeds : baselineExists start.shared = true →
    ∀ i, ¬ Succeeds (turns serveTurn start schedule) i
  conflicts : ∀ i, ¬ Succeeds (turns serveTurn start schedule) i →
    (turns serveTurn start schedule).threads i = .done (.error baselineConflict)

/-- Between its check and its commit. -/
def InBetween (w : BaselineRequests ι) (i : ι) : Prop :=
  (w.threads i).label? = some .insert ∨ (w.threads i).label? = some .commit

/-- A request that checks finds a baseline committed, or no request between its check and
its commit. -/
def ChecksAlone (w : BaselineRequests ι) (i : ι) : Prop :=
  (w.threads i).label? = some .check → baselineExists w.shared = true ∨ ∀ j, ¬ InBetween w j

instance (w : BaselineRequests ι) (i : ι) : Decidable (InBetween w i) :=
  inferInstanceAs (Decidable (_ ∨ _))

instance [Fintype ι] (w : BaselineRequests ι) (i : ι) : Decidable (ChecksAlone w i) :=
  inferInstanceAs (Decidable (_ → _))

omit [DecidableEq ι] in
theorem succeeds_iff (w : BaselineRequests ι) (i : ι) (stage : Stage)
    (h : AnsweredWith (w.threads i) stage) : Succeeds w i ↔ stage = .won := by
  cases h with
  | created response ht => exact ⟨fun _ => rfl, fun _ => ⟨response, ht⟩⟩
  | conflict ht => simp [Succeeds, ht]
  | unhandled message ht => simp [Succeeds, ht]

section Together
variable (db : Database) (ids : ι → RegressionIds) (libraries : JudgeLibraries)
  (payloads : ι → RegressionCreateRequest) (before : Bool) (w : BaselineRequests ι) (c : Claims ι)
  (h : AsClaims db ids libraries payloads before w c)
  (hbaseline : ∀ i, (payloads i).isBaseline = true)
include h hbaseline

omit [DecidableEq ι] in
theorem label_of_stage (i : ι) :
    ((w.threads i).label? = some .check ↔ c.stage i = .checking) ∧
      (InBetween w i ↔ (c.stage i).pending = true) := by
  have hstands := h.request i
  unfold InBetween
  generalize w.threads i = t at hstands
  generalize c.stage i = stage at hstands
  cases hstands with
  | checking =>
    simp [createRegressionThread_label db (ids i) libraries (payloads i) (hbaseline i),
      Stage.pending]
  | inserting => simp [insertThread_label, Stage.pending]
  | holding id => simp [insertedThread_label, Stage.pending]
  | refreshing id => simp [refreshedThread_label, Stage.pending]
  | closing row => simp [closedThread_label, Stage.pending]
  | succeeded response => simp [Thread.label?, Stage.pending]
  | conflicted => simp [Thread.label?, Stage.pending]
  | rollingBack message => simp [refusedThread_label, Stage.pending]
  | failed message => simp [Thread.label?, Stage.pending]

omit [DecidableEq ι] in
theorem checksAlone_iff (i : ι) : ChecksAlone w i ↔ c.Apart i := by
  have hlabels := label_of_stage db ids libraries payloads before w c h hbaseline
  simp only [ChecksAlone, Claims.Apart, (hlabels i).1, (hlabels _).2, h.taken, Bool.not_eq_true]

end Together

/-- Any number of requests can be served to the end, whatever the order so far. -/
theorem baselineRequests_end [Fintype ι] (start : BaselineRequests ι) (schedule : List ι) :
    ∃ later, ∀ i, serveTurn (turns serveTurn start (schedule ++ later)) i = none := by
  simp only [turns_append]
  exact Contention.exists_standstill committedPart insertsBaseline holdsBaseline _

/-- The requests report their conflicts exactly when every one checks alone. -/
theorem baseline_conflicts_reported_iff [Nonempty ι] (db : Database) (hdb : Healthy db)
    (ids : ι → RegressionIds) (libraries : JudgeLibraries)
    (payloads : ι → RegressionCreateRequest) (hbaseline : ∀ i, (payloads i).isBaseline = true)
    (store : Store) (hstore : store.Consistent) (schedule : List ι)
    (hend : ∀ i, serveTurn
      (turns serveTurn (baselineRequests db ids libraries payloads store) schedule) i = none) :
    ReportsConflicts (baselineRequests db ids libraries payloads store) schedule ↔
      EachTurn serveTurn ChecksAlone (baselineRequests db ids libraries payloads store) schedule := by
  have hturns := turns_simulates serveTurn Claims.step _
    (asClaims_turn db ids libraries payloads (baselineExists store) hdb hbaseline) _ _
    (asClaims_start db ids libraries payloads store hstore)
  have hlast := hturns schedule
  have hstill : ∀ i, (turns Claims.step (Claims.start (baselineExists store)) schedule).step i =
      none := by
    intro i
    exact still_of_still db ids libraries payloads (baselineExists store) _ _ hlast i (hbaseline i)
      (hend i)
  have hanswered := fun i =>
    answeredWith_of_still db ids libraries payloads (baselineExists store) _ _ hlast i
      (Claims.ended_of_still (baselineExists store) _ hlast.settling hstill i) (hend i)
  have hsucceeds := fun i => succeeds_iff _ i _ (hanswered i)
  rw [eachTurn_simulates serveTurn Claims.step _
    (asClaims_turn db ids libraries payloads (baselineExists store) hdb hbaseline) ChecksAlone
    Claims.Apart (fun w c i h => checksAlone_iff db ids libraries payloads (baselineExists store) w c
      h hbaseline i) _ _ (asClaims_start db ids libraries payloads store hstore) schedule,
    ← Claims.unclashed_iff_apart (baselineExists store) schedule hstill]
  constructor
  · intro h i hclashed
    have hreported := h.conflicts i (by simp [hsucceeds i, hclashed])
    have hend := hanswered i
    rw [hclashed, hreported] at hend
    cases hend with
    | unhandled message ht => cases ht
  · intro hnone
    constructor
    · intro earlier _
      exact baselines_length _ (hturns earlier).consistent
    · intro hfree
      obtain ⟨i, hwon, hunique⟩ := Claims.exists_winner _ _ hlast.settling hstill hfree
      exact ⟨i, (hsucceeds i).mpr hwon, fun j hj => hunique j ((hsucceeds j).mp hj)⟩
    · intro htaken i hi
      have hfree := hlast.settling.before_of_won i ((hsucceeds i).mp hi)
      have htaken : baselineExists store = true := htaken
      rw [hfree] at htaken
      cases htaken
    · intro i hi
      rw [hsucceeds i] at hi
      have hend := hanswered i
      generalize hstage : (turns Claims.step (Claims.start (baselineExists store)) schedule).stage i =
        stage at hend hi
      cases hend with
      | created => exact absurd rfl hi
      | conflict ht => exact ht
      | unhandled => exact absurd hstage (hnone i)

end Conflicts

/-! ### Two requests -/

/- One more than the largest id. -/
def sequenceIds : RegressionIds where
  next := fun store => store.regressionRunIds.foldr max 0 + 1
  unused := by
    intro store
    rw [Table.find?_eq_none_iff]
    intro row hrow
    have hbound : ∀ ids : List ℕ, ∀ id ∈ ids, id ≤ ids.foldr max 0 := by
      intro ids
      induction ids with
      | nil => exact fun _ hid => absurd hid List.not_mem_nil
      | cons first ids ih =>
        intro id hid
        rw [List.foldr_cons]
        rcases List.mem_cons.mp hid with hfirst | hlater
        · omega
        · have hle := ih id hlater
          omega
    have hle := hbound store.regressionRunIds row.id (List.mem_map_of_mem hrow)
    omega

def baselineRequest : RegressionCreateRequest where
  agentModelProvider := "openai"
  agentModelName := "gpt-4.1"
  promptVersion := "p1"
  isBaseline := true

def twoBaselines : BaselineRequests Bool :=
  baselineRequests .enforcing (fun _ => sequenceIds) noLibraries (fun _ => baselineRequest)
    Store.empty

def oneAfterTheOther : List Bool := [false, false, false, false, false, true]

theorem baseline_conflicts_reported_one_after_the_other :
    ReportsConflicts twoBaselines oneAfterTheOther := by
  have hend : ∀ i, serveTurn (turns serveTurn twoBaselines oneAfterTheOther) i = none := by
    decide +kernel
  have hchecks : EachTurn serveTurn ChecksAlone twoBaselines oneAfterTheOther := by decide +kernel
  exact (baseline_conflicts_reported_iff .enforcing enforcing_healthy (fun _ => sequenceIds)
    noLibraries (fun _ => baselineRequest) (fun _ => rfl) Store.empty (by decide +kernel)
    oneAfterTheOther hend).mpr hchecks

/- Both look before either has inserted. -/
def bothLookFirst : List Bool := [false, true, false, false, true, true, false, false]

/-- The second request gets the error of the index, which nobody handles. -/
theorem both_look_first_unhandled :
    (∀ i, serveTurn (turns serveTurn twoBaselines bothLookFirst) i = none) ∧
    (turns serveTurn twoBaselines bothLookFirst).threads true =
      .done (.error (integrityError "uq_regression_runs_baseline")) ∧
    ¬ ReportsConflicts twoBaselines bothLookFirst := by
  have hresult : ((turns serveTurn twoBaselines bothLookFirst).threads true).result? =
      some (.error (integrityError "uq_regression_runs_baseline")) := by decide +kernel
  have hthread := Thread.done_of_result? _ _ hresult
  refine ⟨by decide +kernel, hthread, ?_⟩
  intro h
  have hreported := h.conflicts true (by
    intro hsucceeds
    obtain ⟨response, hresponse⟩ := hsucceeds
    rw [hthread] at hresponse
    cases hresponse)
  rw [hthread] at hreported
  cases hreported

end ObsPlatform.Platform
