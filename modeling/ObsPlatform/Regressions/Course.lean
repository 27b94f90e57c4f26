import ObsPlatform.Platform.Growth
import ObsPlatform.Regressions.Persistence
import ObsPlatform.Regressions.SlotIds

/-!
# The course of a regression

A row of regression_runs is created pending. Its runner marks it running, and from there
completed or failed; nothing else in the row ever changes, and nobody else changes it. The
runs linked to it sit in its slots.
-/

namespace ObsPlatform.Regressions

open Telemetry Db UnitOfWork Evaluation Ingestion Platform

/-! ### One row -/

/-- As `create_regression_run` leaves it. -/
structure Registered (row : RegressionRun) : Prop where
  status : row.status = .pending
  startedAt : row.startedAt = none
  completedAt : row.completedAt = none

inductive StatusStep : RegressionRun → RegressionRun → Prop where
  | start (row : RegressionRun) (now : Timestamp) (h : row.status = .pending) :
      StatusStep row { row with status := .running, startedAt := some now, completedAt := none }
  | complete (row : RegressionRun) (now : Timestamp) (h : row.status = .running) :
      StatusStep row { row with status := .completed, completedAt := some now }
  | fail (row : RegressionRun) (now : Timestamp) (h : row.status = .running) :
      StatusStep row { row with status := .failed, completedAt := some now }

def Terminal (status : RegressionStatus) : Prop := status = .completed ∨ status = .failed

/-- The times of a row are those of its status. -/
structure RegressionLifecycle (row : RegressionRun) : Prop where
  started : row.status = .pending ↔ row.startedAt = none
  ended : Terminal row.status ↔ row.completedAt.isSome

/-- What the later row has kept of the earlier one. -/
structure Continues (row row' : RegressionRun) : Prop where
  metadata : row' = { row with
    status := row'.status, startedAt := row'.startedAt, completedAt := row'.completedAt }
  begun : row.status ≠ .pending → row'.status ≠ .pending ∧ row'.startedAt = row.startedAt
  terminal : Terminal row.status → row' = row

theorem registered_lifecycle (row : RegressionRun) (h : Registered row) :
    RegressionLifecycle row := by
  constructor
  · simp [h.status, h.startedAt]
  · simp [h.status, h.completedAt, Terminal]

theorem statusStep_lifecycle (row row' : RegressionRun) (hstep : StatusStep row row')
    (h : RegressionLifecycle row) : RegressionLifecycle row' := by
  have hstarted := h.started
  cases hstep with
  | start now hstatus => exact ⟨by simp, by simp [Terminal]⟩
  | complete now hstatus =>
    rw [hstatus] at hstarted
    exact ⟨by simpa using hstarted, by simp [Terminal]⟩
  | fail now hstatus =>
    rw [hstatus] at hstarted
    exact ⟨by simpa using hstarted, by simp [Terminal]⟩

theorem statusStep_continues (row row' : RegressionRun) (hstep : StatusStep row row') :
    Continues row row' := by
  cases hstep with
  | start now hstatus =>
    refine ⟨rfl, fun h => absurd hstatus h, fun h => ?_⟩
    rw [Terminal, hstatus] at h
    rcases h with h | h <;> cases h
  | complete now hstatus =>
    refine ⟨rfl, fun _ => ⟨nofun, rfl⟩, fun h => ?_⟩
    rw [Terminal, hstatus] at h
    rcases h with h | h <;> cases h
  | fail now hstatus =>
    refine ⟨rfl, fun _ => ⟨nofun, rfl⟩, fun h => ?_⟩
    rw [Terminal, hstatus] at h
    rcases h with h | h <;> cases h

theorem continues_refl (row : RegressionRun) : Continues row row :=
  ⟨rfl, fun h => ⟨h, rfl⟩, fun _ => rfl⟩

theorem continues_trans (a b c : RegressionRun) (hab : Continues a b) (hbc : Continues b c) :
    Continues a c where
  metadata := by
    have hb := hab.metadata
    rw [hb] at hbc
    exact hbc.metadata
  begun := by
    intro h
    obtain ⟨hb, hstarted⟩ := hab.begun h
    obtain ⟨hc, hstarted'⟩ := hbc.begun hb
    exact ⟨hc, hstarted'.trans hstarted⟩
  terminal := by
    intro h
    have hb := hab.terminal h
    subst hb
    exact hbc.terminal h

theorem continues_of_steps (row row' : RegressionRun)
    (h : Relation.ReflTransGen StatusStep row row') : Continues row row' := by
  induction h with
  | refl => exact continues_refl row
  | tail _ hstep ih => exact continues_trans _ _ _ ih (statusStep_continues _ _ hstep)

/-! ### The table -/

/-- One change of one row; only its owner moves it. -/
inductive RowStep (owned : Prop) : Option RegressionRun → Option RegressionRun → Prop where
  | create (row : RegressionRun) (h : Registered row) : RowStep owned none (some row)
  | move (row row' : RegressionRun) (howned : owned) (h : StatusStep row row') :
      RowStep owned (some row) (some row')

/-- The changes of regression_runs by a side that owns the rows `may` names. -/
def Course (may : ℕ → Prop) (store store' : Store) : Prop :=
  ∀ id, Relation.ReflTransGen (RowStep (may id)) (store.regressionRuns.find? id)
    (store'.regressionRuns.find? id)

section Course
variable (may : ℕ → Prop)

theorem course_same (store store' : Store) (h : store'.regressionRuns = store.regressionRuns) :
    Course may store store' := by
  intro id
  rw [h]

theorem course_refl (store : Store) : Course may store store := course_same may store store rfl

theorem course_trans (a b c : Store) (hab : Course may a b) (hbc : Course may b c) :
    Course may a c :=
  fun id => (hab id).trans (hbc id)

theorem course_mono (may' : ℕ → Prop) (hmay : ∀ id, may id → may' id) (store store' : Store)
    (h : Course may store store') : Course may' store store' := by
  intro id
  refine Relation.ReflTransGen.mono ?_ _ _ (h id)
  intro a b hstep
  cases hstep with
  | create row hrow => exact .create row hrow
  | move row row' howned hrow => exact .move row row' (hmay id howned) hrow

theorem course_insert (ids : RegressionIds) (libraries : JudgeLibraries)
    (values : NewRegressionRun) (store : Store) :
    Course may store (insertRegressionRun ids libraries values store) := by
  intro id
  rw [insertRegressionRun_find?]
  by_cases hid : id = ids.next store
  · rw [if_pos hid, hid, ids.unused store]
    exact .single (.create _ ⟨rfl, rfl, rfl⟩)
  · rw [if_neg hid]

theorem course_update (regressionRunId : ℕ) (howned : may regressionRunId)
    (status : RegressionStatus) (startedAt : Option Timestamp → Option Timestamp)
    (completedAt : Option Timestamp) (store : Store) (row : RegressionRun)
    (hrow : store.regressionRuns.find? regressionRunId = some row)
    (hstep : StatusStep row { row with
      status := status, startedAt := startedAt row.startedAt, completedAt := completedAt }) :
    Course may store (updateRegressionRun regressionRunId status startedAt completedAt store) := by
  intro id
  have hfind := Table.find?_modify store.regressionRuns regressionRunId id
    (fun row => { row with
      status := status, startedAt := startedAt row.startedAt, completedAt := completedAt })
    fun _ h => h
  by_cases hid : id = regressionRunId
  · subst hid
    rw [if_pos rfl, hrow] at hfind
    rw [hrow]
    exact .single (hfind ▸ .move _ _ howned hstep)
  · rw [if_neg hid] at hfind
    exact hfind ▸ .refl

theorem course_grows (store : Store) (regressionRuns : Table RegressionRun.id)
    (h : Course may store { store with regressionRuns := regressionRuns }) :
    Grows store { store with regressionRuns := regressionRuns } := by
  apply regressionRuns_grows
  intro id hsome
  have hcourse := h id
  change Relation.ReflTransGen _ _ (regressionRuns.find? id) at hcourse
  generalize store.regressionRuns.find? id = a, regressionRuns.find? id = b at hcourse hsome
  induction hcourse with
  | refl => exact hsome
  | tail _ hstep _ => cases hstep <;> rfl

variable (store store' : Store) (h : Course may store store')
include h

/-- A stored row stays stored, and only its status and its times move on. -/
theorem course_row (id : ℕ) (row : RegressionRun)
    (hrow : store.regressionRuns.find? id = some row) :
    ∃ row', store'.regressionRuns.find? id = some row' ∧
      Relation.ReflTransGen StatusStep row row' := by
  have hcourse := h id
  rw [hrow] at hcourse
  generalize store'.regressionRuns.find? id = found at hcourse ⊢
  induction hcourse with
  | refl => exact ⟨row, rfl, .refl⟩
  | tail _ hstep ih =>
    obtain ⟨mid, rfl, hmid⟩ := ih
    cases hstep with
    | move _ row' _ hstatus => exact ⟨row', rfl, hmid.tail hstatus⟩

/-- A row that appeared was created pending, and moved on from there. -/
theorem course_created (id : ℕ) (row' : RegressionRun)
    (hnone : store.regressionRuns.find? id = none)
    (hrow' : store'.regressionRuns.find? id = some row') :
    ∃ row, Registered row ∧ Relation.ReflTransGen StatusStep row row' := by
  have hcourse := h id
  rw [hnone, hrow'] at hcourse
  have hall : ∀ found, Relation.ReflTransGen (RowStep (may id)) none found →
      ∀ row', found = some row' → ∃ row, Registered row ∧
        Relation.ReflTransGen StatusStep row row' := by
    intro found hfound
    induction hfound with
    | refl => exact nofun
    | tail _ hstep ih =>
      intro row' hsome
      cases hsome
      cases hstep with
      | create _ hregistered => exact ⟨row', hregistered, .refl⟩
      | move mid _ _ hstatus =>
        obtain ⟨row, hregistered, hmid⟩ := ih mid rfl
        exact ⟨row, hregistered, hmid.tail hstatus⟩
  exact hall _ hcourse row' rfl

/-- A row that is not the side's own stays as it is. -/
theorem course_unowned (id : ℕ) (hid : ¬ may id) (row : RegressionRun)
    (hrow : store.regressionRuns.find? id = some row) :
    store'.regressionRuns.find? id = some row := by
  have hcourse := h id
  rw [hrow] at hcourse
  generalize store'.regressionRuns.find? id = found at hcourse ⊢
  induction hcourse with
  | refl => rfl
  | tail _ hstep ih =>
    subst ih
    cases hstep with
    | move _ _ howned _ => exact absurd howned hid

theorem course_lifecycle (hlive : ∀ id row, store.regressionRuns.find? id = some row →
      RegressionLifecycle row) (id : ℕ) (row : RegressionRun)
    (hrow : store'.regressionRuns.find? id = some row) : RegressionLifecycle row := by
  have hsteps : ∀ a b, Relation.ReflTransGen StatusStep a b → RegressionLifecycle a →
      RegressionLifecycle b := by
    intro a b hab ha
    induction hab with
    | refl => exact ha
    | tail _ hstep ih => exact statusStep_lifecycle _ _ hstep ih
  cases hbefore : store.regressionRuns.find? id with
  | none =>
    obtain ⟨first, hregistered, hmoved⟩ := course_created may store store' h id row hbefore hrow
    exact hsteps first row hmoved (registered_lifecycle first hregistered)
  | some old =>
    obtain ⟨row', hrow', hmoved⟩ := course_row may store store' h id old hbefore
    rw [hrow, Option.some.injEq] at hrow'
    exact hsteps old row (hrow'.symm ▸ hmoved) (hlive id old hbefore)

end Course

/-- The regression has not been started, if it is there at all. -/
def Waiting (regressionRunId : ℕ) (store : Store) : Prop :=
  ∀ row, store.regressionRuns.find? regressionRunId = some row → row.status = .pending

theorem course_waiting (may : ℕ → Prop) (store store' : Store) (h : Course may store store')
    (regressionRunId : ℕ) (hmay : ¬ may regressionRunId) (hwaiting : Waiting regressionRunId store) :
    Waiting regressionRunId store' := by
  intro row' hrow'
  cases hrow : store.regressionRuns.find? regressionRunId with
  | some row =>
    rw [course_unowned may store store' h _ hmay row hrow, Option.some.injEq] at hrow'
    rw [← hrow']
    exact hwaiting row hrow
  | none =>
    have hcourse := h regressionRunId
    rw [hrow, hrow'] at hcourse
    cases Relation.ReflTransGen.cases_tail hcourse with
    | inl heq => cases heq
    | inr hlast =>
      obtain ⟨mid, _, hstep⟩ := hlast
      cases hstep with
      | create _ hregistered => exact hregistered.status
      | move _ _ howned _ => exact absurd howned hmay

/-- The runner of this regression is at work. -/
def Underway (row : RegressionRun) (store : Store) : Prop :=
  ∃ now, store.regressionRuns.find? row.id =
    some { row with status := .running, startedAt := some now, completedAt := none }

theorem course_underway (may : ℕ → Prop) (row : RegressionRun) (store store' : Store)
    (h : Course may store store') (hmay : ¬ may row.id) (hunderway : Underway row store) :
    Underway row store' := by
  obtain ⟨now, hrow⟩ := hunderway
  exact ⟨now, course_unowned may store store' h row.id hmay _ hrow⟩

end ObsPlatform.Regressions
