import ObsPlatform.Ingestion.Refinement

/-!
# The HITL state across snapshots

The guard of `ingestRunEvent` compares an incoming pending snapshot with the state
stored now. A snapshot of an error overwrites an approved or rejected state with
not_required, and after it the guard lets a pending snapshot through.
-/

namespace ObsPlatform.Ingestion

open Telemetry Db UnitOfWork

def storedHitlState (runId : String) (store : Store) : Option HITLState :=
  (store.agentRuns.find? runId).map AgentRun.hitlState

def Terminal (state : Option HITLState) : Prop := state = some .approved ∨ state = some .rejected

/-! ### One call -/

theorem ingestEffect_hitlState (event : ExtendedRunEvent) (now : Timestamp) (store store' : Store)
    (h : ingestEffect event now store = .ok store') (runId : String) :
    storedHitlState runId store' =
      if runId = event.runId then some event.hitl.state else storedHitlState runId store := by
  unfold storedHitlState
  rw [ingestEffect_agentRuns event now store store' h]
  by_cases hr : runId = event.runId
  · rw [if_pos hr, if_pos hr]
    cases store.agentRuns.find? event.runId with
    | none => rfl
    | some old => rfl
  · rw [if_neg hr, if_neg hr]

theorem pending_rejected (event : ExtendedRunEvent) (now : Timestamp) (store : Store)
    (hp : event.hitl.state = .pending) (ht : Terminal (storedHitlState event.runId store)) :
    ∃ state, ingestEffect event now store = .error (movedBackToPending event.runId state) := by
  have hguard : ∃ state, pendingAfterTerminal event store =
      .error (movedBackToPending event.runId state) := by
    unfold pendingAfterTerminal
    simp only [hp, ne_eq, not_true_eq_false, if_false]
    rcases ht with ht | ht
    · rw [storedHitlState] at ht
      rw [ht]
      exact ⟨.approved, rfl⟩
    · rw [storedHitlState] at ht
      rw [ht]
      exact ⟨.rejected, rfl⟩
  obtain ⟨state, hs⟩ := hguard
  refine ⟨state, ?_⟩
  unfold ingestEffect
  rw [hs]
  rfl

/-- Where a call can take a run's stored state. -/
theorem ingestRunEvent_hitlState (db : Database) (event : ExtendedRunEvent) (s : DbSession)
    (hs : s.inTransaction = false) (runId : String) :
    (Stateful.after (ingestRunEvent db event) s).inTransaction = false ∧
      (storedHitlState runId (Stateful.after (ingestRunEvent db event) s).committed =
          storedHitlState runId s.committed ∨
        event.runId = runId ∧
          ¬ (event.hitl.state = .pending ∧ Terminal (storedHitlState runId s.committed)) ∧
          storedHitlState runId (Stateful.after (ingestRunEvent db event) s).committed =
            some event.hitl.state) := by
  cases hr : ingestRunEvent db event s with
  | error e t =>
    rw [Stateful.after_error _ s t e hr]
    obtain ⟨hc, ⟨hopen, _⟩ | ⟨_, ht, _⟩⟩ := ingestRunEvent_raises db event s t e hr
    · rw [hs] at hopen
      cases hopen
    · rw [hc]
      exact ⟨ht, .inl rfl⟩
  | ok result t =>
    rw [Stateful.after_ok _ s t result hr]
    obtain ⟨_, ht, heffect⟩ := ingestRunEvent_returns db event s t result hr
    refine ⟨ht, ?_⟩
    have hstate := ingestEffect_hitlState event _ _ _ heffect runId
    by_cases hrun : runId = event.runId
    · rw [if_pos hrun] at hstate
      refine .inr ⟨hrun.symm, ?_, hstate⟩
      intro h
      obtain ⟨hp, hterminal⟩ := h
      rw [hrun] at hterminal
      obtain ⟨state, he⟩ := pending_rejected event (db.clock s.statements) s.committed hp hterminal
      rw [he] at heffect
      cases heffect
    · rw [if_neg hrun] at hstate
      exact .inl hstate

theorem ingestEach_cons (db : Database) (event : ExtendedRunEvent)
    (events : List ExtendedRunEvent) (s : DbSession) :
    (ingestEach db (event :: events) s).2 =
      (ingestEach db events (Stateful.after (ingestRunEvent db event) s)).2 := by
  cases hr : ingestRunEvent db event s with
  | ok result t => simp only [ingestEach, hr, Stateful.after]
  | error e t => simp only [ingestEach, hr, Stateful.after]

/-! ### Whole histories -/

/-- Only a snapshot that says not_required can stand between a terminal state and a
later pending one. -/
theorem pending_after_terminal_passes_notRequired (db : Database) (runId : String)
    (events : List ExtendedRunEvent) (s : DbSession) (hs : s.inTransaction = false)
    (ht : Terminal (storedHitlState runId s.committed))
    (hp : storedHitlState runId (ingestEach db events s).2.committed = some .pending) :
    ∃ before since, events = before ++ since ∧
      storedHitlState runId (ingestEach db before s).2.committed = some .notRequired := by
  induction events generalizing s with
  | nil =>
    rw [ingestEach] at hp
    rcases ht with ht | ht
    · rw [ht] at hp
      cases hp
    · rw [ht] at hp
      cases hp
  | cons event events ih =>
    obtain ⟨hclosed, hstate⟩ := ingestRunEvent_hitlState db event s hs runId
    rw [ingestEach_cons] at hp
    have hcontinue (hterminal : Terminal
        (storedHitlState runId (Stateful.after (ingestRunEvent db event) s).committed)) :
        ∃ before since, event :: events = before ++ since ∧
          storedHitlState runId (ingestEach db before s).2.committed = some .notRequired := by
      obtain ⟨before, since, rfl, hn⟩ := ih _ hclosed hterminal hp
      refine ⟨event :: before, since, rfl, ?_⟩
      rw [ingestEach_cons]
      exact hn
    rcases hstate with hsame | ⟨_, hguard, hset⟩
    · apply hcontinue
      rw [hsame]
      exact ht
    · cases he : event.hitl.state with
      | pending => exact absurd ⟨he, ht⟩ hguard
      | approved =>
        rw [he] at hset
        exact hcontinue (.inl hset)
      | rejected =>
        rw [he] at hset
        exact hcontinue (.inr hset)
      | notRequired =>
        rw [he] at hset
        refine ⟨[event], events, rfl, ?_⟩
        rw [ingestEach_cons]
        exact hset

theorem ingestEach_closed (db : Database) (events : List ExtendedRunEvent) (s : DbSession)
    (hs : s.inTransaction = false) : (ingestEach db events s).2.inTransaction = false := by
  induction events generalizing s with
  | nil => exact hs
  | cons event events ih =>
    rw [ingestEach_cons]
    exact ih _ (ingestRunEvent_hitlState db event s hs event.runId).1

/-- While the stored state is approved or rejected, a pending snapshot is rejected and
changes nothing. -/
theorem ingestRunEvent_rejects_pending (db : Database) (event : ExtendedRunEvent) (s : DbSession)
    (hs : s.inTransaction = false) (hp : event.hitl.state = .pending)
    (ht : Terminal (storedHitlState event.runId s.committed)) :
    ∃ e t, ingestRunEvent db event s = .error e t ∧ t.committed = s.committed ∧
      ((∃ state, e = movedBackToPending event.runId state) ∨ db.backend.Refuses e) := by
  obtain ⟨state, he⟩ := pending_rejected event (db.clock s.statements) s.committed hp ht
  cases hr : ingestRunEvent db event s with
  | ok result t =>
    obtain ⟨_, _, heffect⟩ := ingestRunEvent_returns db event s t result hr
    rw [he] at heffect
    cases heffect
  | error e t =>
    obtain ⟨hc, ⟨hopen, _⟩ | ⟨_, _, hwhy⟩⟩ := ingestRunEvent_raises db event s t e hr
    · rw [hs] at hopen
      cases hopen
    · refine ⟨e, t, rfl, hc, ?_⟩
      rcases hwhy with heffect | hrefused
      · rw [he] at heffect
        cases heffect
        exact .inl ⟨state, rfl⟩
      · exact .inr hrefused

/-- In every history, a terminal state holds pending snapshots off for as long as it is
the stored one, and it is left only through not_required. -/
theorem terminal_hitlState_guarded (db : Database) (store : Store)
    (earlier later : List ExtendedRunEvent) (runId : String)
    (ht : Terminal (storedHitlState runId
      (ingestEach db earlier (Session.fresh store)).2.committed)) :
    (∀ event : ExtendedRunEvent, event.runId = runId → event.hitl.state = .pending →
      ∃ e t, ingestRunEvent db event (ingestEach db earlier (Session.fresh store)).2 = .error e t ∧
        t.committed = (ingestEach db earlier (Session.fresh store)).2.committed ∧
        ((∃ state, e = movedBackToPending runId state) ∨ db.backend.Refuses e)) ∧
    (storedHitlState runId
        (ingestEach db later (ingestEach db earlier (Session.fresh store)).2).2.committed =
          some .pending →
      ∃ before since, later = before ++ since ∧
        storedHitlState runId
          (ingestEach db before (ingestEach db earlier (Session.fresh store)).2).2.committed =
            some .notRequired) := by
  have hclosed := ingestEach_closed db earlier (Session.fresh store) rfl
  constructor
  · intro event hrun hp
    subst hrun
    exact ingestRunEvent_rejects_pending db event _ hclosed hp ht
  · exact pending_after_terminal_passes_notRequired db runId later _ hclosed ht

theorem terminal_hitlState_guarded_sample :
    Terminal (storedHitlState "run-1"
      (ingestEach .plain [pendingEvent "run-1", approvedEvent "run-1"]
        (Session.fresh Store.empty)).2.committed) ∧
    ∃ e t, ingestRunEvent .plain (pendingEvent "run-1")
        (ingestEach .plain [pendingEvent "run-1", approvedEvent "run-1"]
          (Session.fresh Store.empty)).2 = .error e t ∧
      t.committed = (ingestEach .plain [pendingEvent "run-1", approvedEvent "run-1"]
        (Session.fresh Store.empty)).2.committed := by
  have ht : Terminal (storedHitlState "run-1"
      (ingestEach .plain [pendingEvent "run-1", approvedEvent "run-1"]
        (Session.fresh Store.empty)).2.committed) := .inl (by decide +kernel)
  obtain ⟨e, t, hr, hc, _⟩ :=
    (terminal_hitlState_guarded .plain Store.empty _ [] "run-1" ht).1 (pendingEvent "run-1") rfl rfl
  exact ⟨ht, e, t, hr, hc⟩

/-- An error snapshot between the approval and the pending snapshot opens the way back. -/
theorem approved_then_error_then_pending :
    (∀ event ∈ [approvedEvent "run-1", errorEvent "run-1", pendingEvent "run-1"],
      Validated event) ∧
    storedHitlState "run-1" (ingestEach .plain [approvedEvent "run-1"]
      (Session.fresh Store.empty)).2.committed = some .approved ∧
    storedHitlState "run-1"
      (ingestEach .plain [approvedEvent "run-1", errorEvent "run-1", pendingEvent "run-1"]
        (Session.fresh Store.empty)).2.committed = some .pending := by
  refine ⟨?_, by decide +kernel, by decide +kernel⟩
  intro event he
  simp only [List.mem_cons, List.not_mem_nil, or_false] at he
  rcases he with rfl | rfl | rfl
  · exact approvedEvent_validated "run-1"
  · exact errorEvent_validated "run-1"
  · exact pendingEvent_validated "run-1"

end ObsPlatform.Ingestion
