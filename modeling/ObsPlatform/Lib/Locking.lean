import ObsPlatform.Lib.Thread

/-!
# Transactions under a lock

Threads work on one shared store, each through a session of its own. A step outside the
lock sees the store as last published; the lock holder's steps see its own session until
it publishes and releases. A thread may read before it asks for the lock, so what it
read can be outdated when it gets it.

A transaction is valid at the moment that decides it (it takes the lock, or settles
without it) when started anew at that moment it would end the same way. Interleavings
of transactions that are all valid are serial runs (`serialisable`).
-/

namespace ObsPlatform

open Stateful

/-- What a step needs of the lock. -/
inductive Access where
  | free
  | acquire
  | held
  | release
  deriving Repr, DecidableEq

structure World (ι ω ε σ α : Type) where
  shared : ω
  holder : Option ι
  sessions : ι → σ
  threads : ι → Thread Access ε σ α

variable {ι ω ε σ α : Type} [DecidableEq ι] (part : SharedPart ω σ)

namespace World

/-- The session in which the next step of a thread runs. -/
def seen (w : World ι ω ε σ α) (i : ι) : σ :=
  if w.holder = some i then w.sessions i else part.install w.shared (w.sessions i)

def Enabled (w : World ι ω ε σ α) (i : ι) : Access → Prop
  | .free => True
  | .acquire => w.holder = none
  | .held => w.holder = some i
  | .release => True

instance (w : World ι ω ε σ α) (i : ι) : (access : Access) → Decidable (w.Enabled i access)
  | .free => inferInstanceAs (Decidable True)
  | .acquire => inferInstanceAs (Decidable (w.holder = none))
  | .held => inferInstanceAs (Decidable (w.holder = some i))
  | .release => inferInstanceAs (Decidable True)

def holderAfter (w : World ι ω ε σ α) (i : ι) : Access → Option ι
  | .free => w.holder
  | .acquire => some i
  | .held => w.holder
  | .release => if w.holder = some i then none else w.holder

/-- One step of one thread, unless it has ended or waits for the lock. -/
def step (w : World ι ω ε σ α) (i : ι) : Option (World ι ω ε σ α) :=
  match w.threads i with
  | .done _ => none
  | .step access act next =>
    if w.Enabled i access then
      some
        { shared := part.published (act (w.seen part i))
          holder := w.holderAfter i access
          sessions := Function.update w.sessions i (act (w.seen part i))
          threads := Function.update w.threads i (next (w.seen part i)) }
    else none

end World

/-- The named threads step one after another; a thread that cannot step is passed over. -/
def World.play (w : World ι ω ε σ α) : List ι → World ι ω ε σ α
  | [] => w
  | i :: schedule => ((w.step part i).getD w).play schedule

/-- Steps in any order, each meeting a condition. -/
inductive Interleaving (P : World ι ω ε σ α → ι → World ι ω ε σ α → Prop) :
    World ι ω ε σ α → World ι ω ε σ α → Prop where
  | start (w : World ι ω ε σ α) : Interleaving P w w
  | step (w u v : World ι ω ε σ α) (i : ι) (h : Interleaving P w u)
      (hstep : u.step part i = some v) (hvalid : P u i v) : Interleaving P w v

/-- The condition holds of every step a schedule takes. -/
def World.Meets (P : World ι ω ε σ α → ι → World ι ω ε σ α → Prop) :
    List ι → World ι ω ε σ α → Prop
  | [], _ => True
  | i :: schedule, w =>
    (∀ v ∈ w.step part i, P w i v) ∧ World.Meets P schedule ((w.step part i).getD w)

instance instDecidableMeets (P : World ι ω ε σ α → ι → World ι ω ε σ α → Prop) [∀ w i v, Decidable (P w i v)] :
    (schedule : List ι) → (w : World ι ω ε σ α) → Decidable (World.Meets part P schedule w)
  | [], _ => inferInstanceAs (Decidable True)
  | i :: schedule, w =>
    have := instDecidableMeets P schedule ((w.step part i).getD w)
    inferInstanceAs (Decidable (_ ∧ _))

theorem meets_true (schedule : List ι) (w : World ι ω ε σ α) :
    World.Meets part (fun _ _ _ => True) schedule w := by
  induction schedule generalizing w with
  | nil => trivial
  | cons i schedule ih => exact ⟨fun _ _ => trivial, ih _⟩

theorem interleaving_play (P : World ι ω ε σ α → ι → World ι ω ε σ α → Prop)
    (w u : World ι ω ε σ α) (schedule : List ι) (h : Interleaving part P w u)
    (hmeets : World.Meets part P schedule u) : Interleaving part P w (u.play part schedule) := by
  induction schedule generalizing u with
  | nil => exact h
  | cons i schedule ih =>
    obtain ⟨hvalid, hlater⟩ := hmeets
    refine ih _ ?_ hlater
    cases hstep : u.step part i with
    | none => exact h
    | some v => exact .step w u v i h hstep (hvalid v hstep)

/-! ### Transactions -/

section Transactions

/-- The step publishes nothing. -/
def Quiet (act : σ → σ) : Prop := ∀ s, part.published (act s) = part.published s

/-- The thread ends with the result and publishes nothing on its way. -/
inductive Settled (result : Except ε α) : Thread Access ε σ α → Prop where
  | done : Settled result (.done result)
  | step (access : Access) (act : σ → σ) (next : σ → Thread Access ε σ α)
      (haccess : access = .free ∨ access = .release) (hquiet : Quiet part act)
      (hnext : ∀ s, Settled result (next s)) : Settled result (.step access act next)

/-- The thread holds the lock until it publishes, and has settled then. -/
inductive Holding : Thread Access ε σ α → Prop where
  | held (act : σ → σ) (next : σ → Thread Access ε σ α) (hquiet : Quiet part act)
      (hnext : ∀ s, Holding (next s)) : Holding (.step .held act next)
  | release (act : σ → σ) (next : σ → Thread Access ε σ α)
      (hnext : ∀ s, ∃ result, Settled part result (next s)) : Holding (.step .release act next)

/-- The thread asks for the lock, or settles without it, after some steps that read. -/
inductive Opening : Thread Access ε σ α → Prop where
  | settled (t : Thread Access ε σ α) (result : Except ε α) (h : Settled part result t) : Opening t
  | free (act : σ → σ) (next : σ → Thread Access ε σ α) (hquiet : Quiet part act)
      (hnext : ∀ s, Opening (next s)) : Opening (.step .free act next)
  | acquire (act : σ → σ) (next : σ → Thread Access ε σ α) (hquiet : Quiet part act)
      (hnext : ∀ s, Holding part (next s)) : Opening (.step .acquire act next)

/-- The thread has the lock or will not ask for it. -/
inductive Decided : Thread Access ε σ α → Prop where
  | holding (t : Thread Access ε σ α) (h : Holding part t) : Decided t
  | settled (t : Thread Access ε σ α) (result : Except ε α) (h : Settled part result t) : Decided t

theorem settled_run (result : Except ε α) (t : Thread Access ε σ α) (h : Settled part result t)
    (s : σ) : resultOf t.run s = result ∧ part.published (after t.run s) = part.published s := by
  induction h generalizing s with
  | done => cases result <;> exact ⟨rfl, rfl⟩
  | step access act next _ hquiet _ ih =>
    obtain ⟨hresult, hpublished⟩ := ih s (act s)
    exact ⟨hresult, hpublished.trans (hquiet s)⟩

/-! ### Transactions written as sequences -/

section Sequences
variable {β : Type}

theorem holding_followedBy (t : Thread Access ε σ α) (k : Except ε α → Thread Access ε σ β)
    (ht : t.Each fun access act => access = .held ∧ Quiet part act)
    (hk : ∀ result, Holding part (k result)) : Holding part (t.followedBy k) := by
  induction ht with
  | done result => exact hk result
  | step access act next hact _ ih =>
    obtain ⟨rfl, hquiet⟩ := hact
    exact .held act _ hquiet ih

theorem opening_acquired (act : σ → σ) (next : σ → Thread Access ε σ α)
    (h : Opening part (.step .acquire act next)) (s : σ) : Holding part (next s) := by
  cases h with
  | settled _ _ h =>
    cases h with
    | step _ _ _ haccess _ _ => exact haccess.elim nofun nofun
  | acquire _ _ _ hnext => exact hnext s

theorem opening_free (x : EStateM ε σ α) (k : Except ε α → Thread Access ε σ β)
    (hquiet : Quiet part (after x)) (hk : ∀ s, Opening part (k (resultOf x s))) :
    Opening part ((Thread.atomic .free x).followedBy k) :=
  .free (after x) _ hquiet hk

end Sequences

end Transactions

/-! ### Serial runs -/

/-- Transactions one after another: their results, and the store the last one leaves. -/
def serially (alone : ι → ω → Except ε α × ω) : List ι → ω → List (ι × Except ε α) × ω
  | [], w => ([], w)
  | i :: order, w =>
    ((i, (alone i w).1) :: (serially alone order (alone i w).2).1,
      (serially alone order (alone i w).2).2)

omit [DecidableEq ι] in
theorem serially_append (alone : ι → ω → Except ε α × ω) (order : List ι) (w : ω)
    (log : List (ι × Except ε α)) (u : ω) (h : serially alone order w = (log, u)) (i : ι) :
    serially alone (order ++ [i]) w = (log ++ [(i, (alone i u).1)], (alone i u).2) := by
  induction order generalizing w log with
  | nil =>
    cases h
    rfl
  | cons first order ih =>
    cases h
    have hrest := ih (alone first w).2 _ rfl
    simp only [List.cons_append, serially, hrest]

section Serial
variable (sessions : ι → σ) (threads : ι → Thread Access ε σ α)

/-- A transaction alone on a store: its result, and the store it publishes. -/
def alone (i : ι) (w : ω) : Except ε α × ω :=
  (resultOf (threads i).run (part.install w (sessions i)),
    part.published (after (threads i).run (part.install w (sessions i))))

/-- The rest of the thread would end on the published store as the whole of it would. -/
def Valid (w : World ι ω ε σ α) (i : ι) : Prop :=
  (w.threads i).run (part.install w.shared (w.sessions i)) =
    (threads i).run (part.install w.shared (sessions i))

/-- A step that decides the thread is taken when the thread is valid. -/
def DecidesValidly (w : World ι ω ε σ α) (i : ι) (w' : World ι ω ε σ α) : Prop :=
  ¬ Decided part (w.threads i) → Decided part (w'.threads i) → Valid part sessions threads w i

/-- Where a thread stands, given the transactions that are serialised. -/
inductive Stands (log : List (ι × Except ε α)) (w : World ι ω ε σ α) (i : ι) : Prop where
  | settled (result : Except ε α) (hlog : (i, result) ∈ log) (hholder : w.holder ≠ some i)
      (hthread : Settled part result (w.threads i))
  | holding (hlog : i ∉ log.map Prod.fst) (hholder : w.holder = some i)
      (hthread : Holding part (w.threads i)) (hshared : part.published (w.sessions i) = w.shared)
      (hvalid : (w.threads i).run (w.sessions i) =
        (threads i).run (part.install w.shared (sessions i)))
  | opening (hlog : i ∉ log.map Prod.fst) (hholder : w.holder ≠ some i)
      (hthread : Opening part (w.threads i))
      (hunmoved : Decided part (w.threads i) → w.threads i = threads i)

/-- The world is that of a serial run of the transactions decided without the lock or
published. -/
def Serialised (w₀ : ω) (log : List (ι × Except ε α)) (w : World ι ω ε σ α) : Prop :=
  serially (alone part sessions threads) (log.map Prod.fst) w₀ = (log, w.shared) ∧
    (log.map Prod.fst).Nodup ∧ ∀ i, Stands part sessions threads log w i

/-! ### Every step keeps the world serialised -/

/-- What one step of a thread changed. -/
structure Moved (w w' : World ι ω ε σ α) (i : ι) (access : Access) (act : σ → σ)
    (next : σ → Thread Access ε σ α) : Prop where
  thread : w.threads i = .step access act next
  enabled : w.Enabled i access
  shared : w'.shared = part.published (act (w.seen part i))
  holder : w'.holder = w.holderAfter i access
  session : w'.sessions i = act (w.seen part i)
  rest : w'.threads i = next (w.seen part i)
  otherSessions : ∀ j, j ≠ i → w'.sessions j = w.sessions j
  otherThreads : ∀ j, j ≠ i → w'.threads j = w.threads j

theorem step_moved (w w' : World ι ω ε σ α) (i : ι) (h : w.step part i = some w') :
    ∃ access act next, Moved part w w' i access act next := by
  unfold World.step at h
  cases hthread : w.threads i with
  | done result =>
    rw [hthread] at h
    cases h
  | step access act next =>
    rw [hthread] at h
    by_cases henabled : w.Enabled i access
    · simp only [henabled, if_true, Option.some.injEq] at h
      subst h
      exact ⟨access, act, next, hthread, henabled, rfl, rfl, Function.update_self .., 
        Function.update_self .., fun _ hne => Function.update_of_ne hne ..,
        fun _ hne => Function.update_of_ne hne ..⟩
    · simp only [henabled, if_false] at h
      cases h

omit [DecidableEq ι] in
theorem opening_settles (t : Thread Access ε σ α) (h : Opening part t) (hdecided : Decided part t) :
    ∃ result, Settled part result t := by
  cases hdecided with
  | settled result hsettled => exact ⟨result, hsettled⟩
  | holding hholding =>
    cases h with
    | settled _ result hsettled => exact ⟨result, hsettled⟩
    | free act next _ _ => cases hholding
    | acquire act next _ _ => cases hholding

omit [DecidableEq ι] in
/-- A thread that does not move stands where it stood. -/
theorem stands_other (log added : List (ι × Except ε α)) (w w' : World ι ω ε σ α) (j : ι)
    (hsession : w'.sessions j = w.sessions j) (hthread : w'.threads j = w.threads j)
    (hholder : w'.holder = some j ↔ w.holder = some j)
    (hshared : w.holder = some j → w'.shared = w.shared) (hadded : j ∉ added.map Prod.fst)
    (h : Stands part sessions threads log w j) :
    Stands part sessions threads (log ++ added) w' j := by
  have hnew : j ∉ log.map Prod.fst → j ∉ (log ++ added).map Prod.fst := by
    intro hold hm
    rw [List.map_append, List.mem_append] at hm
    exact hm.elim hold hadded
  cases h with
  | settled result hlog hfree hsettled =>
    rw [← hthread] at hsettled
    exact .settled result (List.mem_append_left _ hlog) (mt hholder.mp hfree) hsettled
  | holding hlog hheld hholding hpublished hvalid =>
    have hsame := hshared hheld
    rw [← hthread] at hholding hvalid
    rw [← hsession, ← hsame] at hvalid hpublished
    exact .holding (hnew hlog) (hholder.mpr hheld) hholding hpublished hvalid
  | opening hlog hfree hopening hunmoved =>
    rw [← hthread] at hopening hunmoved
    exact .opening (hnew hlog) (mt hholder.mp hfree) hopening hunmoved

section Step
variable (w₀ : ω) (log : List (ι × Except ε α)) (w w' : World ι ω ε σ α) (i : ι)
  (h : Serialised part sessions threads w₀ log w) (access : Access) (act : σ → σ)
  (next : σ → Thread Access ε σ α) (hmoved : Moved part w w' i access act next)
include h hmoved

/-- The moving thread publishes nothing and is not settled by the step. -/
theorem serialised_quiet (hshared : w'.shared = w.shared)
    (hholder : ∀ j, j ≠ i → (w'.holder = some j ↔ w.holder = some j))
    (hstands : Stands part sessions threads log w' i) :
    Serialised part sessions threads w₀ log w' := by
  obtain ⟨hserial, hnodup, hall⟩ := h
  refine ⟨hshared ▸ hserial, hnodup, ?_⟩
  intro j
  by_cases hj : j = i
  · rw [hj]
    exact hstands
  · have hkept := stands_other part sessions threads log [] w w' j (hmoved.otherSessions j hj)
      (hmoved.otherThreads j hj) (hholder j hj) (fun _ => hshared) List.not_mem_nil (hall j)
    rw [List.append_nil] at hkept
    exact hkept

/-- The moving thread settles: its transaction is the next of the serial run. -/
theorem serialised_settled (hlog : i ∉ log.map Prod.fst) (result : Except ε α)
    (halone : alone part sessions threads i w.shared = (result, w'.shared))
    (hsettled : Settled part result (next (w.seen part i)))
    (hholder : ∀ j, j ≠ i → (w'.holder = some j ↔ w.holder = some j))
    (hfree : w'.holder ≠ some i)
    (hshared : ∀ j, j ≠ i → w.holder = some j → w'.shared = w.shared) :
    Serialised part sessions threads w₀ (log ++ [(i, result)]) w' := by
  obtain ⟨hserial, hnodup, hall⟩ := h
  have hnext := serially_append _ _ w₀ log w.shared hserial i
  rw [halone] at hnext
  refine ⟨by rw [List.map_append]; exact hnext, ?_, ?_⟩
  · rw [List.map_append, List.map_singleton, List.nodup_append]
    refine ⟨hnodup, List.nodup_singleton _, ?_⟩
    intro a ha b hb he
    rw [he, List.mem_singleton.mp hb] at ha
    exact hlog ha
  · intro j
    by_cases hj : j = i
    · rw [hj]
      refine .settled result (List.mem_append_right _ List.mem_cons_self) hfree ?_
      rw [hmoved.rest]
      exact hsettled
    · apply stands_other part sessions threads log _ w w' j (hmoved.otherSessions j hj)
        (hmoved.otherThreads j hj) (hholder j hj) (hshared j hj) ?_ (hall j)
      simpa using hj

omit h in
/-- A thread that settles by the step ends as it would have alone. -/
theorem alone_settled
    (hrun : (w.threads i).run (w.seen part i) =
      (threads i).run (part.install w.shared (sessions i)))
    (result : Except ε α) (hsettled : Settled part result (next (w.seen part i))) :
    alone part sessions threads i w.shared = (result, w'.shared) := by
  obtain ⟨hresult, hpublished⟩ := settled_run part result _ hsettled (act (w.seen part i))
  rw [hmoved.thread] at hrun
  rw [alone, hmoved.shared, ← hpublished, ← hresult]
  simp only [resultOf, after, ← hrun]
  rfl

omit h in
theorem holder_kept (hfree : w.holder ≠ some i) (haccess : access = .free ∨ access = .release) :
    w'.holder = w.holder := by
  rw [hmoved.holder]
  rcases haccess with rfl | rfl
  · rfl
  · exact if_neg hfree

omit h in
theorem shared_kept (hfree : w.holder ≠ some i) (hquiet : Quiet part act) :
    w'.shared = w.shared := by
  have hseen : w.seen part i = part.install w.shared (w.sessions i) := if_neg hfree
  rw [hmoved.shared, hquiet, hseen, part.published_install]

/-- A thread that has settled goes on without the lock. -/
theorem serialised_settledStep (result : Except ε α) (hlog : (i, result) ∈ log)
    (hfree : w.holder ≠ some i) (hsettled : Settled part result (w.threads i)) :
    Serialised part sessions threads w₀ log w' := by
  rw [hmoved.thread] at hsettled
  cases hsettled with
  | step _ _ _ haccess hquiet hnext =>
    have hkept := holder_kept part w w' i access act next hmoved hfree haccess
    have hsame := shared_kept part w w' i access act next hmoved hfree hquiet
    apply serialised_quiet part sessions threads w₀ log w w' i h access act next hmoved hsame
      (fun j _ => by rw [hkept])
    apply Stands.settled result hlog (hkept ▸ hfree)
    rw [hmoved.rest]
    exact hnext _

/-- The lock holder publishes and settles, or goes on holding the lock. -/
theorem serialised_heldStep (hlog : i ∉ log.map Prod.fst) (hheld : w.holder = some i)
    (hholding : Holding part (w.threads i)) (hpublished : part.published (w.sessions i) = w.shared)
    (hrun : (w.threads i).run (w.sessions i) =
      (threads i).run (part.install w.shared (sessions i))) :
    ∃ log', Serialised part sessions threads w₀ log' w' := by
  have hholder := hmoved.holder
  have hseen : w.seen part i = w.sessions i := if_pos hheld
  have hothers : ∀ j, j ≠ i → w.holder ≠ some j := by
    intro j hne hj
    rw [hheld, Option.some.injEq] at hj
    exact hne hj.symm
  rw [hmoved.thread] at hholding
  cases hholding with
  | held _ _ hquiet hnext =>
    have hkept : w'.holder = w.holder := hholder
    have hsame : w'.shared = w.shared := by
      rw [hmoved.shared, hquiet, hseen, hpublished]
    refine ⟨log, serialised_quiet part sessions threads w₀ log w w' i h _ act next hmoved hsame
      (fun j _ => by rw [hkept]) ?_⟩
    refine .holding hlog (hkept ▸ hheld) ?_ ?_ ?_
    · rw [hmoved.rest]
      exact hnext _
    · rw [hmoved.session, hmoved.shared]
    · rw [hmoved.rest, hmoved.session, hsame, ← hrun, hmoved.thread, hseen]
      rfl
  | release _ _ hnext =>
    obtain ⟨result, hsettled⟩ := hnext (w.seen part i)
    have hreleased : w'.holder = none := by
      rw [hholder]
      exact if_pos hheld
    have halone := alone_settled part sessions threads w w' i _ act next hmoved
      (by rw [hseen]; exact hrun) result hsettled
    refine ⟨_, serialised_settled part sessions threads w₀ log w w' i h _ act next hmoved hlog
      result halone hsettled ?_ ?_ ?_⟩
    · intro j hne
      rw [hreleased]
      exact ⟨nofun, fun h => absurd h (hothers j hne)⟩
    · rw [hreleased]
      exact nofun
    · exact fun j hne hj => absurd hj (hothers j hne)

/-- A thread that was decided before it moved would end so on every store. -/
theorem serialised_decidedStep (hlog : i ∉ log.map Prod.fst) (hfree : w.holder ≠ some i)
    (hopening : Opening part (w.threads i)) (hunmoved : w.threads i = threads i)
    (hdecided : Decided part (w.threads i)) :
    ∃ log', Serialised part sessions threads w₀ log' w' := by
  obtain ⟨result, hsettled⟩ := opening_settles part _ hopening hdecided
  have hfirst := settled_run part result _ (hunmoved ▸ hsettled)
    (part.install w.shared (sessions i))
  rw [hmoved.thread] at hsettled
  cases hsettled with
  | step _ _ _ haccess hquiet hnext =>
    have hsame := shared_kept part w w' i access act next hmoved hfree hquiet
    have hkept := holder_kept part w w' i access act next hmoved hfree haccess
    have halone : alone part sessions threads i w.shared = (result, w'.shared) := by
      rw [alone, hfirst.1, hfirst.2, part.published_install, hsame]
    exact ⟨_, serialised_settled part sessions threads w₀ log w w' i h _ act next hmoved hlog
      result halone (hnext _) (fun j _ => by rw [hkept]) (hkept ▸ hfree) fun _ _ _ => hsame⟩

/-- An undecided thread reads on, settles, or takes the lock. -/
theorem serialised_openingStep (hlog : i ∉ log.map Prod.fst) (hfree : w.holder ≠ some i)
    (hopening : Opening part (w.threads i)) (hdecided : ¬ Decided part (w.threads i))
    (hvalid : DecidesValidly part sessions threads w i w') :
    ∃ log', Serialised part sessions threads w₀ log' w' := by
  have hseen : w.seen part i = part.install w.shared (w.sessions i) := if_neg hfree
  have hvalid' := hvalid hdecided
  rw [hmoved.rest] at hvalid'
  rw [hmoved.thread] at hopening
  cases hopening with
  | settled _ result hsettled =>
    rw [← hmoved.thread] at hsettled
    exact absurd (.settled _ result hsettled) hdecided
  | free _ _ hquiet hnext =>
    have hkept := holder_kept part w w' i _ act next hmoved hfree (.inl rfl)
    have hsame := shared_kept part w w' i _ act next hmoved hfree hquiet
    by_cases hdecides : Decided part (next (w.seen part i))
    · obtain ⟨result, hsettled⟩ := opening_settles part _ (hnext _) hdecides
      have halone := alone_settled part sessions threads w w' i _ act next hmoved
        (by rw [hseen]; exact hvalid' hdecides) result hsettled
      exact ⟨_, serialised_settled part sessions threads w₀ log w w' i h _ act next hmoved hlog
        result halone hsettled (fun j _ => by rw [hkept]) (hkept ▸ hfree) fun _ _ _ => hsame⟩
    · refine ⟨log, serialised_quiet part sessions threads w₀ log w w' i h _ act next hmoved
        hsame (fun j _ => by rw [hkept]) ?_⟩
      rw [← hmoved.rest] at hdecides
      refine .opening hlog (hkept ▸ hfree) ?_ fun h => absurd h hdecides
      rw [hmoved.rest]
      exact hnext _
  | acquire _ _ hquiet hnext =>
    have hnone : w.holder = none := hmoved.enabled
    have htaken : w'.holder = some i := hmoved.holder
    have hsame := shared_kept part w w' i _ act next hmoved hfree hquiet
    refine ⟨log, serialised_quiet part sessions threads w₀ log w w' i h _ act next hmoved hsame
      ?_ ?_⟩
    · intro j hne
      rw [hnone, htaken, Option.some.injEq]
      exact ⟨fun h => absurd h.symm hne, nofun⟩
    · refine .holding hlog htaken ?_ ?_ ?_
      · rw [hmoved.rest]
        exact hnext _
      · rw [hmoved.session, hmoved.shared]
      · have hrun := hvalid' (.holding _ (hnext _))
        rw [Valid, hmoved.thread, ← hseen] at hrun
        rw [hmoved.rest, hmoved.session, hsame, ← hrun]
        rfl

end Step

theorem serialised_step (w₀ : ω) (log : List (ι × Except ε α)) (w w' : World ι ω ε σ α) (i : ι)
    (h : Serialised part sessions threads w₀ log w) (hstep : w.step part i = some w')
    (hvalid : DecidesValidly part sessions threads w i w') :
    ∃ log', Serialised part sessions threads w₀ log' w' := by
  obtain ⟨access, act, next, hmoved⟩ := step_moved part w w' i hstep
  cases h.2.2 i with
  | settled result hlog hfree hsettled =>
    exact ⟨log, serialised_settledStep part sessions threads w₀ log w w' i h access act next hmoved
      result hlog hfree hsettled⟩
  | holding hlog hheld hholding hpublished hrun =>
    exact serialised_heldStep part sessions threads w₀ log w w' i h access act next hmoved hlog hheld
      hholding hpublished hrun
  | opening hlog hfree hopening hunmoved =>
    by_cases hdecided : Decided part (w.threads i)
    · exact serialised_decidedStep part sessions threads w₀ log w w' i h access act next hmoved hlog
        hfree hopening (hunmoved hdecided) hdecided
    · exact serialised_openingStep part sessions threads w₀ log w w' i h access act next hmoved hlog
        hfree hopening hdecided hvalid

/-! ### Interleavings are serial -/

/-- Nobody has moved yet. -/
def World.start (w : ω) : World ι ω ε σ α := ⟨w, none, sessions, threads⟩

theorem serialised_interleaving (w₀ : ω)
    (hopening : ∀ i, Opening part (threads i)) (w : World ι ω ε σ α)
    (h : Interleaving part (DecidesValidly part sessions threads)
      (World.start sessions threads w₀) w) :
    ∃ log, Serialised part sessions threads w₀ log w := by
  induction h with
  | start =>
    refine ⟨[], rfl, List.nodup_nil, ?_⟩
    exact fun i => .opening List.not_mem_nil nofun (hopening i) fun _ => rfl
  | step u v i _ hstep hvalid ih =>
    obtain ⟨log, hlog⟩ := ih
    exact serialised_step part sessions threads w₀ log u v i hlog hstep hvalid

/-- When every transaction has ended, the store and the results are those of running all
of them one after another in some order. -/
theorem serialisable (w₀ : ω)
    (hopening : ∀ i, Opening part (threads i)) (w : World ι ω ε σ α)
    (h : Interleaving part (DecidesValidly part sessions threads)
      (World.start sessions threads w₀) w)
    (results : ι → Except ε α) (hdone : ∀ i, w.threads i = .done (results i))
    (hunfinished : ∀ i result, threads i ≠ .done result) :
    ∃ order : List ι, order.Nodup ∧ (∀ i, i ∈ order) ∧
      serially (alone part sessions threads) order w₀ =
        (order.map fun i => (i, results i), w.shared) := by
  obtain ⟨log, hserial, hnodup, hstands⟩ := serialised_interleaving part sessions threads w₀ hopening
    w h
  have hlogged : ∀ i, (i, results i) ∈ log := by
    intro i
    cases hstands i with
    | settled result hlog _ hthread =>
      rw [hdone i] at hthread
      cases hthread
      exact hlog
    | holding _ _ hthread _ _ =>
      rw [hdone i] at hthread
      cases hthread
    | opening _ _ _ hunmoved =>
      have hmoved := hunmoved (by rw [hdone i]; exact .settled _ _ .done)
      rw [hdone i] at hmoved
      exact absurd hmoved.symm (hunfinished i _)
  have hresults : ∀ entry ∈ log, entry = (entry.1, results entry.1) := by
    intro entry hm
    exact List.inj_on_of_nodup_map hnodup hm (hlogged entry.1) rfl
  refine ⟨log.map Prod.fst, hnodup, fun i => List.mem_map_of_mem (hlogged i), ?_⟩
  have hlog : (log.map Prod.fst).map (fun i => (i, results i)) = log := by
    rw [List.map_map]
    conv_rhs => rw [← List.map_id log]
    apply List.map_congr_left
    intro entry hm
    exact (hresults entry hm).symm
  rw [hlog]
  exact hserial

end Serial

end ObsPlatform
