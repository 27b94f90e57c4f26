import ObsPlatform.Lib.Thread

/-!
# Taking turns

Parties take turns at moving one system; the turn of a party that cannot move is passed
over. A simulation is shown for one turn and holds of a whole schedule.

`Contention` is such a system: threads that insert the same unique key into a shared
store. A session that has inserted the key and not committed it is the writer of the key;
an insert of another thread waits for it, and nothing else does.
-/

namespace ObsPlatform

section Turns
variable {ι ω ν : Type}

/-- The named parties move one after another. -/
def turns (move : ω → ι → Option ω) : ω → List ι → ω
  | w, [] => w
  | w, i :: schedule => turns move ((move w i).getD w) schedule

/-- A condition on the system before each turn. -/
def EachTurn (move : ω → ι → Option ω) (P : ω → ι → Prop) : ω → List ι → Prop
  | _, [] => True
  | w, i :: schedule => P w i ∧ EachTurn move P ((move w i).getD w) schedule

instance EachTurn.decidable (move : ω → ι → Option ω) (P : ω → ι → Prop)
    [hP : ∀ w i, Decidable (P w i)] (w : ω) : ∀ schedule, Decidable (EachTurn move P w schedule)
  | [] => isTrue trivial
  | i :: schedule =>
    match hP w i, EachTurn.decidable move P ((move w i).getD w) schedule with
    | isTrue h, isTrue hrest => isTrue ⟨h, hrest⟩
    | isFalse h, _ => isFalse fun hturns => h hturns.1
    | _, isFalse hrest => isFalse fun hturns => hrest hturns.2

variable (move : ω → ι → Option ω)

theorem turns_append (w : ω) (schedule later : List ι) :
    turns move w (schedule ++ later) = turns move (turns move w schedule) later := by
  induction schedule generalizing w with
  | nil => rfl
  | cons i schedule ih => exact ih _

/-- What every move keeps, a schedule keeps. -/
theorem turns_induction (I : ω → Prop) (hmove : ∀ w i w', I w → move w i = some w' → I w') (w : ω)
    (h : I w) (schedule : List ι) : I (turns move w schedule) := by
  induction schedule generalizing w with
  | nil => exact h
  | cons i schedule ih =>
    apply ih
    cases hstep : move w i with
    | none => exact h
    | some w' => exact hmove w i w' h hstep

/-- What every move of a party that meets the condition keeps. -/
theorem eachTurn_induction (P : ω → ι → Prop) (I : ω → Prop)
    (hmove : ∀ w i w', I w → P w i → move w i = some w' → I w') (w : ω) (h : I w)
    (schedule : List ι) (hturns : EachTurn move P w schedule) : I (turns move w schedule) := by
  induction schedule generalizing w with
  | nil => exact h
  | cons i schedule ih =>
    obtain ⟨hturn, hrest⟩ := hturns
    apply ih _ _ hrest
    cases hstep : move w i with
    | none => exact h
    | some w' => exact hmove w i w' h hturn hstep

section Simulation
variable (move' : ν → ι → Option ν) (R : ω → ν → Prop)
  (hmove : ∀ w v i, R w v → R ((move w i).getD w) ((move' v i).getD v))
include hmove

theorem turns_simulates (w : ω) (v : ν) (h : R w v) (schedule : List ι) :
    R (turns move w schedule) (turns move' v schedule) := by
  induction schedule generalizing w v with
  | nil => exact h
  | cons i schedule ih => exact ih _ _ (hmove w v i h)

theorem eachTurn_simulates (P : ω → ι → Prop) (Q : ν → ι → Prop)
    (hPQ : ∀ w v i, R w v → (P w i ↔ Q v i)) (w : ω) (v : ν) (h : R w v) (schedule : List ι) :
    EachTurn move P w schedule ↔ EachTurn move' Q v schedule := by
  induction schedule generalizing w v with
  | nil => exact Iff.rfl
  | cons i schedule ih => exact and_congr (hPQ w v i h) (ih _ _ (hmove w v i h))

end Simulation

end Turns

/-! ### Threads that insert one key -/

namespace Thread

variable {ℓ ε σ α : Type}

/-- What is left of a thread after its next step. -/
def Rest (t' t : Thread ℓ ε σ α) : Prop := ∃ label act next s, t = .step label act next ∧ t' = next s

theorem rest_wellFounded : WellFounded (Rest : Thread ℓ ε σ α → Thread ℓ ε σ α → Prop) := by
  constructor
  intro t
  induction t with
  | done result =>
    constructor
    intro t' h
    obtain ⟨_, _, _, _, ht, _⟩ := h
    cases ht
  | step label act next ih =>
    constructor
    intro t' h
    obtain ⟨_, _, _, s, ht, ht'⟩ := h
    cases ht
    rw [ht']
    exact ih s
end Thread

structure Contention (ι ℓ ω ε σ α : Type) where
  shared : ω
  writer : Option ι
  sessions : ι → σ
  threads : ι → Thread ℓ ε σ α

namespace Contention

variable {ι ℓ ω ε σ α : Type} [DecidableEq ι] (part : SharedPart ω σ) (inserts : ℓ → Bool)
  (claims : σ → Bool)

/-- Nobody has taken a step. -/
def start (shared : ω) (sessions : ι → σ) (threads : ι → Thread ℓ ε σ α) : Contention ι ℓ ω ε σ α :=
  ⟨shared, none, sessions, threads⟩

variable (w : Contention ι ℓ ω ε σ α) (i : ι)

/-- The session in which the next step of a thread runs. -/
def seen : σ :=
  if w.writer = some i then w.sessions i else part.install w.shared (w.sessions i)

/-- The step inserts the key and another thread is its writer. -/
def Waits (label : ℓ) : Prop := inserts label = true ∧ w.writer.isSome ∧ w.writer ≠ some i

instance (label : ℓ) : Decidable (w.Waits inserts i label) :=
  inferInstanceAs (Decidable (_ ∧ _ ∧ _))

def writerAfter (s : σ) : Option ι :=
  if claims s then some i else if w.writer = some i then none else w.writer

/-- After a step of thread `i` that left its session in `s` and the thread at `t`. -/
def stepped (s : σ) (t : Thread ℓ ε σ α) : Contention ι ℓ ω ε σ α where
  shared := part.published s
  writer := w.writerAfter claims i s
  sessions := Function.update w.sessions i s
  threads := Function.update w.threads i t

/-- One step of one thread, unless it has ended or waits. -/
def step : Option (Contention ι ℓ ω ε σ α) :=
  match w.threads i with
  | .done _ => none
  | .step label act next =>
    if w.Waits inserts i label then none
    else some (w.stepped part claims i (act (w.seen part i)) (next (w.seen part i)))

/-- Only a thread that has ended or waits takes no step. -/
theorem step_ne_none (label : ℓ) (hlabel : (w.threads i).label? = some label)
    (hwaits : ¬ w.Waits inserts i label) : w.step part inserts claims i ≠ none := by
  cases hthread : w.threads i with
  | done result =>
    rw [hthread] at hlabel
    cases hlabel
  | step label' act next =>
    rw [hthread] at hlabel
    cases hlabel
    simp [step, hthread, hwaits]

variable (label : ℓ) {β : Type} (x : EStateM ε σ β) (k : Except ε β → Thread ℓ ε σ α)
  (hthread : w.threads i = (Thread.atomic label x).followedBy k)

theorem step_done (result : Except ε α) (h : w.threads i = .done result) :
    w.step part inserts claims i = none := by
  simp only [step, h]

include hthread

theorem step_waits (hwaits : w.Waits inserts i label) : w.step part inserts claims i = none := by
  simp only [step, hthread, Thread.atomic, Thread.followedBy, hwaits, if_true]

theorem step_atomic (hwaits : ¬ w.Waits inserts i label) :
    w.step part inserts claims i = some (w.stepped part claims i (Stateful.after x (w.seen part i))
      (k (Stateful.resultOf x (w.seen part i)))) := by
  simp only [step, hthread, Thread.atomic, Thread.followedBy, hwaits, if_false]

omit hthread

/-! ### Nobody steps for ever -/

def remaining [Fintype ι] (w : Contention ι ℓ ω ε σ α) : Multiset (Thread ℓ ε σ α) :=
  Finset.univ.val.map w.threads

/-- A step replaces one of the remaining threads. -/
theorem remaining_stepped [Fintype ι] (w : Contention ι ℓ ω ε σ α) (i : ι) (s : σ)
    (t : Thread ℓ ε σ α) :
    ∃ others, w.remaining = {w.threads i} + others ∧
      (w.stepped part claims i s t).remaining = {t} + others := by
  have huniv : (Finset.univ : Finset ι).val = i ::ₘ (Finset.univ.erase i).val := by
    rw [← Finset.insert_val_of_notMem (Finset.notMem_erase i _),
      Finset.insert_erase (Finset.mem_univ i)]
  have hothers : (Finset.univ.erase i).val.map (Function.update w.threads i t) =
      (Finset.univ.erase i).val.map w.threads := by
    apply Multiset.map_congr rfl
    intro j hj
    exact Function.update_of_ne (Finset.ne_of_mem_erase hj) t w.threads
  refine ⟨(Finset.univ.erase i).val.map w.threads, ?_, ?_⟩
  · rw [remaining, huniv, Multiset.map_cons, Multiset.singleton_add]
  · rw [← hothers, remaining, huniv, Multiset.map_cons, Multiset.singleton_add]
    show Function.update w.threads i t i ::ₘ _ = _
    rw [Function.update_self]
    rfl

theorem step_remaining [Fintype ι] (w w' : Contention ι ℓ ω ε σ α) (i : ι)
    (h : w.step part inserts claims i = some w') :
    Relation.CutExpand Thread.Rest w'.remaining w.remaining := by
  unfold step at h
  cases hthread : w.threads i with
  | done result => simp [hthread] at h
  | step label act next =>
    by_cases hwaits : w.Waits inserts i label
    · simp [hthread, hwaits] at h
    · simp only [hthread, hwaits, if_false, Option.some.injEq] at h
      obtain ⟨others, hbefore, hafter⟩ := remaining_stepped part claims w i
        (act (w.seen part i)) (next (w.seen part i))
      rw [← h, hbefore, hafter, hthread]
      exact Relation.cutExpand_single_add ⟨label, act, next, _, rfl, rfl⟩ others

/-- Finitely many threads can always go on until none of them can step. -/
theorem exists_standstill [Fintype ι] (w : Contention ι ℓ ω ε σ α) :
    ∃ later, ∀ i, (turns (step part inserts claims) w later).step part inserts claims i = none := by
  have hwf := (Thread.rest_wellFounded (ℓ := ℓ) (ε := ε) (σ := σ) (α := α)).cutExpand
  generalize hremaining : w.remaining = threads
  induction threads using hwf.induction generalizing w with
  | _ threads ih =>
    by_cases hmoves : ∃ i w', w.step part inserts claims i = some w'
    · obtain ⟨i, w', hstep⟩ := hmoves
      obtain ⟨later, hlater⟩ := ih w'.remaining
        (hremaining ▸ step_remaining part inserts claims w w' i hstep) w' rfl
      refine ⟨i :: later, ?_⟩
      rw [turns, hstep]
      exact hlater
    · refine ⟨[], ?_⟩
      intro i
      cases hstep : w.step part inserts claims i with
      | none => exact hstep
      | some w' => exact absurd ⟨i, w', hstep⟩ hmoves

end Contention

end ObsPlatform
