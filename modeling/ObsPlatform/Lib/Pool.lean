import ObsPlatform.Lib.Thread

/-!
# Threads beside each other

A pool runs threads on one shared store, each through a session of its own: a step sees
the store as last published. The history lists the steps in the order they are taken;
between two of them strangers may change the store. The steps of one thread, taken out of
the history, are a walk of that thread on its own (`plays_walk`).
-/

namespace ObsPlatform

open Stateful

/-- One step: who took it, the store it saw and the store it published. -/
structure Commit (ι ℓ ω : Type) where
  who : ι
  label : ℓ
  before : ω
  after : ω

structure Pool (ι ℓ ω ε σ α : Type) where
  shared : ω
  sessions : ι → σ
  threads : ι → Thread ℓ ε σ α

variable {ι ℓ ω ε σ α β : Type} (part : SharedPart ω σ)

/-! ### One thread on its own -/

section Walks
variable (i : ι)

def commitOf (label : ℓ) (act : σ → σ) (s : σ) (w : ω) : Commit ι ℓ ω :=
  ⟨i, label, w, part.published (act (part.install w s))⟩

/-- The steps a thread takes, whatever store it sees at each. -/
inductive Walk : Thread ℓ ε σ α → σ → List (Commit ι ℓ ω) → Thread ℓ ε σ α → σ → Prop where
  | stay (t : Thread ℓ ε σ α) (s : σ) : Walk t s [] t s
  | step (label : ℓ) (act : σ → σ) (next : σ → Thread ℓ ε σ α) (s : σ) (w : ω)
      (steps : List (Commit ι ℓ ω)) (t' : Thread ℓ ε σ α) (s' : σ)
      (hrest : Walk (next (part.install w s)) (act (part.install w s)) steps t' s') :
      Walk (.step label act next) s (commitOf part i label act s w :: steps) t' s'

theorem walk_trans (t u v : Thread ℓ ε σ α) (s s' s'' : σ) (steps steps' : List (Commit ι ℓ ω))
    (h : Walk part i t s steps u s') (h' : Walk part i u s' steps' v s'') :
    Walk part i t s (steps ++ steps') v s'' := by
  induction h with
  | stay => exact h'
  | step label act next s w steps t' s' _ ih => exact .step label act next s w _ v s'' (ih h')

theorem walk_snoc (t : Thread ℓ ε σ α) (s s' : σ) (steps : List (Commit ι ℓ ω)) (label : ℓ)
    (act : σ → σ) (next : σ → Thread ℓ ε σ α) (w : ω)
    (h : Walk part i t s steps (.step label act next) s') :
    Walk part i t s (steps ++ [commitOf part i label act s' w]) (next (part.install w s'))
      (act (part.install w s')) :=
  walk_trans part i t _ _ s s' _ steps _ h (.step label act next s' w [] _ _ (.stay _ _))

theorem walk_done (result : Except ε α) (s s' : σ) (steps : List (Commit ι ℓ ω))
    (t : Thread ℓ ε σ α) (h : Walk part i (.done result) s steps t s') :
    steps = [] ∧ t = .done result ∧ s' = s := by
  cases h with
  | stay => exact ⟨rfl, rfl, rfl⟩

/-- A sequence that returned, taken apart. -/
theorem walk_bind (t : Thread ℓ ε σ α) (f : α → Thread ℓ ε σ β) (s s' : σ)
    (steps : List (Commit ι ℓ ω)) (b : β) (h : Walk part i (t >>= f) s steps (.done (.ok b)) s') :
    ∃ first rest a u, steps = first ++ rest ∧ Walk part i t s first (.done (.ok a)) u ∧
      Walk part i (f a) u rest (.done (.ok b)) s' := by
  induction t generalizing s steps with
  | done result =>
    cases result with
    | ok a => exact ⟨[], steps, a, s, rfl, .stay _ _, h⟩
    | error e => cases (walk_done part i _ s s' steps _ h).2.1
  | step label act next ih =>
    cases h with
    | step _ _ _ _ w steps _ _ hrest =>
      obtain ⟨first, rest, a, u, rfl, hfirst, hsecond⟩ := ih _ _ _ hrest
      exact ⟨_, rest, a, u, rfl, .step label act next s w first _ u hfirst, hsecond⟩

theorem walk_atomic (label : ℓ) (x : EStateM ε σ α) (s s' : σ) (steps : List (Commit ι ℓ ω)) (a : α)
    (h : Walk part i (Thread.atomic label x) s steps (.done (.ok a)) s') :
    ∃ w, steps = [commitOf part i label (after x) s w] ∧ x (part.install w s) = .ok a s' := by
  cases h with
  | step _ _ _ _ w steps _ _ hrest =>
    obtain ⟨rfl, hresult, rfl⟩ := walk_done part i _ _ s' steps _ hrest
    refine ⟨w, rfl, ?_⟩
    cases hx : x (part.install w s) with
    | ok b u =>
      simp only [resultOf, hx, Thread.done.injEq, Except.ok.injEq] at hresult
      rw [after_ok x _ u b hx, hresult]
    | error e u =>
      simp only [resultOf, hx, Thread.done.injEq] at hresult
      cases hresult

/-- What every step of a thread does, every step of a walk did. -/
theorem walk_each (P : ℓ → (σ → σ) → Prop) (t t' : Thread ℓ ε σ α) (s s' : σ)
    (steps : List (Commit ι ℓ ω)) (ht : t.Each P) (h : Walk part i t s steps t' s') :
    ∀ c ∈ steps, ∃ act s, P c.label act ∧ c = commitOf part i c.label act s c.before := by
  induction h with
  | stay => exact fun _ hm => absurd hm List.not_mem_nil
  | step label act next s w steps t' s' _ ih =>
    cases ht with
    | step _ _ _ hact hnext =>
      intro c hm
      rcases List.mem_cons.mp hm with rfl | hm
      · exact ⟨act, s, hact, rfl⟩
      · exact ih (hnext _) c hm

end Walks

/-! ### Many threads -/

section Plays
variable [DecidableEq ι]

def Pool.stepped (w : Pool ι ℓ ω ε σ α) (i : ι) (act : σ → σ) (next : σ → Thread ℓ ε σ α) :
    Pool ι ℓ ω ε σ α where
  shared := part.published (act (part.install w.shared (w.sessions i)))
  sessions := Function.update w.sessions i (act (part.install w.shared (w.sessions i)))
  threads := Function.update w.threads i (next (part.install w.shared (w.sessions i)))

/-- The steps of the threads in any order, strangers in between. -/
inductive Plays (strangers : ω → ω → Prop) (start : Pool ι ℓ ω ε σ α) :
    List (Commit ι ℓ ω) → Pool ι ℓ ω ε σ α → Prop where
  | start : Plays strangers start [] start
  | step (history : List (Commit ι ℓ ω)) (u : Pool ι ℓ ω ε σ α) (i : ι) (label : ℓ) (act : σ → σ)
      (next : σ → Thread ℓ ε σ α) (h : Plays strangers start history u)
      (hthread : u.threads i = .step label act next) :
      Plays strangers start (history ++ [commitOf part i label act (u.sessions i) u.shared])
        (u.stepped part i act next)
  | strange (history : List (Commit ι ℓ ω)) (u : Pool ι ℓ ω ε σ α) (w : ω)
      (h : Plays strangers start history u) (hstrange : strangers u.shared w) :
      Plays strangers start history { u with shared := w }

variable (strangers : ω → ω → Prop) (start : Pool ι ℓ ω ε σ α)

theorem plays_trans (history later : List (Commit ι ℓ ω)) (mid u : Pool ι ℓ ω ε σ α)
    (h : Plays part strangers start history mid) (hlater : Plays part strangers mid later u) :
    Plays part strangers start (history ++ later) u := by
  induction hlater with
  | start =>
    rw [List.append_nil]
    exact h
  | step later u i label act next _ hthread ih =>
    rw [← List.append_assoc]
    exact .step _ u i label act next ih hthread
  | strange later u w _ hstrange ih => exact .strange _ u w ih hstrange

def stepsOf (history : List (Commit ι ℓ ω)) (i : ι) : List (Commit ι ℓ ω) :=
  history.filter fun c => c.who = i

theorem plays_walk (history : List (Commit ι ℓ ω)) (u : Pool ι ℓ ω ε σ α)
    (h : Plays part strangers start history u) (i : ι) :
    Walk part i (start.threads i) (start.sessions i) (stepsOf history i) (u.threads i)
      (u.sessions i) := by
  induction h with
  | start => exact .stay _ _
  | step history u j label act next _ hthread ih =>
    unfold stepsOf at ih ⊢
    by_cases hj : j = i
    · subst hj
      rw [List.filter_append]
      simp only [Pool.stepped, Function.update_self]
      rw [hthread] at ih
      have hself : [commitOf part j label act (u.sessions j) u.shared].filter
          (fun c => c.who = j) = [commitOf part j label act (u.sessions j) u.shared] := by
        simp [commitOf]
      rw [hself]
      exact walk_snoc part j _ _ _ _ label act next u.shared ih
    · have hother : [commitOf part j label act (u.sessions j) u.shared].filter
          (fun c => c.who = i) = [] := by
        simp [commitOf, hj]
      rw [List.filter_append, hother, List.append_nil]
      simp only [Pool.stepped, Function.update_of_ne (Ne.symm hj)]
      exact ih
  | strange history u w _ _ ih => exact ih

/-- An invariant of the history and the store that every step of the history keeps. -/
theorem plays_induction (I : List (Commit ι ℓ ω) → ω → Prop) (hstart : I [] start.shared)
    (history : List (Commit ι ℓ ω)) (u : Pool ι ℓ ω ε σ α)
    (hstep : ∀ earlier, ∀ c ∈ history, I earlier c.before → I (earlier ++ [c]) c.after)
    (hstrange : ∀ earlier w w', strangers w w' → I earlier w → I earlier w')
    (h : Plays part strangers start history u) : I history u.shared := by
  induction h with
  | start => exact hstart
  | step history u i label act next _ _ ih =>
    have hbefore := ih fun earlier c hm => hstep earlier c (List.mem_append_left _ hm)
    exact hstep history _ (List.mem_append_right _ List.mem_cons_self) hbefore
  | strange history u w _ hw ih => exact hstrange history u.shared w hw (ih hstep)

omit [DecidableEq ι] in
theorem exists_last (p : Commit ι ℓ ω → Prop) (steps : List (Commit ι ℓ ω))
    (h : ∃ c ∈ steps, p c) :
    ∃ earlier c later, steps = earlier ++ c :: later ∧ p c ∧ ∀ d ∈ later, ¬ p d := by
  induction steps with
  | nil =>
    obtain ⟨c, hm, _⟩ := h
    cases hm
  | cons first steps ih =>
    by_cases hlater : ∃ c ∈ steps, p c
    · obtain ⟨earlier, c, later, rfl, hc, hnone⟩ := ih hlater
      exact ⟨first :: earlier, c, later, rfl, hc, hnone⟩
    · obtain ⟨c, hm, hc⟩ := h
      rcases List.mem_cons.mp hm with rfl | hm
      · exact ⟨[], c, steps, rfl, hc, fun d hd hp => hlater ⟨d, hd, hp⟩⟩
      · exact absurd ⟨c, hm, hc⟩ hlater

theorem mem_stepsOf (history : List (Commit ι ℓ ω)) (i : ι) (c : Commit ι ℓ ω) :
    c ∈ stepsOf history i ↔ c ∈ history ∧ c.who = i := by
  rw [stepsOf, List.mem_filter, decide_eq_true_eq]

/-- What only the steps of one thread add up to, all steps add up to. -/
theorem stepsOf_flatMap {γ : Type} (f : Commit ι ℓ ω → List γ) (steps : List (Commit ι ℓ ω)) (i : ι)
    (h : ∀ c ∈ steps, c.who ≠ i → f c = []) :
    (stepsOf steps i).flatMap f = steps.flatMap f := by
  unfold stepsOf
  induction steps with
  | nil => rfl
  | cons c steps ih =>
    have hrest := ih fun d hm => h d (List.mem_cons_of_mem _ hm)
    by_cases hwho : c.who = i
    · rw [List.filter_cons_of_pos (by simp [hwho]), List.flatMap_cons, List.flatMap_cons, hrest]
    · rw [List.filter_cons_of_neg (by simp [hwho]), List.flatMap_cons, hrest,
        h c List.mem_cons_self hwho, List.nil_append]

/-- The named threads step one after another; one that has ended is passed over. -/
def Pool.play : List ι → Pool ι ℓ ω ε σ α → Pool ι ℓ ω ε σ α
  | [], w => w
  | i :: schedule, w =>
    match w.threads i with
    | .done _ => play schedule w
    | .step _ act next => play schedule (w.stepped part i act next)

/-- The steps that `play` takes. -/
def Pool.history : List ι → Pool ι ℓ ω ε σ α → List (Commit ι ℓ ω)
  | [], _ => []
  | i :: schedule, w =>
    match w.threads i with
    | .done _ => history schedule w
    | .step label act next =>
      commitOf part i label act (w.sessions i) w.shared ::
        history schedule (w.stepped part i act next)

theorem history_who (schedule : List ι) (w : Pool ι ℓ ω ε σ α) :
    ∀ c ∈ w.history part schedule, c.who ∈ schedule := by
  induction schedule generalizing w with
  | nil => exact fun _ hm => absurd hm List.not_mem_nil
  | cons i schedule ih =>
    intro c hm
    unfold Pool.history at hm
    cases hthread : w.threads i with
    | done result =>
      rw [hthread] at hm
      exact List.mem_cons_of_mem _ (ih w c hm)
    | step label act next =>
      rw [hthread] at hm
      rcases List.mem_cons.mp hm with rfl | hm
      · exact List.mem_cons_self
      · exact List.mem_cons_of_mem _ (ih _ c hm)

theorem plays_play (earlier : List (Commit ι ℓ ω)) (u : Pool ι ℓ ω ε σ α)
    (h : Plays part strangers start earlier u) (schedule : List ι) :
    Plays part strangers start (earlier ++ u.history part schedule) (u.play part schedule) := by
  induction schedule generalizing earlier u with
  | nil =>
    rw [Pool.history, Pool.play, List.append_nil]
    exact h
  | cons i schedule ih =>
    unfold Pool.play Pool.history
    cases hthread : u.threads i with
    | done result => exact ih earlier u h
    | step label act next =>
      have hrest := ih _ _ (.step earlier u i label act next h hthread)
      rw [List.append_assoc, List.singleton_append] at hrest
      exact hrest

end Plays

end ObsPlatform
