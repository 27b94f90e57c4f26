import ObsPlatform.Lib.Pool

/-!
# What threads promise each other

A thread beside others can promise something about its steps as long as the others keep to
what it relies on. `Abides` is that promise: from a store on, and whatever the others do
within the rely, every step keeps the invariant and changes the store as the terms allow. It
is proved along the thread (`abides_bind`, `abides_followedBy`), and threads whose terms lie
within each other's relies keep their promises in a pool (`abides_plays`).
-/

namespace ObsPlatform

open Stateful

/-- What one side keeps and what it may change. -/
structure Terms (ω : Type) where
  invariant : ω → Prop
  change : ω → ω → Prop
  refl : ∀ w, change w w
  trans : ∀ a b c, change a b → change b c → change a c

namespace Terms

variable {ω : Type} (terms : Terms ω)

def Keep (w w' : ω) : Prop := terms.invariant w' ∧ terms.change w w'

/-- The stores that the terms let a change of this one lead to. -/
def From (w : ω) : ω → Prop := fun w' => terms.Keep w w'

theorem from_self (w : ω) (h : terms.invariant w) : terms.From w w := ⟨h, terms.refl w⟩

/-- One more change within the terms. -/
theorem from_step (w store store' : ω) (h : terms.From w store)
    (hstep : terms.invariant store → terms.Keep store store') : terms.From w store' :=
  ⟨(hstep h.1).1, terms.trans _ _ _ h.2 (hstep h.1).2⟩

/-- The same changes, with one more thing to keep. -/
def keeping (Q : ω → Prop) : Terms ω where
  invariant := fun w => terms.invariant w ∧ Q w
  change := terms.change
  refl := terms.refl
  trans := terms.trans

/-- Terms that forbid nothing. -/
def anything : Terms ω where
  invariant := fun _ => True
  change := fun _ _ => True
  refl := fun _ => trivial
  trans := fun _ _ _ _ _ => trivial

end Terms

/-! ### The promise of one thread -/

variable {ι ℓ ω ε σ α β : Type} (part : SharedPart ω σ)

/-- From the store `w` on, whatever the others do within `rely`, every step keeps to the terms;
the thread returns in `returned` or raises in `raised`. -/
def Abides (terms rely : Terms ω) (returned : α → ω → Prop) (raised : ε → ω → Prop) :
    Thread ℓ ε σ α → ω → Prop
  | .done (.ok a), w => ∀ w', rely.Keep w w' → returned a w'
  | .done (.error e), w => ∀ w', rely.Keep w w' → raised e w'
  | .step _ act next, w => ∀ w' s, rely.Keep w w' →
    terms.Keep w' (part.published (act (part.install w' s))) ∧
      Abides terms rely returned raised (next (part.install w' s))
        (part.published (act (part.install w' s)))

section Rules
variable (terms rely : Terms ω) (returned : α → ω → Prop) (raised : ε → ω → Prop)

/-- The others go on, and the promise stands. -/
theorem abides_later (t : Thread ℓ ε σ α) (w w' : ω) (h : Abides part terms rely returned raised t w)
    (hw : rely.change w w') : Abides part terms rely returned raised t w' := by
  cases t with
  | done result =>
    cases result with
    | ok a => exact fun v hv => h v ⟨hv.1, rely.trans _ _ _ hw hv.2⟩
    | error e => exact fun v hv => h v ⟨hv.1, rely.trans _ _ _ hw hv.2⟩
  | step label act next => exact fun v s hv => h v s ⟨hv.1, rely.trans _ _ _ hw hv.2⟩

theorem abides_done (result : Except ε α) (w : ω)
    (hok : ∀ a, result = .ok a → ∀ w', rely.Keep w w' → returned a w')
    (herror : ∀ e, result = .error e → ∀ w', rely.Keep w w' → raised e w') :
    Abides part terms rely returned raised (.done result : Thread ℓ ε σ α) w := by
  cases result with
  | ok a => exact hok a rfl
  | error e => exact herror e rfl

theorem abides_atomic (label : ℓ) (x : EStateM ε σ α) (w : ω)
    (hstep : ∀ w' s, rely.Keep w w' →
      terms.Keep w' (part.published (after x (part.install w' s))) ∧
        Ends x (part.install w' s)
          (fun a t => ∀ v, rely.Keep (part.published t) v → returned a v)
          fun e t => ∀ v, rely.Keep (part.published t) v → raised e v) :
    Abides part terms rely returned raised (Thread.atomic label x) w := by
  intro w' s hw'
  obtain ⟨hkeep, hends⟩ := hstep w' s hw'
  refine ⟨hkeep, ?_⟩
  show Abides part terms rely returned raised (.done (resultOf x (part.install w' s))) _
  cases hends with
  | ok a t hx h =>
    have hresult : resultOf x (part.install w' s) = .ok a := by simp only [resultOf, hx]
    rw [hresult, after_ok x _ t a hx]
    exact h
  | error e t hx h =>
    have hresult : resultOf x (part.install w' s) = .error e := by simp only [resultOf, hx]
    rw [hresult, after_error x _ t e hx]
    exact h

theorem abides_mono (returned' : α → ω → Prop) (raised' : ε → ω → Prop) (t : Thread ℓ ε σ α) (w : ω)
    (h : Abides part terms rely returned raised t w) (hok : ∀ a w, returned a w → returned' a w)
    (herror : ∀ e w, raised e w → raised' e w) :
    Abides part terms rely returned' raised' t w := by
  induction t generalizing w with
  | done result =>
    cases result with
    | ok a => exact fun v hv => hok a v (h v hv)
    | error e => exact fun v hv => herror e v (h v hv)
  | step label act next ih =>
    intro v s hv
    obtain ⟨hkeep, hrest⟩ := h v s hv
    exact ⟨hkeep, ih _ _ hrest⟩

/-- What follows takes over the promise where the first thread ended. -/
theorem abides_followedBy (returned' : β → ω → Prop) (raised' : ε → ω → Prop)
    (t : Thread ℓ ε σ α) (k : Except ε α → Thread ℓ ε σ β) (w : ω) (hw : rely.invariant w)
    (hinvariant : ∀ v, terms.invariant v → rely.invariant v)
    (ht : Abides part terms rely returned raised t w)
    (hok : ∀ a v, rely.invariant v → returned a v →
      Abides part terms rely returned' raised' (k (.ok a)) v)
    (herror : ∀ e v, rely.invariant v → raised e v →
      Abides part terms rely returned' raised' (k (.error e)) v) :
    Abides part terms rely returned' raised' (t.followedBy k) w := by
  induction t generalizing w with
  | done result =>
    cases result with
    | ok a => exact hok a w hw (ht w (rely.from_self w hw))
    | error e => exact herror e w hw (ht w (rely.from_self w hw))
  | step label act next ih =>
    intro v s hv
    obtain ⟨hkeep, hrest⟩ := ht v s hv
    exact ⟨hkeep, ih _ _ (hinvariant _ hkeep.1) hrest⟩

theorem abides_bind (returned' : β → ω → Prop) (t : Thread ℓ ε σ α) (f : α → Thread ℓ ε σ β)
    (w : ω) (hw : rely.invariant w) (hinvariant : ∀ v, terms.invariant v → rely.invariant v)
    (ht : Abides part terms rely returned (fun _ _ => True) t w)
    (hf : ∀ a v, rely.invariant v → returned a v →
      Abides part terms rely returned' (fun _ _ => True) (f a) v) :
    Abides part terms rely returned' (fun _ _ => True) (t >>= f) w :=
  abides_followedBy part terms rely returned _ returned' _ t _ w hw hinvariant ht hf
    fun _ _ _ _ _ _ => trivial

/-- A thread that needs nothing of the others beyond the invariant. -/
theorem abides_of_each (t : Thread ℓ ε σ α) (w : ω)
    (hinvariant : ∀ v, rely.invariant v → terms.invariant v)
    (ht : t.Each fun _ act => ∀ w s, terms.invariant w →
      terms.Keep w (part.published (act (part.install w s)))) :
    Abides part terms rely (fun _ _ => True) (fun _ _ => True) t w := by
  induction ht generalizing w with
  | done result =>
    cases result with
    | ok a => exact fun _ _ => trivial
    | error e => exact fun _ _ => trivial
  | step label act next hact _ ih =>
    intro w' s hw'
    exact ⟨hact w' s (hinvariant w' hw'.1), ih _ _⟩

/-- A promise made under one more invariant that the others respect. -/
theorem abides_keeping (Q : ω → Prop) (t : Thread ℓ ε σ α) (w : ω) (hQ : Q w)
    (hrely : ∀ v v', Q v → rely.Keep v v' → Q v')
    (h : Abides part (terms.keeping Q) (rely.keeping Q) returned raised t w) :
    Abides part terms rely (fun a v => returned a v ∧ Q v) (fun e v => raised e v ∧ Q v) t w := by
  induction t generalizing w with
  | done result =>
    have hkeep : ∀ v, rely.Keep w v → (rely.keeping Q).Keep w v := fun v hv =>
      ⟨⟨hv.1, hrely w v hQ hv⟩, hv.2⟩
    cases result with
    | ok a => exact fun v hv => ⟨h v (hkeep v hv), hrely w v hQ hv⟩
    | error e => exact fun v hv => ⟨h v (hkeep v hv), hrely w v hQ hv⟩
  | step label act next ih =>
    intro v s hv
    obtain ⟨hkeep, hrest⟩ := h v s ⟨⟨hv.1, hrely w v hQ hv⟩, hv.2⟩
    exact ⟨⟨hkeep.1.1, hkeep.2⟩, ih _ _ hkeep.1.2 hrest⟩

/-- What neither side undoes still holds when the thread ends. -/
theorem abides_stable (Q : ω → Prop) (t : Thread ℓ ε σ α) (w : ω) (hQ : Q w)
    (hterms : ∀ v v', Q v → terms.change v v' → Q v')
    (hrely : ∀ v v', Q v → rely.change v v' → Q v')
    (h : Abides part terms rely returned raised t w) :
    Abides part terms rely (fun a v => returned a v ∧ Q v) (fun e v => raised e v ∧ Q v) t w := by
  induction t generalizing w with
  | done result =>
    cases result with
    | ok a => exact fun v hv => ⟨h v hv, hrely w v hQ hv.2⟩
    | error e => exact fun v hv => ⟨h v hv, hrely w v hQ hv.2⟩
  | step label act next ih =>
    intro v s hv
    obtain ⟨hkeep, hrest⟩ := h v s hv
    exact ⟨hkeep, ih _ _ (hterms v _ (hrely w v hQ hv.2) hkeep.2) hrest⟩

/-- A thread on one part of a larger state keeps its promise there. -/
theorem abides_zoom {τ : Type} (whole : SharedPart ω τ) (view : τ → σ) (put : σ → τ → τ)
    (hinstall : ∀ w s, view (whole.install w s) = part.install w (view s))
    (hpublished : ∀ s t, whole.published (put s t) = part.published s) (t : Thread ℓ ε σ α) (w : ω)
    (h : Abides part terms rely returned raised t w) :
    Abides whole terms rely returned raised (t.zoom view put) w := by
  induction t generalizing w with
  | done result => cases result <;> exact h
  | step label act next ih =>
    intro v s hv
    obtain ⟨hkeep, hrest⟩ := h v (view s) hv
    rw [← hinstall, ← hpublished _ (whole.install v s)] at hkeep hrest
    exact ⟨hkeep, ih _ _ hrest⟩

end Rules

/-! ### The promises of a pool -/

section Plays
variable [DecidableEq ι] (I : ω → Prop) (terms rely : ι → Terms ω)
  (returned : ι → α → ω → Prop) (raised : ι → ε → ω → Prop) (strangers : ω → ω → Prop)
  (start : Pool ι ℓ ω ε σ α)

/-- Threads that rely on no more than the others and the strangers promise all keep their
promises, in whatever order they take their steps. -/
theorem abides_plays (history : List (Commit ι ℓ ω)) (u : Pool ι ℓ ω ε σ α)
    (hterms : ∀ i, (terms i).invariant = I) (hrely : ∀ i, (rely i).invariant = I)
    (hothers : ∀ i j, i ≠ j → ∀ w w', I w → (terms j).Keep w w' → (rely i).change w w')
    (hstrangers : ∀ w w', I w → strangers w w' → I w' ∧ ∀ i, (rely i).change w w')
    (hstart : I start.shared)
    (hthreads : ∀ i, Abides part (terms i) (rely i) (returned i) (raised i) (start.threads i)
      start.shared)
    (h : Plays part strangers start history u) :
    I u.shared ∧ (∀ i, Abides part (terms i) (rely i) (returned i) (raised i) (u.threads i) u.shared) ∧
      ∀ c ∈ history, I c.before ∧ (terms c.who).Keep c.before c.after := by
  induction h with
  | start => exact ⟨hstart, hthreads, fun _ hm => absurd hm List.not_mem_nil⟩
  | step history u i label act next _ hthread ih =>
    obtain ⟨hI, habides, hhistory⟩ := ih
    have hown := habides i
    rw [hthread] at hown
    obtain ⟨hkeep, hrest⟩ := hown u.shared (u.sessions i)
      ((rely i).from_self u.shared ((hrely i).symm ▸ hI))
    refine ⟨(hterms i) ▸ hkeep.1, ?_, ?_⟩
    · intro j
      simp only [Pool.stepped]
      by_cases hj : j = i
      · subst hj
        rw [Function.update_self]
        exact hrest
      · rw [Function.update_of_ne hj]
        exact abides_later part _ _ _ _ _ _ _ (habides j) (hothers j i hj _ _ hI hkeep)
    · intro c hm
      rcases List.mem_append.mp hm with hm | hm
      · exact hhistory c hm
      · rw [List.mem_singleton.mp hm]
        exact ⟨hI, hkeep⟩
  | strange history u w _ hstrange ih =>
    obtain ⟨hI, habides, hhistory⟩ := ih
    obtain ⟨hI', hchange⟩ := hstrangers u.shared w hI hstrange
    exact ⟨hI', fun i => abides_later part _ _ _ _ _ _ _ (habides i) (hchange i), hhistory⟩

/-- From the start to the end the store changes as every step may. -/
theorem plays_change (all : Terms ω) (history : List (Commit ι ℓ ω)) (u : Pool ι ℓ ω ε σ α)
    (hcommits : ∀ c ∈ history, all.change c.before c.after)
    (hstrangers : ∀ w w', strangers w w' → all.change w w')
    (h : Plays part strangers start history u) : all.change start.shared u.shared :=
  plays_induction part strangers start (fun _ w => all.change start.shared w) (all.refl _) history u
    (fun _ c hm hbefore => all.trans _ _ _ hbefore (hcommits c hm))
    (fun _ w w' hstrange hbefore => all.trans _ _ _ hbefore (hstrangers w w' hstrange)) h

end Plays

end ObsPlatform
