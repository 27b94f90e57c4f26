import ObsPlatform.Lib.Turns

/-!
# Claims of a unique key

Claimants look whether a key is taken and insert it when it is not; an inserted key is
committed in a step of its own. An insert waits while another claimant's is uncommitted,
and is refused when the key is taken by then. Whoever commits wins (`exists_winner`), and
a claimant that saw the key free can still be refused: nobody is exactly when no check
comes between another claimant's check and its commit (`unclashed_iff_apart`).
-/

namespace ObsPlatform

/-- Where a claimant is. -/
inductive Stage where
  | checking
  | inserting
  | holding
  | won
  | turnedAway
  | clashed
  deriving Repr, DecidableEq

/-- Between its check and its commit. -/
def Stage.pending : Stage → Bool
  | .inserting => true
  | .holding => true
  | _ => false

def Stage.ended : Stage → Bool
  | .won => true
  | .turnedAway => true
  | .clashed => true
  | _ => false

structure Claims (ι : Type) where
  taken : Bool
  holder : Option ι
  stage : ι → Stage

namespace Claims

variable {ι : Type} [DecidableEq ι]

def start (taken : Bool) : Claims ι := ⟨taken, none, fun _ => .checking⟩

def moved (c : Claims ι) (i : ι) (stage : Stage) : Claims ι :=
  { c with stage := Function.update c.stage i stage }

theorem moved_stage (c : Claims ι) (i j : ι) (stage : Stage) :
    (c.moved i stage).stage j = if j = i then stage else c.stage j :=
  Function.update_apply c.stage i stage j

theorem moved_same (c : Claims ι) (i : ι) (stage : Stage) (h : c.stage i = stage) :
    c.moved i stage = c := by
  rw [moved, ← h, Function.update_eq_self]

theorem moved_all (c : Claims ι) (i : ι) (stage : Stage) (P : Stage → Prop) (hnew : P stage)
    (hothers : ∀ j, j ≠ i → P (c.stage j)) (j : ι) : P ((c.moved i stage).stage j) := by
  rw [moved_stage]
  split
  case isTrue => exact hnew
  case isFalse hj => exact hothers j hj

theorem moved_only (c : Claims ι) (i : ι) (stage : Stage) (P : Stage → Prop)
    (hbefore : ∀ j, P (c.stage j) → j = i) (j : ι) (h : P ((c.moved i stage).stage j)) : j = i := by
  rw [moved_stage] at h
  split at h
  case isTrue hj => exact hj
  case isFalse => exact hbefore j h

/-- One step of one claimant, unless it has ended or waits. -/
def step (c : Claims ι) (i : ι) : Option (Claims ι) :=
  match c.stage i with
  | .checking => some (c.moved i (if c.taken then .turnedAway else .inserting))
  | .inserting =>
    if c.holder.isSome then none
    else if c.taken then some (c.moved i .clashed)
    else some { c.moved i .holding with holder := some i }
  | .holding => some { c.moved i .won with taken := true, holder := none }
  | .won => none
  | .turnedAway => none
  | .clashed => none

/-- What a step can do. -/
inductive Steps (c : Claims ι) (i : ι) : Claims ι → Prop where
  | turnedAway (hstage : c.stage i = .checking) (htaken : c.taken = true) :
      Steps c i (c.moved i .turnedAway)
  | passed (hstage : c.stage i = .checking) (htaken : c.taken = false) :
      Steps c i (c.moved i .inserting)
  | clashed (hstage : c.stage i = .inserting) (hholder : c.holder = none)
      (htaken : c.taken = true) : Steps c i (c.moved i .clashed)
  | inserted (hstage : c.stage i = .inserting) (hholder : c.holder = none)
      (htaken : c.taken = false) : Steps c i { c.moved i .holding with holder := some i }
  | committed (hstage : c.stage i = .holding) :
      Steps c i { c.moved i .won with taken := true, holder := none }

theorem steps_of_step (c c' : Claims ι) (i : ι) (h : c.step i = some c') : Steps c i c' := by
  unfold step at h
  cases hstage : c.stage i with
  | checking =>
    cases htaken : c.taken with
    | true =>
      simp only [hstage, htaken, if_true, Option.some.injEq] at h
      rw [← h]
      exact .turnedAway hstage htaken
    | false =>
      simp only [hstage, htaken, Bool.false_eq_true, if_false, Option.some.injEq] at h
      rw [← h]
      exact .passed hstage htaken
  | inserting =>
    cases hholder : c.holder with
    | some j => simp [hstage, hholder] at h
    | none =>
      cases htaken : c.taken with
      | true =>
        simp only [hstage, hholder, htaken, Option.isSome_none, Bool.false_eq_true, if_false,
          if_true, Option.some.injEq] at h
        rw [← h]
        exact .clashed hstage hholder htaken
      | false =>
        simp only [hstage, hholder, htaken, Option.isSome_none, Bool.false_eq_true, if_false,
          Option.some.injEq] at h
        rw [← h]
        exact .inserted hstage hholder htaken
  | holding =>
    simp only [hstage, Option.some.injEq] at h
    rw [← h]
    exact .committed hstage
  | won => simp [hstage] at h
  | turnedAway => simp [hstage] at h
  | clashed => simp [hstage] at h

/-! ### One winner -/

/-- What holds of claims to a key that was taken, or not, before the first of them. -/
structure Settling (before : Bool) (c : Claims ι) : Prop where
  held : ∀ i, c.stage i = .holding ↔ c.holder = some i
  open_of_held : ∀ i, c.stage i = .holding → c.taken = false
  untaken : c.taken = false → before = false ∧ ∀ i, (c.stage i).ended = false
  taken : c.taken = true → before = true ∨ ∃ i, c.stage i = .won
  winner : ∀ i j, c.stage i = .won → c.stage j = .won → i = j
  before_of_won : ∀ i, c.stage i = .won → before = false

omit [DecidableEq ι] in
theorem settling_start (before : Bool) : Settling before (start before : Claims ι) := by
  constructor <;> simp [start, Stage.ended]

/-- A step that neither takes the key nor gives it away. -/
theorem settling_moved (before : Bool) (c : Claims ι) (i : ι) (stage : Stage)
    (h : Settling before c) (hfrom : c.stage i ≠ .holding ∧ c.stage i ≠ .won)
    (hto : stage ≠ .holding ∧ stage ≠ .won) (hended : c.taken = false → stage.ended = false) :
    Settling before (c.moved i stage) := by
  have hheld : ∀ j, (c.moved i stage).stage j = .holding ↔ c.stage j = .holding := by
    intro j
    rw [moved_stage]
    split
    case isTrue hj => simp [hj, hto.1, hfrom.1]
    case isFalse => rfl
  have hwon : ∀ j, (c.moved i stage).stage j = .won ↔ c.stage j = .won := by
    intro j
    rw [moved_stage]
    split
    case isTrue hj => simp [hj, hto.2, hfrom.2]
    case isFalse => rfl
  constructor
  · intro j
    rw [hheld]
    exact h.held j
  · intro j hj
    exact h.open_of_held j ((hheld j).mp hj)
  · intro htaken
    have huntaken := h.untaken htaken
    refine ⟨huntaken.1, ?_⟩
    intro j
    rw [moved_stage]
    split
    case isTrue => exact hended htaken
    case isFalse => exact huntaken.2 j
  · simp only [hwon]
    exact h.taken
  · intro j k hj hk
    exact h.winner j k ((hwon j).mp hj) ((hwon k).mp hk)
  · intro j hj
    exact h.before_of_won j ((hwon j).mp hj)

theorem settling_inserted (before : Bool) (c : Claims ι) (i : ι) (h : Settling before c)
    (hholder : c.holder = none) (htaken : c.taken = false) :
    Settling before { c.moved i .holding with holder := some i } := by
  have huntaken := h.untaken htaken
  have hended := c.moved_all i .holding (fun stage => stage.ended = false) rfl
    fun j _ => huntaken.2 j
  have hwon : ∀ j, (c.moved i .holding).stage j ≠ .won := by
    intro j hj
    have hfalse := hended j
    rw [hj] at hfalse
    cases hfalse
  have honly := c.moved_only i .holding (fun stage => stage = .holding) (by
    intro j hj
    rw [h.held j, hholder] at hj
    cases hj)
  constructor
  · intro j
    constructor
    · intro hj
      rw [honly j hj]
    · intro hj
      rw [← Option.some.inj hj]
      exact (c.moved_stage i i .holding).trans (if_pos rfl)
  · exact fun _ _ => htaken
  · exact fun _ => ⟨huntaken.1, hended⟩
  · intro htrue
    rw [show c.taken = true from htrue] at htaken
    cases htaken
  · exact fun j _ hj _ => absurd hj (hwon j)
  · exact fun j hj => absurd hj (hwon j)

theorem settling_committed (before : Bool) (c : Claims ι) (i : ι) (h : Settling before c)
    (hstage : c.stage i = .holding) :
    Settling before { c.moved i .won with taken := true, holder := none } := by
  have huntaken := h.untaken (h.open_of_held i hstage)
  have hheld := c.moved_all i .won (fun stage => stage ≠ .holding) (by decide) (by
    intro j hne hj
    have hsame := ((h.held j).mp hj).symm.trans ((h.held i).mp hstage)
    exact hne (Option.some.inj hsame))
  have honly := c.moved_only i .won (fun stage => stage = .won) (by
    intro j hj
    have hfalse := huntaken.2 j
    rw [hj] at hfalse
    cases hfalse)
  constructor
  · intro j
    constructor
    · exact fun hj => absurd hj (hheld j)
    · intro hj
      cases hj
  · exact fun j hj => absurd hj (hheld j)
  · intro hfalse
    cases hfalse
  · intro _
    exact .inr ⟨i, by rw [moved_stage, if_pos rfl]⟩
  · exact fun j k hj hk => (honly j hj).trans (honly k hk).symm
  · exact fun _ _ => huntaken.1

theorem settling_step (before : Bool) (c : Claims ι) (i : ι) (c' : Claims ι)
    (h : Settling before c) (hstep : c.step i = some c') : Settling before c' := by
  cases steps_of_step c c' i hstep with
  | turnedAway hstage htaken =>
    exact settling_moved before c i _ h (by simp [hstage]) (by simp) (by simp [htaken])
  | passed hstage htaken =>
    exact settling_moved before c i _ h (by simp [hstage]) (by simp) (by simp [Stage.ended])
  | clashed hstage _ htaken =>
    exact settling_moved before c i _ h (by simp [hstage]) (by simp) (by simp [htaken])
  | inserted _ hholder htaken => exact settling_inserted before c i h hholder htaken
  | committed hstage => exact settling_committed before c i h hstage

/-! ### The end of a schedule -/

section End
variable (before : Bool) (c : Claims ι) (h : Settling before c) (hend : ∀ i, c.step i = none)
include h hend

/-- Nobody waits for ever. -/
theorem ended_of_still (i : ι) : (c.stage i).ended = true := by
  have hnone : ∀ j, c.stage j ≠ .holding := by
    intro j hj
    have hstill := hend j
    simp [step, hj] at hstill
  have hholder : c.holder = none := by
    cases hc : c.holder with
    | none => rfl
    | some j => exact absurd ((h.held j).mpr hc) (hnone j)
  have hstill := hend i
  cases hstage : c.stage i with
  | checking => simp [step, hstage] at hstill
  | inserting => cases htaken : c.taken <;> simp [step, hstage, hholder, htaken] at hstill
  | holding => exact absurd hstage (hnone i)
  | won => rfl
  | turnedAway => rfl
  | clashed => rfl

theorem exists_winner [Nonempty ι] (hbefore : before = false) : ∃! i, c.stage i = .won := by
  obtain ⟨i⟩ := ‹Nonempty ι›
  have hended := ended_of_still before c h hend i
  have htaken : c.taken = true := by
    cases htaken : c.taken with
    | true => rfl
    | false =>
      rw [(h.untaken htaken).2 i] at hended
      cases hended
  rcases h.taken htaken with htrue | ⟨j, hj⟩
  · rw [hbefore] at htrue
    cases htrue
  · exact ⟨j, hj, fun k hk => h.winner k j hk hj⟩

end End

/-! ### Claims that do not clash -/

/-- A claimant that checks a key that is not taken does so between no other claimant's check
and commit. -/
def Apart (c : Claims ι) (i : ι) : Prop :=
  c.stage i = .checking → c.taken = true ∨ ∀ j, (c.stage j).pending = false

/-- Nobody has clashed, and at most one claimant is about to take the key. -/
structure NoClash (c : Claims ι) : Prop where
  none : ∀ i, c.stage i ≠ .clashed
  untaken : ∀ i, (c.stage i).pending = true → c.taken = false
  single : ∀ i j, (c.stage i).pending = true → (c.stage j).pending = true → i = j

omit [DecidableEq ι] in
theorem noClash_start (before : Bool) : NoClash (start before : Claims ι) := by
  constructor <;> simp [start, Stage.pending]

/-- A step after which nobody but the claimant is about to take the key. -/
theorem noClash_moved (c : Claims ι) (i : ι) (stage : Stage) (taken : Bool) (holder : Option ι)
    (h : NoClash c) (hstage : stage ≠ .clashed)
    (honly : ∀ j, (c.stage j).pending = true → j = i)
    (htaken : stage.pending = true → taken = false) :
    NoClash { c.moved i stage with taken := taken, holder := holder } := by
  have hpending := c.moved_only i stage (fun stage => stage.pending = true) honly
  constructor
  · exact c.moved_all i stage (fun stage => stage ≠ .clashed) hstage fun j _ => h.none j
  · intro j hj
    have hself : j = i := hpending j hj
    have hj : ((c.moved i stage).stage j).pending = true := hj
    rw [hself, moved_stage, if_pos rfl] at hj
    exact htaken hj
  · exact fun j k hj hk => (hpending j hj).trans (hpending k hk).symm

theorem noClash_step (c : Claims ι) (i : ι) (c' : Claims ι) (h : NoClash c) (hapart : Apart c i)
    (hstep : c.step i = some c') : NoClash c' := by
  cases steps_of_step c c' i hstep with
  | turnedAway hstage htaken =>
    apply noClash_moved c i .turnedAway c.taken c.holder h (by decide)
    · intro j hj
      have hfalse := h.untaken j hj
      rw [htaken] at hfalse
      cases hfalse
    · intro hfalse
      cases hfalse
  | passed hstage htaken =>
    apply noClash_moved c i .inserting c.taken c.holder h (by decide)
    · intro j hj
      rcases hapart hstage with htrue | hnone
      · rw [htaken] at htrue
        cases htrue
      · rw [hnone j] at hj
        cases hj
    · exact fun _ => htaken
  | clashed hstage _ htaken =>
    have hfalse := h.untaken i (by rw [hstage]; rfl)
    rw [htaken] at hfalse
    cases hfalse
  | inserted hstage _ htaken =>
    apply noClash_moved c i .holding c.taken (some i) h (by decide)
    · exact fun j hj => h.single j i hj (by rw [hstage]; rfl)
    · exact fun _ => htaken
  | committed hstage =>
    apply noClash_moved c i .won true none h (by decide)
    · exact fun j hj => h.single j i hj (by rw [hstage]; rfl)
    · intro hfalse
      cases hfalse

/-- Past its check, and not turned away by it. -/
def Entered (c : Claims ι) (i : ι) : Prop := c.stage i ≠ .checking ∧ c.stage i ≠ .turnedAway

theorem entered_step (c : Claims ι) (i j : ι) (h : Entered c j) :
    Entered ((c.step i).getD c) j := by
  cases hstep : c.step i with
  | none => exact h
  | some c' =>
    have hkept : ∀ stage, stage ≠ .checking ∧ (stage = .turnedAway → c.stage i = .checking) →
        Entered (c.moved i stage) j := by
      intro stage hstage
      rw [Entered, moved_stage]
      split
      case isTrue heq =>
        rw [heq] at h
        exact ⟨hstage.1, fun hturned => h.1 (hstage.2 hturned)⟩
      case isFalse => exact h
    cases steps_of_step c c' i hstep with
    | turnedAway hstage _ => exact hkept _ ⟨nofun, fun _ => hstage⟩
    | passed => exact hkept _ ⟨nofun, nofun⟩
    | clashed => exact hkept _ ⟨nofun, nofun⟩
    | inserted => exact hkept _ ⟨nofun, nofun⟩
    | committed => exact hkept _ ⟨nofun, nofun⟩

theorem entered_turns (c : Claims ι) (j : ι) (h : Entered c j) (schedule : List ι) :
    Entered (turns step c schedule) j := by
  induction schedule generalizing c with
  | nil => exact h
  | cons i schedule ih => exact ih _ (entered_step c i j h)

/-- Two claimants that both saw the key free: one of them clashes. -/
theorem clash_of_entered (before : Bool) (c : Claims ι) (h : Settling before c)
    (hend : ∀ i, c.step i = none) (i j : ι) (hne : i ≠ j) (hi : Entered c i) (hj : Entered c j) :
    ∃ k, c.stage k = .clashed := by
  have hends : ∀ k, Entered c k → c.stage k ≠ .clashed → c.stage k = .won := by
    intro k hk hclashed
    have hended := ended_of_still before c h hend k
    cases hstage : c.stage k with
    | checking => exact absurd hstage hk.1
    | inserting => rw [hstage] at hended; cases hended
    | holding => rw [hstage] at hended; cases hended
    | won => rfl
    | turnedAway => exact absurd hstage hk.2
    | clashed => exact absurd hstage hclashed
  by_contra hnone
  have hnone : ∀ k, c.stage k ≠ .clashed := fun k hk => hnone ⟨k, hk⟩
  exact hne (h.winner i j (hends i hi (hnone i)) (hends j hj (hnone j)))

theorem apart_of_unclashed (before : Bool) (c : Claims ι) (h : Settling before c)
    (schedule : List ι) (hend : ∀ i, (turns step c schedule).step i = none)
    (hnone : ∀ i, (turns step c schedule).stage i ≠ .clashed) : EachTurn step Apart c schedule := by
  induction schedule generalizing c with
  | nil => exact trivial
  | cons i schedule ih =>
    have hsettling : Settling before ((c.step i).getD c) := by
      cases hstep : c.step i with
      | none => exact h
      | some c' => exact settling_step before c i c' h hstep
    refine ⟨?_, ih _ hsettling hend hnone⟩
    intro hchecking
    cases htaken : c.taken with
    | true => exact .inl rfl
    | false =>
      right
      intro j
      cases hpending : (c.stage j).pending with
      | false => rfl
      | true =>
        have hne : j ≠ i := by
          intro heq
          rw [heq, hchecking] at hpending
          cases hpending
        have hj : Entered c j := by
          constructor
          · intro hstage
            rw [hstage] at hpending
            cases hpending
          · intro hstage
            rw [hstage] at hpending
            cases hpending
        have hi : Entered ((c.step i).getD c) i := by
          simp [step, hchecking, htaken, Entered, moved_stage]
        have hlast := turns_induction step (Settling before) (settling_step before) _ hsettling
          schedule
        obtain ⟨k, hk⟩ := clash_of_entered before _ hlast hend i j (Ne.symm hne)
          (entered_turns _ i hi schedule) (entered_turns _ j (entered_step c i j hj) schedule)
        exact absurd hk (hnone k)

/-- When nobody can step any more, nobody has clashed exactly when the checks were kept apart. -/
theorem unclashed_iff_apart (before : Bool) (schedule : List ι)
    (hend : ∀ i, (turns step (start before) schedule).step i = none) :
    (∀ i, (turns step (start before) schedule).stage i ≠ .clashed) ↔
      EachTurn step Apart (start before : Claims ι) schedule := by
  constructor
  · exact apart_of_unclashed before _ (settling_start before) schedule hend
  · intro hturns
    exact (eachTurn_induction step Apart NoClash noClash_step _ (noClash_start before)
      schedule hturns).none

end Claims

end ObsPlatform
