import ObsPlatform.Lib.OrderBy

/-!
# Pages of a sorted query

LIMIT and OFFSET cut one page out of the rows in the order the server picked. Pages are
read by queries of their own, so each page may be cut out of another arrangement of the
same rows. The pages put together are the rows, each once, unless a page ends amid rows
that the sort keys do not tell apart.
-/

namespace ObsPlatform

variable {ρ : Type}

/- LIMIT limit OFFSET offset. -/
def window (limit offset : ℕ) (rows : List ρ) : List ρ := (rows.drop offset).take limit

/-- The pages 0, ..., pages - 1 of the arrangements, one after the other. -/
def paged (limit : ℕ) (arrangements : ℕ → List ρ) (pages : ℕ) : List ρ :=
  (List.range pages).flatMap fun k => window limit (k * limit) (arrangements k)

theorem mem_window (limit offset : ℕ) (rows : List ρ) (row : ρ)
    (h : row ∈ window limit offset rows) :
    ∃ i, ∃ hi : i < rows.length, offset ≤ i ∧ i < offset + limit ∧ rows[i] = row := by
  obtain ⟨j, hj, rfl⟩ := List.mem_iff_getElem.mp h
  simp only [window, List.length_take, List.length_drop] at hj
  refine ⟨offset + j, by omega, by omega, by omega, ?_⟩
  simp [window]

theorem window_of_place (limit offset : ℕ) (rows : List ρ) (row : ρ) (i : ℕ)
    (hrow : rows[i]? = some row) (hfirst : offset ≤ i) (hlast : i < offset + limit) :
    row ∈ window limit offset rows := by
  rw [List.mem_iff_getElem?]
  refine ⟨i - offset, ?_⟩
  rw [window, List.getElem?_take_of_lt (by omega), List.getElem?_drop, ← hrow]
  congr 1
  omega

section Ranks
variable (le : ρ → ρ → Prop) [DecidableRel le]

/-- The rows that come before this one in every arrangement. -/
def earlier (rows : List ρ) (row : ρ) : ℕ := rows.countP fun other => ¬ le row other

/-- The rows that come no later than this one in some arrangement, itself included. -/
def notLater (rows : List ρ) (row : ρ) : ℕ := rows.countP fun other => le other row

/-- The place falls amid rows that the order does not tell apart. -/
def SplitsTies (rows : List ρ) (place : ℕ) : Prop :=
  ∃ row ∈ rows, earlier le rows row < place ∧ place < notLater le rows row

theorem earlier_perm (rows rows' : List ρ) (h : rows.Perm rows') (row : ρ) :
    earlier le rows row = earlier le rows' row := h.countP_eq _

theorem notLater_perm (rows rows' : List ρ) (h : rows.Perm rows') (row : ρ) :
    notLater le rows row = notLater le rows' row := h.countP_eq _

omit [DecidableRel le] in
theorem sorted_le [Std.Total le] (arranged : List ρ) (hsorted : arranged.Pairwise le) (i j : ℕ)
    (hi : i < arranged.length) (hj : j < arranged.length) (hij : i ≤ j) :
    le arranged[i] arranged[j] := by
  rcases Nat.lt_or_eq_of_le hij with hlt | rfl
  · exact List.pairwise_iff_getElem.mp hsorted i j hi hj hlt
  · rcases total_of le arranged[i] arranged[i] with h | h <;> exact h

theorem notLater_le_earlier [IsTrans ρ le] (rows : List ρ) (a b : ρ) (h : ¬ le a b) :
    notLater le rows b ≤ earlier le rows a := by
  apply List.countP_mono_left
  intro other _ hother
  rw [decide_eq_true_eq] at hother ⊢
  intro hle
  exact h (IsTrans.trans a other b hle hother)

variable [Std.Total le]

section Arranged
variable (arranged : List ρ) (hsorted : arranged.Pairwise le)
include hsorted

/-- A row's place in a sorted list is among the places of its ties. -/
theorem earlier_le_place (i : ℕ) (hi : i < arranged.length) :
    earlier le arranged arranged[i] ≤ i := by
  have hlate : (arranged.drop i).countP (fun other => ¬ le arranged[i] other) = 0 := by
    rw [List.countP_eq_zero]
    intro other hother
    obtain ⟨j, hj, rfl⟩ := List.mem_iff_getElem.mp hother
    rw [List.length_drop] at hj
    have hle := sorted_le le arranged hsorted i (i + j) hi (by omega) (by omega)
    simp [hle]
  have hearly : (arranged.take i).countP (fun other => ¬ le arranged[i] other) ≤ i :=
    List.countP_le_length.trans (List.length_take_le i arranged)
  have hsplit : earlier le arranged arranged[i] =
      (arranged.take i).countP (fun other => ¬ le arranged[i] other) +
        (arranged.drop i).countP (fun other => ¬ le arranged[i] other) := by
    rw [← List.countP_append, List.take_append_drop]
    rfl
  omega

theorem place_lt_notLater (i : ℕ) (hi : i < arranged.length) :
    i < notLater le arranged arranged[i] := by
  have hearly : (arranged.take (i + 1)).countP (fun other => le other arranged[i]) = i + 1 := by
    have hall : (arranged.take (i + 1)).countP (fun other => le other arranged[i]) =
        (arranged.take (i + 1)).length := by
      rw [List.countP_eq_length]
      intro other hother
      obtain ⟨j, hj, rfl⟩ := List.mem_iff_getElem.mp hother
      rw [List.length_take] at hj
      have hle := sorted_le le arranged hsorted j i (by omega) hi (by omega)
      simp [hle]
    rw [hall, List.length_take]
    omega
  have hsub : (arranged.take (i + 1)).countP (fun other => le other arranged[i]) ≤
      notLater le arranged arranged[i] := (List.take_sublist (i + 1) arranged).countP_le
  omega

/-- Between the places of a row's ties stand its ties only. -/
theorem tied_of_place [IsTrans ρ le] (row : ρ) (i : ℕ) (hi : i < arranged.length)
    (hearlier : earlier le arranged row ≤ i) (hnotLater : i < notLater le arranged row) :
    le row arranged[i] ∧ le arranged[i] row := by
  have hbefore := earlier_le_place le arranged hsorted i hi
  have hafter := place_lt_notLater le arranged hsorted i hi
  constructor
  · by_contra h
    have hrank := notLater_le_earlier le arranged row arranged[i] h
    omega
  · by_contra h
    have hrank := notLater_le_earlier le arranged arranged[i] row h
    omega

end Arranged

variable [IsTrans ρ le]

/-! ### Two arrangements of the same rows -/

section Pair
variable (rows arranged arranged' : List ρ) (hperm : arranged.Perm rows)
  (hsorted : arranged.Pairwise le) (hperm' : arranged'.Perm rows) (hsorted' : arranged'.Pairwise le)
include hperm hsorted hperm' hsorted'

/-- Rows at growing places do not decrease, whichever arrangements they are read from. -/
theorem le_of_places (i j : ℕ) (hi : i < arranged.length) (hj : j < arranged'.length)
    (hij : i < j) : le arranged[i] arranged'[j] := by
  by_contra h
  have hrank := notLater_le_earlier le rows arranged[i] arranged'[j] h
  have hbefore := earlier_le_place le arranged hsorted i hi
  have hafter := place_lt_notLater le arranged' hsorted' j hj
  rw [earlier_perm le arranged rows hperm] at hbefore
  rw [notLater_perm le arranged' rows hperm'] at hafter
  omega

omit [IsTrans ρ le] hperm' hsorted' in
/-- Up to a place that splits no ties a sorted list holds the rows of fewer earlier ones. -/
theorem take_eq_filter (place : ℕ) (hplace : ¬ SplitsTies le rows place) :
    arranged.take place = arranged.filter fun row => earlier le rows row < place := by
  have htake : (arranged.take place).filter (fun row => earlier le rows row < place) =
      arranged.take place := by
    rw [List.filter_eq_self]
    intro row hrow
    obtain ⟨i, hi, rfl⟩ := List.mem_iff_getElem.mp hrow
    rw [List.length_take] at hi
    have hbefore := earlier_le_place le arranged hsorted i (by omega)
    rw [earlier_perm le arranged rows hperm] at hbefore
    simp only [List.getElem_take, decide_eq_true_eq]
    omega
  have hdrop : (arranged.drop place).filter (fun row => earlier le rows row < place) = [] := by
    rw [List.filter_eq_nil_iff]
    intro row hrow
    obtain ⟨i, hi, rfl⟩ := List.mem_iff_getElem.mp hrow
    rw [List.length_drop] at hi
    have hafter := place_lt_notLater le arranged hsorted (place + i) (by omega)
    rw [notLater_perm le arranged rows hperm] at hafter
    simp only [List.getElem_drop, decide_eq_true_eq]
    intro hbefore
    have hmem := hperm.mem_iff.mp (arranged.getElem_mem (show place + i < _ by omega))
    exact hplace ⟨_, hmem, hbefore, by omega⟩
  calc arranged.take place
      = (arranged.take place).filter (fun row => earlier le rows row < place) ++
          (arranged.drop place).filter (fun row => earlier le rows row < place) := by
        rw [htake, hdrop, List.append_nil]
    _ = arranged.filter fun row => earlier le rows row < place := by
        rw [← List.filter_append, List.take_append_drop]

omit [IsTrans ρ le] in
theorem take_perm (place : ℕ) (hplace : ¬ SplitsTies le rows place) :
    (arranged.take place).Perm (arranged'.take place) := by
  rw [take_eq_filter le rows arranged hperm hsorted place hplace,
    take_eq_filter le rows arranged' hperm' hsorted' place hplace]
  exact (hperm.trans hperm'.symm).filter _

end Pair

/-! ### All the pages -/

section Paged
variable (rows : List ρ) (limit : ℕ) (arrangements : ℕ → List ρ)
  (hperm : ∀ k, (arrangements k).Perm rows) (hsorted : ∀ k, (arrangements k).Pairwise le)
include hperm hsorted

/-- The pages together are sorted, also across their ends. -/
theorem paged_sorted (pages : ℕ) : (paged limit arrangements pages).Pairwise le := by
  unfold paged
  rw [List.pairwise_flatMap]
  constructor
  · intro k _
    exact ((hsorted k).sublist (List.drop_sublist _ _)).sublist (List.take_sublist _ _)
  · apply List.pairwise_lt_range.imp
    intro k k' hk a ha b hb
    obtain ⟨i, hi, _, hlast, rfl⟩ := mem_window _ _ _ _ ha
    obtain ⟨j, hj, hfirst, _, rfl⟩ := mem_window _ _ _ _ hb
    have hpages : k * limit + limit ≤ k' * limit := by
      rw [← Nat.succ_mul]
      exact Nat.mul_le_mul_right limit hk
    exact le_of_places le rows (arrangements k) (arrangements k') (hperm k) (hsorted k) (hperm k')
      (hsorted k') i j hi hj (by omega)

omit [IsTrans ρ le] in
theorem paged_take (hends : ∀ k, ¬ SplitsTies le rows (k * limit)) (pages : ℕ)
    (arranged : List ρ) (harranged : arranged.Perm rows) (hle : arranged.Pairwise le) :
    (paged limit arrangements pages).Perm (arranged.take (pages * limit)) := by
  induction pages generalizing arranged with
  | zero => simp [paged]
  | succ pages ih =>
    have hearlier := ih (arrangements pages) (hperm pages) (hsorted pages)
    have hpaged : paged limit arrangements (pages + 1) =
        paged limit arrangements pages ++ window limit (pages * limit) (arrangements pages) := by
      simp [paged, List.range_succ]
    have htake : (arrangements pages).take ((pages + 1) * limit) =
        (arrangements pages).take (pages * limit) ++
          window limit (pages * limit) (arrangements pages) := by
      rw [Nat.succ_mul, List.take_add]
      rfl
    have hlast := take_perm le rows (arrangements pages) arranged (hperm pages) (hsorted pages)
      harranged hle ((pages + 1) * limit) (hends (pages + 1))
    rw [htake] at hlast
    rw [hpaged]
    exact (hearlier.append_right _).trans hlast

omit [IsTrans ρ le] in
/-- Where no page ends amid ties, the pages are the rows, each as often as it is stored. -/
theorem paged_perm (hends : ∀ k, ¬ SplitsTies le rows (k * limit)) (pages : ℕ)
    (hpages : rows.length ≤ pages * limit) : (paged limit arrangements pages).Perm rows := by
  have htake := paged_take le rows limit arrangements hperm hsorted hends pages (arrangements 0)
    (hperm 0) (hsorted 0)
  rw [List.take_of_length_le (by rw [(hperm 0).length_eq]; exact hpages)] at htake
  exact htake.trans (hperm 0)

end Paged

/-! ### A page that ends amid ties -/

section Split
variable (rows arranged : List ρ) (hperm : arranged.Perm rows) (hsorted : arranged.Pairwise le)
  (place : ℕ) (hplace : SplitsTies le rows place)
include hperm hsorted hplace

/-- The two rows at the place are tied. -/
theorem ties_at_place : ∃ front a b back, arranged = front ++ a :: b :: back ∧
    front.length + 1 = place ∧ le a b ∧ le b a := by
  obtain ⟨row, _, hearlier, hnotLater⟩ := hplace
  have hlength : notLater le rows row ≤ rows.length := List.countP_le_length
  rw [← hperm.length_eq] at hlength
  rw [← earlier_perm le arranged rows hperm] at hearlier
  rw [← notLater_perm le arranged rows hperm] at hnotLater hlength
  obtain ⟨last, rfl⟩ : ∃ last, place = last + 1 := ⟨place - 1, by omega⟩
  have ha := tied_of_place le arranged hsorted row last (by omega) (by omega) (by omega)
  have hb := tied_of_place le arranged hsorted row (last + 1) (by omega) (by omega) (by omega)
  refine ⟨arranged.take last, arranged[last], arranged[last + 1], arranged.drop (last + 2), ?_, ?_,
    IsTrans.trans _ _ _ ha.2 hb.1, IsTrans.trans _ _ _ hb.2 ha.1⟩
  · rw [← List.drop_eq_getElem_cons, ← List.drop_eq_getElem_cons, List.take_append_drop]
  · rw [List.length_take]
    omega

/-- So another arrangement has them the other way round. -/
theorem swapped_at_place : ∃ swapped : List ρ, swapped.Perm rows ∧ swapped.Pairwise le ∧
    ∃ row, arranged[place - 1]? = some row ∧ swapped[place]? = some row := by
  obtain ⟨front, a, b, back, rfl, hfront, hab, hba⟩ :=
    ties_at_place le rows arranged hperm hsorted place hplace
  refine ⟨front ++ b :: a :: back, ?_, ?_, a, ?_, ?_⟩
  · exact ((List.Perm.swap a b back).append_left front).trans hperm
  · simp only [List.pairwise_append, List.pairwise_cons, List.mem_cons, forall_eq_or_imp]
      at hsorted ⊢
    obtain ⟨hfrontSorted, ⟨⟨_, haback⟩, hbback, hback⟩, hcross⟩ := hsorted
    refine ⟨hfrontSorted, ⟨⟨hba, hbback⟩, haback, hback⟩, ?_⟩
    intro row hrow
    obtain ⟨hrowa, hrowb, hrowback⟩ := hcross row hrow
    exact ⟨hrowb, hrowa, hrowback⟩
  · rw [← hfront, Nat.add_sub_cancel]
    simp
  · rw [← hfront, List.getElem?_append_right (by omega)]
    simp

/-- With the one arrangement before the place and the other from it on, a row is read twice. -/
theorem split_repeats (limit k : ℕ) (hk : place = k * limit) :
    ∃ arrangements : ℕ → List ρ, (∀ j, (arrangements j).Perm rows) ∧
      (∀ j, (arrangements j).Pairwise le) ∧ ∃ row, ∃ j < k,
        row ∈ window limit (j * limit) (arrangements j) ∧
          row ∈ window limit (k * limit) (arrangements k) := by
  obtain ⟨_, _, hearlier, _⟩ := id hplace
  obtain ⟨swapped, hswapped, hswappedSorted, row, hlast, hfirst⟩ :=
    swapped_at_place le rows arranged hperm hsorted place hplace
  obtain ⟨j, rfl⟩ : ∃ j, k = j + 1 := by
    cases k with
    | zero => omega
    | succ j => exact ⟨j, rfl⟩
  have hlimit : place = j * limit + limit := by rw [hk, Nat.succ_mul]
  have hpositive : limit ≠ 0 := by
    rintro rfl
    omega
  refine ⟨fun i => if i = j + 1 then swapped else arranged, ?_, ?_, row, j, Nat.lt_succ_self j,
    ?_, ?_⟩
  · intro i
    by_cases hi : i = j + 1
    · simp only [if_pos hi]
      exact hswapped
    · simp only [if_neg hi]
      exact hperm
  · intro i
    by_cases hi : i = j + 1
    · simp only [if_pos hi]
      exact hswappedSorted
    · simp only [if_neg hi]
      exact hsorted
  · simp only [if_neg (Nat.ne_of_lt (Nat.lt_succ_self j))]
    exact window_of_place limit (j * limit) arranged row (place - 1) hlast (by omega) (by omega)
  · simp only [← hk]
    exact window_of_place limit place swapped row place hfirst (Nat.le_refl place) (by omega)

end Split
end Ranks

/-- A row on two of the pages makes them repeat it. -/
theorem paged_not_nodup (limit : ℕ) (arrangements : ℕ → List ρ) (pages j k : ℕ) (hj : j < k)
    (hk : k < pages) (row : ρ) (hrowj : row ∈ window limit (j * limit) (arrangements j))
    (hrowk : row ∈ window limit (k * limit) (arrangements k)) :
    ¬ (paged limit arrangements pages).Nodup := by
  unfold paged
  rw [List.nodup_flatMap]
  rintro ⟨_, hdisjoint⟩
  have hapart := List.pairwise_iff_getElem.mp hdisjoint j k (by simp; omega) (by simp; omega) hj
  simp only [Function.onFun, List.getElem_range] at hapart
  exact hapart hrowj hrowk

/-- Every sorted arrangement of the rows is one the server may return. -/
theorem OrderBy.exists_arranging (le : ρ → ρ → Prop) [Std.Total le] [IsTrans ρ le]
    (rows arranged : List ρ) (hperm : arranged.Perm rows) (hsorted : arranged.Pairwise le) :
    ∃ order : OrderBy le, order.arrange rows = arranged := by
  classical
  obtain ⟨otherwise⟩ := OrderBy.nonempty (total_of le) fun a b c => IsTrans.trans (r := le) a b c
  refine ⟨⟨fun given => if given = rows then arranged else otherwise.arrange given, ?_, ?_⟩, ?_⟩
  · intro given
    by_cases hgiven : given = rows
    · rw [if_pos hgiven, hgiven]
      exact hperm
    · rw [if_neg hgiven]
      exact otherwise.perm given
  · intro given
    by_cases hgiven : given = rows
    · rw [if_pos hgiven]
      exact hsorted
    · rw [if_neg hgiven]
      exact otherwise.sorted given
  · exact if_pos rfl

end ObsPlatform
