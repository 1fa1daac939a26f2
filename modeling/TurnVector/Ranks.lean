import Mathlib.Data.List.Sort
import Mathlib.Data.Rat.Floor
import Mathlib.Tactic.Linarith
import Mathlib.Tactic.Ring

/-! # Ranks and interpolation

The items of a sorted list by how many are below them, and values between two neighbours.
-/

namespace TurnVector.Ranks

/-! ## Sorted lists -/

section Sorted

variable {α : Type} [LinearOrder α]

/-- `sorted(xs)` -/
abbrev sort (xs : List α) : List α := xs.insertionSort (· ≤ ·)

theorem sort_perm {xs ys : List α} (h : xs.Perm ys) : sort xs = sort ys := by
  have hperm : (sort xs).Perm (sort ys) :=
    ((List.perm_insertionSort _ xs).trans h).trans (List.perm_insertionSort _ ys).symm
  exact hperm.eq_of_sortedLE List.sortedLE_insertionSort List.sortedLE_insertionSort

/-- What holds of all that is below holds of an item where it holds of enough of them. -/
theorem holds_iff_countP (P : α → Prop) [DecidablePred P] (hdown : ∀ a b, a ≤ b → P b → P a) (xs : List α)
    (hsorted : xs.Pairwise (· ≤ ·)) (k : Nat) (hk : k < xs.length) :
    P xs[k] ↔ k < xs.countP fun x => decide (P x) := by
  induction xs generalizing k with
  | nil => simp at hk
  | cons x xs ih =>
    obtain ⟨hhead, hsorted⟩ := List.pairwise_cons.mp hsorted
    by_cases hx : P x
    · rw [List.countP_cons_of_pos (by simpa using hx)]
      cases k with
      | zero => simp [hx]
      | succ k =>
        rw [List.getElem_cons_succ, ih hsorted k (by simpa using hk)]
        omega
    · have hnone : ∀ y ∈ x :: xs, ¬ P y := by
        intro y hy hPy
        rcases List.mem_cons.mp hy with rfl | hy
        · exact hx hPy
        · exact hx (hdown x y (hhead y hy) hPy)
      have hzero : (x :: xs).countP (fun y => decide (P y)) = 0 :=
        List.countP_eq_zero.mpr fun y hy => by simpa using hnone y hy
      rw [hzero]
      simp only [Nat.not_lt_zero, iff_false]
      exact hnone _ (List.getElem_mem hk)

theorem length_sort (xs : List α) : (sort xs).length = xs.length := List.length_insertionSort _ _

theorem sort_holds_iff (P : α → Prop) [DecidablePred P] (hdown : ∀ a b, a ≤ b → P b → P a) (xs : List α) (k : Nat)
    (hk : k < (sort xs).length) : P (sort xs)[k] ↔ k < xs.countP fun x => decide (P x) := by
  rw [holds_iff_countP P hdown (sort xs) List.sortedLE_insertionSort.pairwise k hk,
    (List.perm_insertionSort _ xs).countP_eq]

/-- More than `k` items are no greater than the item of rank `k`. -/
theorem lt_countP_le (xs : List α) (k : Nat) (hk : k < (sort xs).length) :
    k < xs.countP fun x => decide (x ≤ (sort xs)[k]) :=
  (sort_holds_iff (· ≤ (sort xs)[k]) (fun _ _ hab hb => hab.trans hb) xs k hk).mp le_rfl

/-- No more than `k` items are less than the item of rank `k`. -/
theorem countP_lt_le (xs : List α) (k : Nat) (hk : k < (sort xs).length) :
    (xs.countP fun x => decide (x < (sort xs)[k])) ≤ k := by
  by_contra hmore
  have hself := (sort_holds_iff (· < (sort xs)[k]) (fun _ _ hab hb => hab.trans_lt hb) xs k hk).mpr (by omega)
  exact lt_irrefl _ hself

theorem countP_le_of_forall₂ {xs ys : List α} (h : List.Forall₂ (· ≤ ·) xs ys) (v : α) :
    (ys.countP fun y => decide (y ≤ v)) ≤ xs.countP fun x => decide (x ≤ v) := by
  induction h with
  | nil => simp
  | @cons x y xs ys hxy _ ih =>
    by_cases hy : y ≤ v
    · rw [List.countP_cons_of_pos (by simpa using hy), List.countP_cons_of_pos (by simpa using hxy.trans hy)]
      omega
    · rw [List.countP_cons_of_neg (by simpa using hy)]
      exact ih.trans (List.sublist_cons_self x xs).countP_le

/-- Where no item falls, none of the sorted items does. -/
theorem sort_le_sort {xs ys : List α} (h : List.Forall₂ (· ≤ ·) xs ys) (k : Nat) (hx : k < (sort xs).length)
    (hy : k < (sort ys).length) : (sort xs)[k] ≤ (sort ys)[k] :=
  (sort_holds_iff (· ≤ (sort ys)[k]) (fun _ _ hab hb => hab.trans hb) xs k hx).mpr
    ((lt_countP_le ys k hy).trans_le (countP_le_of_forall₂ h _))

theorem sort_monotone (xs : List α) {i j : Nat} (hij : i ≤ j) (hj : j < (sort xs).length) :
    (sort xs)[i] ≤ (sort xs)[j] := by
  rcases hij.eq_or_lt with rfl | hlt
  · exact le_rfl
  · exact List.pairwise_iff_getElem.mp List.sortedLE_insertionSort.pairwise i j _ hj hlt

/-- At least so many items are no greater than one of them, and fewer are less. -/
structure AtRank (xs : List α) (rank : ℚ) (v : α) : Prop where
  item : v ∈ xs
  reached : rank ≤ (xs.countP fun x => decide (x ≤ v) : ℕ)
  needed : ((xs.countP fun x => decide (x < v) : ℕ) : ℚ) < rank

theorem lt_length_sort (xs : List α) {rank : ℚ} (hpos : 0 < rank) (hle : rank ≤ xs.length) :
    ⌈rank⌉₊ - 1 < (sort xs).length := by
  have hone : 0 < ⌈rank⌉₊ := Nat.ceil_pos.mpr hpos
  have hceil : ⌈rank⌉₊ ≤ xs.length := Nat.ceil_le.mpr hle
  rw [length_sort]
  omega

/-- The item at the rank, rounded up. -/
theorem sort_atRank (xs : List α) {rank : ℚ} (hpos : 0 < rank) (hk : ⌈rank⌉₊ - 1 < (sort xs).length) :
    AtRank xs rank (sort xs)[⌈rank⌉₊ - 1] := by
  have hone : 0 < ⌈rank⌉₊ := Nat.ceil_pos.mpr hpos
  constructor
  · exact (List.perm_insertionSort _ xs).mem_iff.mp (List.getElem_mem hk)
  · have hreached := lt_countP_le xs _ hk
    exact (Nat.le_ceil rank).trans (by exact_mod_cast Nat.le_of_pred_lt hreached)
  · have hneeded := countP_lt_le xs _ hk
    exact Nat.lt_ceil.mp (by omega)

end Sorted

/-! ## Between two neighbours -/

section Interpolation

/-- The value at a place between two indices. -/
def interpolate (values : Nat → ℚ) (position : ℚ) : ℚ :=
  values ⌊position⌋₊ * (1 - (position - ⌊position⌋₊)) + values ⌈position⌉₊ * (position - ⌊position⌋₊)

variable {values : Nat → ℚ} {n : Nat}

/-- A value lies between those of its neighbours. -/
theorem interpolate_between (hmono : ∀ i j, i ≤ j → j < n → values i ≤ values j) {position : ℚ} (hpos : 0 ≤ position)
    (hin : ⌈position⌉₊ < n) :
    values ⌊position⌋₊ ≤ interpolate values position ∧ interpolate values position ≤ values ⌈position⌉₊ := by
  have hle := hmono _ _ (Nat.floor_le_ceil position) hin
  have hfloor := Nat.floor_le hpos
  have hless := Nat.lt_floor_add_one position
  unfold interpolate
  constructor
  · nlinarith
  · nlinarith

/-- What is further on is no less. -/
theorem interpolate_mono (hmono : ∀ i j, i ≤ j → j < n → values i ≤ values j) {p q : ℚ} (hp : 0 ≤ p) (hpq : p ≤ q)
    (hin : ⌈q⌉₊ < n) : interpolate values p ≤ interpolate values q := by
  have hfloor : ⌊p⌋₊ ≤ ⌊q⌋₊ := Nat.floor_mono hpq
  have hceil : ⌈p⌉₊ ≤ ⌈q⌉₊ := Nat.ceil_mono hpq
  have hp1 := Nat.ceil_le_floor_add_one p
  have hq1 := Nat.ceil_le_floor_add_one q
  by_cases hnext : ⌈p⌉₊ ≤ ⌊q⌋₊
  · calc interpolate values p ≤ values ⌈p⌉₊ := (interpolate_between hmono hp (hceil.trans_lt hin)).2
      _ ≤ values ⌊q⌋₊ := hmono _ _ hnext ((Nat.floor_le_ceil q).trans_lt hin)
      _ ≤ interpolate values q := (interpolate_between hmono (hp.trans hpq) hin).1
  · -- Both are between the same neighbours.
    have hlower : ⌊p⌋₊ = ⌊q⌋₊ := by omega
    have hupper : ⌈p⌉₊ = ⌈q⌉₊ := by omega
    have hle := hmono _ _ (Nat.floor_le_ceil q) hin
    unfold interpolate
    rw [hlower, hupper]
    nlinarith

/-- Where no value falls, none between them does. -/
theorem interpolate_le_interpolate {values' : Nat → ℚ} (hle : ∀ i < n, values i ≤ values' i) {position : ℚ}
    (hpos : 0 ≤ position) (hin : ⌈position⌉₊ < n) : interpolate values position ≤ interpolate values' position := by
  have hlower := hle _ ((Nat.floor_le_ceil position).trans_lt hin)
  have hupper := hle _ hin
  have hfloor := Nat.floor_le hpos
  have hless := Nat.lt_floor_add_one position
  unfold interpolate
  apply add_le_add
  · exact mul_le_mul_of_nonneg_right hlower (by linarith)
  · exact mul_le_mul_of_nonneg_right hupper (by linarith)

end Interpolation

end TurnVector.Ranks
