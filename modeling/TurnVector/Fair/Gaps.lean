import Mathlib.Algebra.Order.BigOperators.Group.List
import Mathlib.Algebra.Order.Field.Basic
import Mathlib.Tactic.Abel
import Mathlib.Tactic.Linarith

/-! # Gaps

The differences between the neighbours of a list.
-/

namespace TurnVector.Fair

/-! ## Neighbours -/

section Groups

variable {α : Type} [AddCommGroup α]

/-- `right - left for left, right in zip(xs, xs[1:])` -/
def gaps (xs : List α) : List α := (xs.zip xs.tail).map fun p => p.2 - p.1

@[simp] theorem gaps_cons_cons (x y : α) (xs : List α) : gaps (x :: y :: xs) = (y - x) :: gaps (y :: xs) := rfl

@[simp] theorem gaps_single (x : α) : gaps [x] = [] := rfl

theorem length_gaps (xs : List α) : (gaps xs).length = xs.length - 1 := by
  simp [gaps]

/-- The gaps bridge the list from its head to its last item. -/
theorem sum_gaps (x : α) (xs : List α) : (gaps (x :: xs)).sum = xs.getLastD x - x := by
  induction xs generalizing x with
  | nil => simp
  | cons y xs ih =>
    rw [gaps_cons_cons, List.sum_cons, ih, List.getLastD_cons]
    abel

theorem mem_gaps (xs : List α) (g : α) :
    g ∈ gaps xs ↔ ∃ before x y after, xs = before ++ x :: y :: after ∧ g = y - x := by
  induction xs with
  | nil => simp [gaps]
  | cons x xs ih =>
    cases xs with
    | nil =>
      simp only [gaps_single, List.not_mem_nil, false_iff]
      rintro ⟨before, x', y, after, heq, -⟩
      have hlength := congrArg List.length heq
      simp only [List.length_cons, List.length_nil, List.length_append] at hlength
      omega
    | cons y xs =>
      rw [gaps_cons_cons, List.mem_cons, ih]
      constructor
      · rintro (rfl | ⟨before, u, v, after, heq, rfl⟩)
        · exact ⟨[], x, y, xs, rfl, rfl⟩
        · exact ⟨x :: before, u, v, after, by rw [heq, List.cons_append], rfl⟩
      · rintro ⟨before, u, v, after, heq, rfl⟩
        cases before with
        | nil =>
          cases heq
          exact .inl rfl
        | cons w before =>
          rw [List.cons_append, List.cons.injEq] at heq
          exact .inr ⟨before, u, v, after, heq.2, rfl⟩

end Groups

/-! ## Sorted lists -/

theorem ends_of_sorted {α : Type} [LinearOrder α] (xs : List α) (low high : α)
    (hsorted : (low :: xs ++ [high]).Pairwise (· ≤ ·)) :
    ∀ x ∈ low :: xs ++ [high], low ≤ x ∧ x ≤ high := by
  intro x hx
  have hlow := (List.pairwise_cons.mp hsorted).1
  have hhigh := (List.pairwise_append.mp hsorted).2.2
  have hends : low ≤ high := hlow high (by simp)
  rw [List.mem_append, List.mem_cons, List.mem_singleton] at hx
  rcases hx with (rfl | hx) | rfl
  · exact ⟨le_rfl, hends⟩
  · exact ⟨hlow x (by simp [hx]), hhigh x (by simp [hx]) high (by simp)⟩
  · exact ⟨hends, le_rfl⟩

section Ordered

variable {α : Type} [Field α] [LinearOrder α] [IsStrictOrderedRing α]

theorem gaps_nonneg (xs : List α) (hsorted : xs.Pairwise (· ≤ ·)) : ∀ g ∈ gaps xs, 0 ≤ g := by
  intro g hg
  obtain ⟨before, x, y, after, rfl, rfl⟩ := (mem_gaps xs g).mp hg
  have hxy : x ≤ y := (List.pairwise_cons.mp (List.pairwise_append.mp hsorted).2.1).1 y (by simp)
  linarith

/-- No gap of a sorted list is wider than the list. -/
theorem gap_le_sum (xs : List α) (hsorted : xs.Pairwise (· ≤ ·)) : ∀ g ∈ gaps xs, g ≤ (gaps xs).sum :=
  fun _ hg => List.single_le_sum (gaps_nonneg xs hsorted) _ hg

/-- Some item is no less than the average. -/
theorem exists_average_le (xs : List α) (hne : xs ≠ []) : ∃ x ∈ xs, xs.sum / xs.length ≤ x := by
  by_contra hless
  push Not at hless
  have hlength : (0 : α) < xs.length := by
    rw [Nat.cast_pos]
    exact List.length_pos_of_ne_nil hne
  have hsum : xs.sum < (xs.map fun _ => xs.sum / xs.length).sum := by
    have := List.sum_lt_sum_of_ne_nil hne (f := id) (fun _ => xs.sum / xs.length) hless
    simpa using this
  rw [List.map_const', List.sum_replicate, nsmul_eq_mul, mul_div_cancel₀ _ hlength.ne'] at hsum
  exact lt_irrefl _ hsum

/-- A sorted list has a gap as wide as itself exactly if it has nothing between its ends. -/
theorem whole_gap_iff (xs : List α) (low high : α) (hlow : low < high)
    (hsorted : (low :: xs ++ [high]).Pairwise (· ≤ ·)) :
    high - low ∈ gaps (low :: xs ++ [high]) ↔ ∀ x ∈ xs, ¬ (low < x ∧ x < high) := by
  have hends := ends_of_sorted xs low high hsorted
  constructor
  · intro hgap z hz hinside
    obtain ⟨before, x, y, after, heq, hwidth⟩ := (mem_gaps _ _).mp hgap
    rw [heq] at hsorted hends
    have hx := hends x (by simp)
    have hy := hends y (by simp)
    obtain ⟨-, hafter, hbefore⟩ := List.pairwise_append.mp hsorted
    have hmem : z ∈ before ++ x :: y :: after := by
      rw [← heq]
      simp [hz]
    rw [List.mem_append, List.mem_cons, List.mem_cons] at hmem
    rcases hmem with hmem | rfl | rfl | hmem
    · have := hbefore z hmem x (by simp)
      linarith [hinside.1]
    · linarith [hinside.1]
    · linarith [hinside.2]
    · have := (List.pairwise_cons.mp (List.pairwise_cons.mp hafter).2).1 z hmem
      linarith [hinside.2]
  · intro hnone
    by_contra hgap
    have hat : ∀ x ∈ low :: xs ++ [high], x = low ∨ x = high := by
      intro x hx
      have hbounds := hends x hx
      rw [List.mem_append, List.mem_cons, List.mem_singleton] at hx
      rcases hx with (rfl | hx) | rfl
      · exact .inl rfl
      · rcases hbounds.1.eq_or_lt with h | h
        · exact .inl h.symm
        · exact .inr (hbounds.2.antisymm (not_lt.mp fun hless => hnone x hx ⟨h, hless⟩))
      · exact .inr rfl
    have hzero : ∀ g ∈ gaps (low :: xs ++ [high]), g = 0 := by
      intro g hg
      have hnonneg := gaps_nonneg _ hsorted g hg
      obtain ⟨before, x, y, after, heq, rfl⟩ := (mem_gaps _ _).mp hg
      rw [heq] at hat
      rcases hat x (by simp) with rfl | rfl <;> rcases hat y (by simp) with rfl | rfl
      · exact sub_self _
      · exact absurd hg hgap
      · linarith
      · exact sub_self _
    have hsum := sum_gaps low (xs ++ [high])
    rw [List.getLastD_concat, ← List.cons_append, List.sum_eq_zero hzero] at hsum
    linarith

end Ordered

end TurnVector.Fair
