import Mathlib.Data.List.DropRight
import Mathlib.Data.Set.Basic
import Mathlib.Order.Bounds.Basic

/-! # Runs of a list

The longest run of items that pass a test, and how it grows with the list.
-/

namespace TurnVector.Fair

variable {α : Type}

/-- The lengths of the runs whose items all pass. -/
def runLengths (p : α → Bool) (xs : List α) : Set Nat :=
  {n | ∃ run, run <:+: xs ∧ (∀ x ∈ run, p x = true) ∧ run.length = n}

/-- The length of the run that ends the list. -/
def lastRun (p : α → Bool) (xs : List α) : Nat := (xs.rtakeWhile p).length

@[simp] theorem lastRun_nil (p : α → Bool) : lastRun p [] = 0 := rfl

theorem lastRun_snoc (p : α → Bool) (xs : List α) (x : α) :
    lastRun p (xs ++ [x]) = if p x then lastRun p xs + 1 else 0 := by
  unfold lastRun
  rw [List.rtakeWhile_concat]
  split
  · rw [List.length_append, List.length_singleton]
  · rfl

theorem suffix_le_lastRun (p : α → Bool) (xs run : List α) (hrun : run <:+ xs) (hp : ∀ x ∈ run, p x = true) :
    run.length ≤ lastRun p xs := by
  induction xs using List.reverseRecOn generalizing run with
  | nil => simp [List.suffix_nil.mp hrun]
  | append_singleton xs x ih =>
    rcases List.suffix_concat_iff.mp hrun with rfl | ⟨front, rfl, hfront⟩
    · exact Nat.zero_le _
    · have hx : p x = true := hp x (by simp)
      have hle := ih front hfront fun y hy => hp y (by simp [hy])
      rw [lastRun_snoc, if_pos hx, List.length_append, List.length_singleton]
      omega

theorem lastRun_mem (p : α → Bool) (xs : List α) : lastRun p xs ∈ runLengths p xs :=
  ⟨xs.rtakeWhile p, (xs.rtakeWhile_suffix p).isInfix, fun _ hx => List.mem_rtakeWhile_imp hx, rfl⟩

theorem longest_nil (p : α → Bool) : IsGreatest (runLengths p []) 0 := by
  refine ⟨lastRun_mem p [], ?_⟩
  rintro n ⟨run, hrun, -, rfl⟩
  simp [List.infix_nil.mp hrun]

/-- A longer list has the longest run that it had, or the one that it ends with. -/
theorem longest_snoc (p : α → Bool) (xs : List α) (x : α) (n : Nat) (h : IsGreatest (runLengths p xs) n) :
    IsGreatest (runLengths p (xs ++ [x])) (max n (lastRun p (xs ++ [x]))) := by
  obtain ⟨⟨run, hrun, hp, hlength⟩, hmax⟩ := h
  constructor
  · rcases le_total n (lastRun p (xs ++ [x])) with hle | hle
    · rw [max_eq_right hle]
      exact lastRun_mem p _
    · rw [max_eq_left hle]
      exact ⟨run, List.infix_concat_iff.mpr (.inr hrun), hp, hlength⟩
  · rintro m ⟨run', hrun', hp', rfl⟩
    rcases List.infix_concat_iff.mp hrun' with hsuffix | hinfix
    · exact (suffix_le_lastRun p _ run' hsuffix hp').trans (le_max_right _ _)
    · exact (hmax ⟨run', hinfix, hp', rfl⟩).trans (le_max_left _ _)

end TurnVector.Fair
