import Mathlib.Tactic.Common

/-! # Gates

A computation that looks at one thing after the other. It goes on past what it takes, rejects what it refuses, and
breaks on what it was not made for.
-/

namespace TurnVector.Effects

inductive Gate where
  | passes
  | refuses
  | breaks
  deriving DecidableEq

/-- Whatever breaks the computation comes after something that it refuses. -/
def Guarded (gates : List Gate) : Prop :=
  ∀ i : Nat, gates[i]? = some .breaks → ∃ j < i, gates[j]? = some .refuses

/-- The first gate that is not passed. -/
def firstStop : List Gate → Gate
  | [] => .passes
  | .passes :: gates => firstStop gates
  | .refuses :: _ => .refuses
  | .breaks :: _ => .breaks

theorem guarded_nil : Guarded [] := by
  intro i h
  simp at h

theorem guarded_passes (gates : List Gate) : Guarded (.passes :: gates) ↔ Guarded gates := by
  constructor
  · intro h i hi
    obtain ⟨j, hlt, hj⟩ := h (i + 1) hi
    cases j with
    | zero => simp at hj
    | succ j => exact ⟨j, by omega, hj⟩
  · intro h i hi
    cases i with
    | zero => simp at hi
    | succ i =>
      obtain ⟨j, hlt, hj⟩ := h i hi
      exact ⟨j + 1, by omega, hj⟩

theorem guarded_iff (gates : List Gate) : Guarded gates ↔ firstStop gates ≠ .breaks := by
  induction gates with
  | nil => simp [firstStop, guarded_nil]
  | cons gate gates ih =>
    cases gate with
    | passes => rw [guarded_passes, ih, firstStop]
    | refuses =>
      simp only [firstStop, ne_eq, reduceCtorEq, not_false_eq_true, iff_true]
      intro i hi
      cases i with
      | zero => simp at hi
      | succ i => exact ⟨0, by omega, rfl⟩
    | breaks =>
      simp only [firstStop, ne_eq, not_true_eq_false, iff_false]
      intro h
      obtain ⟨j, hlt, -⟩ := h 0 rfl
      omega

theorem firstStop_append (gates rest : List Gate) :
    firstStop (gates ++ rest) = if firstStop gates = .passes then firstStop rest else firstStop gates := by
  induction gates with
  | nil => simp [firstStop]
  | cons gate gates ih =>
    cases gate with
    | passes => exact ih
    | refuses => rfl
    | breaks => rfl

section
variable {ε α β : Type} (refusal : ε → Prop)

/-- The computation returns, rejects or breaks as its first closed gate says. -/
inductive Follows : List Gate → Except ε α → Prop where
  | returns {gates} (a : α) (h : firstStop gates = .passes) : Follows gates (.ok a)
  | rejects {gates} (e : ε) (h : firstStop gates = .refuses) (he : refusal e) : Follows gates (.error e)
  | breaks {gates} (e : ε) (h : firstStop gates = .breaks) (he : ¬ refusal e) : Follows gates (.error e)

/-- The computation returns or rejects. -/
def Settled (x : Except ε α) : Prop := (∃ a, x = .ok a) ∨ ∃ e, x = .error e ∧ refusal e

variable {refusal} {gates rest : List Gate} {x : Except ε α}

theorem Follows.settled_iff (h : Follows refusal gates x) : Settled refusal x ↔ Guarded gates := by
  rw [guarded_iff]
  cases h with
  | returns a hstop => simp [Settled, hstop]
  | rejects e hstop he => simp [Settled, hstop, he]
  | breaks e hstop he => simp [Settled, hstop, he]

/-! ## Rules -/

theorem Follows.pure (a : α) : Follows refusal [] (.ok a) := .returns a rfl

theorem Follows.congr (h : Follows refusal gates x) (hstop : firstStop gates = firstStop rest) :
    Follows refusal rest x := by
  cases h with
  | returns a h => exact .returns a (hstop ▸ h)
  | rejects e h he => exact .rejects e (hstop ▸ h) he
  | breaks e h he => exact .breaks e (hstop ▸ h) he

theorem Follows.bind {f : α → Except ε β} (h : Follows refusal gates x)
    (hf : ∀ a, x = .ok a → Follows refusal rest (f a)) : Follows refusal (gates ++ rest) (x >>= f) := by
  cases h with
  | returns a hstop =>
    have hrest : firstStop (gates ++ rest) = firstStop rest := by rw [firstStop_append, if_pos hstop]
    change Follows refusal (gates ++ rest) (f a)
    exact (hf a rfl).congr hrest.symm
  | rejects e hstop he => exact .rejects e (by simp [firstStop_append, hstop]) he
  | breaks e hstop he => exact .breaks e (by simp [firstStop_append, hstop]) he

/-- A last step that always returns. -/
theorem Follows.map (f : α → β) (h : Follows refusal gates x) : Follows refusal gates (f <$> x) := by
  cases h with
  | returns a hstop => exact .returns (f a) hstop
  | rejects e hstop he => exact .rejects e hstop he
  | breaks e hstop he => exact .breaks e hstop he

theorem Follows.mapM {γ : Type} {gate : γ → List Gate} {f : γ → Except ε α} (xs : List γ)
    (h : ∀ x ∈ xs, Follows refusal (gate x) (f x)) : Follows refusal (xs.flatMap gate) (xs.mapM f) := by
  induction xs with
  | nil => exact .pure []
  | cons x xs ih =>
    rw [List.mapM_cons, List.flatMap_cons]
    refine (h x List.mem_cons_self).bind fun a _ => ?_
    exact (ih fun y hy => h y (List.mem_cons_of_mem x hy)).map (a :: ·)

end

end TurnVector.Effects
