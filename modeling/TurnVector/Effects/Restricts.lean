import Mathlib.Tactic.Common

/-! # Caps

A computation that refuses more than another one, and returns what the other returns where it does not refuse.
-/

namespace TurnVector.Effects

variable {ε α β γ : Type}

/-- What the first returns, the second returns as well. -/
def Restricts (x y : Except ε α) : Prop := ∀ a, x = .ok a → y = .ok a

/-- A value that must not pass a cap. -/
def atMost (value cap : Nat) (error : ε) : Except ε Unit := if cap < value then .error error else .ok ()

theorem atMost_ok (value cap : Nat) (error : ε) : atMost value cap error = .ok () ↔ value ≤ cap := by
  unfold atMost
  split
  · simp
    omega
  · simp
    omega

namespace Restricts

theorem refl (x : Except ε α) : Restricts x x := fun _ h => h

theorem error (e : ε) (y : Except ε α) : Restricts (.error e) y := by
  intro _ h
  cases h

theorem cap (value low high : Nat) (e e' : ε) (h : low ≤ high) :
    Restricts (atMost value low e) (atMost value high e') := fun _ hlow =>
  (atMost_ok value high e').mpr (Nat.le_trans ((atMost_ok value low e).mp hlow) h)

theorem bind {x y : Except ε α} {f g : α → Except ε β} (hx : Restricts x y) (hf : ∀ a, Restricts (f a) (g a)) :
    Restricts (x >>= f) (y >>= g) := by
  intro b h
  cases x with
  | error e => cases h
  | ok a =>
    rw [hx a rfl]
    exact hf a b h

/-- What comes after the same computation. -/
theorem after (x : Except ε α) {f g : α → Except ε β} (hf : ∀ a, Restricts (f a) (g a)) :
    Restricts (x >>= f) (x >>= g) := bind (refl x) hf

theorem map {x y : Except ε α} (f : α → β) (h : Restricts x y) : Restricts (f <$> x) (f <$> y) := by
  intro b hb
  cases x with
  | error e => cases hb
  | ok a =>
    rw [h a rfl]
    exact hb

theorem foldlM {f g : β → α → Except ε β} (xs : List α) (h : ∀ b, ∀ x ∈ xs, Restricts (f b x) (g b x)) (b : β) :
    Restricts (xs.foldlM f b) (xs.foldlM g b) := by
  induction xs generalizing b with
  | nil => exact refl _
  | cons x xs ih =>
    rw [List.foldlM_cons, List.foldlM_cons]
    exact bind (h b x (by simp)) fun c => ih (fun b y hy => h b y (by simp [hy])) c

end Restricts

/-! ## Loops -/

section Loops

variable {step : β → α → Except ε β} {next : β → α → β} {Holds : α → Prop} (Within : β → Prop)

/-- What is within the caps at the end was within them before. -/
theorem within_foldl (hback : ∀ b x, Within (next b x) → Within b) (xs : List α) (b : β)
    (h : Within (xs.foldl next b)) : Within b := by
  induction xs generalizing b with
  | nil => exact h
  | cons x xs ih => exact hback b x (ih (next b x) h)

/-- A loop that checks each item and the caps at each turn returns where every item holds and the caps hold at the
end. -/
theorem foldlM_within (xs : List α) (b : β) (hwithin : Within b)
    (hstep : ∀ b, ∀ x ∈ xs, ∀ c, step b x = .ok c ↔ Holds x ∧ Within (next b x) ∧ c = next b x)
    (hback : ∀ b x, Within (next b x) → Within b) (c : β) :
    xs.foldlM step b = .ok c ↔ (∀ x ∈ xs, Holds x) ∧ Within (xs.foldl next b) ∧ c = xs.foldl next b := by
  induction xs generalizing b with
  | nil =>
    simp only [List.foldlM_nil, List.foldl_nil, List.not_mem_nil, false_implies, implies_true, true_and, pure,
      Except.pure, Except.ok.injEq]
    exact ⟨fun h => ⟨hwithin, h.symm⟩, fun h => h.2.symm⟩
  | cons x xs ih =>
    have hhere := hstep b x (by simp)
    have hrest := fun d hd => ih d hd fun b y hy => hstep b y (by simp [hy])
    rw [List.foldlM_cons, List.foldl_cons, List.forall_mem_cons]
    cases hturn : step b x with
    | error e =>
      simp only [bind, Except.bind, reduceCtorEq, false_iff]
      rintro ⟨⟨hholds, -⟩, hend, -⟩
      have hok := (hhere _).mpr ⟨hholds, within_foldl Within hback xs _ hend, rfl⟩
      rw [hturn] at hok
      cases hok
    | ok d =>
      obtain ⟨hholds, hd, rfl⟩ := (hhere d).mp hturn
      change xs.foldlM step (next b x) = .ok c ↔ _
      rw [hrest _ hd]
      simp only [hholds, true_and]

end Loops

end TurnVector.Effects
