import TurnVector.Effects.Action

/-! # Pre- and postconditions

What holds of the state where an action returns, and what where it raises. With `finally` blocks that look at whether
an exception is on its way, and with local variables.
-/

namespace TurnVector.Effects

namespace Action

variable {σ τ ε α β : Type}

/-- From a state with `P` the action returns with `Q` or raises with `E`. -/
def Meets (P : σ → Prop) (m : Action σ ε α) (Q : α → σ → Prop) (E : ε → σ → Prop) : Prop :=
  ∀ s, P s → match run m s with
    | (.ok a, t) => Q a t
    | (.error e, t) => E e t

/-! ## Blocks -/

/-- `try: m finally: f(pending)`, where an exception may be pending outside of the block already. -/
def always (outside : Bool) (m : Action σ ε α) (f : Bool → Action σ ε Unit) : Action σ ε α := do
  let a ← rescue m fun e => do
    f true
    throw e
  f outside
  return a

/-- `if p: m` -/
def onlyIf (p : Prop) [Decidable p] (m : Action σ ε Unit) : Action σ ε Unit := if p then m else pure ()

/-- A block that has a local variable. -/
def locally (x : τ) (m : Action (σ × τ) ε α) : Action σ ε α := fun s =>
  let (out, t) := run m (s, x)
  (out, t.1)

/-- A step that does not see the local variable. -/
def apart (m : Action σ ε α) : Action (σ × τ) ε α := fun s =>
  let (out, t) := run m s.1
  (out, (t, s.2))

theorem run_locally (x : τ) (m : Action (σ × τ) ε α) (s : σ) :
    run (locally x m) s = ((run m (s, x)).1, (run m (s, x)).2.1) := rfl

theorem run_apart (m : Action σ ε α) (s : σ × τ) : run (apart m) s = ((run m s.1).1, ((run m s.1).2, s.2)) := rfl

/-! ## Rules -/

namespace Meets

variable {P P' : σ → Prop} {Q Q' : α → σ → Prop} {E E' : ε → σ → Prop}

theorem pure {a : α} (h : ∀ s, P s → Q a s) : Meets P (Pure.pure a : Action σ ε α) Q E := fun s hs => h s hs

theorem throw {e : ε} (h : ∀ s, P s → E e s) : Meets P (MonadExcept.throw e : Action σ ε α) Q E := fun s hs => h s hs

/-- A change of the state, and what follows it. -/
theorem modify_bind {g : σ → σ} {f : Unit → Action σ ε β} {R : β → σ → Prop}
    (hf : Meets (fun t => ∃ s, P s ∧ t = g s) (f ()) R E) : Meets P (modify g >>= f) R E :=
  fun s hs => hf (g s) ⟨s, hs, rfl⟩

theorem modify {f : σ → σ} {R : Unit → σ → Prop} (h : ∀ s, P s → R () (f s)) :
    Meets P (modify f : Action σ ε Unit) R E := fun s hs => h s hs

theorem weaken {m : Action σ ε α} (h : Meets P m Q E) (hpre : ∀ s, P' s → P s) (hpost : ∀ a s, Q a s → Q' a s)
    (herror : ∀ e s, E e s → E' e s) : Meets P' m Q' E' := by
  intro s hs
  have hm := h s (hpre s hs)
  rcases hrun : run m s with ⟨e | a, t⟩
  · rw [hrun] at hm
    exact herror e t hm
  · rw [hrun] at hm
    exact hpost a t hm

theorem error {m : Action σ ε α} (h : Meets P m Q E) (herror : ∀ e s, E e s → E' e s) : Meets P m Q E' :=
  h.weaken (fun _ hs => hs) (fun _ _ ha => ha) herror

theorem bind {m : Action σ ε α} {f : α → Action σ ε β} {R : β → σ → Prop} (hm : Meets P m Q E)
    (hf : ∀ a, Meets (Q a) (f a) R E) : Meets P (m >>= f) R E := by
  intro s hs
  have h := hm s hs
  rw [run_bind]
  rcases hrun : run m s with ⟨e | a, t⟩
  · rw [hrun] at h
    exact h
  · rw [hrun] at h
    exact hf a t h

/-- A step that was computed without the state, and what follows it. -/
theorem lift_bind {out : Except ε α} {f : α → Action σ ε β} {R : β → σ → Prop}
    (hok : ∀ a, out = .ok a → Meets P (f a) R E) (herror : ∀ e, out = .error e → ∀ s, P s → E e s) :
    Meets P (Action.lift out >>= f) R E := by
  intro s hs
  rw [run_bind, run_lift]
  cases hout : out with
  | error e => exact herror e hout s hs
  | ok a => exact hok a hout s hs

/-- A check that raises, and what follows it. -/
theorem check_bind {p : Prop} [Decidable p] {e : ε} {f : Unit → Action σ ε β} {R : β → σ → Prop}
    (hthrow : p → ∀ s, P s → E e s) (hf : ¬ p → Meets P (f ()) R E) :
    Meets P (Action.onlyIf p (MonadExcept.throw e) >>= f) R E := by
  intro s hs
  unfold Action.onlyIf
  by_cases hp : p
  · rw [if_pos hp]
    exact hthrow hp s hs
  · rw [if_neg hp]
    exact hf hp s hs

/-- A step that gives the state itself. -/
theorem get {R : β → σ → Prop} {f : σ → Action σ ε β} (h : ∀ s, P s → Meets (fun t => t = s) (f s) R E) :
    Meets P (MonadState.get >>= f) R E := fun s hs => h s hs s rfl

/-- What holds before does not depend on the state. -/
theorem given {p : Prop} {m : Action σ ε α} (h : p → Meets P m Q E) : Meets (fun s => p ∧ P s) m Q E :=
  fun s hs => h hs.1 s hs.2

/-- What every state before the action tells. -/
theorem assume {p : Prop} {m : Action σ ε α} (hp : ∀ s, P s → p) (h : p → Meets P m Q E) : Meets P m Q E :=
  fun s hs => h (hp s hs) s hs

theorem rescue {m : Action σ ε α} {h : ε → Action σ ε α} {F : ε → σ → Prop} (hm : Meets P m Q F)
    (hh : ∀ e, Meets (F e) (h e) Q E) : Meets P (Action.rescue m h) Q E := by
  intro s hs
  have hcase := hm s hs
  rw [run_rescue]
  rcases hrun : run m s with ⟨e | a, t⟩
  · rw [hrun] at hcase
    exact hh e t hcase
  · rw [hrun] at hcase
    exact hcase

/-- The last block runs with nothing pending but what is outside, or with what was raised. -/
theorem always {outside : Bool} {m : Action σ ε α} {f : Bool → Action σ ε Unit} {R : α → σ → Prop} {F : ε → σ → Prop}
    (hm : Meets P m Q F) (hreturned : ∀ a, Meets (Q a) (f outside) (fun _ => R a) E)
    (hraised : ∀ e, Meets (F e) (f true) (fun _ => E e) E) : Meets P (Action.always outside m f) R E := by
  refine bind (rescue hm fun e => bind (hraised e) fun _ => throw fun s hs => hs) fun a => ?_
  exact bind (hreturned a) fun _ => pure fun s hs => hs

theorem onlyIf {p : Prop} [Decidable p] {m : Action σ ε Unit} {R : σ → Prop} (hm : p → Meets P m (fun _ => R) E)
    (hskip : ¬ p → ∀ s, P s → R s) : Meets P (Action.onlyIf p m) (fun _ => R) E := by
  unfold Action.onlyIf
  split
  · exact hm ‹p›
  · exact pure (hskip ‹¬ p›)

theorem locally {x : τ} {m : Action (σ × τ) ε α}
    (h : Meets (fun s => P s.1 ∧ s.2 = x) m (fun a s => Q a s.1) fun e s => E e s.1) :
    Meets P (Action.locally x m) Q E := by
  intro s hs
  have hm := h (s, x) ⟨hs, rfl⟩
  rw [run_locally]
  rcases hrun : run m (s, x) with ⟨e | a, t⟩
  · rw [hrun] at hm
    exact hm
  · rw [hrun] at hm
    exact hm

theorem apart {x : τ} {m : Action σ ε α} (h : Meets P m Q E) :
    Meets (fun s => P s.1 ∧ s.2 = x) (Action.apart m) (fun a s => Q a s.1 ∧ s.2 = x)
      fun e s => E e s.1 ∧ s.2 = x := by
  rintro ⟨s, y⟩ ⟨hs, rfl⟩
  have hm := h s hs
  rw [run_apart]
  rcases hrun : run m s with ⟨e | a, t⟩
  · rw [hrun] at hm
    exact ⟨hm, rfl⟩
  · rw [hrun] at hm
    exact ⟨hm, rfl⟩

/-- Each turn of the loop keeps what holds. -/
theorem forM {f : α → Action σ ε Unit} (xs : List α) (h : ∀ x ∈ xs, Meets P (f x) (fun _ => P) E) :
    Meets P (xs.forM f) (fun _ => P) E := by
  induction xs with
  | nil => exact pure fun s hs => hs
  | cons x xs ih =>
    change Meets P (f x >>= fun _ => xs.forM f) _ E
    exact bind (h x (by simp)) fun _ => ih fun y hy => h y (by simp [hy])

theorem foldlM {f : β → α → Action σ ε β} (xs : List α) (h : ∀ b, ∀ x ∈ xs, Meets P (f b x) (fun _ => P) E) (b : β) :
    Meets P (xs.foldlM f b) (fun _ => P) E := by
  induction xs generalizing b with
  | nil => exact pure fun s hs => hs
  | cons x xs ih =>
    rw [List.foldlM_cons]
    exact bind (h b x (by simp)) fun c => ih (fun b y hy => h b y (by simp [hy])) c

end Meets

end Action

end TurnVector.Effects
