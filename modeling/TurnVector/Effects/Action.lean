import Mathlib.Tactic.Common

/-! # Actions

Computations over a state that may raise, with `finally` and `except`. What an action wrote before it raised stays
written.
-/

namespace TurnVector.Effects

abbrev Action (σ ε α : Type) := ExceptT ε (StateM σ) α

namespace Action

variable {σ ε α β : Type}

/-- What an action returns or raises, and the state after it. -/
def run (m : Action σ ε α) (s : σ) : Except ε α × σ := m s

/-- A result that was computed without the state. -/
def lift (e : Except ε α) : Action σ ε α := fun s => (e, s)

/-- `try: m finally: f`. What `f` raises takes the place of what came out of `m`. -/
def onExit (m : Action σ ε α) (f : Action σ ε Unit) : Action σ ε α := fun s =>
  let (out, t) := run m s
  let (closed, u) := run f t
  (closed.bind fun _ => out, u)

/-- `try: m except error: h(error)` -/
def rescue (m : Action σ ε α) (h : ε → Action σ ε α) : Action σ ε α := fun s =>
  match run m s with
  | (.ok a, t) => (.ok a, t)
  | (.error e, t) => run (h e) t

/-! ## One step at a time -/

@[simp] theorem run_pure (a : α) (s : σ) : run (pure a : Action σ ε α) s = (.ok a, s) := rfl

@[simp] theorem run_throw (e : ε) (s : σ) : run (throw e : Action σ ε α) s = (.error e, s) := rfl

@[simp] theorem run_get (s : σ) : run (get : Action σ ε σ) s = (.ok s, s) := rfl

@[simp] theorem run_modify (f : σ → σ) (s : σ) : run (modify f : Action σ ε Unit) s = (.ok (), f s) := rfl

@[simp] theorem run_lift (e : Except ε α) (s : σ) : run (lift e : Action σ ε α) s = (e, s) := rfl

theorem run_bind (m : Action σ ε α) (f : α → Action σ ε β) (s : σ) :
    run (m >>= f) s = match run m s with
      | (.ok a, t) => run (f a) t
      | (.error e, t) => (.error e, t) := by
  simp only [run, bind, ExceptT.bind, ExceptT.mk, StateT.bind]
  rcases m s with ⟨out, t⟩
  cases out <;> rfl

theorem run_onExit (m : Action σ ε α) (f : Action σ ε Unit) (s : σ) :
    run (onExit m f) s = ((run f (run m s).2).1.bind fun _ => (run m s).1, (run f (run m s).2).2) := rfl

theorem run_rescue (m : Action σ ε α) (h : ε → Action σ ε α) (s : σ) :
    run (rescue m h) s = match run m s with
      | (.ok a, t) => (.ok a, t)
      | (.error e, t) => run (h e) t := rfl

/-- A block that returned took each of its steps. -/
theorem bind_returned {m : Action σ ε α} {f : α → Action σ ε β} {s u : σ} {b : β} (h : run (m >>= f) s = (.ok b, u)) :
    ∃ a t, run m s = (.ok a, t) ∧ run (f a) t = (.ok b, u) := by
  rw [run_bind] at h
  rcases hm : run m s with ⟨e | a, t⟩
  · rw [hm] at h
    simp at h
  · rw [hm] at h
    exact ⟨a, t, rfl, h⟩

/-- A `finally` that returned did so after both of its blocks returned. -/
theorem onExit_returned {m : Action σ ε α} {f : Action σ ε Unit} {s u : σ} {a : α}
    (h : run (onExit m f) s = (.ok a, u)) : ∃ t, run m s = (.ok a, t) ∧ run f t = (.ok (), u) := by
  rw [run_onExit] at h
  rcases hm : run m s with ⟨out, t⟩
  rcases hf : run f t with ⟨closed, v⟩
  rw [hm, hf] at h
  cases closed with
  | error e => simp [Except.bind] at h
  | ok closed =>
    simp only [Except.bind, Prod.mk.injEq] at h
    exact ⟨t, by rw [h.1], by rw [hf, h.2]⟩

/-- An `except` that returned did so after its block, or after the handler of what the block raised. -/
theorem rescue_returned {m : Action σ ε α} {h : ε → Action σ ε α} {s u : σ} {a : α}
    (hrun : run (rescue m h) s = (.ok a, u)) :
    run m s = (.ok a, u) ∨ ∃ e t, run m s = (.error e, t) ∧ run (h e) t = (.ok a, u) := by
  rw [run_rescue] at hrun
  rcases hm : run m s with ⟨e | b, t⟩
  · rw [hm] at hrun
    exact .inr ⟨e, t, rfl, hrun⟩
  · rw [hm] at hrun
    exact .inl hrun

theorem lift_returned {e : Except ε α} {s t : σ} {a : α} (h : run (lift e) s = (.ok a, t)) : e = .ok a ∧ t = s := by
  rw [run_lift, Prod.mk.injEq] at h
  exact ⟨h.1, h.2.symm⟩

/-- A block that returned after a result that was computed without the state. -/
theorem lift_bind_returned {e : Except ε α} {f : α → Action σ ε β} {s u : σ} {b : β}
    (h : run (lift e >>= f) s = (.ok b, u)) : ∃ a, e = .ok a ∧ run (f a) s = (.ok b, u) := by
  obtain ⟨a, t, hlift, hrest⟩ := bind_returned h
  obtain ⟨he, rfl⟩ := lift_returned hlift
  exact ⟨a, he, hrest⟩

/-! ## What holds however an action ends -/

/-- Whether it returns or raises, the state after the action is in that relation to the one before. -/
def Always (R : σ → σ → Prop) (m : Action σ ε α) : Prop := ∀ s, R s (run m s).2

section Rules

variable {R : σ → σ → Prop}

theorem Always.pure (refl : ∀ s, R s s) (a : α) : Always R (Pure.pure a : Action σ ε α) := refl

theorem Always.throw (refl : ∀ s, R s s) (e : ε) : Always R (MonadExcept.throw e : Action σ ε α) := refl

theorem Always.get (refl : ∀ s, R s s) : Always R (MonadState.get : Action σ ε σ) := refl

theorem Always.lift (refl : ∀ s, R s s) (e : Except ε α) : Always R (Action.lift e : Action σ ε α) := refl

theorem Always.bind (trans : ∀ s t u, R s t → R t u → R s u) {m : Action σ ε α} {f : α → Action σ ε β}
    (hm : Always R m) (hf : ∀ a, Always R (f a)) : Always R (m >>= f) := by
  intro s
  have h := hm s
  rw [run_bind]
  rcases hc : run m s with ⟨e | a, t⟩
  · rwa [hc] at h
  · rw [hc] at h
    exact trans s t _ h (hf a t)

theorem Always.onExit (trans : ∀ s t u, R s t → R t u → R s u) {m : Action σ ε α} {f : Action σ ε Unit}
    (hm : Always R m) (hf : Always R f) : Always R (Action.onExit m f) := by
  intro s
  rw [run_onExit]
  exact trans s _ _ (hm s) (hf _)

theorem Always.rescue (trans : ∀ s t u, R s t → R t u → R s u) {m : Action σ ε α} {h : ε → Action σ ε α}
    (hm : Always R m) (hh : ∀ e, Always R (h e)) : Always R (Action.rescue m h) := by
  intro s
  have hs := hm s
  rw [run_rescue]
  rcases hc : run m s with ⟨e | a, t⟩
  · rw [hc] at hs
    exact trans s t _ hs (hh e t)
  · rwa [hc] at hs

theorem Always.forM (refl : ∀ s, R s s) (trans : ∀ s t u, R s t → R t u → R s u) (f : α → Action σ ε Unit) (xs : List α)
    (h : ∀ x ∈ xs, Always R (f x)) : Always R (xs.forM f) := by
  induction xs with
  | nil => exact Always.pure refl ()
  | cons x xs ih =>
    show Always R (f x >>= fun _ => xs.forM f)
    exact Always.bind trans (h x (by simp)) fun _ => ih fun y hy => h y (by simp [hy])

theorem Always.foldlM (refl : ∀ s, R s s) (trans : ∀ s t u, R s t → R t u → R s u) (f : β → α → Action σ ε β)
    (xs : List α) (h : ∀ b, ∀ x ∈ xs, Always R (f b x)) : ∀ b, Always R (xs.foldlM f b) := by
  induction xs with
  | nil => exact fun b => Always.pure refl b
  | cons x xs ih =>
    intro b
    rw [List.foldlM_cons]
    exact Always.bind trans (h b x (by simp)) fun c => ih (fun b y hy => h b y (by simp [hy])) c

theorem Always.mapM (refl : ∀ s, R s s) (trans : ∀ s t u, R s t → R t u → R s u) (f : α → Action σ ε β) (xs : List α)
    (h : ∀ x ∈ xs, Always R (f x)) : Always R (xs.mapM f) := by
  induction xs with
  | nil => exact Always.pure refl []
  | cons x xs ih =>
    rw [List.mapM_cons]
    refine Always.bind trans (h x (by simp)) fun y => Always.bind trans ?_ fun ys => Always.pure refl (y :: ys)
    exact ih fun y hy => h y (by simp [hy])

end Rules

/-! ## What an action may raise -/

/-- All that the action raises has that property. -/
def Raises (P : ε → Prop) (m : Action σ ε α) : Prop := ∀ s e t, run m s = (.error e, t) → P e

section RaiseRules

variable {P : ε → Prop}

theorem Raises.pure (a : α) : Raises P (Pure.pure a : Action σ ε α) := by
  intro s e t h
  simp at h

theorem Raises.modify (f : σ → σ) : Raises P (modify f : Action σ ε PUnit) := by
  intro s e t h
  simp at h

theorem Raises.throw {e : ε} (he : P e) : Raises P (MonadExcept.throw e : Action σ ε α) := by
  intro s e' t h
  rw [run_throw] at h
  cases h
  exact he

theorem Raises.lift {out : Except ε α} (h : ∀ e, out = .error e → P e) :
    Raises P (Action.lift out : Action σ ε α) := by
  intro s e t hrun
  rw [run_lift] at hrun
  exact h e (Prod.mk.inj hrun).1

theorem Raises.bind {m : Action σ ε α} {f : α → Action σ ε β} (hm : Raises P m) (hf : ∀ a, Raises P (f a)) :
    Raises P (m >>= f) := by
  intro s e t h
  rw [run_bind] at h
  rcases hrun : run m s with ⟨e' | a, u⟩
  · rw [hrun] at h
    cases h
    exact hm s _ _ hrun
  · rw [hrun] at h
    exact hf a u e t h

theorem Raises.mapM (f : α → Action σ ε β) (xs : List α) (h : ∀ x ∈ xs, Raises P (f x)) :
    Raises P (xs.mapM f) := by
  induction xs with
  | nil => exact Raises.pure []
  | cons x xs ih =>
    rw [List.mapM_cons]
    refine Raises.bind (h x (by simp)) fun y => Raises.bind ?_ fun ys => Raises.pure (y :: ys)
    exact ih fun y hy => h y (by simp [hy])

end RaiseRules

end Action

end TurnVector.Effects
