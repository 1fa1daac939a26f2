import Mathlib

/-! # Virtual-time fair sharing

Each client has a ledger of the normalized service it was given. The clients that run now share a
baseline, and a client that comes back is aligned with those that stayed.
-/

namespace TurnVector.Fair

/-- The ledgers of all clients, those that run now, and the least ledger among them. -/
structure Clock (M K : Type) where
  ledger : M → K
  runnable : Finset M
  baseline : K

namespace Clock
variable {M K : Type} [LinearOrder K]

/-- The least ledger among the clients that run, or what it was when none does. -/
def least (runnable : Finset M) (ledger : M → K) (baseline : K) : K :=
  if h : runnable.Nonempty then runnable.inf' h ledger else baseline

/-- The baseline is the least ledger among the clients that run. -/
def Anchored (c : Clock M K) : Prop :=
  c.runnable.Nonempty → IsLeast (c.ledger '' c.runnable) c.baseline

theorem least_isLeast (runnable : Finset M) (ledger : M → K) (baseline : K) (h : runnable.Nonempty) :
    IsLeast (ledger '' runnable) (least runnable ledger baseline) := by
  rw [least, dif_pos h]
  refine ⟨?_, ?_⟩
  · obtain ⟨m, hm, he⟩ := Finset.exists_mem_eq_inf' h ledger
    exact ⟨m, hm, he.symm⟩
  · rintro _ ⟨m, hm, rfl⟩
    exact Finset.inf'_le ledger hm

theorem least_empty (runnable : Finset M) (ledger : M → K) (baseline : K) (h : ¬ runnable.Nonempty) :
    least runnable ledger baseline = baseline := dif_neg h

theorem le_least (runnable : Finset M) (ledger : M → K) (baseline q : K) (hb : q ≤ baseline)
    (h : ∀ m ∈ runnable, q ≤ ledger m) : q ≤ least runnable ledger baseline := by
  by_cases hne : runnable.Nonempty
  · obtain ⟨m, hm, he⟩ := (least_isLeast runnable ledger baseline hne).1
    rw [← he]
    exact h m hm
  · rw [least_empty _ _ _ hne]
    exact hb

theorem anchored_le (c : Clock M K) (h : c.Anchored) (m : M) (hm : m ∈ c.runnable) : c.baseline ≤ c.ledger m :=
  (h ⟨m, hm⟩).2 ⟨m, hm, rfl⟩

/-! ## Alignment -/

variable [DecidableEq M]

/-- What a newcomer's ledger is set to. -/
def alignment (c : Clock M K) (current : Finset M) : K := least (current ∩ c.runnable) c.ledger c.baseline

def aligned (c : Clock M K) (current : Finset M) : M → K :=
  fun m => if m ∈ current ∧ m ∉ c.runnable then c.alignment current else c.ledger m

/-- The clients that run now become `current`. -/
def resync (c : Clock M K) (current : Finset M) : Clock M K where
  ledger := c.aligned current
  runnable := current
  baseline := least current (c.aligned current) c.baseline

/-- One client is charged. -/
def charge [Add K] (c : Clock M K) (m : M) (x : K) : Clock M K where
  ledger := Function.update c.ledger m (c.ledger m + x)
  runnable := c.runnable
  baseline := least c.runnable (Function.update c.ledger m (c.ledger m + x)) c.baseline

theorem baseline_le_alignment (c : Clock M K) (h : c.Anchored) (current : Finset M) :
    c.baseline ≤ c.alignment current := by
  apply le_least _ _ _ _ le_rfl
  intro m hm
  exact anchored_le c h m (Finset.mem_inter.mp hm).2

theorem alignment_le (c : Clock M K) (current : Finset M) (m : M) (hm : m ∈ current) (hr : m ∈ c.runnable) :
    c.alignment current ≤ c.ledger m := by
  have hmem : m ∈ current ∩ c.runnable := Finset.mem_inter.mpr ⟨hm, hr⟩
  exact (least_isLeast _ _ _ ⟨m, hmem⟩).2 ⟨m, hmem, rfl⟩

theorem aligned_new (c : Clock M K) (current : Finset M) (m : M) (hm : m ∈ current) (hr : m ∉ c.runnable) :
    c.aligned current m = c.alignment current := if_pos ⟨hm, hr⟩

theorem aligned_old (c : Clock M K) (current : Finset M) (m : M) (hr : m ∈ c.runnable) :
    c.aligned current m = c.ledger m := if_neg fun h => h.2 hr

theorem baseline_le_aligned (c : Clock M K) (h : c.Anchored) (current : Finset M) (m : M) (hm : m ∈ current) :
    c.baseline ≤ c.aligned current m := by
  by_cases hr : m ∈ c.runnable
  · rw [aligned_old c current m hr]
    exact anchored_le c h m hr
  · rw [aligned_new c current m hm hr]
    exact baseline_le_alignment c h current

/-! ## One step -/

theorem resync_anchored (c : Clock M K) (current : Finset M) : (c.resync current).Anchored :=
  least_isLeast _ _ _

theorem resync_baseline (c : Clock M K) (h : c.Anchored) (current : Finset M) :
    c.baseline ≤ (c.resync current).baseline := by
  apply le_least _ _ _ _ le_rfl
  exact baseline_le_aligned c h current

variable [AddCommGroup K]

theorem charge_anchored (c : Clock M K) (m : M) (x : K) : (c.charge m x).Anchored :=
  least_isLeast _ _ _

/-- The gap between two clients that run is at most what the one ahead is allowed. -/
def Within (c : Clock M K) (S : M → K) : Prop :=
  ∀ i ∈ c.runnable, ∀ j ∈ c.runnable, c.ledger i - c.ledger j ≤ S i

variable [IsOrderedAddMonoid K]

theorem charge_ledger_le (c : Clock M K) (m : M) (x : K) (hx : 0 ≤ x) (i : M) :
    c.ledger i ≤ (c.charge m x).ledger i := by
  simp only [charge, Function.update_apply]
  split
  · rename_i hi
    subst hi
    exact le_add_of_nonneg_right hx
  · exact le_rfl

theorem charge_baseline (c : Clock M K) (h : c.Anchored) (m : M) (x : K) (hx : 0 ≤ x) :
    c.baseline ≤ (c.charge m x).baseline := by
  apply le_least _ _ _ _ le_rfl
  intro i hi
  exact (anchored_le c h i hi).trans (charge_ledger_le c m x hx i)

/-- Departures, returns and an interval with no client at all open no gap. -/
theorem resync_within (c : Clock M K) (S : M → K) (hS : ∀ m, 0 ≤ S m) (h : c.Within S) (current : Finset M) :
    (c.resync current).Within S := by
  intro i hi j hj
  simp only [resync] at hi hj ⊢
  by_cases hir : i ∈ c.runnable
  · rw [aligned_old c current i hir]
    by_cases hjr : j ∈ c.runnable
    · rw [aligned_old c current j hjr]
      exact h i hir j hjr
    · -- the newcomer holds the ledger of a client that stayed
      rw [aligned_new c current j hj hjr, alignment]
      have hne : (current ∩ c.runnable).Nonempty := ⟨i, Finset.mem_inter.mpr ⟨hi, hir⟩⟩
      obtain ⟨k, hk, he⟩ := (least_isLeast _ c.ledger c.baseline hne).1
      rw [← he]
      exact h i hir k (Finset.mem_inter.mp hk).2
  · rw [aligned_new c current i hi hir]
    by_cases hjr : j ∈ c.runnable
    · rw [aligned_old c current j hjr]
      exact (sub_nonpos.mpr (alignment_le c current j hj hjr)).trans (hS i)
    · rw [aligned_new c current j hj hjr, sub_self]
      exact hS i

/-- Charging a client that is behind no other opens a gap no larger than the charge. -/
theorem charge_within (c : Clock M K) (S S' : M → K) (h : c.Within S) (m : M) (x : K) (hx : 0 ≤ x)
    (hmin : ∀ j ∈ c.runnable, c.ledger m ≤ c.ledger j) (hS : ∀ i, S i ≤ S' i) (hS' : x ≤ S' m) :
    (c.charge m x).Within S' := by
  intro i hi j hj
  simp only [charge] at hi hj
  have hjle : c.ledger j ≤ (c.charge m x).ledger j := charge_ledger_le c m x hx j
  by_cases him : i = m
  · subst him
    by_cases hji : j = i
    · subst hji
      rw [sub_self]
      exact hx.trans hS'
    · have hi' : (c.charge i x).ledger i = c.ledger i + x := by simp [charge]
      calc (c.charge i x).ledger i - (c.charge i x).ledger j
          ≤ (c.ledger i + x) - c.ledger j := by rw [hi']; exact sub_le_sub_left hjle _
        _ ≤ (c.ledger j + x) - c.ledger j := sub_le_sub_right (add_le_add_left (hmin j hj) x) _
        _ = x := add_sub_cancel_left _ _
        _ ≤ S' i := hS'
  · have hi' : (c.charge m x).ledger i = c.ledger i := by simp [charge, him]
    calc (c.charge m x).ledger i - (c.charge m x).ledger j
        ≤ c.ledger i - c.ledger j := by rw [hi']; exact sub_le_sub_left hjle _
      _ ≤ S i := h i hi j hj
      _ ≤ S' i := hS i

end Clock

end TurnVector.Fair
