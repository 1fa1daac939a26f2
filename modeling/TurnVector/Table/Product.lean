import Mathlib

/-! # Cartesian products of lists

`itertools.product`: the last list runs fastest.
-/

namespace TurnVector.Table

variable {α β : Type}

/-- `product(*pools)` -/
def product : List (List α) → List (List α)
  | [] => [[]]
  | pool :: pools => pool.flatMap fun a => (product pools).map (a :: ·)

theorem mem_product (pools : List (List α)) (c : List α) :
    c ∈ product pools ↔ List.Forall₂ (· ∈ ·) c pools := by
  induction pools generalizing c with
  | nil => simp [product]
  | cons pool pools ih =>
    simp only [product, List.mem_flatMap, List.mem_map, ih]
    constructor
    · rintro ⟨a, ha, rest, hrest, rfl⟩
      exact .cons ha hrest
    · intro h
      obtain ⟨a, rest, ha, hrest, rfl⟩ := List.forall₂_cons_right_iff.mp h
      exact ⟨a, ha, rest, hrest, rfl⟩

theorem product_length (pools : List (List α)) : (product pools).length = (pools.map List.length).prod := by
  induction pools with
  | nil => rfl
  | cons pool pools ih =>
    rw [product, List.length_flatMap, List.map_cons, List.prod_cons, ← ih]
    simp

/-- Each combination of the members of duplicate-free lists is met once. -/
theorem product_nodup (pools : List (List α)) (h : ∀ pool ∈ pools, pool.Nodup) : (product pools).Nodup := by
  induction pools with
  | nil => simp [product]
  | cons pool pools ih =>
    rw [product, List.nodup_flatMap]
    have hrest := ih fun p hp => h p (by simp [hp])
    refine ⟨?_, ?_⟩
    · intro a _
      exact hrest.map fun c d hcd => (List.cons.inj hcd).2
    · have hpool := h pool (by simp)
      refine hpool.imp ?_
      intro a b hab c hc hd
      simp only [List.mem_map] at hc hd
      obtain ⟨_, -, rfl⟩ := hc
      obtain ⟨_, -, hd⟩ := hd
      exact hab (List.cons.inj hd).1.symm

theorem length_of_mem_product (pools : List (List α)) (c : List α) (h : c ∈ product pools) :
    c.length = pools.length :=
  ((mem_product pools c).mp h).length_eq

end TurnVector.Table
