import Mathlib

/-! # Rotated arrangements

A row of items is laid out anew in every round: it turns by one place each round, and every other block of rounds
starts from the reversed row. Over whole blocks each item takes each place equally often.
-/

namespace TurnVector.Fair

/-! ## Counting over blocks -/

/-- One hit in every block of `n` rounds makes the number of hits follow the number of blocks. -/
theorem count_of_blocks (p : Nat → Prop) [DecidablePred p] (n : Nat) (hn : 0 < n)
    (h : ∀ block, Nat.count (fun offset => p (block * n + offset)) n = 1) (rounds : Nat) :
    rounds / n ≤ Nat.count p rounds ∧ Nat.count p rounds ≤ rounds / n + 1 := by
  have hblocks : ∀ block, Nat.count p (block * n) = block := by
    intro block
    induction block with
    | zero => simp
    | succ block ih => rw [Nat.succ_mul, Nat.count_add, ih, h]
  have hlow := Nat.count_monotone p (Nat.div_mul_le_self rounds n)
  have hhigh := Nat.count_monotone p (@Nat.lt_div_mul_add rounds n hn).le
  rw [hblocks] at hlow
  rw [show rounds / n * n + n = (rounds / n + 1) * n by ring, hblocks] at hhigh
  exact ⟨hlow, hhigh⟩

theorem count_eq_one (p : Nat → Prop) [DecidablePred p] (n : Nat) (h : ∃! k, k < n ∧ p k) : Nat.count p n = 1 := by
  obtain ⟨k, hk, hunique⟩ := h
  rw [Nat.count_eq_card_filter_range, Finset.card_eq_one]
  refine ⟨k, ?_⟩
  ext j
  simp only [Finset.mem_filter, Finset.mem_range, Finset.mem_singleton]
  constructor
  · exact hunique j
  · rintro rfl
    exact hk

/-! ## Arrangements -/

section
variable {α : Type}

/-- The row that a block starts from. -/
def turned (row : List α) (block : Nat) : List α := if block % 2 = 0 then row else row.reverse

/-- The row of a round. -/
def arrangement (row : List α) (round : Nat) : List α :=
  (turned row (round / row.length)).rotate (round % row.length)

theorem turned_perm (row : List α) (block : Nat) : (turned row block).Perm row := by
  unfold turned
  split
  · exact List.Perm.refl row
  · exact List.reverse_perm row

theorem arrangement_perm (row : List α) (round : Nat) : (arrangement row round).Perm row :=
  (List.rotate_perm _ _).trans (turned_perm row _)

theorem length_arrangement (row : List α) (round : Nat) : (arrangement row round).length = row.length :=
  (arrangement_perm row round).length_eq

theorem arrangement_at (row : List α) (block offset place : Nat) (hoffset : offset < row.length)
    (hplace : place < row.length) :
    (arrangement row (block * row.length + offset))[place]? = (turned row block)[(place + offset) % row.length]? := by
  have hlength : (turned row block).length = row.length := (turned_perm row block).length_eq
  have hdiv : (block * row.length + offset) / row.length = block := by
    rw [Nat.mul_comm, Nat.mul_add_div (by omega), Nat.div_eq_of_lt hoffset, Nat.add_zero]
  have hmod : (block * row.length + offset) % row.length = offset := by
    rw [Nat.mul_comm, Nat.mul_add_mod, Nat.mod_eq_of_lt hoffset]
  unfold arrangement
  rw [hdiv, hmod, List.getElem?_rotate (by omega), hlength]

/-- In every block each item takes each place once. -/
theorem arrangement_once (row : List α) (hrow : row.Nodup) (item : α) (hitem : item ∈ row) (block place : Nat)
    (hplace : place < row.length) :
    ∃! offset, offset < row.length ∧ (arrangement row (block * row.length + offset))[place]? = some item := by
  have hperm := turned_perm row block
  have hnodup : (turned row block).Nodup := hperm.nodup_iff.mpr hrow
  obtain ⟨k, hk, hget⟩ := List.mem_iff_getElem.mp (hperm.mem_iff.mpr hitem)
  have hkn : k < row.length := by rwa [hperm.length_eq] at hk
  refine ⟨(k + (row.length - place)) % row.length, ⟨Nat.mod_lt _ (by omega), ?_⟩, ?_⟩
  · have hback : (place + (k + (row.length - place)) % row.length) % row.length = k := by
      rw [Nat.add_mod_mod, show place + (k + (row.length - place)) = k + row.length by omega, Nat.add_mod_right,
        Nat.mod_eq_of_lt hkn]
    rw [arrangement_at row block _ place (Nat.mod_lt _ (by omega)) hplace, hback, List.getElem?_eq_getElem hk, hget]
  · rintro offset ⟨hoffset, hat⟩
    rw [arrangement_at row block offset place hoffset hplace] at hat
    obtain ⟨hlt, hsame⟩ := List.getElem?_eq_some_iff.mp hat
    have hindex : (place + offset) % row.length = k := (hnodup.getElem_inj_iff).mp (hsame.trans hget.symm)
    rw [← hindex]
    rcases lt_or_ge (place + offset) row.length with hsmall | hlarge
    · rw [Nat.mod_eq_of_lt hsmall, show place + offset + (row.length - place) = offset + row.length by omega,
        Nat.add_mod_right, Nat.mod_eq_of_lt hoffset]
    · rw [Nat.mod_eq_sub_mod hlarge, Nat.mod_eq_of_lt (by omega : place + offset - row.length < row.length),
        show place + offset - row.length + (row.length - place) = offset by omega, Nat.mod_eq_of_lt hoffset]

/-- The rounds so far that put the item in the place. -/
def turns [DecidableEq α] (row : List α) (item : α) (place rounds : Nat) : Nat :=
  Nat.count (fun round => (arrangement row round)[place]? = some item) rounds

/-- No item is ahead of another, in any place, by more than one round. -/
theorem turns_le [DecidableEq α] (row : List α) (hrow : row.Nodup) (item item' : α) (hitem : item ∈ row)
    (hitem' : item' ∈ row) (place place' : Nat) (hplace : place < row.length) (hplace' : place' < row.length)
    (rounds : Nat) : turns row item place rounds ≤ turns row item' place' rounds + 1 := by
  have hhigh := (count_of_blocks (fun round => (arrangement row round)[place]? = some item) row.length (by omega)
    (fun block => count_eq_one _ _ (arrangement_once row hrow item hitem block place hplace)) rounds).2
  have hlow := (count_of_blocks (fun round => (arrangement row round)[place']? = some item') row.length (by omega)
    (fun block => count_eq_one _ _ (arrangement_once row hrow item' hitem' block place' hplace')) rounds).1
  unfold turns
  omega

end

end TurnVector.Fair
