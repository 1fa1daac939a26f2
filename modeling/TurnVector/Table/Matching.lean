import Mathlib

/-! # Records and their keys

Arrays of records against the list of keys that own them: when each key has one record, the array is a matching.
-/

namespace TurnVector.Table

section
variable {α κ : Type} [DecidableEq κ]

/-- How many records have a key. -/
def owned (key : α → κ) (records : List α) (k : κ) : Nat := records.countP fun x => key x = k

theorem owned_eq_count (key : α → κ) (records : List α) (k : κ) : owned key records k = (records.map key).count k := by
  unfold owned
  rw [List.count, List.countP_map]
  apply List.countP_congr
  simp

theorem exists_of_owned (key : α → κ) (records : List α) (k : κ) (h : 0 < owned key records k) :
    ∃ x ∈ records, key x = k := by
  unfold owned at h
  rw [List.countP_pos_iff] at h
  simpa using h

/-- A key that has one record has no second one. -/
theorem eq_of_owned_one (key : α → κ) (records : List α) (k : κ) (h : owned key records k = 1) {x y : α}
    (hx : x ∈ records) (hy : y ∈ records) (hkx : key x = k) (hky : key y = k) : x = y := by
  unfold owned at h
  rw [List.countP_eq_length_filter, List.length_eq_one_iff] at h
  obtain ⟨z, hz⟩ := h
  have hmem : ∀ w ∈ records, key w = k → w = z := by
    intro w hw hkw
    have : w ∈ records.filter fun x => key x = k := List.mem_filter.mpr ⟨hw, by simpa using hkw⟩
    rwa [hz, List.mem_singleton] at this
  rw [hmem x hx hkx, hmem y hy hky]

/-- Where keys are distinct, each has one record. -/
theorem owned_one_of_mem (key : α → κ) (records : List α) (hn : (records.map key).Nodup) (x : α) (hx : x ∈ records) :
    owned key records (key x) = 1 := by
  rw [owned_eq_count]
  exact List.count_eq_one_of_mem hn (List.mem_map_of_mem hx)

/-- Keys that have one record each, and no more keys than records: the records name each key once. -/
theorem perm_of_owned_one (key : α → κ) (records : List α) (keys : List κ) (hin : ∀ x ∈ records, key x ∈ keys)
    (hone : ∀ k ∈ keys, owned key records k = 1) (hlen : keys.length ≤ records.length) :
    (records.map key).Nodup ∧ (records.map key).Perm keys := by
  have hsub : ∀ k ∈ records.map key, k ∈ keys := by simpa using hin
  have hnodup : (records.map key).Nodup := by
    rw [List.nodup_iff_count_le_one]
    intro k
    rw [← owned_eq_count]
    by_cases hk : k ∈ keys
    · rw [hone k hk]
    · rw [owned_eq_count, List.count_eq_zero_of_not_mem fun hm => hk (hsub k hm)]
      omega
  exact ⟨hnodup, (List.subperm_of_subset hnodup hsub).perm_of_length_le (by simpa using hlen)⟩

theorem nodup_of_owned_one (key : α → κ) (records : List α) (keys : List κ) (hin : ∀ x ∈ records, key x ∈ keys)
    (hone : ∀ k ∈ keys, owned key records k = 1) (hlen : keys.length ≤ records.length) : keys.Nodup := by
  obtain ⟨hn, hp⟩ := perm_of_owned_one key records keys hin hone hlen
  exact hp.nodup_iff.mp hn

/-- A weight summed over keys that are distinct, each at the records that name it, is summed over the records. -/
theorem sum_owned (key : α → κ) (weight : κ → Nat) (keys : List κ) (records : List α) (hn : keys.Nodup)
    (h : ∀ x ∈ records, key x ∈ keys) :
    (keys.map fun k => owned key records k * weight k).sum = (records.map fun x => weight (key x)).sum := by
  induction records with
  | nil => simp [owned]
  | cons x xs ih =>
    have hx : key x ∈ keys := h x (by simp)
    have hone : (keys.map fun k => if k = key x then weight k else 0).sum = weight (key x) := by
      rw [List.sum_map_eq_nsmul_single (key x) _ fun k hk _ => if_neg hk, List.count_eq_one_of_mem hn hx]
      simp
    rw [List.map_cons, List.sum_cons, ← ih fun y hy => h y (by simp [hy]), ← hone, ← List.sum_map_add]
    congr 1
    apply List.map_congr_left
    intro k _
    unfold owned
    rw [List.countP_cons]
    by_cases hk : k = key x
    · simp [hk, Nat.add_mul, Nat.add_comm]
    · simp [hk, Ne.symm hk]

theorem sum_owned_eq_length (key : α → κ) (keys : List κ) (records : List α) (hn : keys.Nodup)
    (h : ∀ x ∈ records, key x ∈ keys) : (keys.map fun k => owned key records k).sum = records.length := by
  have := sum_owned key (fun _ => 1) keys records hn h
  simpa using this

end

/-! ## Matchings -/

/-- The pairs match the items of two lists: each item is in one pair. -/
structure Matching {α β : Type} (rel : List (α × β)) (firsts : List α) (seconds : List β) : Prop where
  records : rel.Nodup
  firstsNodup : firsts.Nodup
  secondsNodup : seconds.Nodup
  inside : ∀ p ∈ rel, p.1 ∈ firsts ∧ p.2 ∈ seconds
  first : ∀ a ∈ firsts, ∃! b, (a, b) ∈ rel
  second : ∀ b ∈ seconds, ∃! a, (a, b) ∈ rel

theorem matching_of_owned {α β : Type} [DecidableEq α] [DecidableEq β] (rel : List (α × β)) (firsts : List α)
    (seconds : List β) (hn : rel.Nodup) (hin : ∀ p ∈ rel, p.1 ∈ firsts ∧ p.2 ∈ seconds)
    (hf : ∀ a ∈ firsts, owned Prod.fst rel a = 1) (hs : ∀ b ∈ seconds, owned Prod.snd rel b = 1)
    (hfl : firsts.length ≤ rel.length) (hsl : seconds.length ≤ rel.length) : Matching rel firsts seconds := by
  refine ⟨hn, ?_, ?_, hin, ?_, ?_⟩
  · exact nodup_of_owned_one Prod.fst rel firsts (fun p hp => (hin p hp).1) hf hfl
  · exact nodup_of_owned_one Prod.snd rel seconds (fun p hp => (hin p hp).2) hs hsl
  · intro a ha
    obtain ⟨⟨_, b⟩, hp, rfl⟩ := exists_of_owned Prod.fst rel a (by rw [hf a ha]; omega)
    refine ⟨b, hp, ?_⟩
    intro b' hb'
    have := eq_of_owned_one Prod.fst rel _ (hf _ ha) hb' hp rfl rfl
    exact congrArg Prod.snd this
  · intro b hb
    obtain ⟨⟨a, _⟩, hp, rfl⟩ := exists_of_owned Prod.snd rel b (by rw [hs b hb]; omega)
    refine ⟨a, hp, ?_⟩
    intro a' ha'
    have := eq_of_owned_one Prod.snd rel _ (hs _ hb) ha' hp rfl rfl
    exact congrArg Prod.fst this

end TurnVector.Table
