import TurnVector.Python.Text

/-! # UTF-8 is read back as it was written -/

namespace TurnVector.Python

theorem val_ofNat (n : Nat) (h : n < 256) : (Fin.ofNat 256 n).val = n := by
  simp only [Fin.val_ofNat]
  exact Nat.mod_eq_of_lt h

theorem isCont_ofNat (n : Nat) (h : n < 64) : isCont (Fin.ofNat 256 (0x80 + n)) = true ∧
    cont (Fin.ofNat 256 (0x80 + n)) = n := by
  have hv := val_ofNat (0x80 + n) (by omega)
  unfold isCont cont
  rw [hv]
  constructor
  · rw [Bool.and_eq_true, decide_eq_true_eq, decide_eq_true_eq]
    omega
  · omega

/-- The bytes of a character are read as that character, whatever comes after them. -/
theorem decodeUtf8_char (c : CodePoint) (rest : Bytes) (hc : isSurrogate c = false) :
    decodeUtf8 (utf8Char c ++ rest) = (decodeUtf8 rest).map (c :: ·) := by
  have hlt := c.isLt
  unfold utf8Char
  simp only
  split
  case isTrue h1 =>
    have ha := val_ofNat c.val (by omega)
    rw [List.singleton_append, decodeUtf8.eq_def]
    simp only [ha, if_pos h1, cp_eq]
  case isFalse h1 =>
    split
    case isTrue h2 =>
      have ha := val_ofNat (0xC0 + c.val / 64) (by omega)
      obtain ⟨hb, hbc⟩ := isCont_ofNat (c.val % 64) (by omega)
      have htwo : (0xC0 + c.val / 64 - 0xC0) * 64 + c.val % 64 = c.val := by omega
      rw [List.cons_append, List.singleton_append, decodeUtf8.eq_def]
      simp only [ha, hb, hbc, htwo, cp_eq]
      rw [if_neg (by omega), if_pos (by simp; omega)]
    case isFalse h2 =>
      split
      case isTrue h3 =>
        have ha := val_ofNat (0xE0 + c.val / 4096) (by omega)
        obtain ⟨hb, hbc⟩ := isCont_ofNat (c.val / 64 % 64) (by omega)
        obtain ⟨hd, hdc⟩ := isCont_ofNat (c.val % 64) (by omega)
        have hthree : (0xE0 + c.val / 4096 - 0xE0) * 4096 + c.val / 64 % 64 * 64 + c.val % 64 = c.val := by omega
        rw [List.cons_append, List.cons_append, List.singleton_append, decodeUtf8.eq_def]
        simp only [ha, hb, hbc, hd, hdc, hthree, cp_eq, hc]
        rw [if_neg (by omega), if_neg (by simp), if_pos (by simp; omega)]
      case isFalse h3 =>
        have ha := val_ofNat (0xF0 + c.val / 262144) (by omega)
        obtain ⟨hb, hbc⟩ := isCont_ofNat (c.val / 4096 % 64) (by omega)
        obtain ⟨hd, hdc⟩ := isCont_ofNat (c.val / 64 % 64) (by omega)
        obtain ⟨he, hec⟩ := isCont_ofNat (c.val % 64) (by omega)
        have hfour : (0xF0 + c.val / 262144 - 0xF0) * 262144 + c.val / 4096 % 64 * 4096 + c.val / 64 % 64 * 64 +
            c.val % 64 = c.val := by omega
        rw [List.cons_append, List.cons_append, List.cons_append, List.singleton_append, decodeUtf8.eq_def]
        simp only [ha, hb, hbc, hd, hdc, he, hec, hfour, cp_eq]
        rw [if_neg (by omega), if_neg (by simp; omega), if_neg (by simp), if_pos (by simp; omega)]

/-- What is written is read back. -/
theorem decodeUtf8_encodeUtf8 (s : Str) (raw : Bytes) (h : encodeUtf8 s = some raw) : decodeUtf8 raw = some s := by
  unfold encodeUtf8 at h
  split at h
  case isTrue => cases h
  case isFalse hs =>
    cases h
    simp only [hasSurrogate, Bool.not_eq_true, List.any_eq_false] at hs
    induction s with
    | nil => rfl
    | cons c s ih =>
      obtain ⟨hc, hs⟩ := List.forall_mem_cons.mp hs
      rw [List.flatMap_cons, decodeUtf8_char c _ (by simpa using hc), ih hs]
      rfl

end TurnVector.Python
