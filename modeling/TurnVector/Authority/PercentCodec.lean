import TurnVector.Authority.PathId
import TurnVector.Python.Utf8

/-! # The percent codec and the path codec

Each is the inverse of its other half: what is decoded is what was encoded, and nothing else is decoded.
-/

namespace TurnVector.Relations

open Python Json Canonical

/-! ## Bytes -/

/-- The bytes of the text that stands for a byte. -/
def escapeBytes (b : Byte) : Bytes := (pctByte b).map fun c => byte c.val

theorem upperHex_digit (n : Nat) (h : n < 16) :
    (upperHex n).val < 128 ∧ upperHexVal (byte (upperHex n).val) = some n := by
  have : ∀ k < 16, (upperHex k).val < 128 ∧ upperHexVal (byte (upperHex k).val) = some k := by decide
  exact this n h

theorem isUnreserved_ascii (b : Byte) (h : isUnreserved b = true) : b.val < 128 ∧ b.val ≠ 37 := by
  simp only [isUnreserved, Bool.or_eq_true, Bool.and_eq_true, decide_eq_true_eq, beq_iff_eq] at h
  omega

theorem pctByte_ascii (b : Byte) : ∀ c ∈ pctByte b, c.val < 128 := by
  unfold pctByte
  split
  case isTrue h =>
    have hb := (isUnreserved_ascii b h).1
    simp only [List.mem_singleton, forall_eq]
    rw [cp_val _ (by omega)]
    exact hb
  case isFalse =>
    simp only [List.mem_cons, List.not_mem_nil, or_false, forall_eq_or_imp, forall_eq]
    exact ⟨by decide, (upperHex_digit _ (by omega)).1, (upperHex_digit _ (by omega)).1⟩

/-- An escape is read as its byte, whatever comes after it. -/
theorem pctDecodeBytes_byte (b : Byte) (rest : Bytes) :
    pctDecodeBytes (escapeBytes b ++ rest) = (do return b :: (← pctDecodeBytes rest)) := by
  unfold escapeBytes pctByte
  split
  case isTrue h =>
    obtain ⟨hlt, hne⟩ := isUnreserved_ascii b h
    have hb : byte (cp b.val).val = b := by
      apply Fin.ext
      rw [byte, cp_val _ (by omega), val_ofNat _ b.isLt]
    rw [List.map_singleton, hb, List.singleton_append, pctDecodeBytes.eq_def]
    simp only [if_neg hne, if_pos h]
  case isFalse h =>
    have hb : byte (16 * (b.val / 16) + b.val % 16) = b := by
      rw [Nat.div_add_mod]
      exact Fin.ext (val_ofNat _ b.isLt)
    have hpercent : (byte (cp 37).val).val = 37 := by decide
    simp only [List.map_cons, List.map_nil, List.cons_append, List.nil_append]
    rw [pctDecodeBytes.eq_def]
    simp only [if_pos hpercent, (upperHex_digit (b.val / 16) (by omega)).2, (upperHex_digit (b.val % 16) (by omega)).2,
      hb, if_neg h]

theorem pctDecodeBytes_escape (raw : Bytes) : pctDecodeBytes (raw.flatMap escapeBytes) = .ok raw := by
  induction raw with
  | nil => rfl
  | cons b raw ih =>
    rw [List.flatMap_cons, pctDecodeBytes_byte, ih]
    rfl

/-! ## Components -/

theorem pctEncode_ok (text : Str) (h : hasSurrogate text = false) :
    ∃ raw, encodeUtf8 text = some raw ∧ pctEncode text = .ok (raw.flatMap pctByte) := by
  have hraw : encodeUtf8 text = some (text.flatMap utf8Char) := if_neg (by simp [h])
  refine ⟨_, hraw, ?_⟩
  rw [pctEncode, hraw]

theorem pctEncode_surrogate (text component : Str) (h : pctEncode text = .ok component) : hasSurrogate text = false := by
  unfold pctEncode encodeUtf8 at h
  cases hs : hasSurrogate text with
  | false => rfl
  | true =>
    rw [if_pos hs] at h
    cases h

theorem encodeAscii_escape (raw : Bytes) : encodeAscii (raw.flatMap pctByte) = some (raw.flatMap escapeBytes) := by
  unfold encodeAscii
  rw [if_pos, List.map_flatMap]
  · rfl
  · simp only [isAscii, List.all_eq_true, decide_eq_true_eq]
    intro c hc
    obtain ⟨b, -, hb⟩ := List.mem_flatMap.mp hc
    exact pctByte_ascii b c hb

/-- What is encoded is decoded. -/
theorem pctDecode_pctEncode (text component : Str) (h : pctEncode text = .ok component) :
    pctDecode component = .ok text := by
  obtain ⟨raw, hraw, hok⟩ := pctEncode_ok text (pctEncode_surrogate text component h)
  have hcomponent : component = raw.flatMap pctByte := Except.ok.inj (h.symm.trans hok)
  unfold pctDecode
  rw [hcomponent, encodeAscii_escape]
  simp only [pctDecodeBytes_escape, bind, Except.bind, decodeUtf8_encodeUtf8 text raw hraw, hok, ne_eq, not_true,
    if_false]
  rfl

/-- What is decoded was encoded. -/
theorem pctEncode_pctDecode (component text : Str) (h : pctDecode component = .ok text) :
    pctEncode text = .ok component := by
  unfold pctDecode at h
  split at h
  · cases h
  · obtain ⟨raw, -, h⟩ := bind_ok_iff.mp h
    split at h
    · cases h
    · obtain ⟨again, hagain, h⟩ := bind_ok_iff.mp h
      split at h
      · cases h
      · rename_i hsame
        rw [not_not] at hsame
        cases h
        rw [hagain, hsame]

theorem pctDecode_iff (component text : Str) : pctDecode component = .ok text ↔ pctEncode text = .ok component :=
  ⟨pctEncode_pctDecode component text, pctDecode_pctEncode text component⟩

theorem decodeIdentifier_iff (component value : Str) :
    decodeIdentifier component = .ok value ↔ component = value ∧ isIdentifier value = true := by
  constructor
  · intro h
    unfold decodeIdentifier at h
    obtain ⟨text, htext, h⟩ := bind_ok_iff.mp h
    split at h
    case isFalse => cases h
    case isTrue hid =>
      cases h
      have hcomponent := pctEncode_pctDecode component value htext
      rw [pctEncode_identifier value hid] at hcomponent
      exact ⟨(Except.ok.inj hcomponent).symm, hid⟩
  · rintro ⟨rfl, hid⟩
    exact decodeIdentifier_identifier component hid

/-! ## Paths -/

theorem encodeEnforcementPath_iff (o c j b g component : Str) :
    encodeEnforcementPath o c j b g = .ok component ↔ Fields o c j b g ∧ component = joinTilde [o, c, j, b, g] := by
  constructor
  · intro h
    have hfields : Fields o c j b g := by
      unfold encodeEnforcementPath at h
      simp only at h
      split at h
      case isTrue => cases h
      case isFalse hid =>
        simp only [List.any_cons, List.any_nil, Bool.or_false, Bool.or_eq_true, Bool.not_eq_true', not_or,
          Bool.not_eq_false] at hid
        obtain ⟨ho, hc, hj, hb, hg⟩ := hid
        exact ⟨ho, hc, hj, hb, hg⟩
    refine ⟨hfields, ?_⟩
    rw [encodeEnforcementPath_ok o c j b g hfields] at h
    exact (Except.ok.inj h).symm
  · rintro ⟨hfields, rfl⟩
    exact encodeEnforcementPath_ok o c j b g hfields

/-- A path is decoded to the five fields that it encodes. -/
theorem decodeEnforcementPath_iff (component o c j b g : Str) :
    decodeEnforcementPath component = .ok (o, c, j, b, g) ↔ encodeEnforcementPath o c j b g = .ok component := by
  constructor
  · intro h
    unfold decodeEnforcementPath at h
    split at h
    case h_2 => cases h
    case h_1 =>
      obtain ⟨_, -, h⟩ := bind_ok_iff.mp h
      obtain ⟨_, -, h⟩ := bind_ok_iff.mp h
      obtain ⟨_, -, h⟩ := bind_ok_iff.mp h
      obtain ⟨_, -, h⟩ := bind_ok_iff.mp h
      obtain ⟨_, -, h⟩ := bind_ok_iff.mp h
      obtain ⟨again, hagain, h⟩ := bind_ok_iff.mp h
      split at h
      · cases h
      · rename_i hsame
        rw [not_not] at hsame
        cases h
        rw [hagain, hsame]
  · intro h
    obtain ⟨hfields, rfl⟩ := (encodeEnforcementPath_iff o c j b g component).mp h
    exact decodeEnforcementPath_ok o c j b g hfields

/-- Both codecs are exact inverses: what is encoded is decoded, and nothing but what is encoded is decoded. -/
theorem codecs_exact :
    (∀ text : Str, hasSurrogate text = false →
      ∃ component, pctEncode text = .ok component ∧ pctDecode component = .ok text) ∧
    (∀ component : Str, (∃ text, pctDecode component = .ok text) ↔
      ∃ text, hasSurrogate text = false ∧ pctEncode text = .ok component) ∧
    (∀ o c j b g : Str, Fields o c j b g →
      ∃ component, encodeEnforcementPath o c j b g = .ok component ∧
        decodeEnforcementPath component = .ok (o, c, j, b, g)) ∧
    (∀ component o c j b g : Str, decodeEnforcementPath component = .ok (o, c, j, b, g) ↔
      encodeEnforcementPath o c j b g = .ok component) ∧
    ∀ o c j b g o' c' j' b' g' component : Str, encodeEnforcementPath o c j b g = .ok component →
      encodeEnforcementPath o' c' j' b' g' = .ok component → (o, c, j, b, g) = (o', c', j', b', g') := by
  refine ⟨?_, ?_, ?_, decodeEnforcementPath_iff, ?_⟩
  · intro text hs
    obtain ⟨raw, -, hok⟩ := pctEncode_ok text hs
    exact ⟨_, hok, pctDecode_pctEncode text _ hok⟩
  · intro component
    constructor
    · rintro ⟨text, h⟩
      have henc := pctEncode_pctDecode component text h
      exact ⟨text, pctEncode_surrogate text component henc, henc⟩
    · rintro ⟨text, -, h⟩
      exact ⟨text, pctDecode_pctEncode text component h⟩
  · intro o c j b g hfields
    have hok := encodeEnforcementPath_ok o c j b g hfields
    exact ⟨_, hok, (decodeEnforcementPath_iff _ o c j b g).mpr hok⟩
  · intro o c j b g o' c' j' b' g' component h h'
    have hdec := (decodeEnforcementPath_iff component o c j b g).mpr h
    rw [(decodeEnforcementPath_iff component o' c' j' b' g').mpr h'] at hdec
    exact (Except.ok.inj hdec).symm

theorem codecs_exact_sample :
    (∃ component, pctEncode (lit "a/b") = .ok component ∧ pctDecode component = .ok (lit "a/b")) ∧
      ∃ component, encodeEnforcementPath (lit "o") (lit "c") (lit "j") (lit "b") (lit "g") = .ok component ∧
        decodeEnforcementPath component = .ok (lit "o", lit "c", lit "j", lit "b", lit "g") ∧
        (lit "o", lit "c", lit "j", lit "b", lit "g") = (lit "o", lit "c", lit "j", lit "b", lit "g") := by
  obtain ⟨hpct, -, hpath, -, hone⟩ := codecs_exact
  obtain ⟨component, henc, hdec⟩ := hpath (lit "o") (lit "c") (lit "j") (lit "b") (lit "g")
    ⟨by decide, by decide, by decide, by decide, by decide⟩
  exact ⟨hpct (lit "a/b") (by decide), component, henc, hdec, hone _ _ _ _ _ _ _ _ _ _ component henc henc⟩

end TurnVector.Relations
