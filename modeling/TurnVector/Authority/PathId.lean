import TurnVector.Authority.Derivation

/-! # Case ids and path ids -/

namespace TurnVector.Relations

open Python Json Canonical

/-! ## Case ids -/

/-- The number that the digits at the end of a text name. -/
def ordinalOf (s : Str) : Nat := natOf (s.reverse.takeWhile isDigit).reverse

theorem natOf_zeros (k : Nat) (ds : Str) : natOf (List.replicate k (cp 48) ++ ds) = natOf ds := by
  induction k with
  | zero => rfl
  | succ k ih =>
    rw [List.replicate_succ, List.cons_append, ← ih]
    rfl

theorem fourDigits_digit (n : Nat) : ∀ c ∈ fourDigits n, isDigit c = true := by
  unfold fourDigits
  intro c hc
  rcases List.mem_append.mp hc with hc | hc
  · rw [List.eq_of_mem_replicate hc]
    decide
  · exact natText_digit n c hc

/-- The digits at the end are the ordinal, when no digit stands before them. -/
theorem ordinalOf_fourDigits (s : Str) (n : Nat) (hs : s.reverse.takeWhile isDigit = []) :
    ordinalOf (s ++ fourDigits n) = n := by
  unfold ordinalOf
  rw [List.reverse_append, List.takeWhile_append_of_pos]
  · rw [hs, List.append_nil, List.reverse_reverse]
    unfold fourDigits
    rw [natOf_zeros, natOf_natText]
  · intro c hc
    exact fourDigits_digit n c (List.mem_reverse.mp hc)

theorem ordinalOf_caseId (laneId matrixId : Str) (n : Nat) : ordinalOf (caseId laneId matrixId n) = n := by
  have hdot : isDigit (cp 46) = false := by decide
  have hlit : lit "." = [cp 46] := by decide
  unfold caseId
  apply ordinalOf_fourDigits
  rw [hlit, List.reverse_append]
  simp [hdot]

theorem expand_ordinals (laneId : Str) (ordinal : Nat) (matrices : List Json) (ids : List Str)
    (h : expand laneId ordinal matrices = .ok ids) : ids.map ordinalOf = List.range' ordinal ids.length := by
  induction matrices generalizing ordinal ids with
  | nil =>
    cases h
    rfl
  | cons matrix matrices ih =>
    unfold expand at h
    simp only [bind_ok_iff, pure, Except.pure, Except.ok.injEq] at h
    obtain ⟨matrixId, -, count, -, rest, hrest, rfl⟩ := h
    have hfirst : ((List.range count).map fun i => caseId laneId matrixId (ordinal + i)).map ordinalOf =
        List.range' ordinal count := by
      rw [List.map_map, List.range'_eq_map_range]
      apply List.map_congr_left
      intro i _
      exact ordinalOf_caseId laneId matrixId (ordinal + i)
    rw [List.map_append, hfirst, ih _ _ hrest, List.length_append, List.length_map, List.length_range]
    simp

/-- The ordinal at the end tells the case ids of a lane apart, whatever the matrices are called. -/
theorem expand_nodup (laneId : Str) (ordinal : Nat) (matrices : List Json) (ids : List Str)
    (h : expand laneId ordinal matrices = .ok ids) : ids.Nodup := by
  apply List.Nodup.of_map ordinalOf
  rw [expand_ordinals laneId ordinal matrices ids h]
  exact List.nodup_range'

theorem normalizeLane_caseIds (lane : Json) (l : Lane) (h : normalizeLane lane = .ok l) : l.caseIds.Nodup := by
  unfold normalizeLane at h
  simp only [bind_ok_iff, pure, Except.pure, Except.ok.injEq] at h
  obtain ⟨laneId, -, matrices, -, caseIds, hids, _, -, _, -, _, -, _, -, _, -, rfl⟩ := h
  exact expand_nodup laneId 1 matrices caseIds hids

theorem readLanes_caseIds (expectation : Json) (lanes : List Lane) (h : readLanes expectation = .ok lanes) :
    ∀ lane ∈ lanes, lane.caseIds.Nodup := by
  unfold readLanes at h
  rw [bind_ok_iff] at h
  obtain ⟨items, -, h⟩ := h
  intro lane hl
  obtain ⟨item, -, hi⟩ := mem_of_mapM_ok _ _ _ h lane hl
  exact normalizeLane_caseIds item lane hi

/-! ## Identifiers are their own encoding -/

theorem isIdentifierChar_of_head (c : CodePoint) (h : isIdentifierHead c = true) : isIdentifierChar c = true := by
  simp [isIdentifierChar, h]

theorem identifier_chars (s : Str) (h : isIdentifier s = true) : ∀ c ∈ s, isIdentifierChar c = true := by
  cases s with
  | nil => simp [isIdentifier] at h
  | cons c s =>
    simp only [isIdentifier, Bool.and_eq_true, List.all_eq_true] at h
    intro d hd
    rcases List.mem_cons.mp hd with rfl | hd
    · exact isIdentifierChar_of_head d h.1
    · exact h.2 d hd

theorem identifierChar_bounds (c : CodePoint) (h : isIdentifierChar c = true) :
    (97 ≤ c.val ∧ c.val ≤ 122) ∨ (48 ≤ c.val ∧ c.val ≤ 57) ∨ c.val = 46 ∨ c.val = 95 ∨ c.val = 45 := by
  simp only [isIdentifierChar, isIdentifierHead, isDigit, Bool.or_eq_true, Bool.and_eq_true, decide_eq_true_eq,
    beq_iff_eq] at h
  omega

/-- The bytes of a text of identifier characters. -/
def rawBytes (s : Str) : Bytes := s.map fun c => byte c.val

theorem byte_val (n : Nat) (h : n < 256) : (byte n).val = n := by
  simp only [byte, Fin.val_ofNat]
  exact Nat.mod_eq_of_lt h

theorem unreserved_identifierChar (c : CodePoint) (h : isIdentifierChar c = true) :
    isUnreserved (byte c.val) = true ∧ (byte c.val).val = c.val := by
  have hb := identifierChar_bounds c h
  have hv : (byte c.val).val = c.val := byte_val c.val (by omega)
  refine ⟨?_, hv⟩
  simp only [isUnreserved, hv, Bool.or_eq_true, Bool.and_eq_true, decide_eq_true_eq, beq_iff_eq]
  omega

/-- An identifier is ASCII, so its bytes are its characters. -/
theorem encodeUtf8_identifier (s : Str) (h : ∀ c ∈ s, isIdentifierChar c = true) : encodeUtf8 s = some (rawBytes s) := by
  have hs : hasSurrogate s = false := by
    simp only [hasSurrogate, List.any_eq_false, isSurrogate, Bool.and_eq_true, decide_eq_true_eq, not_and]
    intro c hc
    have := identifierChar_bounds c (h c hc)
    omega
  have hflat : s.flatMap utf8Char = rawBytes s := by
    unfold rawBytes
    rw [List.map_eq_flatMap]
    apply List.flatMap_congr
    intro c hc
    have := identifierChar_bounds c (h c hc)
    unfold utf8Char
    rw [if_pos (by omega)]
    rfl
  unfold encodeUtf8
  rw [if_neg (by simp [hs]), hflat]

theorem pctEncode_identifier (s : Str) (h : isIdentifier s = true) : pctEncode s = .ok s := by
  have hc := identifier_chars s h
  have hflat : (rawBytes s).flatMap pctByte = s := by
    unfold rawBytes
    rw [List.flatMap_map]
    conv_rhs => rw [← List.flatMap_singleton' s]
    apply List.flatMap_congr
    intro c hm
    obtain ⟨hu, hv⟩ := unreserved_identifierChar c (hc c hm)
    unfold pctByte
    rw [if_pos hu, hv, cp_eq]
  unfold pctEncode
  rw [encodeUtf8_identifier s hc]
  simp only [hflat]

theorem pctDecodeBytes_identifier (s : Str) (h : ∀ c ∈ s, isIdentifierChar c = true) :
    pctDecodeBytes (rawBytes s) = .ok (rawBytes s) := by
  induction s with
  | nil => rfl
  | cons c s ih =>
    have hb := identifierChar_bounds c (h c (by simp))
    obtain ⟨hu, hv⟩ := unreserved_identifierChar c (h c (by simp))
    rw [rawBytes, List.map_cons, pctDecodeBytes.eq_def]
    simp only
    rw [if_neg (by omega), if_pos hu]
    have := ih fun d hd => h d (by simp [hd])
    rw [rawBytes] at this
    rw [this]
    rfl

theorem pctDecode_identifier (s : Str) (h : isIdentifier s = true) : pctDecode s = .ok s := by
  have hc := identifier_chars s h
  have hascii : encodeAscii s = some (rawBytes s) := by
    unfold encodeAscii
    rw [if_pos]
    · rfl
    · simp only [isAscii, List.all_eq_true, decide_eq_true_eq]
      intro c hm
      have := identifierChar_bounds c (hc c hm)
      omega
  have hof : ofBytes (rawBytes s) = s := (encodeAscii_eq s _ hascii).1
  unfold pctDecode
  rw [hascii]
  simp only [pctDecodeBytes_identifier s hc, bind, Except.bind]
  rw [decodeUtf8_ascii _ (encodeAscii_eq s _ hascii).2, hof]
  simp only [pctEncode_identifier s h]
  simp [pure, Except.pure]

theorem decodeIdentifier_identifier (s : Str) (h : isIdentifier s = true) : decodeIdentifier s = .ok s := by
  unfold decodeIdentifier
  rw [pctDecode_identifier s h]
  simp [bind, Except.bind, h, pure, Except.pure]

/-! ## Paths -/

/-- A tuple of identifiers that a path id names. -/
structure Fields (o c j b g : Str) : Prop where
  obligation : isIdentifier o = true
  case : isIdentifier c = true
  judge : isIdentifier j = true
  bundle : isIdentifier b = true
  gate : isIdentifier g = true

theorem encodeEnforcementPath_ok (o c j b g : Str) (h : Fields o c j b g) :
    encodeEnforcementPath o c j b g = .ok (joinTilde [o, c, j, b, g]) := by
  unfold encodeEnforcementPath
  simp only [List.any_cons, List.any_nil, h.obligation, h.case, h.judge, h.bundle, h.gate, Bool.not_true,
    Bool.or_self, Bool.false_eq_true, if_false]
  have hm : [o, c, j, b, g].mapM pctEncode = .ok ([o, c, j, b, g].map id) := by
    apply mapM_ok
    simp only [List.mem_cons, List.not_mem_nil, or_false, forall_eq_or_imp, forall_eq, id_eq]
    exact ⟨pctEncode_identifier o h.obligation, pctEncode_identifier c h.case, pctEncode_identifier j h.judge,
      pctEncode_identifier b h.bundle, pctEncode_identifier g h.gate⟩
  rw [hm]
  rfl

theorem tilde_not_mem (s : Str) (h : isIdentifier s = true) : cp 126 ∉ s := by
  intro hm
  have := identifierChar_bounds _ (identifier_chars s h _ hm)
  rw [cp_val 126 (by omega)] at this
  omega

theorem splitOn_joinTilde (o c j b g : Str) (h : Fields o c j b g) :
    (joinTilde [o, c, j, b, g]).splitOn (cp 126) = [o, c, j, b, g] := by
  unfold joinTilde
  apply List.splitOn_intercalate
  · simp only [List.mem_cons, List.not_mem_nil, or_false, forall_eq_or_imp, forall_eq]
    exact ⟨tilde_not_mem o h.obligation, tilde_not_mem c h.case, tilde_not_mem j h.judge, tilde_not_mem b h.bundle,
      tilde_not_mem g h.gate⟩
  · simp

/-- A path id names its five fields. -/
theorem decodeEnforcementPath_ok (o c j b g : Str) (h : Fields o c j b g) :
    decodeEnforcementPath (joinTilde [o, c, j, b, g]) = .ok (o, c, j, b, g) := by
  unfold decodeEnforcementPath
  rw [splitOn_joinTilde o c j b g h]
  simp only [decodeIdentifier_identifier o h.obligation, decodeIdentifier_identifier c h.case,
    decodeIdentifier_identifier j h.judge, decodeIdentifier_identifier b h.bundle,
    decodeIdentifier_identifier g h.gate, encodeEnforcementPath_ok o c j b g h, bind, Except.bind]
  simp [pure, Except.pure]

theorem joinTilde_injective (o c j b g o' c' j' b' g' : Str) (h : Fields o c j b g) (h' : Fields o' c' j' b' g')
    (he : joinTilde [o, c, j, b, g] = joinTilde [o', c', j', b', g']) : [o, c, j, b, g] = [o', c', j', b', g'] := by
  rw [← splitOn_joinTilde o c j b g h, he, splitOn_joinTilde o' c' j' b' g' h']

end TurnVector.Relations
