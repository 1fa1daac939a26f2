import TurnVector.Python.Utf8

/-! # Decoding UTF-8 in pieces

The incremental decoder of `codecs`: it keeps the bytes of a character that is not complete yet, and gets them back
with the bytes that come next.
-/

namespace TurnVector.Python

/-- A character and what was decoded after it. -/
def decodedFirst (c : CodePoint) (rest : Option (Str × Bytes)) : Option (Str × Bytes) :=
  rest.map fun r => (c :: r.1, r.2)

/-- The second byte after a lead byte of three: no overlong form and no surrogate. -/
def isSecondOfThree (a b : Byte) : Bool :=
  isCont b && (a.val ≠ 0xE0 || 0xA0 ≤ b.val) && (a.val ≠ 0xED || b.val < 0xA0)

/-- The second byte after a lead byte of four: no overlong form and nothing above U+10FFFF. -/
def isSecondOfFour (a b : Byte) : Bool :=
  isCont b && (a.val ≠ 0xF0 || 0x90 ≤ b.val) && (a.val ≠ 0xF4 || b.val < 0x90)

/-- `codecs.utf_8_decode(data, "strict", False)`: the text, and the bytes at the end that are not consumed. -/
def decodeStateful : Bytes → Option (Str × Bytes)
  | [] => some ([], [])
  | a :: r1 =>
    if a.val < 0x80 then decodedFirst (cp a.val) (decodeStateful r1)
    else if 0xC2 ≤ a.val && a.val < 0xE0 then
      match r1 with
      | [] => some ([], [a])
      | b :: r2 =>
        if isCont b then decodedFirst (cp ((a.val - 0xC0) * 64 + cont b)) (decodeStateful r2) else none
    else if 0xE0 ≤ a.val && a.val < 0xF0 then
      match r1 with
      | [] => some ([], [a])
      | [b] => if isSecondOfThree a b then some ([], [a, b]) else none
      | b :: c :: r3 =>
        if isSecondOfThree a b && isCont c then
          decodedFirst (cp ((a.val - 0xE0) * 4096 + cont b * 64 + cont c)) (decodeStateful r3)
        else none
    else if 0xF0 ≤ a.val && a.val < 0xF5 then
      match r1 with
      | [] => some ([], [a])
      | [b] => if isSecondOfFour a b then some ([], [a, b]) else none
      | [b, c] => if isSecondOfFour a b && isCont c then some ([], [a, b, c]) else none
      | b :: c :: d :: r4 =>
        if isSecondOfFour a b && isCont c && isCont d then
          decodedFirst (cp ((a.val - 0xF0) * 262144 + cont b * 4096 + cont c * 64 + cont d)) (decodeStateful r4)
        else none
    else none

/-- The text before, and what the kept bytes decode to with those that come next. -/
def continued (before : Str) (rest : Option (Str × Bytes)) : Option (Str × Bytes) :=
  rest.map fun r => (before ++ r.1, r.2)

theorem continued_cons (c : CodePoint) (before : Str) (rest : Option (Str × Bytes)) :
    continued (c :: before) rest = decodedFirst c (continued before rest) := by
  cases rest <;> rfl

theorem continued_nil (rest : Option (Str × Bytes)) : continued [] rest = rest := by
  cases rest <;> rfl

/-- What a decoder makes of the bytes that come next. -/
def resume (r : Option (Str × Bytes)) (next : Bytes) : Option (Str × Bytes) :=
  r.bind fun r => continued r.1 (decodeStateful (r.2 ++ next))

theorem resume_decodedFirst (c : CodePoint) (r : Option (Str × Bytes)) (next : Bytes) :
    resume (decodedFirst c r) next = decodedFirst c (resume r next) := by
  cases r with
  | none => rfl
  | some r => exact continued_cons c r.1 _

/-- A character that is not complete. -/
theorem resume_kept (kept next : Bytes) : resume (some ([], kept)) next = decodeStateful (kept ++ next) := by
  simp [resume, continued_nil]

/-! ## Bytes that decode to nothing -/

theorem three_bad_second (a b : Byte) (rest : Bytes) (ascii : ¬a.val < 0x80)
    (two : ¬(decide (0xC2 ≤ a.val) && decide (a.val < 0xE0)) = true)
    (three : (decide (0xE0 ≤ a.val) && decide (a.val < 0xF0)) = true) (bad : ¬isSecondOfThree a b = true) :
    decodeStateful (a :: b :: rest) = none := by
  unfold decodeStateful
  rw [if_neg ascii, if_neg two, if_pos three]
  cases rest with
  | nil => exact if_neg bad
  | cons c rest => simp [bad]

theorem four_bad (a b : Byte) (rest : Bytes) (ascii : ¬a.val < 0x80)
    (two : ¬(decide (0xC2 ≤ a.val) && decide (a.val < 0xE0)) = true)
    (three : ¬(decide (0xE0 ≤ a.val) && decide (a.val < 0xF0)) = true)
    (four : (decide (0xF0 ≤ a.val) && decide (a.val < 0xF5)) = true) :
    (¬isSecondOfFour a b = true → decodeStateful (a :: b :: rest) = none) ∧
      ∀ c, ¬(isSecondOfFour a b && isCont c) = true → decodeStateful (a :: b :: c :: rest) = none := by
  unfold decodeStateful
  simp only [if_neg ascii, if_neg two, if_neg three, if_pos four]
  constructor
  · intro bad
    match rest with
    | [] => exact if_neg bad
    | [c] => simp [bad]
    | c :: d :: rest => simp [bad]
  · intro c bad
    cases rest with
    | nil => exact if_neg bad
    | cons d rest => simp [bad]

/-- The pieces decode to what they decode to in one. -/
theorem decodeStateful_append (data next : Bytes) :
    decodeStateful (data ++ next) = resume (decodeStateful data) next := by
  fun_induction decodeStateful data with
  | case1 => exact (resume_kept [] next).symm
  | case2 a r1 ascii ih =>
    rw [resume_decodedFirst, ← ih, List.cons_append, decodeStateful.eq_def]
    exact if_pos ascii
  | case3 a ascii two => exact (resume_kept [a] next).symm
  | case4 a ascii two b r2 good ih =>
    rw [resume_decodedFirst, ← ih, List.cons_append, List.cons_append, decodeStateful, if_neg ascii, if_pos two]
    exact if_pos good
  | case5 a ascii two b r2 bad =>
    rw [List.cons_append, List.cons_append, decodeStateful, if_neg ascii, if_pos two]
    exact if_neg bad
  | case6 a ascii two three => exact (resume_kept [a] next).symm
  | case7 a ascii two three b good => exact (resume_kept [a, b] next).symm
  | case8 a ascii two three b bad => exact three_bad_second a b next ascii two three bad
  | case9 a ascii two three b c r3 good ih =>
    rw [resume_decodedFirst, ← ih, List.cons_append, List.cons_append, List.cons_append, decodeStateful,
      if_neg ascii, if_neg two, if_pos three]
    exact if_pos good
  | case10 a ascii two three b c r3 bad =>
    rw [List.cons_append, List.cons_append, List.cons_append, decodeStateful, if_neg ascii, if_neg two,
      if_pos three]
    exact if_neg bad
  | case11 a ascii two three four => exact (resume_kept [a] next).symm
  | case12 a ascii two three four b good => exact (resume_kept [a, b] next).symm
  | case13 a ascii two three four b bad => exact (four_bad a b next ascii two three four).1 bad
  | case14 a ascii two three four b c good => exact (resume_kept [a, b, c] next).symm
  | case15 a ascii two three four b c bad => exact (four_bad a b next ascii two three four).2 c bad
  | case16 a ascii two three four b c d r4 good ih =>
    rw [resume_decodedFirst, ← ih, List.cons_append, List.cons_append, List.cons_append, List.cons_append,
      decodeStateful, if_neg ascii, if_neg two, if_neg three, if_pos four]
    exact if_pos good
  | case17 a ascii two three four b c d r4 bad =>
    rw [List.cons_append, List.cons_append, List.cons_append, List.cons_append, decodeStateful, if_neg ascii,
      if_neg two, if_neg three, if_pos four]
    exact if_neg bad
  | case18 a r1 ascii two three four =>
    rw [List.cons_append, decodeStateful.eq_def]
    exact (if_neg ascii).trans ((if_neg two).trans ((if_neg three).trans (if_neg four)))

/-! ## What was decoded is what was written -/

theorem ofNat_of_val (b : Byte) (n : Nat) (h : n = b.val) : Fin.ofNat 256 n = b := by
  subst h
  exact Fin.ext (val_ofNat b.val b.isLt)

theorem isCont_iff (b : Byte) : isCont b = true ↔ 0x80 ≤ b.val ∧ b.val ≤ 0xBF := by simp [isCont]

theorem utf8Char_one (a : Byte) (h : a.val < 0x80) : utf8Char (cp a.val) = [a] := by
  unfold utf8Char
  simp only [cp_val a.val (by omega), if_pos h]
  rw [ofNat_of_val a _ rfl]

theorem utf8Char_two (a b : Byte) (ha : 0xC2 ≤ a.val ∧ a.val < 0xE0) (hb : isCont b = true) :
    utf8Char (cp ((a.val - 0xC0) * 64 + cont b)) = [a, b] := by
  rw [isCont_iff] at hb
  unfold utf8Char cont
  have hlt : (a.val - 0xC0) * 64 + (b.val - 0x80) < 0x110000 := by omega
  simp only [cp_val _ hlt]
  rw [if_neg (by omega), if_pos (by omega), ofNat_of_val a _ (by omega), ofNat_of_val b _ (by omega)]

theorem utf8Char_three (a b c : Byte) (ha : 0xE0 ≤ a.val ∧ a.val < 0xF0) (hb : isSecondOfThree a b = true)
    (hc : isCont c = true) : utf8Char (cp ((a.val - 0xE0) * 4096 + cont b * 64 + cont c)) = [a, b, c] := by
  unfold isSecondOfThree at hb
  simp only [Bool.and_eq_true, Bool.or_eq_true, decide_eq_true_eq, isCont_iff] at hb hc
  unfold utf8Char cont
  have hlt : (a.val - 0xE0) * 4096 + (b.val - 0x80) * 64 + (c.val - 0x80) < 0x110000 := by omega
  simp only [cp_val _ hlt]
  rw [if_neg (by omega), if_neg (by omega), if_pos (by omega), ofNat_of_val a _ (by omega),
    ofNat_of_val b _ (by omega), ofNat_of_val c _ (by omega)]

theorem utf8Char_four (a b c d : Byte) (ha : 0xF0 ≤ a.val ∧ a.val < 0xF5) (hb : isSecondOfFour a b = true)
    (hc : isCont c = true) (hd : isCont d = true) :
    utf8Char (cp ((a.val - 0xF0) * 262144 + cont b * 4096 + cont c * 64 + cont d)) = [a, b, c, d] := by
  unfold isSecondOfFour at hb
  simp only [Bool.and_eq_true, Bool.or_eq_true, decide_eq_true_eq, isCont_iff] at hb hc hd
  unfold utf8Char cont
  have hlt : (a.val - 0xF0) * 262144 + (b.val - 0x80) * 4096 + (c.val - 0x80) * 64 + (d.val - 0x80) < 0x110000 := by
    omega
  simp only [cp_val _ hlt]
  rw [if_neg (by omega), if_neg (by omega), if_neg (by omega), ofNat_of_val a _ (by omega),
    ofNat_of_val b _ (by omega), ofNat_of_val c _ (by omega), ofNat_of_val d _ (by omega)]

theorem decodedFirst_some {c : CodePoint} {rest : Option (Str × Bytes)} {text : Str} {kept : Bytes}
    (h : decodedFirst c rest = some (text, kept)) : ∃ more, rest = some (more, kept) ∧ text = c :: more := by
  obtain ⟨r, rfl, hr⟩ := Option.map_eq_some_iff.mp h
  obtain ⟨rfl, rfl⟩ := Prod.mk.inj hr
  exact ⟨r.1, rfl, rfl⟩

/-- The bytes are those of the text, and those that are kept. -/
theorem decodeStateful_written (data kept : Bytes) (text : Str) (h : decodeStateful data = some (text, kept)) :
    data = text.flatMap utf8Char ++ kept := by
  revert h
  fun_induction decodeStateful data generalizing text with
  | case2 a r1 ascii ih =>
    intro h
    obtain ⟨more, hmore, rfl⟩ := decodedFirst_some h
    rw [List.flatMap_cons, utf8Char_one a ascii, List.append_assoc, ← ih more hmore]
    rfl
  | case4 a ascii two b r2 good ih =>
    intro h
    obtain ⟨more, hmore, rfl⟩ := decodedFirst_some h
    rw [List.flatMap_cons, utf8Char_two a b (by simpa using two) good, List.append_assoc, ← ih more hmore]
    rfl
  | case9 a ascii two three b c r3 good ih =>
    intro h
    obtain ⟨more, hmore, rfl⟩ := decodedFirst_some h
    rw [Bool.and_eq_true] at good
    rw [List.flatMap_cons, utf8Char_three a b c (by simpa using three) good.1 good.2, List.append_assoc,
      ← ih more hmore]
    rfl
  | case16 a ascii two three four b c d r4 good ih =>
    intro h
    obtain ⟨more, hmore, rfl⟩ := decodedFirst_some h
    rw [Bool.and_eq_true, Bool.and_eq_true] at good
    rw [List.flatMap_cons, utf8Char_four a b c d (by simpa using four) good.1.1 good.1.2 good.2,
      List.append_assoc, ← ih more hmore]
    rfl
  | _ =>
    intro h
    simp_all

end TurnVector.Python
