import TurnVector.Core
import TurnVector.Authority.ContractJson
import TurnVector.Python.Digits

/-! # Fractions from text

`Fraction(text)` of the standard library, by the grammar that it documents.
-/

namespace TurnVector.Python

open ContractJson (isSpace)

/-- What the grammar of a version allows: underscores between digits (from 3.11 on), and spaces around the slash (from
3.12 on). -/
structure FractionGrammar where
  underscores : Bool
  spacedSlash : Bool

variable (g : FractionGrammar)

/-- The digits at the start, without the underscores between them, and what is left. -/
def scanDigits : Str → Str × Str
  | [] => ([], [])
  | c :: s =>
    if isDecimal c then
      match s with
      | u :: d :: s' =>
        if g.underscores && u.val == 95 && isDecimal d then ((c :: (scanDigits (d :: s')).1), (scanDigits (d :: s')).2)
        else (c :: (scanDigits (u :: d :: s')).1, (scanDigits (u :: d :: s')).2)
      | s => (c :: (scanDigits s).1, (scanDigits s).2)
    else ([], c :: s)

/-- `int(digits)`, and zero for no digits. -/
def decimalNumber (digits : Str) : Nat := digits.foldl (fun n c => 10 * n + decimalValue c) 0

/-- `[-+]?`: whether the sign is a minus. -/
def scanSign : Str → Bool × Str
  | [] => (false, [])
  | c :: s => if c.val = 45 then (true, s) else if c.val = 43 then (false, s) else (false, c :: s)

/-- The denominator after the numerator, if a slash follows. -/
def scanDenominator (s : Str) : Option (Str × Str) :=
  match if g.spacedSlash then s.dropWhile isSpace else s with
  | c :: s' =>
    if c.val = 47 then
      let (digits, rest) := scanDigits g (if g.spacedSlash then s'.dropWhile isSpace else s')
      if digits.isEmpty then none else some (digits, rest)
    else none
  | [] => none

/-- The digits after a point, if one follows. -/
def scanDecimals : Str → Str × Str
  | c :: s => if c.val = 46 then scanDigits g s else ([], c :: s)
  | [] => ([], [])

/-- The exponent, or zero where none follows. -/
def scanPower (s : Str) : Int × Str :=
  match s with
  | c :: s' =>
    if c.val = 69 ∨ c.val = 101 then
      let (negative, s'') := scanSign s'
      let (digits, rest) := scanDigits g s''
      if digits.isEmpty then (0, s) else ((if negative then -decimalNumber digits else decimalNumber digits), rest)
    else (0, s)
  | [] => (0, s)

/-- `(?=\d|\.\d)` -/
def startsNumber : Str → Bool
  | c :: d :: _ => isDecimal c || (c.val == 46 && isDecimal d)
  | [c] => isDecimal c
  | [] => false

/-- `Fraction(text)`. A text out of the grammar raises `ValueError`, and a zero denominator `ZeroDivisionError`. -/
def fractionOf (text : Str) : Option ℚ :=
  let (negative, s) := scanSign (text.dropWhile isSpace)
  let signed := fun q : ℚ => if negative then -q else q
  if ¬ startsNumber s then none
  else
    let (numerator, s) := scanDigits g s
    match scanDenominator g s with
    | some (denominator, rest) =>
      if rest.all isSpace ∧ decimalNumber denominator ≠ 0 then
        some (signed (decimalNumber numerator / decimalNumber denominator))
      else none
    | none =>
      let (decimals, s) := scanDecimals g s
      let (exponent, rest) := scanPower g s
      if rest.all isSpace then
        some (signed ((decimalNumber numerator + decimalNumber decimals / 10 ^ decimals.length) * 10 ^ exponent))
      else none

/-! ## The text of a fraction -/

theorem isDecimal_digit (c : CodePoint) (h : isDigit c = true) : isDecimal c = true := by
  rw [isDecimal_ascii c ?_]
  · exact h
  · simp only [isDigit, Bool.and_eq_true, decide_eq_true_eq] at h
    omega

theorem isSpace_digit (c : CodePoint) (h : isDigit c = true) : isSpace c = false := by
  simp only [isDigit, Bool.and_eq_true, decide_eq_true_eq] at h
  rw [Bool.eq_false_iff]
  simp only [isSpace, ne_eq, Bool.or_eq_true, Bool.and_eq_true, decide_eq_true_eq, beq_iff_eq]
  omega

/-- A run of ASCII digits is taken whole when no digit and no underscore follows. -/
theorem scanDigits_run (ds rest : Str) (hd : ∀ c ∈ ds, isDigit c = true)
    (hrest : ∀ c ∈ rest.head?, isDecimal c = false ∧ c.val ≠ 95) : scanDigits g (ds ++ rest) = (ds, rest) := by
  induction ds with
  | nil =>
    cases rest with
    | nil => rfl
    | cons c rest =>
      have := (hrest c rfl).1
      rw [List.nil_append, scanDigits.eq_def]
      simp only [this, Bool.false_eq_true, if_false]
  | cons c ds ih =>
    have hc := isDecimal_digit c (hd c (by simp))
    have hrun := ih fun d hm => hd d (by simp [hm])
    have hnext : ∀ u s', ds ++ rest = u :: s' → u.val ≠ 95 := by
      intro u s' heq
      cases ds with
      | nil =>
        rw [List.nil_append] at heq
        exact (hrest u (by rw [heq]; rfl)).2
      | cons d ds =>
        rw [List.cons_append] at heq
        cases heq
        have := hd u (by simp)
        simp only [isDigit, Bool.and_eq_true, decide_eq_true_eq] at this
        omega
    rw [List.cons_append, scanDigits.eq_def]
    simp only [hc, if_true]
    split
    · rename_i u d s' heq
      have hu : (u.val == 95) = false := by simpa using hnext u _ heq
      rw [hu, ← heq, hrun]
      simp
    · rw [hrun]

theorem decimalNumber_natText (n : Nat) : decimalNumber (natText n) = n := by
  have h : ∀ (ds : Str) (k : Nat), (∀ c ∈ ds, isDigit c = true) →
      ds.foldl (fun n c => 10 * n + decimalValue c) k = ds.foldl (fun n c => 10 * n + (c.val - 48)) k := by
    intro ds
    induction ds with
    | nil => exact fun _ _ => rfl
    | cons c ds ih =>
      intro k hd
      rw [List.foldl_cons, List.foldl_cons, decimalValue_digit c (hd c (by simp)), ih _ fun d hm => hd d (by simp [hm])]
  rw [decimalNumber, h _ 0 (natText_digit n), ← natOf, natOf_natText]

/-- A numerator and a denominator in digits, after the sign. -/
theorem fractionOf_ratio (sign : Bool) (n d : Nat) (hd : d ≠ 0) :
    fractionOf g ((if sign then [cp 45] else []) ++ (natText n ++ cp 47 :: natText d)) =
      some (if sign then -((n : ℚ) / d) else (n : ℚ) / d) := by
  obtain ⟨c, ds, hn⟩ := List.exists_cons_of_ne_nil (natText_ne_nil n)
  have hdigits := natText_digit n
  have hc : isDigit c = true := hdigits c (by rw [hn]; simp)
  have hval : 48 ≤ c.val ∧ c.val ≤ 57 := by
    simpa only [isDigit, Bool.and_eq_true, decide_eq_true_eq] using hc
  have hslash : isDecimal (cp 47) = false ∧ (cp 47).val ≠ 95 := by decide
  have hminus : isSpace (cp 45) = false ∧ (cp 45).val = 45 := by decide
  have hplain : isSpace (cp 47) = false ∧ (cp 47).val = 47 := by decide
  have hsigned : scanSign (((if sign then [cp 45] else []) ++ (natText n ++ cp 47 :: natText d)).dropWhile isSpace) =
      (sign, natText n ++ cp 47 :: natText d) := by
    cases sign with
    | true =>
      rw [if_pos rfl, List.singleton_append, List.dropWhile_cons_of_neg (by simp [hminus.1]), scanSign, if_pos hminus.2]
    | false =>
      rw [if_neg (by simp), List.nil_append, hn, List.cons_append,
        List.dropWhile_cons_of_neg (by simp [isSpace_digit c hc]), scanSign, if_neg (by omega), if_neg (by omega)]
  have hstarts : startsNumber (natText n ++ cp 47 :: natText d) = true := by
    have hdec := isDecimal_digit c hc
    rw [hn, List.cons_append]
    cases ds <;> simp [startsNumber, hdec]
  have hnumerator : scanDigits g (natText n ++ cp 47 :: natText d) = (natText n, cp 47 :: natText d) := by
    apply scanDigits_run g _ _ hdigits
    intro e he
    cases he
    exact hslash
  have hdenominator : scanDigits g (natText d) = (natText d, []) := by
    have := scanDigits_run g (natText d) [] (natText_digit d) (by simp)
    rwa [List.append_nil] at this
  have hspaces : (natText d).dropWhile isSpace = natText d := by
    obtain ⟨e, es, he⟩ := List.exists_cons_of_ne_nil (natText_ne_nil d)
    rw [he, List.dropWhile_cons_of_neg]
    rw [isSpace_digit e (natText_digit d e (by rw [he]; simp))]
    simp
  have hscan : scanDenominator g (cp 47 :: natText d) = some (natText d, []) := by
    unfold scanDenominator
    rw [List.dropWhile_cons_of_neg (by simp [hplain.1]), ite_self]
    simp only [hplain.2, if_true, hspaces, ite_self, hdenominator]
    rw [if_neg (by simp [natText_ne_nil])]
  unfold fractionOf
  simp only [hsigned, hstarts, hnumerator, hscan, decimalNumber_natText, not_true, if_false, List.all_nil, true_and,
    ne_eq, hd, not_false_iff, if_true]

/-- The text of a rational number is read as that number. -/
theorem fractionOf_fractionText (q : ℚ) : fractionOf g (fractionText q) = some q := by
  have hslash : lit "/" = [cp 47] := by decide
  have hden : q.den ≠ 0 := q.den_nz
  unfold fractionText
  rw [hslash, List.append_assoc, List.singleton_append]
  cases hnum : q.num with
  | ofNat n =>
    have hratio := fractionOf_ratio g false n q.den hden
    rw [if_neg (by simp), List.nil_append] at hratio
    rw [intText, hratio, if_neg (by simp)]
    conv_rhs => rw [← Rat.num_div_den q, hnum]
    simp
  | negSucc n =>
    have hratio := fractionOf_ratio g true (n + 1) q.den hden
    rw [if_pos rfl, List.singleton_append] at hratio
    rw [intText, List.cons_append, hratio, if_pos rfl]
    conv_rhs => rw [← Rat.num_div_den q, hnum]
    rw [Int.negSucc_eq]
    push_cast
    rw [neg_div]

theorem fractionText_injective (q r : ℚ) (h : fractionText q = fractionText r) : q = r := by
  have hq := fractionOf_fractionText ⟨false, false⟩ q
  rw [h, fractionOf_fractionText] at hq
  exact (Option.some.inj hq).symm

end TurnVector.Python
