import TurnVector.Python.Text

/-! # Digits of other scripts

`str.isdecimal` and `str.isdigit` of one character, as Unicode 13.0 has them (Python 3.9).
-/

namespace TurnVector.Python

/-- The zeros of the decimal digits: nine more digits follow each of them. -/
def decimalZeros : List Nat :=
  [0x30, 0x660, 0x6F0, 0x7C0, 0x966, 0x9E6, 0xA66, 0xAE6, 0xB66, 0xBE6, 0xC66, 0xCE6, 0xD66, 0xDE6, 0xE50, 0xED0,
   0xF20, 0x1040, 0x1090, 0x17E0, 0x1810, 0x1946, 0x19D0, 0x1A80, 0x1A90, 0x1B50, 0x1BB0, 0x1C40, 0x1C50, 0xA620,
   0xA8D0, 0xA900, 0xA9D0, 0xA9F0, 0xAA50, 0xABF0, 0xFF10, 0x104A0, 0x10D30, 0x11066, 0x110F0, 0x11136, 0x111D0,
   0x112F0, 0x11450, 0x114D0, 0x11650, 0x116C0, 0x11730, 0x118E0, 0x11950, 0x11C50, 0x11D50, 0x11DA0, 0x16A60,
   0x16B50, 0x1D7CE, 0x1D7D8, 0x1D7E2, 0x1D7EC, 0x1D7F6, 0x1E140, 0x1E2F0, 0x1E950, 0x1FBF0]

/-- The digits that are no decimals, such as superscripts and digits in circles: first and last of each run. -/
def otherDigits : List (Nat × Nat) :=
  [(0xB2, 0xB3), (0xB9, 0xB9), (0x1369, 0x1371), (0x19DA, 0x19DA), (0x2070, 0x2070), (0x2074, 0x2079),
   (0x2080, 0x2089), (0x2460, 0x2468), (0x2474, 0x247C), (0x2488, 0x2490), (0x24EA, 0x24EA), (0x24F5, 0x24FD),
   (0x24FF, 0x24FF), (0x2776, 0x277E), (0x2780, 0x2788), (0x278A, 0x2792), (0x10A40, 0x10A43), (0x10E60, 0x10E68),
   (0x11052, 0x1105A), (0x1F100, 0x1F10A)]

/-- `c.isdecimal()` -/
def isDecimal (c : CodePoint) : Bool := decimalZeros.any fun first => first ≤ c.val && c.val ≤ first + 9

/-- The number that a decimal digit stands for. -/
def decimalValue (c : CodePoint) : Nat :=
  ((decimalZeros.find? fun first => first ≤ c.val && c.val ≤ first + 9).map (c.val - ·)).getD 0

/-- `c.isdigit()` -/
def isUnicodeDigit (c : CodePoint) : Bool := isDecimal c || otherDigits.any fun run => run.1 ≤ c.val && c.val ≤ run.2

/-- `s.isdigit()` -/
def strIsDigit (s : Str) : Bool := !s.isEmpty && s.all isUnicodeDigit

/-! ## ASCII -/

theorem isDecimal_ascii (c : CodePoint) (h : c.val < 128) : isDecimal c = isDigit c := by
  have hlater : ∀ first ∈ decimalZeros.tail, 128 ≤ first := by decide
  rw [Bool.eq_iff_iff, isDecimal, List.any_eq_true]
  simp only [isDigit, Bool.and_eq_true, decide_eq_true_eq]
  constructor
  · rintro ⟨first, hfirst, hle, hge⟩
    rcases List.mem_cons.mp (show first ∈ 0x30 :: decimalZeros.tail from hfirst) with rfl | hz
    · omega
    · have := hlater first hz
      omega
  · rintro ⟨hle, hge⟩
    exact ⟨0x30, by decide, by omega, by omega⟩

theorem isUnicodeDigit_ascii (c : CodePoint) (h : c.val < 128) : isUnicodeDigit c = isDigit c := by
  have hlater : ∀ run ∈ otherDigits, 128 ≤ run.1 := by decide
  rw [isUnicodeDigit, isDecimal_ascii c h, Bool.or_eq_left_iff_imp, List.any_eq_true]
  rintro ⟨run, hrun, hle⟩
  have := hlater run hrun
  simp only [Bool.and_eq_true, decide_eq_true_eq] at hle
  omega

theorem decimalValue_digit (c : CodePoint) (h : isDigit c = true) : decimalValue c = c.val - 48 := by
  simp only [isDigit, Bool.and_eq_true, decide_eq_true_eq] at h
  have hzeros : decimalZeros = 0x30 :: decimalZeros.tail := rfl
  have hfound : (decimalZeros.find? fun first => first ≤ c.val && c.val ≤ first + 9) = some 0x30 := by
    rw [hzeros]
    apply List.find?_cons_of_pos
    simp only [Bool.and_eq_true, decide_eq_true_eq]
    omega
  rw [decimalValue, hfound]
  rfl

/-! ## The decimal text of a number -/

/-- A run of digits that starts with no zero is the text of the number it names. -/
theorem natText_natOf (ds : Str) (hd : ∀ c ∈ ds, isDigit c = true) (hne : ds ≠ []) (h0 : ds.head? ≠ some (cp 48)) :
    0 < natOf ds ∧ natText (natOf ds) = ds := by
  induction ds using List.reverseRecOn with
  | nil => exact absurd rfl hne
  | append_singleton ds c ih =>
    have hc : 48 ≤ c.val ∧ c.val ≤ 57 := by
      have := hd c (by simp)
      simpa only [isDigit, Bool.and_eq_true, decide_eq_true_eq] using this
    have hlast : cp (48 + (c.val - 48)) = c := by
      rw [show 48 + (c.val - 48) = c.val by omega, cp_eq]
    rw [natOf_append]
    cases ds with
    | nil =>
      have hzero : c.val ≠ 48 := by
        intro hz
        exact h0 (by rw [← cp_eq c, hz]; rfl)
      have hn : natOf [] = 0 := rfl
      rw [hn, natText_lt _ (by omega), Nat.mul_zero, Nat.zero_add, hlast]
      exact ⟨by omega, rfl⟩
    | cons d ds =>
      obtain ⟨hpos, htext⟩ := ih (fun e he => hd e (List.mem_append_left _ he)) (by simp) (by simpa using h0)
      refine ⟨by omega, ?_⟩
      rw [natText_ge _ (by omega), show (10 * natOf (d :: ds) + (c.val - 48)) / 10 = natOf (d :: ds) by omega,
        show (10 * natOf (d :: ds) + (c.val - 48)) % 10 = c.val - 48 by omega, htext, hlast]

end TurnVector.Python
