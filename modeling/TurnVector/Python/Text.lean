import Mathlib

/-! # Python text and bytes

A `str` is a list of code points. Surrogates are code points too: `json.loads` builds them.
-/

namespace TurnVector.Python

abbrev CodePoint := Fin 0x110000
abbrev Str := List CodePoint
abbrev Byte := Fin 256
abbrev Bytes := List Byte

theorem toNat_lt (c : Char) : c.toNat < 0x110000 := by
  have h : c.toNat.isValidChar := c.valid
  unfold Nat.isValidChar at h
  omega

def ofChar (c : Char) : CodePoint := ⟨c.toNat, toNat_lt c⟩

/-- A string literal of the source. -/
def lit (s : String) : Str := s.toList.map ofChar

def byte (n : Nat) : Byte := Fin.ofNat 256 n

/-- The byte that ends a line. -/
def lf : Byte := byte 10

@[simp] theorem lf_val : lf.val = 10 := rfl

/-- `a in xs` -/
def occurs {α : Type} [DecidableEq α] (a : α) (xs : List α) : Bool := xs.any fun x => a = x

@[simp] theorem occurs_iff {α : Type} [DecidableEq α] (a : α) (xs : List α) : occurs a xs = true ↔ a ∈ xs := by
  simp [occurs]

/-- A code point of the source's literals, by its number. -/
def cp (n : Nat) : CodePoint := Fin.ofNat 0x110000 n

theorem cp_val (n : Nat) (h : n < 0x110000) : (cp n).val = n := by
  simp only [cp, Fin.val_ofNat]
  exact Nat.mod_eq_of_lt h

theorem cp_eq (c : CodePoint) : cp c.val = c := Fin.ext (cp_val c.val c.isLt)

/-- `0xD800 <= ord(char) <= 0xDFFF` -/
def isSurrogate (c : CodePoint) : Bool := 0xD800 ≤ c.val && c.val ≤ 0xDFFF

def hasSurrogate (s : Str) : Bool := s.any isSurrogate

/-! ## Decimal text -/

def isDigit (c : CodePoint) : Bool := 48 ≤ c.val && c.val ≤ 57

/-- `str(n)` of a natural number. -/
def natText (n : Nat) : Str := (Nat.toDigits 10 n).map ofChar

/-- `str(n)`. -/
def intText : Int → Str
  | .ofNat n => natText n
  | .negSucc n => cp 45 :: natText (n + 1)

/-- The number that a run of digits names. -/
def natOf (ds : Str) : Nat := ds.foldl (fun n c => 10 * n + (c.val - 48)) 0

theorem natText_lt (n : Nat) (h : n < 10) : natText n = [cp (48 + n)] := by
  rw [natText, Nat.toDigits_of_lt_base h]
  interval_cases n <;> decide

theorem natText_ge (n : Nat) (h : 10 ≤ n) : natText n = natText (n / 10) ++ [cp (48 + n % 10)] := by
  have hd := natText_lt (n % 10) (by omega)
  rw [natText, Nat.toDigits_of_lt_base (by omega)] at hd
  rw [natText, Nat.toDigits_of_base_le (by omega) h, List.map_append, ← natText, hd]

theorem natText_digit (n : Nat) : ∀ c ∈ natText n, isDigit c = true := by
  induction n using Nat.strong_induction_on with
  | _ n ih =>
    have hd : ∀ k < 10, isDigit (cp (48 + k)) = true := by decide
    rcases lt_or_ge n 10 with h | h
    · rw [natText_lt n h]
      simpa using hd n h
    · rw [natText_ge n h]
      intro c hc
      rw [List.mem_append, List.mem_singleton] at hc
      rcases hc with hc | rfl
      · exact ih (n / 10) (by omega) c hc
      · exact hd _ (by omega)

theorem natText_ne_nil (n : Nat) : natText n ≠ [] := by
  simp [natText, Nat.toDigits_ne_nil]

theorem natOf_append (ds : Str) (c : CodePoint) : natOf (ds ++ [c]) = 10 * natOf ds + (c.val - 48) := by
  simp [natOf]

theorem natOf_natText (n : Nat) : natOf (natText n) = n := by
  induction n using Nat.strong_induction_on with
  | _ n ih =>
    have hd : ∀ k < 10, (cp (48 + k)).val - 48 = k := by decide
    rcases lt_or_ge n 10 with h | h
    · rw [natText_lt n h]
      simpa [natOf] using hd n h
    · rw [natText_ge n h, natOf_append, ih (n / 10) (by omega), hd _ (by omega)]
      omega

/-- A number has no leading zero. -/
theorem natText_head (n : Nat) (hn : 0 < n) : ∃ c ds, natText n = c :: ds ∧ 49 ≤ c.val ∧ c.val ≤ 57 := by
  induction n using Nat.strong_induction_on with
  | _ n ih =>
    have hd : ∀ k < 10, 0 < k → 49 ≤ (cp (48 + k)).val ∧ (cp (48 + k)).val ≤ 57 := by decide
    rcases lt_or_ge n 10 with h | h
    · exact ⟨_, [], natText_lt n h, hd n h hn⟩
    · obtain ⟨c, ds, hc, hb⟩ := ih (n / 10) (by omega) (by omega)
      exact ⟨c, ds ++ [cp (48 + n % 10)], by rw [natText_ge n h, hc, List.cons_append], hb⟩

theorem natText_zero : natText 0 = [cp 48] := by decide

/-! ## ASCII -/

def isAscii (s : Str) : Bool := s.all fun c => c.val < 128

/-- `s.encode("ascii")` -/
def encodeAscii (s : Str) : Option Bytes :=
  if isAscii s then some (s.map fun c => Fin.ofNat 256 c.val) else none

/-- The text of ASCII bytes. -/
def ofBytes (b : Bytes) : Str := b.map fun x => cp x.val

theorem encodeAscii_eq (s : Str) (b : Bytes) (h : encodeAscii s = some b) :
    ofBytes b = s ∧ ∀ x ∈ b, x.val < 128 := by
  unfold encodeAscii at h
  split at h
  case isFalse => cases h
  case isTrue ha =>
    cases h
    simp only [isAscii, List.all_eq_true, decide_eq_true_eq] at ha
    constructor
    · simp only [ofBytes, List.map_map]
      conv_rhs => rw [← List.map_id s]
      apply List.map_congr_left
      intro c hc
      have := ha c hc
      apply Fin.ext
      simp only [Function.comp_apply, Fin.val_ofNat, id_eq, cp]
      omega
    · intro x hx
      obtain ⟨c, hc, rfl⟩ := List.mem_map.mp hx
      have := ha c hc
      simp only [Fin.val_ofNat]
      omega

/-! ## UTF-8 -/

/-- `s.encode("utf-8")` of one character that is not a surrogate. -/
def utf8Char (c : CodePoint) : Bytes :=
  let n := c.val
  let byte := Fin.ofNat 256
  if n < 0x80 then [byte n]
  else if n < 0x800 then [byte (0xC0 + n / 64), byte (0x80 + n % 64)]
  else if n < 0x10000 then [byte (0xE0 + n / 4096), byte (0x80 + n / 64 % 64), byte (0x80 + n % 64)]
  else [byte (0xF0 + n / 262144), byte (0x80 + n / 4096 % 64), byte (0x80 + n / 64 % 64), byte (0x80 + n % 64)]

/-- `s.encode("utf-8")`. A surrogate raises `UnicodeEncodeError`. -/
def encodeUtf8 (s : Str) : Option Bytes := if hasSurrogate s then none else some (s.flatMap utf8Char)

def isCont (b : Byte) : Bool := 0x80 ≤ b.val && b.val ≤ 0xBF

def cont (b : Byte) : Nat := b.val - 0x80

/-- `b.decode("utf-8")`: strict, so no overlong form, no surrogate and nothing above U+10FFFF. -/
def decodeUtf8 : Bytes → Option Str
  | [] => some []
  | a :: r1 =>
    if a.val < 0x80 then (decodeUtf8 r1).map (cp a.val :: ·)
    else match r1 with
      | [] => none
      | b :: r2 =>
        let two := (a.val - 0xC0) * 64 + cont b
        if a.val < 0xE0 && isCont b && 0x80 ≤ two then (decodeUtf8 r2).map (cp two :: ·)
        else match r2 with
          | [] => none
          | c :: r3 =>
            let three := (a.val - 0xE0) * 4096 + cont b * 64 + cont c
            if 0xE0 ≤ a.val && a.val < 0xF0 && isCont b && isCont c && 0x800 ≤ three && !isSurrogate (cp three) then
              (decodeUtf8 r3).map (cp three :: ·)
            else match r3 with
              | [] => none
              | d :: r4 =>
                let four := (a.val - 0xF0) * 262144 + cont b * 4096 + cont c * 64 + cont d
                if 0xF0 ≤ a.val && a.val < 0xF5 && isCont b && isCont c && isCont d && 0x10000 ≤ four &&
                    four < 0x110000 then
                  (decodeUtf8 r4).map (cp four :: ·)
                else none

theorem decodeUtf8_ascii (b : Bytes) (h : ∀ x ∈ b, x.val < 128) : decodeUtf8 b = some (ofBytes b) := by
  induction b with
  | nil => rfl
  | cons a b ih =>
    have ha : a.val < 0x80 := h a (by simp)
    unfold decodeUtf8
    rw [if_pos ha, ih fun x hx => h x (by simp [hx])]
    rfl

end TurnVector.Python
