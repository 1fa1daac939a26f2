import TurnVector.CrossEngine.Campaign

/-! # Value contracts

The readers of `cross_engine/contracts.py`. They fail with the exception itself: its class name and its text.
-/

namespace TurnVector.CrossEngine

open Python Json

/-- An exception as `except Exception as error` sees it. -/
structure Raised where
  className : Str
  text : Str
  deriving DecidableEq

namespace Contracts

scoped instance str_lawful : LawfulBEq Str := inferInstance

def maxIdentifierBytes : Nat := 128

def maxInteger : Int := 2 ^ 63 - 1

def reject {α : Type} (text : Str) : Except Raised α := .error ⟨lit "ContractError", text⟩

/-- `strict_object` -/
def strictObject (value : Json) (required optional : List String) (place : Str) :
    Except Raised (List (Str × Json)) :=
  match value with
  | .obj members =>
    let keys := members.map Prod.fst
    let missing := (required.map lit).filter fun name => !occurs name keys
    let unknown := keys.filter fun key => !occurs key ((required ++ optional).map lit)
    if !missing.isEmpty then
      reject (place ++ lit " is missing required fields: " ++ join (lit ", ") (sortedTexts missing))
    else if !unknown.isEmpty then
      reject (place ++ lit " has unknown fields: " ++ join (lit ", ") (sortedTexts unknown))
    else .ok members
  | _ => reject (place ++ lit " must be an object")

/-- `bounded_string` -/
def boundedString (value : Json) (place : Str) (maximumBytes : Nat) (allowEmpty : Bool) : Except Raised Str :=
  let qualifier := if allowEmpty then lit "a string" else lit "a non-empty string"
  match value with
  | .str text =>
    if text.isEmpty && !allowEmpty then reject (place ++ lit " must be " ++ qualifier)
    else if occurs (cp 0) text then reject (place ++ lit " must not contain NUL")
    else match encodeUtf8 text with
      | none => reject (place ++ lit " must be valid UTF-8 text")
      | some encoded =>
        if maximumBytes < encoded.length then
          reject (place ++ lit " exceeds the " ++ natText maximumBytes ++ lit "-byte bound")
        else .ok text
  | _ => reject (place ++ lit " must be " ++ qualifier)

/-- `identifier` -/
def identifier (value : Json) (place : Str) : Except Raised Str := do
  let text ← boundedString value place maxIdentifierBytes false
  if Canonical.isIdentifier text then .ok text else reject (place ++ lit " must match ^[a-z0-9][a-z0-9._-]*$")

/-- `integer` -/
def integer (value : Json) (place : Str) (minimum maximum : Int) : Except Raised Int :=
  match value with
  | .int n =>
    if n < minimum ∨ maximum < n then
      reject (place ++ lit " must be between " ++ intText minimum ++ lit " and " ++ intText maximum)
    else .ok n
  | _ => reject (place ++ lit " must be an integer")

/-- `bounded_array` -/
def boundedArray (value : Json) (place : Str) (maximumItems : Nat) (allowEmpty : Bool) : Except Raised (List Json) :=
  match value with
  | .arr items =>
    if items.isEmpty && !allowEmpty then reject (place ++ lit " must not be empty")
    else if maximumItems < items.length then
      reject (place ++ lit " exceeds the " ++ natText maximumItems ++ lit "-item bound")
    else .ok items
  | _ => reject (place ++ lit " must be an array")

/-- `canonical_json_bytes` -/
def canonicalJsonBytes (value : Json) : Except Raised Bytes :=
  match dumpsUtf8 value with
  | .ok bytes => .ok bytes
  | .error _ => reject (lit "value cannot be encoded as canonical JSON")

/-! ## What the readers accept -/

theorem strictObject_ok {value : Json} {required optional : List String} {place : Str} {members : List (Str × Json)}
    (h : strictObject value required optional place = .ok members) : value = .obj members := by
  unfold strictObject at h
  split at h
  · dsimp only at h
    split at h
    · cases h
    · split at h
      · cases h
      · cases h
        rfl
  · cases h

theorem integer_ok {value : Json} {place : Str} {minimum maximum n : Int}
    (h : integer value place minimum maximum = .ok n) : value = .int n := by
  unfold integer at h
  split at h
  · split at h
    · cases h
    · cases h
      rfl
  · cases h

theorem boundedArray_ok {value : Json} {place : Str} {maximumItems : Nat} {allowEmpty : Bool} {items : List Json}
    (h : boundedArray value place maximumItems allowEmpty = .ok items) : value = .arr items := by
  unfold boundedArray at h
  split at h
  · split at h
    · cases h
    · split at h
      · cases h
      · cases h
        rfl
  · cases h

theorem boundedArray_length {value : Json} {place : Str} {maximumItems : Nat} {allowEmpty : Bool} {items : List Json}
    (h : boundedArray value place maximumItems allowEmpty = .ok items) : items.length ≤ maximumItems := by
  unfold boundedArray at h
  split at h
  · split_ifs at h with hempty hlong
    · cases h
    · cases h
    · cases h
      exact not_lt.mp hlong
  · cases h

theorem boundedString_text {value : Json} {place text : Str} {maximumBytes : Nat} {allowEmpty : Bool}
    (h : boundedString value place maximumBytes allowEmpty = .ok text) : value = .str text := by
  unfold boundedString at h
  simp only at h
  split at h
  case h_2 => cases h
  split at h
  case isTrue => cases h
  split at h
  case isTrue => cases h
  split at h
  case h_1 => cases h
  split at h
  case isTrue => cases h
  cases h
  rfl

theorem identifier_text {value : Json} {place text : Str} (h : identifier value place = .ok text) :
    value = .str text := by
  unfold identifier at h
  obtain ⟨read, hread, h⟩ := bind_ok_iff.mp h
  split_ifs at h
  · cases h
    exact boundedString_text hread
  · cases h

theorem integer_ok_iff (n m : Int) (place : Str) (minimum maximum : Int) :
    integer (.int n) place minimum maximum = .ok m ↔ n = m ∧ minimum ≤ n ∧ n ≤ maximum := by
  unfold integer
  by_cases h : n < minimum ∨ maximum < n
  · simp only [if_pos h, reject, reduceCtorEq, false_iff, not_and, not_le]
    omega
  · simp only [if_neg h, Except.ok.injEq, iff_self_and]
    omega

theorem utf8_ascii (text : Str) (h : ∀ c ∈ text, c.val < 128) :
    ∃ encoded, encodeUtf8 text = some encoded ∧ encoded.length = text.length := by
  have hclean : hasSurrogate text = false := by
    simp only [hasSurrogate, List.any_eq_false, isSurrogate]
    intro c hc
    have := h c hc
    simp
    omega
  refine ⟨text.flatMap utf8Char, by rw [encodeUtf8, hclean]; rfl, ?_⟩
  rw [List.length_flatMap]
  have hone : ∀ c ∈ text, (utf8Char c).length = 1 := by
    intro c hc
    have := h c hc
    simp only [utf8Char]
    rw [if_pos this]
    rfl
  rw [List.map_congr_left hone]
  simp

theorem identifierChar_bound (c : CodePoint) (h : Canonical.isIdentifierChar c = true) : 0 < c.val ∧ c.val < 128 := by
  simp only [Canonical.isIdentifierChar, Canonical.isIdentifierHead, isDigit, Bool.or_eq_true, Bool.and_eq_true,
    decide_eq_true_eq, beq_iff_eq] at h
  omega

theorem identifier_chars (text : Str) (h : Canonical.isIdentifier text = true) :
    ∀ c ∈ text, Canonical.isIdentifierChar c = true := by
  cases text with
  | nil => simp
  | cons c cs =>
    simp only [Canonical.isIdentifier, Bool.and_eq_true, List.all_eq_true] at h
    simp only [List.mem_cons, forall_eq_or_imp]
    refine ⟨?_, h.2⟩
    simp [Canonical.isIdentifierChar, h.1]

/-- An identifier within the bound is read as it stands. -/
theorem identifier_ok (text place : Str) (h : Canonical.isIdentifier text = true)
    (hlength : text.length ≤ maxIdentifierBytes) : identifier (.str text) place = .ok text := by
  have hchars := identifier_chars text h
  obtain ⟨encoded, hencoded, hsame⟩ := utf8_ascii text fun c hc => (identifierChar_bound c (hchars c hc)).2
  have hne : text.isEmpty = false := by
    cases text with
    | nil => cases h
    | cons c cs => rfl
  have hnul : occurs (cp 0) text = false := by
    rw [Bool.eq_false_iff, Ne, occurs_iff]
    intro hc
    have := (identifierChar_bound _ (hchars _ hc)).1
    simp [cp] at this
  unfold identifier boundedString
  simp only [hne, hnul, hencoded, hsame, Bool.false_and, Bool.false_eq_true, if_false,
    if_neg (Nat.not_lt.mpr hlength), bind, Except.bind, h, if_true]

end Contracts

end TurnVector.CrossEngine
