import TurnVector.Errors
import TurnVector.Python.JsonRoundTrip

/-! # JSON text that keeps its characters

`json.dumps(v, sort_keys=True, separators=(",", ":"), ensure_ascii=False)`.
-/

namespace TurnVector.Python.Json

/-- `json.encoder.py_encode_basestring`, for one character. -/
def keepChar (c : CodePoint) : Str :=
  if c.val = 92 then [cp 92, cp 92]
  else if c.val = 34 then [cp 92, cp 34]
  else if c.val = 8 then [cp 92, cp 98]
  else if c.val = 12 then [cp 92, cp 102]
  else if c.val = 10 then [cp 92, cp 110]
  else if c.val = 13 then [cp 92, cp 114]
  else if c.val = 9 then [cp 92, cp 116]
  else if c.val < 32 then unicodeEscape c.val
  else [c]

def keepQuote (s : Str) : Str := cp 34 :: s.flatMap keepChar ++ [cp 34]

mutual

def dumpsKept : Json → Str
  | .null => lit "null"
  | .bool true => lit "true"
  | .bool false => lit "false"
  | .int n => intText n
  | .float t => t
  | .str s => keepQuote s
  | .arr xs => cp 91 :: join [cp 44] (keptItems xs) ++ [cp 93]
  | .obj kvs => cp 123 :: join [cp 44] ((sortByKey (keptMembers kvs)).map (·.2)) ++ [cp 125]

def keptItems : List Json → List Str
  | [] => []
  | x :: xs => dumpsKept x :: keptItems xs

/-- Each key with the text of its member. -/
def keptMembers : List (Str × Json) → List (Str × Str)
  | [] => []
  | (k, v) :: kvs => (k, keepQuote k ++ [cp 58] ++ dumpsKept v) :: keptMembers kvs

end

/-- The text in UTF-8. A surrogate raises. -/
def dumpsUtf8 (v : Json) : Except Exc Bytes :=
  match encodeUtf8 (dumpsKept v) with
  | some bytes => .ok bytes
  | none => .error .unicodeEncodeError

/-! ## When the text can be encoded -/

mutual

/-- Every text inside a value. -/
def textsOf : Json → List Str
  | .float t => [t]
  | .str s => [s]
  | .arr xs => itemTexts xs
  | .obj kvs => memberTexts kvs
  | _ => []

def itemTexts : List Json → List Str
  | [] => []
  | x :: xs => textsOf x ++ itemTexts xs

def memberTexts : List (Str × Json) → List Str
  | [] => []
  | (k, v) :: kvs => k :: textsOf v ++ memberTexts kvs

end

theorem isAscii_natText (n : Nat) : isAscii (natText n) = true := by
  simp only [isAscii, List.all_eq_true, decide_eq_true_eq]
  intro c hc
  have hdigit := natText_digit n c hc
  simp only [isDigit, Bool.and_eq_true, decide_eq_true_eq] at hdigit
  omega

theorem isAscii_intText (n : Int) : isAscii (intText n) = true := by
  cases n with
  | ofNat n => exact isAscii_natText n
  | negSucc n =>
    have hminus : (cp 45).val < 128 := by decide
    simpa [intText, isAscii, hminus] using isAscii_natText (n + 1)

theorem keptItems_eq (xs : List Json) : keptItems xs = xs.map dumpsKept := by
  induction xs with
  | nil => rfl
  | cons x xs ih => rw [keptItems, ih, List.map_cons]

theorem keptMembers_eq (kvs : List (Str × Json)) :
    keptMembers kvs = kvs.map fun p => (p.1, keepQuote p.1 ++ [cp 58] ++ dumpsKept p.2) := by
  induction kvs with
  | nil => rfl
  | cons p kvs ih => rw [keptMembers, ih, List.map_cons]

theorem itemTexts_eq (xs : List Json) : itemTexts xs = xs.flatMap textsOf := by
  induction xs with
  | nil => rfl
  | cons x xs ih => rw [itemTexts, ih, List.flatMap_cons]

theorem memberTexts_eq (kvs : List (Str × Json)) : memberTexts kvs = kvs.flatMap fun p => p.1 :: textsOf p.2 := by
  induction kvs with
  | nil => rfl
  | cons p kvs ih =>
    rw [memberTexts, ih, List.flatMap_cons]

section
variable {c : CodePoint} (hc : isSurrogate c = true)
include hc

/-- An ASCII text holds no surrogate. -/
theorem not_mem_ascii (s : Str) (hs : isAscii s = true) : c ∉ s := by
  have hbounds : 0xD800 ≤ c.val ∧ c.val ≤ 0xDFFF := by simpa [isSurrogate] using hc
  intro h
  simp only [isAscii, List.all_eq_true, decide_eq_true_eq] at hs
  have := hs c h
  omega

theorem mem_keepChar (d : CodePoint) : c ∈ keepChar d ↔ c = d := by
  have hbounds : 0xD800 ≤ c.val ∧ c.val ≤ 0xDFFF := by simpa [isSurrogate] using hc
  rcases lt_or_ge d.val 128 with hd | hd
  · have hshort : ∀ n < 128, isAscii (keepChar (cp n)) = true := by decide +kernel
    have hascii := hshort d.val hd
    rw [cp_eq] at hascii
    constructor
    · intro h
      exact absurd h (not_mem_ascii hc _ hascii)
    · rintro rfl
      omega
  · have hsame : keepChar d = [d] := by
      unfold keepChar
      repeat rw [if_neg (by omega)]
    rw [hsame, List.mem_singleton]

theorem mem_keepQuote (s : Str) : c ∈ keepQuote s ↔ c ∈ s := by
  have hquote : c ≠ cp 34 := fun h => not_mem_ascii hc [cp 34] (by decide) (by simp [h])
  simp [keepQuote, hquote, mem_keepChar hc]

theorem mem_join_ascii (sep : Str) (hsep : isAscii sep = true) (ts : List Str) :
    c ∈ join sep ts ↔ ∃ t ∈ ts, c ∈ t := by
  have hnot := not_mem_ascii hc sep hsep
  cases ts with
  | nil => simp [join]
  | cons t ts => simp [join, hnot]

theorem mem_enclosed (left right : CodePoint) (ts : List Str) (hleft : left.val < 128) (hright : right.val < 128) :
    c ∈ left :: join [cp 44] ts ++ [right] ↔ ∃ t ∈ ts, c ∈ t := by
  have hl : c ≠ left := fun h => not_mem_ascii hc [left] (by simp [isAscii, hleft]) (by simp [h])
  have hr : c ≠ right := fun h => not_mem_ascii hc [right] (by simp [isAscii, hright]) (by simp [h])
  simp [hl, hr, mem_join_ascii hc [cp 44] (by decide) ts]

/-- The surrogates of the text are those of the texts inside. -/
theorem mem_dumpsKept (v : Json) : c ∈ dumpsKept v ↔ ∃ t ∈ textsOf v, c ∈ t := by
  induction v with
  | null => simpa [dumpsKept, textsOf] using not_mem_ascii hc (lit "null") (by decide)
  | bool b =>
    cases b
    · simpa [dumpsKept, textsOf] using not_mem_ascii hc (lit "false") (by decide)
    · simpa [dumpsKept, textsOf] using not_mem_ascii hc (lit "true") (by decide)
  | int n => simpa [dumpsKept, textsOf] using not_mem_ascii hc (intText n) (isAscii_intText n)
  | float t => simp [dumpsKept, textsOf]
  | str s => simp [dumpsKept, textsOf, mem_keepQuote hc]
  | arr xs ih =>
    rw [dumpsKept, mem_enclosed hc _ _ _ (by decide) (by decide), keptItems_eq, textsOf, itemTexts_eq]
    simp only [List.mem_map, List.mem_flatMap]
    constructor
    · rintro ⟨_, ⟨x, hx, rfl⟩, h⟩
      obtain ⟨t, ht, h⟩ := (ih x hx).mp h
      exact ⟨t, ⟨x, hx, ht⟩, h⟩
    · rintro ⟨t, ⟨x, hx, ht⟩, h⟩
      exact ⟨_, ⟨x, hx, rfl⟩, (ih x hx).mpr ⟨t, ht, h⟩⟩
  | obj kvs ih =>
    have hcolon : c ∉ [cp 58] := not_mem_ascii hc _ (by decide)
    rw [dumpsKept, mem_enclosed hc _ _ _ (by decide) (by decide), keptMembers_eq, textsOf, memberTexts_eq]
    simp only [List.mem_map, (sortByKey_perm _).mem_iff, List.mem_flatMap]
    constructor
    · rintro ⟨_, ⟨_, ⟨p, hp, rfl⟩, rfl⟩, h⟩
      simp only [List.mem_append, hcolon, or_false, mem_keepQuote hc] at h
      rcases h with h | h
      · exact ⟨p.1, ⟨p, hp, by simp⟩, h⟩
      · obtain ⟨t, ht, h⟩ := (ih p hp).mp h
        exact ⟨t, ⟨p, hp, by simp [ht]⟩, h⟩
    · rintro ⟨t, ⟨p, hp, ht⟩, h⟩
      refine ⟨_, ⟨_, ⟨p, hp, rfl⟩, rfl⟩, ?_⟩
      simp only [List.mem_append, hcolon, or_false, mem_keepQuote hc]
      rcases List.mem_cons.mp ht with rfl | ht
      · exact Or.inl h
      · exact Or.inr ((ih p hp).mpr ⟨t, ht, h⟩)

end

/-- A value can be encoded when no text inside it holds a surrogate. -/
theorem dumpsUtf8_ok_iff (v : Json) : (∃ bytes, dumpsUtf8 v = .ok bytes) ↔ ∀ t ∈ textsOf v, hasSurrogate t = false := by
  have hnone : hasSurrogate (dumpsKept v) = false ↔ ∀ t ∈ textsOf v, hasSurrogate t = false := by
    simp only [hasSurrogate, List.any_eq_false]
    constructor
    · intro h t ht c hmem hc
      exact h c ((mem_dumpsKept hc v).mpr ⟨t, ht, hmem⟩) hc
    · intro h c hmem hc
      obtain ⟨t, ht, hmem⟩ := (mem_dumpsKept hc v).mp hmem
      exact h t ht c hmem hc
  rw [← hnone]
  unfold dumpsUtf8 encodeUtf8
  cases hasSurrogate (dumpsKept v) <;> simp

end TurnVector.Python.Json
