import TurnVector.CrossEngine.Contracts
import TurnVector.Python.JsonKept
import TurnVector.Python.JsonScan
import TurnVector.Python.Utf8

/-! # JSONL lines

The codec of the lifecycle protocol, in `cross_engine/contracts.py`, within the limits of the interpreter.
-/

namespace TurnVector.CrossEngine.Contracts

open Python Json

/-! ## The codec -/

/-- `_reject_duplicate_pairs`. A hook raises nothing but `ContractError`, and fails with its text. -/
def rejectDuplicatePairs (place : Str) (pairs : List (Str × Json)) : Except Str (List (Str × Json)) :=
  pairs.foldlM (fun result p =>
    if occurs p.1 (result.map Prod.fst) then .error (place ++ lit " has duplicate object key " ++ strRepr p.1)
    else .ok (result ++ [p])) []

/-- The hooks of `strict_json_loads`. -/
def strictHooks (place : Str) : Hooks Str where
  onFloat token := .ok (.float token)
  onConstant value := .error (place ++ lit " contains non-finite number " ++ value)
  onPairs pairs := (rejectDuplicatePairs place pairs).map .obj

/-- `strict_json_loads`. A `JSONDecodeError` is given without its position. -/
def strictJsonLoads (limits : Limits) (raw : Bytes) (place : Str) : Except Raised Json :=
  match decodeUtf8 raw with
  | none => reject (place ++ lit " is not valid UTF-8")
  | some text =>
    match limitedLoads limits (strictHooks place) text with
    | .ok value => .ok value
    | .error (.hook (.own error)) => reject error
    | .error (.decode msg) => reject (place ++ lit " is not valid JSON: " ++ lit msg)
    | .error (.hook .depth) => reject (place ++ lit " is not valid JSON: maximum recursion depth exceeded")
    | .error (.hook .digits) =>
      .error ⟨lit "ValueError", lit "Exceeds the limit for integer string conversion"⟩
    -- A load does not run out of fuel (`loads_fuel`).
    | .error .fuel => .error ⟨lit "RuntimeError", lit "out of fuel"⟩

/-- `canonical_json_bytes`. At a limit `json.dumps` raises `ValueError` or `RecursionError`. -/
def limitedJsonBytes (limits : Limits) (value : Json) : Except Raised Bytes :=
  if dumpable limits 0 value then canonicalJsonBytes value
  else reject (lit "value cannot be encoded as canonical JSON")

/-- `encode_jsonl_line` -/
def encodeJsonlLine (limits : Limits) (value : Json) (maxBytes : Int) : Except Raised Bytes :=
  match value with
  | .obj members => do
    let maxBytes ← integer (.int maxBytes) (lit "max_bytes") 1 maxInteger
    let body ← limitedJsonBytes limits (.obj members)
    let raw := body ++ [lf]
    if maxBytes < raw.length then
      reject (lit "JSONL line exceeds the " ++ intText maxBytes ++ lit "-byte bound")
    else .ok raw
  | _ => reject (lit "JSONL record must be an object")

/-- `decode_jsonl_line` -/
def decodeJsonlLine (limits : Limits) (raw : Bytes) (maxBytes : Int) (place : Str) :
    Except Raised (List (Str × Json)) := do
  let maxBytes ← integer (.int maxBytes) (lit "max_bytes") 1 maxInteger
  if maxBytes < raw.length then
    reject (place ++ lit " exceeds the " ++ intText maxBytes ++ lit "-byte bound")
  else if ¬ [lf] <:+ raw ∨ [lf, lf] <:+ raw then reject (place ++ lit " must end with exactly one LF")
  else
    let body := raw.dropLast
    if body.isEmpty || occurs lf body || occurs (byte 13) body then
      reject (place ++ lit " must contain one compact LF-terminated record")
    else
      match ← strictJsonLoads limits body place with
      | .obj members => .ok members
      | _ => reject (place ++ lit " JSON value must be an object")

/-- The interpreter as it is set up: integers of at most 4300 digits, and brackets as deep as its stack allows. -/
def interpreter (depth : Nat) : Limits := ⟨some 4300, some depth⟩

/-! ## What the codec promises -/

/-- A dict of strings, integers, booleans, `None`, lists and dicts. -/
structure JsonlRecord where
  members : List (Str × Json)
  floatless : (Json.obj members).Floatless

def IsContractError {α : Type} (r : Except Raised α) : Prop := ∃ text, r = reject text

/-- Encoding is refused, or its line is one line within the bound from which the record, and no other, is read. -/
def RoundTrips (limits : Limits) (record : JsonlRecord) (maxBytes : Int) (place : Str) : Prop :=
  IsContractError (encodeJsonlLine limits (.obj record.members) maxBytes) ∨
    ∃ raw, encodeJsonlLine limits (.obj record.members) maxBytes = .ok raw ∧ raw.length ≤ maxBytes ∧
      (∃ body, raw = body ++ [lf] ∧ lf ∉ body) ∧
      (∃ members, decodeJsonlLine limits raw maxBytes place = .ok members ∧
        Same (.obj members) (.obj record.members)) ∧
      ∀ other : JsonlRecord, encodeJsonlLine limits (.obj other.members) maxBytes = .ok raw →
        Same (.obj other.members) (.obj record.members)

/-- Decoding returns an object or raises `ContractError`. -/
def FailsClosed (limits : Limits) (raw : Bytes) (maxBytes : Int) (place : Str) : Prop :=
  (∃ members, decodeJsonlLine limits raw maxBytes place = .ok members) ∨
    IsContractError (decodeJsonlLine limits raw maxBytes place)

/-- The text of a line that `json.loads` gets to see. -/
structure Framed (raw : Bytes) (maxBytes : Int) (text : Str) : Prop where
  positive : 1 ≤ maxBytes
  bounded : maxBytes ≤ maxInteger
  length : raw.length ≤ maxBytes
  ends : [lf] <:+ raw
  once : ¬ [lf, lf] <:+ raw
  nonempty : raw.dropLast ≠ []
  noLf : lf ∉ raw.dropLast
  noCr : byte 13 ∉ raw.dropLast
  decoded : decodeUtf8 raw.dropLast = some text

/-- The parser comes to an integer over the digit limit before it comes to an error or to the depth limit. -/
def MeetsLongInteger (limits : Limits) (raw : Bytes) (maxBytes : Int) (place : Str) : Prop :=
  ∃ text, Framed raw maxBytes text ∧
    ∃ n, (loadEvents (strictHooks place) text).find? (Event.refused limits) = some (.integer n)

/-! ## The hooks -/

theorem rejectDuplicatePairs_fold (place : Str) (pairs result : List (Str × Json))
    (hn : ((result ++ pairs).map Prod.fst).Nodup) :
    pairs.foldlM (fun result p =>
      if occurs p.1 (result.map Prod.fst) then
        Except.error (place ++ lit " has duplicate object key " ++ strRepr p.1)
      else .ok (result ++ [p])) result = .ok (result ++ pairs) := by
  induction pairs generalizing result with
  | nil => simp [pure, Except.pure]
  | cons p pairs ih =>
    have hnew : occurs p.1 (result.map Prod.fst) = false := by
      rw [Bool.eq_false_iff, Ne, occurs_iff]
      intro hmem
      rw [List.map_append, List.nodup_append] at hn
      exact hn.2.2 _ hmem p.1 (by simp) rfl
    rw [List.foldlM_cons, hnew]
    simp only [Bool.false_eq_true, if_false, bind, Except.bind]
    rw [ih (result ++ [p]) (by simpa using hn)]
    simp

theorem strictHooks_keep (place : Str) : KeepsPairs (strictHooks place) := by
  intro kvs hn
  have hfold := rejectDuplicatePairs_fold place kvs [] (by simpa using hn)
  rw [List.nil_append] at hfold
  simp only [strictHooks, rejectDuplicatePairs, hfold, Except.map]

/-! ## Decoding -/

theorem integer_reject {n minimum maximum : Int} (place : Str) (h : ¬ (minimum ≤ n ∧ n ≤ maximum)) :
    IsContractError (integer (.int n) place minimum maximum) := ⟨_, if_pos (by omega)⟩

/-- A line that is refused before it is parsed raises `ContractError`. -/
theorem decodeJsonlLine_unframed (limits : Limits) (raw : Bytes) (maxBytes : Int) (place : Str)
    (h : ∀ text, ¬ Framed raw maxBytes text) : IsContractError (decodeJsonlLine limits raw maxBytes place) := by
  unfold decodeJsonlLine
  by_cases hbound : 1 ≤ maxBytes ∧ maxBytes ≤ maxInteger
  case neg =>
    obtain ⟨text, htext⟩ := integer_reject (lit "max_bytes") hbound
    rw [htext]
    exact ⟨text, rfl⟩
  have hinteger : integer (.int maxBytes) (lit "max_bytes") 1 maxInteger = .ok maxBytes :=
    (integer_ok_iff _ _ _ _ _).mpr ⟨rfl, hbound⟩
  rw [hinteger]
  simp only [bind, Except.bind]
  split_ifs with hlength hlf hbody
  · exact ⟨_, rfl⟩
  · exact ⟨_, rfl⟩
  · exact ⟨_, rfl⟩
  · rw [not_or, not_not] at hlf
    simp only [Bool.or_eq_true, List.isEmpty_iff, occurs_iff, not_or] at hbody
    have hnone : decodeUtf8 raw.dropLast = none := by
      cases hdecode : decodeUtf8 raw.dropLast with
      | none => rfl
      | some text =>
        exact absurd ⟨hbound.1, hbound.2, not_lt.mp hlength, hlf.1, hlf.2, hbody.1.1, hbody.1.2, hbody.2, hdecode⟩
          (h text)
    simp only [strictJsonLoads, hnone]
    exact ⟨_, rfl⟩

theorem decodeJsonlLine_framed (limits : Limits) {raw : Bytes} {maxBytes : Int} {text : Str} (place : Str)
    (h : Framed raw maxBytes text) :
    decodeJsonlLine limits raw maxBytes place = (do
      match ← strictJsonLoads limits raw.dropLast place with
      | .obj members => .ok members
      | _ => reject (place ++ lit " JSON value must be an object")) := by
  have hinteger : integer (.int maxBytes) (lit "max_bytes") 1 maxInteger = .ok maxBytes :=
    (integer_ok_iff _ _ _ _ _).mpr ⟨rfl, h.positive, h.bounded⟩
  have hlength : ¬ maxBytes < raw.length := not_lt.mpr h.length
  have hlf : ¬ (¬ [lf] <:+ raw ∨ [lf, lf] <:+ raw) := not_or.mpr ⟨not_not.mpr h.ends, h.once⟩
  have hbody : ¬ (raw.dropLast.isEmpty || occurs lf raw.dropLast || occurs (byte 13) raw.dropLast) = true := by
    simp [h.nonempty, h.noLf, h.noCr]
  unfold decodeJsonlLine
  rw [hinteger]
  simp only [bind, Except.bind, if_neg hlength, if_neg hlf, if_neg hbody]

/-- A line fails with something else than `ContractError` when its first refused event is an integer. -/
theorem failsClosed_iff (limits : Limits) (raw : Bytes) (maxBytes : Int) (place : Str) :
    FailsClosed limits raw maxBytes place ↔ ¬ MeetsLongInteger limits raw maxBytes place := by
  unfold FailsClosed MeetsLongInteger
  by_cases hframed : ∃ text, Framed raw maxBytes text
  case neg =>
    rw [not_exists] at hframed
    have herror := decodeJsonlLine_unframed limits raw maxBytes place hframed
    simp only [hframed, false_and, exists_false, not_false_eq_true, iff_true]
    exact Or.inr herror
  obtain ⟨text, hframed⟩ := hframed
  have hsame : ∀ other, Framed raw maxBytes other → other = text := fun other hother =>
    Option.some.inj (hother.decoded.symm.trans hframed.decoded)
  have hloads := within_lift_digits limits (loadEvents (strictHooks place) text) (loads (strictHooks place) text)
  rw [← limitedLoads_eq] at hloads
  have hmeets : (∃ text, Framed raw maxBytes text ∧ ∃ n,
      (loadEvents (strictHooks place) text).find? (Event.refused limits) = some (.integer n)) ↔
        limitedLoads limits (strictHooks place) text = .error (.hook .digits) := by
    rw [hloads]
    constructor
    · rintro ⟨other, hother, hn⟩
      rwa [hsame other hother] at hn
    · exact fun hn => ⟨text, hframed, hn⟩
  rw [hmeets, decodeJsonlLine_framed limits place hframed]
  simp only [strictJsonLoads, hframed.decoded]
  have hfuel := limitedLoads_fuel limits (strictHooks place) text
  cases hload : limitedLoads limits (strictHooks place) text with
  | ok value =>
    cases value with
    | obj members => simp [bind, Except.bind]
    | _ => exact iff_of_true (Or.inr ⟨_, rfl⟩) (by simp)
  | error error =>
    cases error with
    | decode msg => exact iff_of_true (Or.inr ⟨_, rfl⟩) (by simp)
    | fuel => exact absurd hload hfuel
    | hook refusal =>
      cases refusal with
      | own text => exact iff_of_true (Or.inr ⟨_, rfl⟩) (by simp)
      | depth => exact iff_of_true (Or.inr ⟨_, rfl⟩) (by simp)
      | digits =>
        refine iff_of_false ?_ (by simp)
        rintro (⟨members, hmembers⟩ | ⟨text, htext⟩)
        · cases hmembers
        · have hclass : lit "ValueError" = lit "ContractError" := congrArg Raised.className (Except.error.inj htext)
          exact absurd hclass (by decide)

/-! ## Encoding -/

theorem utf8Char_printable (c : CodePoint) (hc : 32 ≤ c.val) : ∀ b ∈ utf8Char c, 32 ≤ b.val := by
  have hlt := c.isLt
  have hbyte : ∀ n, 32 ≤ n → n < 256 → 32 ≤ (Fin.ofNat 256 n).val := fun n hn hn' => by rwa [val_ofNat n hn']
  unfold utf8Char
  simp only
  intro b hb
  split_ifs at hb with h1 h2 h3
  · rw [List.mem_singleton] at hb
    rw [hb]
    exact hbyte _ hc (by omega)
  · simp only [List.mem_cons, List.not_mem_nil, or_false] at hb
    rcases hb with rfl | rfl
    · exact hbyte _ (by omega) (by omega)
    · exact hbyte _ (by omega) (by omega)
  · simp only [List.mem_cons, List.not_mem_nil, or_false] at hb
    rcases hb with rfl | rfl | rfl
    · exact hbyte _ (by omega) (by omega)
    · exact hbyte _ (by omega) (by omega)
    · exact hbyte _ (by omega) (by omega)
  · simp only [List.mem_cons, List.not_mem_nil, or_false] at hb
    rcases hb with rfl | rfl | rfl | rfl
    · exact hbyte _ (by omega) (by omega)
    · exact hbyte _ (by omega) (by omega)
    · exact hbyte _ (by omega) (by omega)
    · exact hbyte _ (by omega) (by omega)

/-- Only the last byte of a canonical line is a line feed, and none is a carriage return. -/
theorem canonical_printable {v : Json} (hv : v.Floatless) {body : Bytes}
    (hbody : encodeUtf8 (dumpsKept v) = some body) : ∀ b ∈ body, 32 ≤ b.val := by
  unfold encodeUtf8 at hbody
  split at hbody
  · cases hbody
  · cases hbody
    intro b hb
    obtain ⟨c, hc, hb⟩ := List.mem_flatMap.mp hb
    exact utf8Char_printable c (dumpsKept_printable v hv c hc) b hb

theorem limitedJsonBytes_ok {limits : Limits} {value : Json} {body : Bytes}
    (h : limitedJsonBytes limits value = .ok body) :
    dumpable limits 0 value = true ∧ encodeUtf8 (dumpsKept value) = some body := by
  unfold limitedJsonBytes canonicalJsonBytes dumpsUtf8 at h
  split at h
  case isFalse => cases h
  case isTrue hdump =>
    refine ⟨hdump, ?_⟩
    cases hencode : encodeUtf8 (dumpsKept value) with
    | none =>
      rw [hencode] at h
      cases h
    | some bytes =>
      rw [hencode] at h
      cases h
      rfl

theorem limitedJsonBytes_closed (limits : Limits) (value : Json) :
    IsContractError (limitedJsonBytes limits value) ∨ ∃ body, limitedJsonBytes limits value = .ok body := by
  unfold limitedJsonBytes canonicalJsonBytes
  split
  · cases dumpsUtf8 value with
    | error e => exact Or.inl ⟨_, rfl⟩
    | ok bytes => exact Or.inr ⟨bytes, rfl⟩
  · exact Or.inl ⟨_, rfl⟩

/-- What encoding a record gives. -/
theorem encodeJsonlLine_ok {limits : Limits} {record : JsonlRecord} {maxBytes : Int} {raw : Bytes}
    (h : encodeJsonlLine limits (.obj record.members) maxBytes = .ok raw) :
    1 ≤ maxBytes ∧ maxBytes ≤ maxInteger ∧ raw.length ≤ maxBytes ∧ dumpable limits 0 (.obj record.members) = true ∧
      ∃ body, raw = body ++ [lf] ∧ encodeUtf8 (dumpsKept (.obj record.members)) = some body := by
  unfold encodeJsonlLine at h
  obtain ⟨n, hn, h⟩ := bind_ok_iff.mp h
  obtain ⟨rfl, hpositive, hbounded⟩ := (integer_ok_iff _ _ _ _ _).mp hn
  obtain ⟨body, hbody, h⟩ := bind_ok_iff.mp h
  obtain ⟨hdump, hencode⟩ := limitedJsonBytes_ok hbody
  simp only at h
  split at h
  · cases h
  · rename_i hlength
    cases h
    exact ⟨hpositive, hbounded, not_lt.mp hlength, hdump, body, rfl, hencode⟩

/-- Encoding fails with `ContractError` only. -/
theorem encodeJsonlLine_closed (limits : Limits) (record : JsonlRecord) (maxBytes : Int) :
    IsContractError (encodeJsonlLine limits (.obj record.members) maxBytes) ∨
      ∃ raw, encodeJsonlLine limits (.obj record.members) maxBytes = .ok raw := by
  unfold encodeJsonlLine
  by_cases hbound : 1 ≤ maxBytes ∧ maxBytes ≤ maxInteger
  case neg =>
    obtain ⟨text, htext⟩ := integer_reject (lit "max_bytes") hbound
    rw [htext]
    exact Or.inl ⟨text, rfl⟩
  have hinteger : integer (.int maxBytes) (lit "max_bytes") 1 maxInteger = .ok maxBytes :=
    (integer_ok_iff _ _ _ _ _).mpr ⟨rfl, hbound⟩
  rw [hinteger]
  simp only [bind, Except.bind]
  rcases limitedJsonBytes_closed limits (.obj record.members) with ⟨text, htext⟩ | ⟨body, hbody⟩
  · rw [htext]
    exact Or.inl ⟨text, rfl⟩
  · rw [hbody]
    simp only
    split
    · exact Or.inl ⟨_, rfl⟩
    · exact Or.inr ⟨_, rfl⟩

/-- A canonical line within the bound is framed, and its text is the canonical text. -/
theorem framed_canonical {v : Json} (hv : v.Floatless) {body : Bytes} (hbody : encodeUtf8 (dumpsKept v) = some body)
    (maxBytes : Int) (hpositive : 1 ≤ maxBytes) (hbounded : maxBytes ≤ maxInteger)
    (hlength : (body ++ [lf]).length ≤ maxBytes) : Framed (body ++ [lf]) maxBytes (dumpsKept v) := by
  have hprintable := canonical_printable hv hbody
  have hdropped : (body ++ [lf]).dropLast = body := List.dropLast_concat
  have hlf : lf ∉ body := fun hmem => absurd (hprintable lf hmem) (by decide)
  have hcr : byte 13 ∉ body := fun hmem => absurd (hprintable _ hmem) (by decide)
  refine ⟨hpositive, hbounded, hlength, List.suffix_append _ _, ?_, ?_, ?_, ?_, ?_⟩
  · rintro ⟨front, hfront⟩
    have hsame : front ++ [lf] ++ [lf] = body ++ [lf] := by
      rw [← hfront]
      simp
    have hsplit : front ++ [lf] = body := (List.append_inj' hsame rfl).1
    exact hlf (hsplit ▸ by simp)
  · rw [hdropped]
    rintro rfl
    have hdecoded := decodeUtf8_encodeUtf8 _ _ hbody
    obtain ⟨c, s, hcs, -⟩ := dumpsKept_head v hv
    rw [hcs] at hdecoded
    cases hdecoded
  · rwa [hdropped]
  · rwa [hdropped]
  · rw [hdropped]
    exact decodeUtf8_encodeUtf8 _ _ hbody

/-- A line that was encoded is read back. -/
theorem decodeJsonlLine_encoded {limits : Limits} {record : JsonlRecord} {maxBytes : Int} {raw : Bytes} (place : Str)
    (h : encodeJsonlLine limits (.obj record.members) maxBytes = .ok raw) :
    ∃ members, decodeJsonlLine limits raw maxBytes place = .ok members ∧
      Same (.obj members) (.obj record.members) := by
  obtain ⟨hpositive, hbounded, hlength, hdump, body, rfl, hbody⟩ := encodeJsonlLine_ok h
  have hframed := framed_canonical record.floatless hbody maxBytes hpositive hbounded hlength
  have hload := limitedLoads_kept limits (strictHooks place) (strictHooks_keep place) _ record.floatless hdump
  rw [decodeJsonlLine_framed limits place hframed]
  refine ⟨(sortByKey record.members).map fun p => (p.1, sortKeys p.2), ?_, ?_⟩
  · simp only [strictJsonLoads, hframed.decoded, hload, sortKeys_obj, bind, Except.bind]
  · unfold Same
    rw [← sortKeys_obj, sortKeys_idem]

theorem roundTrips (limits : Limits) (record : JsonlRecord) (maxBytes : Int) (place : Str) :
    RoundTrips limits record maxBytes place := by
  rcases encodeJsonlLine_closed limits record maxBytes with herror | ⟨raw, hraw⟩
  · exact Or.inl herror
  · obtain ⟨-, -, hlength, -, body, hsplit, hbody⟩ := encodeJsonlLine_ok hraw
    obtain ⟨members, hread, hsame⟩ := decodeJsonlLine_encoded place hraw
    have hlf : lf ∉ body := fun hmem => absurd (canonical_printable record.floatless hbody lf hmem) (by decide)
    refine Or.inr ⟨raw, hraw, hlength, ⟨body, hsplit, hlf⟩, ⟨members, hread, hsame⟩, ?_⟩
    intro other hother
    obtain ⟨members', hread', hsame'⟩ := decodeJsonlLine_encoded place hother
    obtain rfl : members' = members := Except.ok.inj (hread'.symm.trans hread)
    exact hsame'.symm.trans hsame

/-! ## The codec as a whole -/

/-- The codec is lossless on the record, and fails on the line with `ContractError` only. -/
structure CodecKeeps (limits : Limits) (record : JsonlRecord) (maxBytes : Int) (raw : Bytes) (lineLimit : Int)
    (place : Str) : Prop where
  lossless : RoundTrips limits record maxBytes place
  closed : FailsClosed limits raw lineLimit place

theorem natText_pow (k : Nat) : (natText (10 ^ k)).length = k + 1 := by
  induction k with
  | zero => rw [pow_zero, natText_lt 1 (by omega), List.length_singleton]
  | succ k ih =>
    have hten : 10 ≤ 10 ^ (k + 1) := Nat.le_self_pow (by omega) 10
    have hdiv : 10 ^ (k + 1) / 10 = 10 ^ k := by rw [pow_succ, Nat.mul_div_cancel _ (by omega)]
    rw [natText_ge _ hten, hdiv, List.length_append, ih, List.length_singleton]

theorem dumpsKept_member (key : Str) (n : Nat) : dumpsKept (.obj [(key, .int n)]) =
    cp 123 :: cp 34 :: (key.flatMap keepChar ++ cp 34 :: cp 58 :: (natText n ++ [cp 125])) := by
  have hsort : sortByKey [(key, Json.int n)] = [(key, .int n)] := rfl
  have hint : intText (n : Int) = natText n := rfl
  rw [dumpsKept_obj, hsort]
  simp [join, keptMember, keepQuote, dumpsKept, hint]

/-- The parser comes to the one member of an object. -/
theorem limitedLoads_member {ε : Type} (limits : Limits) (h : Hooks ε) (key : Str) (n : Nat)
    (hdepth : exceeds limits.depth 1 = false) (hdigits : exceeds limits.digits (digitCount n) = true) :
    limitedLoads limits h (dumpsKept (.obj [(key, .int n)])) = .error (.hook .digits) := by
  obtain ⟨d, ds, hds⟩ := List.exists_cons_of_ne_nil (natText_ne_nil n)
  have hdigit := (isDigit_iff d).mp (natText_digit n d (by simp [hds]))
  have hspace : isWs d = false := by
    simp only [isWs, Bool.or_eq_false_iff, beq_eq_false_iff_ne]
    omega
  have hscalar : scanScalar h (intText n ++ [cp 125]) = .ok (.int n, [cp 125]) :=
    scanScalar_intText h n _ (ends_cons _ _ (by decide) (by decide))
  have hint : intText (n : Int) = d :: ds := hds
  have htext := dumpsKept_member key n
  rw [hds, List.cons_append] at htext
  rw [hint, List.cons_append] at hscalar
  have hstring : scanString (ε := ε) (key.flatMap keepChar ++ cp 34 :: cp 58 :: d :: (ds ++ [cp 125])) =
      .ok (key, cp 58 :: d :: (ds ++ [cp 125])) := scanString_kept key _
  have hvalue : ∀ m, limitedOnce limits h 1 (m + 1) (d :: (ds ++ [cp 125])) = .error (.hook .digits) := by
    intro m
    rw [limitedOnce, if_neg (by omega), if_neg (by omega), if_neg (by omega), hscalar]
    simp only [lift, Except.mapError, bind, Except.bind, checkDigits, hdigits, if_true]
  have hscan : ∀ m, limitedOnce limits h 0 (m + 3)
      (cp 123 :: cp 34 :: (key.flatMap keepChar ++ cp 34 :: cp 58 :: d :: (ds ++ [cp 125]))) =
        .error (.hook .digits) := by
    intro m
    rw [limitedOnce, if_neg (by decide), if_neg (by decide), if_pos (by decide), hdepth,
      skipWs_cons (cp 34) _ (by decide)]
    simp only [Bool.false_eq_true, if_false]
    rw [if_neg (by decide), limitedMembers, if_pos (by decide), hstring]
    simp only [lift, Except.mapError, bind, Except.bind, skipWs_cons (cp 58) _ (by decide)]
    rw [if_pos (by decide), skipWs_cons d _ hspace, hvalue m]
  have hfuel : ∀ s : Str, 2 * (cp 123 :: s).length + 2 = (2 * s.length + 1) + 3 := by
    intro s
    rw [List.length_cons]
    omega
  unfold limitedLoads
  rw [htext, List.head?_cons, if_neg (by decide), skipWs_cons (cp 123) _ (by decide)]
  simp only [hfuel, hscan]
  rfl

/-- A record whose one member has 4301 digits. -/
def longRecord : Json := .obj [(lit "a", .int ((10 ^ 4300 : Nat) : Int))]

def longLine : Bytes := (dumpsKept longRecord).flatMap utf8Char ++ [lf]

theorem longRecord_text :
    dumpsKept longRecord = [cp 123, cp 34, cp 97, cp 34, cp 58] ++ (natText (10 ^ 4300) ++ [cp 125]) := by
  have hkey : (lit "a").flatMap keepChar = [cp 97] := by decide
  unfold longRecord
  rw [dumpsKept_member, hkey]
  generalize natText (10 ^ 4300) = digits
  rfl

theorem longRecord_ascii : ∀ c ∈ dumpsKept longRecord, c.val < 128 := by
  rw [longRecord_text]
  intro c hc
  simp only [List.mem_append, List.mem_singleton] at hc
  rcases hc with hc | hc | rfl
  · exact decide_eq_true_eq.mp (List.all_eq_true.mp
      (by decide : [cp 123, cp 34, cp 97, cp 34, cp 58].all (fun c => c.val < 128) = true) c hc)
  · have := (isDigit_iff c).mp (natText_digit _ c hc)
    omega
  · decide

theorem longLine_framed : Framed longLine 65536 (dumpsKept longRecord) := by
  obtain ⟨encoded, hencoded, hlength⟩ := utf8_ascii (dumpsKept longRecord) longRecord_ascii
  have hbytes : encoded = (dumpsKept longRecord).flatMap utf8Char := by
    unfold encodeUtf8 at hencoded
    split at hencoded
    · cases hencoded
    · exact (Option.some.inj hencoded).symm
  have hfloatless : longRecord.Floatless :=
    .obj _ (List.nodup_singleton _) fun _ hp => by rw [List.mem_singleton.mp hp]; exact .int _
  have htext : (dumpsKept longRecord).length = 4307 := by
    rw [longRecord_text, List.length_append, List.length_append, natText_pow]
    rfl
  have hframed := framed_canonical hfloatless hencoded 65536 (by decide) (by decide)
    (by rw [List.length_append, hlength, htext]; decide)
  rwa [hbytes] at hframed

end TurnVector.CrossEngine.Contracts
