import TurnVector.Errors
import TurnVector.Python.Json

/-! # Canonical JSONL

The strict record reader and writer of `canonical.py`.
-/

namespace TurnVector.Canonical

open Python Json

/-! ## Hooks of the reader -/

/-- The first key that an earlier pair holds already. -/
def firstDuplicate {α : Type} (seen : List Str) : List (Str × α) → Option Str
  | [] => none
  | (key, _) :: pairs => if occurs key seen then some key else firstDuplicate (key :: seen) pairs

/-- `_reject_duplicate_keys` -/
def rejectDuplicateKeys (pairs : List (Str × Json)) : Except Exc Json :=
  match firstDuplicate [] pairs with
  | some key => .error (.contractError (lit "duplicate object key " ++ strRepr key))
  | none => .ok (.obj (dictOf pairs))

/-- `_reject_constant` -/
def rejectConstant (token : Str) : Except Exc Json :=
  .error (.contractError (lit "noncanonical JSON constant " ++ strRepr token))

def hooks : Hooks Exc where
  onFloat token := .ok (.float token)
  onConstant := rejectConstant
  onPairs := rejectDuplicateKeys

/-! ## Values that have no canonical text -/

/-- `{location}[{index}]` -/
def itemAt (location : Str) (index : Nat) : Str := location ++ lit "[" ++ natText index ++ lit "]"

def surrogateAt (location : Str) : Exc := .contractError (location ++ lit " contains an unpaired surrogate escape")

/-- The keys of an object, checked in their order before any of its values is. -/
def walkKeys (location : Str) : List (Str × Json) → Except Exc Unit
  | [] => .ok ()
  | (key, _) :: kvs => if hasSurrogate key then .error (surrogateAt location) else walkKeys location kvs

mutual

/-- The walk over a value with its location. The last child of a value is on top of the source's stack, so it is
walked first. -/
def walk (location : Str) : Json → Except Exc Unit
  | .float _ => .error (.contractError (location ++ lit " contains a float, which is noncanonical"))
  | .str s => if hasSurrogate s then .error (surrogateAt location) else .ok ()
  | .obj kvs => do
    walkKeys location kvs
    walkMembers location kvs
  | .arr xs => walkItems location 0 xs
  | .null | .bool _ | .int _ => .ok ()

def walkItems (location : Str) (index : Nat) : List Json → Except Exc Unit
  | [] => .ok ()
  | x :: xs => do
    walkItems location (index + 1) xs
    walk (itemAt location index) x

def walkMembers (location : Str) : List (Str × Json) → Except Exc Unit
  | [] => .ok ()
  | (key, v) :: kvs => do
    walkMembers location kvs
    walk (location ++ lit "." ++ key) v

end

/-- `_reject_noncanonical_values` -/
def rejectNoncanonicalValues (value : Json) (location : Str) : Except Exc Unit := walk location value

/-- `_validate_serializable_object`. A value of this type has text keys only and no value of another type. -/
def validateSerializableObject (value : Json) (location : Str) : Except Exc Unit := walk location value

/-! ## The reader -/

/-- `{what} line {index}` -/
def lineName (what : Str) (index : Nat) : Str := what ++ lit " line " ++ natText index

/-- `_parse_canonical_json_line` -/
def parseCanonicalJsonLine (line : Bytes) (what : Str) (index : Nat) : Except Exc Json :=
  let fail := fun text => Except.error (Exc.contractError (lineName what index ++ lit text))
  match decodeUtf8 line with
  | none => fail " is not valid UTF-8"
  | some text =>
    match loads hooks text with
    | .error (.hook e) => .error e
    | .error .fuel => fail " is too deeply nested"
    | .error (.decode msg) => fail (" is not valid JSON: " ++ msg)
    | .ok (.obj kvs) => do
      rejectNoncanonicalValues (.obj kvs) (lineName what index)
      match encodeAscii (dumps .compact 0 (.obj kvs)) with
      | none => fail " is not canonically encoded"
      | some canonical => if canonical = line then .ok (.obj kvs) else fail " is not canonical compact lexical-key JSON"
    | .ok _ => fail " must be a JSON object"

/-- The lines that end with LF, and what comes after the last LF. -/
def splitLF : Bytes → List Bytes × Bytes
  | [] => ([], [])
  | b :: bs =>
    match splitLF bs with
    | (lines, rest) =>
      if b.val = 10 then ([] :: lines, rest)
      else match lines with
        | [] => ([], b :: rest)
        | line :: lines => ((b :: line) :: lines, rest)

/-- The loop of `parse_canonical_jsonl_records`. -/
def parseLines (what : Str) (recordLimit : Option Int) (index : Nat) : List Bytes → Except Exc (List Json)
  | [] => .ok []
  | line :: lines =>
    if line = [] then .error (.contractError (what ++ lit " must not contain blank lines"))
    else if recordLimit.any fun limit : Int => limit ≤ index then
      .error (.contractError (what ++ lit " exceeds the " ++ intText (recordLimit.getD 0) ++ lit "-record bound"))
    else do
      let record ← parseCanonicalJsonLine line what index
      let records ← parseLines what recordLimit (index + 1) lines
      return record :: records

def finalLF (what : Str) : Exc := .contractError (what ++ lit " must end with exactly one final LF")

def bom : Bytes := [byte 0xEF, byte 0xBB, byte 0xBF]

/-- `parse_canonical_jsonl_records` -/
def parseCanonicalJsonlRecords (raw : Bytes) (what : Str) (recordLimit : Option Int) : Except Exc (List Json) :=
  if recordLimit.any (· < 0) then
    .error (.contractError (what ++ lit " record limit must be a nonnegative integer"))
  else if bom <+: raw then .error (.contractError (what ++ lit " must not carry a UTF-8 BOM"))
  else if occurs (byte 13) raw then .error (.contractError (what ++ lit " must use LF line endings only"))
  else if raw.getLast? ≠ some lf then .error (finalLF what)
  else do
    let records ← parseLines what recordLimit 0 (splitLF raw).1
    if (splitLF raw).2 = [] then return records else throw (finalLF what)

/-! ## The writer -/

def requireObject (value : Json) (location : Str) : Except Exc Unit :=
  match value with
  | .obj _ => .ok ()
  | _ => .error (.contractError (location ++ lit " must be an object"))

/-- `canonical_jsonl_line` -/
def canonicalJsonlLine (value : Json) : Except Exc Bytes := do
  requireObject value (lit "canonical JSONL record")
  validateSerializableObject value (lit "canonical JSONL record")
  match encodeAscii (dumps .compact 0 value) with
  | none => throw (.contractError (lit "cannot encode canonical JSONL record"))
  | some canonical => return canonical ++ [lf]

end TurnVector.Canonical
