import TurnVector.Canonical

/-! # Pair-preserving JSON

`authority/contract_json.py`: duplicate keys are facts here, not parse failures. An object of a staged value may
name a key twice; its view as a dict keeps the last of them.
-/

namespace TurnVector.ContractJson

open Python Json

inductive PathToken where
  | key (k : Str)
  | index (n : Nat)
  deriving DecidableEq

structure DuplicateKey where
  path : List PathToken
  key : Str
  pairIndex : Nat
  occurrence : Nat
  deriving DecidableEq

structure ParsedJson where
  root : List (Str × Json)
  duplicateKeys : List DuplicateKey

/-! ## The value view -/

mutual

/-- `_to_plain` -/
def toPlain : Json → Json
  | .obj kvs => .obj (dictOf (toPlainMembers kvs))
  | .arr xs => .arr (toPlainItems xs)
  | v => v

def toPlainItems : List Json → List Json
  | [] => []
  | x :: xs => toPlain x :: toPlainItems xs

def toPlainMembers : List (Str × Json) → List (Str × Json)
  | [] => []
  | (k, v) :: kvs => (k, toPlain v) :: toPlainMembers kvs

end

/-- `ParsedJson.value` -/
def ParsedJson.value (parsed : ParsedJson) : Json := toPlain (.obj parsed.root)

/-! ## Facts -/

mutual

/-- `_collect_duplicates`: in document order, a fact before those of its own value. -/
def collectDuplicates (path : List PathToken) : Json → List DuplicateKey
  | .obj kvs => collectMembers path [] 0 kvs
  | .arr xs => collectItems path 0 xs
  | _ => []

def collectItems (path : List PathToken) (index : Nat) : List Json → List DuplicateKey
  | [] => []
  | x :: xs => collectDuplicates (path ++ [.index index]) x ++ collectItems path (index + 1) xs

def collectMembers (path : List PathToken) (seen : List Str) (index : Nat) : List (Str × Json) → List DuplicateKey
  | [] => []
  | (key, v) :: kvs =>
    (if occurs key seen then [⟨path, key, index, seen.count key + 1⟩] else []) ++
      collectDuplicates (path ++ [.key key]) v ++ collectMembers path (key :: seen) (index + 1) kvs

end

mutual

/-- What `_reject_surrogates` looks for: a surrogate in any key or text. -/
def anySurrogate : Json → Bool
  | .str s => hasSurrogate s
  | .obj kvs => anySurrogateMembers kvs
  | .arr xs => anySurrogateItems xs
  | _ => false

def anySurrogateItems : List Json → Bool
  | [] => false
  | x :: xs => anySurrogate x || anySurrogateItems xs

def anySurrogateMembers : List (Str × Json) → Bool
  | [] => false
  | (k, v) :: kvs => hasSurrogate k || anySurrogate v || anySurrogateMembers kvs

end

/-! ## String tokens -/

/-- `_validate_string_tokens`, with the characters of the last token that are still to be passed. -/
def validateStringTokens (what : Str) (skip : Nat) : Str → Except Exc Unit
  | [] => .ok ()
  | c :: s =>
    if 0 < skip then validateStringTokens what (skip - 1) s
    else if c.val ≠ 34 then validateStringTokens what 0 s
    else match (scanString s : Except (LoadError Exc) _) with
      | .error _ => .error (.invalidCanonicalJson what (lit "invalid JSON string"))
      | .ok (decoded, rest) =>
        let token := (c :: s).take ((c :: s).length - rest.length)
        if token ≠ quote decoded then .error (.invalidCanonicalJson what (lit "noncanonical JSON string escape"))
        else validateStringTokens what (token.length - 1) s

/-! ## One object -/

/-- The characters that `str.strip` takes. -/
def isSpace (c : CodePoint) : Bool :=
  (9 ≤ c.val && c.val ≤ 13) || (28 ≤ c.val && c.val ≤ 32) || c.val == 0x85 || c.val == 0xA0 || c.val == 0x1680 ||
    (0x2000 ≤ c.val && c.val ≤ 0x200A) || c.val == 0x2028 || c.val == 0x2029 || c.val == 0x202F || c.val == 0x205F ||
    c.val == 0x3000

/-- The hooks of the staged decoder. What a rejected number raises is its text. -/
def hooks : Hooks Str where
  onFloat token := .error (lit "float " ++ strRepr token)
  onConstant token := .error (lit "constant " ++ strRepr token)
  onPairs pairs := .ok (.obj pairs)

/-- `parse_json_object` of a byte buffer. -/
def parseJsonObject (raw : Bytes) (what : Str) : Except Exc ParsedJson :=
  let fail := fun detail => Except.error (Exc.invalidCanonicalJson what detail)
  match decodeUtf8 raw with
  | none => fail (lit "invalid UTF-8")
  | some text =>
    if text.head? = some (cp 0xFEFF) then fail (lit "UTF-8 BOM is forbidden")
    else if occurs (cp 13) text then fail (lit "CR is forbidden")
    else if text.getLast? ≠ some (cp 10) then fail (lit "missing final LF")
    else if text.dropLast.getLast? = some (cp 10) then fail (lit "blank trailing line")
    else do
      validateStringTokens what 0 text.dropLast
      match rawDecode hooks text.dropLast with
      | .error (.hook detail) => fail detail
      | .error _ => fail (lit "invalid JSON syntax")
      | .ok (root, rest) =>
        if ¬ rest.all isSpace then fail (lit "extra content after object")
        else match root with
          | .obj pairs =>
            if anySurrogate (.obj pairs) then fail (lit "unpaired surrogate escape")
            else .ok ⟨pairs, collectDuplicates [] (.obj pairs)⟩
          | _ => fail (lit "top-level value is not an object")

/-! ## Canonical bytes -/

/-- `canonical_json_bytes` of a dict. `indent=2` is the indented layout. -/
def canonicalJsonBytes (l : Layout) (value : Json) : Except Exc Bytes :=
  let fail := fun detail => Except.error (Exc.invalidCanonicalJson (lit "canonical JSON object") (lit detail))
  match value with
  | .obj _ =>
    match Canonical.canonicalJsonlLine value with
    | .error _ => fail "value is not serializable"
    | .ok compact =>
      match l with
      | .compact => .ok compact
      | .indented =>
        match encodeAscii (dumps .indented 0 value) with
        | none => fail "value is not serializable"
        | some text => .ok (text ++ [lf])
  | _ => fail "value is not an object"

/-- `canonical_json_bytes` of a parsed object. -/
def ParsedJson.canonicalBytes (l : Layout) (parsed : ParsedJson) : Except Exc Bytes :=
  if parsed.duplicateKeys ≠ [] then
    .error (.invalidCanonicalJson (lit "canonical JSON object") (lit "duplicate object key"))
  else canonicalJsonBytes l parsed.value

/-- `is_canonical_json` -/
def isCanonicalJson (raw : Bytes) (parsed : ParsedJson) (l : Layout) : Bool :=
  match parsed.canonicalBytes l with
  | .error _ => false
  | .ok encoded => raw = encoded

/-! ## Records -/

/-- `raw.splitlines(keepends=True)` of bytes. -/
def splitlines : Bytes → List Bytes
  | [] => []
  | b :: bs =>
    if b.val = 10 then [b] :: splitlines bs
    else if b.val = 13 then
      match bs with
      | [] => [[b]]
      | c :: bs' => if c.val = 10 then [b, c] :: splitlines bs' else [b] :: splitlines (c :: bs')
    else match splitlines bs with
      | [] => [[b]]
      | line :: lines => (b :: line) :: lines

/-- `{what} record {index}` -/
def recordName (what : Str) (index : Nat) : Str := what ++ lit " record " ++ natText index

def parseLines (what : Str) (index : Nat) : List Bytes → Except Exc (List ParsedJson)
  | [] => .ok []
  | line :: lines => do
    let parsed ← parseJsonObject line (recordName what index)
    let records ← parseLines what (index + 1) lines
    return parsed :: records

/-- `parse_jsonl_records` -/
def parseJsonlRecords (raw : Bytes) (what : Str) : Except Exc (List ParsedJson) :=
  if raw.getLast? ≠ some lf then .error (.invalidCanonicalJson what (lit "missing final LF"))
  else if splitlines raw = [] ∨ occurs [lf] (splitlines raw) then
    .error (.invalidCanonicalJson what (lit "blank JSONL record"))
  else parseLines what 0 (splitlines raw)

/-- `is_canonical_jsonl` -/
def isCanonicalJsonl (raw : Bytes) (records : List ParsedJson) : Bool :=
  match records.mapM (·.canonicalBytes .compact) with
  | .error _ => false
  | .ok encoded => raw = encoded.flatten

end TurnVector.ContractJson
