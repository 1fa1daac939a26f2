import TurnVector.Canonical
import TurnVector.CompileLimits

/-! # Typed reads

The `require_*` checks of `canonical.py`. What a check has accepted is a value that carries the accepted form.
-/

namespace TurnVector.Canonical

open Python Json

def isIdentifierHead (c : CodePoint) : Bool := (97 ≤ c.val && c.val ≤ 122) || isDigit c

def isIdentifierChar (c : CodePoint) : Bool := isIdentifierHead c || c.val == 46 || c.val == 95 || c.val == 45

/-- `^[a-z0-9][a-z0-9._-]*$`, matched in full. -/
def isIdentifier : Str → Bool
  | [] => false
  | c :: cs => isIdentifierHead c && cs.all isIdentifierChar

def isHex (c : CodePoint) : Bool := isDigit c || (97 ≤ c.val && c.val ≤ 102)

/-- `^[0-9a-f]{64}$`, matched in full. -/
def isSha256 (s : Str) : Bool := s.length == 64 && s.all isHex

abbrev Identifier := {s : Str // isIdentifier s = true}

abbrev Sha256 := {s : Str // isSha256 s = true}

abbrev U64 := {n : Nat // n ≤ u64Max}

def reject {α : Type} (place : Str) (text : String) : Except Exc α := .error (.contractError (place ++ lit text))

/-- `require_object` -/
def requireMembers (value : Json) (place : Str) : Except Exc (List (Str × Json)) :=
  match value with
  | .obj kvs => .ok kvs
  | _ => reject place " must be an object"

/-- `require_strict_keys` -/
def requireStrictKeys (kvs : List (Str × Json)) (required : List Str) (place : Str) : Except Exc Unit :=
  let keys := kvs.map Prod.fst
  let named := fun text names => Except.error (Exc.contractError
    (place ++ lit text ++ join (lit ", ") (List.insertionSort (fun a b => a ≤ b) names)))
  let missing := required.filter fun name => !occurs name keys
  let unknown := keys.filter fun key => !occurs key required
  if !missing.isEmpty then named " is missing required fields: " missing
  else if !unknown.isEmpty then named " has unknown fields: " unknown
  else .ok ()

/-- `_record` -/
def requireRecord (value : Json) (fields : List String) (place : Str) : Except Exc (List (Str × Json)) := do
  let kvs ← requireMembers value place
  requireStrictKeys kvs (fields.map lit) place
  return kvs

/-- `mapping[name]` -/
def readItem (kvs : List (Str × Json)) (name : String) : Except Exc Json :=
  match kvs.lookup (lit name) with
  | some v => .ok v
  | none => .error (.keyError (lit name))

def requireArray (value : Json) (place : Str) : Except Exc (List Json) :=
  match value with
  | .arr xs => .ok xs
  | _ => reject place " must be an array"

/-- `require_string` -/
def requireString (value : Json) (place : Str) : Except Exc Str :=
  match value with
  | .str (c :: s) => .ok (c :: s)
  | _ => reject place " must be a non-empty string"

/-- `require_identifier` -/
def requireIdentifier (value : Json) (place : Str) : Except Exc Identifier := do
  let text ← requireString value place
  if h : isIdentifier text = true then return ⟨text, h⟩
  reject place " must match ^[a-z0-9][a-z0-9._-]*$"

/-- `require_sha256` -/
def requireSha256 (value : Json) (place : Str) : Except Exc Sha256 := do
  let text ← requireString value place
  if h : isSha256 text = true then return ⟨text, h⟩
  reject place " must be a lowercase 64-character SHA-256 digest"

/-- `require_boolean` -/
def requireBoolean (value : Json) (place : Str) : Except Exc Bool :=
  match value with
  | .bool b => .ok b
  | _ => reject place " must be a boolean"

/-- `require_u64` -/
def requireU64 (value : Json) (place : Str) : Except Exc U64 :=
  match value with
  | .int (.ofNat n) => if h : n ≤ u64Max then .ok ⟨n, h⟩ else reject place " must be a nonnegative u64"
  | .int (.negSucc _) => reject place " must be a nonnegative u64"
  | _ => reject place " must be an integer"

/-- `^[A-Za-z0-9._-]+$`, matched in full. -/
def isPosixComponent (s : Str) : Bool :=
  !s.isEmpty && s.all fun c => isIdentifierChar c || (65 ≤ c.val && c.val ≤ 90)

/-- `component in ("", ".", "..")` -/
def isDots (s : Str) : Bool := s.isEmpty || s == lit "." || s == lit ".."

/-- `require_posix_path` -/
def requirePosixPath (value : Json) (place : Str) : Except Exc Str := do
  let text ← requireString value place
  if occurs (cp 92) text || (text.splitOn (cp 47)).any fun part => isDots part || !isPosixComponent part then
    reject place " must be a normalized repository-relative POSIX path"
  else return text

end TurnVector.Canonical
