import TurnVector.Lanes.CoreReplay
import TurnVector.Python.Value

/-! # What the oracles read

The readers of `lane_oracles.py`, and the built-in functions that its oracles call on what a subject sent.
-/

namespace TurnVector.Lanes

open Python Json
open CrossEngine (PyFloat)
open LaneController (Raised contractError)
open Canonical (itemAt)

/-! ## Dicts and lists -/

def member (value : Json) (name : String) : Json :=
  match value with
  | .obj members => (members.lookup (lit name)).getD .null
  | _ => .null

def items : Json → List Json
  | .arr xs => xs
  | _ => []

def hasKeys (value : Json) (names : List String) : Bool :=
  match value with
  | .obj members => sameSet (members.map Prod.fst) (names.map lit)
  | _ => false

/-- A dict with these keys and no other. -/
structure Fields (names : List String) where
  members : List (Str × Json)
  exact : hasKeys (.obj members) names = true

/-- The name is one of the names. -/
class FieldName (name : String) (names : List String) where
  mem : name ∈ names

instance (name : String) (names : List String) : FieldName name (name :: names) := ⟨List.mem_cons_self⟩

instance (name other : String) (names : List String) [h : FieldName name names] : FieldName name (other :: names) :=
  ⟨List.mem_cons_of_mem other h.mem⟩

/-- `value[name]` -/
def Fields.get {names : List String} (fields : Fields names) (name : String) [FieldName name names] : Json :=
  member (.obj fields.members) name

/-- `value[name]` raises no `KeyError`. -/
theorem Fields.lookup_member {names : List String} (fields : Fields names) {name : String} (h : name ∈ names) :
    fields.members.lookup (lit name) = some (member (.obj fields.members) name) := by
  have hkeys := fields.exact
  simp only [hasKeys, sameSet, Bool.and_eq_true, List.all_eq_true] at hkeys
  have hkey : lit name ∈ fields.members.map Prod.fst := by
    simpa using hkeys.2 (lit name) (List.mem_map_of_mem h)
  cases hlookup : fields.members.lookup (lit name) with
  | none =>
    obtain ⟨pair, hpair, hname⟩ := List.mem_map.mp hkey
    have := List.lookup_eq_none_iff.mp hlookup pair hpair
    simp [hname] at this
  | some value => simp [member, hlookup]

def keysText (names : List String) (place : Str) : Str :=
  place ++ lit " must contain exactly " ++ listRepr ((names.map lit).insertionSort (· ≤ ·))

/-- `_keys` -/
def oracleFields (value : Json) (names : List String) (place : Str) : Except Raised (Fields names) :=
  match value with
  | .obj members =>
    if exact : hasKeys (.obj members) names = true then .ok ⟨members, exact⟩ else contractError (keysText names place)
  | _ => contractError (keysText names place)

/-- The two readings of `_keys` are one. -/
theorem oracleKeys_eq (value : Json) (names : List String) (place : Str) :
    oracleKeys value names place = Fields.members <$> oracleFields value names place := by
  cases value with
  | obj members =>
    by_cases h : sameSet (members.map Prod.fst) (names.map lit) = true
    · simp [oracleKeys, exactMembers, oracleFields, hasKeys, h]
    · simp [oracleKeys, exactMembers, oracleFields, hasKeys, h, contractError, keysText]
  | _ => rfl

/-- A loop over `_list(value, place)`, with the index of each item. -/
def eachItem {α : Type} (value : Json) (place : Str) (read : Json → Nat → Except Raised α) :
    Except Raised (List α) := do
  let items ← oracleList value place
  items.zipIdx.mapM fun item => read item.1 item.2

/-! ## Hashes and texts -/

def hashable : Json → Bool
  | .arr _ => false
  | .obj _ => false
  | _ => true

/-- `hash(value)` -/
def hashed : Json → Except Raised Unit
  | .arr _ => raised "TypeError" (lit "unhashable type: " ++ strRepr (lit "list"))
  | .obj _ => raised "TypeError" (lit "unhashable type: " ++ strRepr (lit "dict"))
  | _ => .ok ()

mutual

/-- An integer of more than 4300 digits is in the value. -/
def longInt : Json → Bool
  | .int n => 10 ^ 4300 ≤ n.natAbs
  | .arr xs => longIntItem xs
  | .obj members => longIntMember members
  | _ => false

def longIntItem : List Json → Bool
  | [] => false
  | x :: xs => longInt x || longIntItem xs

def longIntMember : List (Str × Json) → Bool
  | [] => false
  | member :: members => longInt member.2 || longIntMember members

end

/-- `str(value)` -/
def textOf (value : Json) : Except Raised Str :=
  if longInt value then
    raised "ValueError" (lit "Exceeds the limit (4300 digits) for integer string conversion")
  else .ok value.strOf

/-! ## Numbers -/

/-- The operations of floats, with `sum` of floats that need not be finite. -/
structure OracleFloats extends Floats where
  total : List PyFloat → PyFloat

/-- `x < y` -/
def floatLess : PyFloat → PyFloat → Bool
  | .finite p, .finite q => p < q
  | .infinite a, .infinite b => a && !b
  | .infinite a, .finite _ => a
  | .finite _, .infinite b => !b
  | _, _ => false

/-- `abs(x)` -/
def floatAbs : PyFloat → PyFloat
  | .finite q => .finite |q|
  | .infinite _ => .infinite false
  | .nan => .nan

/-- `max(x, y)` -/
def floatMax (x y : PyFloat) : PyFloat := if floatLess x y then y else x

/-- `min(x, y)` -/
def floatMin (x y : PyFloat) : PyFloat := if floatLess y x then y else x

/-- `int(x)` of a finite float. -/
def truncate (q : ℚ) : Int := q.num.tdiv q.den

/-! ## Equality -/

variable (floats : OracleFloats)

/-- What stands for a float where values are compared. No integer and no finite float is where the infinities and the
NaN are. The NaN of the decoder is one object, and a container takes an object for itself. -/
def itemValue (token : Str) : Option ℚ :=
  match floats.ofToken token with
  | .finite q => some q
  | .infinite false => some (2 ^ 1024 + 1 / 2)
  | .infinite true => some (-(2 ^ 1024 + 1 / 2))
  | .nan => some (2 ^ 1024 + 1 / 3)

/-- `v is w or v == w`, as containers compare what they hold. -/
def sameItem (v w : Json) : Bool := pyEq (itemValue floats) v w

def isNaN : Json → Bool
  | .float token => floats.ofToken token = .nan
  | _ => false

/-- `v == w` -/
def equalJson (v w : Json) : Bool := !isNaN floats v && !isNaN floats w && sameItem floats v w

/-- `item in set` -/
def occursIn (item : Json) (set : List Json) : Bool := set.any (sameItem floats item)

/-- How many items a `set` of these tuples has. -/
def distinctCount {α : Type} (same : α → α → Bool) : List α → Nat
  | [] => 0
  | x :: xs => (if xs.any (same x) then 0 else 1) + distinctCount same xs

/-- `sum(booleans)` -/
def countTrue (flags : List Bool) : Nat := flags.countP id

end TurnVector.Lanes
