import TurnVector.Errors
import TurnVector.Python.Json

/-! # Built-in functions on values

`str`, `bool`, `tuple` and `==` of a value that `json` can build. A float stands here as its `repr`.
-/

namespace TurnVector.Python.Json

mutual

/-- `repr(v)` -/
def repr : Json → Str
  | .null => lit "None"
  | .bool true => lit "True"
  | .bool false => lit "False"
  | .int n => intText n
  | .float t => t
  | .str s => strRepr s
  | .arr xs => cp 91 :: join (lit ", ") (reprItems xs) ++ [cp 93]
  | .obj kvs => cp 123 :: join (lit ", ") (reprMembers kvs) ++ [cp 125]

def reprItems : List Json → List Str
  | [] => []
  | x :: xs => repr x :: reprItems xs

def reprMembers : List (Str × Json) → List Str
  | [] => []
  | (k, v) :: kvs => (strRepr k ++ lit ": " ++ repr v) :: reprMembers kvs

end

/-- `str(v)` -/
def strOf : Json → Str
  | .str s => s
  | v => repr v

/-- `bool(v)` -/
def truth : Json → Bool
  | .null => false
  | .bool b => b
  | .int n => n ≠ 0
  | .float t => t ≠ lit "0.0" && t ≠ lit "-0.0"
  | .str s => !s.isEmpty
  | .arr xs => !xs.isEmpty
  | .obj kvs => !kvs.isEmpty

/-- `tuple(v)` -/
def tuple : Json → Except Exc (List Json)
  | .arr xs => .ok xs
  | .str s => .ok (s.map fun c => .str [c])
  | .obj kvs => .ok (kvs.map fun p => .str p.1)
  | _ => .error .typeError

/-- `v == n` for a count: a bool is a number, and so is a float (below 10^16, where its `repr` has no exponent). -/
def isCount (v : Json) (n : Nat) : Bool :=
  match v with
  | .bool b => (if b then 1 else 0) = n
  | .int m => m = n
  | .float t => t = natText n ++ lit ".0" || (n = 0 && t = lit "-0.0")
  | _ => false

/-- `tuple(v) == counts` for the items of `v`. -/
def areCounts : List Json → List Nat → Bool
  | [], [] => true
  | v :: vs, n :: ns => v.isCount n && areCounts vs ns
  | _, _ => false

/-- `d[name]` of a dict, when it is there. -/
def member? (v : Json) (name : Str) : Option Json :=
  match v with
  | .obj kvs => kvs.lookup name
  | _ => none

theorem mem_of_member? (kvs : List (Str × Json)) (name : Str) (v : Json) (h : member? (.obj kvs) name = some v) :
    (name, v) ∈ kvs := by
  obtain ⟨l₁, l₂, rfl, -⟩ := List.lookup_eq_some_iff.mp h
  simp

end TurnVector.Python.Json
