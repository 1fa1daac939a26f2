import TurnVector.Python.Value

/-! # `==` of decoded values

A boolean is a number, and numbers are equal across their types. The number that a float's text stands for is given,
and none for a NaN.
-/

namespace TurnVector.Python.Json

variable (floatValue : Str → Option ℚ)

/-- The number that a scalar is. -/
def numberOf : Json → Option ℚ
  | .bool b => some (if b then 1 else 0)
  | .int n => some n
  | .float t => floatValue t
  | _ => none

def sameNumber (v w : Json) : Bool :=
  match numberOf floatValue v, numberOf floatValue w with
  | some p, some q => p = q
  | _, _ => false

mutual

/-- `v == w` -/
def pyEq : Json → Json → Bool
  | .null, w => w = .null
  | .str s, w => w = .str s
  | .arr xs, .arr ys => pyEqItems xs ys
  | .obj xs, .obj ys => xs.length = ys.length && pyEqMembers xs ys
  | .bool b, w => sameNumber floatValue (.bool b) w
  | .int n, w => sameNumber floatValue (.int n) w
  | .float t, w => sameNumber floatValue (.float t) w
  | _, _ => false

def pyEqItems : List Json → List Json → Bool
  | [], [] => true
  | x :: xs, y :: ys => pyEq x y && pyEqItems xs ys
  | _, _ => false

/-- Each member has an equal one under its key. -/
def pyEqMembers : List (Str × Json) → List (Str × Json) → Bool
  | [], _ => true
  | (k, v) :: xs, ys =>
    (match ys.lookup k with
      | some w => pyEq v w
      | none => false) && pyEqMembers xs ys

end

end TurnVector.Python.Json
