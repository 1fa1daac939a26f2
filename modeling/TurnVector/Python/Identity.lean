import TurnVector.Python.Equality

/-! # Values that are the same as JSON

`==` lets a boolean, an integer and a float stand for each other. Two values are the same when they are equal and their
numbers have the same types.
-/

namespace TurnVector.Python.Json

variable (floatValue : Str → Option ℚ)

mutual

/-- The same types and the same values; the members of an object in any order. -/
def identical : Json → Json → Bool
  | .null, w => w = .null
  | .bool b, w => w = .bool b
  | .int n, w => w = .int n
  | .float t, .float u => sameNumber floatValue (.float t) (.float u)
  | .str s, w => w = .str s
  | .arr xs, .arr ys => identicalItems xs ys
  | .obj xs, .obj ys => xs.length = ys.length && identicalMembers xs ys
  | _, _ => false

def identicalItems : List Json → List Json → Bool
  | [], [] => true
  | x :: xs, y :: ys => identical x y && identicalItems xs ys
  | _, _ => false

def identicalMembers : List (Str × Json) → List (Str × Json) → Bool
  | [], _ => true
  | (k, v) :: xs, ys =>
    (match ys.lookup k with
      | some w => identical v w
      | none => false) && identicalMembers xs ys

end

inductive NumberKind where
  | boolean
  | integer
  | float
  deriving DecidableEq

/-- The type of a number. -/
def numberKind : Json → Option NumberKind
  | .bool _ => some .boolean
  | .int _ => some .integer
  | .float _ => some .float
  | _ => none

mutual

/-- The numbers at the same places have the same types. -/
def sameKinds : Json → Json → Bool
  | .arr xs, .arr ys => sameKindsItems xs ys
  | .obj xs, .obj ys => sameKindsMembers xs ys
  | v, w => numberKind v = numberKind w

def sameKindsItems : List Json → List Json → Bool
  | x :: xs, y :: ys => sameKinds x y && sameKindsItems xs ys
  | _, _ => true

def sameKindsMembers : List (Str × Json) → List (Str × Json) → Bool
  | [], _ => true
  | (k, v) :: xs, ys =>
    (match ys.lookup k with
      | some w => sameKinds v w
      | none => true) && sameKindsMembers xs ys

end

theorem identicalItems_iff (xs ys : List Json)
    (ih : ∀ x ∈ xs, ∀ w, identical floatValue x w = (pyEq floatValue x w && sameKinds x w)) :
    identicalItems floatValue xs ys = (pyEqItems floatValue xs ys && sameKindsItems xs ys) := by
  induction xs generalizing ys with
  | nil => cases ys <;> simp [identicalItems, pyEqItems, sameKindsItems]
  | cons x xs ihxs =>
    cases ys with
    | nil => simp [identicalItems, pyEqItems]
    | cons y ys =>
      rw [identicalItems, pyEqItems, sameKindsItems, ih x (by simp), ihxs ys fun z hz => ih z (by simp [hz])]
      ac_rfl

theorem identicalMembers_iff (xs ys : List (Str × Json))
    (ih : ∀ p ∈ xs, ∀ w, identical floatValue p.2 w = (pyEq floatValue p.2 w && sameKinds p.2 w)) :
    identicalMembers floatValue xs ys = (pyEqMembers floatValue xs ys && sameKindsMembers xs ys) := by
  induction xs with
  | nil => simp [identicalMembers, pyEqMembers, sameKindsMembers]
  | cons p xs ihxs =>
    obtain ⟨k, v⟩ := p
    rw [identicalMembers, pyEqMembers, sameKindsMembers, ihxs fun q hq => ih q (by simp [hq])]
    cases ys.lookup k with
    | none => simp
    | some w =>
      simp only [ih (k, v) (by simp) w]
      ac_rfl

/-- Equal values are the same exactly when their numbers have the same types. -/
theorem identical_eq (v w : Json) : identical floatValue v w = (pyEq floatValue v w && sameKinds v w) := by
  induction v generalizing w with
  | null => cases w <;> simp [identical, pyEq, sameKinds, numberKind]
  | bool b =>
    cases w with
    | bool c => cases b <;> cases c <;> simp [identical, pyEq, sameKinds, numberKind, sameNumber, numberOf]
    | null | int n | float t | str s | arr xs | obj kvs => simp [identical, sameKinds, numberKind]
  | int n => cases w <;> simp [identical, pyEq, sameKinds, numberKind, sameNumber, numberOf, eq_comm]
  | float t => cases w <;> simp [identical, pyEq, sameKinds, numberKind]
  | str s => cases w <;> simp [identical, pyEq, sameKinds, numberKind]
  | arr xs ih =>
    cases w with
    | arr ys => simp only [identical, pyEq, sameKinds, identicalItems_iff floatValue xs ys fun x hx w => ih x hx w]
    | null | bool b | int n | float t | str s | obj kvs => simp [identical, pyEq]
  | obj kvs ih =>
    cases w with
    | obj ys =>
      simp only [identical, pyEq, sameKinds, identicalMembers_iff floatValue kvs ys fun p hp w => ih p hp w]
      ac_rfl
    | null | bool b | int n | float t | str s | arr xs => simp [identical, pyEq]

/-! ## Item by item -/

theorem pyEqItems_iff (xs ys : List Json) :
    pyEqItems floatValue xs ys = true ↔ List.Forall₂ (fun x y => pyEq floatValue x y = true) xs ys := by
  induction xs generalizing ys with
  | nil => cases ys <;> simp [pyEqItems]
  | cons x xs ih => cases ys <;> simp [pyEqItems, ih]

theorem pyEqMembers_iff (xs ys : List (Str × Json)) : pyEqMembers floatValue xs ys = true ↔
    ∀ p ∈ xs, ∃ w, ys.lookup p.1 = some w ∧ pyEq floatValue p.2 w = true := by
  induction xs with
  | nil => simp [pyEqMembers]
  | cons p xs ih =>
    obtain ⟨k, v⟩ := p
    rw [pyEqMembers, Bool.and_eq_true, ih, List.forall_mem_cons]
    cases ys.lookup k <;> simp

theorem sameKindsItems_iff (xs ys : List Json) (h : xs.length = ys.length) :
    sameKindsItems xs ys = true ↔ List.Forall₂ (fun x y => sameKinds x y = true) xs ys := by
  induction xs generalizing ys with
  | nil =>
    obtain rfl : ys = [] := List.length_eq_zero_iff.mp h.symm
    simp [sameKindsItems]
  | cons x xs ih =>
    cases ys with
    | nil => simp at h
    | cons y ys => simp [sameKindsItems, ih ys (by simpa using h)]

theorem sameKindsMembers_iff (xs ys : List (Str × Json)) : sameKindsMembers xs ys = true ↔
    ∀ p ∈ xs, ∀ w, ys.lookup p.1 = some w → sameKinds p.2 w = true := by
  induction xs with
  | nil => simp [sameKindsMembers]
  | cons p xs ih =>
    obtain ⟨k, v⟩ := p
    rw [sameKindsMembers, Bool.and_eq_true, ih, List.forall_mem_cons]
    cases ys.lookup k <;> simp

theorem sameKinds_text (s : Str) (w : Json) (h : pyEq floatValue (.str s) w = true) : sameKinds (.str s) w = true := by
  simp only [pyEq, decide_eq_true_eq] at h
  rw [h]
  simp [sameKinds, numberKind]

theorem sameKinds_null (w : Json) (h : pyEq floatValue .null w = true) : sameKinds .null w = true := by
  simp only [pyEq, decide_eq_true_eq] at h
  rw [h]
  simp [sameKinds, numberKind]

/-- An integer is the same as an equal value exactly when that is an integer. -/
theorem sameKinds_int_iff (n : Int) (w : Json) : sameKinds (.int n) w = true ↔ ∃ m, w = .int m := by
  cases w <;> simp [sameKinds, numberKind]

theorem sameKinds_bool_iff (b : Bool) (w : Json) : sameKinds (.bool b) w = true ↔ ∃ c, w = .bool c := by
  cases w <;> simp [sameKinds, numberKind]

end TurnVector.Python.Json
