import TurnVector.Authority.ContractJson
import TurnVector.Python.Value

/-! # Phase A

The stages of `_parse_phase_a` in `authority/compiler.py`.
-/

namespace TurnVector.PhaseA

open Python Json

/-! ## Stage 5: uniqueness of identifiers -/

/-- `token.replace("~", "~0").replace("/", "~1")` -/
def escapeToken (token : Str) : Str :=
  token.flatMap fun c => if c = cp 126 then lit "~0" else if c = cp 47 then lit "~1" else [c]

/-- `_pointer` without a leaf. -/
def pointerOf (base : String) (path : List Str) : Str :=
  cp 47 :: join (lit "/") ((lit base :: path).map escapeToken)

/-- What a set compares: `True` is 1, and a list or a dict cannot be in it. -/
def hashKey (value : Json) : Except Exc Json :=
  match value with
  | .bool b => .ok (.int (if b then 1 else 0))
  | .arr _ => .error .typeError
  | .obj _ => .error .typeError
  | v => .ok v

/-- `_collect_duplicate_ids`: the places of the values that stand before too. -/
def collectDuplicateIds (base : String) (path : List Str) (seen : List Json) (index : Nat) :
    List Json → Except Exc (List Str)
  | [] => .ok []
  | value :: values => do
    let key ← hashKey value
    let rest ← collectDuplicateIds base path (key :: seen) (index + 1) values
    return if occurs key seen then pointerOf base (path ++ [natText index]) :: rest else rest

def isMapping : Json → Bool
  | .obj _ => true
  | _ => false

/-- `d.get(name)` of a mapping. -/
def getOr (value : Json) (name : String) : Json := (value.member? (lit name)).getD .null

/-- `[item.get(name) for item in values if isinstance(item, Mapping)]` -/
def idsOf (name : String) (values : List Json) : List Json := (values.filter isMapping).map (getOr · name)

/-- The ids of the items of a member, when that is a list. -/
def memberIds (value : Json) (field name base : String) (path : List Str) : Except Exc (List Str) :=
  match value.member? (lit field) with
  | some (.arr items) => collectDuplicateIds base (path ++ [lit field]) [] 0 (idsOf name items)
  | _ => .ok []

/-- The ids of a member that is iterated as it is. -/
def rawIds (value : Json) (field base : String) (path : List Str) : Except Exc (List Str) := do
  match value.member? (lit field) with
  | some ids => collectDuplicateIds base (path ++ [lit field]) [] 0 (← ids.tuple)
  | none => return []

def laneDuplicates (lane : Json × Nat) : Except Exc (List Str) :=
  if isMapping lane.1 then do
    let fields ← ["cases", "gates", "matrices"].mapM fun field =>
      memberIds lane.1 field "id" "benchmark_expectation" [lit "lanes", natText lane.2]
    return fields.flatten
  else .ok []

def expectationDuplicates (expectation : Json) : Except Exc (List Str) :=
  match expectation.member? (lit "lanes") with
  | some (.arr lanes) => do
    let ids ← collectDuplicateIds "benchmark_expectation" [lit "lanes"] [] 0 (idsOf "id" lanes)
    let inner ← lanes.zipIdx.mapM laneDuplicates
    return ids ++ inner.flatten
  | _ => .ok []

def ledgerDuplicates (ledger : Json) : Except Exc (List Str) :=
  match ledger.member? (lit "entities") with
  | some (.obj kvs) => do
    let raw ← ["judge_ids", "evidence_source_ids"].mapM fun field =>
      rawIds (.obj kvs) field "traceability_ledger" [lit "entities"]
    let tests ← ["judge_negative_tests", "aggregate_negative_tests", "plumbing_negative_tests"].mapM fun field =>
      memberIds (.obj kvs) field "id" "traceability_ledger" [lit "entities"]
    return raw.flatten ++ tests.flatten
  | _ => .ok []

/-- The pointers of stage 5, in sweep order. -/
def duplicateIds (snapshot expectation ledger header : Json) (records : List Json) : Except Exc (List Str) := do
  let catalog ← collectDuplicateIds "obligation_catalog" [] [] 0 ((header :: records).map (getOr · "id"))
  let lanes ← expectationDuplicates expectation
  let entities ← ledgerDuplicates ledger
  let paths ← memberIds snapshot "source_files" "path" "authority_snapshot" []
  return catalog ++ lanes ++ entities ++ paths

end TurnVector.PhaseA
