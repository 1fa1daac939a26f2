import TurnVector.Lanes.Expectation
import TurnVector.Python.Equality
import TurnVector.Table.Product

/-! # Lane suites and case plans

`lane_contract.py`: the suite that a lane is run with, and the expansion of its matrices into cases.
-/

namespace TurnVector.Lanes

open Python Json
open Canonical (Identifier reject itemAt readItem requireMembers requireArray requireString requireIdentifier
  requireBoolean)

/-! ## Records -/

inductive AdapterCategory where
  | core
  | native
  | system
  deriving DecidableEq

/-- `ADAPTER_CATEGORIES` -/
def adapterCategories : List (String × AdapterCategory) := [("core", .core), ("native", .native), ("system", .system)]

inductive Reducer where
  | sum
  | max
  | min
  | p50
  | p95
  | p99
  | rate
  | any
  deriving DecidableEq

/-- `REDUCERS` -/
def reducers : List (String × Reducer) :=
  [("sum", .sum), ("max", .max), ("min", .min), ("p50", .p50), ("p95", .p95), ("p99", .p99), ("rate", .rate),
    ("any", .any)]

inductive ExecutionBoundary where
  | coreAdapter
  | nativeAdapter
  | directDataPlane
  | benchmarkOrchestrated
  deriving DecidableEq

/-- `EXECUTION_BOUNDARIES` -/
def executionBoundaries : List (String × ExecutionBoundary) :=
  [("core_adapter", .coreAdapter), ("native_adapter", .nativeAdapter), ("direct_data_plane", .directDataPlane),
    ("benchmark_orchestrated", .benchmarkOrchestrated)]

structure MetricRecipe where
  metric : Identifier
  source : Identifier
  reducer : Reducer
  deriving DecidableEq

structure LaneRequirements where
  executionBoundary : ExecutionBoundary
  realSubjectRequired : Bool
  externalInputs : List Str
  diagnosticOnlyCases : List Str
  deriving DecidableEq

structure LaneSuite where
  suiteId : Identifier
  laneId : Identifier
  protocol : Identifier
  runner : Identifier
  adapterCategory : AdapterCategory
  matrixIds : List Str
  behaviorCaseIds : List Str
  gateIds : List Str
  operations : List Str
  metrics : List MetricRecipe
  requirements : LaneRequirements
  deriving DecidableEq

structure PlannedCase where
  caseId : Str
  laneId : Str
  matrixId : Str
  ordinal : Nat
  parameters : List (Str × Json)
  behaviorCaseIds : List Str
  operations : List Str
  diagnosticOnly : Bool
  deriving DecidableEq

structure CasePlan where
  laneId : Str
  suiteId : Str
  cases : List PlannedCase
  deriving DecidableEq

/-! ## The suite of a lane -/

/-- `_strings` -/
def strings (allowEmpty : Bool) (value : Json) (place : Str) : Except Exc (List Str) := do
  let parsed ← parseItems identifierText (← requireArray value place) place
  if parsed.isEmpty && !allowEmpty then reject place " must not be empty"
  else if !decide parsed.Nodup then reject place " must not contain duplicates"
  else return parsed

/-- The `repr` of a tuple of texts. -/
def tupleRepr : List Str → Str
  | [item] => lit "(" ++ strRepr item ++ lit ",)"
  | items => lit "(" ++ join (lit ", ") (items.map strRepr) ++ lit ")"

/-- The `repr` of a list of texts. -/
def listRepr (items : List Str) : Str := lit "[" ++ join (lit ", ") (items.map strRepr) ++ lit "]"

def ensure (condition : Bool) (place : Str) (text : Str) : Except Exc Unit :=
  if condition then .ok () else .error (.contractError (place ++ text))

/-- `set(left) == set(right)` -/
def sameSet (left right : List Str) : Bool := left.all (occurs · right) && right.all (occurs · left)

/-- What a suite loads beside itself: the resolved case schema, whether it is a file, and its decoded content. -/
structure SuiteFiles where
  resolve : Str → Str
  isFile : Str → Bool
  readJson : Str → Except Exc Json
  floatValue : Str → Option ℚ

/-- `observed != dimension.values`, and the fields around it. -/
def validateProperty (floatValue : Str → Option ℚ) (dimension : MatrixDimension) (properties : List (Str × Json))
    (place : Str) : Except Exc Unit := do
  let place := memberAt place "properties" ++ lit "." ++ dimension.dimensionId.val
  match properties.lookup dimension.dimensionId.val with
  | none => .error (.keyError dimension.dimensionId.val)
  | some property => do
    let obj ← record property ["enum"] [] place
    let observed ← readAt requireArray obj "enum" place
    ensure (pyEqItems floatValue observed dimension.values.items) place
      (lit ".enum must exactly match expectation values")

def validateMatrixSchema (floatValue : Str → Option ℚ) (matrix : Matrix) (matrices : List (Str × Json)) (path : Str) :
    Except Exc Unit := do
  let place := path ++ lit ".matrices." ++ matrix.matrixId.val
  match matrices.lookup matrix.matrixId.val with
  | none => .error (.keyError matrix.matrixId.val)
  | some value => do
    let obj ← record value ["required", "properties", "additional_properties"] [] place
    let required ← readAt (strings false) obj "required" place
    let expected := matrix.dimensions.items.map (·.dimensionId.val)
    ensure (required = expected) place
      (lit ".required must preserve expectation dimension order " ++ tupleRepr expected)
    let additional ← readAt requireBoolean obj "additional_properties" place
    ensure (!additional) place (lit ".additional_properties must be false")
    let properties ← readAt requireMembers obj "properties" place
    ensure (sameSet (properties.map Prod.fst) expected) place
      (lit ".properties must exactly match required dimensions")
    matrix.dimensions.items.forM fun dimension => validateProperty floatValue dimension properties place

/-- `_validate_case_schema` -/
def validateCaseSchema (files : SuiteFiles) (path : Str) (lane : ExpectationLane) : Except Exc Unit := do
  let obj ← record (← files.readJson path) ["schema_version", "lane_id", "matrices"] [] path
  let schemaVersion ← readItem obj "schema_version"
  ensure (schemaVersion = .str (lit "turnvector.benchmark.case-schema.v1")) path
    (lit ".schema_version must be 'turnvector.benchmark.case-schema.v1'")
  let laneId ← readItem obj "lane_id"
  ensure (laneId = .str lane.laneId.val) path (lit ".lane_id does not match " ++ strRepr lane.laneId.val)
  let matrices ← readAt requireMembers obj "matrices" path
  let expectedIds := lane.matrices.items.map (·.matrixId.val)
  ensure (sameSet (matrices.map Prod.fst) expectedIds) path
    (lit ".matrices must exactly match expectation matrices " ++
      listRepr (List.insertionSort (fun a b => a ≤ b) expectedIds))
  lane.matrices.items.forM fun matrix => validateMatrixSchema files.floatValue matrix matrices path

def parseRecipe (value : Json) (place : Str) : Except Exc MetricRecipe := do
  let obj ← record value ["metric", "source", "reducer"] [] place
  let reducer ← requireOneOf reducers (← readAt identifierText obj "reducer" place) (memberAt place "reducer")
    "['any', 'max', 'min', 'p50', 'p95', 'p99', 'rate', 'sum']"
  return ⟨← readAt requireIdentifier obj "metric" place, ← readAt requireIdentifier obj "source" place, reducer⟩

/-- The ordered ids of a suite, as the expectation has them. -/
def orderedIds (obj : List (Str × Json)) (path : Str) (name : String) : Except Exc (List Str) :=
  readAt (strings false) obj name path

def ensureOrder (observed expected : List Str) (path : Str) (label : String) : Except Exc Unit :=
  ensure (observed = expected) path
    (lit "." ++ lit label ++ lit " must exactly match expectation order " ++ tupleRepr expected)

def suiteFields : List String :=
  ["schema_version", "id", "lane_id", "protocol", "runner", "adapter_category", "matrix_ids", "behavior_case_ids",
    "gate_ids", "case_schema", "operations", "metrics", "requirements"]

/-- `load_lane_suite` of a decoded document. -/
def loadLaneSuite (files : SuiteFiles) (path : Str) (raw : Json) (lane : ExpectationLane) : Except Exc LaneSuite := do
  let obj ← record raw suiteFields [] path
  let schemaVersion ← readItem obj "schema_version"
  ensure (schemaVersion = .str (lit "turnvector.benchmark.lane-suite.v1")) path
    (lit ".schema_version must be 'turnvector.benchmark.lane-suite.v1'")
  let laneId ← readAt requireIdentifier obj "lane_id" path
  ensure (laneId = lane.laneId) path (lit ".lane_id must equal " ++ strRepr lane.laneId.val)
  let matrixIds ← orderedIds obj path "matrix_ids"
  let behaviorCaseIds ← orderedIds obj path "behavior_case_ids"
  let gateIds ← orderedIds obj path "gate_ids"
  ensureOrder matrixIds (lane.matrices.items.map (·.matrixId.val)) path "matrix_ids"
  ensureOrder behaviorCaseIds (lane.cases.items.map (·.caseId.val)) path "behavior_case_ids"
  ensureOrder gateIds (lane.gates.items.map (·.gateId.val)) path "gate_ids"
  let protocol ← readAt requireIdentifier obj "protocol" path
  let runner ← readAt requireIdentifier obj "runner" path
  ensure (protocol = lane.harness.protocol && some runner = lane.harness.runner) path
    (lit " protocol/runner does not match expectation harness")
  let adapterCategory ← requireOneOf adapterCategories (← readAt identifierText obj "adapter_category" path)
    (memberAt path "adapter_category") "['core', 'native', 'system']"
  let metrics ← parseItems parseRecipe (← readAt requireArray obj "metrics" path) (memberAt path "metrics")
  ensure (metrics.map (·.metric) = lane.gates.items.map (·.metric)) path
    (lit ".metrics must define one ordered recipe per gate")
  ensure (metrics.map (·.source)).Nodup path (lit ".metrics sources must be unique")
  let place := memberAt path "requirements"
  let requirements ← record (← readItem obj "requirements")
    ["execution_boundary", "real_subject_required", "external_inputs", "diagnostic_only_cases"] [] place
  let executionBoundary ← requireOneOf executionBoundaries
    (← readAt identifierText requirements "execution_boundary" place) (memberAt place "execution_boundary")
    "['benchmark_orchestrated', 'core_adapter', 'direct_data_plane', 'native_adapter']"
  let caseSchemaPath := files.resolve (← readAt requireString obj "case_schema" path)
  ensure (files.isFile caseSchemaPath) path (lit ".case_schema does not exist: " ++ caseSchemaPath)
  validateCaseSchema files caseSchemaPath lane
  let suiteId ← readAt requireIdentifier obj "id" path
  let operations ← readAt (strings false) obj "operations" path
  let realSubjectRequired ← readAt requireBoolean requirements "real_subject_required" place
  let externalInputs ← readAt (strings true) requirements "external_inputs" place
  let diagnosticOnlyCases ← readAt (strings true) requirements "diagnostic_only_cases" place
  return { suiteId, laneId, protocol, runner, adapterCategory, matrixIds, behaviorCaseIds, gateIds, operations, metrics,
           requirements := { executionBoundary, realSubjectRequired, externalInputs, diagnosticOnlyCases } }

/-! ## The case plan -/

/-- The cases of one matrix from an ordinal on. -/
def matrixCases (lane : ExpectationLane) (suite : LaneSuite) (ordinal : Nat) (matrix : Matrix) : List PlannedCase :=
  let names := matrix.dimensions.items.map (·.dimensionId.val)
  let values := matrix.dimensions.items.map (·.values.items)
  (Table.product values).zipIdx.map fun combination =>
    let caseId := Relations.caseId lane.laneId.val matrix.matrixId.val (ordinal + combination.2)
    { caseId, laneId := lane.laneId.val, matrixId := matrix.matrixId.val, ordinal := ordinal + combination.2
      parameters := dictOf (names.zip combination.1), behaviorCaseIds := suite.behaviorCaseIds
      operations := suite.operations, diagnosticOnly := occurs caseId suite.requirements.diagnosticOnlyCases }

/-- The loop of `expand_case_plan`: ordinals run on from one matrix to the next. -/
def plannedCases (lane : ExpectationLane) (suite : LaneSuite) (ordinal : Nat) : List Matrix → List PlannedCase
  | [] => []
  | matrix :: matrices =>
    let cases := matrixCases lane suite ordinal matrix
    cases ++ plannedCases lane suite (ordinal + cases.length) matrices

def lostCombinations (lane : ExpectationLane) : Exc :=
  .contractError (lit "case plan for " ++ strRepr lane.laneId.val ++ lit " lost expectation combinations")

/-- `expand_case_plan` -/
def expandCasePlan (lane : ExpectationLane) (suite : LaneSuite) : Except Exc CasePlan :=
  let cases := plannedCases lane suite 1 lane.matrices.items
  if cases.length ≠ lane.expandedMatrixCaseCount then .error (lostCombinations lane)
  else .ok ⟨lane.laneId.val, suite.suiteId.val, cases⟩

end TurnVector.Lanes
