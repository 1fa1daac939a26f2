import TurnVector.Lanes.BoundedTurn
import TurnVector.Python.Equality

/-! # Performance contracts

The readers, the contract and the case plan of `performance.py`, from a loaded contract on.
-/

namespace TurnVector.Performance

open Python Json
open CrossEngine (PyFloat)
open LaneController (Raised contractError)
open Lanes (Floats Listed demand keyError raised listRepr tupleRepr)

/-! ## Readers -/

/-- `members[name]` -/
def item (members : List (Str × Json)) (name : Str) : Except Raised Json :=
  match members.lookup name with
  | some value => .ok value
  | none => keyError name

/-- `_object` -/
def object (value : Json) (place : Str) : Except Raised (List (Str × Json)) :=
  match value with
  | .obj members => .ok members
  | _ => contractError (place ++ lit " must be an object")

/-- `_array` -/
def array (value : Json) (place : Str) : Except Raised (List Json) :=
  match value with
  | .arr items => .ok items
  | _ => contractError (place ++ lit " must be an array")

/-- `_strict_keys`, without optional ones. -/
def strictKeys (members : List (Str × Json)) (required : List Str) (place : Str) : Except Raised Unit :=
  let keys := members.map Prod.fst
  let sorted := fun names : List Str => join (lit ", ") (names.insertionSort (· ≤ ·))
  let missing := required.filter fun name => !occurs name keys
  let unknown := keys.filter fun key => !occurs key required
  if !missing.isEmpty then contractError (place ++ lit " is missing required fields: " ++ sorted missing)
  else if !unknown.isEmpty then contractError (place ++ lit " has unknown fields: " ++ sorted unknown)
  else .ok ()

/-- `_object`, then `_strict_keys`. -/
def strictObject (value : Json) (required : List Str) (place : Str) : Except Raised (List (Str × Json)) := do
  let members ← object value place
  strictKeys members required place
  return members

/-- `_string` -/
def string (value : Json) (place : Str) : Except Raised Str :=
  match value with
  | .str (c :: text) => .ok (c :: text)
  | _ => contractError (place ++ lit " must be a non-empty string")

/-- `_identifier` -/
def identifier (value : Json) (place : Str) : Except Raised Str := do
  let text ← string value place
  if Canonical.isIdentifier text then return text
  else contractError (place ++ lit " must match ^[a-z0-9][a-z0-9._-]*$")

/-- `_boolean` -/
def boolean (value : Json) (place : Str) : Except Raised Bool :=
  match value with
  | .bool b => .ok b
  | _ => contractError (place ++ lit " must be a boolean")

/-- `float(value)` of a number that is no boolean. -/
def floatOf (floats : Floats) (value : Json) (place : Str) : Except Raised PyFloat :=
  match value with
  | .int n =>
    match floats.ofInt n with
    | some q => .ok (.finite q)
    | none => raised "OverflowError" (lit "int too large to convert to float")
  | .float token => .ok (floats.ofToken token)
  | _ => contractError (place ++ lit " must be a number")

/-- `_number` -/
def number (floats : Floats) (nonnegative : Bool) (value : Json) (place : Str) : Except Raised ℚ := do
  match ← floatOf floats value place with
  | .finite q => if nonnegative && q < 0 then contractError (place ++ lit " must be non-negative") else return q
  | _ => contractError (place ++ lit " must be finite")

/-- `_integer` -/
def integer (minimum : Int) (value : Json) (place : Str) : Except Raised Int :=
  let refused := contractError (place ++ lit " must be an integer greater than or equal to " ++ intText minimum)
  match value with
  | .int n => if n < minimum then refused else .ok n
  | _ => refused

/-- `_digest` -/
def digest (length : Nat) (value : Json) (place : Str) : Except Raised Str := do
  let text ← string value place
  if text.length = length && text.all Canonical.isHex then return text
  else contractError (place ++ lit " must be a lowercase " ++ natText length ++ lit "-character hex digest")

/-- `_strings` -/
def strings (reader : Json → Str → Except Raised Str) (allowEmpty : Bool) (value : Json) (place : Str) :
    Except Raised (List Str) := do
  let items ← array value place
  let parsed ← items.zipIdx.mapM fun entry => reader entry.1 (Canonical.itemAt place entry.2)
  if parsed.isEmpty && !allowEmpty then contractError (place ++ lit " must not be empty")
  else if !decide parsed.Nodup then contractError (place ++ lit " must not contain duplicates")
  else return parsed

/-- A `datetime`: whether it has a timezone, and its instant. -/
structure DateTime where
  aware : Bool
  instant : Int
  deriving DecidableEq

/-- What the standard library computes. -/
structure Library where
  floats : Floats
  fromIsoformat : Str → Option DateTime

/-- `text.replace("Z", "+00:00")` -/
def replaceZulu (text : Str) : Str := text.flatMap fun c => if c = cp 90 then lit "+00:00" else [c]

/-- `_timestamp`, of which the instant is compared. -/
def timestamp (library : Library) (value : Json) (place : Str) : Except Raised Int := do
  let text ← string value place
  match library.fromIsoformat (replaceZulu text) with
  | none => contractError (place ++ lit " must be an RFC 3339 timestamp")
  | some parsed =>
    if parsed.aware then return parsed.instant else contractError (place ++ lit " must include a timezone")

/-- The number that a float's text stands for. -/
def Library.value (library : Library) (token : Str) : Option ℚ :=
  match library.floats.ofToken token with
  | .finite q => some q
  | _ => none

/-- `reader(obj[name], f"{where}.{name}")` -/
def readAt {α : Type} (reader : Json → Str → Except Raised α) (members : List (Str × Json)) (name : String)
    (place : Str) : Except Raised α := do reader (← item members (lit name)) (place ++ lit "." ++ lit name)

/-! ## The contract -/

structure PerformanceDimension where
  dimensionId : Str
  values : List Json
  deriving DecidableEq

structure PerformanceMatrix where
  matrixId : Str
  dimensions : Listed PerformanceDimension (·.dimensionId)
  deriving DecidableEq

def PerformanceMatrix.caseCount (matrix : PerformanceMatrix) : Nat :=
  (matrix.dimensions.items.map (·.values.length)).prod

/-- The cooldown is a float, and given by its text. -/
structure PerformanceProtocol where
  warmupRepetitions : Nat
  measuredRepetitions : Nat
  cooldownSeconds : Str
  processIsolation : Str
  orderPolicy : Str
  cachePolicy : Str
  samplingPolicy : Str
  fixedParameters : List (Str × Json)
  deriving DecidableEq

/-- `as_dict` -/
def PerformanceProtocol.asDict (protocol : PerformanceProtocol) : Json :=
  .obj [(lit "warmup_repetitions", .int protocol.warmupRepetitions),
    (lit "measured_repetitions", .int protocol.measuredRepetitions),
    (lit "cooldown_seconds", .float protocol.cooldownSeconds),
    (lit "process_isolation", .str protocol.processIsolation),
    (lit "order_policy", .str protocol.orderPolicy),
    (lit "cache_policy", .str protocol.cachePolicy),
    (lit "sampling_policy", .str protocol.samplingPolicy),
    (lit "fixed_parameters", .obj protocol.fixedParameters),
    (lit "thresholds_frozen_before_run", .bool true)]

/-- `REDUCERS` -/
inductive Reducer where
  | median
  | p95
  | p99
  | min
  | max
  | sum
  deriving DecidableEq

structure PerformanceMetric where
  metricId : Str
  unit : Str
  reducer : Reducer
  deriving DecidableEq

/-- `GATE_OPERATORS` -/
inductive Operator where
  | eq
  | gte
  | lte
  deriving DecidableEq

/-- `THRESHOLD_SOURCES`, the first with the number that the contract expects. -/
inductive ThresholdSource where
  | benchmarkContract (expected : ℚ)
  | certificationRecord
  deriving DecidableEq

def ThresholdSource.certified : ThresholdSource → Bool
  | benchmarkContract _ => false
  | certificationRecord => true

/-- `GATE_DECISIONS` -/
inductive Decision where
  | evidence
  | promotion
  deriving DecidableEq

def Decision.text : Decision → Str
  | evidence => lit "evidence"
  | promotion => lit "promotion"

structure PerformanceGate where
  gateId : Str
  metric : Str
  operator : Operator
  thresholdSource : ThresholdSource
  decision : Decision
  deriving DecidableEq

/-- `ACTIVATIONS` -/
inductive Activation where
  | core
  | capabilityConditioned
  deriving DecidableEq

structure PerformanceLane where
  laneId : Str
  activation : Activation
  sessionMode : Str
  claimTypes : List Str
  matrices : Listed PerformanceMatrix (·.matrixId)
  protocol : PerformanceProtocol
  metrics : Listed PerformanceMetric (·.metricId)
  gates : Listed PerformanceGate (·.gateId)
  requiredArtifacts : List Str
  claimBoundaries : List Str
  deriving DecidableEq

def PerformanceLane.metricIds (lane : PerformanceLane) : List Str := lane.metrics.items.map (·.metricId)

def PerformanceLane.caseCount (lane : PerformanceLane) : Nat := (lane.matrices.items.map (·.caseCount)).sum

structure HostAdmissionLimits where
  maxLoadAverage1m : ℚ
  maxTopProcessCpuPercent : ℚ

structure PerformanceContract where
  contractId : Str
  sha256 : Str
  sourceRevision : Str
  hostAdmissionLimits : HostAdmissionLimits
  lanes : Listed PerformanceLane (·.laneId)

/-- `ENVIRONMENT_IDENTITY_FIELDS`, which every contract has. -/
def environmentIdentityFields : List Str :=
  ["device_class", "memory_bytes", "os_build", "resolved_runtime_sha256", "subject_binary_sha256",
    "model_manifest_sha256", "prompt_manifest_sha256", "certification_record_sha256"].map lit

/-- `HOST_CONDITION_FIELDS` -/
def hostConditionFields : List Str :=
  ["power_source", "thermal_state_start", "thermal_state_end", "load_average_1m_start", "load_average_1m_end",
    "top_process_cpu_percent_start", "top_process_cpu_percent_end", "host_admission_passed"].map lit

/-- `BENCHMARK_CUSTODY_FIELDS` -/
def benchmarkCustodyFields : List Str := ["host_conditions", "request_timestamps", "raw_trials"].map lit

/-- `COMMON_REQUIRED_ARTIFACTS` -/
def commonRequiredArtifacts : List Str :=
  ["run_manifest", "environment", "raw_trials", "host_samples", "model_manifest", "prompt_manifest",
    "certification_record"].map lit

def PerformanceContract.lane (contract : PerformanceContract) (laneId : Str) : Except Raised PerformanceLane :=
  match contract.lanes.items.find? fun lane => lane.laneId = laneId with
  | some lane => .ok lane
  | none => contractError (lit "performance contract has no lane " ++ strRepr laneId)

/-! ## The case plan -/

structure PlannedPerformanceCase where
  caseId : Str
  laneId : Str
  matrixId : Str
  ordinal : Nat
  parameters : List (Str × Json)
  deriving DecidableEq

/-- The matrices, each with every combination of its values. -/
def PerformanceLane.combinations (lane : PerformanceLane) : List (PerformanceMatrix × List Json) :=
  lane.matrices.items.flatMap fun matrix =>
    (Table.product (matrix.dimensions.items.map (·.values))).map fun combination => (matrix, combination)

def plannedCase (lane : PerformanceLane) (place : (PerformanceMatrix × List Json) × Nat) : PlannedPerformanceCase where
  caseId := Relations.caseId lane.laneId place.1.1.matrixId place.2
  laneId := lane.laneId
  matrixId := place.1.1.matrixId
  ordinal := place.2
  parameters := dictOf ((place.1.1.dimensions.items.map (·.dimensionId)).zip place.1.2)

def PerformanceLane.cases (lane : PerformanceLane) : List PlannedPerformanceCase :=
  (lane.combinations.zipIdx 1).map (plannedCase lane)

/-- `case_plan` -/
def PerformanceContract.casePlan (contract : PerformanceContract) (laneId : Str) :
    Except Raised (List PlannedPerformanceCase) := do
  let lane ← contract.lane laneId
  if lane.cases.length = lane.caseCount then return lane.cases
  else contractError (lit "case plan for " ++ strRepr laneId ++ lit " lost matrix combinations")

/-! ## What a plan holds -/

theorem cases_length (lane : PerformanceLane) : lane.cases.length = lane.caseCount := by
  unfold PerformanceLane.cases PerformanceLane.combinations PerformanceLane.caseCount
  rw [List.length_map, List.length_zipIdx, List.length_flatMap]
  congr 1
  apply List.map_congr_left
  intro matrix _
  rw [List.length_map, Table.product_length, List.map_map]
  rfl

theorem casePlan_ok {contract : PerformanceContract} {laneId : Str} {lane : PerformanceLane}
    (h : contract.lane laneId = .ok lane) : contract.casePlan laneId = .ok lane.cases := by
  simp only [PerformanceContract.casePlan, h, cases_length]
  rfl

theorem cases_ids (lane : PerformanceLane) : (lane.cases.map (·.caseId)).Nodup := by
  apply List.Nodup.of_map Relations.ordinalOf
  have hordinals : (lane.cases.map (·.caseId)).map Relations.ordinalOf = List.range' 1 lane.combinations.length := by
    unfold PerformanceLane.cases
    rw [List.map_map, List.map_map, ← List.zipIdx_map_snd 1]
    apply List.map_congr_left
    intro place _
    exact Relations.ordinalOf_caseId _ _ _
  rw [hordinals]
  exact List.nodup_range'

end TurnVector.Performance
