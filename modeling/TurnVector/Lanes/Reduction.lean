import TurnVector.CrossEngine.Metrics
import TurnVector.LaneController.Provenance
import TurnVector.Lanes.Suite

/-! # Metrics and gates

The reducers and the gate evaluation of `lane_runner.py`. What binary64 computes is a parameter.
-/

namespace TurnVector.Lanes

open Python Json
open CrossEngine (PyFloat)
open LaneController (Raised contractError)

/-! ## Numbers -/

/-- The operations of floats. -/
structure Floats where
  ofInt : Int → Option ℚ
  ofToken : Str → PyFloat
  ofText : Str → Option PyFloat
  literal : ℚ → PyFloat
  add : PyFloat → PyFloat → PyFloat
  sub : PyFloat → PyFloat → PyFloat
  mul : PyFloat → PyFloat → PyFloat
  div : PyFloat → PyFloat → PyFloat
  sum : List ℚ → PyFloat

/-- What a reducer returns. -/
inductive Metric where
  | bool (b : Bool)
  | int (n : Int)
  | float (value : PyFloat)
  deriving DecidableEq

variable (floats : Floats)

def overflow {α : Type} : Except Raised α := .error ⟨.exception, lit "int too large to convert to float"⟩

/-- `_number` -/
def number (value : Json) (place : Str) : Except Raised ℚ :=
  match value with
  | .int n =>
    match floats.ofInt n with
    | some q => .ok q
    | none => overflow
  | .float token =>
    match floats.ofToken token with
    | .finite q => .ok q
    | _ => contractError (place ++ lit " must be finite")
  | _ => contractError (place ++ lit " must be numeric")

/-- `value.is_integer()` of a finite float. -/
def isInteger (q : ℚ) : Bool := q.den = 1

/-- `_percentile` of samples that are finite. Its position is a float; flooring it gives an index. -/
def percentile (samples : List ℚ) (share : ℚ) : Except Raised PyFloat :=
  let ordered := samples.insertionSort (· ≤ ·)
  match ordered with
  | [] => contractError (lit "percentile reducer received no samples")
  | [only] => .ok (.finite only)
  | _ =>
    match floats.mul (.finite (ordered.length - 1)) (floats.literal share) with
    | .finite position =>
      let lower := ⌊position⌋.toNat
      let upper := ⌈position⌉.toNat
      let at_ := fun index => PyFloat.finite (ordered.getD index 0)
      if lower = upper then .ok (at_ lower)
      else
        let weight := floats.sub (.finite position) (.finite lower)
        .ok (floats.add (floats.mul (at_ lower) (floats.sub (.finite 1) weight)) (floats.mul (at_ upper) weight))
    | _ => overflow

/-! ## Reducers -/

def sourceText (recipe : MetricRecipe) : Str := lit "metric source " ++ strRepr recipe.source.val

def numbers (values : List Json) (place : Str) : Except Raised (List ℚ) :=
  values.zipIdx.mapM fun value => number floats value.1 (Canonical.itemAt place value.2)

/-- Reducer `any`. -/
def reduceAny (values : List Json) (place : Str) : Except Raised Metric :=
  match values.mapM (fun | .bool b => some b | _ => none) with
  | some flags => .ok (.bool (flags.any id))
  | none => contractError (place ++ lit " must contain booleans for reducer any")

def rateMembers (value : Json) (place : Str) : Except Raised (Json × Json) :=
  let rejected := contractError (place ++ lit " must contain exactly operations and seconds")
  match value with
  | .obj members =>
    match members.lookup (lit "operations"), members.lookup (lit "seconds") with
    | some operations, some seconds => if members.length = 2 then .ok (operations, seconds) else rejected
    | _, _ => rejected
  | _ => rejected

def addRate (totals : PyFloat × PyFloat) (value : Json) (place : Str) : Except Raised (PyFloat × PyFloat) := do
  let (operations, seconds) ← rateMembers value place
  let operations ← number floats operations (place ++ lit ".operations")
  let seconds ← number floats seconds (place ++ lit ".seconds")
  return (floats.add totals.1 (.finite operations), floats.add totals.2 (.finite seconds))

/-- Reducer `rate`. -/
def reduceRate (values : List Json) (place : Str) : Except Raised Metric := do
  let totals ← values.zipIdx.foldlM (fun totals value => addRate floats totals value.1 (Canonical.itemAt place value.2))
    (.finite 0, .finite 0)
  let positive := match totals.2 with
    | .finite q => 0 < q
    | .infinite negative => !negative
    | .nan => true
  if totals.1.below 0 || !positive then
    contractError (place ++ lit " rate totals must have operations >= 0 and seconds > 0")
  else .ok (.float (floats.div totals.1 totals.2))

def sampleArray (value : Json) (place : Str) : Except Raised (List ℚ) :=
  match value with
  | .arr (sample :: samples) => numbers floats (sample :: samples) place
  | _ => contractError (place ++ lit " must be a non-empty sample array")

/-- Reducers `p50`, `p95` and `p99`. -/
def reducePercentile (share : ℚ) (values : List Json) (place : Str) : Except Raised Metric := do
  let samples ← values.zipIdx.mapM fun value => sampleArray floats value.1 (Canonical.itemAt place value.2)
  return .float (← percentile floats samples.flatten share)

/-- The last lines of `reduce_observations`: a whole result of whole numbers is an integer. -/
def settleNumber (numbers : List ℚ) (result : PyFloat) : Metric :=
  match result with
  | .finite q => if numbers.all isInteger && isInteger q then .int q.num else .float result
  | _ => .float result

/-- Reducers `sum`, `max` and `min`. -/
def reduceNumbers (combine : List ℚ → PyFloat) (values : List Json) (place : Str) : Except Raised Metric := do
  let found ← numbers floats values place
  return settleNumber found (combine found)

def greatest (numbers : List ℚ) : PyFloat := .finite (numbers.tail.foldl max (numbers.headD 0))

def least (numbers : List ℚ) : PyFloat := .finite (numbers.tail.foldl min (numbers.headD 0))

/-- `reduce_observations` -/
def reduceObservations (recipe : MetricRecipe) (values : List Json) : Except Raised Metric :=
  let place := sourceText recipe
  if values.isEmpty then contractError (place ++ lit " has no qualification observations")
  else match recipe.reducer with
    | .any => reduceAny values place
    | .rate => reduceRate floats values place
    | .p50 => reducePercentile floats (1 / 2) values place
    | .p95 => reducePercentile floats (95 / 100) values place
    | .p99 => reducePercentile floats (99 / 100) values place
    | .sum => reduceNumbers floats floats.sum values place
    | .max => reduceNumbers floats greatest values place
    | .min => reduceNumbers floats least values place

/-! ## Gates -/

/-- The exact number that a value is, when it is one. -/
def exactNumber : Json → Option PyFloat
  | .bool b => some (.finite (if b then 1 else 0))
  | .int n => some (.finite n)
  | .float token => some (floats.ofToken token)
  | _ => none

def Metric.exact : Metric → PyFloat
  | .bool b => .finite (if b then 1 else 0)
  | .int n => .finite n
  | .float value => value

def sameFloat : PyFloat → PyFloat → Bool
  | .finite p, .finite q => p = q
  | .infinite a, .infinite b => a = b
  | _, _ => false

/-- `float(value)` where it is finite. -/
def finiteOf : PyFloat → Option ℚ
  | .finite q => some q
  | _ => none

def floatOfMetric : Metric → Except Raised (Option ℚ)
  | .bool b => .ok (some (if b then 1 else 0))
  | .int n =>
    match floats.ofInt n with
    | some q => .ok (some q)
    | none => overflow
  | .float value => .ok (finiteOf value)

/-- `float(expected)`: a text may name a float, and no other value that is not a number does. -/
def floatOfJson : Json → Except Raised (Option ℚ)
  | .int n =>
    match floats.ofInt n with
    | some q => .ok (some q)
    | none => overflow
  | .float token => .ok (finiteOf (floats.ofToken token))
  | .str text => .ok ((floats.ofText text).bind finiteOf)
  | _ => .ok none

def compareNumbers (holds : ℚ → ℚ → Bool) (observed : Metric) (expected : Json) : Except Raised Bool := do
  match ← floatOfMetric floats observed, ← floatOfJson floats expected with
  | some p, some q => return holds p q
  | _, _ => return false

/-- `_gate_passed` -/
def gatePassed (operator : Operator) (observed : Metric) (expected : Json) : Except Raised Bool :=
  match operator, observed, expected with
  | .present, _, _ => .ok true
  | .eq, .bool b, .bool c => .ok (b = c)
  | _, .bool _, _ | _, _, .bool _ => .ok false
  | .eq, observed, expected =>
    .ok (match exactNumber floats expected with
      | some value => sameFloat observed.exact value
      | none => false)
  | .lte, observed, expected => compareNumbers floats (fun p q => p ≤ q) observed expected
  | .gte, observed, expected => compareNumbers floats (fun p q => q ≤ p) observed expected

structure GateResult where
  gateId : Str
  metric : Str
  operator : Operator
  expected : Json
  observed : Metric
  unit : Str
  thresholdSource : ThresholdSource
  passed : Bool
  deriving DecidableEq

def evaluateGate (metrics : List (Str × Metric)) (frozenThresholds : List (Str × Json)) (gate : Gate) :
    Except Raised GateResult :=
  match metrics.lookup gate.metric.val, frozenThresholds.lookup gate.metric.val with
  | some observed, some expected => do
    let passed ← gatePassed floats gate.operator observed expected
    return { gateId := gate.gateId.val, metric := gate.metric.val, operator := gate.operator, expected, observed
             unit := gate.unit.val, thresholdSource := gate.thresholdSource, passed }
  | none, _ => contractError (lit "metric " ++ strRepr gate.metric.val ++ lit " is missing before gate evaluation")
  | _, none => .error ⟨.exception, strRepr gate.metric.val⟩

/-- `evaluate_gates` -/
def evaluateGates (lane : ExpectationLane) (metrics : List (Str × Metric)) (frozenThresholds : List (Str × Json)) :
    Except Raised (List GateResult) :=
  if sameSet (frozenThresholds.map Prod.fst) (lane.gates.items.map (·.metric.val)) then
    lane.gates.items.mapM (evaluateGate floats metrics frozenThresholds)
  else contractError (lit "frozen thresholds for lane " ++ strRepr lane.laneId.val ++
    lit " must exactly match gate metrics")

end TurnVector.Lanes
