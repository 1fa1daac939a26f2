import TurnVector.Canonical.Require
import TurnVector.Python.Value

/-! # The lifecycle judge

`gateway_validation/lifecycle.py`: one row of the lifecycle trace against its planned case.
-/

namespace TurnVector.GatewayValidation

open Python Json Canonical

/-! ## The contract -/

/-- The event kinds that every contract lists. -/
inductive EventKind where
  | exchangeReserved
  | requestAccepted
  | backendOwnershipAcquired
  | outputProductionStarted
  | backpressureEntered
  | deadlineExpired
  | clientDisconnected
  | cancelOrdered
  | terminalObserved
  | requestStateReleaseAccepted
  | peerRequestProgress
  | httpLastByteCommitted
  | responseClosed
  deriving DecidableEq

def EventKind.name : EventKind → String
  | .exchangeReserved => "exchange_reserved"
  | .requestAccepted => "request_accepted"
  | .backendOwnershipAcquired => "backend_ownership_acquired"
  | .outputProductionStarted => "output_production_started"
  | .backpressureEntered => "backpressure_entered"
  | .deadlineExpired => "deadline_expired"
  | .clientDisconnected => "client_disconnected"
  | .cancelOrdered => "cancel_ordered"
  | .terminalObserved => "terminal_observed"
  | .requestStateReleaseAccepted => "request_state_release_accepted"
  | .peerRequestProgress => "peer_request_progress"
  | .httpLastByteCommitted => "http_last_byte_committed"
  | .responseClosed => "response_closed"

/-- `EXPECTED_EVENT_KINDS` -/
def expectedEventKinds : List EventKind :=
  [.exchangeReserved, .requestAccepted, .backendOwnershipAcquired, .outputProductionStarted, .backpressureEntered,
   .deadlineExpired, .clientDisconnected, .cancelOrdered, .terminalObserved, .requestStateReleaseAccepted,
   .peerRequestProgress, .httpLastByteCommitted, .responseClosed]

/-- `EXPECTED_COUNTER_IDS` -/
def expectedCounterIds : List String :=
  ["device_executor_socket_waits", "unreserved_output_publications", "capacity_overruns", "duplicate_outputs",
   "replays", "retries", "resumes", "ownership_transfers", "backend_leaks", "gateway_resource_leaks"]

/-- The outcomes in the cases of every contract: `load` admits no other, so `_validate_outcome` never raises. -/
inductive ExpectedOutcome where
  | complete
  | boundedClose
  | boundedCancel
  | disconnectCancel
  deriving DecidableEq

structure LifecycleCase where
  caseId : Str
  expectedOutcome : ExpectedOutcome
  requiresDecoupling : Bool
  requiresPeerProgress : Bool

/-- `LIMIT_FIELDS` -/
structure Limits where
  httpWriteNoProgressNs : Nat
  httpWriteTotalNs : Nat
  cancellationCompletionNs : Nat

/-! ## A row of the trace -/

inductive Role where
  | a
  | b
  deriving DecidableEq

structure Event where
  role : Role
  kind : EventKind
  atNs : Nat
  deriving DecidableEq

structure Queue where
  capacityBytes : Nat
  initialOccupancyBytes : Nat
  producerBytesPerSecond : Nat
  consumerBytesPerSecond : Nat
  peakOccupancyBytes : Nat
  deriving DecidableEq

/-- The events of a row in the order of their sequence, its counters and its queue. -/
structure Trace where
  events : List Event
  counters : List (Str × Nat)
  queue : Queue
  deriving DecidableEq

/-- `_integer` with minimum 0. -/
def requireInteger (value : Json) (place : Str) : Except Exc Nat :=
  match value with
  | .int (.ofNat n) => .ok n
  | _ => reject place " must be an integer greater than or equal to 0"

def parseRole (value : Json) (place : Str) : Except Exc Role := do
  let role ← requireIdentifier value place
  if role.1 = lit "a" then .ok .a else if role.1 = lit "b" then .ok .b else reject place " must be a or b"

def parseKind (value : Json) (place : Str) : Except Exc EventKind := do
  let kind ← requireIdentifier value place
  match expectedEventKinds.find? fun expected => lit expected.name = kind.1 with
  | some kind => .ok kind
  | none => reject place " is not allowed by the contract"

def parseTime (priorTime : Int) (value : Json) (place : Str) : Except Exc Nat := do
  let atNs ← requireInteger value place
  if (atNs : Int) < priorTime then reject place " must be monotonic" else .ok atNs

def parseEvent (place : Str) (sequence : Nat) (priorTime : Int) (raw : Json) : Except Exc Event := do
  let event ← requireRecord raw ["sequence", "request_role", "kind", "at_ns"] place
  let declared ← readItem event "sequence"
  if !declared.isCount sequence then reject place ".sequence must preserve event order"
  else do
    let role ← parseRole (← readItem event "request_role") (place ++ lit ".request_role")
    let kind ← parseKind (← readItem event "kind") (place ++ lit ".kind")
    let atNs ← parseTime priorTime (← readItem event "at_ns") (place ++ lit ".at_ns")
    return { role, kind, atNs }

/-- The events from a sequence number and a time on. -/
def parseEvents (place : Str) : Nat → Int → List Json → Except Exc (List Event)
  | _, _, [] => .ok []
  | sequence, priorTime, raw :: rest => do
    let event ← parseEvent (place ++ lit ".events[" ++ natText sequence ++ lit "]") sequence priorTime raw
    let events ← parseEvents place (sequence + 1) event.atNs rest
    return event :: events

def parseCounters (value : Json) (place : Str) : Except Exc (List (Str × Nat)) := do
  let counters ← requireRecord value expectedCounterIds place
  expectedCounterIds.mapM fun counterId => do
    let count ← requireInteger (← readItem counters counterId) (place ++ lit "." ++ lit counterId)
    return (lit counterId, count)

def parseQueue (value : Json) (place : Str) : Except Exc Queue := do
  let queue ← requireRecord value ["capacity_bytes", "initial_occupancy_bytes", "producer_bytes_per_second",
    "consumer_bytes_per_second", "peak_occupancy_bytes"] place
  let count := fun name => do requireInteger (← readItem queue name) (place ++ lit "." ++ lit name)
  let capacityBytes ← count "capacity_bytes"
  let initialOccupancyBytes ← count "initial_occupancy_bytes"
  let producerBytesPerSecond ← count "producer_bytes_per_second"
  let consumerBytesPerSecond ← count "consumer_bytes_per_second"
  let peakOccupancyBytes ← count "peak_occupancy_bytes"
  if capacityBytes = 0 then reject place ".capacity_bytes must be positive"
  else return { capacityBytes, initialOccupancyBytes, producerBytesPerSecond, consumerBytesPerSecond,
                peakOccupancyBytes }

/-- The first half of `_validate_case`. -/
def parseTrace (raw : Json) (planned : LifecycleCase) (index : Nat) : Except Exc Trace := do
  let place := lit "lifecycle_trace[" ++ natText index ++ lit "]"
  let row ← requireRecord raw ["case_id", "events", "counters", "queue"] place
  let caseId ← readItem row "case_id"
  if caseId ≠ .str planned.caseId then reject place ".case_id does not preserve the lifecycle CasePlan"
  else do
    let events ← parseEvents place 0 (-1) (← requireArray (← readItem row "events") (place ++ lit ".events"))
    let counters ← parseCounters (← readItem row "counters") (place ++ lit ".counters")
    let queue ← parseQueue (← readItem row "queue") (place ++ lit ".queue")
    return { events, counters, queue }

/-! ## The judge -/

/-- `_event_times` -/
def eventTimes (events : List Event) (kind : EventKind) (role : Role) : List Nat :=
  (events.filter fun event => event.kind = kind ∧ event.role = role).map (·.atNs)

/-- `_first_time` of request a. -/
def firstTime (events : List Event) (kind : EventKind) : Option Nat := (eventTimes events kind .a).head?

/-- `_ordered` -/
def ordered (values : List (Option Nat)) : Bool :=
  values.all (·.isSome) && (values.zip values.tail).all fun pair => pair.1.getD 0 ≤ pair.2.getD 0

/-- `_require_once` -/
def requireOnce (events : List Event) (kinds : List EventKind) : List Str :=
  (kinds.filter fun kind => (eventTimes events kind .a).length ≠ 1).map fun kind => lit "event_count:" ++ lit kind.name

/-- `_duration` -/
def duration (times : EventKind → Option Nat) (start stop : EventKind) : Nat :=
  match times start, times stop with
  | some startValue, some endValue => if endValue < startValue then 0 else endValue - startValue
  | _, _ => 0

/-- `if condition: violations.append(text)` -/
def violation (condition : Bool) (text : String) : List Str := if condition then [lit text] else []

/-- The events that must occur in every case, in this order. -/
def requiredOnce : List EventKind :=
  [.exchangeReserved, .requestAccepted, .backendOwnershipAcquired, .outputProductionStarted, .terminalObserved,
   .requestStateReleaseAccepted, .responseClosed]

def completeOrder : List EventKind := [.terminalObserved, .httpLastByteCommitted, .responseClosed]

def boundedCloseOrder : List EventKind := [.backpressureEntered, .deadlineExpired, .responseClosed]

def boundedCancelOrder : List EventKind :=
  [.backpressureEntered, .deadlineExpired, .cancelOrdered, .terminalObserved, .requestStateReleaseAccepted,
   .responseClosed]

def disconnectCancelOrder : List EventKind :=
  [.clientDisconnected, .cancelOrdered, .terminalObserved, .requestStateReleaseAccepted, .responseClosed]

/-- `_validate_outcome` -/
def validateOutcome (planned : LifecycleCase) (events : List Event) (times : EventKind → Option Nat)
    (limits : Limits) : List Str :=
  match planned.expectedOutcome with
  | .complete =>
    requireOnce events [.httpLastByteCommitted] ++
      violation (!ordered (completeOrder.map times)) "complete_response_order"
  | .boundedClose =>
    requireOnce events [.backpressureEntered, .deadlineExpired] ++
      violation (!ordered (boundedCloseOrder.map times)) "bounded_close_order" ++
      violation (duration times .backpressureEntered .responseClosed > limits.httpWriteTotalNs)
        "bounded_close_deadline" ++
      violation (duration times .backpressureEntered .deadlineExpired > limits.httpWriteNoProgressNs)
        "write_no_progress_deadline"
  | .boundedCancel =>
    requireOnce events [.backpressureEntered, .deadlineExpired, .cancelOrdered] ++
      violation (!ordered (boundedCancelOrder.map times)) "bounded_cancel_order" ++
      violation (duration times .backpressureEntered .responseClosed >
        limits.httpWriteTotalNs + limits.cancellationCompletionNs) "bounded_cancel_deadline" ++
      violation (duration times .backpressureEntered .deadlineExpired > limits.httpWriteNoProgressNs)
        "write_no_progress_deadline"
  | .disconnectCancel =>
    requireOnce events [.clientDisconnected, .cancelOrdered] ++
      violation (!ordered (disconnectCancelOrder.map times)) "disconnect_cancel_order" ++
      violation (duration times .clientDisconnected .requestStateReleaseAccepted > limits.cancellationCompletionNs)
        "disconnect_cancel_deadline"

def decouplingViolations (planned : LifecycleCase) (release close : Option Nat) : List Str :=
  match release, close with
  | some release, some close =>
    violation (planned.requiresDecoupling && release ≥ close) "backend_response_lifetime_not_decoupled"
  | _, _ => violation planned.requiresDecoupling "backend_response_lifetime_not_decoupled"

def peerViolations (planned : LifecycleCase) (events : List Event) (release close : Option Nat) : List Str :=
  match release, close with
  | some release, some close =>
    violation (planned.requiresPeerProgress &&
      !(eventTimes events .peerRequestProgress .b).any fun peer => release < peer && peer < close)
      "peer_progress_missing_from_response_tail"
  | _, _ => violation planned.requiresPeerProgress "peer_progress_missing_from_response_tail"

def violationsOf (planned : LifecycleCase) (limits : Limits) (trace : Trace) : List Str :=
  let times := firstTime trace.events
  ((trace.counters.filter fun counter => counter.2 ≠ 0).map fun counter => lit "counter_nonzero:" ++ counter.1) ++
    violation (trace.queue.initialOccupancyBytes > trace.queue.capacityBytes)
      "initial_queue_occupancy_exceeds_capacity" ++
    violation (trace.queue.peakOccupancyBytes > trace.queue.capacityBytes) "peak_queue_occupancy_exceeds_capacity" ++
    requireOnce trace.events requiredOnce ++
    violation (!ordered (requiredOnce.map times)) "base_lifecycle_order" ++
    validateOutcome planned trace.events times limits ++
    decouplingViolations planned (times .requestStateReleaseAccepted) (times .responseClosed) ++
    peerViolations planned trace.events (times .requestStateReleaseAccepted) (times .responseClosed)

structure Metrics where
  backendNs : Option Int
  tailNs : Option Int
  responseNs : Option Int
  peakQueueBytes : Nat
  predictedFillNs : Option ℚ
  observedFillNs : Option Int
  deriving DecidableEq

/-- `stop - start`, when both are there. -/
def difference (stop start : Option Nat) : Option Int := do return ((← stop) : Int) - (← start)

def metricsOf (trace : Trace) : Metrics :=
  let times := firstTime trace.events
  let queue := trace.queue
  { backendNs := difference (times .requestStateReleaseAccepted) (times .backendOwnershipAcquired)
    tailNs := (difference (times .responseClosed) (times .requestStateReleaseAccepted)).map (max 0)
    responseNs := difference (times .responseClosed) (times .exchangeReserved)
    peakQueueBytes := queue.peakOccupancyBytes
    predictedFillNs :=
      if queue.producerBytesPerSecond > queue.consumerBytesPerSecond then
        some (((queue.capacityBytes - queue.initialOccupancyBytes) * 1000000000 : Nat) /
          ((queue.producerBytesPerSecond - queue.consumerBytesPerSecond : Nat) : ℚ))
      else none
    observedFillNs := difference (times .backpressureEntered) (times .outputProductionStarted) }

structure Report where
  caseId : Str
  status : Str
  violations : List Str
  metrics : Metrics
  deriving DecidableEq

/-- `_validate_case`: the report, and its violations under the name of the case. -/
def validateCase (raw : Json) (planned : LifecycleCase) (limits : Limits) (index : Nat) :
    Except Exc (Report × List Str) := do
  let trace ← parseTrace raw planned index
  let violations := violationsOf planned limits trace
  let report : Report :=
    { caseId := planned.caseId
      status := if violations.isEmpty then lit "passed" else lit "failed"
      violations
      metrics := metricsOf trace }
  return (report, violations.map fun violation => planned.caseId ++ lit ":" ++ violation)

end TurnVector.GatewayValidation
