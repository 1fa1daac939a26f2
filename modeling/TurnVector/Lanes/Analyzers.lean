import TurnVector.DataPlane.Generation
import TurnVector.Lanes.OracleReaders

/-! # Judging raw evidence

The oracles of `lane_oracles.py`, and `analyze_lane_evidence`, which finds the oracle of a lane.
-/

namespace TurnVector.Lanes

open Python Json
open CrossEngine (PyFloat)
open LaneController (Raised contractError)
open Canonical (itemAt)
open DataPlane (ClientEvent)

/-- What stands in the dict that an oracle returns. -/
inductive Observation where
  | count (n : Nat)
  | bool (b : Bool)
  | float (value : PyFloat)
  | floats (values : List PyFloat)
  | work (operations seconds : ℚ)
  deriving DecidableEq

abbrev Metrics := List (Str × Observation)

abbrev Evidence := List (List (Str × Json))

def within (lane name : String) : Str := lit lane ++ lit "." ++ lit name

def finites (samples : List ℚ) : List PyFloat := samples.map PyFloat.finite

variable (floats : OracleFloats)

/-- `value["left"] != value["right"]` of a dict with these two keys. -/
def differ (left right : String) (raw : Json) (place : Str) : Except Raised Bool := do
  let pair ← oracleFields raw [left, right] place
  return !equalJson floats (pair.get left) (pair.get right)

/-- `parameters.get(name) == text` -/
def parameterIs (parameters : List (Str × Json)) (name text : String) : Bool :=
  parameters.lookup (lit name) = some (.str (lit text))

def CoreCounters.metrics (counters : CoreCounters) : Metrics :=
  [(lit "replay_hash_mismatches", .count counters.replayHashMismatches),
    (lit "committed_invariant_violations", .count counters.committedInvariantViolations),
    (lit "failed_transition_effects", .count counters.failedTransitionEffects)]

/-- The number that a float's text stands for in `==`, and none for a NaN. -/
def equalValue (token : Str) : Option ℚ := if floats.ofToken token = .nan then none else itemValue floats token

/-! ## Scheduler performance -/

abbrev schedulerKeys : List String :=
  ["plan_pairs", "decision_latency_us", "decision_work", "driver_ipc_included"]

abbrev workKeys : List String := ["operations", "seconds"]

/-- `scheduler_performance` -/
def schedulerPerformance (evidence : Evidence) (close : List (Str × Json)) : Except Raised Metrics := do
  let lane := "scheduler-performance"
  emptyClose close lane
  let value ← oracleFields (← oracleRecord evidence lane) schedulerKeys (lit lane)
  let mismatches ← eachItem (value.get "plan_pairs") (within lane "plan_pairs") fun pair index =>
    differ floats "expected" "observed" pair (itemAt (within lane "plan_pairs") index)
  let samples ← eachItem (value.get "decision_latency_us") (within lane "decision_latency_us") fun item index =>
    number floats.toFloats item (itemAt (within lane "decision_latency_us") index)
  let work ← oracleFields (value.get "decision_work") workKeys (within lane "decision_work")
  let operations ← number floats.toFloats (work.get "operations") (within lane "decision_work.operations")
  let seconds ← number floats.toFloats (work.get "seconds") (within lane "decision_work.seconds")
  let observed ← oracleBoolean (value.get "driver_ipc_included") (within lane "driver_ipc_included")
  return [(lit "performance_plan_mismatches", .count (countTrue mismatches)),
    (lit "decision_latency_samples_us", .floats (finites samples)),
    (lit "decision_work", .work operations seconds),
    (lit "driver_ipc_observed", .bool observed)]

/-! ## Request serving -/

abbrev servingKeys : List String :=
  ["lifecycle", "outputs", "client_event", "acceptance_reserved", "acceptance_backend_handle",
    "cancellation_commit_sequence", "receipt_commit_sequence", "disconnect_observed",
    "backpressure_timeout_observed", "terminal_status_emitted"]

abbrev outputKeys : List String := ["publication_id", "sequence", "reserved"]

def lifecycleStates : List Str :=
  [lit "accepted", lit "preparing", lit "warming", lit "admitted", lit "materialized", lit "queued", lit "running",
    lit "terminal"]

/-- `order` -/
def lifecycleOrder : List (Str × Nat) := lifecycleStates.zipIdx

/-- The loop over the states: a state that is unknown or comes late leaves `previous` as it is. -/
def orderFaults (previous : Int) : List (Option Nat) → Nat
  | [] => 0
  | none :: ranks => 1 + orderFaults previous ranks
  | some current :: ranks =>
    if (current : Int) < previous then 1 + orderFaults previous ranks else orderFaults current ranks

def startFaults (lifecycle : List Json) : Nat := if lifecycle.head? = some (.str (lit "accepted")) then 0 else 1

def materializedFaults (lifecycle : List Json) : Nat :=
  let materialized := Json.str (lit "materialized")
  let admitted := Json.str (lit "admitted")
  if materialized ∈ lifecycle ∧ (admitted ∉ lifecycle ∨ lifecycle.idxOf materialized < lifecycle.idxOf admitted)
  then 1 else 0

/-- `illegal` -/
def illegalTransitions (lifecycle : List Json) (ranks : List (Option Nat)) (reserved handle : Bool) : Nat :=
  startFaults lifecycle + orderFaults (-1) ranks + materializedFaults lifecycle + reserved.toNat + handle.toNat

/-- What an oracle keeps of an output. -/
structure Publication where
  publicationId : Json
  sequence : Json
  reserved : Bool

def outputId (output : Fields outputKeys) : Json := output.get "publication_id"

def outputSequence (output : Fields outputKeys) : Json := output.get "sequence"

def outputReserved (output : Fields outputKeys) : Json := output.get "reserved"

def readPublication (raw : Json) (place : Str) : Except Raised Publication := do
  let output ← oracleFields raw outputKeys place
  let reserved ← oracleBoolean (outputReserved output) (place ++ lit ".reserved")
  return ⟨outputId output, outputSequence output, reserved⟩

def samePublication (p q : Publication) : Bool :=
  sameItem floats p.publicationId q.publicationId && sameItem floats p.sequence q.sequence

/-- `set(publications)` hashes both items of each tuple. -/
def hashPublications (publications : List Publication) : Except Raised (List Unit) :=
  publications.mapM fun publication => do
    hashed publication.publicationId
    hashed publication.sequence

def duplicatePublications (publications : List Publication) : Nat :=
  publications.length - distinctCount (samePublication floats) publications

/-- `int(not terminal_emitted or "terminal" not in lifecycle)` -/
def missingTerminal (lifecycle : List Json) (emitted : Bool) : Nat :=
  if emitted = false ∨ Json.str (lit "terminal") ∉ lifecycle then 1 else 0

/-- `sequence(name)` -/
def commitSequence (raw : Json) (place : Str) : Except Raised (Option Int) :=
  if raw = .null then .ok none
  else do
    let parsed ← number floats.toFloats raw place
    demand (0 < parsed && isInteger parsed) (place ++ lit " must be a positive integer or null")
    return some parsed.num

def reaches (later earlier : Option Int) : Bool :=
  match later, earlier with
  | some m, some n => n ≤ m
  | _, _ => false

def eventText : ClientEvent → Str
  | .none => lit "none"
  | .cancelBeforeReceipt => lit "cancel_before_receipt"
  | .cancelAfterReceipt => lit "cancel_after_receipt"
  | .disconnect => lit "disconnect"
  | .backpressureTimeout => lit "backpressure_timeout"

def clientEvents : List ClientEvent :=
  [.none, .cancelBeforeReceipt, .cancelAfterReceipt, .disconnect, .backpressureTimeout]

def clientEvent? (value : Json) : Option ClientEvent := clientEvents.find? fun event => value = .str (eventText event)

/-- Whether the evidence violates what the client did. -/
def eventViolated (event : ClientEvent) (cancellation receipt : Option Int) (disconnect backpressure : Bool) : Bool :=
  match event with
  | .none => cancellation.isSome || disconnect || backpressure
  | .cancelBeforeReceipt => cancellation.isNone || reaches cancellation receipt || disconnect || backpressure
  | .cancelAfterReceipt =>
    cancellation.isNone || receipt.isNone || reaches receipt cancellation || disconnect || backpressure
  | .disconnect => cancellation.isNone || !disconnect || backpressure
  | .backpressureTimeout => cancellation.isNone || !disconnect || !backpressure

structure ServingCounters where
  illegalLifecycleTransitions : Nat
  duplicateOutputPublications : Nat
  unreservedOutputPublications : Nat
  missingTerminalStatus : Nat
  clientEventViolations : Nat
  deriving DecidableEq

def ServingCounters.metrics (counters : ServingCounters) : Metrics :=
  [(lit "illegal_lifecycle_transitions", .count counters.illegalLifecycleTransitions),
    (lit "duplicate_output_publications", .count counters.duplicateOutputPublications),
    (lit "unreserved_output_publications", .count counters.unreservedOutputPublications),
    (lit "missing_terminal_status", .count counters.missingTerminalStatus),
    (lit "client_event_violations", .count counters.clientEventViolations)]

/-- `request_serving` -/
def requestServing (parameters : List (Str × Json)) (evidence : Evidence) (close : List (Str × Json)) :
    Except Raised ServingCounters := do
  let lane := "request-serving-lifecycle"
  emptyClose close lane
  let value ← oracleFields (← oracleRecord evidence lane) servingKeys (lit lane)
  demand (equalJson floats (value.get "client_event") ((parameters.lookup (lit "client_event")).getD .null))
    (within lane "client_event differs from the CasePlan")
  let lifecycle ← oracleList (value.get "lifecycle") (within lane "lifecycle")
  let ranks ← lifecycle.mapM (namedBy lifecycleOrder)
  let reserved ← oracleBoolean (value.get "acceptance_reserved") (within lane "acceptance_reserved")
  let handle ← oracleBoolean (value.get "acceptance_backend_handle") (within lane "acceptance_backend_handle")
  let publications ← eachItem (value.get "outputs") (within lane "outputs") fun raw index =>
    readPublication raw (itemAt (within lane "outputs") index)
  let _ ← hashPublications publications
  let emitted ← oracleBoolean (value.get "terminal_status_emitted") (within lane "terminal_status_emitted")
  let disconnect ← oracleBoolean (value.get "disconnect_observed") (within lane "disconnect_observed")
  let backpressure ← oracleBoolean (value.get "backpressure_timeout_observed")
    (within lane "backpressure_timeout_observed")
  let cancellation ← commitSequence floats (value.get "cancellation_commit_sequence")
    (within lane "cancellation_commit_sequence")
  let receipt ← commitSequence floats (value.get "receipt_commit_sequence") (within lane "receipt_commit_sequence")
  match clientEvent? (value.get "client_event") with
  | none => contractError (within lane "client_event is invalid")
  | some event =>
    return { illegalLifecycleTransitions := illegalTransitions lifecycle ranks reserved handle
             duplicateOutputPublications := duplicatePublications floats publications
             unreservedOutputPublications := countTrue (publications.map (!·.reserved))
             missingTerminalStatus := missingTerminal lifecycle emitted
             clientEventViolations := (eventViolated event cancellation receipt disconnect backpressure).toNat }

/-! ## Native correctness -/

abbrev mlxKeys : List String := ["parity", "owner_thread_id", "execution_thread_ids", "cross_thread_rejected"]

abbrev parityKeys : List String := ["kind", "expected_sha256", "observed_sha256"]

inductive ParityKind where
  | output
  | logits
  | kv
  deriving DecidableEq

/-- The keys of `mismatch`. -/
def parityKinds : List (Str × ParityKind) := [(lit "output", .output), (lit "logits", .logits), (lit "kv", .kv)]

def readParity (raw : Json) (place : Str) : Except Raised (ParityKind × Bool) := do
  let pair ← oracleFields raw parityKeys place
  match ← namedBy parityKinds (pair.get "kind") with
  | none => contractError (place ++ lit ".kind is invalid")
  | some kind => return (kind, !equalJson floats (pair.get "expected_sha256") (pair.get "observed_sha256"))

def kindMismatches (kind : ParityKind) (parity : List (ParityKind × Bool)) : Nat :=
  countTrue (parity.map fun pair => pair.1 = kind && pair.2)

/-- `mlx_fixture` -/
def mlxFixture (evidence : Evidence) (close : List (Str × Json)) : Except Raised Metrics := do
  let lane := "mlx-native-correctness"
  emptyClose close lane
  let value ← oracleFields (← oracleRecord evidence lane) mlxKeys (lit lane)
  let parity ← eachItem (value.get "parity") (within lane "parity") fun raw index =>
    readParity floats raw (itemAt (within lane "parity") index)
  let threads ← oracleList (value.get "execution_thread_ids") (within lane "execution_thread_ids")
  let foreign := threads.map fun thread => !equalJson floats thread (value.get "owner_thread_id")
  let rejected ← oracleBoolean (value.get "cross_thread_rejected") (within lane "cross_thread_rejected")
  return [(lit "output_mismatches", .count (kindMismatches .output parity)),
    (lit "complete_logits_mismatches", .count (kindMismatches .logits parity)),
    (lit "kv_state_mismatches", .count (kindMismatches .kv parity)),
    (lit "owner_thread_violations", .count (countTrue foreign + (!rejected).toNat))]

/-! ## Bounded turns -/

abbrev boundedKeys : List String :=
  ["turn_service_us", "ffi_pairs", "ffi_baseline_us", "ffi_candidate_us", "native_outcomes"]

abbrev outcomeKeys : List String := ["terminal", "cleaned"]

/-- `(observed - base) / base * 100.0` -/
def relativePercent (observed base : ℚ) : PyFloat :=
  floats.mul (floats.div (floats.sub (.finite observed) (.finite base)) (.finite base)) (.finite 100)

/-- `bounded_turn` -/
def boundedTurn (evidence : Evidence) (close : List (Str × Json)) : Except Raised Metrics := do
  let lane := "bounded-turn-and-ffi"
  emptyClose close lane
  let value ← oracleFields (← oracleRecord evidence lane) boundedKeys (lit lane)
  let mismatches ← eachItem (value.get "ffi_pairs") (within lane "ffi_pairs") fun pair _ =>
    differ floats "expected" "observed" pair (within lane "ffi_pairs")
  let baselines ← oracleList (value.get "ffi_baseline_us") (within lane "ffi_baseline_us")
  let candidates ← oracleList (value.get "ffi_candidate_us") (within lane "ffi_candidate_us")
  demand (baselines.length = candidates.length && !baselines.isEmpty)
    (lit lane ++ lit " FFI baseline/candidate samples must align")
  let regressions ← (baselines.zip candidates).zipIdx.mapM fun (samples, index) => do
    let base ← number floats.toFloats samples.1 (itemAt (within lane "ffi_baseline_us") index)
    let observed ← number floats.toFloats samples.2 (itemAt (within lane "ffi_candidate_us") index)
    demand (0 < base) (lit lane ++ lit " FFI baseline must be positive")
    return relativePercent floats observed base
  let unclean ← eachItem (value.get "native_outcomes") (within lane "native_outcomes") fun raw index => do
    let place := itemAt (within lane "native_outcomes") index
    let outcome ← oracleFields raw outcomeKeys place
    let cleaned ← oracleBoolean (outcome.get "cleaned") (place ++ lit ".cleaned")
    return !cleaned
  let service ← eachItem (value.get "turn_service_us") (within lane "turn_service_us") fun item _ =>
    number floats.toFloats item (within lane "turn_service_us")
  return [(lit "turn_service_samples_us", .floats (finites service)),
    (lit "ffi_output_mismatches", .count (countTrue mismatches)),
    (lit "ffi_latency_regression_samples_percent", .floats regressions),
    (lit "unclean_native_outcomes", .count (countTrue unclean))]

/-! ## Memory -/

abbrev memoryKeys : List String :=
  ["governor_decisions", "lease_checks", "reservations", "pending_reclaim", "process_samples_bytes", "reclaim_us"]

abbrev decisionKeys : List String :=
  ["resource_safe", "admitted", "observed_resource_mode", "safety_filter_sequence", "schedule_sequence"]

abbrev leaseKeys : List String := ["busy", "loading", "lease_count", "selected_for_unload"]

abbrev reservationKeys : List String := ["reserved", "allocated", "pending_reclaim", "released"]

abbrev reclaimKeys : List String := ["process_reclaimed", "backend_reclaimed", "reservation_held"]

/-- `first and _boolean(value, place)`: the second is read where the first holds. -/
def andBoolean (first : Bool) (value : Json) (place : String) : Except Raised Bool :=
  if first then oracleBoolean value (lit place) else .ok false

/-- `first or _boolean(value, place)` -/
def orBoolean (first : Bool) (value : Json) (place : String) : Except Raised Bool :=
  if first then .ok true else oracleBoolean value (lit place)

/-- `admitted and not _boolean(resource_safe)` -/
def unsafeAdmission (admitted : Bool) (resourceSafe : Json) : Except Raised Bool :=
  if admitted then (!·) <$> oracleBoolean resourceSafe (lit "resource_safe") else .ok false

/-- Whether an admission was unsafe, and whether it broke the order of the modes. -/
def readDecision (parameters : List (Str × Json)) (raw : Json) (place : Str) : Except Raised (Bool × Bool) := do
  let decision ← oracleFields raw decisionKeys place
  let admitted ← oracleBoolean (decision.get "admitted") (lit "admitted")
  let dangerous ← unsafeAdmission admitted (decision.get "resource_safe")
  let safety ← number floats.toFloats (decision.get "safety_filter_sequence") (lit "safety_filter_sequence")
  let schedule ← number floats.toFloats (decision.get "schedule_sequence") (lit "schedule_sequence")
  let sameMode := equalJson floats (decision.get "observed_resource_mode")
    ((parameters.lookup (lit "resource_mode")).getD .null)
  return (dangerous, !sameMode || schedule ≤ safety)

def readLease (raw : Json) (place : Str) : Except Raised Bool := do
  let check ← oracleFields raw leaseKeys place
  let leases ← number floats.toFloats (check.get "lease_count") (lit "lease_count")
  demand (0 ≤ leases && isInteger leases) (place ++ lit ".lease_count is invalid")
  let busy ← oracleBoolean (check.get "busy") (lit "busy")
  let used ← orBoolean busy (check.get "loading") "loading"
  andBoolean (used || 0 < leases) (check.get "selected_for_unload") "selected_for_unload"

/-- `abs(reserved - accounted)` -/
def readReservation (raw : Json) (place : Str) : Except Raised PyFloat := do
  let reservation ← oracleFields raw reservationKeys place
  let reserved ← number floats.toFloats (reservation.get "reserved") (lit "reserved")
  let allocated ← number floats.toFloats (reservation.get "allocated") (lit "allocated")
  let pending ← number floats.toFloats (reservation.get "pending_reclaim") (lit "pending_reclaim")
  let released ← number floats.toFloats (reservation.get "released") (lit "released")
  return floatAbs (floats.sub (.finite reserved) (floats.sum [allocated, pending, released]))

def readReclaim (raw : Json) (place : Str) : Except Raised Bool := do
  let pending ← oracleFields raw reclaimKeys place
  let process ← oracleBoolean (pending.get "process_reclaimed") (lit "process_reclaimed")
  let converged ← andBoolean process (pending.get "backend_reclaimed") "backend_reclaimed"
  if converged then return false
  else
    let held ← oracleBoolean (pending.get "reservation_held") (lit "reservation_held")
    return !held

/-- `max(values, default=0)` -/
def maxOrZero (values : List PyFloat) : Observation :=
  match values with
  | [] => .count 0
  | x :: xs => .float (xs.foldl floatMax x)

/-- `max(values)` -/
def maxOf (values : List ℚ) : Except Raised PyFloat :=
  match values with
  | [] => raised "ValueError" (lit "max() iterable argument is empty")
  | x :: xs => .ok (.finite (xs.foldl max x))

/-- `memory_governor` -/
def memoryGovernor (parameters : List (Str × Json)) (evidence : Evidence) (close : List (Str × Json)) :
    Except Raised Metrics := do
  let lane := "residency-and-memory-governor"
  emptyClose close lane
  let value ← oracleFields (← oracleRecord evidence lane) memoryKeys (lit lane)
  let decisions ← eachItem (value.get "governor_decisions") (within lane "governor_decisions") fun raw index =>
    readDecision floats parameters raw (itemAt (within lane "governor_decisions") index)
  let checks ← oracleList (value.get "lease_checks") (within lane "lease_checks")
  demand (!checks.isEmpty) (within lane "lease_checks must not be empty")
  let leases ← checks.zipIdx.mapM fun (raw, index) =>
    readLease floats raw (itemAt (within lane "lease_checks") index)
  let errors ← eachItem (value.get "reservations") (within lane "reservations") fun raw index =>
    readReservation floats raw (itemAt (within lane "reservations") index)
  let pending ← oracleList (value.get "pending_reclaim") (within lane "pending_reclaim")
  demand (!pending.isEmpty) (within lane "pending_reclaim must not be empty")
  let premature ← pending.zipIdx.mapM fun (raw, index) =>
    readReclaim raw (itemAt (within lane "pending_reclaim") index)
  let samples ← eachItem (value.get "process_samples_bytes") (within lane "process_samples_bytes") fun item _ =>
    number floats.toFloats item (within lane "process_samples_bytes")
  let peak ← maxOf samples
  let reclaim ← eachItem (value.get "reclaim_us") (within lane "reclaim_us") fun item _ =>
    number floats.toFloats item (within lane "reclaim_us")
  return [(lit "unsafe_admissions", .count (countTrue (decisions.map Prod.fst))),
    (lit "lease_unsafe_unloads", .count (countTrue leases)),
    (lit "resource_mode_order_violations", .count (countTrue (decisions.map Prod.snd))),
    (lit "reservation_accounting_error_bytes", maxOrZero errors),
    (lit "premature_reclaim_releases", .count (countTrue premature)),
    (lit "observed_peak_memory_bytes", .float peak),
    (lit "reclaim_convergence_samples_us", .floats (finites reclaim))]

/-! ## Serving across models -/

abbrev crossKeys : List String :=
  ["progress_us", "timing_us", "receipts", "latency_samples", "throughput", "outputs"]

abbrev receiptKeys : List String := ["model", "engine_service_us", "weight"]

abbrev latencyKeys : List String := ["ttft_us", "tpot_us"]

abbrev throughputKeys : List String := ["tokens", "seconds"]

def crossModels : List Str := [lit "alpha", lit "beta"]

/-- The two dicts of the loop over the receipts. -/
structure ModelLedgers where
  ledgers : List (Str × PyFloat)
  weights : List (Str × ℚ)

def chargeReceipt (place lane : Str) (state : ModelLedgers) (raw : Json) : Except Raised ModelLedgers := do
  let receipt ← oracleFields raw receiptKeys place
  let weight ← number floats.toFloats (receipt.get "weight") (lit "weight")
  demand (0 < weight) (lane ++ lit " receipt weight must be positive")
  let model ← textOf (receipt.get "model")
  demand (occurs model crossModels) (lane ++ lit " receipt model must be alpha or beta")
  demand ((state.weights.lookup model).all fun seen => seen = weight)
    (lane ++ lit " receipt weight changed within one case")
  let service ← number floats.toFloats (receipt.get "engine_service_us") (lit "engine_service_us")
  let before := (state.ledgers.lookup model).getD (.finite 0)
  return ⟨setItem state.ledgers model (floats.add before (floats.div (.finite service) (.finite weight))),
    setItem state.weights model weight⟩

/-- `weights_match` -/
def weightsMatch (parameters : List (Str × Json)) (weights : List (Str × ℚ)) : Bool :=
  weights.lookup (lit "alpha") = some 1 &&
    weights.lookup (lit "beta") = some (if parameterIs parameters "model_weights" "1_to_3" then 3 else 1)

/-- `service_error` -/
def serviceError (parameters : List (Str × Json)) (state : ModelLedgers) : PyFloat :=
  let values := state.ledgers.map Prod.snd
  let mean := floats.div (floats.total values) (.finite values.length)
  let greatest := values.tail.foldl floatMax (values.headD .nan)
  let least := values.tail.foldl floatMin (values.headD .nan)
  let spread := if mean = .finite 0 then .finite 0
    else floats.mul (floats.div (floats.sub greatest least) mean) (.finite 100)
  if weightsMatch parameters state.weights then spread else floatMax spread (.finite 100)

def readLatency (lane : String) (raw : Json) (index : Nat) : Except Raised (ℚ × ℚ) := do
  let place := itemAt (within lane "latency_samples") index
  let sample ← oracleFields raw latencyKeys place
  let ttft ← number floats.toFloats (sample.get "ttft_us") (place ++ lit ".ttft_us")
  let tpot ← number floats.toFloats (sample.get "tpot_us") (place ++ lit ".tpot_us")
  demand (0 < ttft && 0 < tpot) (lit lane ++ lit " latency samples must be positive")
  return (ttft, tpot)

/-- `cross_model_serving` -/
def crossModelServing (parameters : List (Str × Json)) (evidence : Evidence) (close : List (Str × Json)) :
    Except Raised Metrics := do
  let lane := "cross-model-serving"
  emptyClose close lane
  let value ← oracleFields (← oracleRecord evidence lane) crossKeys (lit lane)
  let progress ← eachItem (value.get "progress_us") (within lane "progress_us") fun item index =>
    number floats.toFloats item (itemAt (within lane "progress_us") index)
  let timing ← eachItem (value.get "timing_us") (within lane "timing_us") fun item index =>
    number floats.toFloats item (itemAt (within lane "timing_us") index)
  demand (!progress.isEmpty && !timing.isEmpty && (progress ++ timing).all fun item => 0 < item)
    (lit lane ++ lit " progress and timing samples must be non-empty and positive")
  let receipts ← oracleList (value.get "receipts") (within lane "receipts")
  let state ← receipts.foldlM (chargeReceipt floats (within lane "receipts") (lit lane)) ⟨[], []⟩
  demand (sameSet (state.ledgers.map Prod.fst) crossModels) (lit lane ++ lit " requires receipts for both models")
  let latencies ← eachItem (value.get "latency_samples") (within lane "latency_samples") (readLatency floats lane)
  demand (!latencies.isEmpty) (lit lane ++ lit " requires latency samples")
  let throughput ← oracleFields (value.get "throughput") throughputKeys (within lane "throughput")
  let tokens ← number floats.toFloats (throughput.get "tokens") (within lane "throughput.tokens")
  let seconds ← number floats.toFloats (throughput.get "seconds") (within lane "throughput.seconds")
  demand (0 ≤ tokens && 0 < seconds) (lit lane ++ lit " throughput requires tokens >= 0 and seconds > 0")
  let mismatches ← eachItem (value.get "outputs") (within lane "outputs") fun pair _ =>
    differ floats "expected" "observed" pair (within lane "outputs")
  return [(lit "progress_samples_us", .floats (finites progress)),
    (lit "timing_samples_us", .floats (finites timing)),
    (lit "weighted_service_error_percent", .float (serviceError floats parameters state)),
    (lit "ttft_samples_us", .floats (finites (latencies.map Prod.fst))),
    (lit "tpot_samples_us", .floats (finites (latencies.map Prod.snd))),
    (lit "throughput_work", .work tokens seconds),
    (lit "serving_output_mismatches", .count (countTrue mismatches))]

/-! ## Observability -/

abbrev observabilityKeys : List String :=
  ["turn_ids", "command_buffers", "instruments_pairs", "telemetry", "instruments_capture_present"]

abbrev bufferKeys : List String := ["turn_id", "gpu_start_ns", "gpu_end_ns", "status"]

abbrev instrumentKeys : List String := ["measured_us", "instruments_us"]

abbrev telemetryKeys : List String :=
  ["off_throughput", "on_throughput", "off_tpot_p95_us", "on_tpot_p95_us"]

def bufferStatuses : List (Str × Unit) := [(lit "completed", ()), (lit "error", ())]

/-- `status not in {"completed", "error"}`, which is looked at where the turn is known. -/
def misattributed (known : Bool) (status : Json) : Except Raised Bool :=
  if known then Option.isNone <$> namedBy bufferStatuses status else .ok true

/-- Whether a buffer is timestamped, and whether it is wrongly attributed. -/
def readBuffer (turns : List Json) (raw : Json) (place : Str) : Except Raised (Bool × Bool) := do
  let buffer ← oracleFields raw bufferKeys place
  let start ← number floats.toFloats (buffer.get "gpu_start_ns") (lit "gpu_start_ns")
  let finish ← number floats.toFloats (buffer.get "gpu_end_ns") (lit "gpu_end_ns")
  hashed (buffer.get "turn_id")
  let wrong ← misattributed (occursIn floats (buffer.get "turn_id") turns) (buffer.get "status")
  return (0 < start && start ≤ finish, wrong)

def readInstruments (lane : String) (raw : Json) (place : Str) : Except Raised PyFloat := do
  let pair ← oracleFields raw instrumentKeys place
  let instruments ← number floats.toFloats (pair.get "instruments_us") (lit "instruments_us")
  demand (0 < instruments) (lit lane ++ lit " Instruments duration must be positive")
  let measured ← number floats.toFloats (pair.get "measured_us") (lit "measured_us")
  let error := floatAbs (floats.sub (.finite measured) (.finite instruments))
  return floats.mul (floats.div error (.finite instruments)) (.finite 100)

/-- `100.0 if not buffers else timestamped / len(buffers) * 100.0` -/
def coveragePercent (buffers : List (Bool × Bool)) : PyFloat :=
  if buffers.isEmpty then .finite 100
  else floats.mul (floats.div (.finite (countTrue (buffers.map Prod.fst))) (.finite buffers.length)) (.finite 100)

/-- `max(0.0, (worse - better) / off * 100.0)` -/
def regressionPercent (worse better off : ℚ) : PyFloat :=
  floatMax (.finite 0)
    (floats.mul (floats.div (floats.sub (.finite worse) (.finite better)) (.finite off)) (.finite 100))

/-- `observability` -/
def observability (evidence : Evidence) (close : List (Str × Json)) : Except Raised Metrics := do
  let lane := "observability-qualification"
  emptyClose close lane
  let value ← oracleFields (← oracleRecord evidence lane) observabilityKeys (lit lane)
  let turns ← oracleList (value.get "turn_ids") (within lane "turn_ids")
  let _ ← turns.mapM hashed
  let buffers ← eachItem (value.get "command_buffers") (within lane "command_buffers") fun raw _ =>
    readBuffer floats turns raw (within lane "command_buffers")
  let errors ← eachItem (value.get "instruments_pairs") (within lane "instruments_pairs") fun raw _ =>
    readInstruments floats lane raw (within lane "instruments_pairs")
  let telemetry ← oracleFields (value.get "telemetry") telemetryKeys (within lane "telemetry")
  let offThroughput ← number floats.toFloats (telemetry.get "off_throughput") (lit "off_throughput")
  let offTpot ← number floats.toFloats (telemetry.get "off_tpot_p95_us") (lit "off_tpot_p95_us")
  demand (0 < offThroughput && 0 < offTpot && !errors.isEmpty)
    (lit lane ++ lit " calibration and off baselines must be positive")
  let capture ← oracleBoolean (value.get "instruments_capture_present") (within lane "instruments_capture_present")
  let onThroughput ← number floats.toFloats (telemetry.get "on_throughput") (lit "on_throughput")
  let onTpot ← number floats.toFloats (telemetry.get "on_tpot_p95_us") (lit "on_tpot_p95_us")
  return [(lit "instruments_capture_missing", .count (!capture).toNat),
    (lit "timestamp_coverage_percent", .float (coveragePercent floats buffers)),
    (lit "attribution_errors", .count (countTrue (buffers.map Prod.snd))),
    (lit "instruments_relative_error_samples_percent", .floats errors),
    (lit "instruments_relative_error_p95_samples_percent", .floats errors),
    (lit "telemetry_throughput_regression_percent",
      .float (regressionPercent floats offThroughput onThroughput offThroughput)),
    (lit "telemetry_tpot_p95_regression_percent", .float (regressionPercent floats onTpot offTpot offTpot))]

/-! ## Persistence -/

abbrev persistenceKeys : List String := ["snapshots", "invalid_restore_attempts", "authorities", "effects"]

abbrev attemptKeys : List String := ["valid", "restored"]

abbrev executionsKeys : List String := ["id", "executions"]

def readAttempt (raw : Json) (place : Str) : Except Raised Bool := do
  let attempt ← oracleFields raw attemptKeys place
  let valid ← oracleBoolean (attempt.get "valid") (lit "valid")
  andBoolean (!valid) (attempt.get "restored") "restored"

/-- `max(0, int(executions) - 1)` -/
def readReplays (raw : Json) (place : Str) : Except Raised Nat := do
  let effect ← oracleFields raw executionsKeys place
  let executions ← number floats.toFloats (effect.get "executions") (lit "executions")
  return (truncate executions - 1).toNat

/-- `persistence` -/
def persistence (evidence : Evidence) (close : List (Str × Json)) : Except Raised Metrics := do
  let lane := "persistence-and-recovery"
  emptyClose close lane
  let value ← oracleFields (← oracleRecord evidence lane) persistenceKeys (lit lane)
  let snapshots ← eachItem (value.get "snapshots") (within lane "snapshots") fun pair _ =>
    differ floats "expected" "observed" pair (within lane "snapshots")
  let restores ← eachItem (value.get "invalid_restore_attempts") (within lane "invalid_restore_attempts")
    fun raw _ => readAttempt raw (within lane "invalid_restore_attempts")
  let authorities ← eachItem (value.get "authorities") (within lane "authorities") fun pair _ =>
    differ floats "expected" "observed" pair (within lane "authorities")
  let replays ← eachItem (value.get "effects") (within lane "effects") fun raw _ =>
    readReplays floats raw (within lane "effects")
  return [(lit "snapshot_roundtrip_mismatches", .count (countTrue snapshots)),
    (lit "invalid_snapshot_restores", .count (countTrue restores)),
    (lit "authoritative_state_divergences", .count (countTrue authorities)),
    (lit "replayed_external_effects", .count replays.sum)]

/-! ## Owners -/

abbrev ownerKeys : List String := ["daemon", "client_transport"]

abbrev daemonKeys : List String :=
  ["owners", "backend_calls_before_initialization", "successful_receipts_after_daemon_loss"]

abbrev transportKeys : List String := ["frame_bytes", "latency_us"]

/-- `owner_lifecycle` -/
def ownerLifecycle (evidence : Evidence) (close : List (Str × Json)) : Except Raised Metrics := do
  let lane := "protocol-and-owner-lifecycle"
  emptyClose close lane
  let value ← oracleFields (← oracleRecord evidence lane) ownerKeys (lit lane)
  let daemon ← oracleFields (value.get "daemon") daemonKeys (within lane "daemon")
  let transport ← oracleFields (value.get "client_transport") transportKeys (within lane "client_transport")
  let frames ← eachItem (transport.get "frame_bytes") (within lane "client_transport.frame_bytes") fun item index =>
    number floats.toFloats item (itemAt (within lane "client_transport.frame_bytes") index)
  let latencies ← eachItem (transport.get "latency_us") (within lane "client_transport.latency_us")
    fun item index => number floats.toFloats item (itemAt (within lane "client_transport.latency_us") index)
  demand (!latencies.isEmpty && latencies.all fun item => 0 < item)
    (lit lane ++ lit " client transport latency samples must be non-empty and positive")
  demand (frames.all fun item => 0 ≤ item) (lit lane ++ lit " client transport frame bytes must be non-negative")
  let calls ← number floats.toFloats (daemon.get "backend_calls_before_initialization")
    (within lane "daemon.backend_calls_before_initialization")
  let receipts ← number floats.toFloats (daemon.get "successful_receipts_after_daemon_loss")
    (within lane "daemon.successful_receipts_after_daemon_loss")
  demand (0 ≤ calls && 0 ≤ receipts) (lit lane ++ lit " daemon counts must be non-negative")
  let owners ← oracleList (daemon.get "owners") (within lane "daemon.owners")
  let _ ← owners.mapM hashed
  return [(lit "simultaneous_device_owner_count", .count (distinctCount (sameItem floats) owners)),
    (lit "backend_calls_before_initialization_count", .float (.finite calls)),
    (lit "successful_receipt_after_daemon_loss_count", .float (.finite receipts)),
    (lit "client_transport_max_frame_bytes", maxOrZero (finites frames)),
    (lit "client_transport_latency_samples_us", .floats (finites latencies))]

/-! ## Certification -/

abbrev certificationKeys : List String := ["admissions", "scope_uses", "quarantine", "recertification"]

abbrev admissionKeys : List String := ["observed_record_applicable", "shared_turn_started"]

abbrev quarantineKeys : List String := ["bound_violation_sequence", "turn_start_sequences"]

abbrev recertificationKeys : List String :=
  ["required", "completed", "new_record_applied", "shared_turn_started_after"]

/-- Whether an admission differs from what its case expects, and whether it started a shared turn uncertified. -/
def readAdmission (expected : Bool) (raw : Json) (place : Str) : Except Raised (Bool × Bool) := do
  let admission ← oracleFields raw admissionKeys place
  let observed ← oracleBoolean (admission.get "observed_record_applicable") (lit "observed_record_applicable")
  let started ← oracleBoolean (admission.get "shared_turn_started") (lit "shared_turn_started")
  return (observed != expected || started != expected, !expected && started)

/-- `certification` -/
def certification (parameters : List (Str × Json)) (evidence : Evidence) (close : List (Str × Json)) :
    Except Raised Metrics := do
  let lane := "certification-envelopes"
  emptyClose close lane
  let value ← oracleFields (← oracleRecord evidence lane) certificationKeys (lit lane)
  let applicable := parameterIs parameters "changed_identity" "none" &&
    parameterIs parameters "record_state" "applicable"
  let admissions ← eachItem (value.get "admissions") (within lane "admissions") fun raw _ =>
    readAdmission applicable raw (within lane "admissions")
  let leaks ← eachItem (value.get "scope_uses") (within lane "scope_uses") fun pair _ =>
    differ floats "certified" "used" pair (within lane "scope_uses")
  let quarantine ← oracleFields (value.get "quarantine") quarantineKeys (within lane "quarantine")
  let violation ← number floats.toFloats (quarantine.get "bound_violation_sequence") (lit "bound_violation_sequence")
  let starts ← eachItem (quarantine.get "turn_start_sequences") (within lane "turn_start_sequences") fun item _ =>
    number floats.toFloats item (lit "turn_start_sequence")
  let recertification ← oracleFields (value.get "recertification") recertificationKeys (within lane "recertification")
  let observed ← recertification.members.mapM fun item =>
    oracleBoolean item.2 (within lane "recertification." ++ item.1)
  let failed := observed.any (· != !applicable)
  return [(lit "certification_applicability_mismatches", .count (countTrue (admissions.map Prod.fst))),
    (lit "uncertified_shared_turns", .count (countTrue (admissions.map Prod.snd))),
    (lit "certification_scope_leaks", .count (countTrue leaks)),
    (lit "turns_after_bound_violation", .count (countTrue (starts.map fun start => violation < start))),
    (lit "explicit_recertification_failures", .count failed.toNat)]

/-! ## The lanes -/

/-- `ANALYZERS` -/
inductive Analyzer where
  | coreEventReplay
  | schedulerPerformance
  | requestServing
  | mlxFixture
  | boundedTurn
  | memoryGovernor
  | crossModelServing
  | observability
  | persistence
  | ownerLifecycle
  | certification
  deriving DecidableEq

def analyzers : List Analyzer :=
  [.coreEventReplay, .schedulerPerformance, .requestServing, .mlxFixture, .boundedTurn, .memoryGovernor,
    .crossModelServing, .observability, .persistence, .ownerLifecycle, .certification]

namespace Analyzer

def laneId : Analyzer → String
  | coreEventReplay => "core-event-replay"
  | schedulerPerformance => "scheduler-performance"
  | requestServing => "request-serving-lifecycle"
  | mlxFixture => "mlx-native-correctness"
  | boundedTurn => "bounded-turn-and-ffi"
  | memoryGovernor => "residency-and-memory-governor"
  | crossModelServing => "cross-model-serving"
  | observability => "observability-qualification"
  | persistence => "persistence-and-recovery"
  | ownerLifecycle => "protocol-and-owner-lifecycle"
  | certification => "certification-envelopes"

def analyze (analyzer : Analyzer) (parameters : List (Str × Json)) (evidence : Evidence)
    (close : List (Str × Json)) : Except Raised Metrics :=
  match analyzer with
  | coreEventReplay => CoreCounters.metrics <$> Lanes.coreEventReplay (equalValue floats) evidence close
  | schedulerPerformance => Lanes.schedulerPerformance floats evidence close
  | requestServing => ServingCounters.metrics <$> Lanes.requestServing floats parameters evidence close
  | mlxFixture => Lanes.mlxFixture floats evidence close
  | boundedTurn => Lanes.boundedTurn floats evidence close
  | memoryGovernor => Lanes.memoryGovernor floats parameters evidence close
  | crossModelServing => Lanes.crossModelServing floats parameters evidence close
  | observability => Lanes.observability floats evidence close
  | persistence => Lanes.persistence floats evidence close
  | ownerLifecycle => Lanes.ownerLifecycle floats evidence close
  | certification => Lanes.certification floats parameters evidence close

end Analyzer

def analyzerOf (laneId : Str) : Option Analyzer := analyzers.find? fun analyzer => lit analyzer.laneId = laneId

/-- `analyze_lane_evidence` -/
def analyzeLaneEvidence (laneId : Str) (parameters : List (Str × Json)) (evidence : Evidence)
    (close : List (Str × Json)) : Except Raised Metrics :=
  match analyzerOf laneId with
  | none => contractError (lit "no normalized evidence oracle for lane " ++ strRepr laneId)
  | some analyzer => analyzer.analyze floats parameters evidence close

end TurnVector.Lanes
