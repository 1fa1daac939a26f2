import TurnVector.Effects.Gates
import TurnVector.Lanes.Analyzers

/-! # Where the oracles look

Each place that an oracle reads, in the order in which it reads them, and what it does there: an oracle goes on, raises
a `ContractError`, or lets another exception out.
-/

namespace TurnVector.Lanes

open Python Json Effects
open CrossEngine (PyFloat)
open LaneController (Raised contractError)

/-- A place, with what the code asks of the value there. -/
inductive Reading where
  | keys (value : Json) (names : List String)
  | list (value : Json)
  | boolean (value : Json)
  | number (value : Json)
  | hashed (value : Json)
  | text (value : Json)
  | met (condition : Bool)
  | assumed (condition : Bool)

variable (floats : OracleFloats)

def numberGate : Json → Effects.Gate
  | .int n => if (floats.ofInt n).isSome then .passes else .breaks
  | .float token => if (finiteOf (floats.ofToken token)).isSome then .passes else .refuses
  | _ => .refuses

/-- What the code does at a place: it refuses what has the wrong shape or value, and breaks on an integer that no float
holds, on a list or a dict that it hashes, on a text of too many digits, and on what it takes for granted. -/
def Reading.gate : Reading → Effects.Gate
  | keys value names => if hasKeys value names then .passes else .refuses
  | list (.arr _) => .passes
  | list _ => .refuses
  | boolean (.bool _) => .passes
  | boolean _ => .refuses
  | number value => numberGate floats value
  | hashed value => if hashable value then .passes else .breaks
  | text value => if longInt value then .breaks else .passes
  | met condition => if condition then .passes else .refuses
  | assumed condition => if condition then .passes else .breaks

/-- The number at a place that holds one. -/
def numeric : Json → ℚ
  | .int n => (floats.ofInt n).getD 0
  | .float token => (finiteOf (floats.ofToken token)).getD 0
  | _ => 0

/-! ## Places -/

def each (value : Json) (places : Json → List Reading) : List Reading := .list value :: (items value).flatMap places

def numbersOf (value : Json) : List Reading := each value fun item => [.number item]

def pairPlaces (left right : String) (raw : Json) : List Reading := [.keys raw [left, right]]

def isTrue (value : Json) : Bool := value = .bool true

def coreKeys : List String :=
  ["first_state_hash", "replay_state_hash", "invariants", "transition_committed", "effects"]

/-- `core_event_replay` reads its invariants where the transition was committed. -/
def corePlaces (value : Json) : List Reading :=
  List.flatten [
    [.keys value coreKeys, .list (member value "invariants"), .boolean (member value "transition_committed"),
      .list (member value "effects")],
    if isTrue (member value "transition_committed") then (items (member value "invariants")).map .boolean else []]

def schedulerPlaces (value : Json) : List Reading :=
  List.flatten [
    [.keys value schedulerKeys],
    each (member value "plan_pairs") (pairPlaces "expected" "observed"),
    numbersOf (member value "decision_latency_us"),
    [.keys (member value "decision_work") workKeys, .number (member (member value "decision_work") "operations"),
      .number (member (member value "decision_work") "seconds"), .boolean (member value "driver_ipc_included")]]

def outputPlaces (raw : Json) : List Reading := [.keys raw outputKeys, .boolean (member raw "reserved")]

def publicationPlaces (raw : Json) : List Reading :=
  [.hashed (member raw "publication_id"), .hashed (member raw "sequence")]

def sequencePlaces (raw : Json) : List Reading :=
  if raw = .null then [] else [.number raw, .met (0 < numeric floats raw && isInteger (numeric floats raw))]

def servingPlaces (parameters : List (Str × Json)) (value : Json) : List Reading :=
  List.flatten [
    [.keys value servingKeys,
      .met (equalJson floats (member value "client_event") ((parameters.lookup (lit "client_event")).getD .null))],
    each (member value "lifecycle") (fun state => [.hashed state]),
    [.boolean (member value "acceptance_reserved"), .boolean (member value "acceptance_backend_handle")],
    each (member value "outputs") outputPlaces,
    (items (member value "outputs")).flatMap publicationPlaces,
    [.boolean (member value "terminal_status_emitted"), .boolean (member value "disconnect_observed"),
      .boolean (member value "backpressure_timeout_observed")],
    sequencePlaces floats (member value "cancellation_commit_sequence"),
    sequencePlaces floats (member value "receipt_commit_sequence"),
    [.met (clientEvent? (member value "client_event")).isSome]]

def parityPlaces (raw : Json) : List Reading :=
  [.keys raw parityKeys, .hashed (member raw "kind"),
    .met (parityKinds.any fun kind => member raw "kind" = .str kind.1)]

def mlxPlaces (value : Json) : List Reading :=
  List.flatten [
    [.keys value mlxKeys],
    each (member value "parity") parityPlaces,
    [.list (member value "execution_thread_ids"), .boolean (member value "cross_thread_rejected")]]

def baselinePlaces (samples : Json × Json) : List Reading :=
  [.number samples.1, .number samples.2, .met (0 < numeric floats samples.1)]

def outcomePlaces (raw : Json) : List Reading := [.keys raw outcomeKeys, .boolean (member raw "cleaned")]

def boundedPlaces (value : Json) : List Reading :=
  let baselines := member value "ffi_baseline_us"
  let candidates := member value "ffi_candidate_us"
  List.flatten [
    [.keys value boundedKeys],
    each (member value "ffi_pairs") (pairPlaces "expected" "observed"),
    [.list baselines, .list candidates,
      .met ((items baselines).length = (items candidates).length && !(items baselines).isEmpty)],
    ((items baselines).zip (items candidates)).flatMap (baselinePlaces floats),
    each (member value "native_outcomes") outcomePlaces,
    numbersOf (member value "turn_service_us")]

/-- The value is read where the condition holds. -/
def readWhere (condition : Bool) (value : Json) : List Reading := if condition then [.boolean value] else []

def decisionPlaces (raw : Json) : List Reading :=
  List.flatten [
    [.keys raw decisionKeys, .boolean (member raw "admitted")],
    readWhere (isTrue (member raw "admitted")) (member raw "resource_safe"),
    [.number (member raw "safety_filter_sequence"), .number (member raw "schedule_sequence")]]

def leasePlaces (raw : Json) : List Reading :=
  let leases := numeric floats (member raw "lease_count")
  List.flatten [
    [.keys raw leaseKeys, .number (member raw "lease_count"), .met (0 ≤ leases && isInteger leases),
      .boolean (member raw "busy")],
    readWhere (!isTrue (member raw "busy")) (member raw "loading"),
    readWhere (isTrue (member raw "busy") || isTrue (member raw "loading") || 0 < leases)
      (member raw "selected_for_unload")]

def reservationPlaces (raw : Json) : List Reading :=
  [.keys raw reservationKeys, .number (member raw "reserved"), .number (member raw "allocated"),
    .number (member raw "pending_reclaim"), .number (member raw "released")]

def reclaimPlaces (raw : Json) : List Reading :=
  List.flatten [
    [.keys raw reclaimKeys, .boolean (member raw "process_reclaimed")],
    readWhere (isTrue (member raw "process_reclaimed")) (member raw "backend_reclaimed"),
    readWhere (!(isTrue (member raw "process_reclaimed") && isTrue (member raw "backend_reclaimed")))
      (member raw "reservation_held")]

def memoryPlaces (value : Json) : List Reading :=
  List.flatten [
    [.keys value memoryKeys],
    each (member value "governor_decisions") decisionPlaces,
    [.list (member value "lease_checks"), .met (!(items (member value "lease_checks")).isEmpty)],
    (items (member value "lease_checks")).flatMap (leasePlaces floats),
    each (member value "reservations") reservationPlaces,
    [.list (member value "pending_reclaim"), .met (!(items (member value "pending_reclaim")).isEmpty)],
    (items (member value "pending_reclaim")).flatMap reclaimPlaces,
    numbersOf (member value "process_samples_bytes"),
    [.assumed !(items (member value "process_samples_bytes")).isEmpty],
    numbersOf (member value "reclaim_us")]

def receiptModel (raw : Json) : Str := (member raw "model").strOf

def receiptWeight (raw : Json) : ℚ := numeric floats (member raw "weight")

/-- A model has one weight in all receipts. -/
def weightKept (before : List Json) (raw : Json) : Bool :=
  before.all fun seen => receiptModel seen ≠ receiptModel raw || receiptWeight floats seen = receiptWeight floats raw

def receiptPlaces (before : List Json) (raw : Json) : List Reading :=
  [.keys raw receiptKeys, .number (member raw "weight"), .met (0 < receiptWeight floats raw),
    .text (member raw "model"), .met (occurs (receiptModel raw) crossModels), .met (weightKept floats before raw),
    .number (member raw "engine_service_us")]

def receiptsPlaces (before : List Json) : List Json → List Reading
  | [] => []
  | raw :: receipts => receiptPlaces floats before raw ++ receiptsPlaces (before ++ [raw]) receipts

def latencyPlaces (raw : Json) : List Reading :=
  [.keys raw latencyKeys, .number (member raw "ttft_us"), .number (member raw "tpot_us"),
    .met (0 < numeric floats (member raw "ttft_us") && 0 < numeric floats (member raw "tpot_us"))]

def positiveSamples (value : Json) : Bool :=
  !(items value).isEmpty && (items value).all fun item => 0 < numeric floats item

def crossPlaces (value : Json) : List Reading :=
  let throughput := member value "throughput"
  List.flatten [
    [.keys value crossKeys],
    numbersOf (member value "progress_us"),
    numbersOf (member value "timing_us"),
    [.met (positiveSamples floats (member value "progress_us") && positiveSamples floats (member value "timing_us")),
      .list (member value "receipts")],
    receiptsPlaces floats [] (items (member value "receipts")),
    [.met (crossModels.all fun model => (items (member value "receipts")).any fun raw => receiptModel raw = model)],
    each (member value "latency_samples") (latencyPlaces floats),
    [.met (!(items (member value "latency_samples")).isEmpty), .keys throughput throughputKeys,
      .number (member throughput "tokens"), .number (member throughput "seconds"),
      .met (0 ≤ numeric floats (member throughput "tokens") && 0 < numeric floats (member throughput "seconds"))],
    each (member value "outputs") (pairPlaces "expected" "observed")]

/-- The status of a buffer is hashed where its turn is known. -/
def bufferPlaces (turns : List Json) (raw : Json) : List Reading :=
  List.flatten [
    [.keys raw bufferKeys, .number (member raw "gpu_start_ns"), .number (member raw "gpu_end_ns"),
      .hashed (member raw "turn_id")],
    if occursIn floats (member raw "turn_id") turns then [.hashed (member raw "status")] else []]

def instrumentPlaces (raw : Json) : List Reading :=
  [.keys raw instrumentKeys, .number (member raw "instruments_us"),
    .met (0 < numeric floats (member raw "instruments_us")), .number (member raw "measured_us")]

def observabilityPlaces (value : Json) : List Reading :=
  let telemetry := member value "telemetry"
  List.flatten [
    [.keys value observabilityKeys],
    each (member value "turn_ids") (fun turn => [.hashed turn]),
    each (member value "command_buffers") (bufferPlaces floats (items (member value "turn_ids"))),
    each (member value "instruments_pairs") (instrumentPlaces floats),
    [.keys telemetry telemetryKeys, .number (member telemetry "off_throughput"),
      .number (member telemetry "off_tpot_p95_us"),
      .met (0 < numeric floats (member telemetry "off_throughput") &&
        0 < numeric floats (member telemetry "off_tpot_p95_us") && !(items (member value "instruments_pairs")).isEmpty),
      .boolean (member value "instruments_capture_present"), .number (member telemetry "on_throughput"),
      .number (member telemetry "on_tpot_p95_us")]]

def attemptPlaces (raw : Json) : List Reading :=
  List.flatten [
    [.keys raw attemptKeys, .boolean (member raw "valid")],
    readWhere (!isTrue (member raw "valid")) (member raw "restored")]

def executionsPlaces (raw : Json) : List Reading := [.keys raw executionsKeys, .number (member raw "executions")]

def persistencePlaces (value : Json) : List Reading :=
  List.flatten [
    [.keys value persistenceKeys],
    each (member value "snapshots") (pairPlaces "expected" "observed"),
    each (member value "invalid_restore_attempts") attemptPlaces,
    each (member value "authorities") (pairPlaces "expected" "observed"),
    each (member value "effects") executionsPlaces]

def ownerPlaces (value : Json) : List Reading :=
  let daemon := member value "daemon"
  let transport := member value "client_transport"
  let calls := member daemon "backend_calls_before_initialization"
  let receipts := member daemon "successful_receipts_after_daemon_loss"
  List.flatten [
    [.keys value ownerKeys, .keys daemon daemonKeys, .keys transport transportKeys],
    numbersOf (member transport "frame_bytes"),
    numbersOf (member transport "latency_us"),
    [.met (positiveSamples floats (member transport "latency_us")),
      .met ((items (member transport "frame_bytes")).all fun item => 0 ≤ numeric floats item), .number calls,
      .number receipts, .met (0 ≤ numeric floats calls && 0 ≤ numeric floats receipts)],
    each (member daemon "owners") fun owner => [.hashed owner]]

def admissionPlaces (raw : Json) : List Reading :=
  [.keys raw admissionKeys, .boolean (member raw "observed_record_applicable"),
    .boolean (member raw "shared_turn_started")]

def membersOf : Json → List Json
  | .obj members => members.map Prod.snd
  | _ => []

def certificationPlaces (value : Json) : List Reading :=
  let quarantine := member value "quarantine"
  List.flatten [
    [.keys value certificationKeys],
    each (member value "admissions") admissionPlaces,
    each (member value "scope_uses") (pairPlaces "certified" "used"),
    [.keys quarantine quarantineKeys, .number (member quarantine "bound_violation_sequence")],
    numbersOf (member quarantine "turn_start_sequences"),
    [.keys (member value "recertification") recertificationKeys],
    (membersOf (member value "recertification")).map .boolean]

/-- The one record of the evidence. -/
def loneRecord (evidence : Evidence) : Option Json :=
  let records : List Json := (evidence.filter fun item => sameSet (item.map Prod.fst) [lit "record"]).filterMap
    fun item => item.lookup (lit "record")
  match records with
  | [.obj members] => some (.obj members)
  | _ => none

/-- Where an oracle looks that takes the one record of the evidence. -/
def recordPlaces (places : Json → List Reading) (evidence : Evidence) (close : List (Str × Json)) : List Reading :=
  [.met close.isEmpty, .met (loneRecord evidence).isSome] ++ places ((loneRecord evidence).getD .null)

def Analyzer.places (analyzer : Analyzer) (parameters : List (Str × Json)) : Json → List Reading :=
  match analyzer with
  | coreEventReplay => corePlaces
  | schedulerPerformance => schedulerPlaces
  | requestServing => servingPlaces floats parameters
  | mlxFixture => mlxPlaces
  | boundedTurn => boundedPlaces floats
  | memoryGovernor => memoryPlaces floats
  | crossModelServing => crossPlaces floats
  | observability => observabilityPlaces floats
  | persistence => persistencePlaces
  | ownerLifecycle => ownerPlaces floats
  | certification => certificationPlaces

/-- Where `analyze_lane_evidence` looks. -/
def evidencePlaces (laneId : Str) (parameters : List (Str × Json)) (evidence : Evidence) (close : List (Str × Json)) :
    List Reading :=
  match analyzerOf laneId with
  | none => [.met false]
  | some analyzer => recordPlaces (analyzer.places floats parameters) evidence close

/-! ## Executions -/

def isDigest : Json → Bool
  | .str digest => Canonical.isSha256 digest
  | _ => false

def isSequence : Json → Bool
  | .null => true
  | .int n => 0 < n
  | _ => false

def isBoolean : Json → Bool
  | .bool _ => true
  | _ => false

def isNonempty : Json → Bool
  | .str text => !text.isEmpty
  | _ => false

def executionKeys : List String :=
  ["input_sha256", "final_state_sha256", "receipt", "published_effects", "cancellation"]

def coreReceiptKeys : List String :=
  ["sequence_relation", "applied", "transition_committed", "state_before_sha256", "state_after_sha256"]

def receiptFieldPlaces (receipt : Json) : List Reading :=
  [.keys receipt coreReceiptKeys, .hashed (member receipt "sequence_relation"),
    .met (sequenceRelations.any fun relation => member receipt "sequence_relation" = .str relation.1),
    .met (isBoolean (member receipt "applied") && isBoolean (member receipt "transition_committed")),
    .met (isDigest (member receipt "state_before_sha256")), .met (isDigest (member receipt "state_after_sha256"))]

/-- The code takes for granted that an effect's sequence is no null. -/
def effectPlaces (raw : Json) : List Reading :=
  [.keys raw ["effect_id", "publication_sequence"], .met (isNonempty (member raw "effect_id")),
    .met (isSequence (member raw "publication_sequence")), .assumed (member raw "publication_sequence" ≠ .null)]

def cancellationPlaces (raw : Json) : List Reading :=
  [.keys raw ["commit_sequence", "terminal_sequence"], .met (isSequence (member raw "commit_sequence")),
    .met (isSequence (member raw "terminal_sequence"))]

/-- Where `_normalize_core_execution` looks. -/
def executionPlaces (inputSha256 : Str) (value : Json) : List Reading :=
  List.flatten [
    [.keys value executionKeys, .met (member value "input_sha256" = .str inputSha256),
      .met (isDigest (member value "final_state_sha256"))],
    receiptFieldPlaces (member value "receipt"),
    [.met (member value "final_state_sha256" = member (member value "receipt") "state_after_sha256")],
    each (member value "published_effects") effectPlaces,
    cancellationPlaces (member value "cancellation")]

end TurnVector.Lanes
