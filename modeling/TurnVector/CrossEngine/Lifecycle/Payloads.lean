import TurnVector.CrossEngine.Jsonl
import TurnVector.CrossEngine.Manifest
import TurnVector.CrossEngine.Serving
import TurnVector.Posix.Tree

/-! # Lifecycle messages

The validators of `cross_engine/lifecycle.py`. What the interpreter makes of a float literal is given.
-/

namespace TurnVector.CrossEngine.Lifecycle

open Python Json Contracts

/-! ## Values -/

def maxArrayItems : Nat := 1024

/-- The interpreter: its limits, `float(n)`, the `repr` of a float literal, of one that is finite, and
`threading.TIMEOUT_MAX`. -/
structure Interpreter where
  limits : Limits
  floatOf : Int → Option ℚ
  floatText : Str → Option Str
  timeoutMax : ℚ

/-- `if p: raise ContractError(text)` -/
def refuseIf (p : Prop) [Decidable p] (text : Str) : Except Raised Unit := if p then reject text else .ok ()

/-- `unique_strings` -/
def uniqueStrings (value : Json) (place : Str) (maximumItems : Nat) (parse : Json → Str → Except Raised Str) :
    Except Raised Unit := do
  let raw ← boundedArray value place maximumItems true
  let parsed ← raw.zipIdx.mapM fun item => parse item.1 (Canonical.itemAt place item.2)
  refuseIf (¬ parsed.Nodup) (place ++ lit " must not contain duplicates")

def isEnvironmentHead (c : CodePoint) : Bool := (65 ≤ c.val && c.val ≤ 90) || c = cp 95

def isEnvironmentName : Str → Bool
  | [] => false
  | c :: cs => isEnvironmentHead c && cs.all fun c => isEnvironmentHead c || isDigit c

/-- `environment_name` -/
def environmentName (value : Json) (place : Str) : Except Raised Str := do
  let text ← boundedString value place maxIdentifierBytes false
  if isEnvironmentName text then return text else reject (place ++ lit " must be an environment variable name")

section Values

variable (python : Interpreter)

mutual

/-- A value with the text that `json.dumps` writes for each float, unless one is not finite. -/
def withFloats : Json → Option Json
  | .float token => (python.floatText token).map .float
  | .arr items => (withFloatItems items).map .arr
  | .obj members => (withFloatMembers members).map .obj
  | value => some value

def withFloatItems : List Json → Option (List Json)
  | [] => some []
  | item :: items => do return (← withFloats item) :: (← withFloatItems items)

def withFloatMembers : List (Str × Json) → Option (List (Str × Json))
  | [] => some []
  | (key, value) :: members => do return (key, ← withFloats value) :: (← withFloatMembers members)

end

/-- `canonical_json_bytes` -/
def canonicalBytes (value : Json) : Except Raised Bytes :=
  match withFloats python value with
  | some value => limitedJsonBytes python.limits value
  | none => reject (lit "value cannot be encoded as canonical JSON")

def checkDepth (place : Str) (depth : Nat) : Except Raised Unit :=
  refuseIf (16 < depth) (place ++ lit " exceeds the JSON nesting bound")

mutual

/-- `_bounded_json` -/
def boundedJson (place : Str) (depth : Nat) : Json → Except Raised Unit
  | .null | .bool _ | .int _ => checkDepth place depth
  | .str text => do
    checkDepth place depth
    let _ ← boundedString (.str text) place (16 * 1024) true
  | .float token => do
    checkDepth place depth
    refuseIf ((python.floatText token).isNone = true) (place ++ lit " must not contain non-finite numbers")
  | .arr items => do
    checkDepth place depth
    let _ ← boundedArray (.arr items) place maxArrayItems true
    boundedItems place (depth + 1) 0 items
  | .obj members => do
    checkDepth place depth
    refuseIf (maxArrayItems < members.length)
      (place ++ lit " exceeds the " ++ natText maxArrayItems ++ lit "-field bound")
    boundedMembers place (depth + 1) members

def boundedItems (place : Str) (depth index : Nat) : List Json → Except Raised Unit
  | [] => .ok ()
  | item :: items => do
    boundedJson (Canonical.itemAt place index) depth item
    boundedItems place depth (index + 1) items

def boundedMembers (place : Str) (depth : Nat) : List (Str × Json) → Except Raised Unit
  | [] => .ok ()
  | (key, value) :: members => do
    let _ ← boundedString (.str key) (place ++ lit " key") 128 false
    boundedJson (place ++ lit "." ++ key) depth value
    boundedMembers place depth members

end

/-- A dict within the bound of its canonical form. -/
def boundedObject (value : Json) (place : Str) : Except Raised Unit := do
  refuseIf (16 * 1024 < (← canonicalBytes python value).length) (place ++ lit " exceeds the 16384-byte bound")

end Values

def isObject : Json → Bool
  | .obj _ => true
  | _ => false

/-- `_argv`, of which only the check is used. -/
def argv (value : Json) (place : Str) : Except Raised Unit := do
  let raw ← boundedArray value place 256 false
  raw.zipIdx.forM fun item => do
    let _ ← boundedString item.1 (Canonical.itemAt place item.2) 4096 false

def distinctPids (pids : List Int) (place : Str) : Except Raised Unit :=
  refuseIf (¬ pids.Nodup) (place ++ lit " contains duplicate PIDs")

def processRecord (raw : Json) (place : Str) : Except Raised Int := do
  let item ← strictObject raw ["pid", "executable", "executable_sha256"] [] place
  let pid ← integer (member item "pid") (place ++ lit ".pid") 1 (2 ^ 31 - 1)
  let _ ← boundedString (member item "executable") (place ++ lit ".executable") 4096 false
  let _ ← sha256Digest (member item "executable_sha256") (place ++ lit ".executable_sha256")
  return pid

/-- `_process_records`, of which only the check is used. -/
def processRecords (value : Json) (place : Str) : Except Raised Unit := do
  let records ← boundedArray value place 1024 true
  distinctPids (← records.zipIdx.mapM fun item => processRecord item.1 (Canonical.itemAt place item.2)) place

def exitRecord (raw : Json) (place : Str) : Except Raised Int := do
  let item ← strictObject raw ["pid", "returncode"] [] place
  let pid ← integer (member item "pid") (place ++ lit ".pid") 1 maxInteger
  let _ ← integer (member item "returncode") (place ++ lit ".returncode") (-(2 ^ 31)) (2 ^ 31 - 1)
  return pid

/-- `_exit_records` -/
def exitRecords (value : Json) (place : Str) : Except Raised Unit := do
  let records ← boundedArray value place maxArrayItems true
  distinctPids (← records.zipIdx.mapM fun item => exitRecord item.1 (Canonical.itemAt place item.2)) place

/-- A field of a payload, under its place. -/
def identifierAt (payload : List (Str × Json)) (place : Str) (name : String) : Except Raised Unit := do
  let _ ← Contracts.identifier (member payload name) (place ++ lit "." ++ lit name)

def sha256At (payload : List (Str × Json)) (place : Str) (name : String) : Except Raised Unit := do
  let _ ← sha256Digest (member payload name) (place ++ lit "." ++ lit name)

def integerAt (payload : List (Str × Json)) (place : Str) (name : String) (minimum maximum : Int) :
    Except Raised Unit := do
  let _ ← integer (member payload name) (place ++ lit "." ++ lit name) minimum maximum

/-- `LIFECYCLE_PROTOCOL_VERSION` -/
def protocolVersion : Str := lit "turnvector.benchmark.cross-engine-lifecycle.v1"

/-- A field that says the version of the protocol. -/
def versionAt (members : List (Str × Json)) (place : Str) (name : String) : Except Raised Unit :=
  refuseIf (member members name ≠ .str protocolVersion)
    (place ++ lit "." ++ lit name ++ lit " must equal " ++ strRepr protocolVersion)

/-! ## Kinds -/

inductive RequestKind where
  | hello
  | prepareSession
  | startTarget
  | describeEndpoint
  | resetState
  | stopTarget
  | shutdown
  deriving DecidableEq

inductive ResponseKind where
  | helloAck
  | prepared
  | targetStarted
  | endpointReady
  | stateReset
  | targetStopped
  | shutdownAck
  deriving DecidableEq

def RequestKind.all : List RequestKind :=
  [.hello, .prepareSession, .startTarget, .describeEndpoint, .resetState, .stopTarget, .shutdown]

def ResponseKind.all : List ResponseKind :=
  [.helloAck, .prepared, .targetStarted, .endpointReady, .stateReset, .targetStopped, .shutdownAck]

def RequestKind.text : RequestKind → Str
  | .hello => lit "hello"
  | .prepareSession => lit "prepare_session"
  | .startTarget => lit "start_target"
  | .describeEndpoint => lit "describe_endpoint"
  | .resetState => lit "reset_state"
  | .stopTarget => lit "stop_target"
  | .shutdown => lit "shutdown"

def ResponseKind.text : ResponseKind → Str
  | .helloAck => lit "hello_ack"
  | .prepared => lit "prepared"
  | .targetStarted => lit "target_started"
  | .endpointReady => lit "endpoint_ready"
  | .stateReset => lit "state_reset"
  | .targetStopped => lit "target_stopped"
  | .shutdownAck => lit "shutdown_ack"

/-- `REQUEST_PAYLOAD_FIELDS` -/
def RequestKind.fields : RequestKind → List String
  | .hello => ["requested_adapter_protocol"]
  | .prepareSession => ["run_id", "session_id", "state_root", "target_sha256", "config_sha256", "model_sha256",
      "reset_policy"]
  | .startTarget => ["argv", "config", "environment_names", "readiness_deadline_ms"]
  | .describeEndpoint => ["target_id", "session_id"]
  | .resetState => ["reset_ordinal", "reset_policy", "expected_prior_inventory_sha256"]
  | .stopTarget => ["reason", "deadline_ms", "expected_process_group_leader_pid"]
  | .shutdown => ["session_id"]

/-- `RESPONSE_PAYLOAD_FIELDS` -/
def ResponseKind.fields : ResponseKind → List String
  | .helloAck => ["adapter_protocol", "adapter_id", "adapter_version", "target_family", "lifecycle_capabilities"]
  | .prepared => ["run_id", "session_id", "target_sha256", "config_sha256", "model_sha256", "reset_policy",
      "initial_state_inventory_sha256"]
  | .targetStarted => ["process_group_leader_pid", "child_processes", "started_at_ns"]
  | .endpointReady => ["target_id", "session_id", "endpoint", "listener_owner"]
  | .stateReset => ["reset_ordinal", "reset_policy", "pre_processes", "post_processes", "prior_inventory_sha256",
      "current_inventory_sha256"]
  | .targetStopped => ["process_group_leader_pid", "exit_records", "surviving_process_ids", "surviving_listeners"]
  | .shutdownAck => ["session_id", "diagnostic_count", "no_live_children"]

/-- The kind that a text names. -/
def requestKind (text : Str) : Option RequestKind := RequestKind.all.find? fun kind => kind.text = text

def responseKind (text : Str) : Option ResponseKind := ResponseKind.all.find? fun kind => kind.text = text

/-! ## Payloads -/

section Payloads

variable (python : Interpreter)

/-- The branches of `_validate_request_payload`. -/
def checkRequestPayload (payload : List (Str × Json)) (place : Str) : RequestKind → Except Raised Unit
  | .hello => versionAt payload place "requested_adapter_protocol"
  | .prepareSession => do
    identifierAt payload place "run_id"
    identifierAt payload place "session_id"
    let stateRoot ← boundedString (member payload "state_root") (place ++ lit ".state_root") 4096 false
    refuseIf (¬ Posix.isAbsolute stateRoot = true ∨ lit ".." ∈ Posix.names stateRoot)
      (place ++ lit ".state_root must be an absolute Benchmark root")
    ["target_sha256", "config_sha256", "model_sha256"].forM (sha256At payload place)
    identifierAt payload place "reset_policy"
  | .startTarget => do
    argv (member payload "argv") (place ++ lit ".argv")
    refuseIf (isObject (member payload "config") = false) (place ++ lit ".config must be an object")
    boundedJson python (place ++ lit ".config") 0 (member payload "config")
    boundedObject python (member payload "config") (place ++ lit ".config")
    uniqueStrings (member payload "environment_names") (place ++ lit ".environment_names") 256 environmentName
    integerAt payload place "readiness_deadline_ms" 1 (24 * 60 * 60 * 1000)
  | .describeEndpoint => do
    identifierAt payload place "target_id"
    identifierAt payload place "session_id"
  | .resetState => do
    integerAt payload place "reset_ordinal" 1 maxInteger
    identifierAt payload place "reset_policy"
    sha256At payload place "expected_prior_inventory_sha256"
  | .stopTarget => do
    identifierAt payload place "reason"
    integerAt payload place "deadline_ms" 1 maxInteger
    integerAt payload place "expected_process_group_leader_pid" 1 maxInteger
  | .shutdown => identifierAt payload place "session_id"

/-- `_validate_request_payload` -/
def validateRequestPayload (kind : Str) (value : Json) (place : Str) :
    Except Raised (RequestKind × List (Str × Json)) :=
  match requestKind kind with
  | none => reject (lit "unknown lifecycle request kind " ++ strRepr kind)
  | some known => do
    let payload ← strictObject value known.fields [] place
    checkRequestPayload python payload place known
    return (known, payload)

def checkListenerOwner (value : Json) (place : Str) : Except Raised Unit := do
  let owner ← strictObject value ["pid", "address", "port"] [] place
  integerAt owner place "pid" 1 maxInteger
  let _ ← boundedString (member owner "address") (place ++ lit ".address") 64 false
  integerAt owner place "port" 1 65535

/-- A list that a target that was stopped leaves empty. -/
def nothingSurvives (payload : List (Str × Json)) (place : Str) (name : String) : Except Raised Unit := do
  let survivors ← boundedArray (member payload name) (place ++ lit "." ++ lit name) maxArrayItems true
  refuseIf (survivors ≠ []) (place ++ lit "." ++ lit name ++ lit " must be empty for success")

/-- The branches of `_validate_response_payload`. -/
def checkResponsePayload (payload : List (Str × Json)) (place : Str) : ResponseKind → Except Raised Unit
  | .helloAck => do
    versionAt payload place "adapter_protocol"
    ["adapter_id", "adapter_version", "target_family"].forM (identifierAt payload place)
    uniqueStrings (member payload "lifecycle_capabilities") (place ++ lit ".lifecycle_capabilities") 32
      Contracts.identifier
  | .prepared => do
    identifierAt payload place "run_id"
    identifierAt payload place "session_id"
    ["target_sha256", "config_sha256", "model_sha256", "initial_state_inventory_sha256"].forM
      (sha256At payload place)
    identifierAt payload place "reset_policy"
  | .targetStarted => do
    integerAt payload place "process_group_leader_pid" 1 maxInteger
    processRecords (member payload "child_processes") (place ++ lit ".child_processes")
    integerAt payload place "started_at_ns" 0 maxInteger
  | .endpointReady => do
    identifierAt payload place "target_id"
    identifierAt payload place "session_id"
    refuseIf (isObject (member payload "endpoint") = false) (place ++ lit ".endpoint must be an object")
    boundedObject python (member payload "endpoint") (place ++ lit ".endpoint")
    checkListenerOwner (member payload "listener_owner") (place ++ lit ".listener_owner")
  | .stateReset => do
    integerAt payload place "reset_ordinal" 1 maxInteger
    identifierAt payload place "reset_policy"
    processRecords (member payload "pre_processes") (place ++ lit ".pre_processes")
    processRecords (member payload "post_processes") (place ++ lit ".post_processes")
    sha256At payload place "prior_inventory_sha256"
    sha256At payload place "current_inventory_sha256"
  | .targetStopped => do
    integerAt payload place "process_group_leader_pid" 1 maxInteger
    exitRecords (member payload "exit_records") (place ++ lit ".exit_records")
    nothingSurvives payload place "surviving_process_ids"
    nothingSurvives payload place "surviving_listeners"
  | .shutdownAck => do
    identifierAt payload place "session_id"
    integerAt payload place "diagnostic_count" 0 1024
    let noLiveChildren ← boolean (member payload "no_live_children") (place ++ lit ".no_live_children")
    refuseIf (noLiveChildren = false) (place ++ lit ".no_live_children must be true")

/-- `_validate_response_payload` -/
def validateResponsePayload (kind : Str) (value : Json) (place : Str) : Except Raised (List (Str × Json)) :=
  match responseKind kind with
  | none => reject (lit "unknown lifecycle response kind " ++ strRepr kind)
  | some known => do
    let payload ← strictObject value known.fields [] place
    checkResponsePayload python payload place known
    return payload

/-! ## Messages -/

/-- A request that was validated. -/
structure Request where
  kind : RequestKind
  requestId : Str
  payload : List (Str × Json)
  deriving DecidableEq

/-- The dict of a request. -/
def envelope (kind requestId : Str) (payload : List (Str × Json)) : Json :=
  .obj [(lit "kind", .str kind), (lit "protocol_version", .str protocolVersion),
    (lit "request_id", .str requestId), (lit "payload", .obj payload)]

def Request.asDict (request : Request) : Json := envelope request.kind.text request.requestId request.payload

/-- `validate_lifecycle_request` -/
def validateLifecycleRequest (value : Json) : Except Raised Request := do
  let place := lit "lifecycle request"
  let obj ← strictObject value ["kind", "protocol_version", "request_id", "payload"] [] place
  let kind ← Contracts.identifier (member obj "kind") (place ++ lit ".kind")
  versionAt obj place "protocol_version"
  let requestId ← Contracts.identifier (member obj "request_id") (place ++ lit ".request_id")
  let (known, payload) ← validateRequestPayload python kind (member obj "payload") (place ++ lit ".payload")
  return ⟨known, requestId, payload⟩

/-- `lifecycle_request` -/
def lifecycleRequest (kind requestId : Str) (payload : List (Str × Json)) : Except Raised Request :=
  validateLifecycleRequest python (envelope kind requestId payload)

/-- `REGISTERED_ERROR_CODES` -/
def registeredErrorCodes : List Str :=
  ["invalid_request", "invalid_state", "unsupported", "prepare_failed", "start_failed", "endpoint_unavailable",
    "reset_failed", "stop_failed", "shutdown_failed", "internal_error"].map lit

/-- What a response says: `status` is `ok` or `error`. -/
inductive Status where
  | ok (payload : List (Str × Json))
  | error (code message : Str)
  deriving DecidableEq

/-- A response that was validated. -/
structure Response where
  kind : Str
  requestId : Str
  status : Status
  deriving DecidableEq

def responseFields : List String := ["kind", "protocol_version", "request_id", "status", "payload", "error"]

/-- A response whose status is `error`. -/
def validateError (obj : List (Str × Json)) (place : Str) : Except Raised Status := do
  refuseIf (member obj "payload" ≠ .null) (place ++ lit ".payload must be null when status is error")
  let error ← strictObject (member obj "error") ["code", "message"] [] (place ++ lit ".error")
  let code ← Contracts.identifier (member error "code") (place ++ lit ".error.code")
  refuseIf (code ∉ registeredErrorCodes) (place ++ lit ".error.code is not registered")
  let message ← boundedString (member error "message") (place ++ lit ".error.message") 1024 false
  return .error code message

/-- `validate_lifecycle_response` -/
def validateLifecycleResponse (members : List (Str × Json)) : Except Raised Response := do
  let place := lit "lifecycle response"
  let obj ← strictObject (.obj members) responseFields [] place
  let kind ← Contracts.identifier (member obj "kind") (place ++ lit ".kind")
  versionAt obj place "protocol_version"
  let requestId ← Contracts.identifier (member obj "request_id") (place ++ lit ".request_id")
  if member obj "status" = .str (lit "ok") then
    refuseIf (member obj "error" ≠ .null) (place ++ lit ".error must be null when status is ok")
    let payload ← validateResponsePayload python kind (member obj "payload") (place ++ lit ".payload")
    return ⟨kind, requestId, .ok payload⟩
  else if member obj "status" = .str (lit "error") then
    return ⟨kind, requestId, ← validateError obj place⟩
  else reject (place ++ lit ".status must be 'ok' or 'error'")

end Payloads

end TurnVector.CrossEngine.Lifecycle
