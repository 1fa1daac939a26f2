import TurnVector.CrossEngine.Lifecycle.Payloads
import TurnVector.Effects.Triple

/-! # The lifecycle client

`LifecycleStateMachine` and `EngineLifecycleClient` of `cross_engine/lifecycle.py`. The lock makes each request one
step; the thread that reads the adapter's lines runs between them.
-/

namespace TurnVector.CrossEngine.Lifecycle

open Python Json Contracts Effects Action

/-! ## States -/

inductive LifecycleState where
  | spawned
  | negotiated
  | prepared
  | started
  | ready
  | stopped
  | terminated
  deriving DecidableEq

def LifecycleState.value : LifecycleState → Str
  | .spawned => lit "SPAWNED"
  | .negotiated => lit "NEGOTIATED"
  | .prepared => lit "PREPARED"
  | .started => lit "STARTED"
  | .ready => lit "READY"
  | .stopped => lit "STOPPED"
  | .terminated => lit "TERMINATED"

/-- `TRANSITIONS` -/
def transitions : LifecycleState → RequestKind → Option (ResponseKind × LifecycleState)
  | .spawned, .hello => some (.helloAck, .negotiated)
  | .negotiated, .prepareSession => some (.prepared, .prepared)
  | .prepared, .startTarget => some (.targetStarted, .started)
  | .started, .describeEndpoint => some (.endpointReady, .ready)
  | .ready, .resetState => some (.stateReset, .ready)
  | .ready, .stopTarget => some (.targetStopped, .stopped)
  | .started, .stopTarget => some (.targetStopped, .stopped)
  | .stopped, .shutdown => some (.shutdownAck, .terminated)
  | _, _ => none

structure LifecycleStateMachine where
  state : LifecycleState
  requestIds : List Str
  responseIds : List Str

/-! ## The client -/

/-- An item of the queue of responses. -/
inductive Observed where
  | line (raw : Bytes)
  | eof
  | failed (text : Str)

/-- What a session did: wrote a request, took a line for the answer to it, and made the transition. -/
inductive Entry where
  | sent (request : Request) (raw : Bytes)
  | answered (requestId : Str)
  | accepted (kind : RequestKind) (requestId : Str)

/-- The arguments that the constructor accepted. -/
structure Settings where
  lineLimit : Int
  stderrLimit : Int
  timeouts : RequestKind → ℚ
  lineLimit_ok : 1 ≤ lineLimit ∧ lineLimit ≤ maxInteger
  stderrLimit_ok : 1 ≤ stderrLimit ∧ stderrLimit ≤ maxInteger
  timeouts_ok : ∀ kind, 0 < timeouts kind

/-- `reading` says whether the thread still reads the lines of the adapter. -/
structure Client where
  machine : LifecycleStateMachine
  responses : List Observed
  reading : Bool
  failed : Bool
  sequence : Nat
  log : List Entry

def Client.new : Client := ⟨⟨.spawned, [], []⟩, [], true, false, 0, []⟩

def Client.count (client : Client) : Client := { client with sequence := client.sequence + 1 }

def Client.fail (client : Client) : Client := { client with failed := true }

def Client.note (client : Client) (entry : Entry) : Client := { client with log := client.log ++ [entry] }

def Client.register (client : Client) (requestId : Str) : Client :=
  { client with machine := { client.machine with requestIds := client.machine.requestIds ++ [requestId] } }

def Client.answer (client : Client) (requestId : Str) : Client :=
  { client with machine := { client.machine with responseIds := client.machine.responseIds ++ [requestId] } }

def Client.enter (client : Client) (state : LifecycleState) : Client :=
  { client with machine := { client.machine with state := state } }

def Client.dequeue (client : Client) : Client := { client with responses := client.responses.tail }

abbrev Session (α : Type) := Action Client Raised α

/-- A number that is a timeout. `other` is a value of another type, and a `bool`. -/
inductive WaitSeconds where
  | int (n : Int)
  | float (value : PyFloat)
  | other

/-- The arguments of `request`. -/
structure Call where
  kind : Str
  payload : List (Str × Json)
  requestId : Option Str
  timeout : Option WaitSeconds

/-- What the adapter's process answers to a request: whether it takes what is written, its exit code as it is polled
for a message, whether its stderr has overflowed, and its exit code after the response, waited for or polled. -/
structure Outside where
  writes : Bool
  exitAtFailure : Option Int
  overflowed : Bool
  exit : Option Int
  overflowedAtExit : Bool

/-! ## One request -/

def contractError (text : Str) : Raised := ⟨lit "ContractError", text⟩

def remoteErrorClass : Str := lit "LifecycleRemoteError"

/-- `LifecycleRemoteError` -/
def remoteError (code message : Str) : Raised :=
  ⟨remoteErrorClass, lit "lifecycle adapter returned " ++ code ++ lit ": " ++ message⟩

def overflowError (text : Str) : Raised := ⟨lit "OverflowError", text⟩

/-- `self._failed = True`, and an exception. -/
def failClosed {α : Type} (error : Raised) : Session α := do
  modify Client.fail
  throw error

def exitText : Option Int → Str
  | some code => intText code
  | none => lit "None"

/-- `f"{n:06d}"` -/
def sixDigits (n : Nat) : Str := List.replicate (6 - (natText n).length) (cp 48) ++ natText n

/-- `request_id or f"request-{self._sequence:06d}"` -/
def currentId (requestId : Option Str) (sequence : Nat) : Str :=
  match requestId with
  | some (c :: text) => c :: text
  | _ => lit "request-" ++ sixDigits sequence

section Request

variable (python : Interpreter) (settings : Settings)

/-- `expected_response` -/
def expectedResponse (request : Request) : Session (ResponseKind × LifecycleState) := do
  let validated ← lift (validateLifecycleRequest python request.asDict)
  let client ← get
  onlyIf (occurs validated.requestId client.machine.requestIds = true)
    (throw (contractError (lit "duplicate lifecycle request_id " ++ strRepr validated.requestId)))
  match transitions client.machine.state validated.kind with
  | none =>
    throw (contractError (lit "lifecycle request " ++ strRepr validated.kind.text ++ lit " is invalid in state " ++
      client.machine.state.value))
  | some expected =>
    modify (·.register validated.requestId)
    return expected

/-- The bytes of a request. -/
def encodeRequest (request : Request) : Except Raised Bytes :=
  match withFloats python request.asDict with
  | some value => encodeJsonlLine python.limits value settings.lineLimit
  | none => reject (lit "value cannot be encoded as canonical JSON")

/-- `fields_by_kind` of `_compare_echoed_identities`. -/
def echoedFields : RequestKind → List (String × String)
  | .hello => [("requested_adapter_protocol", "adapter_protocol")]
  | .prepareSession => ["run_id", "session_id", "target_sha256", "config_sha256", "model_sha256",
      "reset_policy"].map fun field => (field, field)
  | .startTarget => []
  | .describeEndpoint => [("target_id", "target_id"), ("session_id", "session_id")]
  | .resetState => [("reset_ordinal", "reset_ordinal"), ("reset_policy", "reset_policy"),
      ("expected_prior_inventory_sha256", "prior_inventory_sha256")]
  | .stopTarget => [("expected_process_group_leader_pid", "process_group_leader_pid")]
  | .shutdown => [("session_id", "session_id")]

/-- `_compare_echoed_identities` -/
def compareEchoedIdentities (kind : RequestKind) (requestPayload responsePayload : List (Str × Json)) :
    Except Raised Unit :=
  (echoedFields kind).forM fun field =>
    refuseIf (member requestPayload field.1 ≠ member responsePayload field.2)
      (lit "lifecycle response " ++ strRepr (lit field.2) ++ lit " does not echo request " ++ strRepr (lit field.1))

/-- The texts of a response that is refused for its kind. -/
def wrongKind (expected : ResponseKind) (state : LifecycleState) : Raised :=
  contractError (lit "lifecycle response kind must be " ++ strRepr expected.text ++ lit " in state " ++ state.value)

/-- `accept_response` -/
def acceptResponse (request : Request) (response : List (Str × Json)) (expected : ResponseKind)
    (next : LifecycleState) : Session (List (Str × Json)) := do
  let client ← get
  let envelope ← lift (strictObject (.obj response) responseFields [] (lit "lifecycle response"))
  let observed ← lift (Contracts.identifier (member envelope "kind") (lit "lifecycle response.kind"))
  onlyIf (observed ≠ expected.text) (throw (wrongKind expected client.machine.state))
  let validated ← lift (validateLifecycleResponse python response)
  onlyIf (occurs validated.requestId client.machine.requestIds = false)
    (throw (contractError (lit "unknown lifecycle response request_id " ++ strRepr validated.requestId)))
  onlyIf (occurs validated.requestId client.machine.responseIds = true)
    (throw (contractError (lit "duplicate lifecycle response request_id " ++ strRepr validated.requestId)))
  onlyIf (validated.requestId ≠ request.requestId)
    (throw (contractError (lit "lifecycle response request_id does not echo the request")))
  onlyIf (validated.kind ≠ expected.text) (throw (wrongKind expected client.machine.state))
  modify fun client => (client.answer validated.requestId).note (.answered validated.requestId)
  match validated.status with
  | .error code message => throw (remoteError code message)
  | .ok payload =>
    lift (compareEchoedIdentities request.kind request.payload payload)
    modify fun client => (client.enter next).note (.accepted request.kind validated.requestId)
    return payload

/-- `stdin.write` and `flush`. -/
def writeRequest (request : Request) (raw : Bytes) (outside : Outside) : Session Unit := do
  modify (·.note (.sent request raw))
  onlyIf (outside.writes = false)
    (failClosed (contractError (lit "lifecycle adapter closed stdin (exit=" ++ exitText outside.exitAtFailure ++
      lit ")")))

/-- `float(wait_seconds)`, of a timeout that is finite and positive. -/
def waitSeconds (kind : RequestKind) (timeout : Option WaitSeconds) : Session ℚ :=
  let refused := failClosed (contractError (lit "lifecycle request timeout must be finite and positive"))
  match timeout with
  | none => return settings.timeouts kind
  | some (.int n) =>
    match python.floatOf n with
    | none => throw (overflowError (lit "int too large to convert to float"))
    | some seconds => if n ≤ 0 then refused else return seconds
  | some (.float (.finite seconds)) => if seconds ≤ 0 then refused else return seconds
  | some _ => refused

/-- `self._responses.get(timeout=seconds)`. An empty queue is waited for; the lock refuses to wait for too long. -/
def takeObserved (kind : RequestKind) (seconds : ℚ) : Session Observed := do
  match (← get).responses with
  | observed :: _ =>
    modify Client.dequeue
    return observed
  | [] =>
    if python.timeoutMax < seconds then throw (overflowError (lit "timeout value is too large"))
    else failClosed (contractError (lit "lifecycle request " ++ strRepr kind.text ++ lit " timed out"))

/-- The `try` around the response: any `ContractError` but a `LifecycleRemoteError` fails the client. -/
def respond (request : Request) (raw : Bytes) (expected : ResponseKind) (next : LifecycleState) :
    Session (List (Str × Json)) :=
  rescue (do
      let response ← lift (decodeJsonlLine python.limits raw settings.lineLimit (lit "lifecycle response line"))
      acceptResponse python request response expected next)
    fun error => if error.className = lit "ContractError" then failClosed error else throw error

def stderrOverflow : Raised :=
  contractError (lit "lifecycle adapter stderr exceeds the " ++ intText settings.stderrLimit ++ lit "-byte bound")

/-- The checks of the process after a response. -/
def checkProcess (next : LifecycleState) (outside : Outside) : Session Unit := do
  onlyIf (outside.overflowed = true) (failClosed (stderrOverflow settings))
  if next = .terminated then
    match outside.exit with
    | none => failClosed (contractError (lit "lifecycle adapter did not exit after shutdown"))
    | some code => do
      onlyIf (outside.overflowedAtExit = true) (failClosed (stderrOverflow settings))
      onlyIf (code ≠ 0)
        (failClosed (contractError (lit "lifecycle adapter exited nonzero after shutdown: " ++ intText code)))
  else
    match outside.exit with
    | none => return ()
    | some code =>
      onlyIf (code ≠ 0) (failClosed (contractError (lit "lifecycle adapter exited nonzero: " ++ intText code)))

/-- What follows the writing of a request. -/
def awaitResponse (request : Request) (expected : ResponseKind) (next : LifecycleState) (timeout : Option WaitSeconds)
    (outside : Outside) : Session (List (Str × Json)) := do
  let seconds ← waitSeconds python settings request.kind timeout
  match ← takeObserved python request.kind seconds with
  | .eof =>
    failClosed (contractError (lit "lifecycle adapter reached EOF before response (exit=" ++
      exitText outside.exitAtFailure ++ lit ")"))
  | .failed text => failClosed (contractError (lit "cannot read lifecycle response: " ++ text))
  | .line raw =>
    let result ← respond python settings request raw expected next
    checkProcess settings next outside
    return result

/-- `EngineLifecycleClient.request` -/
def request (call : Call) (outside : Outside) : Session (List (Str × Json)) := do
  let client ← get
  onlyIf (client.failed = true) (throw (contractError (lit "lifecycle client is failed closed")))
  onlyIf (client.machine.state = .terminated) (throw (contractError (lit "lifecycle client is already terminated")))
  modify Client.count
  let request ← lift (lifecycleRequest python call.kind (currentId call.requestId (client.sequence + 1)) call.payload)
  let (expected, next) ← expectedResponse python request
  let raw ← lift (encodeRequest python settings request)
  writeRequest request raw outside
  awaitResponse python settings request expected next call.timeout outside

end Request

/-! ## Runs -/

/-- What happens to a client: its thread reads the adapter's stdout, or it is called. -/
inductive Event where
  | readline (answer : Except Str Bytes)
  | call (call : Call) (outside : Outside)

/-- One turn of `_read_stdout`. -/
def Client.receive (settings : Settings) (client : Client) (answer : Except Str Bytes) : Client :=
  if client.reading then
    match answer with
    | .error text => { client with responses := client.responses ++ [.failed text], reading := false }
    | .ok [] => { client with responses := client.responses ++ [.eof], reading := false }
    | .ok raw => { client with
        responses := client.responses ++ [.line raw]
        reading := decide (raw.length ≤ settings.lineLimit ∧ [lf] <:+ raw) }
  else client

def Client.step (python : Interpreter) (settings : Settings) (client : Client) : Event → Client
  | .readline answer => client.receive settings answer
  | .call call outside => (run (request python settings call outside) client).2

def Client.run (python : Interpreter) (settings : Settings) (client : Client) (events : List Event) : Client :=
  events.foldl (Client.step python settings) client

end TurnVector.CrossEngine.Lifecycle
