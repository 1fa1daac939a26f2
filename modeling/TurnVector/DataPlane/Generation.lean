import TurnVector.DataPlane.Client

/-! # One generation over the Data Plane

`_append_event` and `run_generation`. The durations, which are floats, are left out.
-/

namespace TurnVector.DataPlane

open Python

inductive ClientEvent where
  | none
  | cancelBeforeReceipt
  | cancelAfterReceipt
  | disconnect
  | backpressureTimeout
  deriving DecidableEq

/-- `_input_tokens` -/
def inputTokens (count : Nat) (seed : Int) : List Int :=
  (List.range count).map fun index => (seed + index * 17) % 32000 + 1

/-- What `run_generation` has of a request so far. -/
structure Progress where
  states : List RequestState
  outputs : List (Output × Event)
  statusVersions : List Nat
  terminal : Bool

def unexpectedRequest : Exc := .contractError (lit "Data Plane event belongs to an unexpected request")

/-- The sequence number that the next output frame must have. -/
def expectedSequence (outputs : List (Output × Event)) : Nat :=
  match outputs.getLast? with
  | none => 0
  | some last => last.1.outputSequence + last.1.tokenIds.length

def appendStatus (status : Status) (progress : Progress) : Except Exc Progress :=
  if status.statusVersion ≤ 1 || progress.statusVersions.getLast?.any (fun last => status.statusVersion ≤ last) then
    .error (.contractError (lit "Data Plane status versions are not strictly increasing"))
  else if status.state = .materialized && !(status.reservationCreated && status.backendHandleCreated) then
    .error (.contractError (lit "Data Plane materialized state lacks reservation or Backend state"))
  else if status.terminal ≠ decide (status.state = .terminal) then
    .error (.contractError (lit "Data Plane terminal flag and lifecycle state disagree"))
  else .ok {
    progress with
    states := progress.states ++ [status.state]
    statusVersions := progress.statusVersions ++ [status.statusVersion]
    terminal := progress.terminal || status.terminal }

def appendOutput (output : Output) (event : Event) (progress : Progress) : Except Exc Progress :=
  if output.tokenIds.isEmpty then .error (.contractError (lit "Data Plane emitted an empty Output Frame"))
  else if output.outputSequence ≠ expectedSequence progress.outputs then
    .error (.contractError (lit "Data Plane Output Sequence is not contiguous from zero"))
  else if output.publicationId.length ≠ 32 then
    .error (.contractError (lit "Data Plane publication ID must encode exactly 16 bytes"))
  else .ok { progress with outputs := progress.outputs ++ [(output, event)] }

/-- `terminal |= _append_event(event)` -/
def appendEvent (requestId : Str) (progress : Progress) (event : Event) : Except Exc Progress :=
  match event.content with
  | .directResponse _ => .ok progress
  | .statusUpdate status =>
    if status.requestId ≠ requestId then .error unexpectedRequest else appendStatus status progress
  | .outputFrame output =>
    if output.requestId ≠ requestId then .error unexpectedRequest else appendOutput output event progress
  -- an acknowledgement has no request id
  | .helloAck _ => .error unexpectedRequest

/-- The loop over what the server sends, with the cancellation after the first output. -/
def follow (types : ProtocolTypes) (requestId : Str) (cancelAfterOutput : Bool) :
    Nat → Progress → Option Event → Method DataPlaneClient (Progress × Option Event)
  | 0, progress, cancellation => return (progress, cancellation)
  | rounds + 1, progress, cancellation => do
    if progress.terminal then return (progress, cancellation)
    else
      let event ← DataPlaneClient.receive types
      let progress ← liftM (appendEvent requestId progress event)
      if cancelAfterOutput && !progress.outputs.isEmpty && cancellation.isNone then
        let reply ← DataPlaneClient.cancel types requestId
        let progress ← liftM (reply.2.foldlM (appendEvent requestId) progress)
        follow types requestId cancelAfterOutput rounds progress (some reply.1)
      else follow types requestId cancelAfterOutput rounds progress cancellation

def followRounds : Nat := 100000

def accepting : Progress := ⟨[.accepted], [], [], false⟩

/-- The cancellation before any event. -/
def cancelFirst (types : ProtocolTypes) (clientEvent : ClientEvent) (requestId : Str) :
    Method DataPlaneClient (Progress × Option Event) :=
  if clientEvent = .cancelBeforeReceipt then do
    let reply ← DataPlaneClient.cancel types requestId
    let progress ← liftM (reply.2.foldlM (appendEvent requestId) accepting)
    return (progress, some reply.1)
  else return (accepting, none)

/-- The part of `run_generation` that waits for the terminal status. -/
def generate (types : ProtocolTypes) (clientEvent : ClientEvent) (requestId : Str) :
    Method DataPlaneClient (Progress × Option Event) := do
  let start ← cancelFirst types clientEvent requestId
  let reached ← follow types requestId (clientEvent = .cancelAfterReceipt) followRounds start.1 start.2
  if reached.1.terminal then return reached
  else throw (.contractError (lit "Data Plane request did not reach a terminal Status Update"))

structure Outcome where
  progress : Progress
  cancellation : Option Event
  disconnected : Bool

/-- What `run_generation` does after its request was accepted. -/
def attend (types : ProtocolTypes) (clientEvent : ClientEvent) (requestId : Str) : Method DataPlaneClient Outcome :=
  match clientEvent with
  | .disconnect => do
    DataPlaneClient.close
    return ⟨accepting, none, true⟩
  | .backpressureTimeout => do
    DataPlaneClient.expectBackpressureDisconnect
    return ⟨accepting, none, true⟩
  | _ => do
    let reached ← generate types clientEvent requestId
    return ⟨reached.1, reached.2, false⟩

structure GenerationArguments where
  modelRevision : Str
  serviceClass : Str
  inputTokenCount : Nat
  maxOutputTokens : Int
  seed : Int
  clientEvent : ClientEvent

structure GenerationOutput where
  publicationId : Str
  sequence : Nat
  reserved : Bool
  tokenIds : List Nat
  monotonicNs : Nat
  deriving DecidableEq

structure GenerationResult where
  requestId : Str
  clientEvent : ClientEvent
  lifecycle : List RequestState
  outputs : List GenerationOutput
  accepted : Event
  cancellation : Option Event
  terminalStatusObserved : Bool
  connectionDisconnected : Bool
  generatedTokenIds : List Nat
  protocolTrace : List TraceEntry
  requestStartedNs : Nat
  wallStartedNs : Nat
  wallFinishedNs : Nat
  deriving DecidableEq

def reported (item : Output × Event) : GenerationOutput where
  publicationId := item.1.publicationId
  sequence := item.1.outputSequence
  reserved := item.1.outputCapacityReserved
  tokenIds := item.1.tokenIds
  monotonicNs := item.2.monotonicNs

/-- The body of `run_generation` on a connected client. -/
def session (types : ProtocolTypes) (arguments : GenerationArguments) (wallStartedNs : Nat) :
    Method DataPlaneClient GenerationResult := do
  let _ ← DataPlaneClient.negotiate types
  let requestStartedNs ← DataPlaneClient.monotonicNs
  let submitted ← DataPlaneClient.submit types {
    modelRevision := arguments.modelRevision
    inputTokenIds := inputTokens arguments.inputTokenCount arguments.seed
    maxOutputTokens := arguments.maxOutputTokens
    samplingSeed := arguments.seed
    serviceClass := arguments.serviceClass }
  let outcome ← attend types arguments.clientEvent submitted.1
  let wallFinishedNs ← DataPlaneClient.monotonicNs
  let self ← get
  return {
    requestId := submitted.1
    clientEvent := arguments.clientEvent
    lifecycle := outcome.progress.states
    outputs := outcome.progress.outputs.map reported
    accepted := submitted.2
    cancellation := outcome.cancellation
    terminalStatusObserved := outcome.progress.terminal
    connectionDisconnected := outcome.disconnected
    generatedTokenIds := outcome.progress.outputs.flatMap fun item => item.1.tokenIds
    protocolTrace := self.trace
    requestStartedNs
    wallStartedNs
    wallFinishedNs }

/-- `run_generation`. `connection` is what `connect` on the endpoint meets: a socket, or an error. -/
def runGeneration (types : ProtocolTypes) (descriptor : DataPlaneDescriptor) (connection : Except Str Socket)
    (clock : Nat → Nat) (arguments : GenerationArguments) : Except Exc GenerationResult :=
  match connection with
  | .error text => .error (.dataPlaneEnvironmentError
      (lit "cannot connect to Data Plane socket " ++ descriptor.socketPath ++ lit ": " ++ text))
  | .ok socket =>
    (Method.call (session types arguments (clock 0)) {
      descriptor
      socket := some socket
      commandId := 0
      maxFrameBytes := descriptor.maxFrameBytes
      serverWriteTimeoutsMs := (0, 0)
      trace := []
      clock := fun n => clock (n + 1) }).1

end TurnVector.DataPlane
