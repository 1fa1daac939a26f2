import TurnVector.DataPlane.Protocol

/-! # The Data Plane client

`DataPlaneClient`. The socket is what the peer does to it: what each `recv` finds and what each `sendall` meets.
-/

namespace TurnVector.DataPlane

open Python

def protocolFamily : Str := lit "turnvector.data-plane"
def protocolMajor : Nat := 1
def protocolMinor : Nat := 1
def maxBinaryFrameBytes : Nat := 64 * 1024 * 1024
def maxQualificationServerWriteTimeoutMs : Nat := 5000
def clientBuildIdentity : Str := lit "turnvector-benchmark-data-plane-client-v1"

/-- What `DataPlaneDescriptor.parse` accepted. -/
structure DataPlaneDescriptor where
  socketPath : Str
  descriptorSha256 : Str
  maxFrameBytes : Nat
  maxOutstandingCommands : Nat
  maxCommandBytes : Nat
  maxServerWriteTimeoutMs : Nat
  maxFrameBytes_le : maxFrameBytes ≤ maxBinaryFrameBytes
  maxCommandBytes_le : maxCommandBytes ≤ maxFrameBytes
  maxServerWriteTimeoutMs_le : maxServerWriteTimeoutMs ≤ maxQualificationServerWriteTimeoutMs

/-- What the next `recv` finds. No bytes at all are the end of the stream. -/
inductive Arrival where
  | data (chunk : Bytes)
  | timeout
  | error (text : Str)
  deriving DecidableEq

/-- A connected socket: what is still to arrive, the errors that the next calls of `sendall` raise, and the frames
handed to `sendall` so far. -/
structure Socket where
  arrivals : List Arrival
  sendErrors : List (Option Str)
  written : List Bytes

/-- An entry of `trace`. The source keeps the kind, the time and the length of a received frame. -/
inductive TraceEntry where
  | sent (kind : Str) (monotonicNs payloadBytes : Nat)
  | received (event : Event)
  deriving DecidableEq

structure DataPlaneClient where
  descriptor : DataPlaneDescriptor
  socket : Option Socket
  commandId : Nat
  maxFrameBytes : Nat
  serverWriteTimeoutsMs : Nat × Nat
  trace : List TraceEntry
  clock : Nat → Nat

/-- The received frames of a trace, in order. -/
def received (trace : List TraceEntry) : List Event :=
  trace.filterMap fun
    | .sent .. => none
    | .received event => some event

@[simp] theorem received_append (t u : List TraceEntry) : received (t ++ u) = received t ++ received u := by
  simp [received]

@[simp] theorem received_sent (kind : Str) (ns bytes : Nat) : received [.sent kind ns bytes] = [] := rfl

@[simp] theorem received_received (event : Event) : received [.received event] = [event] := rfl

@[simp] theorem received_map (events : List Event) : received (events.map .received) = events := by
  unfold received
  induction events with
  | nil => rfl
  | cons e events ih => simp [ih]

/-! ## Frames on the socket -/

/-- `struct.pack(">I", n)` of a bounded length. -/
def packLength (n : Nat) : Bytes := [byte (n / 2 ^ 24), byte (n / 2 ^ 16), byte (n / 2 ^ 8), byte n]

/-- `struct.unpack(">I", header)[0]` -/
def unpackLength (header : Bytes) : Nat := header.foldl (fun n b => 256 * n + b.val) 0

def closed : Exc := .dataPlaneDisconnected (lit "Data Plane connection is closed")

/-- The loop of `_read_exact` over what arrives. -/
def recvExact : Nat → List Arrival → Except Exc Bytes × List Arrival
  | 0, arrivals => (.ok [], arrivals)
  | _ + 1, [] => (.error (.dataPlaneEnvironmentError (lit "Data Plane frame timed out")), [])
  | _ + 1, .timeout :: rest => (.error (.dataPlaneEnvironmentError (lit "Data Plane frame timed out")), rest)
  | _ + 1, .error text :: rest => (.error (.dataPlaneDisconnected (lit "Data Plane read failed: " ++ text)), rest)
  | _ + 1, .data [] :: rest => (.error (.dataPlaneDisconnected (lit "Data Plane connection reached EOF")), rest)
  | remaining + 1, .data (b :: chunk) :: rest =>
    if remaining < chunk.length then
      (.ok (b :: chunk.take remaining), .data (chunk.drop remaining) :: rest)
    else
      let next := recvExact (remaining - chunk.length) rest
      (next.1.map fun bytes => b :: chunk ++ bytes, next.2)

namespace DataPlaneClient

def monotonicNs : Method DataPlaneClient Nat := do
  let self ← get
  set { self with clock := fun n => self.clock (n + 1) }
  return self.clock 0

def close : Method DataPlaneClient Unit := modify fun self => { self with socket := none }

/-- `_send` -/
def send (types : ProtocolTypes) (message : ClientFrame) (kind : Str) : Method DataPlaneClient Unit := do
  let self ← get
  match self.socket with
  | none => throw closed
  | some socket =>
    let payload := types.serializeToString message
    if payload.isEmpty || payload.length > min self.maxFrameBytes self.descriptor.maxCommandBytes then
      throw (.contractError (lit "outgoing Data Plane " ++ kind ++ lit " frame is empty or over its bound"))
    else
      set { self with socket := some {
        socket with
        sendErrors := socket.sendErrors.tail
        written := socket.written ++ [packLength payload.length ++ payload] } }
      match socket.sendErrors.head?.join with
      | some text => throw (.dataPlaneDisconnected (lit "Data Plane write failed: " ++ text))
      | none =>
        let now ← monotonicNs
        modify fun self => { self with trace := self.trace ++ [.sent kind now payload.length] }

/-- `_read_exact` -/
def readExact (size : Nat) : Method DataPlaneClient Bytes := do
  let self ← get
  match self.socket with
  | none => throw closed
  | some socket =>
    let chunks := recvExact size socket.arrivals
    set { self with socket := some { socket with arrivals := chunks.2 } }
    liftM chunks.1

/-- The checks of `_receive` on a payload that was read. -/
def parseFrame (types : ProtocolTypes) (payload : Bytes) : Except Exc ServerFrame :=
  match types.parseFromString payload with
  | .error text => .error (.contractError (lit "Data Plane emitted malformed Protobuf: " ++ text))
  | .ok (consumed, frame) =>
    if consumed ≠ payload.length then
      .error (.contractError (lit "Data Plane Protobuf parser did not consume the complete frame"))
    else match frame with
      | none => .error (.contractError (lit "Data Plane ServerFrame contains no frame variant"))
      | some frame => .ok frame

/-- `_receive` -/
def receive (types : ProtocolTypes) : Method DataPlaneClient Event := do
  let declared := unpackLength (← readExact 4)
  let self ← get
  if declared = 0 || declared > self.maxFrameBytes then
    throw (.contractError (lit "Data Plane declared frame length " ++ natText declared ++ lit " outside [1, " ++
      natText self.maxFrameBytes ++ lit "]"))
  else
    let payload ← readExact declared
    let frame ← liftM (parseFrame types payload)
    let receivedNs ← monotonicNs
    let event ← liftM (normalizeServerFrame frame receivedNs declared)
    modify fun self => { self with trace := self.trace ++ [.received event] }
    return event

/-! ## Negotiation -/

def helloFrame (descriptor : DataPlaneDescriptor) : Except Exc ClientFrame := do
  let digest ← fromHex descriptor.descriptorSha256
  return .hello {
    family := protocolFamily
    major := protocolMajor
    minors := [⟨protocolMinor, digest⟩]
    limits := ⟨descriptor.maxFrameBytes, descriptor.maxOutstandingCommands, descriptor.maxCommandBytes⟩
    buildIdentity := clientBuildIdentity
    protocolSupportManifestSha256 := digest }

def checkLimit (key : Str) (value offered : Nat) : Except Exc Unit :=
  if 0 < value ∧ value ≤ offered then .ok ()
  else .error (.contractError (lit "Data Plane effective " ++ key ++ lit " exceeds the client offer"))

/-- The checks of `negotiate` on the acknowledgement. -/
def checkAck (descriptor : DataPlaneDescriptor) (ack : HelloAck) : Except Exc Unit := do
  if ack.family ≠ protocolFamily ∨ ack.major ≠ protocolMajor ∨ ack.selectedMinor ≠ protocolMinor ∨
      ack.selectedDescriptorSha256 ≠ descriptor.descriptorSha256 then
    throw (.contractError (lit "Data Plane did not select the exact locked protocol entry"))
  -- `capabilities == sorted(set(capabilities))` says that they increase
  if ¬ ack.effectiveCapabilityIds.Pairwise (· < ·) ∨ ack.effectiveCapabilityIds.any (fun value => value = 0) then
    throw (.contractError (lit "Data Plane effective capability IDs are not sorted unique nonzero"))
  checkLimit (lit "max_frame_bytes") ack.effectiveLimits.maxFrameBytes descriptor.maxFrameBytes
  checkLimit (lit "max_outstanding_commands") ack.effectiveLimits.maxOutstandingCommands
    descriptor.maxOutstandingCommands
  checkLimit (lit "max_command_bytes") ack.effectiveLimits.maxCommandBytes descriptor.maxCommandBytes
  if ack.daemonInstanceId.length ≠ 32 then
    throw (.contractError (lit "Data Plane daemon instance ID must encode exactly 16 bytes"))
  if ack.installationPolicyIdentity.length ≠ 64 then
    throw (.contractError (lit "Data Plane installation policy identity must encode 32 bytes"))
  if [ack.noProgressWriteTimeoutMs, ack.maximumCompletionWriteTimeoutMs].any
      (fun value => !(0 < value && value ≤ descriptor.maxServerWriteTimeoutMs)) then
    throw (.contractError (lit "Data Plane write durations exceed the qualification hard maximum"))

def negotiate (types : ProtocolTypes) : Method DataPlaneClient HelloAck := do
  let frame ← liftM (helloFrame (← get).descriptor)
  send types frame (lit "hello")
  let response ← receive types
  match response.content with
  | .helloAck ack =>
    liftM (checkAck (← get).descriptor ack)
    modify fun self => {
      self with
      maxFrameBytes := ack.effectiveLimits.maxFrameBytes
      serverWriteTimeoutsMs := (ack.noProgressWriteTimeoutMs, ack.maximumCompletionWriteTimeoutMs) }
    return ack
  | _ => throw (.contractError (lit "Data Plane first response must be HelloAck"))

/-! ## Commands -/

/-- `_next_command` -/
def nextCommand : Method DataPlaneClient Nat := do
  modify fun self => { self with commandId := self.commandId + 1 }
  let self ← get
  if self.commandId ≥ 2 ^ 64 then throw (.contractError (lit "Data Plane command ID overflow"))
  else return self.commandId

structure SubmitArguments where
  modelRevision : Str
  inputTokenIds : List Int
  maxOutputTokens : Int
  samplingSeed : Int
  serviceClass : Str

/-- The checks of `submit` before it takes a command id. -/
def checkArguments (arguments : SubmitArguments) : Except Exc Nat :=
  match serviceClasses.lookup arguments.serviceClass with
  | none => .error (.contractError (lit "unknown Service Class " ++ strRepr arguments.serviceClass))
  | some serviceClass =>
    if arguments.inputTokenIds.isEmpty || arguments.inputTokenIds.any fun token => !(0 ≤ token && token < 2 ^ 32) then
      .error (.contractError (lit "Data Plane input tokens must be a non-empty uint32 sequence"))
    else .ok serviceClass

def submitFrame (arguments : SubmitArguments) (serviceClass commandId : Nat) : Except Exc ClientFrame := do
  let modelRevision ← fromHex (← sha256Text arguments.modelRevision (lit "model revision"))
  return .command commandId (.submitRequest {
    modelRevision
    inputTokenIds := arguments.inputTokenIds.map Int.toNat
    maxOutputTokens := ← positiveInt arguments.maxOutputTokens (lit "max output tokens") (2 ^ 32 - 1)
    samplingSeed := ← positiveInt arguments.samplingSeed (lit "sampling seed") (2 ^ 64 - 1)
    serviceClass })

/-- The request that a Submit Direct Response accepts. -/
def checkAccepted (modelRevision : Str) (commandId : Nat) (content : Content) : Except Exc Str :=
  let causal := Except.error (.contractError (lit "causal Data Plane event preceded the Submit Direct Response"))
  match content with
  | .directResponse direct =>
    if direct.commandId ≠ commandId then causal
    else match direct.response with
      | .error errorCode reasonCode _ _ =>
        .error (.contractError (lit "Data Plane rejected qualification request: error_code=" ++ natText errorCode ++
          lit ", reason_code=" ++ natText reasonCode))
      | .cancellationAccepted .. => .error (.contractError (lit "Submit Direct Response is not RequestAccepted"))
      | .requestAccepted requestId frozenModelRevision statusVersion state reservationCreated backendHandleCreated =>
        if requestId.length ≠ 32 ∨ frozenModelRevision ≠ modelRevision ∨ statusVersion ≠ 1 ∨ state ≠ .accepted ∨
            reservationCreated ∨ backendHandleCreated then
          .error (.contractError (lit "RequestAccepted violates the pre-Admission contract"))
        else .ok requestId
  | _ => causal

/-- `submit`: the request id, and the response it comes from. -/
def submit (types : ProtocolTypes) (arguments : SubmitArguments) : Method DataPlaneClient (Str × Event) := do
  let serviceClass ← liftM (checkArguments arguments)
  let commandId ← nextCommand
  let frame ← liftM (submitFrame arguments serviceClass commandId)
  send types frame (lit "submit_request")
  let response ← receive types
  let requestId ← liftM (checkAccepted arguments.modelRevision commandId response.content)
  return (requestId, response)

/-- The checks of `cancel` on a Direct Response. -/
def checkCancellation (commandId : Nat) (requestId : Str) (direct : Direct) : Except Exc Unit :=
  if direct.commandId ≠ commandId then
    .error (.contractError (lit "Data Plane returned an unexpected Direct Response command ID"))
  else match direct.response with
    | .cancellationAccepted cancelled eventSequence =>
      if cancelled ≠ requestId ∨ eventSequence = 0 then
        .error (.contractError (lit "CancellationAccepted identity or Event Sequence is invalid"))
      else .ok ()
    | _ => .error (.contractError (lit "Cancel Direct Response is not CancellationAccepted"))

/-- The loop of `cancel`. -/
def awaitCancellation (types : ProtocolTypes) (commandId : Nat) (requestId : Str) :
    Nat → List Event → Method DataPlaneClient (Event × List Event)
  | 0, _ => throw (.contractError (lit "Data Plane omitted the Cancellation Direct Response"))
  | rounds + 1, intervening => do
    let response ← receive types
    match response.content with
    | .directResponse direct =>
      liftM (checkCancellation commandId requestId direct)
      return (response, intervening)
    | _ => awaitCancellation types commandId requestId rounds (intervening ++ [response])

def cancelRounds : Nat := 10000

/-- `cancel`: the response, and the events that preceded it. -/
def cancel (types : ProtocolTypes) (requestId : Str) : Method DataPlaneClient (Event × List Event) := do
  if requestId.length ≠ 32 then throw (.contractError (lit "request ID must encode exactly 16 bytes"))
  else
    let commandId ← nextCommand
    let bytes ← liftM (fromHex requestId)
    send types (.command commandId (.cancelRequest ⟨bytes⟩)) (lit "cancel_request")
    awaitCancellation types commandId requestId cancelRounds []

/-- `recv(65_536)` after `recv(65_536)`, until the peer is gone. -/
def awaitDisconnect (deadline : Nat) : List Arrival → Method DataPlaneClient Unit
  | [] => throw (.contractError (lit "Data Plane did not disconnect the stalled backpressure client"))
  | arrival :: rest => do
    if (← monotonicNs) < deadline then
      match arrival with
      | .timeout => throw (.contractError (lit "Data Plane did not disconnect the stalled backpressure client"))
      | .error _ => return
      | .data chunk => if chunk.isEmpty then return else awaitDisconnect deadline rest
    else throw (.contractError (lit "Data Plane did not disconnect the stalled backpressure client"))

def pieces : Arrival → List Arrival
  | .data (b :: chunk) => ((b :: chunk).toChunks 65536).map .data
  | arrival => [arrival]

/-- `expect_backpressure_disconnect`, after the pause. -/
def expectBackpressureDisconnect : Method DataPlaneClient Unit := do
  let self ← get
  match self.socket with
  | none => throw closed
  | some socket =>
    let deadline := (← monotonicNs) + 500000000
    awaitDisconnect deadline (socket.arrivals.flatMap pieces)

/-! ## What a call changes -/

/-- The frames handed to the socket so far. -/
def written (self : DataPlaneClient) : List Bytes := self.socket.elim [] (·.written)

/-- The client read frames within its bound, and did nothing else. -/
structure Reads (before after : DataPlaneClient) : Prop where
  descriptor : after.descriptor = before.descriptor
  commandId : after.commandId = before.commandId
  maxFrameBytes : after.maxFrameBytes = before.maxFrameBytes
  written : after.written = before.written
  connected : after.socket.isSome = before.socket.isSome
  trace : ∃ events : List Event,
    after.trace = before.trace ++ events.map .received ∧ ∀ e ∈ events, e.payloadBytes ≤ before.maxFrameBytes

theorem Reads.refl (self : DataPlaneClient) : Reads self self := ⟨rfl, rfl, rfl, rfl, rfl, [], by simp, by simp⟩

theorem Reads.trans (a b c : DataPlaneClient) (h : Reads a b) (h' : Reads b c) : Reads a c := by
  obtain ⟨es, ht, hb⟩ := h.trace
  obtain ⟨es', ht', hb'⟩ := h'.trace
  refine ⟨h'.descriptor.trans h.descriptor, h'.commandId.trans h.commandId, h'.maxFrameBytes.trans h.maxFrameBytes,
    h'.written.trans h.written, h'.connected.trans h.connected, es ++ es', ?_, ?_⟩
  · rw [ht', ht, List.map_append, List.append_assoc]
  · intro e he
    rcases List.mem_append.mp he with he | he
    · exact hb e he
    · rw [← h.maxFrameBytes]
      exact hb' e he

theorem reads_lift {α : Type} (e : Except Exc α) : Method.Always Reads (liftM e : Method DataPlaneClient α) := by
  intro self
  rw [Method.call_liftM]
  exact Reads.refl self

theorem reads_throw {α : Type} (e : Exc) : Method.Always Reads (throw e : Method DataPlaneClient α) :=
  fun self => Reads.refl self

theorem reads_pure {α : Type} (a : α) : Method.Always Reads (pure a : Method DataPlaneClient α) :=
  fun self => Reads.refl self

theorem call_monotonicNs (self : DataPlaneClient) :
    Method.call monotonicNs self = (.ok (self.clock 0), { self with clock := fun n => self.clock (n + 1) }) := rfl

theorem reads_monotonicNs : Method.Always Reads monotonicNs := by
  intro self
  rw [call_monotonicNs]
  exact ⟨rfl, rfl, rfl, rfl, rfl, [], by simp, by simp⟩

theorem reads_readExact (size : Nat) : Method.Always Reads (readExact size) := by
  intro self
  unfold readExact
  rw [Method.call_bind, Method.call_get]
  dsimp only
  split
  · exact Reads.refl self
  case h_2 socket hs =>
    rw [Method.call_bind, Method.call_set]
    dsimp only
    rw [Method.call_liftM]
    refine ⟨rfl, rfl, rfl, ?_, ?_, [], by simp, by simp⟩
    · simp [DataPlaneClient.written, hs]
    · simp [hs]

theorem reads_receive (types : ProtocolTypes) : Method.Always Reads (receive types) := by
  apply Method.always_bind Reads.trans (reads_readExact 4)
  intro header self
  rw [Method.call_bind, Method.call_get]
  dsimp only
  split
  · exact Reads.refl self
  case isFalse hd =>
    have hbound : unpackLength header ≤ self.maxFrameBytes := by
      simp only [Bool.or_eq_true, decide_eq_true_eq, not_or, not_lt] at hd
      exact hd.2
    have hread := reads_readExact (unpackLength header) self
    rw [Method.call_bind]
    rcases hc : Method.call (readExact (unpackLength header)) self with ⟨e | payload, c⟩
    · rwa [hc] at hread
    · rw [hc] at hread
      refine hread.trans _ _ _ ?_
      dsimp only
      rw [Method.call_bind, Method.call_liftM]
      rcases parseFrame types payload with e | frame
      · exact Reads.refl c
      dsimp only
      rw [Method.call_bind, call_monotonicNs]
      dsimp only
      rw [Method.call_bind, Method.call_liftM]
      rcases hn : normalizeServerFrame frame (c.clock 0) (unpackLength header) with e | event
      · exact reads_monotonicNs c
      · refine ⟨rfl, rfl, rfl, rfl, rfl, [event], rfl, ?_⟩
        intro e he
        rw [List.mem_singleton.mp he, (normalizeServerFrame_ok _ _ _ _ hn).2.2, hread.maxFrameBytes]
        exact hbound

theorem readExact_trace (size : Nat) (self self' : DataPlaneClient) (bytes : Bytes)
    (h : Method.call (readExact size) self = (.ok bytes, self')) : self'.trace = self.trace := by
  unfold readExact at h
  rw [Method.call_bind, Method.call_get] at h
  dsimp only at h
  split at h
  · simp at h
  · rw [Method.call_bind, Method.call_set] at h
    dsimp only at h
    rw [(Method.lift_inv h).2]

/-- A frame that was received is traced, and nothing else is. -/
theorem receive_ok (types : ProtocolTypes) (self self' : DataPlaneClient) (event : Event)
    (h : Method.call (receive types) self = (.ok event, self')) : self'.trace = self.trace ++ [.received event] := by
  unfold receive at h
  obtain ⟨header, a, ha, h⟩ := Method.bind_inv h
  rw [Method.call_bind, Method.call_get] at h
  dsimp only at h
  split at h
  · simp at h
  obtain ⟨payload, b, hb, h⟩ := Method.bind_inv h
  obtain ⟨frame, c, hc, h⟩ := Method.bind_inv h
  rw [Method.call_bind, call_monotonicNs] at h
  dsimp only at h
  obtain ⟨stamped, d, hd, h⟩ := Method.bind_inv h
  rw [Method.call_bind, Method.call_modify] at h
  dsimp only at h
  rw [Method.call_pure, Prod.mk.injEq, Except.ok.injEq] at h
  obtain ⟨rfl, rfl⟩ := h
  rw [(Method.lift_inv hd).2, (Method.lift_inv hc).2]
  dsimp only
  rw [readExact_trace _ _ _ _ hb, readExact_trace _ _ _ _ ha]

theorem reads_awaitCancellation (types : ProtocolTypes) (commandId : Nat) (requestId : Str) (rounds : Nat)
    (intervening : List Event) : Method.Always Reads (awaitCancellation types commandId requestId rounds intervening) := by
  induction rounds generalizing intervening with
  | zero => exact reads_throw _
  | succ rounds ih =>
    apply Method.always_bind Reads.trans (reads_receive types)
    intro response
    split
    · apply Method.always_bind Reads.trans (reads_lift _)
      intro _
      exact reads_pure _
    · exact ih _

/-! ## What a call that returned did -/

theorem send_ok (types : ProtocolTypes) (message : ClientFrame) (kind : Str) (self self' : DataPlaneClient)
    (h : Method.call (send types message kind) self = (.ok (), self')) :
    ∃ ns, self'.trace = self.trace ++ [.sent kind ns (types.serializeToString message).length] ∧
      self'.commandId = self.commandId := by
  unfold send at h
  rw [Method.call_bind, Method.call_get] at h
  dsimp only at h
  split at h
  · simp at h
  split at h
  · simp at h
  rw [Method.call_bind, Method.call_set] at h
  dsimp only at h
  split at h
  · simp at h
  rw [Method.call_bind, call_monotonicNs] at h
  dsimp only at h
  rw [Method.call_modify, Prod.mk.injEq] at h
  obtain ⟨-, rfl⟩ := h
  exact ⟨_, rfl, rfl⟩

theorem nextCommand_ok (self self' : DataPlaneClient) (commandId : Nat)
    (h : Method.call nextCommand self = (.ok commandId, self')) :
    commandId = self.commandId + 1 ∧ self' = { self with commandId := self.commandId + 1 } := by
  unfold nextCommand at h
  rw [Method.call_bind, Method.call_modify] at h
  dsimp only at h
  rw [Method.call_bind, Method.call_get] at h
  dsimp only at h
  split at h
  · simp at h
  · rw [Method.call_pure, Prod.mk.injEq, Except.ok.injEq] at h
    exact ⟨h.1.symm, h.2.symm⟩

theorem submit_ok (types : ProtocolTypes) (arguments : SubmitArguments) (self self' : DataPlaneClient)
    (requestId : Str) (response : Event)
    (h : Method.call (submit types arguments) self = (.ok (requestId, response), self')) :
    ∃ ns bytes, self'.trace = self.trace ++ [.sent (lit "submit_request") ns bytes, .received response] ∧
      checkAccepted arguments.modelRevision (self.commandId + 1) response.content = .ok requestId ∧
      self'.commandId = self.commandId + 1 := by
  unfold submit at h
  obtain ⟨serviceClass, a, ha, h⟩ := Method.bind_inv h
  obtain ⟨commandId, b, hb, h⟩ := Method.bind_inv h
  obtain ⟨frame, c, hc, h⟩ := Method.bind_inv h
  obtain ⟨_, d, hd, h⟩ := Method.bind_inv h
  obtain ⟨event, e, he, h⟩ := Method.bind_inv h
  obtain ⟨accepted, f, hf, h⟩ := Method.bind_inv h
  rw [Method.call_pure, Prod.mk.injEq, Except.ok.injEq, Prod.mk.injEq] at h
  obtain ⟨⟨rfl, rfl⟩, rfl⟩ := h
  obtain ⟨hid, hb⟩ := nextCommand_ok _ _ _ hb
  obtain ⟨ns, htrace, hsent⟩ := send_ok _ _ _ _ _ hd
  obtain ⟨hchecked, hf⟩ := Method.lift_inv hf
  have ha := (Method.lift_inv ha).2
  have hc := (Method.lift_inv hc).2
  have hread := (reads_receive types d).commandId
  rw [he] at hread
  refine ⟨ns, (types.serializeToString frame).length, ?_, ?_, ?_⟩
  · rw [hf, receive_ok _ _ _ _ he, htrace, hc, hb, ha, List.append_assoc]
    rfl
  · rw [hid, ha] at hchecked
    exact hchecked
  · rw [hf, hread, hsent, hc, hb, ha]

def KeepsTrace (before after : DataPlaneClient) : Prop := after.trace = before.trace

theorem KeepsTrace.trans (a b c : DataPlaneClient) (h : KeepsTrace a b) (h' : KeepsTrace b c) : KeepsTrace a c :=
  Eq.trans h' h

theorem keepsTrace_monotonicNs : Method.Always KeepsTrace monotonicNs := fun _ => rfl

/-- What is thrown away is not traced. -/
theorem keepsTrace_awaitDisconnect (deadline : Nat) (arrivals : List Arrival) :
    Method.Always KeepsTrace (awaitDisconnect deadline arrivals) := by
  induction arrivals with
  | nil => exact fun self => rfl
  | cons arrival rest ih =>
    apply Method.always_bind KeepsTrace.trans keepsTrace_monotonicNs
    intro now
    split
    · split
      · exact fun self => rfl
      · exact fun self => rfl
      · split
        · exact fun self => rfl
        · exact ih
    · exact fun self => rfl

theorem keepsTrace_expectBackpressureDisconnect : Method.Always KeepsTrace expectBackpressureDisconnect := by
  intro self
  unfold expectBackpressureDisconnect
  rw [Method.call_bind, Method.call_get]
  dsimp only
  split
  · rfl
  · exact Method.always_bind KeepsTrace.trans keepsTrace_monotonicNs (fun now => keepsTrace_awaitDisconnect _ _) self

theorem negotiate_trace (types : ProtocolTypes) (self self' : DataPlaneClient) (ack : HelloAck)
    (h : Method.call (negotiate types) self = (.ok ack, self')) :
    ∃ ns bytes event, self'.trace = self.trace ++ [.sent (lit "hello") ns bytes, .received event] ∧
      self'.commandId = self.commandId := by
  unfold negotiate at h
  rw [Method.call_bind, Method.call_get] at h
  dsimp only at h
  obtain ⟨frame, a, ha, h⟩ := Method.bind_inv h
  obtain ⟨_, b, hb, h⟩ := Method.bind_inv h
  obtain ⟨response, c, hc, h⟩ := Method.bind_inv h
  have ha := (Method.lift_inv ha).2
  obtain ⟨ns, htrace, hsent⟩ := send_ok _ _ _ _ _ hb
  have hread := (reads_receive types b).commandId
  rw [hc] at hread
  split at h
  case h_2 => simp at h
  case h_1 ack' hack =>
    rw [Method.call_bind, Method.call_get] at h
    dsimp only at h
    obtain ⟨_, d, hd, h⟩ := Method.bind_inv h
    rw [Method.call_bind, Method.call_modify] at h
    dsimp only at h
    rw [Method.call_pure, Prod.mk.injEq, Except.ok.injEq] at h
    obtain ⟨rfl, rfl⟩ := h
    refine ⟨ns, (types.serializeToString frame).length, response, ?_, ?_⟩
    · rw [(Method.lift_inv hd).2]
      dsimp only
      rw [receive_ok _ _ _ _ hc, htrace, ha, List.append_assoc]
      rfl
    · rw [(Method.lift_inv hd).2]
      dsimp only
      rw [hread, hsent, ha]

theorem awaitCancellation_ok (types : ProtocolTypes) (commandId : Nat) (requestId : Str) (rounds : Nat)
    (before window : List Event) (answer : Event) (self self' : DataPlaneClient)
    (h : Method.call (awaitCancellation types commandId requestId rounds before) self = (.ok (answer, window), self')) :
    ∃ rest, window = before ++ rest ∧ self'.trace = self.trace ++ (rest ++ [answer]).map .received ∧
      (∀ e ∈ rest, e.isDirect = false) ∧
      ∃ direct, answer.content = .directResponse direct ∧ checkCancellation commandId requestId direct = .ok () := by
  induction rounds generalizing before self with
  | zero => simp [awaitCancellation] at h
  | succ rounds ih =>
    rw [awaitCancellation] at h
    obtain ⟨event, a, ha, h⟩ := Method.bind_inv h
    split at h
    case h_1 direct hdirect =>
      obtain ⟨_, b, hb, h⟩ := Method.bind_inv h
      rw [Method.call_pure, Prod.mk.injEq, Except.ok.injEq, Prod.mk.injEq] at h
      obtain ⟨⟨rfl, rfl⟩, rfl⟩ := h
      obtain ⟨hchecked, hb⟩ := Method.lift_inv hb
      exact ⟨[], by simp, by rw [hb, receive_ok _ _ _ _ ha]; rfl, by simp, direct, hdirect, hchecked⟩
    case h_2 hnone =>
      obtain ⟨rest, hwindow, htrace, hrest, hanswer⟩ := ih _ _ h
      refine ⟨event :: rest, ?_, ?_, ?_, hanswer⟩
      · rw [hwindow, List.append_assoc]
        rfl
      · rw [htrace, receive_ok _ _ _ _ ha, List.append_assoc]
        rfl
      · refine List.forall_mem_cons.mpr ⟨?_, hrest⟩
        unfold Event.isDirect
        split
        case h_1 direct hdirect => exact absurd hdirect (hnone direct)
        case h_2 => rfl

theorem cancel_ok (types : ProtocolTypes) (requestId : Str) (answer : Event) (window : List Event)
    (self self' : DataPlaneClient) (h : Method.call (cancel types requestId) self = (.ok (answer, window), self')) :
    ∃ ns bytes, self'.trace =
        self.trace ++ .sent (lit "cancel_request") ns bytes :: (window ++ [answer]).map .received ∧
      (∀ e ∈ window, e.isDirect = false) ∧ ∃ direct, answer.content = .directResponse direct ∧
        checkCancellation (self.commandId + 1) requestId direct = .ok () := by
  unfold cancel at h
  split at h
  · simp at h
  obtain ⟨commandId, a, ha, h⟩ := Method.bind_inv h
  obtain ⟨bytes, b, hb, h⟩ := Method.bind_inv h
  obtain ⟨_, c, hc, h⟩ := Method.bind_inv h
  obtain ⟨hid, ha⟩ := nextCommand_ok _ _ _ ha
  obtain ⟨ns, htrace, -⟩ := send_ok _ _ _ _ _ hc
  obtain ⟨rest, hwindow, hread, hrest, hanswer⟩ := awaitCancellation_ok _ _ _ _ _ _ _ _ _ h
  rw [List.nil_append] at hwindow
  rw [hid] at hanswer
  refine ⟨ns, (types.serializeToString (.command commandId (.cancelRequest ⟨bytes⟩))).length, ?_, hwindow ▸ hrest,
    hanswer⟩
  rw [hread, htrace, (Method.lift_inv hb).2, ha, hwindow, List.append_assoc]
  rfl

end DataPlaneClient

/-! ## A sample connection -/

/-- A layout in which a frame of the server is its number, and a command is ten bytes. -/
def sampleTypes (frames : List ServerFrame) : ProtocolTypes where
  serializeToString
    | .hello _ => [byte 1]
    | .command _ _ => List.replicate 10 (byte 1)
  parseFromString payload := .ok (payload.length, payload.head?.bind fun b => frames[b.val]?)

def sampleDescriptor : DataPlaneDescriptor where
  socketPath := lit "/run/data-plane.sock"
  descriptorSha256 := hex (List.replicate 32 (byte 17))
  maxFrameBytes := 100
  maxOutstandingCommands := 8
  maxCommandBytes := 50
  maxServerWriteTimeoutMs := 1000
  maxFrameBytes_le := by decide
  maxCommandBytes_le := by decide
  maxServerWriteTimeoutMs_le := by decide

/-- The frames that a server sends one after the other. -/
def sampleSocket (frames : List ServerFrame) : Socket where
  arrivals := (List.range frames.length).map fun k => .data (packLength 1 ++ [byte k])
  sendErrors := []
  written := []

def sampleClient (frames : List ServerFrame) : DataPlaneClient where
  descriptor := sampleDescriptor
  socket := some (sampleSocket frames)
  commandId := 0
  maxFrameBytes := 100
  serverWriteTimeoutsMs := (0, 0)
  trace := []
  clock := fun n => n

def sampleHelloAck (maxFrameBytes maxCommandBytes : Nat) : ServerFrame := .helloAck {
  family := protocolFamily
  major := 1
  selectedMinor := 1
  selectedDescriptorSha256 := List.replicate 32 (byte 17)
  effectiveCapabilityIds := []
  effectiveLimits := ⟨maxFrameBytes, 8, maxCommandBytes⟩
  daemonInstanceId := List.replicate 16 (byte 3)
  installationPolicyIdentity := List.replicate 32 (byte 4)
  noProgressWriteTimeoutMs := 50
  maximumCompletionWriteTimeoutMs := 100 }

def sampleAck (maxFrameBytes maxCommandBytes : Nat) : HelloAck where
  family := protocolFamily
  major := 1
  selectedMinor := 1
  selectedDescriptorSha256 := hex (List.replicate 32 (byte 17))
  effectiveCapabilityIds := []
  effectiveLimits := ⟨maxFrameBytes, 8, maxCommandBytes⟩
  daemonInstanceId := hex (List.replicate 16 (byte 3))
  installationPolicyIdentity := hex (List.replicate 32 (byte 4))
  noProgressWriteTimeoutMs := 50
  maximumCompletionWriteTimeoutMs := 100

end TurnVector.DataPlane
