import TurnVector.Errors

/-! # The messages of the Data Plane

`protocols/data_plane_v1.proto`, and the mappings that `data_plane.py` makes of a server's frame. How protobuf lays a
message out in bytes is a parameter.
-/

namespace TurnVector.DataPlane

open Python

/-! ## Hex text -/

def hexDigit (n : Nat) : CodePoint := if n < 10 then cp (48 + n) else cp (87 + n)

/-- `b.hex()` -/
def hex (b : Bytes) : Str := b.flatMap fun x => [hexDigit (x.val / 16), hexDigit (x.val % 16)]

@[simp] theorem length_hex (b : Bytes) : (hex b).length = 2 * b.length := by
  induction b with
  | nil => rfl
  | cons x b ih =>
    rw [hex, List.flatMap_cons, List.length_append, ← hex, ih]
    simp only [List.length_cons, List.length_nil]
    omega

def digitValue (c : CodePoint) : Option Nat :=
  if isDigit c then some (c.val - 48)
  else if 97 ≤ c.val ∧ c.val ≤ 102 then some (c.val - 87)
  else if 65 ≤ c.val ∧ c.val ≤ 70 then some (c.val - 55)
  else none

/-- `chr.isspace()` of an ASCII character. -/
def isSpace (c : CodePoint) : Bool := c.val = 32 || 9 ≤ c.val && c.val ≤ 13

def fromHexError (position : Nat) : Exc :=
  .valueError (lit "non-hexadecimal number found in fromhex() arg at position " ++ natText position)

/-- `bytes.fromhex(text)` from a position on: pairs of digits, with white space between the pairs. -/
def fromHexAt (position : Nat) : Str → Except Exc Bytes
  | [] => .ok []
  | c :: rest =>
    if isSpace c then fromHexAt (position + 1) rest
    else match rest with
      | [] => .error (fromHexError (if (digitValue c).isSome then position + 1 else position))
      | d :: rest =>
        match digitValue c, digitValue d with
        | some top, some bottom => do return byte (16 * top + bottom) :: (← fromHexAt (position + 2) rest)
        | some _, none => .error (fromHexError (position + 1))
        | none, _ => .error (fromHexError position)

/-- `bytes.fromhex(text)` -/
def fromHex (text : Str) : Except Exc Bytes :=
  if isAscii text then fromHexAt 0 text else .error (fromHexError (text.takeWhile fun c => c.val < 128).length)

/-! ## Checks of single values -/

/-- `_positive_int` -/
def positiveInt (value : Int) (place : Str) (maximum : Nat) : Except Exc Nat :=
  if 0 < value ∧ value ≤ maximum then .ok value.toNat
  else .error (.contractError (place ++ lit " must be an integer in [1, " ++ natText maximum ++ lit "]"))

/-- `_sha256_text` -/
def sha256Text (value place : Str) : Except Exc Str :=
  if value.length = 64 ∧ value.all (fun c => occurs c (lit "0123456789abcdef")) then .ok value
  else .error (.contractError (place ++ lit " must be a lowercase SHA256"))

/-! ## What the client sends -/

structure DirectionalLimits where
  offeredMaxFrameBytes : Nat
  offeredMaxOutstandingCommands : Nat
  offeredMaxCommandBytes : Nat
  deriving DecidableEq

structure ProtocolMinor where
  minor : Nat
  descriptorSha256 : Bytes
  deriving DecidableEq

structure DataPlaneHello where
  family : Str
  major : Nat
  minors : List ProtocolMinor
  limits : DirectionalLimits
  buildIdentity : Str
  protocolSupportManifestSha256 : Bytes
  deriving DecidableEq

structure SubmitRequest where
  modelRevision : Bytes
  inputTokenIds : List Nat
  maxOutputTokens : Nat
  samplingSeed : Nat
  serviceClass : Nat
  deriving DecidableEq

structure CancelRequest where
  requestId : Bytes
  deriving DecidableEq

inductive Command where
  | submitRequest (submit : SubmitRequest)
  | cancelRequest (cancel : CancelRequest)
  deriving DecidableEq

inductive ClientFrame where
  | hello (hello : DataPlaneHello)
  | command (commandId : Nat) (command : Command)
  deriving DecidableEq

/-! ## What the server sends -/

structure DataPlaneHelloAck where
  family : Str
  major : Nat
  selectedMinor : Nat
  selectedDescriptorSha256 : Bytes
  effectiveCapabilityIds : List Nat
  effectiveLimits : DirectionalLimits
  daemonInstanceId : Bytes
  installationPolicyIdentity : Bytes
  noProgressWriteTimeoutMs : Nat
  maximumCompletionWriteTimeoutMs : Nat
  deriving DecidableEq

structure RequestAccepted where
  requestId : Bytes
  frozenModelRevision : Bytes
  statusVersion : Nat
  state : Int
  reservationCreated : Bool
  backendHandleCreated : Bool
  deriving DecidableEq

structure CancellationAccepted where
  requestId : Bytes
  eventSequence : Nat
  deriving DecidableEq

structure StructuredError where
  errorCode : Nat
  reasonCode : Nat
  retryable : Bool
  requestId : Option Bytes
  deriving DecidableEq

inductive Response where
  | requestAccepted (accepted : RequestAccepted)
  | cancellationAccepted (cancellation : CancellationAccepted)
  | error (error : StructuredError)
  deriving DecidableEq

structure DirectResponse where
  commandId : Nat
  commandIngressClosed : Bool
  response : Option Response
  deriving DecidableEq

structure RequestStatusUpdate where
  requestId : Bytes
  statusVersion : Nat
  state : Int
  phase : Int
  inputTokenProgress : Nat
  generatedTokenProgress : Nat
  lastOutputSequence : Option Nat
  cancellationState : Int
  terminal : Bool
  terminalReasonCode : Option Nat
  reservationCreated : Bool
  backendHandleCreated : Bool
  historyGap : Bool
  deriving DecidableEq

structure OutputFrame where
  requestId : Bytes
  outputSequence : Nat
  tokenIds : List Nat
  statusVersion : Nat
  terminal : Bool
  terminalReasonCode : Option Nat
  outputCapacityReserved : Bool
  publicationId : Bytes
  deriving DecidableEq

inductive ServerFrame where
  | helloAck (ack : DataPlaneHelloAck)
  | directResponse (response : DirectResponse)
  | statusUpdate (status : RequestStatusUpdate)
  | outputFrame (output : OutputFrame)
  | protocolError (error : StructuredError)
  deriving DecidableEq

/-- `_ProtocolTypes`: how the messages are laid out in bytes. The parser says how much it took, and which variant the
frame holds; what it raises has a text. -/
structure ProtocolTypes where
  serializeToString : ClientFrame → Bytes
  parseFromString : Bytes → Except Str (Nat × Option ServerFrame)

/-! ## Enumerations -/

inductive RequestState where
  | accepted
  | preparing
  | warming
  | admitted
  | materialized
  | queued
  | running
  | terminal
  deriving DecidableEq

inductive TurnPhase where
  | none
  | prefill
  | decode
  deriving DecidableEq

inductive CancellationState where
  | none
  | requested
  | accepted
  deriving DecidableEq

def requestStates : List (Int × RequestState) :=
  [(1, .accepted), (2, .preparing), (3, .warming), (4, .admitted), (5, .materialized), (6, .queued), (7, .running),
   (8, .terminal)]

def turnPhases : List (Int × TurnPhase) := [(1, .none), (2, .prefill), (3, .decode)]

def cancellationStates : List (Int × CancellationState) := [(1, .none), (2, .requested), (3, .accepted)]

def serviceClasses : List (Str × Nat) := [(lit "interactive", 1), (lit "standard", 2), (lit "background", 3)]

/-- `_enum` -/
def enum {α : Type} (mapping : List (Int × α)) (value : Int) (place : Str) : Except Exc α :=
  match mapping.lookup value with
  | some name => .ok name
  | none => .error (.contractError (place ++ lit " contains an unknown or unspecified enum value " ++ intText value))

/-! ## A frame as the client reads it -/

structure Limits where
  maxFrameBytes : Nat
  maxOutstandingCommands : Nat
  maxCommandBytes : Nat
  deriving DecidableEq

structure HelloAck where
  family : Str
  major : Nat
  selectedMinor : Nat
  selectedDescriptorSha256 : Str
  effectiveCapabilityIds : List Nat
  effectiveLimits : Limits
  daemonInstanceId : Str
  installationPolicyIdentity : Str
  noProgressWriteTimeoutMs : Nat
  maximumCompletionWriteTimeoutMs : Nat
  deriving DecidableEq

inductive Answer where
  | requestAccepted (requestId frozenModelRevision : Str) (statusVersion : Nat) (state : RequestState)
      (reservationCreated backendHandleCreated : Bool)
  | cancellationAccepted (requestId : Str) (eventSequence : Nat)
  | error (errorCode reasonCode : Nat) (retryable : Bool) (requestId : Option Str)
  deriving DecidableEq

structure Direct where
  commandId : Nat
  commandIngressClosed : Bool
  response : Answer
  deriving DecidableEq

structure Status where
  requestId : Str
  statusVersion : Nat
  state : RequestState
  phase : TurnPhase
  inputTokenProgress : Nat
  generatedTokenProgress : Nat
  lastOutputSequence : Option Nat
  cancellationState : CancellationState
  terminal : Bool
  terminalReasonCode : Option Nat
  reservationCreated : Bool
  backendHandleCreated : Bool
  historyGap : Bool
  deriving DecidableEq

structure Output where
  requestId : Str
  outputSequence : Nat
  tokenIds : List Nat
  statusVersion : Nat
  terminal : Bool
  terminalReasonCode : Option Nat
  outputCapacityReserved : Bool
  publicationId : Str
  deriving DecidableEq

inductive Content where
  | helloAck (ack : HelloAck)
  | directResponse (direct : Direct)
  | statusUpdate (status : Status)
  | outputFrame (output : Output)
  deriving DecidableEq

/-- A received frame: its variant, when it was read and the length of its payload. -/
structure Event where
  content : Content
  monotonicNs : Nat
  payloadBytes : Nat
  deriving DecidableEq

def Event.isDirect (event : Event) : Bool :=
  match event.content with
  | .directResponse _ => true
  | _ => false

def normalizeResponse : Response → Except Exc Answer
  | .requestAccepted accepted => do
    return .requestAccepted (hex accepted.requestId) (hex accepted.frozenModelRevision) accepted.statusVersion
      (← enum requestStates accepted.state (lit "RequestAccepted.state")) accepted.reservationCreated
      accepted.backendHandleCreated
  | .cancellationAccepted cancellation =>
    .ok (.cancellationAccepted (hex cancellation.requestId) cancellation.eventSequence)
  | .error error => .ok (.error error.errorCode error.reasonCode error.retryable (error.requestId.map hex))

/-- `_normalize_server_frame`, without what every variant holds. -/
def normalizeContent : ServerFrame → Except Exc Content
  | .helloAck ack => .ok (.helloAck {
      family := ack.family
      major := ack.major
      selectedMinor := ack.selectedMinor
      selectedDescriptorSha256 := hex ack.selectedDescriptorSha256
      effectiveCapabilityIds := ack.effectiveCapabilityIds
      effectiveLimits := {
        maxFrameBytes := ack.effectiveLimits.offeredMaxFrameBytes
        maxOutstandingCommands := ack.effectiveLimits.offeredMaxOutstandingCommands
        maxCommandBytes := ack.effectiveLimits.offeredMaxCommandBytes }
      daemonInstanceId := hex ack.daemonInstanceId
      installationPolicyIdentity := hex ack.installationPolicyIdentity
      noProgressWriteTimeoutMs := ack.noProgressWriteTimeoutMs
      maximumCompletionWriteTimeoutMs := ack.maximumCompletionWriteTimeoutMs })
  | .protocolError error => .error (.contractError (lit "Data Plane protocol error: error_code=" ++
      natText error.errorCode ++ lit ", reason_code=" ++ natText error.reasonCode))
  | .directResponse response =>
    match response.response with
    | none => .error (.contractError (lit "Data Plane DirectResponse contains no response variant"))
    | some variant => do
      return .directResponse ⟨response.commandId, response.commandIngressClosed, ← normalizeResponse variant⟩
  | .statusUpdate status => do
    return .statusUpdate {
      requestId := hex status.requestId
      statusVersion := status.statusVersion
      state := ← enum requestStates status.state (lit "RequestStatusUpdate.state")
      phase := ← enum turnPhases status.phase (lit "RequestStatusUpdate.phase")
      inputTokenProgress := status.inputTokenProgress
      generatedTokenProgress := status.generatedTokenProgress
      lastOutputSequence := status.lastOutputSequence
      cancellationState := ← enum cancellationStates status.cancellationState
        (lit "RequestStatusUpdate.cancellation_state")
      terminal := status.terminal
      terminalReasonCode := status.terminalReasonCode
      reservationCreated := status.reservationCreated
      backendHandleCreated := status.backendHandleCreated
      historyGap := status.historyGap }
  | .outputFrame output => .ok (.outputFrame {
      requestId := hex output.requestId
      outputSequence := output.outputSequence
      tokenIds := output.tokenIds
      statusVersion := output.statusVersion
      terminal := output.terminal
      terminalReasonCode := output.terminalReasonCode
      outputCapacityReserved := output.outputCapacityReserved
      publicationId := hex output.publicationId })

/-- `_normalize_server_frame` -/
def normalizeServerFrame (frame : ServerFrame) (receivedNs payloadBytes : Nat) : Except Exc Event := do
  return ⟨← normalizeContent frame, receivedNs, payloadBytes⟩

theorem normalizeServerFrame_ok (frame : ServerFrame) (receivedNs payloadBytes : Nat) (event : Event)
    (h : normalizeServerFrame frame receivedNs payloadBytes = .ok event) :
    normalizeContent frame = .ok event.content ∧ event.monotonicNs = receivedNs ∧
      event.payloadBytes = payloadBytes := by
  unfold normalizeServerFrame at h
  obtain ⟨content, hc, h⟩ := bind_ok_iff.mp h
  cases h
  exact ⟨hc, rfl, rfl⟩

end TurnVector.DataPlane
