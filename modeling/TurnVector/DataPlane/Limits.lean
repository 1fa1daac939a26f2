import TurnVector.DataPlane.Client

/-! # The limits of a Data Plane connection

What the client writes and reads after it has negotiated.
-/

namespace TurnVector.DataPlane

open Python DataPlaneClient

/-! ## Calls of the client -/

inductive ClientCall where
  | submit (arguments : SubmitArguments)
  | cancel (requestId : Str)

namespace ClientCall

def perform (types : ProtocolTypes) : ClientCall → Method DataPlaneClient Unit
  | .submit arguments => do let _ ← DataPlaneClient.submit types arguments
  | .cancel requestId => do let _ ← DataPlaneClient.cancel types requestId

/-- The checks of a call before it takes a command id, and how it builds its frame with the id. -/
def build : ClientCall → Except Exc (Nat → Except Exc ClientFrame)
  | .submit arguments => do
    let serviceClass ← checkArguments arguments
    return submitFrame arguments serviceClass
  | .cancel requestId =>
    if requestId.length ≠ 32 then .error (.contractError (lit "request ID must encode exactly 16 bytes"))
    else .ok fun commandId => do
      let bytes ← fromHex requestId
      return .command commandId (.cancelRequest ⟨bytes⟩)

def takesId (call : ClientCall) : Bool := call.build.toOption.isSome

/-- The frame that the call builds under a command id, when its arguments pass. -/
def frame? (commandId : Nat) (call : ClientCall) : Option ClientFrame :=
  call.build.toOption.bind fun build => (build commandId).toOption

end ClientCall

/-- The calls one after the other. An exception ends a call, and the next one may follow. -/
def runCalls (types : ProtocolTypes) (calls : List ClientCall) (self : DataPlaneClient) : DataPlaneClient :=
  calls.foldl (fun self call => (Method.call (call.perform types) self).2) self

/-! ## What one call does -/

/-- The client took `n` command ids and handed `frames` to its socket. -/
structure Does (n : Nat) (frames : List Bytes) (before after : DataPlaneClient) : Prop where
  descriptor : after.descriptor = before.descriptor
  commandId : after.commandId = before.commandId + n
  maxFrameBytes : after.maxFrameBytes = before.maxFrameBytes
  written : after.written = before.written ++ frames
  connected : after.socket.isSome = before.socket.isSome
  trace : ∃ entries, after.trace = before.trace ++ entries ∧
    ∀ e ∈ received entries, e.payloadBytes ≤ before.maxFrameBytes

theorem Does.nothing (self : DataPlaneClient) : Does 0 [] self self :=
  ⟨rfl, rfl, rfl, by simp, rfl, [], by simp, by simp [received]⟩

theorem Does.of_reads {a b : DataPlaneClient} (h : Reads a b) : Does 0 [] a b := by
  obtain ⟨events, ht, hb⟩ := h.trace
  exact ⟨h.descriptor, h.commandId, h.maxFrameBytes, by simp [h.written], h.connected, events.map .received, ht,
    by rwa [received_map]⟩

theorem Does.trans {n m : Nat} {fs gs : List Bytes} {a b c : DataPlaneClient} (h : Does n fs a b)
    (h' : Does m gs b c) : Does (n + m) (fs ++ gs) a c := by
  obtain ⟨es, ht, hb⟩ := h.trace
  obtain ⟨es', ht', hb'⟩ := h'.trace
  refine ⟨h'.descriptor.trans h.descriptor, ?_, h'.maxFrameBytes.trans h.maxFrameBytes, ?_,
    h'.connected.trans h.connected, es ++ es', ?_, ?_⟩
  · rw [h'.commandId, h.commandId, Nat.add_assoc]
  · rw [h'.written, h.written, List.append_assoc]
  · rw [ht', ht, List.append_assoc]
  · intro e he
    rw [received_append] at he
    rcases List.mem_append.mp he with he | he
    · exact hb e he
    · rw [← h.maxFrameBytes]
      exact hb' e he

/-- The bytes that `_send` writes for a message. -/
def framed (types : ProtocolTypes) (limit : Nat) (message : ClientFrame) : List Bytes :=
  let payload := types.serializeToString message
  if payload.isEmpty || payload.length > limit then [] else [packLength payload.length ++ payload]

theorem does_send (types : ProtocolTypes) (message : ClientFrame) (kind : Str) (self : DataPlaneClient)
    (hc : self.socket.isSome) :
    Does 0 (framed types (min self.maxFrameBytes self.descriptor.maxCommandBytes) message) self
      (Method.call (send types message kind) self).2 := by
  obtain ⟨socket, hs⟩ := Option.isSome_iff_exists.mp hc
  unfold send framed
  rw [Method.call_bind, Method.call_get]
  dsimp only
  rw [hs]
  dsimp only
  split
  · exact Does.nothing self
  rw [Method.call_bind, Method.call_set]
  dsimp only
  split
  · refine ⟨rfl, rfl, rfl, ?_, ?_, [], by simp, by simp [received]⟩
    · simp [DataPlaneClient.written, hs]
    · simp [hs]
  · refine ⟨rfl, rfl, rfl, ?_, ?_, [_], rfl, by simp [received]⟩
    · simp [DataPlaneClient.written, hs, Method.call_bind, call_monotonicNs]
    · simp [hs, Method.call_bind, call_monotonicNs]

theorem does_then_reads {α β : Type} {n : Nat} {fs : List Bytes} {m : Method DataPlaneClient α}
    {f : α → Method DataPlaneClient β} {self : DataPlaneClient} (h : Does n fs self (Method.call m self).2)
    (hf : ∀ a, Method.Always Reads (f a)) : Does n fs self (Method.call (m >>= f) self).2 := by
  rw [Method.call_bind]
  rcases hc : Method.call m self with ⟨e | a, t⟩
  · rwa [hc] at h
  · rw [hc] at h
    have := h.trans (Does.of_reads (hf a t))
    rwa [Nat.add_zero, List.append_nil] at this

/-- The bytes that a built frame becomes on the socket. No command id is left after `2 ** 64 - 1`. -/
def outgoing (types : ProtocolTypes) (limit commandId : Nat) (frame : Option ClientFrame) : List Bytes :=
  if commandId < 2 ^ 64 then frame.elim [] (framed types limit) else []

/-- What `submit` and `cancel` share: a command id, a frame built with it, and one `_send`. -/
theorem does_command {β : Type} (types : ProtocolTypes) (build : Nat → Except Exc ClientFrame) (kind : Str)
    (rest : Nat → Method DataPlaneClient β) (hrest : ∀ id, Method.Always Reads (rest id)) (self : DataPlaneClient)
    (hc : self.socket.isSome) :
    Does 1 (outgoing types (min self.maxFrameBytes self.descriptor.maxCommandBytes) (self.commandId + 1)
        (build (self.commandId + 1)).toOption) self
      (Method.call (do
        let commandId ← nextCommand
        let frame ← liftM (build commandId)
        send types frame kind
        rest commandId) self).2 := by
  have hstep : Does 1 [] self { self with commandId := self.commandId + 1 } :=
    ⟨rfl, rfl, rfl, by simp [DataPlaneClient.written], rfl, [], by simp, by simp [received]⟩
  have hnext : Method.call nextCommand self = (if self.commandId + 1 ≥ 2 ^ 64 then
      .error (.contractError (lit "Data Plane command ID overflow")) else .ok (self.commandId + 1),
      { self with commandId := self.commandId + 1 }) := by
    unfold nextCommand
    rw [Method.call_bind, Method.call_modify]
    dsimp only
    rw [Method.call_bind, Method.call_get]
    dsimp only
    split <;> rfl
  unfold outgoing
  rw [Method.call_bind, hnext]
  split
  case isFalse hover =>
    rw [if_pos (by omega)]
    exact hstep
  case isTrue hid =>
    rw [if_neg (by omega)]
    dsimp only
    rw [Method.call_bind, Method.call_liftM]
    cases build (self.commandId + 1) with
    | error e => exact hstep
    | ok frame =>
      have hsend := does_send types frame kind { self with commandId := self.commandId + 1 } hc
      have hall := hstep.trans (does_then_reads hsend fun _ => hrest (self.commandId + 1))
      rwa [List.nil_append] at hall

/-- A call is its checks, a command id, a frame, and reading. -/
theorem perform_eq (types : ProtocolTypes) (call : ClientCall) :
    ∃ kind, ∃ rest : Nat → Method DataPlaneClient Unit, (∀ id, Method.Always Reads (rest id)) ∧
      call.perform types = (do
        let build ← liftM call.build
        let commandId ← nextCommand
        let frame ← liftM (build commandId)
        send types frame kind
        rest commandId) := by
  cases call with
  | submit arguments =>
    refine ⟨lit "submit_request", fun id => do
      let response ← receive types
      let _ ← liftM (checkAccepted arguments.modelRevision id response.content), ?_, ?_⟩
    · intro id
      apply Method.always_bind Reads.trans (reads_receive types)
      intro response
      apply Method.always_bind Reads.trans (reads_lift _)
      intro requestId
      exact reads_pure _
    · simp only [ClientCall.perform, ClientCall.build, DataPlaneClient.submit, Method.liftM_bind, Method.liftM_pure,
        bind_assoc, pure_bind]
  | cancel requestId =>
    refine ⟨lit "cancel_request", fun id => do let _ ← awaitCancellation types id requestId cancelRounds [], ?_, ?_⟩
    · intro id
      apply Method.always_bind Reads.trans (reads_awaitCancellation types id requestId cancelRounds [])
      intro reply
      exact reads_pure _
    · simp only [ClientCall.perform, ClientCall.build, DataPlaneClient.cancel]
      split
      · rfl
      · simp only [Method.liftM_ok, Method.liftM_bind, Method.liftM_pure, bind_assoc, pure_bind]

theorem does_call (types : ProtocolTypes) (call : ClientCall) (self : DataPlaneClient) (hc : self.socket.isSome) :
    Does (if call.takesId then 1 else 0)
      (outgoing types (min self.maxFrameBytes self.descriptor.maxCommandBytes) (self.commandId + 1)
        (call.frame? (self.commandId + 1))) self (Method.call (call.perform types) self).2 := by
  obtain ⟨kind, rest, hrest, heq⟩ := perform_eq types call
  rw [heq, Method.call_bind, Method.call_liftM]
  unfold ClientCall.takesId ClientCall.frame?
  cases call.build with
  | error e => simpa [outgoing, Except.toOption] using Does.nothing self
  | ok build => exact does_command types build kind rest hrest self hc

/-! ## A whole run of calls -/

/-- A command frame that the client sends though it is longer than the commands that the server takes. -/
def Oversized (types : ProtocolTypes) (limits : Limits) (offered commandId : Nat) (call : ClientCall) : Prop :=
  commandId < 2 ^ 64 ∧ ∃ frame, call.frame? commandId = some frame ∧
    limits.maxCommandBytes < (types.serializeToString frame).length ∧
    (types.serializeToString frame).length ≤ min limits.maxFrameBytes offered

/-- No call of the run, each under the command id that it takes, sends such a frame. -/
def NoneOversized (types : ProtocolTypes) (limits : Limits) (offered : Nat) : Nat → List ClientCall → Prop
  | _, [] => True
  | commandId, call :: calls =>
    ¬ Oversized types limits offered (commandId + 1) call ∧
      NoneOversized types limits offered (if call.takesId then commandId + 1 else commandId) calls

/-- What was written and read since `before` is within the limits. A written frame is its length and its payload. -/
structure Honours (limits : Limits) (before after : DataPlaneClient) : Prop where
  written : ∃ frames, after.written = before.written ++ frames ∧ ∀ frame ∈ frames,
    (frame.drop 4).length ≤ limits.maxFrameBytes ∧ (frame.drop 4).length ≤ limits.maxCommandBytes
  received : ∃ entries, after.trace = before.trace ++ entries ∧
    ∀ event ∈ received entries, event.payloadBytes ≤ limits.maxFrameBytes

theorem drop_packLength (n : Nat) (payload : Bytes) : (packLength n ++ payload).drop 4 = payload := rfl

theorem outgoing_payload (types : ProtocolTypes) (limit commandId : Nat) (frame : Option ClientFrame) (w : Bytes) :
    w ∈ outgoing types limit commandId frame ↔ commandId < 2 ^ 64 ∧ ∃ message, frame = some message ∧
      0 < (types.serializeToString message).length ∧ (types.serializeToString message).length ≤ limit ∧
      w = packLength (types.serializeToString message).length ++ types.serializeToString message := by
  unfold outgoing
  by_cases hid : commandId < 2 ^ 64
  case neg => rw [if_neg hid, iff_false_left (by simp), not_and]; exact fun h => absurd h hid
  rw [if_pos hid, and_iff_right hid]
  cases frame with
  | none => simp
  | some message =>
    simp only [Option.elim_some, framed, Option.some.injEq, exists_eq_left']
    by_cases hlen : 0 < (types.serializeToString message).length ∧ (types.serializeToString message).length ≤ limit
    · have hpass : ((types.serializeToString message).isEmpty ||
          decide ((types.serializeToString message).length > limit)) = false := by
        simp only [Bool.or_eq_false_iff, List.isEmpty_eq_false_iff, decide_eq_false_iff_not, not_lt]
        exact ⟨List.length_pos_iff.mp hlen.1, hlen.2⟩
      simp [hpass, hlen]
    · have hstop : ((types.serializeToString message).isEmpty ||
          decide ((types.serializeToString message).length > limit)) = true := by
        simp only [Bool.or_eq_true, List.isEmpty_iff, decide_eq_true_eq]
        by_contra hn
        rw [not_or, ← ne_eq, ← List.length_pos_iff, not_lt] at hn
        exact hlen hn
      simp only [hstop, if_true, List.not_mem_nil, false_iff]
      rintro ⟨hpos, hle, -⟩
      exact hlen ⟨hpos, hle⟩

theorem outgoing_within (types : ProtocolTypes) (limits : Limits) (offered commandId : Nat) (call : ClientCall) :
    (∀ w ∈ outgoing types (min limits.maxFrameBytes offered) commandId (call.frame? commandId),
      (w.drop 4).length ≤ limits.maxCommandBytes) ↔ ¬ Oversized types limits offered commandId call := by
  constructor
  · rintro h ⟨hid, message, hframe, hover, hlimit⟩
    have hmem := (outgoing_payload types (min limits.maxFrameBytes offered) commandId (call.frame? commandId) _).mpr
      ⟨hid, message, hframe, by omega, hlimit, rfl⟩
    have := h _ hmem
    rw [drop_packLength] at this
    omega
  · intro h w hw
    obtain ⟨hid, message, hframe, -, hlimit, rfl⟩ := (outgoing_payload _ _ _ _ _).mp hw
    rw [drop_packLength]
    by_contra hover
    exact h ⟨hid, message, hframe, by omega, hlimit⟩

theorem runCalls_spec (types : ProtocolTypes) (limits : Limits) (offered : Nat) (calls : List ClientCall)
    (self : DataPlaneClient) (hc : self.socket.isSome) (hmax : self.maxFrameBytes = limits.maxFrameBytes)
    (ho : self.descriptor.maxCommandBytes = offered) :
    ∃ frames entries, (runCalls types calls self).written = self.written ++ frames ∧
      (runCalls types calls self).trace = self.trace ++ entries ∧
      (∀ event ∈ received entries, event.payloadBytes ≤ limits.maxFrameBytes) ∧
      (∀ frame ∈ frames, (frame.drop 4).length ≤ limits.maxFrameBytes) ∧
      ((∀ frame ∈ frames, (frame.drop 4).length ≤ limits.maxCommandBytes) ↔
        NoneOversized types limits offered self.commandId calls) := by
  induction calls generalizing self with
  | nil => exact ⟨[], [], by simp [runCalls], by simp [runCalls], by simp [received], by simp, by simp [NoneOversized]⟩
  | cons call calls ih =>
    have hstep := does_call types call self hc
    obtain ⟨es, htrace, hread⟩ := hstep.trace
    obtain ⟨frames, entries, hw, ht, hr, hf, hiff⟩ := ih (Method.call (call.perform types) self).2
      (hstep.connected.trans hc) (hstep.maxFrameBytes.trans hmax) ((congrArg _ hstep.descriptor).trans ho)
    have hsent := outgoing_within types limits offered (self.commandId + 1) call
    rw [hmax, ho] at hstep
    refine ⟨outgoing types (min limits.maxFrameBytes offered) (self.commandId + 1) (call.frame? (self.commandId + 1)) ++
      frames, es ++ entries, ?_, ?_, ?_, ?_, ?_⟩
    · rw [← List.append_assoc, ← hstep.written, ← hw]
      rfl
    · rw [← List.append_assoc, ← htrace, ← ht]
      rfl
    · intro event he
      rw [received_append] at he
      rcases List.mem_append.mp he with he | he
      · rw [← hmax]
        exact hread event he
      · exact hr event he
    · intro frame hmem
      rcases List.mem_append.mp hmem with hmem | hmem
      · obtain ⟨-, message, -, -, hlimit, rfl⟩ := (outgoing_payload _ _ _ _ _).mp hmem
        rw [drop_packLength]
        omega
      · exact hf frame hmem
    · have hid : (Method.call (call.perform types) self).2.commandId =
          if call.takesId then self.commandId + 1 else self.commandId := by
        rw [hstep.commandId]
        split <;> rfl
      rw [hid] at hiff
      rw [List.forall_mem_append, hsent, hiff]
      rfl

/-- A connection that sends keeps its place. -/
theorem send_ok_connected (types : ProtocolTypes) (message : ClientFrame) (kind : Str) (self self' : DataPlaneClient)
    (h : Method.call (send types message kind) self = (.ok (), self')) : self.socket.isSome := by
  unfold send at h
  rw [Method.call_bind, Method.call_get] at h
  dsimp only at h
  split at h
  case h_1 => simp at h
  case h_2 socket hs => simp [hs]

/-- What the client takes over from an acknowledgement that it accepts. -/
theorem negotiate_ok (types : ProtocolTypes) (self self' : DataPlaneClient) (ack : HelloAck)
    (h : Method.call (negotiate types) self = (.ok ack, self')) :
    self'.socket.isSome ∧ self'.maxFrameBytes = ack.effectiveLimits.maxFrameBytes ∧
      self'.descriptor = self.descriptor ∧ self'.commandId = self.commandId := by
  unfold negotiate at h
  rw [Method.call_bind, Method.call_get] at h
  dsimp only at h
  obtain ⟨frame, a, ha, h⟩ := Method.bind_inv h
  obtain ⟨_, b, hb, h⟩ := Method.bind_inv h
  obtain ⟨response, c, hc, h⟩ := Method.bind_inv h
  have ha := (Method.lift_inv ha).2
  have hconnected := send_ok_connected _ _ _ _ _ hb
  have hsent := does_send types frame (lit "hello") a hconnected
  have hread := reads_receive types b
  rw [hb] at hsent
  rw [hc] at hread
  split at h
  case h_2 => simp at h
  case h_1 ack' hack =>
    rw [Method.call_bind, Method.call_get] at h
    dsimp only at h
    obtain ⟨_, d, hd, h⟩ := Method.bind_inv h
    rw [Method.call_bind, Method.call_modify] at h
    dsimp only at h
    rw [Method.call_pure, Prod.mk.injEq, Except.ok.injEq] at h
    obtain ⟨rfl, rfl⟩ := h
    rw [(Method.lift_inv hd).2]
    refine ⟨?_, rfl, ?_, ?_⟩
    · exact hread.connected.trans (hsent.connected.trans hconnected)
    · rw [hread.descriptor, hsent.descriptor, ha]
    · rw [hread.commandId, hsent.commandId, ha, Nat.add_zero]

/-- The client honours the limits that it negotiated exactly when none of its commands is longer than the server takes
but within the client's own offer: `_send` compares with the offer. -/
theorem commands_within_limits (types : ProtocolTypes) (self self' : DataPlaneClient) (ack : HelloAck)
    (calls : List ClientCall) (h : Method.call (negotiate types) self = (.ok ack, self')) :
    Honours ack.effectiveLimits self' (runCalls types calls self') ↔
      NoneOversized types ack.effectiveLimits self.descriptor.maxCommandBytes self.commandId calls := by
  obtain ⟨hc, hmax, hdescriptor, hid⟩ := negotiate_ok types self self' ack h
  obtain ⟨frames, entries, hw, ht, hr, hf, hiff⟩ := runCalls_spec types ack.effectiveLimits
    self.descriptor.maxCommandBytes calls self' hc hmax (by rw [hdescriptor])
  rw [← hid, ← hiff]
  constructor
  · intro honours frame hmem
    obtain ⟨frames', hw', hbound⟩ := honours.written
    rw [hw] at hw'
    rw [List.append_cancel_left hw'] at hmem
    exact (hbound frame hmem).2
  · intro hbound
    exact ⟨⟨frames, hw, fun frame hmem => ⟨hf frame hmem, hbound frame hmem⟩⟩, entries, ht, hr⟩

/-- A server that takes commands of five bytes, and a client that may send fifty. -/
def narrowClient : DataPlaneClient := sampleClient [sampleHelloAck 100 5]

theorem narrowClient_negotiates :
    (Method.call (negotiate (sampleTypes [sampleHelloAck 100 5])) narrowClient).1 = .ok (sampleAck 100 5) := by
  decide +kernel

theorem commands_within_limits_sample_iff :
    Honours (sampleAck 100 5).effectiveLimits
        (Method.call (negotiate (sampleTypes [sampleHelloAck 100 5])) narrowClient).2
        (runCalls (sampleTypes [sampleHelloAck 100 5]) [.cancel (hex (List.replicate 16 (byte 7)))]
          (Method.call (negotiate (sampleTypes [sampleHelloAck 100 5])) narrowClient).2) ↔
      NoneOversized (sampleTypes [sampleHelloAck 100 5]) (sampleAck 100 5).effectiveLimits
        narrowClient.descriptor.maxCommandBytes narrowClient.commandId [.cancel (hex (List.replicate 16 (byte 7)))] :=
  commands_within_limits _ _ _ _ _ (Prod.ext narrowClient_negotiates rfl)

/-- Its cancel command is ten bytes. -/
theorem commands_within_limits_sample :
    (Method.call (negotiate (sampleTypes [sampleHelloAck 100 5])) narrowClient).1 = .ok (sampleAck 100 5) ∧
      ¬ Honours (sampleAck 100 5).effectiveLimits
        (Method.call (negotiate (sampleTypes [sampleHelloAck 100 5])) narrowClient).2
        (runCalls (sampleTypes [sampleHelloAck 100 5]) [.cancel (hex (List.replicate 16 (byte 7)))]
          (Method.call (negotiate (sampleTypes [sampleHelloAck 100 5])) narrowClient).2) := by
  refine ⟨narrowClient_negotiates, ?_⟩
  rintro ⟨⟨frames, hw, hbound⟩, -⟩
  have hwritten : (runCalls (sampleTypes [sampleHelloAck 100 5]) [.cancel (hex (List.replicate 16 (byte 7)))]
      (Method.call (negotiate (sampleTypes [sampleHelloAck 100 5])) narrowClient).2).written =
      (Method.call (negotiate (sampleTypes [sampleHelloAck 100 5])) narrowClient).2.written ++
        [packLength 10 ++ List.replicate 10 (byte 1)] := by
    decide +kernel
  rw [hw] at hwritten
  rw [List.append_cancel_left hwritten] at hbound
  have := (hbound _ (List.mem_singleton_self _)).2
  rw [drop_packLength] at this
  simp [sampleAck] at this

/-- No run does, when the server takes commands as long as the client may send. -/
theorem noneOversized_of_kept (types : ProtocolTypes) (limits : Limits) (offered commandId : Nat)
    (calls : List ClientCall) (h : min limits.maxFrameBytes offered ≤ limits.maxCommandBytes) :
    NoneOversized types limits offered commandId calls := by
  induction calls generalizing commandId with
  | nil => trivial
  | cons call calls ih =>
    refine ⟨?_, ih _⟩
    rintro ⟨-, frame, -, hover, hle⟩
    omega

end TurnVector.DataPlane
