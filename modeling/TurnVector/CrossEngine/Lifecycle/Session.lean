import TurnVector.CrossEngine.Lifecycle.Exchange

/-! # Lifecycle sessions

Against any adapter the state of the client is the one that the accepted responses lead to. A request that is written
and ends with an exception fails the client for good, unless it slips.
-/

namespace TurnVector.CrossEngine.Lifecycle

open Python Json Contracts Effects Action

/-! ## What a session did -/

def acceptedKinds (log : List Entry) : List RequestKind :=
  log.filterMap fun
    | .accepted kind _ => some kind
    | _ => none

/-- The ids of the requests that were written. -/
def sentIds (log : List Entry) : List Str :=
  log.filterMap fun
    | .sent request _ => some request.requestId
    | _ => none

/-- The ids of the responses that were taken for answers. -/
def answeredIds (log : List Entry) : List Str :=
  log.filterMap fun
    | .answered requestId => some requestId
    | _ => none

/-- The state that the transition table reaches from `SPAWNED`. -/
def reach (kinds : List RequestKind) : Option LifecycleState :=
  kinds.foldlM (fun state kind => (transitions state kind).map (·.2)) .spawned

/-- The endpoint is described, and then reset any number of times, or is not described. -/
def Served (kinds : List RequestKind) : Prop :=
  kinds = [] ∨ ∃ resets, kinds = .describeEndpoint :: List.replicate resets .resetState

def opening : List RequestKind := [.hello, .prepareSession, .startTarget]

def IsSession (kinds : List RequestKind) : Prop :=
  ∃ served, Served served ∧ kinds <+: opening ++ served ++ [.stopTarget, .shutdown]

inductive Reached where
  | unanswered
  | answered
  | accepted
  deriving DecidableEq

/-- A request that was written, and how far its answer came. -/
structure Exchanged where
  request : Request
  raw : Bytes
  reached : Reached

/-- Each answer carries the id of the request before it. -/
def Exchanged.entries (exchange : Exchanged) : List Entry :=
  let sent := Entry.sent exchange.request exchange.raw
  let answered := Entry.answered exchange.request.requestId
  match exchange.reached with
  | .unanswered => [sent]
  | .answered => [sent, answered]
  | .accepted => [sent, answered, .accepted exchange.request.kind exchange.request.requestId]

/-- What holds of a session in every state. -/
structure Safe (client : Client) : Prop where
  exchanges : ∃ exchanges : List Exchanged, client.log = exchanges.flatMap Exchanged.entries
  state : reach (acceptedKinds client.log) = some client.machine.state
  session : IsSession (acceptedKinds client.log)
  sentOnce : (sentIds client.log).Nodup
  answeredOnce : (answeredIds client.log).Nodup

/-! ## Sessions -/

/-- The kinds that lead to a state. -/
def Leads : LifecycleState → List RequestKind → Prop
  | .spawned, kinds => kinds = []
  | .negotiated, kinds => kinds = opening.take 1
  | .prepared, kinds => kinds = opening.take 2
  | .started, kinds => kinds = opening
  | .ready, kinds => ∃ resets, kinds = opening ++ .describeEndpoint :: List.replicate resets .resetState
  | .stopped, kinds => ∃ served, Served served ∧ kinds = opening ++ served ++ [.stopTarget]
  | .terminated, kinds => ∃ served, Served served ∧ kinds = opening ++ served ++ [.stopTarget, .shutdown]

theorem Leads.next {state : LifecycleState} {kinds : List RequestKind} (h : Leads state kinds) {kind : RequestKind}
    {expected : ResponseKind} {next : LifecycleState} (htransition : transitions state kind = some (expected, next)) :
    Leads next (kinds ++ [kind]) := by
  unfold transitions at htransition
  split at htransition
  all_goals cases htransition
  · exact congrArg (· ++ [RequestKind.hello]) h
  · exact congrArg (· ++ [RequestKind.prepareSession]) h
  · exact congrArg (· ++ [RequestKind.startTarget]) h
  · exact ⟨0, congrArg (· ++ [RequestKind.describeEndpoint]) h⟩
  · obtain ⟨resets, rfl⟩ := h
    refine ⟨resets + 1, ?_⟩
    rw [List.replicate_succ', List.append_assoc]
    rfl
  · obtain ⟨resets, rfl⟩ := h
    exact ⟨_, .inr ⟨resets, rfl⟩, rfl⟩
  · exact ⟨[], .inl rfl, congrArg (· ++ [RequestKind.stopTarget]) h⟩
  · obtain ⟨served, hserved, rfl⟩ := h
    exact ⟨served, hserved, by rw [List.append_assoc _ [_] [_]]; rfl⟩

theorem reach_append (kinds : List RequestKind) (kind : RequestKind) :
    reach (kinds ++ [kind]) = (reach kinds).bind fun state => (transitions state kind).map (·.2) := by
  unfold reach
  rw [List.foldlM_append]
  cases hreach : kinds.foldlM (fun state kind => (transitions state kind).map (·.2)) LifecycleState.spawned with
  | none => rfl
  | some state => cases h : transitions state kind <;> simp [h, bind, Option.bind]

theorem leads_of_reach {kinds : List RequestKind} {state : LifecycleState} (h : reach kinds = some state) :
    Leads state kinds := by
  induction kinds using List.reverseRecOn generalizing state with
  | nil =>
    cases h
    rfl
  | append_singleton kinds kind ih =>
    rw [reach_append] at h
    obtain ⟨before, hbefore, h⟩ := Option.bind_eq_some_iff.mp h
    obtain ⟨⟨expected, next⟩, htransition, rfl⟩ := Option.map_eq_some_iff.mp h
    exact (ih hbefore).next htransition

theorem Leads.isSession {state : LifecycleState} {kinds : List RequestKind} (h : Leads state kinds) :
    IsSession kinds := by
  have hopening : ∀ n, kinds = opening.take n → kinds <+: opening ++ [] ++ [.stopTarget, .shutdown] := fun n hkinds =>
    hkinds ▸ (List.take_prefix n opening).trans ⟨[] ++ [.stopTarget, .shutdown], by simp⟩
  cases state with
  | spawned => exact ⟨[], .inl rfl, hopening 0 h⟩
  | negotiated => exact ⟨[], .inl rfl, hopening 1 h⟩
  | prepared => exact ⟨[], .inl rfl, hopening 2 h⟩
  | started => exact ⟨[], .inl rfl, hopening 3 h⟩
  | ready =>
    obtain ⟨resets, rfl⟩ := h
    exact ⟨_, .inr ⟨resets, rfl⟩, List.prefix_append _ _⟩
  | stopped =>
    obtain ⟨served, hserved, rfl⟩ := h
    exact ⟨served, hserved, (List.prefix_append_right_inj _).mpr ⟨[.shutdown], rfl⟩⟩
  | terminated =>
    obtain ⟨served, hserved, rfl⟩ := h
    exact ⟨served, hserved, List.prefix_refl _⟩

/-! ## Steps -/

section Steps

variable {python : Interpreter} {settings : Settings} {client client' : Client} {call : Call} {outside : Outside}

theorem requested_run (python : Interpreter) (settings : Settings) (client : Client) (call : Call)
    (outside : Outside) :
    Requested python settings client call outside (run (request python settings call outside) client).1
      (run (request python settings call outside) client).2 := by
  have h := request_requested python settings client call outside client rfl
  rcases hrun : run (request python settings call outside) client with ⟨error | payload, s⟩
  · rw [hrun] at h
    exact h
  · rw [hrun] at h
    exact h

/-- The queue starts with a line that is a valid response to the request, says `ok` and echoes it. -/
def AcceptsLine (python : Interpreter) (settings : Settings) (client : Client) (request : Request)
    (expected : ResponseKind) : Prop :=
  ∃ line rest members payload, client.responses = .line line :: rest ∧
    decodeJsonlLine python.limits line settings.lineLimit responsePlace = .ok members ∧
    Accepts python client.machine.responseIds request expected members payload

/-- What a request that is written adds to the session. -/
structure Exchanges (python : Interpreter) (settings : Settings) (client client' : Client) (request : Request)
    (expected : ResponseKind) (next : LifecycleState) (raw : Bytes) (reached : Reached) : Prop where
  log : client'.log = client.log ++ Exchanged.entries ⟨request, raw, reached⟩
  requestIds : client'.machine.requestIds = client.machine.requestIds ++ [request.requestId]
  state : client'.machine.state = if reached = .accepted then next else client.machine.state
  accepted : reached = .accepted → AcceptsLine python settings client request expected

theorem Requested.exchanges {out : Except Raised (List (Str × Json))}
    (h : Requested python settings client call outside out client') :
    Unsent client client' ∨ ∃ request expected next raw reached,
      Writes python settings client call request expected next raw ∧
      Exchanges python settings client client' request expected next raw reached := by
  -- The log of a client that has written the request, with what it took for the answer.
  have hanswered : ∀ (request : Request) (raw : Bytes),
      ((client.written request raw).answeredBy request.requestId).log =
        client.log ++ Exchanged.entries ⟨request, raw, .answered⟩ := by
    intro request raw
    simp [Client.answeredBy, Client.note, Client.answer, Client.written, Client.register, Client.count,
      Exchanged.entries]
  have haccepted : ∀ (request : Request) (raw : Bytes) (next : LifecycleState),
      ((client.written request raw).acceptedBy request.kind request.requestId next).log =
        client.log ++ Exchanged.entries ⟨request, raw, .accepted⟩ := by
    intro request raw next
    simp [Client.acceptedBy, Client.answeredBy, Client.note, Client.answer, Client.enter, Client.written,
      Client.register, Client.count, Exchanged.entries]
  cases h with
  | unsent _ _ _ hunsent => exact .inl hunsent
  | closed _ _ request expected next raw hwrites _ _ htracks _ =>
    exact .inr ⟨request, expected, next, raw, .unanswered, hwrites, htracks.log, htracks.machine ▸ rfl,
      htracks.machine ▸ rfl, nofun⟩
  | replied request expected next raw _ _ hwrites _ hreply =>
    refine .inr ⟨request, expected, next, raw, ?_⟩
    cases hreply with
    | slipped _ _ _ _ htracks _ | failed _ _ _ _ htracks _ =>
      exact ⟨.unanswered, hwrites, htracks.log, htracks.machine ▸ rfl, htracks.machine ▸ rfl, nofun⟩
    | unechoed _ _ _ _ _ htracks _ | remote _ _ _ _ _ htracks _ =>
      exact ⟨.answered, hwrites, htracks.log.trans (hanswered request raw), htracks.machine ▸ rfl,
        htracks.machine ▸ rfl, nofun⟩
    | accepted line rest members payload _ _ _ hline hdecoded haccepts htracks _ =>
      exact ⟨.accepted, hwrites, htracks.log.trans (haccepted request raw next), htracks.machine ▸ rfl,
        htracks.machine ▸ rfl, fun _ => ⟨line, rest, members, payload, hline, hdecoded, haccepts⟩⟩

/-- What every step keeps. -/
structure Kept (client : Client) (exchanges : List Exchanged) : Prop where
  log : client.log = exchanges.flatMap Exchanged.entries
  sent : (exchanges.map (·.request.requestId)).Sublist client.machine.requestIds
  registered : client.machine.requestIds.Nodup
  state : reach (acceptedKinds client.log) = some client.machine.state

theorem acceptedKinds_entries (exchange : Exchanged) :
    acceptedKinds exchange.entries = if exchange.reached = .accepted then [exchange.request.kind] else [] := by
  rcases exchange with ⟨request, raw, _ | _ | _⟩ <;> rfl

theorem Exchanges.kinds {request : Request} {expected : ResponseKind} {next : LifecycleState} {raw : Bytes}
    {reached : Reached} (h : Exchanges python settings client client' request expected next raw reached) :
    acceptedKinds client'.log = acceptedKinds client.log ++ if reached = .accepted then [request.kind] else [] := by
  rw [h.log, acceptedKinds, List.filterMap_append]
  exact congrArg _ (acceptedKinds_entries ⟨request, raw, reached⟩)

theorem Kept.request {exchanges : List Exchanged} (h : Kept client exchanges) {out : Except Raised (List (Str × Json))}
    (hrequested : Requested python settings client call outside out client') :
    ∃ exchanges', Kept client' exchanges' := by
  rcases hrequested.exchanges with hunsent | ⟨request, expected, next, raw, reached, hwrites, hexchanges⟩
  · refine ⟨exchanges, hunsent.log.trans h.log, ?_, ?_, ?_⟩
    · rcases hunsent.requestIds with hids | ⟨requestId, -, hids⟩
      · exact hids ▸ h.sent
      · exact hids ▸ h.sent.trans (List.sublist_append_left _ _)
    · rcases hunsent.requestIds with hids | ⟨requestId, hnew, hids⟩
      · exact hids ▸ h.registered
      · exact hids ▸ (List.nodup_append_comm.mp (List.nodup_cons.mpr ⟨hnew, h.registered⟩))
    · rw [hunsent.log, hunsent.state]
      exact h.state
  · refine ⟨exchanges ++ [⟨request, raw, reached⟩], ?_, ?_, ?_, ?_⟩
    · rw [hexchanges.log, h.log, List.flatMap_append, List.flatMap_singleton]
    · rw [hexchanges.requestIds, List.map_append]
      exact h.sent.append (List.Sublist.refl _)
    · rw [hexchanges.requestIds]
      exact List.nodup_append_comm.mp (List.nodup_cons.mpr ⟨hwrites.fresh, h.registered⟩)
    · rw [hexchanges.kinds, hexchanges.state]
      split
      · rw [reach_append, h.state, Option.bind_some, hwrites.transition]
        rfl
      · rw [List.append_nil]
        exact h.state

theorem receive_machine (settings : Settings) (client : Client) (answer : Except Str Bytes) :
    (client.receive settings answer).machine = client.machine ∧ (client.receive settings answer).log = client.log ∧
      (client.receive settings answer).failed = client.failed := by
  unfold Client.receive
  split
  · split <;> exact ⟨rfl, rfl, rfl⟩
  · exact ⟨rfl, rfl, rfl⟩

theorem Kept.step {exchanges : List Exchanged} (h : Kept client exchanges) (event : Event) :
    ∃ exchanges', Kept (client.step python settings event) exchanges' := by
  cases event with
  | readline answer =>
    obtain ⟨hmachine, hlog, -⟩ := receive_machine settings client answer
    refine ⟨exchanges, ?_, ?_, ?_, ?_⟩
    · exact hlog.trans h.log
    · exact hmachine ▸ h.sent
    · exact hmachine ▸ h.registered
    · rw [Client.step, hlog, hmachine]
      exact h.state
  | call call outside => exact h.request (requested_run python settings client call outside)

theorem Kept.run {exchanges : List Exchanged} (h : Kept client exchanges) (events : List Event) :
    ∃ exchanges', Kept (client.run python settings events) exchanges' := by
  induction events generalizing client exchanges with
  | nil => exact ⟨exchanges, h⟩
  | cons event events ih =>
    obtain ⟨exchanges', h'⟩ := h.step event
    exact ih h'

theorem Kept.new : Kept Client.new [] := ⟨rfl, List.Sublist.refl _, List.nodup_nil, rfl⟩

theorem Kept.safe {exchanges : List Exchanged} (h : Kept client exchanges) : Safe client := by
  have hsent : sentIds client.log = exchanges.map (·.request.requestId) := by
    rw [h.log, sentIds, List.filterMap_flatMap, List.map_eq_flatMap]
    refine List.flatMap_congr fun exchange _ => ?_
    rcases exchange with ⟨request, raw, _ | _ | _⟩ <;> rfl
  have hanswered : (answeredIds client.log).Sublist (sentIds client.log) := by
    rw [h.log]
    clear h hsent
    induction exchanges with
    | nil => exact List.Sublist.refl _
    | cons exchange exchanges ih =>
      rw [List.flatMap_cons, answeredIds, sentIds, List.filterMap_append, List.filterMap_append]
      refine List.Sublist.append ?_ ih
      rcases exchange with ⟨request, raw, _ | _ | _⟩
      · exact List.nil_sublist _
      · exact List.Sublist.refl _
      · exact List.Sublist.refl _
  have hnodup : (sentIds client.log).Nodup := hsent ▸ h.sent.nodup h.registered
  exact ⟨⟨exchanges, h.log⟩, h.state, (leads_of_reach h.state).isSession, hnodup, hanswered.nodup hnodup⟩

end Steps

/-! ## Failing closed -/

section Failing

variable (python : Interpreter) (settings : Settings) (client : Client) (call : Call) (outside : Outside)

/-- Every request raises, and nothing more is written. -/
def Shut : Prop :=
  ∀ events call outside, (client.run python settings events).log = client.log ∧
    ∃ error, (run (request python settings call outside) (client.run python settings events)).1 = .error error

/-- A request that is written shuts the client with every exception but a registered error. -/
def Seals : Prop :=
  ∀ error, (run (request python settings call outside) client).1 = .error error → error.className ≠ remoteErrorClass →
    (run (request python settings call outside) client).2.log ≠ client.log →
    Shut python settings (run (request python settings call outside) client).2

/-- The state stays as it is, unless the line taken is a valid response to the request that says `ok`. -/
def MovesOnAccepted : Prop :=
  let client' := (run (request python settings call outside) client).2
  client'.machine.state = client.machine.state ∧ acceptedKinds client'.log = acceptedKinds client.log ∨
    ∃ request expected next raw, Writes python settings client call request expected next raw ∧
      AcceptsLine python settings client request expected ∧ client'.machine.state = next

/-- The request is written, and its timeout or the line that it takes makes the interpreter raise another exception. -/
def SlipsAt : Prop :=
  ∃ request expected next raw, Writes python settings client call request expected next raw ∧
    outside.writes = true ∧ Slips python settings request.kind call.timeout client.responses

/-- The request is written and ends with an exception, and the client is not failed. -/
def LeavesOpen : Prop :=
  (∃ error, (run (request python settings call outside) client).1 = .error error ∧
    error.className ≠ remoteErrorClass) ∧
  (run (request python settings call outside) client).2.log ≠ client.log ∧
  (run (request python settings call outside) client).2.failed = false

variable {python settings client call outside}

theorem Requested.of_failed {out : Except Raised (List (Str × Json))} {client' : Client}
    (hfailed : client.failed = true) (h : Requested python settings client call outside out client') :
    (∃ error, out = .error error) ∧ client'.log = client.log ∧ client'.failed = true := by
  have hdead : ∀ {request expected next raw}, ¬ Writes python settings client call request expected next raw :=
    fun h => Bool.false_ne_true (h.alive.symm.trans hfailed)
  cases h with
  | unsent error _ _ hunsent => exact ⟨⟨error, rfl⟩, hunsent.log, hunsent.failed.trans hfailed⟩
  | closed _ _ _ _ _ _ hwrites _ _ _ _ => exact absurd hwrites hdead
  | replied _ _ _ _ _ _ hwrites _ _ => exact absurd hwrites hdead

theorem failed_run (hfailed : client.failed = true) (events : List Event) :
    (client.run python settings events).log = client.log ∧ (client.run python settings events).failed = true := by
  induction events generalizing client with
  | nil => exact ⟨rfl, hfailed⟩
  | cons event events ih =>
    have hstep : (client.step python settings event).log = client.log ∧
        (client.step python settings event).failed = true := by
      cases event with
      | readline answer =>
        obtain ⟨-, hlog, hsame⟩ := receive_machine settings client answer
        exact ⟨hlog, hsame.trans hfailed⟩
      | call call outside => exact ((requested_run python settings client call outside).of_failed hfailed).2
    obtain ⟨hlog, hdone⟩ := ih hstep.2
    exact ⟨hlog.trans hstep.1, hdone⟩

theorem shut_of_failed (hfailed : client.failed = true) : Shut python settings client := by
  intro events call outside
  have hrun : (client.run python settings events).log = client.log ∧
      (client.run python settings events).failed = true := failed_run hfailed events
  exact ⟨hrun.1, ((requested_run python settings _ call outside).of_failed hrun.2).1⟩

theorem seals_of_not_slips (h : ¬ SlipsAt python settings client call outside) :
    Seals python settings client call outside := by
  intro error herror hremote hlog
  have hrequested := requested_run python settings client call outside
  rw [herror] at hrequested
  apply shut_of_failed
  cases hrequested with
  | unsent _ _ _ hunsent => exact absurd hunsent.log hlog
  | closed _ _ _ _ _ _ _ _ _ _ hfailed => exact hfailed
  | replied request expected next raw _ _ hwrites houtside hreply =>
    cases hreply with
    | slipped _ _ hslips _ _ _ => exact absurd ⟨request, expected, next, raw, hwrites, houtside, hslips⟩ h
    | failed _ _ _ _ _ hfailed => exact hfailed
    | unechoed _ _ _ _ _ _ hfailed => exact hfailed
    | remote _ _ _ _ _ _ _ => exact absurd rfl hremote
    | accepted _ _ _ _ _ _ _ _ _ _ _ hout =>
      rcases hout with ⟨hok, -⟩ | ⟨_, -, -, hfailed⟩
      · cases hok
      · exact hfailed

theorem leavesOpen_of_slips (h : SlipsAt python settings client call outside) :
    LeavesOpen python settings client call outside := by
  obtain ⟨request, expected, next, raw, hwrites, houtside, hslips⟩ := h
  have hrequested := requested_run python settings client call outside
  generalize hrun : run (Lifecycle.request python settings call outside) client = result at hrequested
  rcases result with ⟨out, client'⟩
  unfold LeavesOpen
  rw [hrun]
  cases hrequested with
  | unsent _ _ hnot _ => exact absurd hwrites (hnot _ _ _ _)
  | closed _ _ _ _ _ _ _ hclosed _ _ _ => cases hclosed.symm.trans houtside
  | replied other expected' next' raw' _ _ hwrites' _ hreply =>
    cases Except.ok.inj (hwrites'.built.symm.trans hwrites.built)
    cases hreply with
    | slipped error _ _ hremote htracks hfailed =>
      refine ⟨⟨error, rfl, hremote⟩, ?_, hfailed.trans hwrites'.alive⟩
      intro hlog
      have hlength := congrArg List.length (htracks.log.symm.trans hlog)
      simp [Client.written, Client.note, Client.register, Client.count] at hlength
    | failed _ _ hnot _ _ _ => exact absurd hslips hnot
    | unechoed _ _ hnot _ _ _ _ => exact absurd hslips hnot
    | remote _ _ _ hnot _ _ _ => exact absurd hslips hnot
    | accepted _ _ _ _ _ _ hnot _ _ _ _ _ => exact absurd hslips hnot

theorem movesOnAccepted (python : Interpreter) (settings : Settings) (client : Client) (call : Call)
    (outside : Outside) : MovesOnAccepted python settings client call outside := by
  have hrequested := requested_run python settings client call outside
  generalize hrun : run (Lifecycle.request python settings call outside) client = result at hrequested
  rcases result with ⟨out, client'⟩
  unfold MovesOnAccepted
  rw [hrun]
  rcases hrequested.exchanges with hunsent | ⟨request, expected, next, raw, reached, hwrites, hexchanges⟩
  · exact .inl ⟨hunsent.state, congrArg acceptedKinds hunsent.log⟩
  · by_cases hreached : reached = .accepted
    · exact .inr ⟨request, expected, next, raw, hwrites, hexchanges.accepted hreached,
        hexchanges.state.trans (if_pos hreached)⟩
    · refine .inl ⟨hexchanges.state.trans (if_neg hreached), ?_⟩
      rw [hexchanges.kinds, if_neg hreached, List.append_nil]

end Failing

/-- After any run a session is safe, and its next request moves the state with an accepted response only. A request
that is written and ends with an exception but a registered error shuts the client, unless it slips; where it slips,
the client is left open. -/
theorem session_safe_but_slips (python : Interpreter) (settings : Settings) (events : List Event) (call : Call)
    (outside : Outside) :
    let client := Client.new.run python settings events
    Safe client ∧ MovesOnAccepted python settings client call outside ∧
      (¬ SlipsAt python settings client call outside → Seals python settings client call outside) ∧
      (SlipsAt python settings client call outside → LeavesOpen python settings client call outside) := by
  intro client
  obtain ⟨exchanges, hkept⟩ : ∃ exchanges, Kept client exchanges := Kept.new.run events
  exact ⟨hkept.safe, movesOnAccepted python settings client call outside, seals_of_not_slips, leavesOpen_of_slips⟩

/-! ## A timeout that the lock refuses -/

/-- An interpreter, as far as `hello` makes use of it. -/
def python : Interpreter := ⟨interpreter 1000, fun n => some n, fun _ => none, 9223372036⟩

theorem lineLimit_fits : (1 : Int) ≤ 65536 ∧ (65536 : Int) ≤ maxInteger := by decide

theorem fiveSeconds_positive : ∀ _ : RequestKind, (0 : ℚ) < 5 := fun _ => by norm_num

def settings : Settings := ⟨65536, 65536, fun _ => 5, lineLimit_fits, lineLimit_fits, fiveSeconds_positive⟩

/-- A `hello` that waits for 10 ** 300 seconds. -/
def hello : Call where
  kind := lit "hello"
  payload := [(lit "requested_adapter_protocol", .str protocolVersion)]
  requestId := none
  timeout := some (.int (10 ^ 300 : Nat))

/-- The adapter takes what is written, and is running. -/
def running : Outside := ⟨true, none, false, none, false⟩

theorem hello_overflows : (run (request python settings hello running) Client.new).1 =
    .error (overflowError (lit "timeout value is too large")) := by decide +kernel

theorem hello_written : (run (request python settings hello running) Client.new).2.log.length = 1 := by decide +kernel

theorem hello_written_again :
    ((run (request python settings hello running) Client.new).2.run python settings [.call hello running]).log.length =
      2 := by decide +kernel

/-- The first request ends with `OverflowError`, and the second one is written. -/
theorem not_shut_by_overflow : ¬ Seals python settings Client.new hello running := by
  intro hseals
  have hlog : (run (request python settings hello running) Client.new).2.log ≠ Client.new.log := by
    intro h
    cases hello_written.symm.trans (congrArg List.length h)
  have hshut := hseals _ hello_overflows overflow_not_remote hlog
  have hsame := (hshut [.call hello running] hello running).1
  cases hello_written_again.symm.trans ((congrArg List.length hsame).trans hello_written)

end TurnVector.CrossEngine.Lifecycle
