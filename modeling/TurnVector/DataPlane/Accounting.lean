import TurnVector.DataPlane.Generation

/-! # What a generation records

The outputs and the states that a run reports are those of the events that it takes in, in order.
-/

namespace TurnVector.DataPlane

open Python

def Event.isTerminal (event : Event) : Bool :=
  match event.content with
  | .statusUpdate status => status.terminal
  | _ => false

def Event.isOutput (event : Event) : Bool :=
  match event.content with
  | .outputFrame _ => true
  | _ => false

def Event.requestId? (event : Event) : Option Str :=
  match event.content with
  | .statusUpdate status => some status.requestId
  | .outputFrame output => some output.requestId
  | _ => none

def Event.status? (event : Event) : Option Status :=
  match event.content with
  | .statusUpdate status => some status
  | _ => none

def Event.output? (event : Event) : Option (Output × Event) :=
  match event.content with
  | .outputFrame output => some (output, event)
  | _ => none

/-- The events that a run takes in: all but the Direct Responses. -/
def accepted (events : List Event) : List Event := events.filter fun event => !event.isDirect

def statuses (events : List Event) : List Status := events.filterMap Event.status?

def outputFrames (events : List Event) : List (Output × Event) := events.filterMap Event.output?

/-- The number of tokens in the frames. -/
def tokenCount (outputs : List (Output × Event)) : Nat := (outputs.flatMap fun item => item.1.tokenIds).length

/-- Each frame starts where those before it end, and has a token. -/
def Contiguous (outputs : List (Output × Event)) : Prop :=
  ∀ before item after, outputs = before ++ item :: after →
    item.1.outputSequence = tokenCount before ∧ item.1.tokenIds ≠ []

/-- The events that were taken in, and what the run has of them. -/
structure Recorded (requestId : Str) (events : List Event) (progress : Progress) : Prop where
  states : progress.states = .accepted :: (statuses events).map (·.state)
  outputs : progress.outputs = outputFrames events
  statusVersions : progress.statusVersions = (statuses events).map (·.statusVersion)
  terminal : progress.terminal = events.any Event.isTerminal
  request : ∀ event ∈ accepted events, event.requestId? = some requestId
  increasing : (1 :: (statuses events).map (·.statusVersion)).Pairwise (· < ·)
  agree : ∀ status ∈ statuses events, status.terminal = decide (status.state = .terminal)
  contiguous : Contiguous (outputFrames events)

@[simp] theorem accepted_append (xs ys : List Event) : accepted (xs ++ ys) = accepted xs ++ accepted ys := by
  simp [accepted]

@[simp] theorem statuses_append (xs ys : List Event) : statuses (xs ++ ys) = statuses xs ++ statuses ys := by
  simp [statuses]

@[simp] theorem outputFrames_append (xs ys : List Event) :
    outputFrames (xs ++ ys) = outputFrames xs ++ outputFrames ys := by
  simp [outputFrames]

theorem recorded_accepting (requestId : Str) : Recorded requestId [] accepting where
  states := rfl
  outputs := rfl
  statusVersions := rfl
  terminal := rfl
  request := by simp [accepted]
  increasing := by simp [statuses]
  agree := by simp [statuses]
  contiguous := by simp [Contiguous, outputFrames]

/-! ## One event -/

theorem tokenCount_append (xs ys : List (Output × Event)) : tokenCount (xs ++ ys) = tokenCount xs + tokenCount ys := by
  simp [tokenCount]

theorem expectedSequence_eq (outputs : List (Output × Event)) (h : Contiguous outputs) :
    expectedSequence outputs = tokenCount outputs := by
  unfold expectedSequence
  rcases List.eq_nil_or_concat outputs with rfl | ⟨before, last, rfl⟩
  · rfl
  · have := (h before last [] (by simp)).1
    simp [this, tokenCount]

theorem contiguous_append (outputs : List (Output × Event)) (item : Output × Event) (h : Contiguous outputs)
    (hs : item.1.outputSequence = tokenCount outputs) (ht : item.1.tokenIds ≠ []) : Contiguous (outputs ++ [item]) := by
  intro before x after heq
  rcases List.eq_nil_or_concat after with rfl | ⟨middle, last, rfl⟩
  · obtain ⟨rfl, hx⟩ := List.append_inj' heq rfl
    cases hx
    exact ⟨hs, ht⟩
  · rw [List.concat_eq_append, ← List.cons_append, ← List.append_assoc] at heq
    exact h before x middle (List.append_inj' heq rfl).1

theorem pairwise_concat (first : Nat) (versions : List Nat) (version : Nat) (h : (first :: versions).Pairwise (· < ·))
    (hfirst : first < version) (hlast : ∀ last ∈ versions.getLast?, last < version) :
    (first :: (versions ++ [version])).Pairwise (· < ·) := by
  rw [← List.cons_append, List.pairwise_append]
  refine ⟨h, by simp, ?_⟩
  intro a ha b hb
  rw [List.mem_singleton.mp hb]
  rcases List.mem_cons.mp ha with rfl | ha
  · exact hfirst
  · rcases List.eq_nil_or_concat versions with rfl | ⟨init, last, rfl⟩
    · cases ha
    · have hl : last < version := hlast last (by simp)
      rw [List.concat_eq_append] at ha h
      rcases List.mem_append.mp ha with ha | ha
      · have := (List.pairwise_append.mp (List.pairwise_cons.mp h).2).2.2 a ha last (by simp)
        omega
      · rw [List.mem_singleton.mp ha]
        exact hl

theorem appendStatus_recorded (requestId : Str) (events : List Event) (progress progress' : Progress) (status : Status)
    (event : Event) (hevent : event.content = .statusUpdate status) (hid : status.requestId = requestId)
    (h : Recorded requestId events progress) (hok : appendStatus status progress = .ok progress') :
    Recorded requestId (events ++ [event]) progress' := by
  have hs : statuses [event] = [status] := by simp [statuses, Event.status?, hevent]
  have ho : outputFrames [event] = [] := by simp [outputFrames, Event.output?, hevent]
  unfold appendStatus at hok
  split at hok
  · cases hok
  rename_i hversion
  split at hok
  · cases hok
  split at hok
  · cases hok
  rename_i hagree
  cases hok
  constructor
  · simp [h.states, hs]
  · simp [h.outputs, ho]
  · simp [h.statusVersions, hs]
  · simp [h.terminal, Event.isTerminal, hevent]
  · rw [accepted_append]
    refine List.forall_mem_append.mpr ⟨h.request, ?_⟩
    simp [accepted, Event.isDirect, Event.requestId?, hevent, hid]
  · rw [statuses_append, hs, List.map_append]
    simp only [Bool.or_eq_true, decide_eq_true_eq, not_or, not_le, h.statusVersions] at hversion
    apply pairwise_concat _ _ _ h.increasing hversion.1
    intro last hlast
    have := hversion.2
    rw [hlast] at this
    simpa using this
  · rw [statuses_append, hs]
    refine List.forall_mem_append.mpr ⟨h.agree, ?_⟩
    simpa using hagree
  · rw [outputFrames_append, ho, List.append_nil]
    exact h.contiguous

theorem appendOutput_recorded (requestId : Str) (events : List Event) (progress progress' : Progress) (output : Output)
    (event : Event) (hevent : event.content = .outputFrame output) (hid : output.requestId = requestId)
    (h : Recorded requestId events progress) (hok : appendOutput output event progress = .ok progress') :
    Recorded requestId (events ++ [event]) progress' := by
  have hs : statuses [event] = [] := by simp [statuses, Event.status?, hevent]
  have ho : outputFrames [event] = [(output, event)] := by simp [outputFrames, Event.output?, hevent]
  unfold appendOutput at hok
  split at hok
  · cases hok
  rename_i htokens
  split at hok
  · cases hok
  rename_i hsequence
  split at hok
  · cases hok
  cases hok
  constructor
  · simp [h.states, hs]
  · simp [h.outputs, ho]
  · simp [h.statusVersions, hs]
  · simp [h.terminal, Event.isTerminal, hevent]
  · rw [accepted_append]
    refine List.forall_mem_append.mpr ⟨h.request, ?_⟩
    simp [accepted, Event.isDirect, Event.requestId?, hevent, hid]
  · rw [statuses_append, hs, List.append_nil]
    exact h.increasing
  · rw [statuses_append, hs, List.append_nil]
    exact h.agree
  · rw [outputFrames_append, ho]
    apply contiguous_append _ _ h.contiguous
    · rw [h.outputs, expectedSequence_eq _ h.contiguous, not_not] at hsequence
      exact hsequence
    · simpa using htokens

theorem appendEvent_recorded (requestId : Str) (events : List Event) (progress progress' : Progress) (event : Event)
    (h : Recorded requestId events progress) (hok : appendEvent requestId progress event = .ok progress') :
    Recorded requestId (events ++ [event]) progress' := by
  unfold appendEvent at hok
  split at hok
  case h_1 direct hevent =>
    cases hok
    have hs : statuses (events ++ [event]) = statuses events := by simp [statuses, Event.status?, hevent]
    have ho : outputFrames (events ++ [event]) = outputFrames events := by simp [outputFrames, Event.output?, hevent]
    have ha : accepted (events ++ [event]) = accepted events := by simp [accepted, Event.isDirect, hevent]
    have ht : (events ++ [event]).any Event.isTerminal = events.any Event.isTerminal := by
      simp [Event.isTerminal, hevent]
    exact ⟨hs ▸ h.states, ho ▸ h.outputs, hs ▸ h.statusVersions, ht ▸ h.terminal, ha ▸ h.request, hs ▸ h.increasing,
      hs ▸ h.agree, ho ▸ h.contiguous⟩
  case h_2 status hevent =>
    split at hok
    · cases hok
    case isFalse hid =>
      exact appendStatus_recorded requestId events progress progress' status event hevent (not_not.mp hid) h hok
  case h_3 output hevent =>
    split at hok
    · cases hok
    case isFalse hid =>
      exact appendOutput_recorded requestId events progress progress' output event hevent (not_not.mp hid) h hok
  case h_4 => cases hok

theorem appendEvents_recorded (requestId : Str) (events window : List Event) (progress progress' : Progress)
    (h : Recorded requestId events progress) (hok : window.foldlM (appendEvent requestId) progress = .ok progress') :
    Recorded requestId (events ++ window) progress' := by
  induction window generalizing events progress with
  | nil =>
    cases hok
    rwa [List.append_nil]
  | cons event window ih =>
    rw [List.foldlM_cons, bind_ok_iff] at hok
    obtain ⟨middle, hstep, hok⟩ := hok
    have := ih (events ++ [event]) middle (appendEvent_recorded requestId events progress middle event h hstep) hok
    rwa [List.append_assoc] at this

/-! ## The course of a run -/

/-- The frames of a run after its submit response: those before the cancel command, those before its answer, the
answer and the rest. -/
structure Course where
  before : List Event
  window : List Event
  answer : Option Event
  after : List Event

namespace Course

def events (course : Course) : List Event :=
  course.before ++ (course.window ++ course.answer.toList) ++ course.after

/-- What the trace has of the command and of what follows it. -/
def fromCommand (course : Course) (ns bytes : Nat) : List TraceEntry :=
  course.answer.elim [] (fun answer => .sent (lit "cancel_request") ns bytes :: (course.window ++ [answer]).map .received)
    ++ course.after.map .received

/-- What the trace has of a course. -/
def entries (course : Course) (ns bytes : Nat) : List TraceEntry :=
  course.before.map .received ++ course.fromCommand ns bytes

/-- Only the answer answers the command, and nothing but the window can follow a terminal status. -/
structure Proper (requestId : Str) (commandId : Nat) (course : Course) : Prop where
  window_nil : course.answer = none → course.window = []
  window : ∀ event ∈ course.window, event.isDirect = false
  answer : ∀ answer ∈ course.answer, ∃ direct, answer.content = .directResponse direct ∧
    DataPlaneClient.checkCancellation commandId requestId direct = .ok ()
  before : ∀ event ∈ course.before, event.isTerminal = false
  after_nil : course.window.any Event.isTerminal → course.after = []
  after : ∀ event ∈ course.after.dropLast, event.isTerminal = false

/-- Where the command stands in the course. -/
def Matches (clientEvent : ClientEvent) (course : Course) : Prop :=
  match clientEvent with
  | .cancelBeforeReceipt => course.before = [] ∧ course.answer.isSome
  | .cancelAfterReceipt =>
    (course.before = [] ∧ course.answer = none ∧ ∀ event ∈ course.after, event.isOutput = false) ∨
      (course.answer.isSome ∧ ∃ first output, course.before = first ++ [output] ∧ output.isOutput ∧
        ∀ event ∈ first, event.isOutput = false)
  | _ => course.before = [] ∧ course.answer = none

/-- The frames alone. -/
def plain (after : List Event) : Course := ⟨[], [], none, after⟩

end Course

/-- The loop adds an event that does not end the run before others, or the one that ends it. -/
theorem dropLast_cons (event : Event) (after : List Event) (hstop : event.isTerminal → after = [])
    (h : ∀ e ∈ after.dropLast, e.isTerminal = false) : ∀ e ∈ (event :: after).dropLast, e.isTerminal = false := by
  cases after with
  | nil => simp
  | cons next rest =>
    rw [List.dropLast_cons_cons]
    refine List.forall_mem_cons.mpr ⟨?_, h⟩
    by_contra hterminal
    simp at hterminal
    exact absurd (hstop hterminal) (by simp)

theorem Recorded.terminal_of_last {requestId : Str} {events : List Event} {event : Event} {progress : Progress}
    (h : Recorded requestId (events ++ [event]) progress) (hterminal : event.isTerminal) : progress.terminal = true := by
  rw [h.terminal]
  simp [hterminal]

theorem follow_plain (types : ProtocolTypes) (requestId : Str) (flag : Bool) (rounds : Nat) (events : List Event)
    (progress progress' : Progress) (cancellation cancellation' : Option Event) (self self' : DataPlaneClient)
    (hflag : flag = false ∨ cancellation.isSome) (hr : Recorded requestId events progress)
    (h : Method.call (follow types requestId flag rounds progress cancellation) self =
      (.ok (progress', cancellation'), self')) :
    ∃ after, self'.trace = self.trace ++ after.map .received ∧ cancellation' = cancellation ∧
      Recorded requestId (events ++ after) progress' ∧ (progress.terminal → after = []) ∧
      ∀ event ∈ after.dropLast, event.isTerminal = false := by
  induction rounds generalizing events progress self with
  | zero =>
    rw [follow, Method.call_pure, Prod.mk.injEq, Except.ok.injEq, Prod.mk.injEq] at h
    obtain ⟨⟨rfl, rfl⟩, rfl⟩ := h
    exact ⟨[], by simp, rfl, by simpa using hr, by simp, by simp⟩
  | succ rounds ih =>
    rw [follow] at h
    split at h
    · rw [Method.call_pure, Prod.mk.injEq, Except.ok.injEq, Prod.mk.injEq] at h
      obtain ⟨⟨rfl, rfl⟩, rfl⟩ := h
      exact ⟨[], by simp, rfl, by simpa using hr, by simp, by simp⟩
    rename_i hrunning
    obtain ⟨event, a, ha, h⟩ := Method.bind_inv h
    obtain ⟨middle, b, hb, h⟩ := Method.bind_inv h
    obtain ⟨hstep, hb⟩ := Method.lift_inv hb
    have hmiddle := appendEvent_recorded requestId events progress middle event hr hstep
    have hno : (flag && !middle.outputs.isEmpty && cancellation.isNone) = false := by
      rcases hflag with hflag | hflag
      · simp [hflag]
      · obtain ⟨c, hc⟩ := Option.isSome_iff_exists.mp hflag
        simp [hc]
    rw [hno, if_neg (by simp)] at h
    obtain ⟨after, htrace, hc, hafter, hstop, hlast⟩ := ih (events ++ [event]) middle b hmiddle h
    have hnext : event.isTerminal → after = [] := fun ht => hstop (hmiddle.terminal_of_last ht)
    refine ⟨event :: after, ?_, hc, ?_, fun ht => absurd ht hrunning, dropLast_cons event after hnext hlast⟩
    · rw [htrace, hb, DataPlaneClient.receive_ok _ _ _ _ ha, List.append_assoc]
      rfl
    · rwa [List.append_assoc] at hafter

/-- The command, what preceded its answer, and the rest. -/
theorem cancel_then_follow (types : ProtocolTypes) (requestId : Str) (flag : Bool) (rounds : Nat)
    (events before : List Event) (progress middle progress' : Progress) (answer : Event) (window : List Event)
    (cancellation' : Option Event) (self a self' : DataPlaneClient)
    (hr : Recorded requestId (events ++ before) progress) (hbefore : ∀ event ∈ before, event.isTerminal = false)
    (ha : Method.call (DataPlaneClient.cancel types requestId) self = (.ok (answer, window), a))
    (happended : window.foldlM (appendEvent requestId) progress = .ok middle)
    (h : Method.call (follow types requestId flag rounds middle (some answer)) a =
      (.ok (progress', cancellation'), self')) :
    ∃ course : Course, ∃ ns bytes, course.before = before ∧ cancellation' = course.answer ∧ course.answer.isSome ∧
      self'.trace = self.trace ++ course.fromCommand ns bytes ∧ course.Proper requestId (self.commandId + 1) ∧
      Recorded requestId (events ++ course.events) progress' := by
  obtain ⟨ns, bytes, htrace, hwindow, direct, hdirect, hchecked⟩ := DataPlaneClient.cancel_ok _ _ _ _ _ _ ha
  have hmiddle := appendEvents_recorded requestId _ window progress middle hr happended
  have hskip : appendEvent requestId middle answer = .ok middle := by simp [appendEvent, hdirect]
  have hanswered := appendEvent_recorded requestId _ middle middle answer hmiddle hskip
  obtain ⟨after, hrest, hc, hafter, hstop, hlast⟩ :=
    follow_plain types requestId flag rounds _ middle progress' (some answer) cancellation' a self' (Or.inr rfl)
      hanswered h
  refine ⟨⟨before, window, some answer, after⟩, ns, bytes, rfl, hc, rfl, ?_, ?_, ?_⟩
  · rw [hrest, htrace]
    simp [Course.fromCommand]
  · constructor
    · intro hnone
      cases hnone
    · exact hwindow
    · intro x hx
      cases hx
      exact ⟨direct, hdirect, hchecked⟩
    · exact hbefore
    · intro hterminal
      apply hstop
      rw [hmiddle.terminal, List.any_append]
      simp only [hterminal, Bool.or_true]
    · exact hlast
  · simpa [Course.events] using hafter

theorem follow_done (types : ProtocolTypes) (requestId : Str) (flag : Bool) (rounds : Nat) (progress : Progress)
    (cancellation : Option Event) (self : DataPlaneClient) (h : progress.terminal = true) :
    Method.call (follow types requestId flag rounds progress cancellation) self =
      (.ok (progress, cancellation), self) := by
  cases rounds with
  | zero => rfl
  | succ rounds =>
    rw [follow, if_pos h]
    rfl

/-- One more event before a course. -/
def Course.cons (event : Event) (course : Course) : Course :=
  match course.answer with
  | none => { course with after := event :: course.after }
  | some _ => { course with before := event :: course.before }

theorem Course.cons_answer (event : Event) (course : Course) : (course.cons event).answer = course.answer := by
  unfold Course.cons
  split <;> rfl

/-- An event that is no output goes before a course that it does not end. -/
theorem Course.cons_spec (requestId : Str) (commandId ns bytes : Nat) (event : Event) (course : Course)
    (houtput : event.isOutput = false) (hm : course.Matches .cancelAfterReceipt) (hp : course.Proper requestId commandId)
    (hstop : event.isTerminal → course = Course.plain []) :
    (course.cons event).Matches .cancelAfterReceipt ∧ (course.cons event).Proper requestId commandId ∧
      (course.cons event).events = event :: course.events ∧
      (course.cons event).entries ns bytes = .received event :: course.entries ns bytes := by
  obtain ⟨before, window, answer, after⟩ := course
  cases answer with
  | none =>
    have hw : window = [] := hp.window_nil rfl
    rcases hm with ⟨hb, -, hout⟩ | ⟨hsome, -⟩
    case inr => cases hsome
    have hb : before = [] := hb
    subst hb hw
    refine ⟨Or.inl ⟨rfl, rfl, List.forall_mem_cons.mpr ⟨houtput, hout⟩⟩, ?_, rfl, rfl⟩
    refine ⟨fun _ => rfl, hp.window, hp.answer, hp.before, fun h => (Bool.false_ne_true h).elim, ?_⟩
    refine dropLast_cons event after (fun hterminal => ?_) hp.after
    have := hstop hterminal
    rw [Course.plain, Course.mk.injEq] at this
    exact this.2.2.2
  | some answer =>
    rcases hm with ⟨-, hnone, -⟩ | ⟨-, first, output, hb, ho, hfirst⟩
    case inl => cases hnone
    have hb : before = first ++ [output] := hb
    subst hb
    refine ⟨Or.inr ⟨rfl, event :: first, output, rfl, ho, List.forall_mem_cons.mpr ⟨houtput, hfirst⟩⟩, ?_, rfl, rfl⟩
    refine ⟨hp.window_nil, hp.window, hp.answer, List.forall_mem_cons.mpr ⟨?_, hp.before⟩, hp.after_nil, hp.after⟩
    by_contra hterminal
    have := hstop (by simpa using hterminal)
    rw [Course.plain, Course.mk.injEq] at this
    exact absurd this.2.2.1 (by simp)

theorem Course.plain_nil (requestId : Str) (commandId : Nat) :
    (Course.plain []).Matches .cancelAfterReceipt ∧ (Course.plain []).Proper requestId commandId := by
  refine ⟨Or.inl ⟨rfl, rfl, by simp [Course.plain]⟩, ?_⟩
  exact ⟨fun _ => rfl, by simp [Course.plain], by simp [Course.plain], by simp [Course.plain], fun _ => rfl,
    by simp [Course.plain]⟩

theorem Recorded.no_outputs {requestId : Str} {events : List Event} {progress : Progress}
    (h : Recorded requestId events progress) (hno : ∀ event ∈ events, event.isOutput = false) :
    progress.outputs = [] := by
  rw [h.outputs, outputFrames, List.filterMap_eq_nil_iff]
  intro event hevent
  have := hno event hevent
  unfold Event.isOutput at this
  unfold Event.output?
  split
  · simp_all
  · rfl

/-- The loop that cancels after the first output. -/
theorem follow_cancel (types : ProtocolTypes) (requestId : Str) (rounds : Nat) (events : List Event)
    (progress progress' : Progress) (cancellation' : Option Event) (self self' : DataPlaneClient)
    (hr : Recorded requestId events progress) (hno : ∀ event ∈ events, event.isOutput = false)
    (h : Method.call (follow types requestId true rounds progress none) self =
      (.ok (progress', cancellation'), self')) :
    ∃ course : Course, ∃ ns bytes, self'.trace = self.trace ++ course.entries ns bytes ∧
      cancellation' = course.answer ∧ course.Matches .cancelAfterReceipt ∧
      course.Proper requestId (self.commandId + 1) ∧ Recorded requestId (events ++ course.events) progress' ∧
      (progress.terminal → course = Course.plain []) := by
  induction rounds generalizing events progress self with
  | zero =>
    rw [follow, Method.call_pure, Prod.mk.injEq, Except.ok.injEq, Prod.mk.injEq] at h
    obtain ⟨⟨rfl, rfl⟩, rfl⟩ := h
    have hnil := Course.plain_nil requestId (self.commandId + 1)
    exact ⟨Course.plain [], 0, 0, by simp [Course.plain, Course.entries, Course.fromCommand], rfl, hnil.1, hnil.2,
      by simpa [Course.plain, Course.events] using hr, fun _ => rfl⟩
  | succ rounds ih =>
    by_cases hterminal : progress.terminal = true
    · rw [follow_done _ _ _ _ _ _ _ hterminal, Prod.mk.injEq, Except.ok.injEq, Prod.mk.injEq] at h
      obtain ⟨⟨rfl, rfl⟩, rfl⟩ := h
      have hnil := Course.plain_nil requestId (self.commandId + 1)
      exact ⟨Course.plain [], 0, 0, by simp [Course.plain, Course.entries, Course.fromCommand], rfl, hnil.1, hnil.2,
        by simpa [Course.plain, Course.events] using hr, fun _ => rfl⟩
    rw [follow, if_neg hterminal] at h
    obtain ⟨event, a, ha, h⟩ := Method.bind_inv h
    obtain ⟨middle, b, hb, h⟩ := Method.bind_inv h
    obtain ⟨hstep, hb⟩ := Method.lift_inv hb
    have hmiddle := appendEvent_recorded requestId events progress middle event hr hstep
    have hid : b.commandId = self.commandId := by
      have := (DataPlaneClient.reads_receive types self).commandId
      rwa [ha, ← hb] at this
    have htrace : b.trace = self.trace ++ [.received event] := by rw [hb, DataPlaneClient.receive_ok _ _ _ _ ha]
    by_cases houtput : event.isOutput = true
    · have hoccurs : middle.outputs.isEmpty = false := by
        rw [hmiddle.outputs, outputFrames_append]
        unfold Event.isOutput at houtput
        split at houtput
        case h_1 output hcontent => simp [outputFrames, Event.output?, hcontent]
        case h_2 => cases houtput
      have hsilent : event.isTerminal = false := by
        unfold Event.isOutput at houtput
        unfold Event.isTerminal
        split
        · simp_all
        · rfl
      rw [hoccurs] at h
      obtain ⟨⟨answer, window⟩, c, hcancel, h⟩ := Method.bind_inv h
      obtain ⟨resumed, d, hd, h⟩ := Method.bind_inv h
      obtain ⟨happended, hd⟩ := Method.lift_inv hd
      obtain ⟨course, ns, bytes, hbefore, hc, hsome, hrest, hproper, hrecorded⟩ :=
        cancel_then_follow types requestId true rounds events [event] middle resumed progress' answer window
          cancellation' b c self' hmiddle (by simpa using hsilent) hcancel happended (hd ▸ h)
      refine ⟨course, ns, bytes, ?_, hc, Or.inr ⟨hsome, [], event, hbefore, houtput, by simp⟩, hid ▸ hproper, hrecorded,
        fun ht => absurd ht hterminal⟩
      rw [hrest, htrace, Course.entries, hbefore, List.append_assoc]
      rfl
    · have hquiet : event.isOutput = false := by simpa using houtput
      have hall : ∀ e ∈ events ++ [event], e.isOutput = false :=
        List.forall_mem_append.mpr ⟨hno, by simpa using hquiet⟩
      rw [hmiddle.no_outputs hall] at h
      obtain ⟨course, ns, bytes, hrest, hc, hmatches, hproper, hrecorded, hstop⟩ := ih _ middle b hmiddle hall h
      obtain ⟨hmatches', hproper', hevents, hentries⟩ := Course.cons_spec requestId (b.commandId + 1) ns bytes event
        course hquiet hmatches hproper fun ht => hstop (hmiddle.terminal_of_last ht)
      refine ⟨course.cons event, ns, bytes, ?_, hc.trans (Course.cons_answer event course).symm, hmatches',
        hid ▸ hproper', ?_, fun ht => absurd ht hterminal⟩
      · rw [hrest, htrace, hentries, List.append_assoc]
        rfl
      · rwa [hevents, List.append_cons]

theorem generate_ok (types : ProtocolTypes) (clientEvent : ClientEvent) (requestId : Str) (progress : Progress)
    (cancellation : Option Event) (self self' : DataPlaneClient)
    (h : Method.call (generate types clientEvent requestId) self = (.ok (progress, cancellation), self')) :
    ∃ course : Course, ∃ ns bytes, self'.trace = self.trace ++ course.entries ns bytes ∧
      cancellation = course.answer ∧ course.Matches clientEvent ∧ course.Proper requestId (self.commandId + 1) ∧
      Recorded requestId course.events progress ∧ progress.terminal = true := by
  unfold generate at h
  obtain ⟨⟨start, cancelled⟩, a, ha, h⟩ := Method.bind_inv h
  obtain ⟨reached, b, hb, h⟩ := Method.bind_inv h
  split at h
  case isFalse => simp at h
  case isTrue hterminal =>
    rw [Method.call_pure, Prod.mk.injEq, Except.ok.injEq] at h
    obtain ⟨rfl, rfl⟩ := h
    unfold cancelFirst at ha
    split at ha
    case isTrue hfirst =>
      subst hfirst
      obtain ⟨⟨answer, window⟩, c, hcancel, ha⟩ := Method.bind_inv ha
      obtain ⟨resumed, d, hd, ha⟩ := Method.bind_inv ha
      obtain ⟨happended, hd⟩ := Method.lift_inv hd
      rw [Method.call_pure, Prod.mk.injEq, Except.ok.injEq, Prod.mk.injEq] at ha
      obtain ⟨⟨rfl, rfl⟩, rfl⟩ := ha
      obtain ⟨course, ns, bytes, hbefore, hc, hsome, hrest, hproper, hrecorded⟩ :=
        cancel_then_follow types requestId false followRounds [] [] accepting resumed progress answer window
          cancellation self c b (recorded_accepting requestId) (by simp) hcancel happended (hd ▸ hb)
      refine ⟨course, ns, bytes, ?_, hc, ⟨hbefore, hsome⟩, hproper, by simpa using hrecorded, hterminal⟩
      rw [hrest, Course.entries, hbefore]
      rfl
    case isFalse hfirst =>
      rw [Method.call_pure, Prod.mk.injEq, Except.ok.injEq, Prod.mk.injEq] at ha
      obtain ⟨⟨rfl, rfl⟩, rfl⟩ := ha
      by_cases hafter : clientEvent = .cancelAfterReceipt
      · subst hafter
        obtain ⟨course, ns, bytes, hrest, hc, hmatches, hproper, hrecorded, -⟩ :=
          follow_cancel types requestId followRounds [] accepting progress cancellation self b
            (recorded_accepting requestId) (by simp) hb
        exact ⟨course, ns, bytes, hrest, hc, hmatches, hproper, by simpa using hrecorded, hterminal⟩
      · rw [decide_eq_false hafter] at hb
        obtain ⟨after, hrest, hc, hrecorded, -, hlast⟩ :=
          follow_plain types requestId false followRounds [] accepting progress none cancellation self b (Or.inl rfl)
            (recorded_accepting requestId) hb
        refine ⟨Course.plain after, 0, 0, ?_, hc, ?_, ?_, ?_, hterminal⟩
        · rw [hrest]
          rfl
        · unfold Course.Matches
          split
          · exact absurd rfl hfirst
          · exact absurd rfl hafter
          · exact ⟨rfl, rfl⟩
        · exact ⟨fun _ => rfl, by simp [Course.plain], by simp [Course.plain], by simp [Course.plain],
            fun h => (Bool.false_ne_true h).elim, hlast⟩
        · simpa [Course.plain, Course.events] using hrecorded

theorem attend_ok (types : ProtocolTypes) (clientEvent : ClientEvent) (requestId : Str) (outcome : Outcome)
    (self self' : DataPlaneClient)
    (h : Method.call (attend types clientEvent requestId) self = (.ok outcome, self')) :
    ∃ course : Course, ∃ ns bytes, self'.trace = self.trace ++ course.entries ns bytes ∧
      outcome.cancellation = course.answer ∧ course.Matches clientEvent ∧
      course.Proper requestId (self.commandId + 1) ∧ Recorded requestId course.events outcome.progress ∧
      outcome.progress.terminal = !outcome.disconnected ∧
      (outcome.disconnected = true → clientEvent ∈ [.disconnect, .backpressureTimeout]) := by
  have hdisconnected (state : DataPlaneClient) (htrace : state.trace = self.trace) :
      ∃ course : Course, ∃ ns bytes, state.trace = self.trace ++ course.entries ns bytes ∧
        none = course.answer ∧ (course.before = [] ∧ course.answer = none) ∧
        course.Proper requestId (self.commandId + 1) ∧ Recorded requestId course.events accepting := by
    refine ⟨Course.plain [], 0, 0, ?_, rfl, ⟨rfl, rfl⟩, (Course.plain_nil requestId _).2, recorded_accepting requestId⟩
    simp [htrace, Course.plain, Course.entries, Course.fromCommand]
  unfold attend at h
  split at h
  · obtain ⟨_, a, ha, h⟩ := Method.bind_inv h
    rw [Method.call_pure, Prod.mk.injEq, Except.ok.injEq] at h
    obtain ⟨rfl, rfl⟩ := h
    have htrace : a.trace = self.trace := by
      rw [DataPlaneClient.close, Method.call_modify, Prod.mk.injEq] at ha
      rw [← ha.2]
    obtain ⟨course, ns, bytes, hspec⟩ := hdisconnected a htrace
    exact ⟨course, ns, bytes, hspec.1, hspec.2.1, hspec.2.2.1, hspec.2.2.2.1, hspec.2.2.2.2, rfl, by simp⟩
  · obtain ⟨_, a, ha, h⟩ := Method.bind_inv h
    rw [Method.call_pure, Prod.mk.injEq, Except.ok.injEq] at h
    obtain ⟨rfl, rfl⟩ := h
    have htrace := DataPlaneClient.keepsTrace_expectBackpressureDisconnect self
    rw [ha] at htrace
    obtain ⟨course, ns, bytes, hspec⟩ := hdisconnected a htrace
    exact ⟨course, ns, bytes, hspec.1, hspec.2.1, hspec.2.2.1, hspec.2.2.2.1, hspec.2.2.2.2, rfl, by simp⟩
  · obtain ⟨reached, a, ha, h⟩ := Method.bind_inv h
    rw [Method.call_pure, Prod.mk.injEq, Except.ok.injEq] at h
    obtain ⟨rfl, rfl⟩ := h
    obtain ⟨course, ns, bytes, htrace, hc, hmatches, hproper, hrecorded, hterminal⟩ :=
      generate_ok types clientEvent requestId reached.1 reached.2 self a ha
    exact ⟨course, ns, bytes, htrace, hc, hmatches, hproper, hrecorded, hterminal, fun h => (Bool.false_ne_true h).elim⟩

/-- The frames of a run after the response to its submit. -/
def served (result : GenerationResult) : List Event := (received result.protocolTrace).drop 2

/-- What a run that returned went through. -/
structure WentThrough (result : GenerationResult) (progress : Progress) (course : Course) : Prop where
  trace : ∃ hello hellobytes ack submitted submitbytes ns bytes, result.protocolTrace =
    [.sent (lit "hello") hello hellobytes, .received ack, .sent (lit "submit_request") submitted submitbytes,
      .received result.accepted] ++ course.entries ns bytes
  accepted : ∃ modelRevision, DataPlaneClient.checkAccepted modelRevision 1 result.accepted.content =
    .ok result.requestId
  cancellation : result.cancellation = course.answer
  matched : course.Matches result.clientEvent
  proper : course.Proper result.requestId 2
  recorded : Recorded result.requestId course.events progress
  terminal : progress.terminal = !result.connectionDisconnected
  disconnected : result.connectionDisconnected = true → result.clientEvent ∈ [.disconnect, .backpressureTimeout]
  lifecycle : result.lifecycle = progress.states
  outputs : result.outputs = progress.outputs.map reported
  tokens : result.generatedTokenIds = progress.outputs.flatMap fun item => item.1.tokenIds

theorem runGeneration_ok (types : ProtocolTypes) (descriptor : DataPlaneDescriptor) (connection : Except Str Socket)
    (clock : Nat → Nat) (arguments : GenerationArguments) (result : GenerationResult)
    (h : runGeneration types descriptor connection clock arguments = .ok result) :
    result.clientEvent = arguments.clientEvent ∧ ∃ progress course, WentThrough result progress course := by
  unfold runGeneration at h
  split at h
  · cases h
  case h_2 socket =>
    rcases hsession : Method.call (session types arguments (clock 0)) {
      descriptor
      socket := some socket
      commandId := 0
      maxFrameBytes := descriptor.maxFrameBytes
      serverWriteTimeoutsMs := (0, 0)
      trace := []
      clock := fun n => clock (n + 1) } with ⟨r, last⟩
    rw [hsession] at h
    have h : r = .ok result := h
    subst h
    unfold session at hsession
    obtain ⟨ack, a, ha, hsession⟩ := Method.bind_inv hsession
    rw [Method.call_bind, DataPlaneClient.call_monotonicNs] at hsession
    dsimp only at hsession
    obtain ⟨⟨requestId, accepted⟩, b, hb, hsession⟩ := Method.bind_inv hsession
    obtain ⟨outcome, c, hc, hsession⟩ := Method.bind_inv hsession
    rw [Method.call_bind, DataPlaneClient.call_monotonicNs] at hsession
    dsimp only at hsession
    rw [Method.call_bind, Method.call_get] at hsession
    dsimp only at hsession
    rw [Method.call_pure, Prod.mk.injEq, Except.ok.injEq] at hsession
    obtain ⟨rfl, -⟩ := hsession
    obtain ⟨hello, hellobytes, ackEvent, htrace, hid⟩ := DataPlaneClient.negotiate_trace _ _ _ _ ha
    obtain ⟨submitted, submitbytes, htrace', hchecked, hid'⟩ := DataPlaneClient.submit_ok _ _ _ _ _ _ hb
    obtain ⟨course, ns, bytes, hrest, hcancellation, hmatches, hproper, hrecorded, hterminal, hdisconnected⟩ :=
      attend_ok types arguments.clientEvent requestId outcome b c hc
    dsimp only at htrace' hchecked hid'
    rw [hid'] at hproper
    rw [hid] at hproper hchecked
    refine ⟨rfl, outcome.progress, course, ?_⟩
    constructor
    · refine ⟨hello, hellobytes, ackEvent, submitted, submitbytes, ns, bytes, ?_⟩
      rw [hrest, htrace', htrace]
      rfl
    · exact ⟨_, hchecked⟩
    · exact hcancellation
    · exact hmatches
    · exact hproper
    · exact hrecorded
    · exact hterminal
    · exact hdisconnected
    · rfl
    · rfl
    · rfl

theorem Course.received_entries (requestId : Str) (commandId ns bytes : Nat) (course : Course)
    (h : course.Proper requestId commandId) : received (course.entries ns bytes) = course.events := by
  obtain ⟨before, window, answer, after⟩ := course
  cases answer with
  | none =>
    have hw : window = [] := h.window_nil rfl
    simp [Course.entries, Course.fromCommand, Course.events, hw]
  | some answer =>
    have hsent (rest : List TraceEntry) :
        received (.sent (lit "cancel_request") ns bytes :: rest) = received rest := rfl
    simp only [Course.entries, Course.fromCommand, Course.events, Option.elim_some, received_append, List.cons_append,
      hsent, received_map, Option.toList_some, List.append_assoc]

theorem WentThrough.served_eq {result : GenerationResult} {progress : Progress} {course : Course}
    (h : WentThrough result progress course) : served result = course.events := by
  obtain ⟨hello, hellobytes, ack, submitted, submitbytes, ns, bytes, htrace⟩ := h.trace
  rw [served, htrace, received_append, Course.received_entries _ _ _ _ _ h.proper]
  rfl

/-! ## The account of a run -/

theorem outputFrames_accepted (events : List Event) : outputFrames (accepted events) = outputFrames events := by
  unfold outputFrames accepted
  rw [List.filterMap_filter]
  apply List.filterMap_congr
  intro event _
  unfold Event.isDirect Event.output?
  split
  · rename_i hcontent
    simp [hcontent]
  · rfl

theorem statuses_accepted (events : List Event) : statuses (accepted events) = statuses events := by
  unfold statuses accepted
  rw [List.filterMap_filter]
  apply List.filterMap_congr
  intro event _
  unfold Event.isDirect Event.status?
  split
  · rename_i hcontent
    simp [hcontent]
  · rfl

/-- The Direct Response to the cancel command, which is the second one of a run. -/
def AnswersCancel (requestId : Str) (event : Event) : Prop :=
  ∃ closed eventSequence, event.content =
    .directResponse ⟨2, closed, .cancellationAccepted requestId eventSequence⟩ ∧ eventSequence ≠ 0

theorem checkCancellation_ok (commandId : Nat) (requestId : Str) (direct : Direct)
    (h : DataPlaneClient.checkCancellation commandId requestId direct = .ok ()) :
    ∃ closed eventSequence, direct = ⟨commandId, closed, .cancellationAccepted requestId eventSequence⟩ ∧
      eventSequence ≠ 0 := by
  obtain ⟨id, closed, response⟩ := direct
  unfold DataPlaneClient.checkCancellation at h
  split at h
  · cases h
  rename_i hid
  split at h
  case h_2 => cases h
  case h_1 cancelled eventSequence hresponse =>
    split at h
    · cases h
    rename_i hrest
    rw [not_or, not_not] at hrest
    dsimp only at hresponse hid
    rw [not_not] at hid
    exact ⟨closed, eventSequence, by rw [hid, hresponse, hrest.1], hrest.2⟩

theorem checkAccepted_ok (modelRevision requestId : Str) (commandId : Nat) (content : Content)
    (h : DataPlaneClient.checkAccepted modelRevision commandId content = .ok requestId) :
    ∃ closed, content = .directResponse
      ⟨commandId, closed, .requestAccepted requestId modelRevision 1 .accepted false false⟩ := by
  unfold DataPlaneClient.checkAccepted at h
  dsimp only at h
  split at h
  case h_2 => cases h
  case h_1 direct =>
    obtain ⟨id, closed, response⟩ := direct
    split at h
    · cases h
    rename_i hid
    rw [not_not] at hid
    dsimp only at hid
    split at h
    · cases h
    · cases h
    case h_3 hresponse =>
      split at h
      · cases h
      rename_i hrest
      simp only [not_or, not_not, Bool.not_eq_true] at hrest
      obtain ⟨-, hmodel, hversion, hstate, hreservation, hbackend⟩ := hrest
      cases h
      dsimp only at hresponse
      exact ⟨closed, by rw [hid, hresponse, hmodel, hversion, hstate, hreservation, hbackend]⟩

/-- What a run reports, from the events that it took in. -/
structure Accounted (result : GenerationResult) : Prop where
  outputs : result.outputs = (outputFrames (accepted (served result))).map reported
  lifecycle : result.lifecycle = .accepted :: (statuses (accepted (served result))).map (·.state)
  partition : ∀ before output after, result.outputs = before ++ output :: after →
    output.sequence = (before.flatMap (·.tokenIds)).length ∧ output.tokenIds ≠ []
  tokens : result.generatedTokenIds = result.outputs.flatMap (·.tokenIds)
  versions : ((statuses (accepted (served result))).map (·.statusVersion)).Pairwise (· < ·) ∧
    ∀ status ∈ statuses (accepted (served result)), 1 < status.statusVersion
  request : ∀ event ∈ accepted (served result), event.requestId? = some result.requestId
  submitted : ∃ closed modelRevision, result.accepted.content = .directResponse
    ⟨1, closed, .requestAccepted result.requestId modelRevision 1 .accepted false false⟩
  /-- The Direct Response of the cancel command is the only one that the client receives before it is answered. -/
  command : (result.cancellation = none ∧ ∀ ns bytes, .sent (lit "cancel_request") ns bytes ∉ result.protocolTrace) ∨
    ∃ before ns bytes window answer after, result.cancellation = some answer ∧ AnswersCancel result.requestId answer ∧
      result.protocolTrace = before ++ .sent (lit "cancel_request") ns bytes ::
        (window ++ answer :: after).map .received ∧
      (∀ event ∈ window, event.isDirect = false) ∧ ∀ ns bytes, .sent (lit "cancel_request") ns bytes ∉ before

theorem partition_of_contiguous (outputs : List (Output × Event)) (h : Contiguous outputs)
    (before after : List GenerationOutput) (output : GenerationOutput)
    (heq : outputs.map reported = before ++ output :: after) :
    output.sequence = (before.flatMap (·.tokenIds)).length ∧ output.tokenIds ≠ [] := by
  obtain ⟨first, rest, rfl, rfl, hrest⟩ := List.map_eq_append_iff.mp heq
  obtain ⟨item, last, rfl, rfl, -⟩ := List.map_eq_cons_iff.mp hrest
  have hitem := h first item last rfl
  refine ⟨hitem.1.trans ?_, hitem.2⟩
  rw [List.flatMap_map]
  rfl

/-- The trace up to a command has no cancel command. -/
theorem no_cancel (hello hellobytes submitted submitbytes : Nat) (ack response : Event) (events : List Event)
    (ns bytes : Nat) :
    .sent (lit "cancel_request") ns bytes ∉ [.sent (lit "hello") hello hellobytes, .received ack,
      .sent (lit "submit_request") submitted submitbytes, .received response] ++ events.map TraceEntry.received := by
  have hhello : (lit "cancel_request" == lit "hello") = false := by decide
  have hsubmit : (lit "cancel_request" == lit "submit_request") = false := by decide
  simp only [List.mem_append, List.mem_cons, TraceEntry.sent.injEq, List.mem_map, not_or, not_exists]
  refine ⟨⟨?_, by simp, ?_, by simp⟩, by simp⟩
  · rintro ⟨he, -⟩
    rw [beq_eq_false_iff_ne] at hhello
    exact hhello he
  · rintro ⟨he, -⟩
    rw [beq_eq_false_iff_ne] at hsubmit
    exact hsubmit he

theorem generation_accounted (types : ProtocolTypes) (descriptor : DataPlaneDescriptor)
    (connection : Except Str Socket) (clock : Nat → Nat) (arguments : GenerationArguments) (result : GenerationResult)
    (h : runGeneration types descriptor connection clock arguments = .ok result) : Accounted result := by
  obtain ⟨-, progress, course, hrun⟩ := runGeneration_ok types descriptor connection clock arguments result h
  have hserved := hrun.served_eq
  have hrecorded := hrun.recorded
  have houtputs : result.outputs = (outputFrames course.events).map reported := by
    rw [hrun.outputs, hrecorded.outputs]
  have hincreasing := List.pairwise_cons.mp hrecorded.increasing
  constructor
  · rw [outputFrames_accepted, hserved, houtputs]
  · rw [statuses_accepted, hserved, hrun.lifecycle, hrecorded.states]
  · intro before output after heq
    rw [houtputs] at heq
    exact partition_of_contiguous _ hrecorded.contiguous before after output heq
  · rw [hrun.tokens, hrun.outputs, List.flatMap_map]
    rfl
  · rw [statuses_accepted, hserved]
    exact ⟨hincreasing.2, fun status hs => hincreasing.1 _ (List.mem_map_of_mem hs)⟩
  · rw [hserved]
    exact hrecorded.request
  · obtain ⟨modelRevision, hchecked⟩ := hrun.accepted
    obtain ⟨closed, hcontent⟩ := checkAccepted_ok _ _ _ _ hchecked
    exact ⟨closed, modelRevision, hcontent⟩
  · obtain ⟨hello, hellobytes, ack, submitted, submitbytes, ns, bytes, htrace⟩ := hrun.trace
    rw [Course.entries, ← List.append_assoc] at htrace
    rcases hanswer : course.answer with _ | answer
    · left
      refine ⟨hrun.cancellation.trans hanswer, ?_⟩
      intro ns' bytes'
      rw [htrace, Course.fromCommand, hanswer, List.append_assoc]
      simp only [Option.elim_none, List.nil_append, ← List.map_append]
      exact no_cancel _ _ _ _ _ _ _ _ _
    · right
      obtain ⟨direct, hdirect, hchecked⟩ := hrun.proper.answer answer hanswer
      obtain ⟨closed, eventSequence, rfl, hne⟩ := checkCancellation_ok _ _ _ hchecked
      refine ⟨_, ns, bytes, course.window, answer, course.after, hrun.cancellation.trans hanswer,
        ⟨closed, eventSequence, hdirect, hne⟩, ?_, hrun.proper.window,
        no_cancel hello hellobytes submitted submitbytes ack result.accepted course.before⟩
      rw [htrace, Course.fromCommand, hanswer]
      simp

/-! ## Sample runs -/

def sampleAccepted : ServerFrame :=
  .directResponse ⟨1, false, some (.requestAccepted {
    requestId := List.replicate 16 (byte 5)
    frozenModelRevision := List.replicate 32 (byte 9)
    statusVersion := 1
    state := 1
    reservationCreated := false
    backendHandleCreated := false })⟩

def sampleTerminal (statusVersion : Nat) : ServerFrame := .statusUpdate {
  requestId := List.replicate 16 (byte 5)
  statusVersion
  state := 8
  phase := 1
  inputTokenProgress := 0
  generatedTokenProgress := 0
  lastOutputSequence := none
  cancellationState := 1
  terminal := true
  terminalReasonCode := none
  reservationCreated := false
  backendHandleCreated := false
  historyGap := false }

def sampleOutput : ServerFrame := .outputFrame {
  requestId := List.replicate 16 (byte 5)
  outputSequence := 0
  tokenIds := [7]
  statusVersion := 2
  terminal := false
  terminalReasonCode := none
  outputCapacityReserved := true
  publicationId := List.replicate 16 (byte 6) }

def sampleCancelled : ServerFrame :=
  .directResponse ⟨2, false, some (.cancellationAccepted ⟨List.replicate 16 (byte 5), 1⟩)⟩

/-- The answer to a command that the client never sent. -/
def sampleStray : ServerFrame := .directResponse ⟨9, false, some (.error ⟨1, 1, false, none⟩)⟩

/-- A run against a server that sends an acknowledgement, the response to submit and these frames. -/
def sampleRun (clientEvent : ClientEvent) (frames : List ServerFrame) : Except Exc GenerationResult :=
  runGeneration (sampleTypes (sampleHelloAck 100 50 :: sampleAccepted :: frames)) sampleDescriptor
    (.ok (sampleSocket (sampleHelloAck 100 50 :: sampleAccepted :: frames))) (fun n => n) {
      modelRevision := hex (List.replicate 32 (byte 9))
      serviceClass := lit "interactive"
      inputTokenCount := 1
      maxOutputTokens := 2
      seed := 1
      clientEvent }

def strayFrames : List ServerFrame := [sampleStray, sampleOutput, sampleTerminal 2]

theorem sampleRun_stray : (sampleRun .none strayFrames).toOption.isSome := by decide +kernel

theorem generation_accounted_sample : ∃ result, sampleRun .none strayFrames = .ok result ∧ Accounted result := by
  obtain ⟨result, h⟩ := ok_of_isSome _ sampleRun_stray
  exact ⟨result, h, generation_accounted _ _ _ _ _ result h⟩

/-- A Direct Response that no command asked for is passed over. -/
theorem generation_accounted_stray : ∃ result, sampleRun .none strayFrames = .ok result ∧
    ∃ event ∈ served result, event.isDirect = true ∧ result.cancellation ≠ some event := by
  have hfound : ∀ result ∈ (sampleRun .none strayFrames).toOption,
      (served result).any (fun event => event.isDirect && result.cancellation ≠ some event) = true := by
    decide +kernel
  obtain ⟨result, h⟩ := ok_of_isSome _ sampleRun_stray
  have hany := hfound result (by rw [h]; rfl)
  simp only [List.any_eq_true, Bool.and_eq_true, decide_eq_true_eq] at hany
  obtain ⟨event, hmem, hdirect, hne⟩ := hany
  exact ⟨result, h, event, hmem, hdirect, hne⟩

end TurnVector.DataPlane
