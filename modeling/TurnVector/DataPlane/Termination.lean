import TurnVector.DataPlane.Accounting

/-! # How a generation ends

A run stops at a terminal status when it waits for events. While it waits for the answer to its cancel command it does
not look at the terminal flag.
-/

namespace TurnVector.DataPlane

open Python

/-- The frames that arrive between the cancel command and the next Direct Response. -/
def cancelWindow (clientEvent : ClientEvent) (events : List Event) : List Event :=
  match clientEvent with
  | .cancelBeforeReceipt => events.takeWhile fun event => !event.isDirect
  | .cancelAfterReceipt =>
    ((events.dropWhile fun event => !event.isOutput).drop 1).takeWhile fun event => !event.isDirect
  | _ => []

/-- One terminal status was taken in, and it was the last event. -/
structure EndsAtTerminal (result : GenerationResult) : Prop where
  events : ∃ before last, accepted (served result) = before ++ [last] ∧ last.isTerminal = true ∧
    (∀ event ∈ before, event.isTerminal = false) ∧ result.outputs = (outputFrames before).map reported
  lifecycle : ∃ before, result.lifecycle = before ++ [.terminal] ∧ .terminal ∉ before

/-! ## The window of a course -/

theorem takeWhile_window (window : List Event) (answer : Event) (after : List Event)
    (hwindow : ∀ event ∈ window, event.isDirect = false) (hanswer : answer.isDirect = true) :
    (window ++ answer :: after).takeWhile (fun event => !event.isDirect) = window := by
  rw [List.takeWhile_append_of_pos fun event hevent => by simp [hwindow event hevent]]
  simp [hanswer]

theorem dropWhile_first (first : List Event) (output : Event) (rest : List Event)
    (hfirst : ∀ event ∈ first, event.isOutput = false) (houtput : output.isOutput = true) :
    (first ++ output :: rest).dropWhile (fun event => !event.isOutput) = output :: rest := by
  rw [List.dropWhile_append_of_pos fun event hevent => by simp [hfirst event hevent]]
  simp [houtput]

theorem Course.window_eq {requestId : Str} {commandId : Nat} {clientEvent : ClientEvent} {course : Course}
    (hm : course.Matches clientEvent) (hp : course.Proper requestId commandId) :
    cancelWindow clientEvent course.events = course.window := by
  obtain ⟨before, window, answer, after⟩ := course
  have hdirect : ∀ a ∈ answer, a.isDirect = true := by
    intro a ha
    obtain ⟨direct, hcontent, -⟩ := hp.answer a ha
    simp [Event.isDirect, hcontent]
  have hplain (h : answer = none) : window = [] := hp.window_nil h
  unfold cancelWindow
  split
  case h_1 =>
    obtain ⟨hbefore, hsome⟩ := hm
    have hbefore : before = [] := hbefore
    obtain ⟨a, ha⟩ := Option.isSome_iff_exists.mp hsome
    have ha : answer = some a := ha
    subst hbefore ha
    simpa [Course.events] using takeWhile_window window a after hp.window (hdirect a rfl)
  case h_2 =>
    rcases hm with ⟨hbefore, hnone, hafter⟩ | ⟨hsome, first, output, hbefore, houtput, hfirst⟩
    · have hbefore : before = [] := hbefore
      have hnone : answer = none := hnone
      subst hbefore hnone
      rw [hplain rfl]
      have hdrop : after.dropWhile (fun event => !event.isOutput) = [] := by
        rw [List.dropWhile_eq_nil_iff]
        intro event hevent
        simp [hafter event hevent]
      simp [Course.events, hdrop]
    · have hbefore : before = first ++ [output] := hbefore
      obtain ⟨a, ha⟩ := Option.isSome_iff_exists.mp hsome
      have ha : answer = some a := ha
      subst hbefore ha
      have hevents : (Course.mk (first ++ [output]) window (some a) after).events =
          first ++ output :: (window ++ a :: after) := by
        simp [Course.events]
      rw [hevents, dropWhile_first first output _ hfirst houtput, List.drop_one, List.tail_cons,
        takeWhile_window window a after hp.window (hdirect a rfl)]
  case h_3 => 
    have hnone : answer = none := by
      unfold Course.Matches at hm
      split at hm
      · simp_all
      · simp_all
      · exact hm.2
    exact (hplain hnone).symm

/-! ## The end of a run -/

/-- The events that a course takes in. -/
theorem Course.accepted_events {requestId : Str} {commandId : Nat} {course : Course}
    (hp : course.Proper requestId commandId) :
    accepted course.events = accepted course.before ++ course.window ++ accepted course.after := by
  have hwindow : accepted course.window = course.window := by
    unfold accepted
    rw [List.filter_eq_self]
    intro event hevent
    simp [hp.window event hevent]
  have hanswer : accepted course.answer.toList = [] := by
    cases ha : course.answer with
    | none => rfl
    | some answer =>
      obtain ⟨direct, hcontent, -⟩ := hp.answer answer ha
      simp [accepted, Event.isDirect, hcontent]
  rw [Course.events, accepted_append, accepted_append, accepted_append, hwindow, hanswer, List.append_nil]

/-- An event that ends a run is no Direct Response. -/
theorem isDirect_of_isTerminal (event : Event) (h : event.isTerminal = true) : event.isDirect = false := by
  unfold Event.isTerminal at h
  unfold Event.isDirect
  split
  · simp_all
  · rfl

theorem mem_accepted (events : List Event) (event : Event) :
    event ∈ accepted events ↔ event ∈ events ∧ event.isDirect = false := by
  simp [accepted]

/-- The list ends with its only terminal event. -/
def TerminalLast (events : List Event) : Prop :=
  ∃ before last, events = before ++ [last] ∧ last.isTerminal = true ∧ ∀ event ∈ before, event.isTerminal = false

/-- A terminal event among others that are none but for the last is the last. -/
theorem last_isTerminal (events : List Event) (hlast : ∀ event ∈ events.dropLast, event.isTerminal = false)
    (h : events.any Event.isTerminal = true) : ∃ before last, events = before ++ [last] ∧ last.isTerminal = true ∧
      ∀ event ∈ before, event.isTerminal = false := by
  rcases List.eq_nil_or_concat events with rfl | ⟨before, last, rfl⟩
  · cases h
  · rw [List.concat_eq_append] at hlast h
    rw [List.dropLast_concat] at hlast
    refine ⟨before, last, List.concat_eq_append .., ?_, hlast⟩
    obtain ⟨event, hevent, hterminal⟩ := List.any_eq_true.mp h
    rcases List.mem_append.mp hevent with hevent | hevent
    · rw [hlast event hevent] at hterminal
      cases hterminal
    · rwa [List.mem_singleton.mp hevent] at hterminal

theorem terminalLast_iff {requestId : Str} {commandId : Nat} {course : Course}
    (hp : course.Proper requestId commandId) (hterminal : course.events.any Event.isTerminal = true) :
    TerminalLast (accepted course.events) ↔ ∀ event ∈ course.window.dropLast, event.isTerminal = false := by
  rw [Course.accepted_events hp]
  have hbefore : ∀ event ∈ accepted course.before, event.isTerminal = false := fun event hevent =>
    hp.before event ((mem_accepted _ _).mp hevent).1
  constructor
  · rintro ⟨before, last, heq, -, hno⟩ event hevent
    have hwindow : course.window ≠ [] := by
      intro hnil
      rw [hnil] at hevent
      cases hevent
    have hrest : course.window.getLast hwindow :: accepted course.after ≠ [] := by simp
    rw [← List.dropLast_append_getLast hwindow, List.append_assoc, List.append_assoc, List.singleton_append,
      ← List.dropLast_append_getLast hrest, ← List.append_assoc, ← List.append_assoc] at heq
    have hbefore := (List.append_inj' heq rfl).1
    apply hno event
    rw [← hbefore]
    simp [hevent]
  · intro hno
    by_cases hw : course.window.any Event.isTerminal = true
    · obtain ⟨init, last, hwindow, hlast, hinit⟩ := last_isTerminal course.window hno hw
      refine ⟨accepted course.before ++ init, last, ?_, hlast, List.forall_mem_append.mpr ⟨hbefore, hinit⟩⟩
      rw [hp.after_nil hw, hwindow]
      simp [accepted]
    · have hwindow : ∀ event ∈ course.window, event.isTerminal = false := by simpa using hw
      have hafter : course.after.any Event.isTerminal = true := by
        obtain ⟨event, hevent, ht⟩ := List.any_eq_true.mp hterminal
        rw [Course.events, List.mem_append, List.mem_append, List.mem_append] at hevent
        rcases hevent with (hevent | hevent | hevent) | hevent
        · rw [hp.before event hevent] at ht
          cases ht
        · rw [hwindow event hevent] at ht
          cases ht
        · obtain ⟨direct, hcontent, -⟩ := hp.answer event (Option.mem_toList.mp hevent)
          have := isDirect_of_isTerminal event ht
          simp [Event.isDirect, hcontent] at this
        · exact List.any_eq_true.mpr ⟨event, hevent, ht⟩
      obtain ⟨init, last, heq, hlast, hinit⟩ := last_isTerminal course.after hp.after hafter
      refine ⟨accepted course.before ++ course.window ++ accepted init, last, ?_, hlast, ?_⟩
      · have hkept : accepted [last] = [last] := by simp [accepted, isDirect_of_isTerminal last hlast]
        rw [heq, accepted_append, hkept, List.append_assoc, List.append_assoc, List.append_assoc]
      · refine List.forall_mem_append.mpr ⟨List.forall_mem_append.mpr ⟨hbefore, hwindow⟩, ?_⟩
        exact fun event hevent => hinit event ((mem_accepted _ _).mp hevent).1

theorem status_of_isTerminal (event : Event) (h : event.isTerminal = true) :
    ∃ status, event.content = .statusUpdate status ∧ status.terminal = true := by
  unfold Event.isTerminal at h
  split at h
  case h_1 status hcontent => exact ⟨status, hcontent, h⟩
  case h_2 => cases h

theorem endsAtTerminal_of {result : GenerationResult} {progress : Progress} {course : Course}
    (h : WentThrough result progress course) (hlast : TerminalLast (accepted (served result))) :
    EndsAtTerminal result := by
  obtain ⟨before, last, heq, hterminal, hno⟩ := hlast
  obtain ⟨status, hcontent, hstatus⟩ := status_of_isTerminal last hterminal
  have hagree := h.recorded.agree
  rw [← statuses_accepted, ← h.served_eq, heq, statuses_append] at hagree
  have hs : statuses [last] = [status] := by simp [statuses, Event.status?, hcontent]
  have ho : outputFrames [last] = [] := by simp [outputFrames, Event.output?, hcontent]
  rw [hs] at hagree
  have hstates : result.lifecycle = (.accepted :: (statuses before).map (·.state)) ++ [.terminal] := by
    have hstate := hagree status (by simp)
    rw [hstatus] at hstate
    have hstate : status.state = .terminal := by simpa using hstate.symm
    rw [h.lifecycle, h.recorded.states, ← statuses_accepted, ← h.served_eq, heq, statuses_append, hs]
    simp [hstate]
  constructor
  · refine ⟨before, last, heq, hterminal, hno, ?_⟩
    rw [h.outputs, h.recorded.outputs, ← outputFrames_accepted, ← h.served_eq, heq, outputFrames_append, ho,
      List.append_nil]
  · refine ⟨_, hstates, ?_⟩
    rw [List.mem_cons, not_or]
    refine ⟨by simp, ?_⟩
    intro hmem
    obtain ⟨other, hother, hstate⟩ := List.mem_map.mp hmem
    have hflag := hagree other (by simp [hother])
    rw [hstate] at hflag
    obtain ⟨event, hevent, hfound⟩ := List.mem_filterMap.mp hother
    have hquiet := hno event hevent
    unfold Event.status? at hfound
    split at hfound
    case h_1 found hcontent' =>
      cases hfound
      simp [Event.isTerminal, hcontent', hflag] at hquiet
    case h_2 => cases hfound

/-- A run that waits for its end stops at the terminal status exactly when nothing follows a terminal status among the
frames that precede the answer to its cancel command. -/
theorem generation_ends_at_terminal (types : ProtocolTypes) (descriptor : DataPlaneDescriptor)
    (connection : Except Str Socket) (clock : Nat → Nat) (arguments : GenerationArguments) (result : GenerationResult)
    (hevent : arguments.clientEvent ∈ [.none, .cancelBeforeReceipt, .cancelAfterReceipt])
    (h : runGeneration types descriptor connection clock arguments = .ok result) :
    EndsAtTerminal result ↔
      ∀ event ∈ (cancelWindow arguments.clientEvent (served result)).dropLast, event.isTerminal = false := by
  obtain ⟨hclient, progress, course, hrun⟩ := runGeneration_ok types descriptor connection clock arguments result h
  have hwaits : result.connectionDisconnected = false := by
    by_contra hdisconnected
    have := hrun.disconnected (by simpa using hdisconnected)
    rw [hclient] at this
    simp only [List.mem_cons, List.not_mem_nil, or_false] at hevent this
    rcases hevent with he | he | he <;> rw [he] at this <;> simp at this
  have hterminal : course.events.any Event.isTerminal = true := by
    rw [← hrun.recorded.terminal, hrun.terminal, hwaits]
    rfl
  have hlast := terminalLast_iff hrun.proper hterminal
  rw [← hclient, hrun.served_eq, Course.window_eq hrun.matched hrun.proper, ← hlast, ← hrun.served_eq]
  constructor
  · intro hends
    obtain ⟨before, last, heq, ht, hno, -⟩ := hends.events
    exact ⟨before, last, heq, ht, hno⟩
  · exact endsAtTerminal_of hrun

/-! ## A run that goes on -/

def lateFrames : List ServerFrame := [sampleTerminal 2, sampleOutput, sampleCancelled]

theorem sampleRun_late : (sampleRun .cancelBeforeReceipt lateFrames).toOption.isSome := by decide +kernel

theorem generation_ends_at_terminal_sample : ∃ result, sampleRun .cancelBeforeReceipt lateFrames = .ok result ∧
    (EndsAtTerminal result ↔
      ∀ event ∈ (cancelWindow .cancelBeforeReceipt (served result)).dropLast, event.isTerminal = false) := by
  obtain ⟨result, h⟩ := ok_of_isSome _ sampleRun_late
  exact ⟨result, h, generation_ends_at_terminal _ _ _ _ _ result (by simp) h⟩

/-- An output is reported after the terminal status. -/
theorem generation_goes_on : ∃ result, sampleRun .cancelBeforeReceipt lateFrames = .ok result ∧
    ¬ EndsAtTerminal result := by
  have hlast : ∀ result ∈ (sampleRun .cancelBeforeReceipt lateFrames).toOption,
      (accepted (served result)).getLast?.any Event.isTerminal = false := by
    decide +kernel
  obtain ⟨result, h⟩ := ok_of_isSome _ sampleRun_late
  refine ⟨result, h, ?_⟩
  intro hends
  obtain ⟨before, last, heq, ht, -⟩ := hends.events
  have := hlast result (by rw [h]; rfl)
  rw [heq, List.getLast?_concat, Option.any_some, ht] at this
  cases this

end TurnVector.DataPlane
