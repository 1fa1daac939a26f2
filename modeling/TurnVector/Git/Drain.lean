import Mathlib.Tactic.Linarith
import TurnVector.Git.Child

/-! # The drain is exact

What holds after each step of a drain, and what the drain comes to.
-/

namespace TurnVector.Git

open Python Effects Action

variable (world : World) (streams : Pipe → Option Bytes) (cap : Pipe → Nat)

/-! ## What happened -/

/-- A check that fails, or a call. -/
def Event.Failed : Event → Prop
  | .remaining left => left ≤ 0
  | .selected .failed => True
  | .read _ _ none => True
  | .waited outcome => outcome ≠ .exited
  | _ => False

/-- The end of a pipe was read. -/
def Ended (log : List Event) (pipe : Pipe) : Prop := ∃ size, .read pipe size (some []) ∈ log

/-- The last events: the child was killed if it was running, and was waited for. -/
def Reaped (log : List Event) : Prop :=
  ∃ before, log = .reaped true :: .polled false :: before ∨
    ∃ outcome, outcome ≠ .failed ∧ log = .reaped true :: .killed outcome :: .polled true :: before

/-! ## What holds of a state -/

/-- What holds of every state. -/
structure Kept (s : State) : Prop where
  content : ∀ pipe, s.buffer pipe ++ s.rest pipe = contents streams pipe
  bounded : ∀ pipe, (s.buffer pipe).length ≤ cap pipe + 1
  sized : ∀ pipe size chunk, .read pipe size chunk ∈ s.log → 0 < size

/-- Why a drain may have given up. -/
def Caused (s : State) : Prop :=
  Kept streams cap s ∧ ((∃ event ∈ s.log, event.Failed) ∨ ∃ pipe, cap pipe < (contents streams pipe).length)

/-- What holds while a drain goes on. -/
structure Going (s : State) : Prop where
  kept : Kept streams cap s
  within : ∀ pipe, (s.buffer pipe).length ≤ cap pipe
  fine : ∀ event ∈ s.log, ¬ event.Failed
  nodup : s.active.Nodup
  active : ∀ pipe, pipe ∈ s.active ↔ (streams pipe).isSome ∧ ¬ Ended s.log pipe
  ended : ∀ pipe, pipe ∉ s.active → s.rest pipe = []

/-- What holds where a drain raised. -/
def Stopped (raised : Raised) (s : State) : Prop :=
  Caused streams cap s ∧ match raised with
    | .contractError text => text = terminationFailed ∨ Reaped s.log
    | .osError _ => True
    | .stopIteration => False

variable {streams cap} {s : State}

/-! ## Events -/

/-- An event that is no read. -/
def Event.Other (event : Event) : Prop := ∀ pipe size chunk, event ≠ .read pipe size chunk

theorem Kept.note {event : Event} (h : Kept streams cap s)
    (hsized : ∀ pipe size chunk, event = .read pipe size chunk → 0 < size) : Kept streams cap (s.note event) where
  content := h.content
  bounded := h.bounded
  sized := by
    intro pipe size chunk hmem
    rcases List.mem_cons.mp hmem with heq | hmem
    · exact hsized pipe size chunk heq.symm
    · exact h.sized pipe size chunk hmem

theorem Caused.note {event : Event} (h : Caused streams cap s) (hother : event.Other) :
    Caused streams cap (s.note event) := by
  obtain ⟨hkept, hcause⟩ := h
  refine ⟨hkept.note fun pipe size chunk heq => absurd heq (hother pipe size chunk), ?_⟩
  rcases hcause with ⟨failed, hmem, hfailed⟩ | hlong
  · exact .inl ⟨failed, List.mem_cons_of_mem _ hmem, hfailed⟩
  · exact .inr hlong

theorem Going.note {event : Event} (h : Going streams cap s) (hother : event.Other) (hfine : ¬ event.Failed) :
    Going streams cap (s.note event) where
  kept := h.kept.note fun pipe size chunk heq => absurd heq (hother pipe size chunk)
  within := h.within
  fine := List.forall_mem_cons.mpr ⟨hfine, h.fine⟩
  nodup := h.nodup
  active := by
    intro pipe
    have hended : Ended (s.note event).log pipe ↔ Ended s.log pipe := by
      constructor
      · rintro ⟨size, hmem⟩
        rcases List.mem_cons.mp hmem with heq | hmem
        · exact absurd heq.symm (hother pipe size (some []))
        · exact ⟨size, hmem⟩
      · rintro ⟨size, hmem⟩
        exact ⟨size, List.mem_cons_of_mem _ hmem⟩
    rw [hended]
    exact h.active pipe
  ended := h.ended

/-- A check that fails. -/
theorem Going.caused {event : Event} (h : Going streams cap s) (hother : event.Other) (hfailed : event.Failed) :
    Caused streams cap (s.note event) :=
  ⟨h.kept.note fun pipe size chunk heq => absurd heq (hother pipe size chunk),
    .inl ⟨event, List.mem_cons_self .., hfailed⟩⟩

/-! ## Reading -/

theorem ended_read {log : List Event} {pipe pipe' : Pipe} {size : Nat} {chunk : Option Bytes} :
    Ended (.read pipe size chunk :: log) pipe' ↔ (pipe' = pipe ∧ chunk = some []) ∨ Ended log pipe' := by
  unfold Ended
  constructor
  · rintro ⟨size', hmem⟩
    rcases List.mem_cons.mp hmem with heq | hmem
    · injection heq with hpipe _ hchunk
      exact .inl ⟨hpipe, hchunk.symm⟩
    · exact .inr ⟨size', hmem⟩
  · rintro (⟨rfl, rfl⟩ | ⟨size', hmem⟩)
    · exact ⟨size, List.mem_cons_self ..⟩
    · exact ⟨size', List.mem_cons_of_mem _ hmem⟩

theorem Kept.read {pipe : Pipe} {size : Nat} (h : Kept streams cap s) (hsize : 0 < size) (chunk : Option Bytes) :
    Kept streams cap (s.note (.read pipe size chunk)) := by
  refine h.note fun pipe' size' chunk' heq => ?_
  injection heq with _ hsame
  omega

/-- The end of a pipe. -/
theorem Going.finish {pipe : Pipe} {size : Nat} (h : Going streams cap s) (hsize : 0 < size)
    (hempty : s.rest pipe = []) : Going streams cap ((s.note (.read pipe size (some []))).finish pipe) where
  kept := ⟨h.kept.content, h.kept.bounded, (h.kept.read hsize (some [])).sized⟩
  within := h.within
  fine := List.forall_mem_cons.mpr ⟨nofun, h.fine⟩
  nodup := h.nodup.erase pipe
  active := by
    intro pipe'
    change pipe' ∈ s.active.erase pipe ↔ _ ∧ ¬ Ended (_ :: s.log) pipe'
    rw [h.nodup.mem_erase_iff, h.active, ended_read]
    tauto
  ended := by
    intro pipe' hpipe'
    change pipe' ∉ s.active.erase pipe at hpipe'
    rw [h.nodup.mem_erase_iff] at hpipe'
    by_cases hsame : pipe' = pipe
    · exact hsame ▸ hempty
    · exact h.ended pipe' fun hmem => hpipe' ⟨hsame, hmem⟩

section Receive

variable {pipe : Pipe} {size : Nat} {chunk : Bytes}

theorem Going.keeps (h : Going streams cap s) (hsize : 0 < size) (hchunk : chunk <+: s.rest pipe)
    (hlength : (s.buffer pipe).length + chunk.length ≤ cap pipe + 1) :
    Kept streams cap ((s.note (.read pipe size (some chunk))).receive pipe chunk) where
  content := by
    intro pipe'
    by_cases hsame : pipe' = pipe
    · subst hsame
      have hrest := List.prefix_iff_eq_append.mp hchunk
      simp only [State.receive, State.note, Function.update_self, List.append_assoc, hrest]
      exact h.kept.content pipe'
    · simp only [State.receive, State.note, Function.update_of_ne hsame]
      exact h.kept.content pipe'
  bounded := by
    intro pipe'
    by_cases hsame : pipe' = pipe
    · subst hsame
      simpa [State.receive, State.note] using hlength
    · simp only [State.receive, State.note, Function.update_of_ne hsame]
      exact h.kept.bounded pipe'
  sized := (h.kept.read hsize (some chunk)).sized

/-- A chunk that the cap has room for. -/
theorem Going.receive (h : Going streams cap s) (hsize : 0 < size) (hactive : pipe ∈ s.active)
    (hchunk : chunk <+: s.rest pipe) (hsome : chunk ≠ []) (hlength : (s.buffer pipe).length + chunk.length ≤ cap pipe) :
    Going streams cap ((s.note (.read pipe size (some chunk))).receive pipe chunk) where
  kept := h.keeps hsize hchunk (by omega)
  within := by
    intro pipe'
    by_cases hsame : pipe' = pipe
    · subst hsame
      simpa [State.receive, State.note] using hlength
    · simp only [State.receive, State.note, Function.update_of_ne hsame]
      exact h.within pipe'
  fine := List.forall_mem_cons.mpr ⟨nofun, h.fine⟩
  nodup := h.nodup
  active := by
    intro pipe'
    change pipe' ∈ s.active ↔ _ ∧ ¬ Ended (_ :: s.log) pipe'
    rw [h.active, ended_read]
    simp [hsome]
  ended := by
    intro pipe' hpipe'
    have hother : pipe' ≠ pipe := fun hsame => hpipe' (hsame ▸ hactive)
    simp only [State.receive, State.note, Function.update_of_ne hother]
    exact h.ended pipe' hpipe'

/-- A chunk that the cap has no room for tells that the stream is too long. -/
theorem Going.overflow (h : Going streams cap s) (hsize : 0 < size) (hchunk : chunk <+: s.rest pipe)
    (hlength : (s.buffer pipe).length + chunk.length = cap pipe + 1) :
    Caused streams cap ((s.note (.read pipe size (some chunk))).receive pipe chunk) := by
  refine ⟨h.keeps hsize hchunk hlength.le, .inr ⟨pipe, ?_⟩⟩
  have hcontent := congrArg List.length (h.kept.content pipe)
  have hrest := hchunk.length_le
  rw [List.length_append] at hcontent
  omega

end Receive

/-! ## Giving up -/

section Rules

variable {α : Type} {P : State → Prop} {E : Raised → State → Prop}

theorem call_meets {β : Type} {answer : List Event → β} {event : β → Event} {Q : β → State → Prop}
    (h : ∀ s, P s → Q (answer s.log) (s.note (event (answer s.log)))) : Meets P (call answer event) Q E :=
  fun s hs => h s hs

theorem terminationFailed_stopped {Q : α → State → Prop} (h : ∀ s, P s → Caused streams cap s) :
    Meets P (throw (.contractError terminationFailed) : Drain α) Q (Stopped streams cap) :=
  Meets.throw fun s hs => ⟨h s hs, .inl rfl⟩

/-- After `_kill_and_reap` the child is gone, or its termination failed. -/
theorem killAndReap_meets : Meets (Caused streams cap) (killAndReap world)
    (fun _ s => Caused streams cap s ∧ Reaped s.log) (Stopped streams cap) := by
  let polled := fun (running : Bool) (s : State) => Caused streams cap s ∧ ∃ before, s.log = .polled running :: before
  let killed := fun s : State => Caused streams cap s ∧ ∃ before, s.log = .polled false :: before ∨
    ∃ outcome, outcome ≠ .failed ∧ s.log = .killed outcome :: .polled true :: before
  have hpoll : Meets (Caused streams cap) (call world.running .polled) polled (Stopped streams cap) :=
    call_meets fun s hs => ⟨hs.note nofun, s.log, rfl⟩
  have hkill : Meets (polled true) (kill world) (fun _ => killed) (Stopped streams cap) := by
    refine Meets.bind (Q := fun outcome s => Caused streams cap s ∧
      ∃ before, s.log = .killed outcome :: .polled true :: before) (call_meets ?_) fun outcome => ?_
    · rintro s ⟨hs, before, hlog⟩
      exact ⟨hs.note nofun, before, by rw [State.note, hlog]⟩
    · refine Meets.onlyIf (fun _ => terminationFailed_stopped fun s hs => hs.1) fun hdone s hs => ?_
      obtain ⟨hs, before, hlog⟩ := hs
      exact ⟨hs, before, .inr ⟨outcome, hdone, hlog⟩⟩
  refine Meets.bind hpoll fun running => Meets.bind (Q := fun _ => killed) ?_ fun _ => ?_
  · refine Meets.onlyIf (fun hrunning => hrunning ▸ hkill) fun hexited s hs => ?_
    obtain ⟨hs, before, hlog⟩ := hs
    rw [Bool.not_eq_true] at hexited
    exact ⟨hs, before, .inl (hexited ▸ hlog)⟩
  · refine Meets.bind (Q := fun done s => Caused streams cap s ∧ (done = true → Reaped s.log)) (call_meets ?_)
      fun done => ?_
    · rintro s ⟨hs, before, hlog⟩
      refine ⟨hs.note nofun, fun hdone => ⟨before, ?_⟩⟩
      rw [State.note, hdone]
      rcases hlog with hlog | ⟨outcome, hsent, hlog⟩
      · exact .inl (by rw [hlog])
      · exact .inr ⟨outcome, hsent, by rw [hlog]⟩
    · refine Meets.onlyIf (fun _ => terminationFailed_stopped fun _ hs => hs.1) fun hdone s hs => ?_
      exact ⟨hs.1, hs.2 (by simpa using hdone)⟩

theorem giveUp_meets {Q : α → State → Prop} (text : Str) :
    Meets (Caused streams cap) (giveUp world text : Drain α) Q (Stopped streams cap) :=
  Meets.bind (killAndReap_meets world) fun _ => Meets.throw fun _ hs => ⟨hs.1, .inr hs.2⟩

theorem checkDeadline_meets (deadline : ℚ) (R : List Pipe → Prop) :
    Meets (fun s => Going streams cap s ∧ R s.active) (checkDeadline world deadline)
      (fun _ s => Going streams cap s ∧ R s.active) (Stopped streams cap) := by
  refine Meets.bind (Q := fun left s => (left ≤ 0 → Caused streams cap s) ∧
    (¬ left ≤ 0 → Going streams cap s ∧ R s.active)) (call_meets ?_) fun left => ?_
  · rintro s ⟨hs, hactive⟩
    exact ⟨fun hlate => hs.caused nofun hlate, fun htime => ⟨hs.note nofun htime, hactive⟩⟩
  · refine Meets.onlyIf (fun hlate => ?_) fun htime s hs => hs.2 htime
    exact (giveUp_meets world _).weaken (fun _ hs => hs.1 hlate) (fun _ _ h => h) fun _ _ h => h

theorem readPipe_meets (pipe : Pipe) (others : List Pipe) (hothers : pipe ∉ others) :
    Meets (fun s => Going streams cap s ∧ pipe :: others ⊆ s.active) (readPipe world cap pipe)
      (fun _ s => Going streams cap s ∧ others ⊆ s.active) (Stopped streams cap) := by
  refine Meets.get fun s hs => ?_
  obtain ⟨hs, hactive⟩ := hs
  obtain ⟨hpipe, hactive⟩ := List.cons_subset.mp hactive
  have hwithin := hs.within pipe
  let size := min 65536 (cap pipe + 1 - (s.buffer pipe).length)
  have hsize : 0 < size := by omega
  refine Meets.bind (Q := fun _ t => t = s) (Meets.onlyIf (absurd hpipe) fun _ t ht => ht) fun _ => ?_
  refine Meets.bind (Q := fun chunk t => t = s.note (.read pipe size chunk) ∧
    ∀ taken, chunk = some taken → taken <+: s.rest pipe ∧ taken.length ≤ size ∧ (taken = [] → s.rest pipe = []))
    (call_meets ?_) fun chunk => ?_
  · rintro t rfl
    refine ⟨rfl, fun taken htaken => ?_⟩
    obtain ⟨more, -, rfl⟩ := Option.map_eq_some_iff.mp htaken
    refine ⟨List.take_prefix _ _, (List.length_take_le _ _).trans (min_le_right _ _), fun hnone => ?_⟩
    rcases List.take_eq_nil_iff.mp hnone with hzero | hempty
    · omega
    · exact hempty
  · match chunk with
    | none =>
      refine (giveUp_meets world _).weaken (fun t ht => ?_) (fun _ _ h => h) fun _ _ h => h
      obtain ⟨rfl, -⟩ := ht
      exact ⟨hs.kept.read hsize none, .inl ⟨_, List.mem_cons_self .., trivial⟩⟩
    | some [] =>
      refine Meets.modify fun t ht => ?_
      obtain ⟨rfl, htaken⟩ := ht
      refine ⟨hs.finish hsize ((htaken [] rfl).2.2 rfl), fun other hother => ?_⟩
      have hne : other ≠ pipe := fun heq => hothers (heq ▸ hother)
      exact (List.mem_erase_of_ne hne).mpr (hactive hother)
    | some (first :: more) =>
      let received := (s.note (.read pipe size (some (first :: more)))).receive pipe (first :: more)
      refine Meets.bind (Q := fun _ t => t = received ∧ first :: more <+: s.rest pipe ∧ (first :: more).length ≤ size)
        (Meets.modify ?_) fun _ => ?_
      · rintro t ⟨rfl, htaken⟩
        exact ⟨rfl, (htaken _ rfl).1, (htaken _ rfl).2.1⟩
      · refine Meets.get fun t ht => ?_
        obtain ⟨rfl, hprefix, hlength⟩ := ht
        have hbuffer : (received.buffer pipe).length = (s.buffer pipe).length + (first :: more).length := by
          simp [received, State.receive, State.note]
        refine Meets.onlyIf (fun hover => ?_) fun hroom t ht => ?_
        · refine (giveUp_meets world _).weaken (fun t ht => ?_) (fun _ _ h => h) fun _ _ h => h
          subst ht
          exact hs.overflow hsize hprefix (by omega)
        · subst ht
          exact ⟨hs.receive hsize hpipe hprefix (by simp) (by omega), hactive⟩

theorem readEach_meets (pipes : List Pipe) (hnodup : pipes.Nodup) :
    Meets (fun s => Going streams cap s ∧ pipes ⊆ s.active) (pipes.forM (readPipe world cap))
      (fun _ => Going streams cap) (Stopped streams cap) := by
  induction pipes with
  | nil => exact Meets.pure fun s hs => hs.1
  | cons pipe pipes ih =>
    obtain ⟨hpipe, hnodup⟩ := List.nodup_cons.mp hnodup
    rw [List.forM]
    exact Meets.bind (readPipe_meets world pipe pipes hpipe) fun _ => ih hnodup

theorem turn_meets (deadline : ℚ) :
    Meets (Going streams cap) (turn world cap deadline) (fun _ => Going streams cap) (Stopped streams cap) := by
  refine Meets.bind ((checkDeadline_meets world deadline fun _ => True).weaken (fun _ hs => ⟨hs, trivial⟩)
    (fun _ _ h => h.1) fun _ _ h => h) fun _ => ?_
  refine Meets.bind (Q := fun selected s => match selected with
    | .failed => Caused streams cap s
    | _ => Going streams cap s) (call_meets fun s hs => ?_) fun selected => ?_
  · split
    · rename_i hfailed
      exact hs.caused nofun (by rw [hfailed]; trivial)
    · rename_i hanswer
      refine hs.note nofun fun hfailed => ?_
      cases hselected : world.select s.log with
      | failed => exact hanswer hselected
      | _ =>
        rw [hselected] at hfailed
        exact hfailed
  · match selected with
    | .interrupted => exact Meets.pure fun s hs => hs
    | .failed => exact giveUp_meets world _
    | .ready pipes =>
      refine Meets.get fun s hs => ?_
      refine (readEach_meets world _ (hs.nodup.filter _)).weaken (fun t ht => ?_) (fun _ _ h => h) fun _ _ h => h
      subst ht
      exact ⟨hs, List.filter_subset_self _⟩

theorem loop_meets (deadline : ℚ) (turns : Nat) :
    Meets (Going streams cap) (loop world cap deadline turns)
      (fun ended s => Going streams cap s ∧ (ended = true ↔ s.active = [])) (Stopped streams cap) := by
  induction turns with
  | zero =>
    refine Meets.get fun s hs => Meets.pure fun t ht => ?_
    subst ht
    exact ⟨hs, List.isEmpty_iff⟩
  | succ turns ih =>
    refine Meets.get fun s hs => ?_
    split
    · rename_i hempty
      refine Meets.pure fun t ht => ?_
      subst ht
      exact ⟨hs, by simpa using hempty⟩
    · refine Meets.bind ((turn_meets world deadline).weaken (fun t ht => ?_) (fun _ _ h => h) fun _ _ h => h)
        fun _ => ih
      subst ht
      exact hs

end Rules

/-! ## The drain -/

section Drain

theorem going_start : Going streams cap (State.start streams) where
  kept := ⟨fun _ => rfl, fun _ => Nat.zero_le _, nofun⟩
  within := fun _ => Nat.zero_le _
  fine := nofun
  nodup := List.Nodup.filter _ (by decide)
  active := by
    intro pipe
    have hpipe : pipe ∈ [Pipe.stdout, Pipe.stderr] := by cases pipe <;> simp
    simp [State.start, List.mem_filter, hpipe, Ended]
  ended := by
    intro pipe hpipe
    have hnone : streams pipe = none := by cases pipe <;> simpa [State.start] using hpipe
    simp [State.start, contents, hnone]

theorem Going.drained (h : Going streams cap s) (hactive : s.active = []) (pipe : Pipe) :
    s.buffer pipe = contents streams pipe := by
  have hrest := h.ended pipe (by simp [hactive])
  have hcontent := h.kept.content pipe
  rwa [hrest, List.append_nil] at hcontent

/-- What a drain that did not raise comes to. -/
def Drained (streams : Pipe → Option Bytes) (cap : Pipe → Nat) (result : Option (Bytes × Bytes)) (s : State) : Prop :=
  Going streams cap s ∧ match result with
    | some taken => s.active = [] ∧ taken = (contents streams .stdout, contents streams .stderr)
    | none => s.active ≠ []

theorem finish_meets (deadline : ℚ) :
    Meets (fun s => Going streams cap s ∧ s.active = []) (finish world deadline) (Drained streams cap)
      (Stopped streams cap) := by
  refine Meets.bind (checkDeadline_meets world deadline (· = [])) fun _ => ?_
  refine Meets.bind (Q := fun waited s => match waited with
    | .exited => Going streams cap s ∧ s.active = []
    | _ => Caused streams cap s) (call_meets fun s hs => ?_) fun waited => ?_
  · split
    · rename_i hexited
      exact ⟨hs.1.note nofun fun hfailed => hfailed hexited, hs.2⟩
    · rename_i hfailed
      exact hs.1.caused nofun hfailed
  · match waited with
    | .exited =>
      refine Meets.get fun s hs => Meets.pure fun t ht => ?_
      subst ht
      obtain ⟨hs, hactive⟩ := hs
      exact ⟨hs, hactive, by rw [hs.drained hactive, hs.drained hactive]⟩
    | .expired => exact giveUp_meets world _
    | .failed text => exact Meets.throw fun s hs => ⟨hs, trivial⟩

theorem drainBounded_meets (timeout : ℚ) (turns : Nat) :
    Meets (fun s => s = State.start streams) (drainBounded world cap timeout turns) (Drained streams cap)
      (Stopped streams cap) := by
  refine Meets.bind (Q := fun _ => Going streams cap) (call_meets ?_) fun now => ?_
  · rintro s rfl
    exact going_start.note nofun nofun
  refine Meets.bind (loop_meets world _ turns) fun ended => ?_
  match ended with
  | false => exact Meets.pure fun s hs => ⟨hs.1, by simpa using hs.2⟩
  | true => exact (finish_meets world _).weaken (fun s hs => ⟨hs.1, hs.2.mp rfl⟩) (fun _ _ h => h) fun _ _ h => h

/-! ## More turns -/

theorem run_loop_zero (deadline : ℚ) (s : State) :
    run (loop world cap deadline 0) s = (.ok s.active.isEmpty, s) := rfl

theorem run_loop_succ (deadline : ℚ) (turns : Nat) (s : State) :
    run (loop world cap deadline (turns + 1)) s =
      if s.active.isEmpty then (.ok true, s)
      else run (do turn world cap deadline; loop world cap deadline turns) s := by
  change run (if s.active.isEmpty then _ else _) s = _
  split <;> rfl

/-- A loop that ended has no more turns. -/
theorem run_loop_more (deadline : ℚ) (turns more : Nat) (s : State)
    (h : (run (loop world cap deadline turns) s).1 ≠ .ok false) :
    run (loop world cap deadline (turns + more)) s = run (loop world cap deadline turns) s := by
  induction turns generalizing s with
  | zero =>
    rw [run_loop_zero] at h ⊢
    have hempty : s.active.isEmpty = true := by simpa using h
    cases more with
    | zero => rfl
    | succ more => rw [Nat.zero_add, run_loop_succ, if_pos hempty, hempty]
  | succ turns ih =>
    rw [Nat.add_right_comm, run_loop_succ, run_loop_succ] at *
    split
    · rfl
    · rename_i hactive
      rw [if_neg hactive, run_bind] at h
      rw [run_bind, run_bind]
      rcases hturn : run (turn world cap deadline) s with ⟨e | u, t⟩
      · rfl
      · rw [hturn] at h
        exact ih t h

/-- A drain that came to an end comes to the same after more turns. -/
theorem run_drain_more (timeout : ℚ) (turns more : Nat) (s : State)
    (h : (run (drainBounded world cap timeout turns) s).1 ≠ .ok none) :
    run (drainBounded world cap timeout (turns + more)) s = run (drainBounded world cap timeout turns) s := by
  let deadline := world.clock s.log + timeout
  let started := s.note (.started (world.clock s.log))
  let rest := fun ended : Bool => if ended then finish world deadline else pure none
  have hrun : ∀ n, run (drainBounded world cap timeout n) s = run (loop world cap deadline n >>= rest) started :=
    fun n => rfl
  rw [hrun, run_bind] at h
  rw [hrun, hrun, run_bind, run_bind, run_loop_more]
  intro hfalse
  rcases hloop : run (loop world cap deadline turns) started with ⟨out, t⟩
  rw [hloop] at h hfalse
  cases hfalse
  exact h rfl

end Drain

/-- A drain returns exactly if no check of the deadline and no call failed, both pipes ended and neither of the streams
is longer than its cap; it returns the two streams then. No read asks for nothing, of each stream no more than one byte
above the cap is kept, and where a check failed the child is gone, or its termination failed. -/
theorem drain_exact (world : World) (streams : Pipe → Option Bytes) (cap : Pipe → Nat) (timeout : ℚ) (turns : Nat) :
    let outcome := run (drainBounded world cap timeout turns) (State.start streams)
    (∀ taken, outcome.1 = .ok (some taken) ↔
      (∀ event ∈ outcome.2.log, ¬ event.Failed) ∧ (∀ pipe, (streams pipe).isSome → Ended outcome.2.log pipe) ∧
        (∀ pipe, (contents streams pipe).length ≤ cap pipe) ∧
        taken = (contents streams .stdout, contents streams .stderr)) ∧
      (∀ pipe size chunk, .read pipe size chunk ∈ outcome.2.log → 0 < size) ∧
      (∀ pipe, outcome.2.buffer pipe <+: contents streams pipe ∧ (outcome.2.buffer pipe).length ≤ cap pipe + 1) ∧
      (∀ text, outcome.1 = .error (.contractError text) → text = terminationFailed ∨ Reaped outcome.2.log) ∧
      ∀ more, outcome.1 ≠ .ok none →
        run (drainBounded world cap timeout (turns + more)) (State.start streams) = outcome := by
  intro outcome
  have hrun : Meets (fun s => s = State.start streams) (drainBounded world cap timeout turns) (Drained streams cap)
      (Stopped streams cap) := drainBounded_meets world timeout turns
  have hmeets := hrun (State.start streams) rfl
  have hmore : ∀ more, (run (drainBounded world cap timeout turns) (State.start streams)).1 ≠ .ok none →
      run (drainBounded world cap timeout (turns + more)) (State.start streams) =
        run (drainBounded world cap timeout turns) (State.start streams) :=
    fun more => run_drain_more world timeout turns more (State.start streams)
  rcases houtcome : run (drainBounded world cap timeout turns) (State.start streams) with ⟨out, t⟩
  rw [houtcome] at hmeets hmore
  rw [show outcome = (out, t) from houtcome]
  have hkept : Kept streams cap t := by
    cases out with
    | error e => exact hmeets.1.1
    | ok result => exact hmeets.1.kept
  refine ⟨fun taken => ⟨?_, ?_⟩, hkept.sized, fun pipe => ⟨⟨_, hkept.content pipe⟩, hkept.bounded pipe⟩, ?_, ?_⟩
  · rintro rfl
    obtain ⟨hgoing, hactive, rfl⟩ := hmeets
    refine ⟨hgoing.fine, fun pipe hsome => ?_, fun pipe => ?_, rfl⟩
    · have hnot : ¬ pipe ∈ t.active := by simp [hactive]
      rw [hgoing.active] at hnot
      exact not_not.mp fun hended => hnot ⟨hsome, hended⟩
    · rw [← hgoing.drained hactive]
      exact hgoing.within pipe
  · rintro ⟨hfine, hended, hlength, rfl⟩
    cases out with
    | error e =>
      rcases hmeets.1.2 with ⟨event, hmem, hfailed⟩ | ⟨pipe, hlong⟩
      · exact absurd hfailed (hfine event hmem)
      · exact absurd (hlength pipe) (Nat.not_le.mpr hlong)
    | ok result =>
      match result with
      | some taken => rw [hmeets.2.2]
      | none =>
        obtain ⟨pipe, hpipe⟩ := List.exists_mem_of_ne_nil _ hmeets.2
        have hactive := (hmeets.1.active pipe).mp hpipe
        exact absurd (hended pipe hactive.1) hactive.2
  · rintro text rfl
    exact hmeets.2
  · exact hmore

end TurnVector.Git
