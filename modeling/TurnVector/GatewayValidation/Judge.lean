import TurnVector.GatewayValidation.Lifecycle

/-! # What a passed row says

A row that passes is sound, once its events at one time stand in the order that the judge reads from times.
-/

namespace TurnVector.GatewayValidation

open Python Json Canonical

/-! ## Soundness of a row -/

/-- An event of request a. -/
def Event.Is (event : Event) (kind : EventKind) : Prop := event.kind = kind ∧ event.role = .a

instance (event : Event) (kind : EventKind) : Decidable (event.Is kind) := inferInstanceAs (Decidable (_ ∧ _))

/-- The sequence number of the first event of the kind. -/
def position (events : List Event) (kind : EventKind) : Nat := events.findIdx fun event => event.Is kind

def Once (events : List Event) (kind : EventKind) : Prop := (events.filter fun event => event.Is kind).length = 1

/-- The first events of the kinds follow each other in the trace. -/
def InSequence (events : List Event) (kinds : List EventKind) : Prop := (kinds.map (position events)).Pairwise (· < ·)

def Within (events : List Event) (start stop : EventKind) (bound : Nat) : Prop :=
  ∀ first ∈ events, first.Is start → ∀ last ∈ events, last.Is stop → last.atNs ≤ first.atNs + bound

/-- The events that an outcome is about. -/
def outcomeOrder : ExpectedOutcome → List EventKind
  | .complete => completeOrder
  | .boundedClose => boundedCloseOrder
  | .boundedCancel => boundedCancelOrder
  | .disconnectCancel => disconnectCancelOrder

def Deadlines (limits : Limits) (events : List Event) : ExpectedOutcome → Prop
  | .complete => True
  | .boundedClose =>
    Within events .backpressureEntered .responseClosed limits.httpWriteTotalNs ∧
      Within events .backpressureEntered .deadlineExpired limits.httpWriteNoProgressNs
  | .boundedCancel =>
    Within events .backpressureEntered .responseClosed (limits.httpWriteTotalNs + limits.cancellationCompletionNs) ∧
      Within events .backpressureEntered .deadlineExpired limits.httpWriteNoProgressNs
  | .disconnectCancel =>
    Within events .clientDisconnected .requestStateReleaseAccepted limits.cancellationCompletionNs

/-- An event of request b after the release and before the close, by sequence and by time. -/
def PeerProgress (events : List Event) : Prop :=
  ∃ sequence peer, events[sequence]? = some peer ∧ peer.role = .b ∧
    position events .requestStateReleaseAccepted < sequence ∧ sequence < position events .responseClosed ∧
    (∀ release ∈ events, release.Is .requestStateReleaseAccepted → release.atNs < peer.atNs) ∧
    ∀ close ∈ events, close.Is .responseClosed → peer.atNs < close.atNs

structure Sound (planned : LifecycleCase) (limits : Limits) (trace : Trace) : Prop where
  base_once : ∀ kind ∈ requiredOnce, Once trace.events kind
  base_order : InSequence trace.events requiredOnce
  outcome_once : ∀ kind ∈ outcomeOrder planned.expectedOutcome, Once trace.events kind
  outcome_order : InSequence trace.events (outcomeOrder planned.expectedOutcome)
  deadlines : Deadlines limits trace.events planned.expectedOutcome
  counters : trace.counters = expectedCounterIds.map fun counterId => (lit counterId, 0)
  occupancy : trace.queue.initialOccupancyBytes ≤ trace.queue.capacityBytes ∧
    trace.queue.peakOccupancyBytes ≤ trace.queue.capacityBytes
  peer : planned.requiresPeerProgress = true → PeerProgress trace.events

/-- Neighbours in the list that carry one time stand in the trace as in the list. -/
def TiesInOrder (events : List Event) (kinds : List EventKind) : Prop :=
  ∀ pair ∈ kinds.zip kinds.tail, ∀ (i j : Nat) (first last : Event), events[i]? = some first → first.Is pair.1 →
    events[j]? = some last → last.Is pair.2 → first.atNs = last.atNs → i < j

/-! ## Events that occur once -/

/-- Times do not go back along the trace. -/
def Chronological (events : List Event) : Prop := events.Pairwise fun first last => first.atNs ≤ last.atNs

theorem Chronological.le {events : List Event} (h : Chronological events) (i j : Nat) (hij : i ≤ j) (first last : Event)
    (hi : events[i]? = some first) (hj : events[j]? = some last) : first.atNs ≤ last.atNs := by
  obtain ⟨hilt, rfl⟩ := List.getElem?_eq_some_iff.mp hi
  obtain ⟨hjlt, rfl⟩ := List.getElem?_eq_some_iff.mp hj
  rcases Nat.eq_or_lt_of_le hij with rfl | hlt
  · exact le_rfl
  · exact (List.pairwise_iff_getElem.mp h) i j hilt hjlt hlt

theorem eventTimes_eq (events : List Event) (kind : EventKind) :
    eventTimes events kind .a = (events.filter fun event => event.Is kind).map (·.atNs) := rfl

/-- The event that occurs once is at its position, and gives the time. -/
theorem once_spec (events : List Event) (kind : EventKind) (h : Once events kind) :
    ∃ event, events[position events kind]? = some event ∧ event.Is kind ∧
      firstTime events kind = some event.atNs ∧
      ∀ (j : Nat) (other : Event), events[j]? = some other → other.Is kind → j = position events kind ∧ other = event := by
  induction events with
  | nil => simp [Once] at h
  | cons head rest ih =>
    by_cases hhead : head.Is kind
    · have hrest : ∀ event ∈ rest, ¬ event.Is kind := by
        unfold Once at h
        rw [List.filter_cons_of_pos (by simpa using hhead), List.length_cons] at h
        have hnil : rest.filter (fun event => event.Is kind) = [] := List.eq_nil_of_length_eq_zero (by omega)
        simpa [List.filter_eq_nil_iff] using hnil
      have hposition : position (head :: rest) kind = 0 := by
        unfold position
        simp [List.findIdx_cons, hhead]
      refine ⟨head, by rw [hposition]; rfl, hhead, ?_, ?_⟩
      · unfold firstTime
        rw [eventTimes_eq, List.filter_cons_of_pos (by simpa using hhead)]
        rfl
      · intro j other hj hother
        rw [hposition]
        cases j with
        | zero => exact ⟨rfl, (Option.some.inj hj).symm⟩
        | succ j => exact absurd hother (hrest other (List.mem_of_getElem? hj))
    · have honce : Once rest kind := by
        unfold Once at h ⊢
        rwa [List.filter_cons_of_neg (by simpa using hhead)] at h
      have hposition : position (head :: rest) kind = position rest kind + 1 := by
        unfold position
        simp [List.findIdx_cons, hhead]
      obtain ⟨event, hat, his, htime, hunique⟩ := ih honce
      refine ⟨event, by rw [hposition]; exact hat, his, ?_, ?_⟩
      · unfold firstTime at htime ⊢
        rwa [eventTimes_eq, List.filter_cons_of_neg (by simpa using hhead), ← eventTimes_eq]
      · intro j other hj hother
        rw [hposition]
        cases j with
        | zero => exact absurd ((Option.some.inj hj) ▸ hother) hhead
        | succ j =>
          obtain ⟨hj, rfl⟩ := hunique j other hj hother
          exact ⟨by omega, rfl⟩

/-! ## Order -/

theorem isChain_iff_zip {α : Type} (R : α → α → Prop) (xs : List α) :
    xs.IsChain R ↔ ∀ pair ∈ xs.zip xs.tail, R pair.1 pair.2 := by
  induction xs with
  | nil => simp
  | cons x xs ih =>
    cases xs with
    | nil => simp
    | cons y ys =>
      rw [List.isChain_cons_cons, List.tail_cons, List.zip_cons_cons, List.forall_mem_cons, ih]
      rfl

theorem inSequence_iff (events : List Event) (kinds : List EventKind) : InSequence events kinds ↔
    ∀ pair ∈ kinds.zip kinds.tail, position events pair.1 < position events pair.2 := by
  unfold InSequence
  rw [← List.isChain_iff_pairwise, List.isChain_map, isChain_iff_zip]

theorem ordered_pairs (times : EventKind → Option Nat) (kinds : List EventKind) (h : ordered (kinds.map times) = true) :
    ∀ pair ∈ kinds.zip kinds.tail, ∃ first last, times pair.1 = some first ∧ times pair.2 = some last ∧ first ≤ last := by
  intro pair hpair
  unfold ordered at h
  simp only [Bool.and_eq_true, List.all_eq_true, decide_eq_true_eq] at h
  obtain ⟨hsome, hle⟩ := h
  have hfirst : pair.1 ∈ kinds := (List.of_mem_zip hpair).1
  have hlast : pair.2 ∈ kinds := List.mem_of_mem_tail (List.of_mem_zip hpair).2
  obtain ⟨first, hf⟩ := Option.isSome_iff_exists.mp (hsome _ (List.mem_map_of_mem hfirst))
  obtain ⟨last, hl⟩ := Option.isSome_iff_exists.mp (hsome _ (List.mem_map_of_mem hlast))
  refine ⟨first, last, hf, hl, ?_⟩
  have hmem : (times pair.1, times pair.2) ∈ (kinds.map times).zip (kinds.map times).tail := by
    rw [← List.map_tail, List.zip_map]
    exact List.mem_map.mpr ⟨pair, hpair, rfl⟩
  have := hle _ hmem
  rwa [hf, hl] at this

/-- The times of an ordered list do not go back, over any distance. -/
theorem ordered_pairwise (times : EventKind → Option Nat) (kinds : List EventKind)
    (h : ordered (kinds.map times) = true) :
    kinds.Pairwise fun start stop => ∀ first last, times start = some first → times stop = some last → first ≤ last := by
  have hchain : kinds.IsChain fun start stop => (times start).getD 0 ≤ (times stop).getD 0 := by
    rw [isChain_iff_zip]
    intro pair hpair
    obtain ⟨first, last, hfirst, hlast, hle⟩ := ordered_pairs times kinds h pair hpair
    simpa [hfirst, hlast] using hle
  rw [← List.isChain_map (fun kind => (times kind).getD 0), List.isChain_iff_pairwise, List.pairwise_map] at hchain
  refine hchain.imp ?_
  intro start stop hle first last hfirst hlast
  simpa [hfirst, hlast] using hle

/-- Order by time is order by sequence, but for events at one time. -/
theorem inSequence_iff_ties (events : List Event) (hchronological : Chronological events) (kinds : List EventKind)
    (honce : ∀ kind ∈ kinds, Once events kind) (hordered : ordered (kinds.map (firstTime events)) = true) :
    InSequence events kinds ↔ TiesInOrder events kinds := by
  rw [inSequence_iff]
  constructor
  · intro h pair hpair i j first last hi hfirst hj hlast _
    obtain ⟨_, -, -, -, hunique⟩ := once_spec events pair.1 (honce _ (List.of_mem_zip hpair).1)
    obtain ⟨_, -, -, -, hunique'⟩ := once_spec events pair.2 (honce _ (List.mem_of_mem_tail (List.of_mem_zip hpair).2))
    rw [(hunique i first hi hfirst).1, (hunique' j last hj hlast).1]
    exact h pair hpair
  · intro h pair hpair
    obtain ⟨first, hat, his, htime, -⟩ := once_spec events pair.1 (honce _ (List.of_mem_zip hpair).1)
    obtain ⟨last, hat', his', htime', -⟩ :=
      once_spec events pair.2 (honce _ (List.mem_of_mem_tail (List.of_mem_zip hpair).2))
    obtain ⟨start, stop, hstart, hstop, hle⟩ := ordered_pairs _ kinds hordered pair hpair
    rw [htime] at hstart
    rw [htime'] at hstop
    cases hstart
    cases hstop
    by_contra hnot
    have hback := hchronological.le _ _ (not_lt.mp hnot) last first hat' hat
    have htie := h pair hpair _ _ first last hat his hat' his' (le_antisymm hle hback)
    omega

/-! ## Parsing -/

theorem parseEvents_chronological (place : Str) (sequence : Nat) (priorTime : Int) (raws : List Json)
    (events : List Event) (h : parseEvents place sequence priorTime raws = .ok events) :
    Chronological events ∧ ∀ event ∈ events, priorTime ≤ event.atNs := by
  induction raws generalizing sequence priorTime events with
  | nil =>
    cases h
    simp [Chronological]
  | cons raw raws ih =>
    rw [parseEvents] at h
    obtain ⟨event, hevent, h⟩ := bind_ok_iff.mp h
    obtain ⟨rest, hrest, h⟩ := bind_ok_iff.mp h
    cases h
    obtain ⟨hchronological, hlater⟩ := ih _ _ rest hrest
    have hprior : priorTime ≤ event.atNs := by
      unfold parseEvent at hevent
      obtain ⟨members, -, hevent⟩ := bind_ok_iff.mp hevent
      obtain ⟨declared, -, hevent⟩ := bind_ok_iff.mp hevent
      split at hevent
      · cases hevent
      · obtain ⟨_, -, hevent⟩ := bind_ok_iff.mp hevent
        obtain ⟨role, -, hevent⟩ := bind_ok_iff.mp hevent
        obtain ⟨_, -, hevent⟩ := bind_ok_iff.mp hevent
        obtain ⟨kind, -, hevent⟩ := bind_ok_iff.mp hevent
        obtain ⟨value, -, hevent⟩ := bind_ok_iff.mp hevent
        obtain ⟨atNs, htime, hevent⟩ := bind_ok_iff.mp hevent
        cases hevent
        unfold parseTime at htime
        obtain ⟨n, -, htime⟩ := bind_ok_iff.mp htime
        split at htime
        · cases htime
        · rename_i hlate
          cases htime
          exact not_lt.mp hlate
    refine ⟨List.pairwise_cons.mpr ⟨fun later hmem => ?_, hchronological⟩, ?_⟩
    · exact_mod_cast hlater later hmem
    · intro other hmem
      rcases List.mem_cons.mp hmem with rfl | hmem
      · exact hprior
      · exact hprior.trans (hlater other hmem)

theorem parseCounters_names (value : Json) (place : Str) (counters : List (Str × Nat))
    (h : parseCounters value place = .ok counters) : counters.map (·.1) = expectedCounterIds.map lit := by
  unfold parseCounters at h
  obtain ⟨members, -, h⟩ := bind_ok_iff.mp h
  refine mapM_map _ _ _ ?_ _ _ h
  intro counterId counter hcounter
  obtain ⟨_, -, hcounter⟩ := bind_ok_iff.mp hcounter
  obtain ⟨count, -, hcounter⟩ := bind_ok_iff.mp hcounter
  cases hcounter
  rfl

theorem parseTrace_ok (raw : Json) (planned : LifecycleCase) (index : Nat) (trace : Trace)
    (h : parseTrace raw planned index = .ok trace) :
    Chronological trace.events ∧ trace.counters.map (·.1) = expectedCounterIds.map lit := by
  unfold parseTrace at h
  obtain ⟨row, -, h⟩ := bind_ok_iff.mp h
  obtain ⟨caseId, -, h⟩ := bind_ok_iff.mp h
  split at h
  · cases h
  · obtain ⟨_, -, h⟩ := bind_ok_iff.mp h
    obtain ⟨raws, -, h⟩ := bind_ok_iff.mp h
    obtain ⟨events, hevents, h⟩ := bind_ok_iff.mp h
    obtain ⟨_, -, h⟩ := bind_ok_iff.mp h
    obtain ⟨counters, hcounters, h⟩ := bind_ok_iff.mp h
    obtain ⟨_, -, h⟩ := bind_ok_iff.mp h
    obtain ⟨queue, -, h⟩ := bind_ok_iff.mp h
    cases h
    exact ⟨(parseEvents_chronological _ _ _ _ _ hevents).1, parseCounters_names _ _ _ hcounters⟩

/-! ## A row without violations -/

@[simp] theorem violation_nil (condition : Bool) (text : String) : violation condition text = [] ↔ condition = false := by
  cases condition <;> simp [violation]

@[simp] theorem requireOnce_nil (events : List Event) (kinds : List EventKind) :
    requireOnce events kinds = [] ↔ ∀ kind ∈ kinds, Once events kind := by
  unfold requireOnce Once
  rw [List.map_eq_nil_iff, List.filter_eq_nil_iff]
  simp only [eventTimes_eq, List.length_map, ne_eq, decide_not, Bool.not_eq_true', decide_eq_false_iff_not, not_not]

theorem within_of_duration (events : List Event) (start stop : EventKind) (bound : Nat) (hstart : Once events start)
    (hstop : Once events stop) (hle : ∀ first last, firstTime events start = some first →
      firstTime events stop = some last → first ≤ last)
    (h : ¬ duration (firstTime events) start stop > bound) : Within events start stop bound := by
  obtain ⟨first, -, -, hfirst, hunique⟩ := once_spec events start hstart
  obtain ⟨last, -, -, hlast, hunique'⟩ := once_spec events stop hstop
  intro first' hmem his last' hmem' his'
  obtain ⟨i, hi⟩ := List.getElem?_of_mem hmem
  obtain ⟨j, hj⟩ := List.getElem?_of_mem hmem'
  rw [(hunique i first' hi his).2, (hunique' j last' hj his').2]
  have horder := hle first.atNs last.atNs hfirst hlast
  unfold duration at h
  rw [hfirst, hlast] at h
  dsimp only at h
  rw [if_neg (by omega)] at h
  omega

theorem validateOutcome_nil (planned : LifecycleCase) (events : List Event) (limits : Limits)
    (h : validateOutcome planned events (firstTime events) limits = []) (hbase : ∀ kind ∈ requiredOnce, Once events kind) :
    (∀ kind ∈ outcomeOrder planned.expectedOutcome, Once events kind) ∧
      ordered ((outcomeOrder planned.expectedOutcome).map (firstTime events)) = true ∧
      Deadlines limits events planned.expectedOutcome := by
  have hclosed := hbase .responseClosed (by decide)
  have hterminal := hbase .terminalObserved (by decide)
  have hrelease := hbase .requestStateReleaseAccepted (by decide)
  have hlater : ∀ kinds : List EventKind, ordered (kinds.map (firstTime events)) = true →
      ∀ (i j : Nat) (hi : i < kinds.length) (hj : j < kinds.length), i < j → ∀ first last,
        firstTime events kinds[i] = some first → firstTime events kinds[j] = some last → first ≤ last :=
    fun kinds hordered => List.pairwise_iff_getElem.mp (ordered_pairwise _ kinds hordered)
  unfold validateOutcome at h
  cases houtcome : planned.expectedOutcome with
  | complete =>
    simp only [houtcome, List.append_eq_nil_iff, requireOnce_nil, violation_nil, Bool.not_eq_false'] at h
    obtain ⟨honce, hordered⟩ := h
    simp only [List.forall_mem_cons] at honce
    refine ⟨?_, hordered, trivial⟩
    simp only [outcomeOrder, completeOrder, List.forall_mem_cons]
    exact ⟨hterminal, honce.1, hclosed, by simp⟩
  | boundedClose =>
    simp only [houtcome, List.append_eq_nil_iff, requireOnce_nil, violation_nil, Bool.not_eq_false',
      decide_eq_false_iff_not] at h
    obtain ⟨⟨⟨honce, hordered⟩, htotal⟩, hprogress⟩ := h
    simp only [List.forall_mem_cons] at honce
    obtain ⟨hpressure, hdeadline, -⟩ := honce
    have hle := hlater boundedCloseOrder hordered
    refine ⟨?_, hordered, ?_, ?_⟩
    · simp only [outcomeOrder, boundedCloseOrder, List.forall_mem_cons]
      exact ⟨hpressure, hdeadline, hclosed, by simp⟩
    · exact within_of_duration events _ _ _ hpressure hclosed (hle 0 2 (by decide) (by decide) (by decide)) htotal
    · exact within_of_duration events _ _ _ hpressure hdeadline (hle 0 1 (by decide) (by decide) (by decide)) hprogress
  | boundedCancel =>
    simp only [houtcome, List.append_eq_nil_iff, requireOnce_nil, violation_nil, Bool.not_eq_false',
      decide_eq_false_iff_not] at h
    obtain ⟨⟨⟨honce, hordered⟩, htotal⟩, hprogress⟩ := h
    simp only [List.forall_mem_cons] at honce
    obtain ⟨hpressure, hdeadline, hcancel, -⟩ := honce
    have hle := hlater boundedCancelOrder hordered
    refine ⟨?_, hordered, ?_, ?_⟩
    · simp only [outcomeOrder, boundedCancelOrder, List.forall_mem_cons]
      exact ⟨hpressure, hdeadline, hcancel, hterminal, hrelease, hclosed, by simp⟩
    · exact within_of_duration events _ _ _ hpressure hclosed (hle 0 5 (by decide) (by decide) (by decide)) htotal
    · exact within_of_duration events _ _ _ hpressure hdeadline (hle 0 1 (by decide) (by decide) (by decide)) hprogress
  | disconnectCancel =>
    simp only [houtcome, List.append_eq_nil_iff, requireOnce_nil, violation_nil, Bool.not_eq_false',
      decide_eq_false_iff_not] at h
    obtain ⟨⟨honce, hordered⟩, hdeadline⟩ := h
    simp only [List.forall_mem_cons] at honce
    obtain ⟨hdisconnected, hcancel, -⟩ := honce
    have hle := hlater disconnectCancelOrder hordered
    refine ⟨?_, hordered, ?_⟩
    · simp only [outcomeOrder, disconnectCancelOrder, List.forall_mem_cons]
      exact ⟨hdisconnected, hcancel, hterminal, hrelease, hclosed, by simp⟩
    · exact within_of_duration events _ _ _ hdisconnected hrelease (hle 0 3 (by decide) (by decide) (by decide)) hdeadline

/-- Progress of the peer between the times of release and close is between them in the trace. -/
theorem peerProgress_of (planned : LifecycleCase) (events : List Event) (hchronological : Chronological events)
    (hrelease : Once events .requestStateReleaseAccepted) (hclosed : Once events .responseClosed)
    (h : peerViolations planned events (firstTime events .requestStateReleaseAccepted)
      (firstTime events .responseClosed) = []) (hrequired : planned.requiresPeerProgress = true) :
    PeerProgress events := by
  obtain ⟨release, hat, -, htime, hunique⟩ := once_spec events _ hrelease
  obtain ⟨close, hat', -, htime', hunique'⟩ := once_spec events _ hclosed
  unfold peerViolations at h
  rw [htime, htime'] at h
  simp only [violation_nil, hrequired, Bool.true_and, Bool.not_eq_false', List.any_eq_true, Bool.and_eq_true,
    decide_eq_true_eq] at h
  obtain ⟨atNs, hpeer, hafter, hbefore⟩ := h
  unfold eventTimes at hpeer
  obtain ⟨peer, hmem, rfl⟩ := List.mem_map.mp hpeer
  obtain ⟨hin, hkind⟩ := List.mem_filter.mp hmem
  obtain ⟨sequence, hsequence⟩ := List.getElem?_of_mem hin
  simp only [decide_eq_true_eq] at hkind
  refine ⟨sequence, peer, hsequence, hkind.2, ?_, ?_, ?_, ?_⟩
  · by_contra hnot
    have := hchronological.le _ _ (not_lt.mp hnot) peer release hsequence hat
    omega
  · by_contra hnot
    have := hchronological.le _ _ (not_lt.mp hnot) close peer hat' hsequence
    omega
  · intro other hother his
    obtain ⟨i, hi⟩ := List.getElem?_of_mem hother
    rwa [(hunique i other hi his).2]
  · intro other hother his
    obtain ⟨i, hi⟩ := List.getElem?_of_mem hother
    rwa [(hunique' i other hi his).2]

/-- A row that passes is sound exactly when its ties stand in the order of the lists. -/
theorem validateCase_sound (raw : Json) (planned : LifecycleCase) (limits : Limits) (index : Nat) (report : Report)
    (reasons : List Str) (h : validateCase raw planned limits index = .ok (report, reasons))
    (hpassed : report.status = lit "passed") :
    ∃ trace, parseTrace raw planned index = .ok trace ∧ (Sound planned limits trace ↔
      TiesInOrder trace.events requiredOnce ∧ TiesInOrder trace.events (outcomeOrder planned.expectedOutcome)) := by
  unfold validateCase at h
  obtain ⟨trace, htrace, h⟩ := bind_ok_iff.mp h
  cases h
  refine ⟨trace, htrace, ?_⟩
  obtain ⟨hchronological, hnames⟩ := parseTrace_ok raw planned index trace htrace
  have hclean : violationsOf planned limits trace = [] := by
    have hne : lit "failed" ≠ lit "passed" := by decide
    dsimp only at hpassed
    split at hpassed
    · rename_i hempty
      exact List.isEmpty_iff.mp hempty
    · exact absurd hpassed hne
  unfold violationsOf at hclean
  simp only [List.append_eq_nil_iff, violation_nil, requireOnce_nil, Bool.not_eq_false', List.map_eq_nil_iff,
    List.filter_eq_nil_iff, decide_eq_false_iff_not] at hclean
  obtain ⟨⟨⟨⟨⟨⟨⟨hcounters, hinitial⟩, hpeak⟩, hbase⟩, hbaseOrder⟩, houtcome⟩, -⟩, hpeer⟩ := hclean
  obtain ⟨honce, horder, hdeadlines⟩ := validateOutcome_nil planned trace.events limits houtcome hbase
  rw [← inSequence_iff_ties trace.events hchronological requiredOnce hbase hbaseOrder,
    ← inSequence_iff_ties trace.events hchronological _ honce horder]
  constructor
  · intro hsound
    exact ⟨hsound.base_order, hsound.outcome_order⟩
  · rintro ⟨hbaseSequence, houtcomeSequence⟩
    refine ⟨hbase, hbaseSequence, honce, houtcomeSequence, hdeadlines, ?_, ⟨by omega, by omega⟩, ?_⟩
    · have hzero : trace.counters = (trace.counters.map (·.1)).map fun name => (name, 0) := by
        rw [List.map_map]
        conv_lhs => rw [← List.map_id trace.counters]
        apply List.map_congr_left
        intro counter hmem
        have := hcounters counter hmem
        simp only [decide_eq_true_eq, ne_eq, not_not] at this
        exact Prod.ext rfl this
      rw [hzero, hnames, List.map_map]
      rfl
    · exact peerProgress_of planned trace.events hchronological (hbase _ (by decide)) (hbase _ (by decide)) hpeer

/-! ## A complete case -/

def sampleCase : LifecycleCase := ⟨lit "fast-fit", .complete, false, false⟩

def sampleLimits : Limits := ⟨10, 20, 30⟩

/-- A row with these events of request a. -/
def sampleRow (events : List (EventKind × Nat)) : Json := .obj
  [(lit "case_id", .str (lit "fast-fit")),
   (lit "events", .arr (events.zipIdx.map fun event => .obj
     [(lit "sequence", .int event.2), (lit "request_role", .str (lit "a")), (lit "kind", .str (lit event.1.1.name)),
      (lit "at_ns", .int event.1.2)])),
   (lit "counters", .obj (expectedCounterIds.map fun name => (lit name, .int 0))),
   (lit "queue", .obj [(lit "capacity_bytes", .int 100), (lit "initial_occupancy_bytes", .int 0),
     (lit "producer_bytes_per_second", .int 5), (lit "consumer_bytes_per_second", .int 5),
     (lit "peak_occupancy_bytes", .int 50)])]

/-- The response closes before the release, at one time. -/
def sampleTied : Json := sampleRow
  [(.exchangeReserved, 1), (.requestAccepted, 2), (.backendOwnershipAcquired, 3), (.outputProductionStarted, 4),
   (.terminalObserved, 5), (.httpLastByteCommitted, 6), (.responseClosed, 7), (.requestStateReleaseAccepted, 7)]

def passes (raw : Json) : Bool :=
  match validateCase raw sampleCase sampleLimits 0 with
  | .ok result => result.1.status = lit "passed"
  | .error _ => false

theorem passes_iff (raw : Json) : passes raw = true → ∃ report reasons,
    validateCase raw sampleCase sampleLimits 0 = .ok (report, reasons) ∧ report.status = lit "passed" := by
  unfold passes
  rcases validateCase raw sampleCase sampleLimits 0 with e | ⟨report, reasons⟩
  · simp
  · simp

theorem validateCase_sound_sample : ∃ trace, parseTrace sampleTied sampleCase 0 = .ok trace ∧
    (Sound sampleCase sampleLimits trace ↔
      TiesInOrder trace.events requiredOnce ∧ TiesInOrder trace.events completeOrder) := by
  obtain ⟨report, reasons, hcase, hpassed⟩ := passes_iff sampleTied (by decide +kernel)
  exact validateCase_sound sampleTied sampleCase sampleLimits 0 report reasons hcase hpassed

/-- The row passes, with the response closed before the request was released. -/
theorem validateCase_unsound : passes sampleTied = true ∧
    ∀ trace ∈ (parseTrace sampleTied sampleCase 0).toOption, ¬ Sound sampleCase sampleLimits trace := by
  refine ⟨by decide +kernel, ?_⟩
  intro trace htrace hsound
  have hbackwards : ∀ trace ∈ (parseTrace sampleTied sampleCase 0).toOption,
      position trace.events .responseClosed < position trace.events .requestStateReleaseAccepted := by
    decide +kernel
  have hlate := (inSequence_iff trace.events requiredOnce).mp hsound.base_order
    (.requestStateReleaseAccepted, .responseClosed) (by decide)
  exact lt_asymm hlate (hbackwards trace htrace)

end TurnVector.GatewayValidation
