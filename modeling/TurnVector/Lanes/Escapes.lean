import TurnVector.Lanes.Reads

/-! # What escapes an oracle

An oracle returns or raises a `ContractError` if and only if it meets no place that breaks it before one that it
refuses.
-/

namespace TurnVector.Lanes

open Python Json Effects
open CrossEngine (PyFloat)
open LaneController (Raised contractError)
open Canonical (itemAt Sha256)

section
variable {floats : OracleFloats} {α β : Type} {rest : List Reading}

/-! ## Lanes -/

theorem isTrue_bool (b : Bool) : isTrue (.bool b) = b := by cases b <;> rfl

theorem reads_scheduler (evidence : Evidence) (close : List (Str × Json)) :
    Reads floats (recordPlaces schedulerPlaces evidence close)
      (schedulerPerformance floats evidence close) := by
  refine reads_record fun value => ?_
  simp only [schedulerPlaces, List.flatten_cons, List.flatten_nil, List.cons_append, List.nil_append]
  refine reads_fields fun fields hfields => ?_
  subst hfields
  refine reads_each (fun _ _ => reads_differ) fun _ _ _ _ => ?_
  refine reads_numbers fun _ _ => ?_
  refine reads_fields fun work hwork => ?_
  rw [show member (.obj fields.members) "decision_work" = .obj work.members from hwork]
  refine reads_number (reads_number ?_)
  exact reads_boolean fun _ _ => .pure _

theorem reads_publication (raw : Json) (place : Str) : Reads floats (outputPlaces raw) (readPublication raw place) := by
  rw [outputPlaces]
  refine reads_fields fun fields hfields => ?_
  subst hfields
  exact reads_boolean fun _ _ => .pure _

/-- What is hashed of an output. -/
def Publication.items (publication : Publication) : List Reading :=
  [.hashed publication.publicationId, .hashed publication.sequence]

theorem readPublication_ok {raw : Json} {place : Str} {publication : Publication}
    (h : readPublication raw place = .ok publication) : publication.items = publicationPlaces raw := by
  obtain ⟨fields, hfields, h⟩ := bind_ok_iff.mp h
  obtain ⟨reserved, -, h⟩ := bind_ok_iff.mp h
  cases h
  rw [oracleFields_ok hfields]
  rfl

theorem reads_publications {raws : List Json} {publications : List Publication}
    (h : publications.map Publication.items = raws.map publicationPlaces) :
    Reads floats (raws.flatMap publicationPlaces) (hashPublications publications) := by
  rw [List.flatMap_def, ← h, ← List.flatMap_def]
  exact Reads.mapM publications fun _ _ => reads_hashed .hashed

theorem reads_sequence {raw : Json} {place : Str} {f : Option Int → Except Raised α}
    (h : ∀ found, Reads floats rest (f found)) :
    Reads floats (sequencePlaces floats raw ++ rest) (commitSequence floats raw place >>= f) := by
  rw [sequencePlaces, commitSequence]
  by_cases hnull : raw = .null
  · rw [if_pos hnull, if_pos hnull]
    exact h none
  · rw [if_neg hnull, if_neg hnull]
    exact Reads.bind (reads_number (reads_demand fun _ => .pure _)) fun found _ => h found

theorem reads_serving (parameters : List (Str × Json)) (evidence : Evidence) (close : List (Str × Json)) :
    Reads floats (recordPlaces (servingPlaces floats parameters) evidence close)
      (requestServing floats parameters evidence close) := by
  refine reads_record fun value => ?_
  simp only [servingPlaces, List.flatten_cons, List.flatten_nil, List.cons_append, List.nil_append]
  refine reads_fields fun fields hfields => ?_
  subst hfields
  refine reads_demand fun _ => ?_
  refine reads_items (fun _ => .named) fun lifecycle ranks _ => ?_
  refine reads_boolean fun _ _ => ?_
  refine reads_boolean fun _ _ => ?_
  refine reads_each_kept Publication.items publicationPlaces (fun raw _ => reads_publication raw _)
    (fun _ _ _ => readPublication_ok) fun outputs publications houtputs hpublications => ?_
  rw [show member (.obj fields.members) "outputs" = .arr outputs from houtputs]
  refine Reads.bind (reads_publications hpublications) fun _ _ => ?_
  refine reads_boolean fun _ _ => ?_
  refine reads_boolean fun _ _ => ?_
  refine reads_boolean fun _ _ => ?_
  refine reads_sequence fun _ => ?_
  refine reads_sequence fun _ => ?_
  change Reads floats [.met (clientEvent? (fields.get "client_event")).isSome] _
  cases clientEvent? (fields.get "client_event") with
  | none => exact reads_refuses _ rfl
  | some event => exact reads_passes _ rfl

theorem reads_parity (raw : Json) (place : Str) : Reads floats (parityPlaces raw) (readParity floats raw place) := by
  rw [parityPlaces]
  refine reads_fields fun fields hfields => ?_
  subst hfields
  refine reads_named fun found hfound => ?_
  rw [← hfound]
  cases found with
  | none => exact reads_refuses _ rfl
  | some kind => exact reads_passes _ rfl

theorem reads_mlx (evidence : Evidence) (close : List (Str × Json)) :
    Reads floats (recordPlaces mlxPlaces evidence close)
      (mlxFixture floats evidence close) := by
  refine reads_record fun value => ?_
  simp only [mlxPlaces, List.flatten_cons, List.flatten_nil, List.cons_append, List.nil_append]
  refine reads_fields fun fields hfields => ?_
  subst hfields
  refine reads_each (fun raw _ => reads_parity raw _) fun _ _ _ _ => ?_
  refine reads_list fun _ _ => ?_
  exact reads_boolean fun _ _ => .pure _

theorem reads_bounded (evidence : Evidence) (close : List (Str × Json)) :
    Reads floats (recordPlaces (boundedPlaces floats) evidence close)
      (boundedTurn floats evidence close) := by
  refine reads_record fun value => ?_
  simp only [boundedPlaces, List.flatten_cons, List.flatten_nil, List.cons_append, List.nil_append]
  refine reads_fields fun fields hfields => ?_
  subst hfields
  refine reads_each (fun _ _ => reads_differ) fun _ _ _ _ => ?_
  refine reads_list fun baselines hbaselines => ?_
  refine reads_list fun candidates hcandidates => ?_
  rw [show member (.obj fields.members) "ffi_baseline_us" = .arr baselines from hbaselines,
    show member (.obj fields.members) "ffi_candidate_us" = .arr candidates from hcandidates]
  refine reads_demand fun _ => ?_
  refine Reads.bind (Reads.mapM_indexed _ fun samples => ?_) fun _ _ => ?_
  · exact reads_number (reads_number (reads_demand fun _ => .pure _))
  refine reads_each (fun raw _ => ?_) fun _ _ _ _ => ?_
  · refine reads_fields fun outcome houtcome => ?_
    subst houtcome
    exact reads_boolean fun _ _ => .pure _
  exact reads_numbers fun _ _ => .pure _

theorem Reads.andBoolean {first : Bool} {value : Json} {place : String} :
    Reads floats (readWhere first value) (andBoolean first value place) := by
  cases first with
  | false => exact .pure false
  | true => exact .boolean

theorem reads_andBoolean {first : Bool} {value : Json} {place : String} {f : Bool → Except Raised α}
    (h : Reads floats rest (f (first && isTrue value))) :
    Reads floats (readWhere first value ++ rest) (andBoolean first value place >>= f) := by
  cases first with
  | false => exact h
  | true =>
    refine reads_boolean fun b hb => ?_
    subst hb
    rwa [isTrue_bool, Bool.true_and] at h

theorem reads_orBoolean {first : Bool} {value : Json} {place : String} {f : Bool → Except Raised α}
    (h : Reads floats rest (f (first || isTrue value))) :
    Reads floats (readWhere (!first) value ++ rest) (orBoolean first value place >>= f) := by
  cases first with
  | true => exact h
  | false =>
    refine reads_boolean fun b hb => ?_
    subst hb
    rwa [isTrue_bool, Bool.false_or] at h

theorem reads_unsafeAdmission (admitted : Bool) (resourceSafe : Json) :
    Reads floats (readWhere admitted resourceSafe) (unsafeAdmission admitted resourceSafe) := by
  cases admitted with
  | true => exact Reads.boolean.map _
  | false => exact .pure false

theorem reads_decision (parameters : List (Str × Json)) (raw : Json) (place : Str) :
    Reads floats (decisionPlaces raw) (readDecision floats parameters raw place) := by
  simp only [decisionPlaces, List.flatten_cons, List.flatten_nil, List.cons_append, List.nil_append]
  refine reads_fields fun fields hfields => ?_
  subst hfields
  refine reads_boolean fun admitted hadmitted => ?_
  rw [show member (.obj fields.members) "admitted" = .bool admitted from hadmitted, isTrue_bool]
  exact Reads.bind (reads_unsafeAdmission admitted _) fun _ _ => reads_number (reads_number (.pure _))

theorem reads_lease (raw : Json) (place : Str) : Reads floats (leasePlaces floats raw) (readLease floats raw place) := by
  simp only [leasePlaces, List.flatten_cons, List.flatten_nil, List.cons_append, List.nil_append]
  refine reads_fields fun fields hfields => ?_
  subst hfields
  refine reads_number (reads_demand fun _ => ?_)
  refine reads_boolean fun busy hbusy => ?_
  rw [show member (.obj fields.members) "busy" = .bool busy from hbusy, isTrue_bool]
  refine reads_orBoolean ?_
  rw [List.append_nil]
  exact .andBoolean

theorem reads_reservation (raw : Json) (place : Str) :
    Reads floats (reservationPlaces raw) (readReservation floats raw place) := by
  rw [reservationPlaces]
  refine reads_fields fun fields hfields => ?_
  subst hfields
  exact reads_number (reads_number (reads_number (reads_number (.pure _))))

theorem reads_reclaim (raw : Json) (place : Str) : Reads floats (reclaimPlaces raw) (readReclaim raw place) := by
  simp only [reclaimPlaces, List.flatten_cons, List.flatten_nil, List.cons_append, List.nil_append]
  refine reads_fields fun fields hfields => ?_
  subst hfields
  refine reads_boolean fun process hprocess => ?_
  rw [show member (.obj fields.members) "process_reclaimed" = .bool process from hprocess, isTrue_bool]
  refine reads_andBoolean ?_
  simp only [Fields.get]
  cases process && isTrue (member (.obj fields.members) "backend_reclaimed") with
  | true => exact .pure _
  | false => exact reads_boolean fun _ _ => .pure _

theorem reads_memory (parameters : List (Str × Json)) (evidence : Evidence) (close : List (Str × Json)) :
    Reads floats (recordPlaces (memoryPlaces floats) evidence close)
      (memoryGovernor floats parameters evidence close) := by
  refine reads_record fun value => ?_
  simp only [memoryPlaces, List.flatten_cons, List.flatten_nil, List.cons_append, List.nil_append]
  refine reads_fields fun fields hfields => ?_
  subst hfields
  refine reads_each (fun raw _ => reads_decision parameters raw _) fun _ _ _ _ => ?_
  refine reads_list fun checks hchecks => ?_
  rw [show member (.obj fields.members) "lease_checks" = .arr checks from hchecks]
  refine reads_demand fun _ => ?_
  refine Reads.bind (Reads.mapM_indexed checks fun raw => reads_lease raw.1 _) fun _ _ => ?_
  refine reads_each (fun raw _ => reads_reservation raw _) fun _ _ _ _ => ?_
  refine reads_list fun pending hpending => ?_
  rw [show member (.obj fields.members) "pending_reclaim" = .arr pending from hpending]
  refine reads_demand fun _ => ?_
  refine Reads.bind (Reads.mapM_indexed pending fun raw => reads_reclaim raw.1 _) fun _ _ => ?_
  refine reads_numbers fun samples hsamples => ?_
  rw [show member (.obj fields.members) "process_samples_bytes" = .arr samples from hsamples]
  refine Reads.step ?_ fun _ _ => ?_
  · cases samples with
    | nil => exact reads_breaks _ rfl
    | cons sample samples => exact reads_passes _ rfl
  exact reads_numbers fun _ _ => .pure _

theorem reads_latency (lane : String) (raw : Json) (index : Nat) :
    Reads floats (latencyPlaces floats raw) (readLatency floats lane raw index) := by
  rw [latencyPlaces]
  refine reads_fields fun fields hfields => ?_
  subst hfields
  exact reads_number (reads_number (reads_demand fun _ => .pure _))

theorem reads_misattributed (known : Bool) (status : Json) :
    Reads floats (if known then [.hashed status] else []) (misattributed known status) := by
  cases known with
  | true => exact Reads.named.map _
  | false => exact .pure true

theorem reads_buffer (turns : List Json) (raw : Json) (place : Str) :
    Reads floats (bufferPlaces floats turns raw) (readBuffer floats turns raw place) := by
  simp only [bufferPlaces, List.flatten_cons, List.flatten_nil, List.cons_append, List.nil_append]
  refine reads_fields fun fields hfields => ?_
  subst hfields
  refine reads_number (reads_number (reads_hashed ?_))
  exact Reads.bind (reads_misattributed _ _) fun _ _ => .pure _

theorem reads_instruments (lane : String) (raw : Json) (place : Str) :
    Reads floats (instrumentPlaces floats raw) (readInstruments floats lane raw place) := by
  rw [instrumentPlaces]
  refine reads_fields fun fields hfields => ?_
  subst hfields
  exact reads_number (reads_demand fun _ => reads_number (.pure _))

theorem reads_observability (evidence : Evidence) (close : List (Str × Json)) :
    Reads floats (recordPlaces (observabilityPlaces floats) evidence close)
      (observability floats evidence close) := by
  refine reads_record fun value => ?_
  simp only [observabilityPlaces, List.flatten_cons, List.flatten_nil, List.cons_append, List.nil_append]
  refine reads_fields fun fields hfields => ?_
  subst hfields
  refine reads_items (fun _ => .hashed) fun turns _ hturns => ?_
  rw [show member (.obj fields.members) "turn_ids" = .arr turns from hturns]
  refine reads_each (fun raw _ => reads_buffer turns raw _) fun _ _ _ _ => ?_
  refine reads_each (fun raw _ => reads_instruments _ raw _) fun pairs errors hpairs herrors => ?_
  refine reads_fields fun telemetry htelemetry => ?_
  rw [show member (.obj fields.members) "telemetry" = .obj telemetry.members from htelemetry,
    show member (.obj fields.members) "instruments_pairs" = .arr pairs from hpairs]
  refine reads_number (reads_number ?_)
  rw [herrors]
  refine reads_demand fun _ => ?_
  refine reads_boolean fun _ _ => ?_
  exact reads_number (reads_number (.pure _))

theorem reads_attempt (raw : Json) (place : Str) : Reads floats (attemptPlaces raw) (readAttempt raw place) := by
  simp only [attemptPlaces, List.flatten_cons, List.flatten_nil, List.cons_append, List.nil_append]
  refine reads_fields fun fields hfields => ?_
  subst hfields
  refine reads_boolean fun valid hvalid => ?_
  rw [show member (.obj fields.members) "valid" = .bool valid from hvalid, isTrue_bool, List.append_nil]
  exact .andBoolean

theorem reads_replays (raw : Json) (place : Str) :
    Reads floats (executionsPlaces raw) (readReplays floats raw place) := by
  rw [executionsPlaces]
  refine reads_fields fun fields hfields => ?_
  subst hfields
  exact reads_number (.pure _)

theorem reads_persistence (evidence : Evidence) (close : List (Str × Json)) :
    Reads floats (recordPlaces persistencePlaces evidence close)
      (persistence floats evidence close) := by
  refine reads_record fun value => ?_
  simp only [persistencePlaces, List.flatten_cons, List.flatten_nil, List.cons_append, List.nil_append]
  refine reads_fields fun fields hfields => ?_
  subst hfields
  refine reads_each (fun _ _ => reads_differ) fun _ _ _ _ => ?_
  refine reads_each (fun raw _ => reads_attempt raw _) fun _ _ _ _ => ?_
  refine reads_each (fun _ _ => reads_differ) fun _ _ _ _ => ?_
  exact reads_each (fun raw _ => reads_replays raw _) fun _ _ _ _ => .pure _

theorem reads_owner (evidence : Evidence) (close : List (Str × Json)) :
    Reads floats (recordPlaces (ownerPlaces floats) evidence close)
      (ownerLifecycle floats evidence close) := by
  refine reads_record fun value => ?_
  simp only [ownerPlaces, List.flatten_cons, List.flatten_nil, List.cons_append, List.nil_append]
  refine reads_fields fun fields hfields => ?_
  subst hfields
  refine reads_fields fun daemon hdaemon => ?_
  refine reads_fields fun transport htransport => ?_
  rw [show member (.obj fields.members) "daemon" = .obj daemon.members from hdaemon,
    show member (.obj fields.members) "client_transport" = .obj transport.members from htransport]
  refine reads_numbers fun frames hframes => ?_
  refine reads_numbers fun latencies hlatencies => ?_
  rw [show member (.obj transport.members) "frame_bytes" = .arr frames from hframes,
    show member (.obj transport.members) "latency_us" = .arr latencies from hlatencies]
  simp only [List.isEmpty_map, List.all_map]
  refine reads_demand fun _ => reads_demand fun _ => ?_
  refine reads_number (reads_number (reads_demand fun _ => ?_))
  exact reads_items (fun _ => .hashed) fun _ _ _ => .pure _

theorem reads_admission (expected : Bool) (raw : Json) (place : Str) :
    Reads floats (admissionPlaces raw) (readAdmission expected raw place) := by
  rw [admissionPlaces]
  refine reads_fields fun fields hfields => ?_
  subst hfields
  exact reads_boolean fun _ _ => reads_boolean fun _ _ => .pure _

theorem reads_certification (parameters : List (Str × Json)) (evidence : Evidence) (close : List (Str × Json)) :
    Reads floats (recordPlaces certificationPlaces evidence close)
      (certification floats parameters evidence close) := by
  refine reads_record fun value => ?_
  simp only [certificationPlaces, List.flatten_cons, List.flatten_nil, List.cons_append, List.nil_append]
  refine reads_fields fun fields hfields => ?_
  subst hfields
  refine reads_each (fun raw _ => reads_admission _ raw _) fun _ _ _ _ => ?_
  refine reads_each (fun _ _ => reads_differ) fun _ _ _ _ => ?_
  refine reads_fields fun quarantine hquarantine => ?_
  rw [show member (.obj fields.members) "quarantine" = .obj quarantine.members from hquarantine]
  refine reads_number (reads_numbers fun _ _ => ?_)
  refine reads_fields fun recertification hrecertification => ?_
  rw [show member (.obj fields.members) "recertification" = .obj recertification.members from hrecertification]
  have hplaces : (membersOf (.obj recertification.members)).map Reading.boolean =
      recertification.members.flatMap fun item => [.boolean item.2] := by
    rw [membersOf, List.map_map, List.map_eq_flatMap]
    rfl
  rw [hplaces]
  exact Reads.bind (Reads.mapM _ fun _ _ => .boolean) fun _ _ => .pure _

/-! ## Receipts -/

/-- What the two dicts know after these receipts. -/
structure Charged (floats : OracleFloats) (before : List Json) (state : ModelLedgers) : Prop where
  known : ∀ seen ∈ before, state.weights.lookup (receiptModel seen) = some (receiptWeight floats seen)
  seen : ∀ model weight, state.weights.lookup model = some weight →
    ∃ seen ∈ before, receiptModel seen = model ∧ receiptWeight floats seen = weight
  charged : ∀ model, model ∈ state.ledgers.map Prod.fst ↔ ∃ seen ∈ before, receiptModel seen = model
  named : ∀ seen ∈ before, occurs (receiptModel seen) crossModels = true

theorem charged_nil : Charged floats [] ⟨[], []⟩ where
  known := by simp
  seen := by simp
  charged := by simp
  named := by simp

theorem Charged.weightKept {before : List Json} {state : ModelLedgers} (h : Charged floats before state) (raw : Json) :
    ((state.weights.lookup (receiptModel raw)).all fun seen => seen = receiptWeight floats raw) =
      weightKept floats before raw := by
  rw [Bool.eq_iff_iff, Lanes.weightKept, List.all_eq_true]
  constructor
  · intro hall seen hseen
    by_cases hmodel : receiptModel seen = receiptModel raw
    · have hknown := h.known seen hseen
      rw [hmodel] at hknown
      simpa [hknown, hmodel] using hall
    · simp [hmodel]
  · intro hall
    cases hlookup : state.weights.lookup (receiptModel raw) with
    | none => rfl
    | some weight =>
      obtain ⟨seen, hseen, hmodel, hweight⟩ := h.seen _ _ hlookup
      simpa [hmodel, hweight] using hall seen hseen

theorem reads_charge {before : List Json} {state : ModelLedgers} (h : Charged floats before state) (raw : Json)
    (place lane : Str) : Reads floats (receiptPlaces floats before raw) (chargeReceipt floats place lane state raw) := by
  rw [receiptPlaces]
  refine reads_fields fun fields hfields => ?_
  subst hfields
  refine reads_number (reads_demand fun _ => reads_text (reads_demand fun _ => ?_))
  rw [← h.weightKept]
  exact reads_demand fun _ => reads_number (.pure _)

/-- What a receipt does to the two dicts. -/
theorem chargeReceipt_ok {state next : ModelLedgers} {raw : Json} {place lane : Str}
    (h : chargeReceipt floats place lane state raw = .ok next) :
    occurs (receiptModel raw) crossModels = true ∧
    ((state.weights.lookup (receiptModel raw)).all fun seen => seen = receiptWeight floats raw) ∧
    next.weights = setItem state.weights (receiptModel raw) (receiptWeight floats raw) ∧
    ∃ ledger, next.ledgers = setItem state.ledgers (receiptModel raw) ledger := by
  obtain ⟨fields, hfields, h⟩ := bind_ok_iff.mp h
  rw [oracleFields_ok hfields]
  obtain ⟨weight, hweight, h⟩ := bind_ok_iff.mp h
  obtain ⟨-, -, h⟩ := bind_ok_iff.mp h
  obtain ⟨model, hmodel, h⟩ := bind_ok_iff.mp h
  obtain ⟨_, hnamed, h⟩ := bind_ok_iff.mp h
  obtain ⟨_, hkept, h⟩ := bind_ok_iff.mp h
  obtain ⟨service, -, h⟩ := bind_ok_iff.mp h
  obtain rfl : receiptModel (.obj fields.members) = model := textOf_ok hmodel
  obtain rfl : receiptWeight floats (.obj fields.members) = weight := number_ok hweight
  cases h
  exact ⟨demand_ok hnamed, demand_ok hkept, rfl, _, rfl⟩

theorem Charged.step {before : List Json} {state next : ModelLedgers} {raw : Json} {place lane : Str}
    (h : Charged floats before state) (hnext : chargeReceipt floats place lane state raw = .ok next) :
    Charged floats (before ++ [raw]) next := by
  obtain ⟨hnamed, hkept, hweights, ledger, hledgers⟩ := chargeReceipt_ok hnext
  rw [h.weightKept, Lanes.weightKept, List.all_eq_true] at hkept
  refine ⟨?_, ?_, ?_, ?_⟩
  · intro seen hseen
    rw [hweights, lookup_setItem]
    by_cases hmodel : receiptModel seen = receiptModel raw
    · rcases List.mem_append.mp hseen with hbefore | hraw
      · have := hkept seen hbefore
        simp_all
      · simp_all
    · rcases List.mem_append.mp hseen with hbefore | hraw
      · rw [if_neg hmodel, h.known seen hbefore]
      · simp_all
  · intro model weight hlookup
    rw [hweights, lookup_setItem] at hlookup
    split at hlookup
    case isTrue hmodel =>
      cases hlookup
      exact ⟨raw, by simp, hmodel.symm, rfl⟩
    case isFalse hmodel =>
      obtain ⟨seen, hseen, hfound⟩ := h.seen model weight hlookup
      exact ⟨seen, List.mem_append_left _ hseen, hfound⟩
  · intro model
    rw [hledgers, setItem_keys]
    have hcharged := h.charged
    split
    case isTrue hmem =>
      rw [hcharged]
      constructor
      · rintro ⟨seen, hseen, hmodel⟩
        exact ⟨seen, List.mem_append_left _ hseen, hmodel⟩
      · rintro ⟨seen, hseen, rfl⟩
        rcases List.mem_append.mp hseen with hbefore | hraw
        · exact ⟨seen, hbefore, rfl⟩
        · rw [List.mem_singleton.mp hraw]
          exact (hcharged _).mp hmem
    case isFalse hmem =>
      rw [List.mem_append, hcharged, List.mem_singleton]
      constructor
      · rintro (⟨seen, hseen, hmodel⟩ | rfl)
        · exact ⟨seen, List.mem_append_left _ hseen, hmodel⟩
        · exact ⟨raw, by simp, rfl⟩
      · rintro ⟨seen, hseen, rfl⟩
        rcases List.mem_append.mp hseen with hbefore | hraw
        · exact .inl ⟨seen, hbefore, rfl⟩
        · exact .inr (by rw [List.mem_singleton.mp hraw])
  · intro seen hseen
    rcases List.mem_append.mp hseen with hbefore | hraw
    · exact h.named seen hbefore
    · rw [List.mem_singleton.mp hraw]
      exact hnamed

/-- The loop over the receipts. -/
theorem reads_receipts {place lane : Str} {f : ModelLedgers → Except Raised α} (receipts : List Json)
    {before : List Json} {state : ModelLedgers} (h : Charged floats before state)
    (hf : ∀ state, Charged floats (before ++ receipts) state → Reads floats rest (f state)) :
    Reads floats (receiptsPlaces floats before receipts ++ rest)
      (receipts.foldlM (chargeReceipt floats place lane) state >>= f) := by
  induction receipts generalizing before state with
  | nil => exact hf state (by simpa using h)
  | cons raw receipts ih =>
    rw [receiptsPlaces, List.append_assoc, List.foldlM_cons, bind_assoc]
    refine Reads.bind (reads_charge h raw place lane) fun next hnext => ?_
    exact ih (h.step hnext) fun state hstate => hf state (by simpa using hstate)

theorem Charged.both {receipts : List Json} {state : ModelLedgers} (h : Charged floats receipts state) :
    sameSet (state.ledgers.map Prod.fst) crossModels =
      crossModels.all fun model => receipts.any fun raw => receiptModel raw = model := by
  have hnamed : (state.ledgers.map Prod.fst).all (occurs · crossModels) = true := by
    rw [List.all_eq_true]
    intro model hmodel
    obtain ⟨seen, hseen, rfl⟩ := (h.charged model).mp hmodel
    exact h.named seen hseen
  rw [sameSet, hnamed, Bool.true_and]
  congr 1
  funext model
  rw [Bool.eq_iff_iff, occurs_iff, h.charged, List.any_eq_true]
  simp only [decide_eq_true_eq]

theorem reads_cross (parameters : List (Str × Json)) (evidence : Evidence) (close : List (Str × Json)) :
    Reads floats (recordPlaces (crossPlaces floats) evidence close)
      (crossModelServing floats parameters evidence close) := by
  refine reads_record fun value => ?_
  simp only [crossPlaces, List.flatten_cons, List.flatten_nil, List.cons_append, List.nil_append]
  refine reads_fields fun fields hfields => ?_
  subst hfields
  refine reads_numbers fun progress hprogress => ?_
  refine reads_numbers fun timing htiming => ?_
  rw [show member (.obj fields.members) "progress_us" = .arr progress from hprogress,
    show member (.obj fields.members) "timing_us" = .arr timing from htiming]
  have hpositive : (!(progress.map (numeric floats)).isEmpty && !(timing.map (numeric floats)).isEmpty &&
      (progress.map (numeric floats) ++ timing.map (numeric floats)).all fun item => 0 < item) =
      (positiveSamples floats (.arr progress) && positiveSamples floats (.arr timing)) := by
    simp only [positiveSamples, items, List.isEmpty_map, List.all_append, List.all_map, Function.comp_def]
    ac_rfl
  rw [← hpositive]
  refine reads_demand fun _ => ?_
  refine reads_list fun receipts hreceipts => ?_
  rw [show member (.obj fields.members) "receipts" = .arr receipts from hreceipts]
  refine reads_receipts receipts charged_nil fun state hstate => ?_
  simp only [items]
  rw [List.nil_append] at hstate
  rw [← hstate.both]
  refine reads_demand fun _ => ?_
  refine reads_each (fun raw index => reads_latency _ raw index) fun samples latencies hsamples hlatencies => ?_
  rw [show member (.obj fields.members) "latency_samples" = .arr samples from hsamples, hlatencies]
  refine reads_demand fun _ => ?_
  refine reads_fields fun throughput hthroughput => ?_
  rw [show member (.obj fields.members) "throughput" = .obj throughput.members from hthroughput]
  refine reads_number (reads_number (reads_demand fun _ => ?_))
  exact reads_each (fun _ _ => reads_differ) fun _ _ _ _ => .pure _

/-! ## The core replay -/

theorem reads_keys {names : List String} {value : Json} {place : Str} {f : List (Str × Json) → Except Raised α}
    (h : ∀ fields : Fields names, value = .obj fields.members → Reads floats rest (f fields.members)) :
    Reads floats (.keys value names :: rest) (oracleKeys value names place >>= f) := by
  rw [oracleKeys_eq, bind_map_left]
  exact reads_fields h

theorem memberOf_eq {names : List String} (fields : Fields names) {name : String} (hname : name ∈ names) :
    memberOf fields.members name = .ok (member (.obj fields.members) name) := by
  rw [memberOf, fields.lookup_member hname]

theorem reads_member {names : List String} {fields : Fields names} {name : String} {f : Json → Except Raised α}
    (hname : name ∈ names) (h : Reads floats rest (f (member (.obj fields.members) name))) :
    Reads floats rest (memberOf fields.members name >>= f) := by
  rw [memberOf_eq fields hname]
  exact h

theorem reads_violations (committed : Bool) (invariants : List Json) :
    Reads floats (if committed then invariants.map .boolean else []) (committedViolations committed invariants) := by
  cases committed with
  | false => exact .pure 0
  | true =>
    rw [if_pos rfl, List.map_eq_flatMap, committedViolations, if_pos rfl]
    exact (Reads.mapM invariants fun _ _ => .boolean).map _

theorem reads_core (floatValue : Str → Option ℚ) (evidence : Evidence) (close : List (Str × Json)) :
    Reads floats (recordPlaces corePlaces evidence close)
      (coreEventReplay floatValue evidence close) := by
  refine reads_record fun value => ?_
  simp only [corePlaces, List.flatten_cons, List.flatten_nil, List.cons_append, List.nil_append]
  refine reads_keys fun fields hfields => ?_
  subst hfields
  refine reads_member (by simp [coreKeys]) (reads_list fun invariants hinvariants => ?_)
  refine reads_member (by simp [coreKeys]) (reads_boolean fun committed hcommitted => ?_)
  refine reads_member (by simp [coreKeys]) (reads_list fun _ _ => ?_)
  refine reads_member (by simp [coreKeys]) (reads_member (by simp [coreKeys]) ?_)
  rw [hinvariants, hcommitted]
  rw [isTrue_bool]
  exact Reads.bind (reads_violations committed invariants) fun _ _ => .pure _

theorem coreSha256_ok {value : Json} {place : Str} {digest : Sha256} (h : coreSha256 value place = .ok digest) :
    value = .str digest.val := by
  cases value with
  | str text =>
    by_cases hdigest : Canonical.isSha256 text = true
    · simp only [coreSha256, hdigest, dite_true, Except.ok.injEq] at h
      rw [← h]
    · simp [coreSha256, hdigest, contractError] at h
  | _ => simp [coreSha256, contractError] at h

theorem Reads.sha {value : Json} {place : Str} : Reads floats [.met (isDigest value)] (coreSha256 value place) := by
  cases value with
  | str digest =>
    by_cases hdigest : Canonical.isSha256 digest = true
    · simp only [coreSha256, hdigest, dite_true]
      exact reads_passes _ (by simp [Reading.gate, isDigest, hdigest])
    · simp only [coreSha256, hdigest, Bool.false_eq_true, dite_false]
      exact reads_refuses _ (by simp [Reading.gate, isDigest, hdigest])
  | _ => exact reads_refuses _ rfl

theorem reads_sha {value : Json} {place : Str} {f : Sha256 → Except Raised α}
    (h : ∀ digest : Sha256, value = .str digest.val → Reads floats rest (f digest)) :
    Reads floats (.met (isDigest value) :: rest) (coreSha256 value place >>= f) :=
  Reads.step .sha fun digest hdigest => h digest (coreSha256_ok hdigest)

theorem reads_optional {value : Json} {place : Str} {f : Option ℕ+ → Except Raised α}
    (h : ∀ found : Option ℕ+, (found.isSome = decide (value ≠ .null)) → Reads floats rest (f found)) :
    Reads floats (.met (isSequence value) :: rest) (coreOptionalSequence value place >>= f) := by
  cases value with
  | null => exact Reads.step (reads_passes none rfl) fun found hfound => h found (by cases hfound; rfl)
  | int n =>
    cases n with
    | ofNat n =>
      cases n with
      | zero => exact Reads.step (reads_refuses _ rfl) fun _ hfound => by cases hfound
      | succ n =>
        refine Reads.step (reads_passes (some n.succPNat) ?_) fun found hfound => ?_
        · simp [Reading.gate, isSequence]
        · exact h found (by cases hfound; simp)
    | negSucc n => exact Reads.step (reads_refuses _ rfl) fun _ hfound => by cases hfound
  | _ => exact Reads.step (reads_refuses _ rfl) fun _ hfound => by cases hfound

theorem reads_effect (raw : Json) (place : Str) : Reads floats (effectPlaces raw) (readEffect raw place) := by
  rw [effectPlaces]
  refine reads_keys fun fields hfields => ?_
  subst hfields
  refine reads_member (by simp) ?_
  split
  case h_1 c text hid =>
    rw [hid]
    refine reads_met rfl ?_
    refine reads_member (by simp) (reads_optional fun found hfound => ?_)
    rw [← hfound]
    cases found with
    | none => exact reads_breaks _ rfl
    | some sequence => exact reads_passes _ rfl
  case h_2 hid =>
    refine reads_unmet ?_
    cases hvalue : member (.obj fields.members) "effect_id" with
    | str text =>
      cases text with
      | nil => rfl
      | cons c text => exact absurd hvalue (hid c text)
    | _ => rfl

theorem reads_cancellation (raw : Json) (place : Str) :
    Reads floats (cancellationPlaces raw) (readCancellation raw place) := by
  rw [cancellationPlaces]
  refine reads_keys fun fields hfields => ?_
  subst hfields
  refine reads_member (by simp) (reads_optional fun _ _ => ?_)
  exact reads_member (by simp) (reads_optional fun _ _ => .pure _)

theorem reads_flags {applied committed : Json} {text : Str} {f : Bool → Bool → Except Raised α}
    (h : ∀ a c, Reads floats rest (f a c)) :
    Reads floats (.met (isBoolean applied && isBoolean committed) :: rest)
      (match applied, committed with
        | .bool a, .bool c => f a c
        | _, _ => contractError text) := by
  cases applied with
  | bool a =>
    cases committed with
    | bool c => exact reads_met rfl (h a c)
    | _ => exact reads_unmet rfl
  | _ => exact reads_unmet rfl

theorem reads_receiptFields {receipt : Fields coreReceiptKeys} {place : Str} :
    Reads floats (receiptFieldPlaces (.obj receipt.members)).tail (readReceiptFields receipt.members place) := by
  rw [receiptFieldPlaces, readReceiptFields]
  refine reads_member (by simp [coreReceiptKeys]) (reads_named fun found hfound => ?_)
  rw [← hfound]
  cases found with
  | none => exact reads_unmet rfl
  | some relation =>
    refine reads_met rfl ?_
    refine reads_member (by simp [coreReceiptKeys]) (reads_member (by simp [coreReceiptKeys]) ?_)
    refine reads_flags fun applied committed => ?_
    refine reads_member (by simp [coreReceiptKeys]) (reads_sha fun before _ => ?_)
    exact reads_member (by simp [coreReceiptKeys]) (reads_sha fun after _ => .pure _)

theorem readReceiptFields_ok {receipt : Fields coreReceiptKeys} {place : Str} {found : CoreReceipt}
    (h : readReceiptFields receipt.members place = .ok found) :
    member (.obj receipt.members) "state_after_sha256" = .str found.stateAfterSha256.val := by
  obtain ⟨_, -, h⟩ := bind_ok_iff.mp h
  obtain ⟨relation, -, h⟩ := bind_ok_iff.mp h
  cases relation with
  | none => cases h
  | some relation =>
    obtain ⟨applied, -, h⟩ := bind_ok_iff.mp h
    obtain ⟨committed, -, h⟩ := bind_ok_iff.mp h
    split at h
    · obtain ⟨_, -, h⟩ := bind_ok_iff.mp h
      obtain ⟨before, -, h⟩ := bind_ok_iff.mp h
      obtain ⟨value, hvalue, h⟩ := bind_ok_iff.mp h
      obtain ⟨after, hafter, h⟩ := bind_ok_iff.mp h
      cases h
      rw [memberOf_eq receipt (by simp [coreReceiptKeys]), Except.ok.injEq] at hvalue
      rw [hvalue]
      exact coreSha256_ok hafter
    · cases h

theorem reads_effects (value : Json) (place : Str) : Reads floats (each value effectPlaces) (readEffects value place) := by
  cases value with
  | arr effects =>
    exact Follows.congr (Reads.mapM_indexed effects fun effect => reads_effect effect.1 _) rfl
  | _ => exact .rejects _ rfl rfl

theorem reads_execution (value : Json) (case : CoreCase) (inputSha256 place : Str) :
    Reads floats (executionPlaces inputSha256 value) (normalizeCoreExecution value case inputSha256 place) := by
  simp only [executionPlaces, List.flatten_cons, List.flatten_nil, List.cons_append, List.nil_append]
  refine reads_keys fun fields hfields => ?_
  subst hfields
  refine reads_member (by simp [executionKeys]) (reads_demand fun _ => ?_)
  refine reads_member (by simp [executionKeys]) (reads_sha fun final hfinal => ?_)
  refine reads_member (by simp [executionKeys]) (reads_keys fun receipt hreceipt => ?_)
  rw [hreceipt]
  refine Reads.bind reads_receiptFields fun found hfound => ?_
  rw [readReceiptFields_ok hfound, hfinal, readExecution]
  by_cases hsettled : final = found.stateAfterSha256
  · rw [dif_pos hsettled]
    refine reads_met (by simp [hsettled]) ?_
    simp only [bind_assoc]
    refine reads_member (by simp [executionKeys]) (Reads.bind (reads_effects _ _) fun _ _ => ?_)
    exact reads_member (by simp [executionKeys]) (Reads.bind (reads_cancellation _ _) fun _ _ => .pure _)
  · rw [dif_neg hsettled]
    exact reads_unmet (by simpa [Subtype.ext_iff] using hsettled)

theorem reads_analyzer (analyzer : Analyzer) (parameters : List (Str × Json)) (evidence : Evidence)
    (close : List (Str × Json)) :
    Reads floats (recordPlaces (analyzer.places floats parameters) evidence close)
      (analyzer.analyze floats parameters evidence close) := by
  cases analyzer with
  | coreEventReplay => exact (reads_core _ evidence close).map _
  | schedulerPerformance => exact reads_scheduler evidence close
  | requestServing => exact (reads_serving parameters evidence close).map _
  | mlxFixture => exact reads_mlx evidence close
  | boundedTurn => exact reads_bounded evidence close
  | memoryGovernor => exact reads_memory parameters evidence close
  | crossModelServing => exact reads_cross parameters evidence close
  | observability => exact reads_observability evidence close
  | persistence => exact reads_persistence evidence close
  | ownerLifecycle => exact reads_owner evidence close
  | certification => exact reads_certification parameters evidence close

theorem reads_evidence (laneId : Str) (parameters : List (Str × Json)) (evidence : Evidence)
    (close : List (Str × Json)) :
    Reads floats (evidencePlaces floats laneId parameters evidence close)
      (analyzeLaneEvidence floats laneId parameters evidence close) := by
  rw [evidencePlaces, analyzeLaneEvidence]
  cases analyzerOf laneId with
  | none => exact reads_unmet rfl
  | some analyzer => exact reads_analyzer analyzer parameters evidence close

/-! ## What escapes -/

variable (floats) in
/-- No place breaks the code before it has refused one. -/
def GuardedPlaces (places : List Reading) : Prop := Guarded (places.map (Reading.gate floats))

/-- Evidence is judged or rejected exactly if every place that breaks its oracle comes after a place that the oracle
refuses, and so is an execution that is normalized. -/
theorem evidence_settled_iff (floats : OracleFloats) (laneId : Str) (parameters : List (Str × Json))
    (evidence : Evidence) (close : List (Str × Json)) (value : Json) (case : CoreCase) (inputSha256 place : Str) :
    (Settled isContractError (analyzeLaneEvidence floats laneId parameters evidence close) ↔
      GuardedPlaces floats (evidencePlaces floats laneId parameters evidence close)) ∧
    (Settled isContractError (normalizeCoreExecution value case inputSha256 place) ↔
      GuardedPlaces floats (executionPlaces inputSha256 value)) :=
  ⟨(reads_evidence laneId parameters evidence close).settled_iff,
    (reads_execution value case inputSha256 place).settled_iff⟩

end

/-! ## Evidence that escapes -/

def exactOperation (operation : ℚ → ℚ → ℚ) : PyFloat → PyFloat → PyFloat
  | .finite p, .finite q => .finite (operation p q)
  | _, _ => .nan

/-- Floats that round nothing, as far as floats reach. -/
def unrounded : OracleFloats where
  ofInt n := if n.natAbs < 2 ^ 1024 - 2 ^ 970 then some n else none
  ofToken _ := .nan
  ofText _ := none
  literal q := .finite q
  add := exactOperation (· + ·)
  sub := exactOperation (· - ·)
  mul := exactOperation (· * ·)
  div := exactOperation (· / ·)
  sum qs := .finite qs.sum
  total xs := xs.foldl (exactOperation (· + ·)) (.finite 0)

def escapes {α : Type} (x : Except Raised α) : Bool :=
  match x with
  | .ok _ => false
  | .error e => e.kind ≠ .contractError

theorem not_settled {α : Type} {x : Except Raised α} (h : escapes x = true) : ¬ Settled isContractError x := by
  rintro (⟨a, rfl⟩ | ⟨e, rfl, he⟩)
  · simp [escapes] at h
  · simp [escapes, isContractError] at h he
    exact h he

def emptyDigest : Json := .str (List.replicate 64 (cp 48))

/-- A parity of the kind `[]`. -/
def listedKind : Evidence :=
  [[(lit "record", .obj [
    (lit "parity", .arr [.obj [(lit "kind", .arr []), (lit "expected_sha256", .null), (lit "observed_sha256", .null)]]),
    (lit "owner_thread_id", .null), (lit "execution_thread_ids", .arr []),
    (lit "cross_thread_rejected", .bool true)])]]

/-- A latency that no float holds. -/
def hugeLatency : Evidence :=
  [[(lit "record", .obj [(lit "plan_pairs", .arr []), (lit "decision_latency_us", .arr [.int (10 ^ 400)]),
    (lit "decision_work", .obj [(lit "operations", .int 1), (lit "seconds", .int 1)]),
    (lit "driver_ipc_included", .bool true)])]]

/-- An effect that was published at no sequence. -/
def unpublishedEffect (inputSha256 : Str) : Json :=
  .obj [(lit "input_sha256", .str inputSha256), (lit "final_state_sha256", emptyDigest),
    (lit "receipt", .obj [(lit "sequence_relation", .str (lit "current")), (lit "applied", .bool true),
      (lit "transition_committed", .bool true), (lit "state_before_sha256", emptyDigest),
      (lit "state_after_sha256", emptyDigest)]),
    (lit "published_effects", .arr [.obj [(lit "effect_id", .str (lit "e")), (lit "publication_sequence", .null)]]),
    (lit "cancellation", .obj [(lit "commit_sequence", .null), (lit "terminal_sequence", .null)])]

/-- A `TypeError`, an `OverflowError` and an `AssertionError`. -/
theorem evidence_escapes :
    ¬ Settled isContractError (analyzeLaneEvidence unrounded (lit "mlx-native-correctness") [] listedKind []) ∧
    ¬ Settled isContractError (analyzeLaneEvidence unrounded (lit "scheduler-performance") [] hugeLatency []) ∧
    ¬ Settled isContractError (normalizeCoreExecution (unpublishedEffect []) ⟨lit "case", 1, .completed, .current⟩ []
      (lit "case")) :=
  ⟨not_settled (by decide +kernel), not_settled (by decide +kernel), not_settled (by decide +kernel)⟩

end TurnVector.Lanes
