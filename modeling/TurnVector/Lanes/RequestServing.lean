import Mathlib.Data.List.Nodup
import TurnVector.Lanes.Escapes

/-! # Judging a served request

`merge_production_trace` of the request-serving lane, which takes a production trace over what the client saw, and what
the counters of its oracle say of a merged trace.
-/

namespace TurnVector.Lanes

open Python Json
open LaneController (Raised contractError)
open Canonical (itemAt)
open DataPlane (GenerationResult RequestState)

/-! ## Subsequences -/

section
variable {α : Type} [DecidableEq α]

/-- `any(candidate == item for candidate in iterator)`: what the iterator has left, once the item was found. -/
def advance (item : α) : List α → Option (List α)
  | [] => none
  | candidate :: iterator => if candidate = item then some iterator else advance item iterator

/-- `_is_subsequence` -/
def isSubsequence : List α → List α → Bool
  | [], _ => true
  | item :: observed, iterator =>
    match advance item iterator with
    | none => false
    | some rest => isSubsequence observed rest

theorem advance_some {item : α} {iterator rest : List α} (h : advance item iterator = some rest) :
    (item :: rest).Sublist iterator := by
  induction iterator with
  | nil => simp [advance] at h
  | cons candidate iterator ih =>
    by_cases hfound : candidate = item
    · simp only [advance, hfound, if_true, Option.some.injEq] at h
      rw [h, hfound]
    · simp only [advance, hfound, if_false] at h
      exact (ih h).cons candidate

/-- The iterator stops at the first item that fits, so it leaves as much as any other place would. -/
theorem sublist_advance {item : α} {observed iterator : List α} (h : (item :: observed).Sublist iterator) :
    ∃ rest, advance item iterator = some rest ∧ observed.Sublist rest := by
  induction iterator with
  | nil => cases h
  | cons candidate iterator ih =>
    by_cases hfound : candidate = item
    · refine ⟨iterator, by simp [advance, hfound], ?_⟩
      subst hfound
      exact List.cons_sublist_cons.mp h
    · cases h with
      | cons _ htail =>
        obtain ⟨rest, hrest, hobserved⟩ := ih htail
        exact ⟨rest, by simpa [advance, hfound] using hrest, hobserved⟩
      | cons_cons _ _ => exact absurd rfl hfound

theorem isSubsequence_iff (observed complete : List α) : isSubsequence observed complete = true ↔
    observed.Sublist complete := by
  induction observed generalizing complete with
  | nil => simp [isSubsequence]
  | cons item observed ih =>
    rw [isSubsequence]
    cases hadvance : advance item complete with
    | none =>
      simp only [Bool.false_eq_true, false_iff]
      intro hsub
      obtain ⟨rest, hrest, -⟩ := sublist_advance hsub
      simp [hadvance] at hrest
    | some rest =>
      simp only [ih]
      constructor
      · intro hobserved
        exact (List.cons_sublist_cons.mpr hobserved).trans (advance_some hadvance)
      · intro hsub
        obtain ⟨other, hother, hobserved⟩ := sublist_advance hsub
        rw [hadvance, Option.some.injEq] at hother
        rwa [hother]

end

/-! ## Merging -/

def stateText : RequestState → Str
  | .accepted => lit "accepted"
  | .preparing => lit "preparing"
  | .warming => lit "warming"
  | .admitted => lit "admitted"
  | .materialized => lit "materialized"
  | .queued => lit "queued"
  | .running => lit "running"
  | .terminal => lit "terminal"

/-- An output, as the client and the trace name it. -/
structure TraceOutput where
  publicationId : Str
  sequence : Nat
  reserved : Bool
  deriving DecidableEq

def TraceOutput.toJson (output : TraceOutput) : Json :=
  .obj [(lit "publication_id", .str output.publicationId), (lit "sequence", .int output.sequence),
    (lit "reserved", .bool output.reserved)]

/-- The record that a merged trace hands to the oracle. -/
structure ServingRecord where
  lifecycle : List Str
  outputs : List TraceOutput
  clientEvent : Json
  acceptanceReserved : Bool
  acceptanceBackendHandle : Bool
  cancellationCommitSequence : Option ℕ+
  receiptCommitSequence : Option ℕ+
  disconnectObserved : Bool
  backpressureTimeoutObserved : Bool
  terminalStatusEmitted : Bool

def ServingRecord.toJson (record : ServingRecord) : Json :=
  .obj [(lit "lifecycle", .arr (record.lifecycle.map .str)),
    (lit "outputs", .arr (record.outputs.map TraceOutput.toJson)),
    (lit "client_event", record.clientEvent),
    (lit "acceptance_reserved", .bool record.acceptanceReserved),
    (lit "acceptance_backend_handle", .bool record.acceptanceBackendHandle),
    (lit "cancellation_commit_sequence", optionalJson record.cancellationCommitSequence),
    (lit "receipt_commit_sequence", optionalJson record.receiptCommitSequence),
    (lit "disconnect_observed", .bool record.disconnectObserved),
    (lit "backpressure_timeout_observed", .bool record.backpressureTimeoutObserved),
    (lit "terminal_status_emitted", .bool record.terminalStatusEmitted)]

structure MergedTrace where
  direct : GenerationResult
  productionTrace : Json
  record : ServingRecord

abbrev traceKeys : List String :=
  ["request_id", "lifecycle", "outputs", "cancellation_commit_sequence", "receipt_commit_sequence",
    "disconnect_observed", "backpressure_timeout_observed", "terminal_status_emitted"]

/-- `_positive_sequence` with `optional` -/
def positiveSequence (value : Json) (place : Str) : Except Raised (Option ℕ+) :=
  match value with
  | .null => .ok none
  | .int (.ofNat (n + 1)) => .ok (some n.succPNat)
  | _ => contractError (place ++ lit " must be a positive integer")

def stringOf : Json → Option Str
  | .str text => some text
  | _ => none

def stateTexts : Json → Option (List Str)
  | .arr values => values.mapM stringOf
  | _ => none

/-- The output that the checks on its fields take. -/
def outputOf (id sequence reserved : Json) : Option TraceOutput :=
  match id, sequence, reserved with
  | .str publicationId, .int (.ofNat sequence), .bool reserved => some ⟨publicationId, sequence, reserved⟩
  | _, _, _ => none

def readTraceOutput (caseId : Str) (raw : Json) (index : Nat) : Except Raised TraceOutput := do
  let item ← oracleFields raw outputKeys (itemAt (caseId ++ lit " production outputs") index)
  match outputOf (outputId item) (outputSequence item) (outputReserved item) with
  | some output => return output
  | none => contractError (caseId ++ lit " production output fields are invalid")

def clientOutputs (direct : GenerationResult) : List TraceOutput :=
  direct.outputs.map fun output => ⟨output.publicationId, output.sequence, output.reserved⟩

def clientLifecycle (direct : GenerationResult) : List Str := direct.lifecycle.map stateText

/-- The flags of `direct["accepted"]`. -/
def acceptanceFlags (direct : GenerationResult) : Except Raised (Bool × Bool) :=
  match direct.accepted.content with
  | .directResponse ⟨_, _, .requestAccepted _ _ _ _ reservationCreated backendHandleCreated⟩ =>
    .ok (reservationCreated, backendHandleCreated)
  | _ => keyError (lit "reservation_created")

/-- The event flags, when all are boolean. -/
def eventFlags (disconnect backpressure emitted : Json) : Option (Bool × Bool × Bool) :=
  match disconnect, backpressure, emitted with
  | .bool disconnect, .bool backpressure, .bool emitted => some (disconnect, backpressure, emitted)
  | _, _, _ => none

/-- `_strict_evidence_object` refuses as `_keys` does. -/
def productionTrace (caseId : Str) (production : Json) : Except Raised (Fields traceKeys) := do
  let outer ← oracleFields production ["production_trace"] (caseId ++ lit " production evidence")
  oracleFields (outer.get "production_trace") traceKeys (caseId ++ lit " production trace")

/-- What the trace must hold of what the client saw, and its flags. -/
def readServing (case : PlannedCase) (direct : GenerationResult) (trace : Fields traceKeys) :
    Except Raised ServingRecord := do
  demand (trace.get "request_id" = .str direct.requestId) (case.caseId ++ lit " production trace request ID differs")
  match stateTexts (trace.get "lifecycle") with
  | some lifecycle =>
    demand (isSubsequence (clientLifecycle direct) lifecycle)
      (case.caseId ++ lit " client lifecycle is not present in the production trace")
    match trace.get "outputs" with
    | .arr raws =>
      let outputs ← raws.zipIdx.mapM fun raw => readTraceOutput case.caseId raw.1 raw.2
      demand (isSubsequence (clientOutputs direct) outputs)
        (case.caseId ++ lit " client outputs are not present in the production trace")
      match eventFlags (trace.get "disconnect_observed") (trace.get "backpressure_timeout_observed")
        (trace.get "terminal_status_emitted") with
      | none => contractError (case.caseId ++ lit " production event flags must be boolean")
      | some (disconnect, backpressure, emitted) =>
        let clientEvent ← parameter case "client_event"
        let (reserved, handle) ← acceptanceFlags direct
        let cancellation ← positiveSequence (trace.get "cancellation_commit_sequence")
          (case.caseId ++ lit " cancellation_commit_sequence")
        let receipt ← positiveSequence (trace.get "receipt_commit_sequence")
          (case.caseId ++ lit " receipt_commit_sequence")
        return { lifecycle, outputs, clientEvent, acceptanceReserved := reserved, acceptanceBackendHandle := handle
                 cancellationCommitSequence := cancellation, receiptCommitSequence := receipt
                 disconnectObserved := disconnect, backpressureTimeoutObserved := backpressure
                 terminalStatusEmitted := emitted }
    | _ => contractError (case.caseId ++ lit " production outputs must be an array")
  | none => contractError (case.caseId ++ lit " production lifecycle must be a string array")

/-- `RequestServingLifecycleLaneRunner.merge_production_trace` -/
def mergeProductionTrace (case : PlannedCase) (direct : GenerationResult) (production : Json) :
    Except Raised MergedTrace := do
  let trace ← productionTrace case.caseId production
  let record ← readServing case direct trace
  return ⟨direct, .obj trace.members, record⟩

/-! ## What a merged trace holds -/

theorem oracleList_ok {value : Json} {place : Str} {xs : List Json} (h : oracleList value place = .ok xs) :
    value = .arr xs := by
  cases value with
  | arr items =>
    cases h
    rfl
  | _ => simp [oracleList, contractError] at h

theorem stateTexts_some {value : Json} {lifecycle : List Str} (h : stateTexts value = some lifecycle) :
    value = .arr (lifecycle.map .str) := by
  cases value with
  | arr values =>
    congr 1
    induction values generalizing lifecycle with
    | nil =>
      cases h
      rfl
    | cons state values ih =>
      simp only [stateTexts, List.mapM_cons, Option.bind_eq_bind, Option.bind_eq_some_iff] at h
      obtain ⟨text, htext, texts, htexts, h⟩ := h
      cases h
      rw [List.map_cons, ← ih htexts]
      cases state with
      | str s =>
        cases htext
        rfl
      | _ => cases htext
  | _ => cases h

/-- A raw output and what it was read as. -/
def ReadsAs (raw : Json) (output : TraceOutput) : Prop :=
  member raw "publication_id" = .str output.publicationId ∧ member raw "sequence" = .int output.sequence ∧
    member raw "reserved" = .bool output.reserved

theorem outputOf_some {id sequence reserved : Json} {output : TraceOutput}
    (h : outputOf id sequence reserved = some output) :
    id = .str output.publicationId ∧ sequence = .int output.sequence ∧ reserved = .bool output.reserved := by
  unfold outputOf at h
  split at h
  · cases h
    exact ⟨rfl, rfl, rfl⟩
  · cases h

theorem eventFlags_some {disconnect backpressure emitted : Json} {flags : Bool × Bool × Bool}
    (h : eventFlags disconnect backpressure emitted = some flags) :
    disconnect = .bool flags.1 ∧ backpressure = .bool flags.2.1 ∧ emitted = .bool flags.2.2 := by
  unfold eventFlags at h
  split at h
  · cases h
    exact ⟨rfl, rfl, rfl⟩
  · cases h

theorem readTraceOutput_ok {caseId : Str} {raw : Json} {index : Nat} {output : TraceOutput}
    (h : readTraceOutput caseId raw index = .ok output) : ReadsAs raw output := by
  obtain ⟨item, hitem, h⟩ := bind_ok_iff.mp h
  rw [oracleFields_ok hitem]
  split at h
  case h_1 output' houtput =>
    cases h
    exact outputOf_some houtput
  case h_2 => cases h

/-- What `merge_production_trace` made sure of. -/
structure TraceTaken (direct : GenerationResult) (trace : Json) (record : ServingRecord) : Prop where
  lifecycle : member trace "lifecycle" = .arr (record.lifecycle.map .str)
  outputs : List.Forall₂ ReadsAs (items (member trace "outputs")) record.outputs
  clientLifecycle : (clientLifecycle direct).Sublist record.lifecycle
  clientOutputs : (clientOutputs direct).Sublist record.outputs
  accepted : acceptanceFlags direct = .ok (record.acceptanceReserved, record.acceptanceBackendHandle)
  emitted : member trace "terminal_status_emitted" = .bool record.terminalStatusEmitted

theorem mapM_readTraceOutput {caseId : Str} {raws : List Json} {k : Nat} {outputs : List TraceOutput}
    (h : (raws.zipIdx k).mapM (fun raw => readTraceOutput caseId raw.1 raw.2) = .ok outputs) :
    List.Forall₂ ReadsAs raws outputs := by
  induction raws generalizing k outputs with
  | nil =>
    cases h
    exact .nil
  | cons raw raws ih =>
    rw [List.zipIdx_cons, List.mapM_cons] at h
    obtain ⟨output, houtput, h⟩ := bind_ok_iff.mp h
    obtain ⟨rest, hrest, h⟩ := bind_ok_iff.mp h
    cases h
    exact .cons (readTraceOutput_ok houtput) (ih hrest)

theorem readServing_ok {case : PlannedCase} {direct : GenerationResult} {trace : Fields traceKeys}
    {record : ServingRecord} (h : readServing case direct trace = .ok record) :
    TraceTaken direct (.obj trace.members) record := by
  obtain ⟨_, -, h⟩ := bind_ok_iff.mp h
  split at h
  case h_1 lifecycle hlifecycle =>
    obtain ⟨_, hclient, h⟩ := bind_ok_iff.mp h
    split at h
    case h_1 raws hraws =>
      obtain ⟨outputs, houtputs, h⟩ := bind_ok_iff.mp h
      obtain ⟨_, hpublished, h⟩ := bind_ok_iff.mp h
      split at h
      case h_1 => cases h
      case h_2 disconnect backpressure emitted hflags =>
        obtain ⟨clientEvent, -, h⟩ := bind_ok_iff.mp h
        obtain ⟨accepted, haccepted, h⟩ := bind_ok_iff.mp h
        obtain ⟨cancellation, -, h⟩ := bind_ok_iff.mp h
        obtain ⟨receipt, -, h⟩ := bind_ok_iff.mp h
        cases h
        refine ⟨stateTexts_some hlifecycle, ?_, ?_, ?_, haccepted, (eventFlags_some hflags).2.2⟩
        · rw [show member (.obj trace.members) "outputs" = .arr raws from hraws]
          exact mapM_readTraceOutput houtputs
        · exact (isSubsequence_iff _ _).mp (demand_ok hclient)
        · exact (isSubsequence_iff _ _).mp (demand_ok hpublished)
    case h_2 => cases h
  case h_2 => cases h

theorem mergeProductionTrace_ok {case : PlannedCase} {direct : GenerationResult} {production : Json}
    {merged : MergedTrace} (h : mergeProductionTrace case direct production = .ok merged) :
    merged.productionTrace = member production "production_trace" ∧
      TraceTaken direct (member production "production_trace") merged.record := by
  obtain ⟨trace, htrace, h⟩ := bind_ok_iff.mp h
  obtain ⟨record, hrecord, h⟩ := bind_ok_iff.mp h
  cases h
  obtain ⟨outer, houter, htrace⟩ := bind_ok_iff.mp htrace
  rw [oracleFields_ok houter, show member (.obj outer.members) "production_trace" = .obj trace.members from
    oracleFields_ok htrace]
  exact ⟨rfl, readServing_ok hrecord⟩

/-! ## What the counters say -/

/-- What the oracle asks of a lifecycle. -/
structure LegalLifecycle (lifecycle : List Str) : Prop where
  starts : lifecycle.head? = some (lit "accepted")
  known : ∀ state ∈ lifecycle, state ∈ lifecycleStates
  ordered : lifecycle.Pairwise fun a b => lifecycleStates.idxOf a ≤ lifecycleStates.idxOf b
  admitted : ∀ i : Nat, lifecycle[i]? = some (lit "materialized") → ∃ j < i, lifecycle[j]? = some (lit "admitted")

theorem lookup_zipIdx (xs : List Str) (k : Nat) (s : Str) :
    (xs.zipIdx k).lookup s = if s ∈ xs then some (k + xs.idxOf s) else none := by
  induction xs generalizing k with
  | nil => rfl
  | cons x xs ih =>
    rw [List.zipIdx_cons, lookup_pair, ih]
    by_cases h : s = x
    · simp [h]
    · have hne : x ≠ s := fun heq => h heq.symm
      simp only [h, if_false, List.mem_cons, false_or, List.idxOf_cons_ne _ hne]
      split
      · congr 1
        omega
      · rfl

/-- The rank of a state in the order of the lifecycle. -/
def rankOf (state : Str) : Option Nat :=
  if state ∈ lifecycleStates then some (lifecycleStates.idxOf state) else none

theorem ranks_ok {lifecycle : List Str} {ranks : List (Option Nat)}
    (h : (lifecycle.map Json.str).mapM (namedBy lifecycleOrder) = .ok ranks) : ranks = lifecycle.map rankOf := by
  induction lifecycle generalizing ranks with
  | nil =>
    cases h
    rfl
  | cons state lifecycle ih =>
    rw [List.map_cons, List.mapM_cons] at h
    obtain ⟨rank, hrank, h⟩ := bind_ok_iff.mp h
    obtain ⟨rest, hrest, h⟩ := bind_ok_iff.mp h
    cases h
    rw [List.map_cons, ih hrest]
    congr 1
    cases hrank
    rw [lifecycleOrder, lookup_zipIdx, rankOf, Nat.zero_add]

/-- The running maximum meets no fault exactly if the states are known and their ranks never fall. -/
theorem orderFaults_eq_zero_iff (previous : Int) (lifecycle : List Str) :
    orderFaults previous (lifecycle.map rankOf) = 0 ↔
      (∀ state ∈ lifecycle, state ∈ lifecycleStates ∧ previous ≤ lifecycleStates.idxOf state) ∧
      lifecycle.Pairwise fun a b => lifecycleStates.idxOf a ≤ lifecycleStates.idxOf b := by
  induction lifecycle generalizing previous with
  | nil => simp [orderFaults]
  | cons state lifecycle ih =>
    rw [List.map_cons, rankOf]
    by_cases hknown : state ∈ lifecycleStates
    · rw [if_pos hknown, orderFaults]
      by_cases hlow : (lifecycleStates.idxOf state : Int) < previous
      · rw [if_pos hlow]
        constructor
        · intro h
          omega
        · rintro ⟨hall, -⟩
          have := (hall state List.mem_cons_self).2
          omega
      · rw [if_neg hlow, ih, List.pairwise_cons]
        constructor
        · rintro ⟨hall, hordered⟩
          refine ⟨?_, ?_, hordered⟩
          · rintro s (_ | ⟨_, hs⟩)
            · exact ⟨hknown, by omega⟩
            · have := hall s hs
              exact ⟨this.1, by omega⟩
          · intro s hs
            have := (hall s hs).2
            omega
        · rintro ⟨hall, hfirst, hordered⟩
          refine ⟨fun s hs => ⟨(hall s (List.mem_cons_of_mem _ hs)).1, ?_⟩, hordered⟩
          exact_mod_cast hfirst s hs
    · rw [if_neg hknown, orderFaults]
      constructor
      · intro h
        omega
      · rintro ⟨hall, -⟩
        exact absurd (hall state List.mem_cons_self).1 hknown

theorem startFaults_eq_zero_iff (lifecycle : List Str) :
    startFaults (lifecycle.map .str) = 0 ↔ lifecycle.head? = some (lit "accepted") := by
  rw [startFaults, List.head?_map]
  cases lifecycle.head? with
  | none => simp
  | some state => simp

/-- An item has another one before it wherever it stands, if it has at its first place. -/
theorem preceded_iff {α : Type} [BEq α] [LawfulBEq α] (xs : List α) (a b : α) :
    (∀ i : Nat, xs[i]? = some a → ∃ j < i, xs[j]? = some b) ↔ (a ∈ xs → b ∈ xs ∧ xs.idxOf b < xs.idxOf a) := by
  have htake : ∀ {x : α} {i : Nat}, (∃ j < i, xs[j]? = some x) ↔ x ∈ xs ∧ xs.idxOf x < i := by
    intro x i
    constructor
    · rintro ⟨j, hlt, hj⟩
      have hmem := List.mem_of_getElem? hj
      refine ⟨hmem, ?_⟩
      rw [← List.mem_take_iff_idxOf_lt hmem]
      exact List.mem_of_getElem? (by rwa [List.getElem?_take_of_lt hlt])
    · rintro ⟨hmem, hlt⟩
      exact ⟨xs.idxOf x, hlt, List.getElem?_idxOf hmem⟩
  constructor
  · intro h hmem
    exact htake.mp (h _ (List.getElem?_idxOf hmem))
  · intro h i hi
    obtain ⟨hmem, hfirst⟩ := htake.mp ⟨i, Nat.lt_succ_self i, hi⟩
    obtain ⟨hb, hlt⟩ := h hmem
    exact htake.mpr ⟨hb, by omega⟩

theorem idxOf_map_str (lifecycle : List Str) (state : Str) :
    (lifecycle.map Json.str).idxOf (.str state) = lifecycle.idxOf state := by
  induction lifecycle with
  | nil => rfl
  | cons s lifecycle ih =>
    rw [List.map_cons]
    by_cases h : s = state
    · rw [h, List.idxOf_cons_self, List.idxOf_cons_self]
    · rw [List.idxOf_cons_ne _ h, List.idxOf_cons_ne _ (by simpa using h), ih]

theorem mem_map_str (lifecycle : List Str) (state : Str) : Json.str state ∈ lifecycle.map Json.str ↔ state ∈ lifecycle :=
  List.mem_map_of_injective fun _ _ h => Json.str.inj h

theorem materializedFaults_eq_zero_iff (lifecycle : List Str) :
    materializedFaults (lifecycle.map .str) = 0 ↔
      ∀ i : Nat, lifecycle[i]? = some (lit "materialized") → ∃ j < i, lifecycle[j]? = some (lit "admitted") := by
  have hdistinct : lifecycle.idxOf (lit "materialized") = lifecycle.idxOf (lit "admitted") →
      lit "materialized" ∉ lifecycle := by
    intro heq hmem
    have hfirst := List.getElem?_idxOf hmem
    rw [heq] at hfirst
    by_cases hadmitted : lit "admitted" ∈ lifecycle
    · rw [List.getElem?_idxOf hadmitted, Option.some.injEq] at hfirst
      exact absurd hfirst (by decide)
    · rw [List.idxOf_eq_length hadmitted] at hfirst
      simp at hfirst
  simp only [preceded_iff, materializedFaults, mem_map_str, idxOf_map_str]
  split
  case isTrue h =>
    simp only [one_ne_zero, false_iff]
    intro himp
    obtain ⟨hadmitted, hlt⟩ := himp h.1
    rcases h.2 with hmissing | hbefore
    · exact hmissing hadmitted
    · omega
  case isFalse h =>
    simp only [true_iff]
    intro hmem
    refine ⟨by_contra fun hmissing => h ⟨hmem, .inl hmissing⟩, ?_⟩
    by_contra hle
    by_cases heq : lifecycle.idxOf (lit "materialized") = lifecycle.idxOf (lit "admitted")
    · exact hdistinct heq hmem
    · exact h ⟨hmem, .inr (by omega)⟩

theorem illegalTransitions_eq_zero_iff (lifecycle : List Str) (reserved handle : Bool) :
    illegalTransitions (lifecycle.map .str) (lifecycle.map rankOf) reserved handle = 0 ↔
      LegalLifecycle lifecycle ∧ reserved = false ∧ handle = false := by
  have hflag : ∀ b : Bool, b.toNat = 0 ↔ b = false := by decide
  rw [illegalTransitions]
  simp only [Nat.add_eq_zero_iff, startFaults_eq_zero_iff, orderFaults_eq_zero_iff, materializedFaults_eq_zero_iff,
    hflag]
  constructor
  · rintro ⟨⟨⟨⟨hstarts, hknown, hordered⟩, hadmitted⟩, hreserved⟩, hhandle⟩
    exact ⟨⟨hstarts, fun s hs => (hknown s hs).1, hordered, hadmitted⟩, hreserved, hhandle⟩
  · rintro ⟨h, hreserved, hhandle⟩
    exact ⟨⟨⟨⟨h.starts, fun s hs => ⟨h.known s hs, by omega⟩, h.ordered⟩, h.admitted⟩, hreserved⟩, hhandle⟩

/-- A lifecycle that is legal ends with the terminal state as soon as it has it. -/
theorem LegalLifecycle.ends {lifecycle : List Str} (h : LegalLifecycle lifecycle) :
    lit "terminal" ∈ lifecycle ↔ lifecycle.getLast? = some (lit "terminal") := by
  constructor
  · intro hmem
    obtain ⟨start, last, rfl⟩ := (List.eq_nil_or_concat' lifecycle).resolve_left (List.ne_nil_of_mem hmem)
    rw [List.getLast?_concat, Option.some.injEq]
    rcases List.mem_append.mp hmem with hstart | hlast
    · have hrank := (List.pairwise_append.mp h.ordered).2.2 _ hstart last (List.mem_singleton_self last)
      have hlastState := h.known last (by simp)
      have hhighest : ∀ state ∈ lifecycleStates,
          lifecycleStates.idxOf (lit "terminal") ≤ lifecycleStates.idxOf state → state = lit "terminal" := by decide
      exact hhighest last hlastState hrank
    · exact (List.mem_singleton.mp hlast).symm
  · exact List.mem_of_getLast?

theorem distinctCount_le {α : Type} (same : α → α → Bool) (xs : List α) : distinctCount same xs ≤ xs.length := by
  induction xs with
  | nil => exact Nat.le_refl 0
  | cons x xs ih =>
    rw [distinctCount, List.length_cons]
    split <;> omega

/-- Nothing was counted twice if no two items are the same. -/
theorem distinctCount_eq_iff {α : Type} (same : α → α → Bool) (xs : List α) :
    xs.length - distinctCount same xs = 0 ↔ xs.Pairwise fun x y => same x y = false := by
  induction xs with
  | nil => simp [distinctCount]
  | cons x xs ih =>
    have hle := distinctCount_le same xs
    rw [distinctCount, List.length_cons, List.pairwise_cons, ← ih]
    by_cases hany : xs.any (same x) = true
    · obtain ⟨y, hy, hsame⟩ := List.any_eq_true.mp hany
      rw [if_pos hany]
      constructor
      · intro h
        omega
      · rintro ⟨hall, -⟩
        simp [hall y hy] at hsame
    · rw [if_neg hany]
      have hall : ∀ y ∈ xs, same x y = false := by simpa using hany
      constructor
      · intro h
        exact ⟨hall, by omega⟩
      · rintro ⟨-, h⟩
        omega

/-! ## Judging -/

theorem oracleRecord_single (members : List (Str × Json)) (lane : String) :
    oracleRecord [[(lit "record", .obj members)]] lane = .ok (.obj members) := by
  rw [oracleRecord_eq]
  have hlone : loneRecord [[(lit "record", .obj members)]] = some (.obj members) := by
    have hkeys : sameSet [lit "record"] [lit "record"] = true := by decide
    simp [loneRecord, hkeys]
  rw [hlone]

/-- What the counters of a judged record are computed from. -/
theorem requestServing_ok {floats : OracleFloats} {parameters members : List (Str × Json)} {counters : ServingCounters}
    (h : requestServing floats parameters [[(lit "record", .obj members)]] [] = .ok counters) :
    ∃ lifecycle ranks reserved handle raws publications emitted,
      member (.obj members) "lifecycle" = .arr lifecycle ∧ lifecycle.mapM (namedBy lifecycleOrder) = .ok ranks ∧
      member (.obj members) "acceptance_reserved" = .bool reserved ∧
      member (.obj members) "acceptance_backend_handle" = .bool handle ∧
      member (.obj members) "outputs" = .arr raws ∧
      publications.map (fun p => (p.publicationId, p.sequence)) =
        raws.map (fun raw => (member raw "publication_id", member raw "sequence")) ∧
      member (.obj members) "terminal_status_emitted" = .bool emitted ∧
      counters.illegalLifecycleTransitions = illegalTransitions lifecycle ranks reserved handle ∧
      counters.duplicateOutputPublications = duplicatePublications floats publications ∧
      counters.missingTerminalStatus = missingTerminal lifecycle emitted := by
  obtain ⟨_, -, h⟩ := bind_ok_iff.mp h
  obtain ⟨record, hrecord, h⟩ := bind_ok_iff.mp h
  rw [oracleRecord_single, Except.ok.injEq] at hrecord
  subst hrecord
  obtain ⟨fields, hfields, h⟩ := bind_ok_iff.mp h
  rw [oracleFields_ok hfields]
  obtain ⟨_, -, h⟩ := bind_ok_iff.mp h
  obtain ⟨lifecycle, hlifecycle, h⟩ := bind_ok_iff.mp h
  obtain ⟨ranks, hranks, h⟩ := bind_ok_iff.mp h
  obtain ⟨reserved, hreserved, h⟩ := bind_ok_iff.mp h
  obtain ⟨handle, hhandle, h⟩ := bind_ok_iff.mp h
  obtain ⟨publications, hpublications, h⟩ := bind_ok_iff.mp h
  obtain ⟨raws, hraws, hpublications⟩ := bind_ok_iff.mp hpublications
  obtain ⟨_, -, h⟩ := bind_ok_iff.mp h
  obtain ⟨emitted, hemitted, h⟩ := bind_ok_iff.mp h
  obtain ⟨_, -, h⟩ := bind_ok_iff.mp h
  obtain ⟨_, -, h⟩ := bind_ok_iff.mp h
  obtain ⟨_, -, h⟩ := bind_ok_iff.mp h
  obtain ⟨_, -, h⟩ := bind_ok_iff.mp h
  split at h
  case h_1 => cases h
  case h_2 =>
    cases h
    refine ⟨lifecycle, ranks, reserved, handle, raws, publications, emitted, oracleList_ok hlifecycle, hranks,
      oracleBoolean_ok hreserved, oracleBoolean_ok hhandle, oracleList_ok hraws, ?_, oracleBoolean_ok hemitted,
      rfl, rfl, rfl⟩
    refine mapM_kept (fun raw publication hread => ?_) hpublications
    obtain ⟨output, houtput, hread⟩ := bind_ok_iff.mp hread
    obtain ⟨_, -, hread⟩ := bind_ok_iff.mp hread
    cases hread
    rw [oracleFields_ok houtput]
    rfl

theorem sameItem_str (floats : OracleFloats) (s t : Str) : sameItem floats (.str s) (.str t) = decide (s = t) := by
  rw [sameItem, pyEq, Bool.eq_iff_iff, decide_eq_true_eq, decide_eq_true_eq, Json.str.injEq]
  exact eq_comm

theorem sameItem_int (floats : OracleFloats) (m n : Int) : sameItem floats (.int m) (.int n) = decide (m = n) := by
  simp [sameItem, pyEq, sameNumber, numberOf]

/-- Two publications are one if they have the same ID and the same sequence. -/
theorem duplicates_eq_zero_iff {floats : OracleFloats} {publications : List Publication} {outputs : List TraceOutput}
    (h : publications.map (fun p => (p.publicationId, p.sequence)) =
      outputs.map fun output => (Json.str output.publicationId, Json.int output.sequence)) :
    duplicatePublications floats publications = 0 ↔
      (outputs.map fun output => (output.publicationId, output.sequence)).Nodup := by
  let differs := fun p q : Json × Json => (sameItem floats p.1 q.1 && sameItem floats p.2 q.2) = false
  have hpublications : (publications.Pairwise fun p q => samePublication floats p q = false) ↔
      (publications.map fun p => (p.publicationId, p.sequence)).Pairwise differs := by
    simp only [List.pairwise_map, differs, samePublication]
  rw [duplicatePublications, distinctCount_eq_iff, hpublications, h, List.Nodup, List.pairwise_map, List.pairwise_map]
  have hdiffers : ∀ x y : TraceOutput, differs (.str x.publicationId, .int x.sequence)
      (.str y.publicationId, .int y.sequence) ↔ (x.publicationId, x.sequence) ≠ (y.publicationId, y.sequence) := by
    intro x y
    simp [differs, sameItem_str, sameItem_int]
  simp only [hdiffers]

theorem missingTerminal_eq_zero_iff (lifecycle : List Str) (emitted : Bool) :
    missingTerminal (lifecycle.map .str) emitted = 0 ↔ emitted = true ∧ lit "terminal" ∈ lifecycle := by
  rw [missingTerminal]
  split
  case isTrue h =>
    rw [mem_map_str] at h
    simp only [one_ne_zero, false_iff, not_and]
    rintro rfl hmem
    simp [hmem] at h
  case isFalse h =>
    rw [mem_map_str, not_or, Bool.not_eq_false, not_not] at h
    simpa using h

theorem outputs_json (outputs : List TraceOutput) :
    (outputs.map TraceOutput.toJson).map (fun raw => (member raw "publication_id", member raw "sequence")) =
      outputs.map fun output => (Json.str output.publicationId, Json.int output.sequence) := by
  rw [List.map_map]
  rfl

/-- The counters of a merged trace. -/
theorem served_request_judged (floats : OracleFloats) (case : PlannedCase) (direct : GenerationResult)
    (production : Json) (merged : MergedTrace) (counters : ServingCounters)
    (hmerge : mergeProductionTrace case direct production = .ok merged)
    (hjudge : requestServing floats case.parameters [[(lit "record", merged.record.toJson)]] [] = .ok counters) :
    TraceTaken direct (member production "production_trace") merged.record ∧
    (counters.illegalLifecycleTransitions = 0 ↔ LegalLifecycle merged.record.lifecycle ∧
      merged.record.acceptanceReserved = false ∧ merged.record.acceptanceBackendHandle = false) ∧
    (counters.duplicateOutputPublications = 0 ↔
      (merged.record.outputs.map fun output => (output.publicationId, output.sequence)).Nodup) ∧
    (counters.missingTerminalStatus = 0 ↔
      merged.record.terminalStatusEmitted = true ∧ lit "terminal" ∈ merged.record.lifecycle) ∧
    (counters.illegalLifecycleTransitions = 0 → (counters.missingTerminalStatus = 0 ↔
      merged.record.terminalStatusEmitted = true ∧
        merged.record.lifecycle.getLast? = some (lit "terminal"))) := by
  obtain ⟨lifecycle, ranks, reserved, handle, raws, publications, emitted, hlifecycle, hranks, hreserved, hhandle,
    hraws, hpublications, hemitted, hillegal, hduplicates, hmissing⟩ := requestServing_ok hjudge
  obtain rfl : merged.record.lifecycle.map Json.str = lifecycle := Json.arr.inj hlifecycle
  obtain rfl : merged.record.acceptanceReserved = reserved := Json.bool.inj hreserved
  obtain rfl : merged.record.acceptanceBackendHandle = handle := Json.bool.inj hhandle
  obtain rfl : merged.record.outputs.map TraceOutput.toJson = raws := Json.arr.inj hraws
  obtain rfl : merged.record.terminalStatusEmitted = emitted := Json.bool.inj hemitted
  rw [ranks_ok hranks] at hillegal
  rw [outputs_json] at hpublications
  have hlegal : counters.illegalLifecycleTransitions = 0 ↔ LegalLifecycle merged.record.lifecycle ∧
      merged.record.acceptanceReserved = false ∧ merged.record.acceptanceBackendHandle = false := by
    rw [hillegal, illegalTransitions_eq_zero_iff]
  have hterminal : counters.missingTerminalStatus = 0 ↔
      merged.record.terminalStatusEmitted = true ∧ lit "terminal" ∈ merged.record.lifecycle := by
    rw [hmissing, missingTerminal_eq_zero_iff]
  refine ⟨(mergeProductionTrace_ok hmerge).2, hlegal, ?_, hterminal, fun hzero => ?_⟩
  · rw [hduplicates, duplicates_eq_zero_iff hpublications]
  · rw [hterminal, (hlegal.mp hzero).1.ends]

/-! ## Served requests -/

def servedCase : PlannedCase where
  caseId := lit "case"
  laneId := lit "request-serving-lifecycle"
  matrixId := lit "matrix"
  ordinal := 1
  parameters := [(lit "client_event", .str (lit "none"))]
  behaviorCaseIds := []
  operations := []
  diagnosticOnly := false

def servedRequest : GenerationResult where
  requestId := lit "request"
  clientEvent := .none
  lifecycle := [.accepted, .terminal]
  outputs := [⟨lit "p", 0, true, [1], 2⟩]
  accepted := ⟨.directResponse ⟨1, false, .requestAccepted (lit "request") (lit "m") 1 .accepted false false⟩, 1, 1⟩
  cancellation := none
  terminalStatusObserved := true
  connectionDisconnected := false
  generatedTokenIds := [1]
  protocolTrace := []
  requestStartedNs := 0
  wallStartedNs := 0
  wallFinishedNs := 3

def tracedRequest (lifecycle : List String) (outputs : List TraceOutput) (emitted : Bool) : Json :=
  .obj [(lit "production_trace", .obj [(lit "request_id", .str (lit "request")),
    (lit "lifecycle", .arr (lifecycle.map fun state => .str (lit state))),
    (lit "outputs", .arr (outputs.map TraceOutput.toJson)),
    (lit "cancellation_commit_sequence", .null), (lit "receipt_commit_sequence", .int 1),
    (lit "disconnect_observed", .bool false), (lit "backpressure_timeout_observed", .bool false),
    (lit "terminal_status_emitted", .bool emitted)])]

/-- Merges the trace and judges it. -/
def judged (production : Json) : Except Raised (ServingRecord × ServingCounters) := do
  let merged ← mergeProductionTrace servedCase servedRequest production
  let counters ← requestServing unrounded servedCase.parameters [[(lit "record", merged.record.toJson)]] []
  return (merged.record, counters)

theorem served_request_judged_sample : ∃ merged counters,
    mergeProductionTrace servedCase servedRequest
      (tracedRequest ["accepted", "admitted", "terminal"] [⟨lit "p", 0, true⟩, ⟨lit "q", 1, true⟩] true) = .ok merged ∧
    requestServing unrounded servedCase.parameters [[(lit "record", merged.record.toJson)]] [] = .ok counters ∧
    (counters.illegalLifecycleTransitions = 0 ↔ LegalLifecycle merged.record.lifecycle ∧
      merged.record.acceptanceReserved = false ∧ merged.record.acceptanceBackendHandle = false) := by
  obtain ⟨both, hboth⟩ := ok_of_isSome (judged
    (tracedRequest ["accepted", "admitted", "terminal"] [⟨lit "p", 0, true⟩, ⟨lit "q", 1, true⟩] true))
    (by decide +kernel)
  obtain ⟨merged, hmerged, hboth⟩ := bind_ok_iff.mp hboth
  obtain ⟨counters, hcounters, -⟩ := bind_ok_iff.mp hboth
  exact ⟨merged, counters, hmerged, hcounters,
    (served_request_judged unrounded servedCase servedRequest _ merged counters hmerged hcounters).2.1⟩

/-- One publication ID stands in two outputs and the request goes on after its terminal state, and no counter of these
says so; and a request that ended is counted as one that misses its end. -/
theorem served_request_unjudged :
    (∃ record counters, judged (tracedRequest ["accepted", "terminal", "running"]
        [⟨lit "p", 0, true⟩, ⟨lit "p", 1, true⟩] true) = .ok (record, counters) ∧
      counters.duplicateOutputPublications = 0 ∧ ¬ (record.outputs.map (·.publicationId)).Nodup ∧
      counters.missingTerminalStatus = 0 ∧ record.lifecycle.getLast? ≠ some (lit "terminal")) ∧
    ∃ record counters, judged (tracedRequest ["accepted", "terminal"] [⟨lit "p", 0, true⟩] false) =
        .ok (record, counters) ∧
      counters.missingTerminalStatus = 1 ∧ record.lifecycle.getLast? = some (lit "terminal") := by
  constructor
  · obtain ⟨⟨record, counters⟩, h⟩ := ok_of_isSome (judged (tracedRequest ["accepted", "terminal", "running"]
      [⟨lit "p", 0, true⟩, ⟨lit "p", 1, true⟩] true)) (by decide +kernel)
    have hfacts : ∀ r ∈ (judged (tracedRequest ["accepted", "terminal", "running"]
        [⟨lit "p", 0, true⟩, ⟨lit "p", 1, true⟩] true)).toOption,
        r.2.duplicateOutputPublications = 0 ∧ ¬ (r.1.outputs.map (·.publicationId)).Nodup ∧
        r.2.missingTerminalStatus = 0 ∧ r.1.lifecycle.getLast? ≠ some (lit "terminal") := by decide +kernel
    exact ⟨record, counters, h, hfacts _ (by rw [h]; rfl)⟩
  · obtain ⟨⟨record, counters⟩, h⟩ := ok_of_isSome (judged
      (tracedRequest ["accepted", "terminal"] [⟨lit "p", 0, true⟩] false)) (by decide +kernel)
    have hfacts : ∀ r ∈ (judged (tracedRequest ["accepted", "terminal"] [⟨lit "p", 0, true⟩] false)).toOption,
        r.2.missingTerminalStatus = 1 ∧ r.1.lifecycle.getLast? = some (lit "terminal") := by decide +kernel
    exact ⟨record, counters, h, hfacts _ (by rw [h]; rfl)⟩

end TurnVector.Lanes
