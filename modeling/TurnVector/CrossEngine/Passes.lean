import TurnVector.CrossEngine.Controller
import TurnVector.CrossEngine.Custody

/-! # One cell of a run

What a pass of the loop does, and where the loop ends.
-/

namespace TurnVector.CrossEngine

open Python Json

/-! ## One append -/

/-- `time.monotonic_ns` -/
structure Monotonic (clock : Nat → Int) : Prop where
  nonneg : 0 ≤ clock 0
  monotone : Monotone clock

theorem fine_succeeds (length : Nat) : Disk.fine.succeeds length = true := by
  simp [Disk.succeeds, Disk.fine, Disk.writeAll, Disk.count, raiseSome, Except.toOption]

theorem append_fine (arguments : AttemptArguments) (ledger : AttemptLedger) (record : AttemptRecord) (line : Bytes)
    (h : ledger.prepare arguments = .ok (record, line)) :
    ∃ file, Method.call (AttemptLedger.append Disk.fine arguments) ledger =
      (.ok record, { ledger with file := file, records := ledger.records ++ [record] }) := by
  rcases AttemptLedger.append_prepared Disk.fine arguments ledger record line h with ⟨-, hcall⟩ | ⟨hfailed, -⟩
  · exact ⟨_, hcall⟩
  · rw [fine_succeeds] at hfailed
    cases hfailed

theorem identifier_fits (value place : Str) (h : isBenchmarkIdentifier value = true) : identifier value place = .ok () := by
  unfold identifier
  rw [if_pos h]

theorem nonnegativeInteger_fits (value : Int) (place : Str) (h : 0 ≤ value) : nonnegativeInteger value place = .ok () := by
  unfold nonnegativeInteger
  rw [if_pos h]

/-- What makes a record pass its checks. -/
structure Proper (record : AttemptRecord) : Prop where
  cell : isBenchmarkIdentifier record.cellId = true
  status : record.status ∈ attemptStatuses
  reason : ∀ reason ∈ record.reasonCode, isBenchmarkIdentifier reason = true
  retry : ∀ retryOf ∈ record.retryOf, 0 ≤ retryOf ∧ retryOf < record.attemptOrdinal
  started : 0 ≤ record.startedMonotonicNs
  finished : record.startedMonotonicNs ≤ record.finishedMonotonicNs

theorem check_proper (record : AttemptRecord) (h : Proper record) : record.check = .ok () := by
  have hretry : record.checkRetryOf = .ok () := by
    unfold AttemptRecord.checkRetryOf
    rcases hof : record.retryOf with _ | retryOf
    · rfl
    · have hbounds := h.retry retryOf hof
      dsimp only
      rw [nonnegativeInteger_fits _ _ hbounds.1]
      have hearlier : ¬ retryOf ≥ (record.attemptOrdinal : Int) := by omega
      simp [hearlier, bind, Except.bind, pure, Except.pure]
  have hreason : (record.reasonCode.forM fun reasonCode => identifier reasonCode (lit "AttemptRecord.reason_code")) =
      .ok () := by
    rcases hcode : record.reasonCode with _ | reason
    · rfl
    · exact identifier_fits reason _ (h.reason reason hcode)
  have hstatus : occurs record.status attemptStatuses = true := (occurs_iff _ _).mpr h.status
  have horder : ¬ record.finishedMonotonicNs < record.startedMonotonicNs := by
    have := h.finished
    omega
  unfold AttemptRecord.check
  rw [identifier_fits _ _ h.cell, hreason, hretry, nonnegativeInteger_fits _ _ h.started,
    nonnegativeInteger_fits _ _ (h.started.trans h.finished)]
  simp [hstatus, horder, bind, Except.bind, pure, Except.pure]

/-- A text that a JSON file can hold. -/
def Encodable (text : Str) : Prop := hasSurrogate text = false

theorem encodable_ascii (text : Str) (h : isAscii text = true) : Encodable text := by
  simp only [Encodable, hasSurrogate, List.any_eq_false]
  intro c hc hs
  exact not_mem_ascii hs text h hc

theorem encodable_identifier (text : Str) (h : isBenchmarkIdentifier text = true) : Encodable text := by
  simp only [isBenchmarkIdentifier, Bool.and_eq_true] at h
  apply encodable_ascii
  simp only [isAscii, List.all_eq_true, decide_eq_true_eq]
  intro c hc
  have := Relations.identifierChar_bounds c (Relations.identifier_chars text h.1 c hc)
  omega

/-- A proper record has a line when its details have. -/
theorem encoded_ok_iff (record : AttemptRecord) (h : Proper record) :
    (∃ line, record.encoded = .ok line) ↔ ∀ text ∈ memberTexts record.details, Encodable text := by
  have hline : (∃ line, record.encoded = .ok line) ↔ ∃ bytes, record.asDict.dumpsUtf8 = .ok bytes := by
    unfold AttemptRecord.encoded
    simp only [bind_ok_iff, pure, Except.pure, Except.ok.injEq]
    constructor
    · rintro ⟨_, bytes, hbytes, rfl⟩
      exact ⟨bytes, hbytes⟩
    · rintro ⟨bytes, hbytes⟩
      exact ⟨_, bytes, hbytes, rfl⟩
  have hstatus : Encodable record.status := by
    have hall : ∀ status ∈ attemptStatuses, isAscii status = true := by decide
    exact encodable_ascii _ (hall _ h.status)
  have hreason : ∀ text ∈ textsOf (record.reasonCode.elim .null .str), Encodable text := by
    rcases hcode : record.reasonCode with _ | reason
    · simp [textsOf]
    · simpa [textsOf] using encodable_identifier reason (h.reason reason hcode)
  have hretry : textsOf (record.retryOf.elim .null .int) = [] := by
    rcases record.retryOf with _ | retryOf
    · rfl
    · rfl
  have hkeys : ∀ key ∈ [lit "attempt_ordinal", lit "cell_id", lit "status", lit "reason_code", lit "retry_of",
      lit "eligible_for_primary", lit "started_monotonic_ns", lit "finished_monotonic_ns", lit "details"],
      isAscii key = true := by decide
  have hkey := fun key hmem => encodable_ascii key (hkeys key hmem)
  have hcell := encodable_identifier record.cellId h.cell
  rw [hline, dumpsUtf8_ok_iff]
  unfold AttemptRecord.asDict
  simp only [List.forall_mem_cons] at hkey
  simp only [textsOf, memberTexts, hretry, List.forall_mem_append, List.forall_mem_cons, List.cons_append,
    List.nil_append, List.append_nil]
  unfold Encodable at *
  simp only [hkey, hstatus, hcell, true_and]
  simpa using fun _ => hreason

/-! ## One pass -/

/-- What a run keeps: the custody of the attempts, under the codes of the campaign. -/
structure Kept (codes : List Str) (ledger : AttemptLedger) : Prop where
  codes : ledger.retryableReasonCodes = codes
  limit : ledger.maxAttemptsPerCell = 2
  custody : AttemptLedger.Custody ledger

/-- The cell may be attempted, for the first time or after the attempt that `retryOf` names. -/
def Allowed (cell : CampaignCell) (retryOf : Option Int) (ledger : AttemptLedger) : Prop :=
  (ledger.recordsOf cell.cellId = [] ∧ retryOf = none) ∨
  ∃ previous, ledger.recordsOf cell.cellId = [previous] ∧ ledger.canRetry previous = true ∧
    retryOf = some (previous.attemptOrdinal : Int)

/-- One more attempt of the cell. -/
structure Adds (codes : List Str) (cell : CampaignCell) (status : Str) (reasonCode : Option Str)
    (before after : AttemptLedger) (record : AttemptRecord) : Prop where
  records : after.records = before.records ++ [record]
  cell : record.cellId = cell.cellId
  ordinal : record.attemptOrdinal = before.records.length
  status : record.status = status
  reason : record.reasonCode = reasonCode
  kept : Kept codes after

theorem ordinal_lt (ledger : AttemptLedger) (h : AttemptLedger.Custody ledger) (record : AttemptRecord)
    (hmem : record ∈ ledger.records) : record.attemptOrdinal < ledger.records.length := by
  have hrange : record.attemptOrdinal ∈ ledger.records.map (·.attemptOrdinal) := List.mem_map.mpr ⟨record, hmem, rfl⟩
  rwa [h.ordinals, List.mem_range] at hrange

theorem checkRetry_allowed (arguments : AttemptArguments) (cell : CampaignCell) (ledger : AttemptLedger)
    (hcell : arguments.cellId = cell.cellId) (h : Allowed cell arguments.retryOf ledger) :
    ledger.checkRetry arguments = .ok () := by
  unfold AttemptLedger.checkRetry
  rw [hcell]
  rcases h with ⟨hnil, hof⟩ | ⟨previous, hone, hcan, hof⟩
  · simp [hnil, hof]
  · simp [hone, hcan, hof]

section
variable (env : Surroundings) {codes : List Str} {cell : CampaignCell} (locals : CellLocals) (state : RunState)

/-- An append adds the attempt, or its details cannot be encoded. -/
theorem append_spec (hkept : Kept codes state.ledger) (hallowed : Allowed cell locals.retryOf state.ledger)
    (startedNs : Int) (status : Str) (reasonCode : Option Str) (details : Option (List (Str × Json)))
    (hstatus : status ∈ attemptStatuses) (hreason : ∀ reason ∈ reasonCode, isBenchmarkIdentifier reason = true)
    (hstart : 0 ≤ startedNs) (hfinish : startedNs ≤ env.clock state.reads) :
    ((∀ text ∈ memberTexts (details.getD []), Encodable text) ∧ ∃ after record,
      Adds codes cell status reasonCode state.ledger after record ∧
        env.append cell locals startedNs status reasonCode details state = (.ok record, ⟨after, state.reads + 1⟩)) ∨
    ((¬ ∀ text ∈ memberTexts (details.getD []), Encodable text) ∧
      ∃ e after, env.append cell locals startedNs status reasonCode details state = (.error e, after)) := by
  let arguments : AttemptArguments :=
    { cellId := cell.cellId, status, reasonCode, startedMonotonicNs := startedNs,
      finishedMonotonicNs := env.clock state.reads, retryOf := locals.retryOf, details }
  have hretry := checkRetry_allowed arguments cell state.ledger rfl hallowed
  have hproper : Proper (state.ledger.recordOf arguments) := by
    refine ⟨cell.identified, hstatus, hreason, ?_, hstart, hfinish⟩
    intro retryOf hof
    have hof : locals.retryOf = some retryOf := hof
    rcases hallowed with ⟨-, hnone⟩ | ⟨previous, hone, -, hsome⟩
    · rw [hnone] at hof
      cases hof
    · rw [hsome] at hof
      cases hof
      have hmem : previous ∈ state.ledger.recordsOf cell.cellId := by simp [hone]
      have hlt := ordinal_lt state.ledger hkept.custody previous (List.mem_filter.mp hmem).1
      have hordinal : (state.ledger.recordOf arguments).attemptOrdinal = state.ledger.records.length := rfl
      rw [hordinal]
      omega
  have hencoded := encoded_ok_iff _ hproper
  have happend : env.append cell locals startedNs status reasonCode details state =
      ((Method.call (AttemptLedger.append Disk.fine arguments) state.ledger).1,
        ⟨(Method.call (AttemptLedger.append Disk.fine arguments) state.ledger).2, state.reads + 1⟩) := rfl
  have hprepare : state.ledger.prepare arguments =
      (state.ledger.recordOf arguments).encoded >>= fun line => .ok (state.ledger.recordOf arguments, line) := by
    unfold AttemptLedger.prepare
    rw [identifier_fits _ _ cell.identified, hretry]
    dsimp only [bind, Except.bind]
    rw [check_proper _ hproper]
    rfl
  by_cases hfits : ∀ text ∈ memberTexts (details.getD []), Encodable text
  · left
    obtain ⟨line, hline⟩ := hencoded.mpr hfits
    rw [hline] at hprepare
    obtain ⟨file, hcall⟩ := append_fine arguments state.ledger _ line hprepare
    refine ⟨hfits, _, _, ?_, by rw [happend, hcall]⟩
    refine ⟨rfl, rfl, rfl, rfl, rfl, hkept.codes, hkept.limit, ?_⟩
    exact AttemptLedger.custody_append state.ledger arguments file hkept.custody (by rw [hkept.limit]; omega) hretry
  · right
    cases hline : (state.ledger.recordOf arguments).encoded with
    | ok line => exact absurd (hencoded.mp ⟨line, hline⟩) hfits
    | error e =>
      rw [hline] at hprepare
      refine ⟨hfits, e, ⟨state.ledger, state.reads + 1⟩, ?_⟩
      rw [happend, AttemptLedger.append_refused Disk.fine arguments state.ledger e hprepare]

theorem recordsOf_adds {status : Str} {reasonCode : Option Str} {before after : AttemptLedger} {record : AttemptRecord}
    (h : Adds codes cell status reasonCode before after record) (cellId : Str) :
    after.recordsOf cellId = before.recordsOf cellId ++ if cell.cellId = cellId then [record] else [] := by
  unfold AttemptLedger.recordsOf
  rw [h.records, List.filter_append]
  by_cases hid : cell.cellId = cellId
  · simp [h.cell, hid]
  · simp [h.cell, hid]

/-- Only a first attempt can be followed by another. -/
theorem canRetry_adds {status : Str} {reasonCode : Option Str} {before after : AttemptLedger} {record : AttemptRecord}
    (h : Adds codes cell status reasonCode before after record) (hlast : (before.recordsOf cell.cellId).length ≤ 1) :
    after.canRetry record = (after.isRetryReason status reasonCode && (before.recordsOf cell.cellId).isEmpty) := by
  have hrecords := recordsOf_adds h cell.cellId
  have heligible := h.kept.custody.eligible record (by simp [h.records])
  unfold AttemptLedger.canRetry AttemptLedger.primaryAttempt
  rw [h.cell, hrecords, h.kept.limit, h.status, h.reason]
  rw [h.status, h.reason] at heligible
  rcases hbefore : before.recordsOf cell.cellId with _ | ⟨previous, rest⟩
  · cases hretry : after.isRetryReason status reasonCode
    · simp
    · simp [heligible, hretry]
  · rw [hbefore, List.length_cons] at hlast
    have hrest : rest = [] := List.eq_nil_of_length_eq_zero (by omega)
    simp [hrest]

end

namespace AttemptOutcome

/-- The status of the attempt in the ledger. -/
def status : AttemptOutcome → Str
  | .returned _ _ => lit "completed"
  | .retryable error => error.status
  | .raised _ => lit "runtime_error"

def reasonCode : AttemptOutcome → Option Str
  | .returned _ _ => none
  | .retryable error => some error.reasonCode
  | .raised _ => some cellExecutionFailed

/-- The attempt can be written down: what is kept of its message holds no surrogate. -/
def Recordable : AttemptOutcome → Prop
  | .returned _ _ => True
  | .retryable error => Encodable (error.message.take 1024)
  | .raised message => Encodable (message.take 1024)

/-- A frozen reason of the campaign allows another attempt. -/
def retries (codes : List Str) : AttemptOutcome → Bool
  | .retryable error => occurs error.reasonCode codes
  | _ => false

/-- A reason code that the ledger takes. -/
def Coded (outcome : AttemptOutcome) : Prop :=
  ∀ error, outcome = .retryable error → isBenchmarkIdentifier error.reasonCode = true

/-- The locals of a cell that ends with this outcome. -/
def ended (locals : CellLocals) : AttemptOutcome → CellLocals
  | .returned observations diagnostics =>
    { locals with observations, diagnostics, executionStatus := lit "completed" }
  | .retryable error =>
    { locals with
      reason := some error.reasonCode
      contractStatus := if error.status = lit "contract_invalid" then lit "invalid" else lit "valid" }
  | .raised message =>
    { locals with
      reason := some cellExecutionFailed
      diagnostics := [[(lit "kind", cellExecutionFailed), (lit "message", message.take 1024)]] }

theorem status_mem (outcome : AttemptOutcome) : outcome.status ∈ attemptStatuses := by
  cases outcome with
  | returned observations diagnostics => exact (by decide : lit "completed" ∈ attemptStatuses)
  | raised message => exact (by decide : lit "runtime_error" ∈ attemptStatuses)
  | retryable error =>
    have hall : ∀ status ∈ retryableStatuses, status ∈ attemptStatuses := by decide
    exact hall _ error.registered

theorem isRetryReason_eq (outcome : AttemptOutcome) (ledger : AttemptLedger) :
    ledger.isRetryReason outcome.status outcome.reasonCode = outcome.retries ledger.retryableReasonCodes := by
  unfold AttemptLedger.isRetryReason
  cases outcome with
  | returned observations diagnostics => simp [status, reasonCode, retries]
  | raised message =>
    have hstatus : occurs (lit "runtime_error") retryableStatuses = false := by decide
    simp [status, retries, hstatus]
  | retryable error =>
    have hstatus : occurs error.status retryableStatuses = true := (occurs_iff _ _).mpr error.registered
    simp [status, reasonCode, retries, hstatus]

end AttemptOutcome

section
variable (env : Surroundings) {codes : List Str} {cell : CampaignCell} (locals : CellLocals) (state : RunState)

theorem details_encodable (message : Str) :
    (∀ text ∈ memberTexts ((some (details message)).getD []), Encodable text) ↔ Encodable (message.take 1024) := by
  have hkey : Encodable (lit "message") := encodable_ascii _ (by decide)
  simp [details, memberTexts, textsOf, hkey]

theorem failed_spec (hkept : Kept codes state.ledger) (hallowed : Allowed cell locals.retryOf state.ledger)
    (startedNs : Int) (message : Str) (hstart : 0 ≤ startedNs) (hfinish : startedNs ≤ env.clock state.reads) :
    (Encodable (message.take 1024) ∧ ∃ after record,
      Adds codes cell (lit "runtime_error") (some cellExecutionFailed) state.ledger after record ∧
        env.failed cell locals startedNs message state =
          .ok (false, (AttemptOutcome.raised message).ended locals, ⟨after, state.reads + 1⟩)) ∨
    (¬ Encodable (message.take 1024) ∧ ∃ e, env.failed cell locals startedNs message state = .error e) := by
  have hreason : ∀ reason ∈ some cellExecutionFailed, isBenchmarkIdentifier reason = true := by decide
  have hspec := append_spec env locals state hkept hallowed startedNs (lit "runtime_error") (some cellExecutionFailed)
    (some (details message)) (by decide) hreason hstart hfinish
  rw [details_encodable] at hspec
  unfold Surroundings.failed
  rcases hspec with ⟨hfits, after, record, hadds, hcall⟩ | ⟨hfits, e, after, hcall⟩
  · left
    refine ⟨hfits, after, record, hadds, ?_⟩
    rw [hcall]
    rfl
  · right
    refine ⟨hfits, e, ?_⟩
    rw [hcall]

/-- A pass adds the attempt that it made, and continues after a first attempt that may be retried. -/
theorem pass_spec (hclock : Monotonic env.clock) (hkept : Kept codes state.ledger)
    (hallowed : Allowed cell locals.retryOf state.ledger) (hcoded : (env.attempts state.ledger.records.length).Coded) :
    ((env.attempts state.ledger.records.length).Recordable ∧ ∃ after record,
      Adds codes cell (env.attempts state.ledger.records.length).status
        (env.attempts state.ledger.records.length).reasonCode state.ledger after record ∧
      env.pass cell locals state =
        .ok (if (env.attempts state.ledger.records.length).retries codes ∧ state.ledger.recordsOf cell.cellId = [] then
          (true,
            { locals with
              reason := (env.attempts state.ledger.records.length).reasonCode
              retryOf := some (state.ledger.records.length : Int) },
            ⟨after, state.reads + 2⟩)
        else (false, (env.attempts state.ledger.records.length).ended locals, ⟨after, state.reads + 2⟩))) ∨
    (¬ (env.attempts state.ledger.records.length).Recordable ∧ ∃ e, env.pass cell locals state = .error e) := by
  have hstart : 0 ≤ env.clock state.reads := hclock.nonneg.trans (hclock.monotone (Nat.zero_le _))
  have hfinish : env.clock state.reads ≤ env.clock (state.reads + 1) := hclock.monotone (Nat.le_succ _)
  have hlast : (state.ledger.recordsOf cell.cellId).length ≤ 1 := by
    rcases hallowed with ⟨hnil, -⟩ | ⟨previous, hone, -⟩
    · simp [hnil]
    · simp [hone]
  have hstatus := (env.attempts state.ledger.records.length).status_mem
  unfold Surroundings.pass
  dsimp only
  cases houtcome : env.attempts state.ledger.records.length with
  | returned observations diagnostics =>
    left
    refine ⟨trivial, ?_⟩
    have hspec := append_spec env { locals with observations, diagnostics } ⟨state.ledger, state.reads + 1⟩ hkept
      hallowed (env.clock state.reads) (lit "completed") none none (by decide) (by simp) hstart hfinish
    rcases hspec with ⟨-, after, record, hadds, hcall⟩ | ⟨hfits, -⟩
    · refine ⟨after, record, hadds, ?_⟩
      dsimp only
      rw [hcall]
      simp [AttemptOutcome.retries, AttemptOutcome.ended]
    · simp [memberTexts] at hfits
  | raised message =>
    rcases failed_spec env locals ⟨state.ledger, state.reads + 1⟩ hkept hallowed
      (env.clock state.reads) message hstart hfinish with ⟨hfits, after, record, hadds, hcall⟩ | ⟨hfits, e, hcall⟩
    · left
      refine ⟨hfits, after, record, hadds, ?_⟩
      dsimp only
      rw [hcall]
      simp [AttemptOutcome.retries]
    · right
      exact ⟨hfits, e, hcall⟩
  | retryable error =>
    rw [houtcome] at hstatus hcoded
    have hreason : ∀ reason ∈ some error.reasonCode, isBenchmarkIdentifier reason = true := by
      simpa using hcoded error rfl
    have hspec := append_spec env locals ⟨state.ledger, state.reads + 1⟩ hkept hallowed
      (env.clock state.reads) error.status (some error.reasonCode) (some (details error.message)) hstatus hreason
      hstart hfinish
    rw [details_encodable] at hspec
    rcases hspec with ⟨hfits, after, record, hadds, hcall⟩ | ⟨hfits, e, after, hcall⟩
    · left
      refine ⟨hfits, after, record, hadds, ?_⟩
      have hcan := canRetry_adds hadds hlast
      have hretries := (AttemptOutcome.retryable error).isRetryReason_eq after
      rw [hadds.kept.codes] at hretries
      have hcan : after.canRetry record =
          ((AttemptOutcome.retryable error).retries codes && (state.ledger.recordsOf cell.cellId).isEmpty) := by
        rw [hcan, ← hretries]
        rfl
      dsimp only
      rw [hcall]
      dsimp only
      rw [hcan, hadds.ordinal]
      by_cases hretry : (AttemptOutcome.retryable error).retries codes ∧ state.ledger.recordsOf cell.cellId = []
      · rw [if_pos (by simp [hretry.1, hretry.2]), if_pos hretry]
        rfl
      · rw [if_neg (by simpa [List.isEmpty_iff] using hretry), if_neg hretry]
        rfl
    · right
      refine ⟨hfits, e, ?_⟩
      dsimp only
      rw [hcall]

end

end TurnVector.CrossEngine
