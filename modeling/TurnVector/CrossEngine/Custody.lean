import TurnVector.CrossEngine.Ledger

/-! # Custody of attempts

What holds of the ledger after any calls of `append`.
-/

namespace TurnVector.CrossEngine

open Python

/-- Whether a line of this length gets through `open`, `write`, `fsync` and `close`. -/
def Disk.succeeds (disk : Disk) (length : Nat) : Bool :=
  disk.openError.isNone && disk.closeError.isNone && (disk.writeAll length).toOption.isSome

/-- The part of a line that is in the file after the call. -/
def Disk.part (disk : Disk) (line : Bytes) : Bytes :=
  if disk.openError.isNone then line.take (disk.count line.length) else []

namespace AttemptLedger

/-! ## One append -/

theorem call_write (disk : Disk) (line : Bytes) (self : AttemptLedger) :
    (Method.call (write disk line) self).2 = { self with file := self.file ++ disk.part line } ∧
      ((Method.call (write disk line) self).1.toOption.isSome ↔ disk.succeeds line.length) := by
  unfold write Disk.part Disk.succeeds
  cases disk.openError with
  | some text => simp [Except.toOption]
  | none =>
    dsimp only
    rw [Method.call_bind, Method.call_modify]
    dsimp only
    rw [Method.call_bind, Method.call_liftM]
    unfold raiseSome
    cases disk.closeError with
    | some text => simp [Except.toOption]
    | none =>
      dsimp only
      rw [Method.call_liftM]
      simp

theorem append_refused (disk : Disk) (arguments : AttemptArguments) (self : AttemptLedger) (e : Exc)
    (h : self.prepare arguments = .error e) : Method.call (append disk arguments) self = (.error e, self) := by
  unfold append
  rw [Method.call_bind, Method.call_get]
  dsimp only
  rw [Method.call_bind, Method.call_liftM, h]

theorem append_prepared (disk : Disk) (arguments : AttemptArguments) (self : AttemptLedger) (record : AttemptRecord)
    (line : Bytes) (h : self.prepare arguments = .ok (record, line)) :
    (disk.succeeds line.length = true ∧ Method.call (append disk arguments) self =
      (.ok record, { self with file := self.file ++ disk.part line, records := self.records ++ [record] })) ∨
    (disk.succeeds line.length = false ∧ ∃ e, Method.call (append disk arguments) self =
      (.error e, { self with file := self.file ++ disk.part line })) := by
  obtain ⟨hstate, hwrite⟩ := call_write disk line self
  unfold append
  rw [Method.call_bind, Method.call_get]
  dsimp only
  rw [Method.call_bind, Method.call_liftM, h]
  dsimp only
  rw [Method.call_bind]
  rcases hcall : Method.call (write disk line) self with ⟨e | u, t⟩
  · rw [hcall] at hstate hwrite
    right
    refine ⟨?_, e, ?_⟩
    · simpa [Except.toOption] using hwrite
    · rw [← hstate]
  · rw [hcall] at hstate hwrite
    left
    refine ⟨?_, ?_⟩
    · simpa [Except.toOption] using hwrite
    · dsimp only
      rw [Method.call_bind, Method.call_modify, show t = _ from hstate]
      rfl

/-- What a prepared record is. -/
theorem prepare_ok (arguments : AttemptArguments) (self : AttemptLedger) (record : AttemptRecord) (line : Bytes)
    (h : self.prepare arguments = .ok (record, line)) :
    record = self.recordOf arguments ∧ self.checkRetry arguments = .ok () ∧ record.check = .ok () ∧
      record.encoded = .ok line ∧ isBenchmarkIdentifier record.cellId = true := by
  unfold prepare at h
  obtain ⟨hid, h⟩ := then_ok_iff.mp h
  obtain ⟨hretry, h⟩ := then_ok_iff.mp h
  obtain ⟨hcheck, h⟩ := then_ok_iff.mp h
  obtain ⟨bytes, hline, h⟩ := bind_ok_iff.mp h
  cases h
  refine ⟨rfl, hretry, hcheck, hline, ?_⟩
  unfold identifier at hid
  split at hid
  case isTrue h => exact h
  case isFalse => cases hid

/-! ## Every run -/

/-- `b` is the retry of `a`, which a frozen reason allows. -/
structure Retried (codes : List Str) (a b : AttemptRecord) : Prop where
  retryOf : b.retryOf = some (a.attemptOrdinal : Int)
  status : a.status ∈ retryableStatuses
  reason : ∃ reason ∈ codes, a.reasonCode = some reason
  ineligible : a.eligibleForPrimary = false

/-- The custody of the attempts of every cell. -/
structure Custody (ledger : AttemptLedger) : Prop where
  ordinals : ledger.records.map (·.attemptOrdinal) = List.range ledger.records.length
  first : ∀ cellId, ∀ record ∈ (ledger.recordsOf cellId).head?, record.retryOf = none
  chain : ∀ cellId, (ledger.recordsOf cellId).IsChain (Retried ledger.retryableReasonCodes)
  bounded : ∀ cellId, (ledger.recordsOf cellId).length ≤ ledger.maxAttemptsPerCell
  eligible : ∀ record ∈ ledger.records,
    record.eligibleForPrimary = !ledger.isRetryReason record.status record.reasonCode

theorem isRetryReason_iff (self : AttemptLedger) (status : Str) (reasonCode : Option Str) :
    self.isRetryReason status reasonCode = true ↔
      status ∈ retryableStatuses ∧ ∃ reason ∈ self.retryableReasonCodes, reasonCode = some reason := by
  unfold isRetryReason
  cases reasonCode with
  | none => simp
  | some reason => simp

theorem checkRetry_ok (self : AttemptLedger) (arguments : AttemptArguments)
    (h : self.checkRetry arguments = .ok ()) :
    (self.recordsOf arguments.cellId = [] ∧ arguments.retryOf = none) ∨
    ∃ before previous, self.recordsOf arguments.cellId = before ++ [previous] ∧
      self.canRetry previous = true ∧ arguments.retryOf = some (previous.attemptOrdinal : Int) := by
  unfold checkRetry at h
  rcases List.eq_nil_or_concat (self.recordsOf arguments.cellId) with hnil | ⟨before, previous, heq⟩
  · left
    rw [hnil, List.getLast?_nil] at h
    dsimp only at h
    split at h
    · cases h
    case isFalse hnone => exact ⟨hnil, by simpa using hnone⟩
  · right
    rw [List.concat_eq_append] at heq
    rw [heq, List.getLast?_concat] at h
    dsimp only at h
    split at h
    · cases h
    case isFalse hretry =>
      split at h
      · cases h
      case isFalse hof => exact ⟨before, previous, heq, by simpa using hretry, by simpa using hof⟩

theorem recordsOf_append (self : AttemptLedger) (record : AttemptRecord) (file : Bytes) (cellId : Str) :
    ({ self with file := file, records := self.records ++ [record] } : AttemptLedger).recordsOf cellId =
      self.recordsOf cellId ++ if record.cellId = cellId then [record] else [] := by
  unfold recordsOf
  rw [List.filter_append]
  by_cases h : record.cellId = cellId
  · simp [h]
  · simp [h]

theorem custody_append (self : AttemptLedger) (arguments : AttemptArguments) (file : Bytes) (h : Custody self)
    (hmax : 0 < self.maxAttemptsPerCell) (hretry : self.checkRetry arguments = .ok ()) :
    Custody { self with file := file, records := self.records ++ [self.recordOf arguments] } := by
  have hcell : (self.recordOf arguments).cellId = arguments.cellId := rfl
  have hrecords : ∀ cellId, ({ self with file := file, records := self.records ++ [self.recordOf arguments] } :
      AttemptLedger).recordsOf cellId =
      self.recordsOf cellId ++ if arguments.cellId = cellId then [self.recordOf arguments] else [] :=
    recordsOf_append self (self.recordOf arguments) file
  constructor
  · simp only [List.map_append, List.length_append, List.map_cons, List.map_nil, List.length_cons, List.length_nil]
    rw [h.ordinals, List.range_succ]
    rfl
  · intro cellId record hrecord
    rw [hrecords] at hrecord
    split at hrecord
    case isFalse => exact h.first cellId record (by simpa using hrecord)
    case isTrue hid =>
      subst hid
      rcases checkRetry_ok self arguments hretry with ⟨hnil, hof⟩ | ⟨before, previous, heq, -⟩
      · rw [hnil] at hrecord
        cases hrecord
        exact hof
      · apply h.first arguments.cellId record
        rw [heq] at hrecord ⊢
        rwa [List.head?_append_of_ne_nil _ (by simp)] at hrecord
  · intro cellId
    rw [hrecords]
    split
    case isFalse => simpa using h.chain cellId
    case isTrue hid =>
      subst hid
      rcases checkRetry_ok self arguments hretry with ⟨hnil, -⟩ | ⟨before, previous, heq, hcan, hof⟩
      · rw [hnil]
        exact List.isChain_singleton _
      · have hprevious : previous ∈ self.records := by
          have : previous ∈ self.recordsOf arguments.cellId := by simp [heq]
          exact (List.mem_filter.mp this).1
        simp only [canRetry, Bool.and_eq_true] at hcan
        obtain ⟨hstatus, hreason⟩ := (isRetryReason_iff _ _ _).mp hcan.1.1
        have hineligible : previous.eligibleForPrimary = false := by
          rw [h.eligible previous hprevious, hcan.1.1]
          rfl
        rw [heq, List.append_assoc]
        refine List.isChain_append.mpr ⟨?_, ?_, ?_⟩
        · have := h.chain arguments.cellId
          rw [heq] at this
          exact this.left_of_append
        · exact List.isChain_pair.mpr ⟨hof, hstatus, hreason, hineligible⟩
        · intro x hx y hy
          have := h.chain arguments.cellId
          rw [heq] at this
          simp only [List.singleton_append, List.head?_cons, Option.mem_def, Option.some.injEq] at hy
          exact (List.isChain_append.mp this).2.2 x hx y (by simp [hy])
  · intro cellId
    rw [hrecords, List.length_append]
    split
    case isFalse => simpa using h.bounded cellId
    case isTrue hid =>
      subst hid
      rcases checkRetry_ok self arguments hretry with ⟨hnil, -⟩ | ⟨before, previous, heq, hcan, -⟩
      · rw [hnil]
        simpa using Nat.succ_le_of_lt hmax
      · have hprevious : previous.cellId = arguments.cellId := by
          have : previous ∈ self.recordsOf arguments.cellId := by simp [heq]
          simpa using (List.mem_filter.mp this).2
        simp only [canRetry, Bool.and_eq_true, decide_eq_true_eq, hprevious] at hcan
        simpa using hcan.1.2
  · intro record hrecord
    rcases List.mem_append.mp hrecord with hrecord | hrecord
    · exact h.eligible record hrecord
    · rw [List.mem_singleton.mp hrecord]
      rfl

/-- What an append leaves in memory: nothing new when it raises, and one checked record when it returns. -/
theorem append_records (disk : Disk) (arguments : AttemptArguments) (self : AttemptLedger) :
    (∃ e file, Method.call (append disk arguments) self = (.error e, { self with file := file })) ∨
    (∃ file, self.checkRetry arguments = .ok () ∧ Method.call (append disk arguments) self =
      (.ok (self.recordOf arguments),
        { self with file := file, records := self.records ++ [self.recordOf arguments] })) := by
  cases hp : self.prepare arguments with
  | error e => exact Or.inl ⟨e, self.file, append_refused disk arguments self e hp⟩
  | ok prepared =>
    obtain ⟨record, line⟩ := prepared
    obtain ⟨rfl, hretry, -⟩ := prepare_ok arguments self record line hp
    rcases append_prepared disk arguments self _ line hp with ⟨-, hcall⟩ | ⟨-, e, hcall⟩
    · exact Or.inr ⟨_, hretry, hcall⟩
    · exact Or.inl ⟨e, _, hcall⟩

theorem custody_call (disk : Disk) (arguments : AttemptArguments) (self : AttemptLedger) (h : Custody self)
    (hmax : 0 < self.maxAttemptsPerCell) :
    Custody (Method.call (append disk arguments) self).2 ∧
      (Method.call (append disk arguments) self).2.maxAttemptsPerCell = self.maxAttemptsPerCell := by
  rcases append_records disk arguments self with ⟨e, file, hcall⟩ | ⟨file, hretry, hcall⟩
  · rw [hcall]
    exact ⟨⟨h.ordinals, h.first, h.chain, h.bounded, h.eligible⟩, rfl⟩
  · rw [hcall]
    exact ⟨custody_append self arguments file h hmax hretry, rfl⟩

theorem custody_run (calls : List (AttemptArguments × Disk)) (self : AttemptLedger) (h : Custody self)
    (hmax : 0 < self.maxAttemptsPerCell) : Custody (run calls self) := by
  induction calls generalizing self with
  | nil => exact h
  | cons call calls ih =>
    have hstep := custody_call call.2 call.1 self h hmax
    exact ih _ hstep.1 (hstep.2 ▸ hmax)

theorem custody_init (codes : List Str) (maxAttemptsPerCell : Int) (self : AttemptLedger)
    (h : init codes maxAttemptsPerCell = .ok self) :
    Custody self ∧ 0 < self.maxAttemptsPerCell ∧ self.records = [] ∧ self.file = [] := by
  unfold init at h
  obtain ⟨-, h⟩ := then_ok_iff.mp h
  split at h
  · cases h
  split at h
  · cases h
  rename_i hmax
  cases h
  refine ⟨⟨rfl, ?_, ?_, ?_, ?_⟩, ?_, rfl, rfl⟩
  · simp [recordsOf]
  · simp [recordsOf]
  · simp [recordsOf]
  · simp
  · dsimp only
    omega

/-- The attempt that a chain can still follow is its last. -/
theorem eligible_last {codes : List Str} {attempts : List AttemptRecord} (h : attempts.IsChain (Retried codes))
    (record : AttemptRecord) (hmem : record ∈ attempts) (he : record.eligibleForPrimary = true) :
    attempts.getLast? = some record ∧ attempts.find? (fun record => record.eligibleForPrimary) = some record := by
  induction attempts with
  | nil => cases hmem
  | cons first rest ih =>
    cases rest with
    | nil =>
      have : record = first := by simpa using hmem
      subst this
      simp [he]
    | cons second rest =>
      obtain ⟨hretried, hrest⟩ := List.isChain_cons_cons.mp h
      rcases List.mem_cons.mp hmem with rfl | hmem
      · rw [hretried.ineligible] at he
        cases he
      · obtain ⟨hlast, hfind⟩ := ih hrest hmem
        rw [List.getLast?_cons_cons, List.find?_cons_of_neg (by simp [hretried.ineligible])]
        exact ⟨hlast, hfind⟩

theorem eligible_one {codes : List Str} {attempts : List AttemptRecord} (h : attempts.IsChain (Retried codes)) :
    (attempts.filter fun record => record.eligibleForPrimary).length ≤ 1 := by
  induction attempts with
  | nil => simp
  | cons first rest ih =>
    cases rest with
    | nil => exact List.length_filter_le _ [first]
    | cons second rest =>
      obtain ⟨hretried, hrest⟩ := List.isChain_cons_cons.mp h
      rw [List.filter_cons_of_neg (by simp [hretried.ineligible])]
      exact ih hrest

/-- After any calls the ordinals count the records, the attempts of a cell are a chain of allowed retries within
the limit, its eligible attempt is its last and its primary, and a call that raises adds nothing. -/
theorem append_custody (codes : List Str) (maxAttemptsPerCell : Int) (ledger : AttemptLedger)
    (h : init codes maxAttemptsPerCell = .ok ledger) (calls : List (AttemptArguments × Disk)) :
    Custody (run calls ledger) ∧
      (∀ cellId, (((run calls ledger).recordsOf cellId).filter fun record => record.eligibleForPrimary).length ≤ 1) ∧
      (∀ cellId, ∀ record ∈ (run calls ledger).recordsOf cellId, record.eligibleForPrimary = true →
        ((run calls ledger).recordsOf cellId).getLast? = some record ∧
          (run calls ledger).primaryAttempt cellId = some record) ∧
      ∀ arguments disk e, (Method.call (append disk arguments) (run calls ledger)).1 = .error e →
        (Method.call (append disk arguments) (run calls ledger)).2.records = (run calls ledger).records := by
  obtain ⟨hinit, hmax, -⟩ := custody_init codes maxAttemptsPerCell ledger h
  have hcustody := custody_run calls ledger hinit hmax
  refine ⟨hcustody, fun cellId => eligible_one (hcustody.chain cellId), ?_, ?_⟩
  · intro cellId record hmem he
    exact eligible_last (hcustody.chain cellId) record hmem he
  · intro arguments disk e hraised
    rcases append_records disk arguments (run calls ledger) with ⟨e', file, hcall⟩ | ⟨file, -, hcall⟩
    · rw [hcall]
    · rw [hcall] at hraised
      cases hraised

def sampleArguments (status : Str) (reasonCode : Option Str) (retryOf : Option Int) : AttemptArguments where
  cellId := lit "cell-a"
  status
  reasonCode
  startedMonotonicNs := 10
  finishedMonotonicNs := 20
  retryOf

def sampleLedger : AttemptLedger := ⟨[lit "host_load_transient"], 2, [], []⟩

theorem init_sample : init [lit "host_load_transient"] 2 = .ok sampleLedger := by decide +kernel

/-- A transient failure and its retry. -/
def sampleCalls : List (AttemptArguments × Disk) :=
  [(sampleArguments (lit "environment_invalid") (some (lit "host_load_transient")) none, Disk.fine),
   (sampleArguments (lit "completed") none (some 0), Disk.fine)]

theorem append_custody_sample : Custody (run sampleCalls sampleLedger) :=
  (append_custody [lit "host_load_transient"] 2 sampleLedger init_sample sampleCalls).1

end AttemptLedger

end TurnVector.CrossEngine
