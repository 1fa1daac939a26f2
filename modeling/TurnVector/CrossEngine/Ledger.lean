import TurnVector.Canonical.Require
import TurnVector.Python.JsonText

/-! # The attempt ledger

`AttemptLedger` of `cross_engine/campaign.py`, and the file that it appends to.
-/

namespace TurnVector.CrossEngine

open Python

/-! ## Checks of single values -/

/-- `^[a-z0-9][a-z0-9._-]{0,127}$`, matched in full. -/
def isBenchmarkIdentifier (s : Str) : Bool := Canonical.isIdentifier s && s.length ≤ 128

/-- `_identifier` -/
def identifier (value place : Str) : Except Exc Unit :=
  if isBenchmarkIdentifier value then .ok ()
  else .error (.contractError (place ++ lit " must be a lowercase benchmark identifier"))

/-- `_nonnegative_integer` -/
def nonnegativeInteger (value : Int) (place : Str) : Except Exc Unit :=
  if 0 ≤ value then .ok () else .error (.contractError (place ++ lit " must be a non-negative integer"))

def attemptStatuses : List Str :=
  [lit "completed", lit "runtime_error", lit "timeout", lit "crashed", lit "contract_invalid",
   lit "environment_invalid", lit "interrupted"]

def retryableStatuses : List Str := [lit "contract_invalid", lit "environment_invalid"]

/-! ## Records -/

structure AttemptRecord where
  attemptOrdinal : Nat
  cellId : Str
  status : Str
  reasonCode : Option Str
  retryOf : Option Int
  eligibleForPrimary : Bool
  startedMonotonicNs : Int
  finishedMonotonicNs : Int
  details : List (Str × Json)
  deriving DecidableEq

namespace AttemptRecord

def checkRetryOf (record : AttemptRecord) : Except Exc Unit :=
  match record.retryOf with
  | none => .ok ()
  | some retryOf => do
    nonnegativeInteger retryOf (lit "AttemptRecord.retry_of")
    if retryOf ≥ record.attemptOrdinal then
      throw (.contractError (lit "AttemptRecord.retry_of must name an earlier attempt"))

/-- `__post_init__` -/
def check (record : AttemptRecord) : Except Exc Unit := do
  identifier record.cellId (lit "AttemptRecord.cell_id")
  if !occurs record.status attemptStatuses then
    throw (.contractError (lit "unknown attempt status " ++ strRepr record.status))
  record.reasonCode.forM fun reasonCode => identifier reasonCode (lit "AttemptRecord.reason_code")
  record.checkRetryOf
  nonnegativeInteger record.startedMonotonicNs (lit "AttemptRecord.started_monotonic_ns")
  nonnegativeInteger record.finishedMonotonicNs (lit "AttemptRecord.finished_monotonic_ns")
  if record.finishedMonotonicNs < record.startedMonotonicNs then
    throw (.contractError (lit "attempt finished before it started"))

/-- `as_dict` -/
def asDict (record : AttemptRecord) : Json := .obj
  [(lit "attempt_ordinal", .int record.attemptOrdinal),
   (lit "cell_id", .str record.cellId),
   (lit "status", .str record.status),
   (lit "reason_code", record.reasonCode.elim .null .str),
   (lit "retry_of", record.retryOf.elim .null .int),
   (lit "eligible_for_primary", .bool record.eligibleForPrimary),
   (lit "started_monotonic_ns", .int record.startedMonotonicNs),
   (lit "finished_monotonic_ns", .int record.finishedMonotonicNs),
   (lit "details", .obj record.details)]

/-- The line of the record in the file. -/
def encoded (record : AttemptRecord) : Except Exc Bytes := do return (← record.asDict.dumpsUtf8) ++ [lf]

end AttemptRecord

/-! ## The file -/

/-- What `write` does: it fails, or it takes some of the bytes, or all of them. -/
inductive Written where
  | error (text : Str)
  | bytes (count : Nat)
  | whole
  deriving DecidableEq

/-- What the file system does in one append. -/
structure Disk where
  openError : Option Str
  written : Written
  syncError : Option Str
  closeError : Option Str
  deriving DecidableEq

/-- Every step succeeds. -/
def Disk.fine : Disk := ⟨none, .whole, none, none⟩

/-- The number of bytes that reach the file. -/
def Disk.count (disk : Disk) (length : Nat) : Nat :=
  match disk.written with
  | .error _ => 0
  | .bytes count => min count length
  | .whole => length

def raiseSome : Option Str → Except Exc Unit
  | none => .ok ()
  | some text => .error (.osError text)

/-- The steps of an append between `open` and `close`. -/
def Disk.writeAll (disk : Disk) (length : Nat) : Except Exc Unit :=
  match disk.written with
  | .error text => .error (.osError text)
  | _ =>
    if disk.count length ≠ length then .error (.osError (lit "short append to attempt ledger"))
    else raiseSome disk.syncError

/-! ## The ledger -/

structure AttemptLedger where
  retryableReasonCodes : List Str
  maxAttemptsPerCell : Nat
  records : List AttemptRecord
  file : Bytes
  deriving DecidableEq

structure AttemptArguments where
  cellId : Str
  status : Str
  reasonCode : Option Str
  startedMonotonicNs : Int
  finishedMonotonicNs : Int
  retryOf : Option Int := none
  details : Option (List (Str × Json)) := none

namespace AttemptLedger

/-- `__init__`, at a path where nothing is. Only membership in the codes is asked for later. -/
def init (retryableReasonCodes : List Str) (maxAttemptsPerCell : Int) : Except Exc AttemptLedger := do
  retryableReasonCodes.forM fun item => identifier item (lit "retryable_reason_codes[]")
  if ¬ retryableReasonCodes.Nodup then
    .error (.contractError (lit "retryable_reason_codes must not contain duplicates"))
  else if maxAttemptsPerCell < 1 ∨ maxAttemptsPerCell > 16 then
    .error (.contractError (lit "max_attempts_per_cell must be in [1, 16]"))
  else .ok ⟨retryableReasonCodes, maxAttemptsPerCell.toNat, [], []⟩

/-- `records_for` of an identifier. -/
def recordsOf (self : AttemptLedger) (cellId : Str) : List AttemptRecord :=
  self.records.filter fun record => record.cellId = cellId

/-- `primary_attempt` of an identifier. -/
def primaryAttempt (self : AttemptLedger) (cellId : Str) : Option AttemptRecord :=
  (self.recordsOf cellId).find? fun record => record.eligibleForPrimary

def isRetryReason (self : AttemptLedger) (status : Str) (reasonCode : Option Str) : Bool :=
  occurs status retryableStatuses && reasonCode.any fun reason => occurs reason self.retryableReasonCodes

def canRetry (self : AttemptLedger) (record : AttemptRecord) : Bool :=
  self.isRetryReason record.status record.reasonCode &&
    (self.recordsOf record.cellId).length < self.maxAttemptsPerCell && (self.primaryAttempt record.cellId).isNone

/-- The checks of `append` against the earlier attempts of the cell. -/
def checkRetry (self : AttemptLedger) (arguments : AttemptArguments) : Except Exc Unit :=
  match (self.recordsOf arguments.cellId).getLast? with
  | some previous =>
    if !self.canRetry previous then
      .error (.contractError
        (lit "a new attempt is allowed only after a frozen contract/environment retry reason"))
    else if arguments.retryOf ≠ some (previous.attemptOrdinal : Int) then
      .error (.contractError (lit "retry_of must name the immediately preceding cell attempt"))
    else .ok ()
  | none =>
    if arguments.retryOf.isSome then .error (.contractError (lit "a first attempt cannot declare retry_of"))
    else .ok ()

def recordOf (self : AttemptLedger) (arguments : AttemptArguments) : AttemptRecord where
  attemptOrdinal := self.records.length
  cellId := arguments.cellId
  status := arguments.status
  reasonCode := arguments.reasonCode
  retryOf := arguments.retryOf
  eligibleForPrimary := !self.isRetryReason arguments.status arguments.reasonCode
  startedMonotonicNs := arguments.startedMonotonicNs
  finishedMonotonicNs := arguments.finishedMonotonicNs
  details := arguments.details.getD []

/-- What `append` does before it opens the file: the record and its line. -/
def prepare (self : AttemptLedger) (arguments : AttemptArguments) : Except Exc (AttemptRecord × Bytes) := do
  identifier arguments.cellId (lit "cell_id")
  self.checkRetry arguments
  let record := self.recordOf arguments
  record.check
  return (record, ← record.encoded)

/-- Opens the file, writes the line, syncs and closes. -/
def write (disk : Disk) (line : Bytes) : Method AttemptLedger Unit :=
  match disk.openError with
  | some text => throw (.osError text)
  | none => do
    modify fun self => { self with file := self.file ++ line.take (disk.count line.length) }
    -- `close` runs in a `finally`, so its error replaces one of the block
    liftM (raiseSome disk.closeError)
    liftM (disk.writeAll line.length)

def append (disk : Disk) (arguments : AttemptArguments) : Method AttemptLedger AttemptRecord := do
  let prepared ← liftM ((← get).prepare arguments)
  write disk prepared.2
  modify fun self => { self with records := self.records ++ [prepared.1] }
  return prepared.1

/-- Calls of `append`, each with what the file system does in it. -/
def run (calls : List (AttemptArguments × Disk)) (self : AttemptLedger) : AttemptLedger :=
  calls.foldl (fun self call => (Method.call (append call.2 call.1) self).2) self

end AttemptLedger

end TurnVector.CrossEngine
