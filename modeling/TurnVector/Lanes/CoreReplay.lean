import TurnVector.Lanes.BoundedTurn
import TurnVector.Python.Equality

/-! # The core replay runner

`CoreEventReplayLaneRunner.execute_case_steps` of `lane_runner.py` for a subject that is no fixture, and the oracle
`core_event_replay` of `lane_oracles.py` that judges what it records.
-/

namespace TurnVector.Lanes

open Python Json
open LaneController (Raised contractError)
open Canonical (Sha256 isSha256 itemAt)

/-! ## Cases -/

/-- `CORE_RESULT_VALUES` -/
inductive CoreResult where
  | completed
  | failed
  | cancelled
  | indeterminate
  deriving DecidableEq

def CoreResult.text : CoreResult → Str
  | completed => lit "completed"
  | failed => lit "failed"
  | cancelled => lit "cancelled"
  | indeterminate => lit "indeterminate"

/-- `CORE_SEQUENCE_RELATIONS` -/
inductive SequenceRelation where
  | current
  | duplicate
  | late
  | unknown
  | staleGeneration
  deriving DecidableEq

def SequenceRelation.text : SequenceRelation → Str
  | current => lit "current"
  | duplicate => lit "duplicate"
  | late => lit "late"
  | unknown => lit "unknown"
  | staleGeneration => lit "stale_generation"

def coreResults : List (Str × CoreResult) :=
  [CoreResult.completed, .failed, .cancelled, .indeterminate].map fun result => (result.text, result)

def sequenceRelations : List (Str × SequenceRelation) :=
  [SequenceRelation.current, .duplicate, .late, .unknown, .staleGeneration].map fun relation => (relation.text, relation)

/-- `value in names` of a set: the value is hashed. -/
def namedBy {α : Type} (names : List (Str × α)) (value : Json) : Except Raised (Option α) :=
  match value with
  | .str name => .ok (names.lookup name)
  | .arr _ => raised "TypeError" (lit "unhashable type: " ++ strRepr (lit "list"))
  | .obj _ => raised "TypeError" (lit "unhashable type: " ++ strRepr (lit "dict"))
  | _ => .ok none

/-- What `_core_event_case_input` takes from a case. -/
structure CoreCase where
  caseId : Str
  ordinal : Nat
  result : CoreResult
  relation : SequenceRelation
  deriving DecidableEq

/-- The checks of `_core_event_case_input`. -/
def readCoreCase (case : PlannedCase) : Except Raised CoreCase := do
  let invalid := contractError (lit "core replay CasePlan parameters are invalid")
  match ← namedBy coreResults ((case.parameters.lookup (lit "result")).getD .null) with
  | none => invalid
  | some result =>
    match ← namedBy sequenceRelations ((case.parameters.lookup (lit "sequence_relation")).getD .null) with
    | none => invalid
    | some relation => return ⟨case.caseId, case.ordinal, result, relation⟩

def SequenceRelation.sequence : SequenceRelation → Int
  | duplicate => 40
  | late => 39
  | _ => 41

def CoreCase.effectId (case : CoreCase) : Str := lit "effect-" ++ Relations.fourDigits case.ordinal

/-- `_core_event_case_input` -/
def CoreCase.input (case : CoreCase) : Json :=
  let generation := 7
  .obj [(lit "schema_version", .str (lit "turnvector.benchmark.core-event-input.v1")),
    (lit "case_id", .str case.caseId),
    (lit "seed", .int 20260812),
    (lit "initial_state", .obj [(lit "generation", .int generation),
      (lit "last_effect_sequence", .int 40),
      (lit "pending_effect_ids", .arr (if case.relation = .duplicate ∨ case.relation = .unknown then []
        else [.str case.effectId])),
      (lit "seen_effect_ids", .arr (if case.relation = .duplicate then [.str case.effectId] else []))]),
    (lit "effect_result", .obj [
      (lit "effect_id", .str (if case.relation = .unknown then lit "unknown-effect" else case.effectId)),
      (lit "generation", .int (if case.relation = .staleGeneration then generation - 1 else generation)),
      (lit "sequence", .int case.relation.sequence),
      (lit "result", .str case.result.text),
      (lit "sequence_relation", .str case.relation.text)]),
    (lit "cancellation", if case.result = .cancelled then
      .obj [(lit "command_id", .str (lit "command-" ++ Relations.fourDigits case.ordinal)), (lit "sequence", .int 42)]
      else .null)]

/-- `canonical_json` -/
def canonicalJson (value : Json) : Str := dumps .compact 0 value

/-! ## Executions -/

structure CoreReceipt where
  sequenceRelation : SequenceRelation
  applied : Bool
  transitionCommitted : Bool
  stateBeforeSha256 : Sha256
  stateAfterSha256 : Sha256
  deriving DecidableEq

structure CoreEffect where
  effectId : Str
  publicationSequence : ℕ+
  nonempty : effectId ≠ []
  deriving DecidableEq

structure CoreCancellation where
  commitSequence : Option ℕ+
  terminalSequence : Option ℕ+
  deriving DecidableEq

/-- An execution that `_normalize_core_execution` accepted. -/
structure CoreExecution where
  inputSha256 : Str
  finalStateSha256 : Sha256
  receipt : CoreReceipt
  publishedEffects : List CoreEffect
  cancellation : CoreCancellation
  settled : finalStateSha256 = receipt.stateAfterSha256
  deriving DecidableEq

def optionalJson : Option ℕ+ → Json
  | some n => .int (n : Nat)
  | none => .null

def CoreReceipt.toJson (receipt : CoreReceipt) : Json :=
  .obj [(lit "sequence_relation", .str receipt.sequenceRelation.text),
    (lit "applied", .bool receipt.applied),
    (lit "transition_committed", .bool receipt.transitionCommitted),
    (lit "state_before_sha256", .str receipt.stateBeforeSha256.val),
    (lit "state_after_sha256", .str receipt.stateAfterSha256.val)]

def CoreEffect.toJson (effect : CoreEffect) : Json :=
  .obj [(lit "effect_id", .str effect.effectId), (lit "publication_sequence", .int (effect.publicationSequence : Nat))]

def CoreCancellation.toJson (cancellation : CoreCancellation) : Json :=
  .obj [(lit "commit_sequence", optionalJson cancellation.commitSequence),
    (lit "terminal_sequence", optionalJson cancellation.terminalSequence)]

def CoreExecution.toJson (execution : CoreExecution) : Json :=
  .obj [(lit "input_sha256", .str execution.inputSha256),
    (lit "final_state_sha256", .str execution.finalStateSha256.val),
    (lit "receipt", execution.receipt.toJson),
    (lit "published_effects", .arr (execution.publishedEffects.map CoreEffect.toJson)),
    (lit "cancellation", execution.cancellation.toJson)]

/-- A dict with these keys and no other. -/
def exactMembers (value : Json) (names : List String) (place : Str) : Except Raised (List (Str × Json)) :=
  let names := names.map lit
  let refused := contractError (place ++ lit " must contain exactly " ++ listRepr (names.insertionSort (· ≤ ·)))
  match value with
  | .obj members => if sameSet (members.map Prod.fst) names then .ok members else refused
  | _ => refused

/-- `_strict_evidence_object` -/
def strictEvidenceObject (value : Json) (fields : List String) (place : Str) : Except Raised (List (Str × Json)) :=
  exactMembers value fields place

/-- `members[name]` -/
def memberOf (members : List (Str × Json)) (name : String) : Except Raised Json :=
  match members.lookup (lit name) with
  | some value => .ok value
  | none => keyError (lit name)

/-- `_core_sha256` -/
def coreSha256 (value : Json) (place : Str) : Except Raised Sha256 :=
  let refused := contractError (place ++ lit " must be a lowercase SHA256")
  match value with
  | .str digest => if h : isSha256 digest = true then .ok ⟨digest, h⟩ else refused
  | _ => refused

/-- `_core_optional_sequence` -/
def coreOptionalSequence (value : Json) (place : Str) : Except Raised (Option ℕ+) :=
  match value with
  | .null => .ok none
  | .int (.ofNat (n + 1)) => .ok (some n.succPNat)
  | _ => contractError (place ++ lit " must be a positive integer or null")

/-- An item of `published_effects`. The code asserts that its sequence is no null. -/
def readEffect (value : Json) (place : Str) : Except Raised CoreEffect := do
  let effect ← strictEvidenceObject value ["effect_id", "publication_sequence"] place
  match ← memberOf effect "effect_id" with
  | .str (c :: effectId) =>
    match ← coreOptionalSequence (← memberOf effect "publication_sequence") (place ++ lit ".publication_sequence") with
    | some sequence => return ⟨c :: effectId, sequence, List.cons_ne_nil c effectId⟩
    | none => .error ⟨.exception, lit "AssertionError()"⟩
  | _ => contractError (place ++ lit ".effect_id must be non-empty")

def readEffects (value : Json) (place : Str) : Except Raised (List CoreEffect) :=
  match value with
  | .arr effects => effects.zipIdx.mapM fun effect => readEffect effect.1 (itemAt place effect.2)
  | _ => contractError (place ++ lit " must be an array")

def readReceiptFields (receipt : List (Str × Json)) (place : Str) : Except Raised CoreReceipt := do
  match ← namedBy sequenceRelations (← memberOf receipt "sequence_relation") with
  | none => contractError (place ++ lit ".sequence_relation is invalid")
  | some relation =>
    match ← memberOf receipt "applied", ← memberOf receipt "transition_committed" with
    | .bool applied, .bool committed =>
      let before ← coreSha256 (← memberOf receipt "state_before_sha256") (place ++ lit ".state_before_sha256")
      let after ← coreSha256 (← memberOf receipt "state_after_sha256") (place ++ lit ".state_after_sha256")
      return ⟨relation, applied, committed, before, after⟩
    | _, _ => contractError (place ++ lit " applied/committed flags must be boolean")

def readCancellation (value : Json) (place : Str) : Except Raised CoreCancellation := do
  let cancellation ← strictEvidenceObject value ["commit_sequence", "terminal_sequence"] place
  let commit ← coreOptionalSequence (← memberOf cancellation "commit_sequence") (place ++ lit ".commit_sequence")
  let terminal ← coreOptionalSequence (← memberOf cancellation "terminal_sequence") (place ++ lit ".terminal_sequence")
  return ⟨commit, terminal⟩

/-- What is read once the final state is known to be the one after the receipt. -/
def readExecution (execution : List (Str × Json)) (inputSha256 place : Str) (finalState : Sha256)
    (receipt : CoreReceipt) : Except Raised CoreExecution :=
  if settled : finalState = receipt.stateAfterSha256 then do
    let publishedEffects ← readEffects (← memberOf execution "published_effects") (place ++ lit ".published_effects")
    let cancellation ← readCancellation (← memberOf execution "cancellation") (place ++ lit ".cancellation")
    return { inputSha256, finalStateSha256 := finalState, receipt, publishedEffects, cancellation, settled }
  else contractError (place ++ lit ".final_state_sha256 must equal receipt state_after_sha256")

/-! ## Invariants -/

section
variable (case : CoreCase) (execution : CoreExecution)

def CoreCase.shouldApply : Bool := case.relation = .current

def CoreCase.shouldCommit : Bool := case.shouldApply && case.result ≠ .failed

def CoreCase.cancellationExpected : Bool := case.result = .cancelled && case.shouldApply

def cancellationOrdered : Bool :=
  if case.cancellationExpected then
    match execution.cancellation.commitSequence, execution.cancellation.terminalSequence with
    | some commit, some terminal =>
      commit ≤ terminal && execution.publishedEffects.all fun effect => effect.publicationSequence < commit
    | _, _ => false
  else execution.cancellation.commitSequence = none && execution.cancellation.terminalSequence = none

def stateChangeValid : Bool :=
  let receipt := execution.receipt
  if case.shouldCommit then receipt.stateBeforeSha256 ≠ receipt.stateAfterSha256
  else receipt.stateBeforeSha256 = receipt.stateAfterSha256

def failedAtomic : Bool :=
  let receipt := execution.receipt
  case.result ≠ .failed || (!receipt.transitionCommitted && receipt.stateBeforeSha256 = receipt.stateAfterSha256 &&
    execution.publishedEffects.isEmpty)

def uniqueEffects : Bool := (execution.publishedEffects.map (·.effectId)).Nodup

def noInvalidEffect : Bool := case.shouldCommit || execution.publishedEffects.isEmpty

/-- The five invariants, each with whether it passed. -/
def coreInvariants : List (Str × Bool) :=
  let receipt := execution.receipt
  [(lit "sequence-relation", receipt.sequenceRelation = case.relation),
    (lit "receipt-application", receipt.applied = case.shouldApply),
    (lit "atomic-transition", receipt.transitionCommitted = case.shouldCommit && stateChangeValid case execution &&
      failedAtomic case execution),
    (lit "effect-idempotence", uniqueEffects execution && noInvalidEffect case execution),
    (lit "cancellation-order", cancellationOrdered case execution)]

end

/-- `_normalize_core_execution` -/
def normalizeCoreExecution (value : Json) (case : CoreCase) (inputSha256 place : Str) :
    Except Raised (CoreExecution × List (Str × Bool)) := do
  let execution ← strictEvidenceObject value
    ["input_sha256", "final_state_sha256", "receipt", "published_effects", "cancellation"] place
  let claimed ← memberOf execution "input_sha256"
  demand (claimed = .str inputSha256) (place ++ lit ".input_sha256 differs from the Benchmark event stream")
  let finalState ← coreSha256 (← memberOf execution "final_state_sha256") (place ++ lit ".final_state_sha256")
  let receipt ← strictEvidenceObject (← memberOf execution "receipt")
    ["sequence_relation", "applied", "transition_committed", "state_before_sha256", "state_after_sha256"]
    (place ++ lit ".receipt")
  let receipt ← readReceiptFields receipt (place ++ lit ".receipt")
  let execution ← readExecution execution inputSha256 place finalState receipt
  return (execution, coreInvariants case execution)

/-! ## The steps of a case -/

/-- A raw record of a step. -/
structure CoreRecord where
  caseId : Str
  stepIndex : Nat
  operation : Str
  benchmarkInputSha256 : Str
  evidence : Mapping Json

/-- What `execute_case_steps` returns: the normalized record, the raw records and the collection. -/
structure CoreSteps where
  evidence : List (List (Str × Json))
  rawRecords : List CoreRecord
  input : Json
  inputSha256 : Str
  executions : List CoreExecution
  executionSha256 : List Str
  invariants : List (Str × Bool)

def coreOperations : List Str := [lit "replay-event-stream", lit "replay-identical-stream"]

section
variable (sha256 : Str → Str) (answers : Nat → Except Raised (Mapping Json)) (case : CoreCase)

/-- One step: the raw record, the execution and its invariants. -/
def replayStep (stepIndex : Nat) (operation : Str) :
    Except Raised (CoreRecord × CoreExecution × List (Str × Bool)) := do
  let inputSha256 := sha256 (canonicalJson case.input)
  let evidence ← answers stepIndex
  let outer ← strictEvidenceObject (.obj evidence.val) ["execution"]
    (case.caseId ++ lit " " ++ operation ++ lit " evidence")
  let (execution, invariants) ← normalizeCoreExecution (← memberOf outer "execution") case inputSha256
    (case.caseId ++ lit " " ++ operation)
  return (⟨case.caseId, stepIndex, operation, inputSha256, evidence⟩, execution, invariants)

/-- An invariant passed when it did in both executions. -/
def bothPassed (first replay : List (Str × Bool)) : List (Str × Bool) :=
  first.zipWith (fun item other => (item.1, item.2 && other.2)) replay

/-- The record that the oracle judges. -/
def coreRecord (first replay : CoreExecution) (invariants : List (Str × Bool)) : Json :=
  .obj [(lit "first_state_hash", .str (sha256 (canonicalJson first.toJson))),
    (lit "replay_state_hash", .str (sha256 (canonicalJson replay.toJson))),
    (lit "invariants", .arr (invariants.map fun item => .bool item.2)),
    (lit "transition_committed", .bool first.receipt.transitionCommitted),
    (lit "effects", .arr (first.publishedEffects.map fun effect => .str effect.effectId))]

/-- The two steps, which `coreOperations` names. -/
def replayCase : Except Raised CoreSteps := do
  let (firstRecord, first, firstInvariants) ← replayStep sha256 answers case 1 (lit "replay-event-stream")
  let (replayRecord, replay, replayInvariants) ← replayStep sha256 answers case 2 (lit "replay-identical-stream")
  let invariants := bothPassed firstInvariants replayInvariants
  return { evidence := [[(lit "record", coreRecord sha256 first replay invariants)]]
           rawRecords := [firstRecord, replayRecord]
           input := case.input
           inputSha256 := sha256 (canonicalJson case.input)
           executions := [first, replay]
           executionSha256 := [sha256 (canonicalJson first.toJson), sha256 (canonicalJson replay.toJson)]
           invariants := invariants }

end

/-- `CoreEventReplayLaneRunner.execute_case_steps` -/
def executeCoreSteps (sha256 : Str → Str) (answers : Nat → Except Raised (Mapping Json)) (case : PlannedCase)
    (benchmarkRuntimeRoot : Option Str) : Except Raised CoreSteps := do
  demand (benchmarkRuntimeRoot = none && case.operations = coreOperations)
    (lit "core replay suite operations are not canonical")
  replayCase sha256 answers (← readCoreCase case)

/-! ## The oracle -/

/-- `_empty_close` -/
def emptyClose (close : List (Str × Json)) (laneId : String) : Except Raised Unit :=
  demand close.isEmpty (lit laneId ++ lit " case_close observations must be empty; metrics come from raw evidence")

/-- `_record` -/
def oracleRecord (evidence : List (List (Str × Json))) (laneId : String) : Except Raised Json :=
  let records : List Json := (evidence.filter fun item => sameSet (item.map Prod.fst) [lit "record"]).filterMap
    fun item => item.lookup (lit "record")
  match records with
  | [.obj members] => .ok (.obj members)
  | _ => contractError (lit laneId ++ lit " must emit exactly one normalized raw record across its case steps")

/-- `_keys` -/
def oracleKeys (value : Json) (required : List String) (place : Str) : Except Raised (List (Str × Json)) :=
  exactMembers value required place

/-- `_list` -/
def oracleList (value : Json) (place : Str) : Except Raised (List Json) :=
  match value with
  | .arr items => .ok items
  | _ => contractError (place ++ lit " must be an array")

/-- `_boolean` -/
def oracleBoolean (value : Json) (place : Str) : Except Raised Bool :=
  match value with
  | .bool b => .ok b
  | _ => contractError (place ++ lit " must be boolean")

/-- What `core_event_replay` returns. -/
structure CoreCounters where
  replayHashMismatches : Nat
  committedInvariantViolations : Nat
  failedTransitionEffects : Nat
  deriving DecidableEq

/-- `sum(committed and not _boolean(item, ...) for item in invariants)` -/
def committedViolations (committed : Bool) (invariants : List Json) : Except Raised Nat :=
  if committed then do
    let passed ← invariants.mapM fun item => oracleBoolean item (lit "core-event-replay.invariants")
    return (passed.filter (!·)).length
  else .ok 0

/-- `core_event_replay` -/
def coreEventReplay (floatValue : Str → Option ℚ) (evidence : List (List (Str × Json))) (close : List (Str × Json)) :
    Except Raised CoreCounters := do
  let lane := "core-event-replay"
  emptyClose close lane
  let value ← oracleKeys (← oracleRecord evidence lane)
    ["first_state_hash", "replay_state_hash", "invariants", "transition_committed", "effects"] (lit lane)
  let invariants ← oracleList (← memberOf value "invariants") (lit lane ++ lit ".invariants")
  let committed ← oracleBoolean (← memberOf value "transition_committed") (lit lane ++ lit ".transition_committed")
  let effects ← oracleList (← memberOf value "effects") (lit lane ++ lit ".effects")
  let first ← memberOf value "first_state_hash"
  let replay ← memberOf value "replay_state_hash"
  let violations ← committedViolations committed invariants
  return ⟨if pyEq floatValue first replay then 0 else 1, violations, if committed then 0 else effects.length⟩

end TurnVector.Lanes
