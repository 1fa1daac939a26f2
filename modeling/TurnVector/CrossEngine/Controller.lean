import TurnVector.CrossEngine.Campaign

/-! # The controller run

`CrossEngineController.run` of `cross_engine/controller.py`: one result for every cell of a plan.
-/

namespace TurnVector.CrossEngine

open Python Json

/-! ## Preflight -/

structure PreflightDecision where
  contractStatus : Str
  capabilityStatus : Str
  executionStatus : Str
  evidenceStatus : Str
  promotionStatus : Str
  reasonCode : Option Str
  deriving DecidableEq

def mandatoryCommonCapabilities : List Str :=
  [lit "openai_chat_completions", lit "streaming_sse", lit "usage_accounting_or_benchmark_tokenizer"]

/-- A cell that does not start, for a reason that is not its contract. -/
def notApplicable (capabilityStatus reason : String) : PreflightDecision where
  contractStatus := lit "valid"
  capabilityStatus := lit capabilityStatus
  executionStatus := lit "not_started"
  evidenceStatus := lit "not_evaluated"
  promotionStatus := lit "not_applicable"
  reasonCode := some (lit reason)

/-- A cell whose target is supported, as far as its declaration goes. -/
def supportedAs (contractStatus : String) (reason : Option String) : PreflightDecision where
  contractStatus := lit contractStatus
  capabilityStatus := lit "supported"
  executionStatus := lit "not_started"
  evidenceStatus := lit "not_evaluated"
  promotionStatus := lit "not_evaluated"
  reasonCode := reason.map lit

/-- The decision that one capability forces. -/
def capabilityDecision (declared probed : List (Str × Bool)) (capability : Str) : Option PreflightDecision :=
  if (declared.lookup capability).getD false = false then
    if occurs capability mandatoryCommonCapabilities then
      some (notApplicable "profile_incompatible" "mandatory_common_capability_missing")
    else some (notApplicable "capability_unsupported" "required_capability_not_declared")
  else
    match probed.lookup capability with
    | none => some (supportedAs "invalid" (some "capability_probe_missing"))
    | some false => some (supportedAs "invalid" (some "capability_declaration_probe_mismatch"))
    | some true => none

/-- `decide_preflight` -/
def decidePreflight (required : List Str) (declared probed : List (Str × Bool))
    (profileCompatible environmentAvailable applicable : Bool) : PreflightDecision :=
  if !applicable then notApplicable "not_applicable" "scenario_not_applicable"
  else if !environmentAvailable then notApplicable "environment_unavailable" "preflight_environment_unavailable"
  else if !profileCompatible then notApplicable "profile_incompatible" "openai_dialect_incompatible"
  else
    ((mandatoryCommonCapabilities ++ required).eraseDups.findSome? (capabilityDecision declared probed)).getD
      (supportedAs "valid" none)

def capabilityStatusBool (place : Str) (entry : Str × Json) : Except Exc (Str × Bool) :=
  let invalid := Exc.contractError (place ++ lit "." ++ entry.1 ++ lit " has an invalid capability disposition")
  match entry.2 with
  | .bool disposition => .ok (entry.1, disposition)
  | .obj disposition =>
    match disposition.lookup (lit "status") with
    | some (.str status) =>
      if occurs status [lit "supported", lit "capability_unsupported"] then .ok (entry.1, status = lit "supported")
      else .error invalid
    | some (.arr _) | some (.obj _) => .error .typeError
    | _ => .error invalid
  | _ => .error invalid

/-- `_capability_bools` -/
def capabilityBools (value : Json) (place : Str) : Except Exc (List (Str × Bool)) :=
  match value with
  | .obj entries => entries.mapM (capabilityStatusBool place)
  | _ => .error (.contractError (place ++ lit " must be an object"))

/-! ## Attempts -/

structure RetryableAttemptError where
  status : Str
  reasonCode : Str
  message : Str
  registered : status ∈ retryableStatuses
  deriving DecidableEq

/-- How `_run_attempt` ends. -/
inductive AttemptOutcome where
  | returned (observations : List (Str × Json)) (diagnostics : List (List (Str × Str)))
  | retryable (error : RetryableAttemptError)
  | raised (message : Str)
  deriving DecidableEq

/-- What the run is given: the targets, the probe, how the attempt of each ordinal ends, and the clock. -/
structure Surroundings where
  targets : Str → List (Str × Json)
  capabilityProbe : CampaignCell → Except Exc Json
  attempts : Nat → AttemptOutcome
  clock : Nat → Int

namespace Surroundings

/-- `_preflight` -/
def preflight (env : Surroundings) (cell : CampaignCell) : Except Exc PreflightDecision := do
  match ← env.capabilityProbe cell with
  | .obj observed =>
    let declared ← capabilityBools (field (env.targets cell.targetId) "capabilities" (.obj []))
      (lit "target capabilities")
    let probed ← capabilityBools (field observed "capabilities" (.obj observed)) (lit "preflight capabilities")
    return decidePreflight cell.requiredCapabilities declared probed
      (field observed "profile_compatible" (.bool true)).truth
      (field observed "environment_available" (.bool true)).truth (field observed "applicable" (.bool true)).truth
  | _ => throw (.contractError (lit "capability probe must return an object"))

end Surroundings

/-- The ledger, and how often the clock was read. -/
structure RunState where
  ledger : AttemptLedger
  reads : Nat

/-- The locals of `run` that one pass of the loop hands to the next. -/
structure CellLocals where
  retryOf : Option Int
  observations : List (Str × Json)
  diagnostics : List (List (Str × Str))
  reason : Option Str
  executionStatus : Str
  contractStatus : Str

def CellLocals.start : CellLocals where
  retryOf := none
  observations := []
  diagnostics := []
  reason := none
  executionStatus := lit "infrastructure_failed"
  contractStatus := lit "valid"

/-- `str(error)` of what an append raises. -/
def appendErrorText : Exc → Str
  | .contractError text | .osError text => text
  | _ => []

def details (message : Str) : List (Str × Json) := [(lit "message", .str (message.take 1024))]

def cellExecutionFailed : Str := lit "cell_execution_failed"

namespace Surroundings
variable (env : Surroundings) (cell : CampaignCell)

/-- `ledger.append`, by a file system that does not fail. The clock is read before it. -/
def append (locals : CellLocals) (startedNs : Int) (status : Str) (reasonCode : Option Str)
    (details : Option (List (Str × Json))) (state : RunState) : Except Exc AttemptRecord × RunState :=
  let appended := Method.call
    (AttemptLedger.append Disk.fine
      { cellId := cell.cellId, status, reasonCode, startedMonotonicNs := startedNs,
        finishedMonotonicNs := env.clock state.reads, retryOf := locals.retryOf, details })
    state.ledger
  (appended.1, ⟨appended.2, state.reads + 1⟩)

/-- `except Exception`: the cell failed, and the loop ends. -/
def failed (locals : CellLocals) (startedNs : Int) (message : Str) (state : RunState) :
    Except Exc (Bool × CellLocals × RunState) :=
  let appended := env.append cell locals startedNs (lit "runtime_error") (some cellExecutionFailed)
    (some (details message)) state
  match appended.1 with
  | .error e => .error e
  | .ok _ => .ok (false,
      { locals with
        reason := some cellExecutionFailed
        diagnostics := [[(lit "kind", cellExecutionFailed), (lit "message", message.take 1024)]] },
      appended.2)

/-- One pass of the loop, and whether it continues. -/
def pass (locals : CellLocals) (state : RunState) : Except Exc (Bool × CellLocals × RunState) :=
  let startedNs := env.clock state.reads
  let ordinal := state.ledger.records.length
  let state : RunState := ⟨state.ledger, state.reads + 1⟩
  match env.attempts ordinal with
  | .returned observations diagnostics =>
    let locals := { locals with observations, diagnostics }
    let appended := env.append cell locals startedNs (lit "completed") none none state
    match appended.1 with
    -- this append is inside the `try`
    | .error e => env.failed cell locals startedNs (appendErrorText e) appended.2
    | .ok _ => .ok (false, { locals with executionStatus := lit "completed" }, appended.2)
  | .retryable error =>
    let appended := env.append cell locals startedNs error.status (some error.reasonCode)
      (some (details error.message)) state
    match appended.1 with
    | .error e => .error e
    | .ok record =>
      let locals := { locals with reason := some error.reasonCode }
      if appended.2.ledger.canRetry record then
        .ok (true, { locals with retryOf := some (record.attemptOrdinal : Int) }, appended.2)
      else
        let contractStatus := if error.status = lit "contract_invalid" then lit "invalid" else lit "valid"
        .ok (false, { locals with contractStatus }, appended.2)
  | .raised message => env.failed cell locals startedNs message state

/-- `while True`, for so many passes at most. -/
def passes : Nat → CellLocals → RunState → Option (Except Exc (CellLocals × RunState))
  | 0, _, _ => none
  | fuel + 1, locals, state =>
    match env.pass cell locals state with
    | .error e => some (.error e)
    | .ok (true, locals, state) => passes fuel locals state
    | .ok (false, locals, state) => some (.ok (locals, state))

end Surroundings

/-! ## Results -/

structure CellResult where
  cellId : Str
  targetId : Str
  contractStatus : Str
  capabilityStatus : Str
  executionStatus : Str
  evidenceStatus : Str
  promotionStatus : Str
  primaryAttemptOrdinal : Option Nat
  reasonCode : Option Str
  observations : List (Str × Json)
  diagnostics : List (List (Str × Str))
  deriving DecidableEq

/-- Whether the cell is attempted at all. -/
def PreflightDecision.admits (decision : PreflightDecision) : Bool :=
  decision.contractStatus = lit "valid" && decision.capabilityStatus = lit "supported"

/-- The result of a cell that is not attempted. -/
def declined (cell : CampaignCell) (decision : PreflightDecision) : CellResult where
  cellId := cell.cellId
  targetId := cell.targetId
  contractStatus := decision.contractStatus
  capabilityStatus := decision.capabilityStatus
  executionStatus := decision.executionStatus
  evidenceStatus := decision.evidenceStatus
  promotionStatus := decision.promotionStatus
  primaryAttemptOrdinal := none
  reasonCode := decision.reasonCode
  observations := []
  diagnostics := []

/-- The result of a cell whose loop has ended. -/
def attempted (cell : CampaignCell) (locals : CellLocals) (ledger : AttemptLedger) : CellResult where
  cellId := cell.cellId
  targetId := cell.targetId
  contractStatus := locals.contractStatus
  capabilityStatus := lit "supported"
  executionStatus := locals.executionStatus
  evidenceStatus := if locals.executionStatus = lit "completed" then lit "publishable" else lit "not_evaluated"
  promotionStatus := lit "not_evaluated"
  primaryAttemptOrdinal := (ledger.primaryAttempt cell.cellId).map (·.attemptOrdinal)
  reasonCode := locals.reason
  observations := locals.observations
  diagnostics := locals.diagnostics

namespace Surroundings
variable (env : Surroundings)

def runCell (fuel : Nat) (cell : CampaignCell) (state : RunState) : Option (Except Exc (CellResult × RunState)) :=
  match env.preflight cell with
  | .error e => some (.error e)
  | .ok decision =>
    if decision.admits = false then some (.ok (declined cell decision, state))
    else
      match env.passes cell fuel CellLocals.start state with
      | none => none
      | some (.error e) => some (.error e)
      | some (.ok (locals, state)) => some (.ok (attempted cell locals state.ledger, state))

def runCells (fuel : Nat) : List CampaignCell → RunState → Option (Except Exc (List CellResult × RunState))
  | [], state => some (.ok ([], state))
  | cell :: cells, state =>
    match env.runCell fuel cell state with
    | none => none
    | some (.error e) => some (.error e)
    | some (.ok (result, state)) =>
      match runCells fuel cells state with
      | none => none
      | some (.error e) => some (.error e)
      | some (.ok (results, state)) => some (.ok (result :: results, state))

/-- `run`: the results and the ledger at the end. -/
def run (fuel : Nat) (campaign : CampaignPlan) : Option (Except Exc (List CellResult × AttemptLedger)) :=
  match AttemptLedger.init campaign.retryableReasonCodes 2 with
  | .error e => some (.error e)
  | .ok ledger =>
    match env.runCells fuel campaign.cells ⟨ledger, 0⟩ with
    | none => none
    | some (.error e) => some (.error e)
    | some (.ok (results, state)) => some (.ok (results, state.ledger))

end Surroundings

end TurnVector.CrossEngine
