import TurnVector.Lanes.OracleAgreement
import TurnVector.Lanes.OracleReaders
import TurnVector.Runner.Ledgers

/-! # One repetition of a scenario

`BenchmarkRunner._run_repetition` of `runner.py`. The driver may answer anything to what it was sent. What the runner
keeps beside (its `trace`, the identities of its drivers) is left out: nothing here reads it.
-/

namespace TurnVector.Runner

open Python Json Lanes
open LaneController (Raised contractError)

/-! ## The driver -/

/-- A driver process: how it starts, what it answers to the last of the messages that it was sent, and how it exits
once it acknowledged the shutdown. -/
structure Driver where
  started : Except Raised Unit
  answer : List Json → Except Raised (Mapping Json)
  exited : Except Raised Unit

def driverProtocol : Str := lit "turnvector.benchmark.driver.v1"

def conformanceError {α : Type} (text : Str) : Except Raised α := raised "ConformanceError" text

def scalarJson : Scalar → Json
  | .none => .null
  | .bool b => .bool b
  | .int n => .int n
  | .str s => .str s

def recordJson (record : Record) : Json := .obj (record.map fun entry => (entry.1, scalarJson entry.2))

/-- The names of `left` that `right` lacks, in order. -/
def lacking (left right : List Str) : List Str := (left.filter fun name => !occurs name right).insertionSort (· ≤ ·)

def invalidFields (response : Mapping Json) (required : List String) (place : String) : Str :=
  let names := response.val.map Prod.fst
  let missing := lacking (required.map lit) names
  let unknown := lacking names (required.map lit)
  let details := (if missing.isEmpty then [] else [lit "missing=" ++ listRepr missing]) ++
    if unknown.isEmpty then [] else [lit "unknown=" ++ listRepr unknown]
  lit place ++ lit " has invalid fields (" ++ join (lit ", ") details ++ lit ")"

/-- `_require_response` -/
def requireResponse (response : Mapping Json) (required : List String) (place : String) :
    Except Raised (Fields required) :=
  if exact : hasKeys (.obj response.val) required = true then .ok ⟨response.val, exact⟩
  else contractError (invalidFields response required place)

def responseRepr (response : Mapping Json) : Str := Json.repr (.obj response.val)

/-- `==` of two dicts of texts. -/
def sameTexts (left right : List (Str × Str)) : Bool :=
  left.length = right.length && left.all fun entry => right.lookup entry.1 = some entry.2

def differText (expected observed : List (Str × Str)) : Str :=
  lit "expected=" ++ Json.repr (texts expected) ++ lit ", observed=" ++ Json.repr (texts observed)

def helloMessage : Json := .obj [(lit "kind", .str (lit "hello")), (lit "protocol_version", .str driverProtocol)]

def isName : Json → Bool
  | .str name => !name.isEmpty
  | _ => false

/-- `_handshake`, with what was sent by then. -/
def handshake (driver : Driver) : Except Raised (List Json) := do
  let response ← driver.answer [helloMessage]
  let fields ← requireResponse response ["kind", "protocol_version", "driver_name", "driver_version"] "hello response"
  demand (fields.get "kind" = .str (lit "hello_ack") && fields.get "protocol_version" = .str driverProtocol)
    (lit "driver rejected protocol " ++ strRepr driverProtocol ++ lit ": " ++ responseRepr response)
  demand (isName (fields.get "driver_name")) (lit "hello response driver_name must be a non-empty string")
  demand (isName (fields.get "driver_version")) (lit "hello response driver_version must be a non-empty string")
  return [helloMessage]

/-! ## The trace -/

/-- A scenario with the resource mode of each of its segments. -/
structure SuiteScenario extends Scenario where
  resourceMode : Nat → Str

structure TraceReceipt where
  actualEngineServiceUs : Nat
  expectedLedgers : List (Str × Str)
  observedLedgers : List (Str × Str)
  deriving DecidableEq

/-- The record of a turn that passed. -/
structure TraceRecord where
  scenarioId : Str
  repetition : Nat
  segment : Nat
  segmentTurn : Nat
  sequence : Nat
  nowUs : Int
  resourceMode : Str
  candidates : List Candidate
  decisionClass : DecisionClass
  expectedCandidateId : Option Str
  observedCandidateId : Option Str
  expectedRunnable : List (Str × Str)
  observedRunnable : List (Str × Str)
  receipt : Option TraceReceipt
  deriving DecidableEq

def TraceRecord.identity (record : TraceRecord) : Json :=
  .obj [(lit "sequence", .int record.sequence), (lit "candidate_id", textOrNull record.observedCandidateId),
    (lit "decision_class", .str (lit (decisionText record.decisionClass))),
    (lit "runnable_ledgers_us", texts record.observedRunnable),
    (lit "receipt_ledgers_us", (record.receipt.map fun receipt => texts receipt.observedLedgers).getD .null)]

/-- `_plan_hash` -/
def planHash (sha256 : Str → Str) (records : List TraceRecord) : Str :=
  sha256 (dumps .compact 0 (.arr (records.map (·.identity))))

/-! ## The local variables -/

/-- What the five dicts of a repetition hold for one model. -/
structure Tally where
  selectionCount : Nat
  engineServiceUs : Nat
  currentWait : Nat
  maxWait : Nat
  maxConsecutive : Nat

structure State where
  oracle : SchedulerOracle
  sent : List Json
  sequence : Nat
  nowUs : Int
  records : List TraceRecord
  tallies : List (Str × Tally)
  lastModel : Option Str
  consecutive : Nat
  urgentSelections : Nat
  normalSelections : Nat
  noPlanCount : Nat

def Tally.waited (tally : Tally) (waits : Bool) : Tally :=
  if waits then
    { tally with currentWait := tally.currentWait + 1, maxWait := max tally.maxWait (tally.currentWait + 1) }
  else { tally with currentWait := 0 }

/-- The loop over `current_wait`. -/
def waitAll (tallies : List (Str × Tally)) (eligible : Finset Str) (selected : Option Str) : List (Str × Tally) :=
  tallies.map fun entry => (entry.1, entry.2.waited (entry.1 ∈ eligible && some entry.1 ≠ selected))

def Tally.charged (tally : Tally) (actual consecutive : Nat) : Tally :=
  { tally with
    selectionCount := tally.selectionCount + 1
    engineServiceUs := tally.engineServiceUs + actual
    maxConsecutive := max tally.maxConsecutive consecutive }

def charge (tallies : List (Str × Tally)) (modelId : Str) (actual consecutive : Nat) :
    Except Raised (List (Str × Tally)) :=
  if occurs modelId (tallies.map Prod.fst) then
    .ok (tallies.map fun entry => (entry.1, if entry.1 = modelId then entry.2.charged actual consecutive else entry.2))
  else keyError modelId

def State.start (scenario : Scenario) (sent : List Json) : State where
  oracle := SchedulerOracle.init scenario.models
  sent := sent
  sequence := 0
  nowUs := scenario.clockStartUs
  records := []
  tallies := scenario.models.map fun model => (model.modelId, ⟨0, 0, 0, 0, 0⟩)
  lastModel := none
  consecutive := 0
  urgentSelections := 0
  normalSelections := 0
  noPlanCount := 0

variable (fraction : Str → Option ℚ) (sha256 : Str → Str) (scenario : SuiteScenario) (repetition : Nat)
  (driver : Driver)

/-! ## A turn -/

/-- `_initialize`, with what was sent by then. -/
def initialize_ (sent : List Json) : Except Raised (List Json) := do
  let message := .obj [(lit "kind", .str (lit "initialize")), (lit "scenario_id", .str scenario.scenarioId),
    (lit "repetition", .int repetition), (lit "models", .arr (scenario.models.map fun m => recordJson m.asMessage))]
  let response ← driver.answer (sent ++ [message])
  let fields ← requireResponse response ["kind", "scenario_id", "model_ledgers_us"] "initialize response"
  demand (fields.get "kind" = .str (lit "initialized") && fields.get "scenario_id" = .str scenario.scenarioId)
    (lit "invalid initialize response: " ++ responseRepr response)
  let expected := scenario.models.map fun model => (model.modelId, lit "0/1")
  let observed ← ledgerResponse fraction (fields.get "model_ledgers_us") (expected.map Prod.fst)
    (lit "initialize.model_ledgers_us")
  if sameTexts observed expected then return sent ++ [message]
  else conformanceError (scenario.scenarioId ++ lit " initialized ledgers differ: " ++ differText expected observed)

def scheduleMessage (turn : Turn) (sequence : Nat) (nowUs : Int) : Json :=
  .obj [(lit "kind", .str (lit "schedule")), (lit "sequence", .int sequence), (lit "now_us", .int nowUs),
    (lit "resource_mode", .str (scenario.resourceMode turn.segmentIndex)),
    (lit "candidates", .arr (turn.segment.candidates.map fun c => recordJson (c.atTime nowUs).asMessage))]

def receiptMessage (sequence : Nat) (candidate : Candidate) (actual : Nat) : Json :=
  .obj [(lit "kind", .str (lit "receipt")), (lit "sequence", .int sequence),
    (lit "candidate_id", .str candidate.candidateId), (lit "model_id", .str candidate.modelId),
    (lit "actual_engine_service_us", .int actual)]

/-- The place of a failure. -/
def placeText (sequence : Nat) : Str :=
  scenario.scenarioId ++ lit " repetition " ++ natText repetition ++ lit " sequence " ++ natText sequence ++ lit ": "

/-- The `repr` of a text or of `None`. -/
def idRepr (id : Option Str) : Str := Json.repr (textOrNull id)

def readPlannedId (value : Json) : Except Raised (Option Str) :=
  match value with
  | .null => .ok none
  | .str id => .ok (some id)
  | _ => contractError (lit "plan.candidate_id must be a string or null")

/-- The record of a turn whose plan agrees with the oracle. -/
def readPlan (turn : Turn) (sequence : Nat) (nowUs : Int) (scheduled : Scheduled) (response : Mapping Json) :
    Except Raised TraceRecord := do
  let fields ← requireResponse response ["kind", "sequence", "candidate_id", "runnable_ledgers_us"] "plan response"
  demand (fields.get "kind" = .str (lit "plan") && (fields.get "sequence").isCount sequence)
    (lit "invalid plan response: " ++ responseRepr response)
  let observedId ← readPlannedId (fields.get "candidate_id")
  let expected ← fractionTexts scheduled.runnable
  let observed ← ledgerResponse fraction (fields.get "runnable_ledgers_us") (expected.map Prod.fst)
    (lit "plan.runnable_ledgers_us")
  let expectedId := scheduled.expected.map (·.candidateId)
  if !sameTexts observed expected then
    conformanceError (placeText scenario repetition sequence ++ lit "runnable ledgers " ++ differText expected observed)
  else if observedId ≠ expectedId then
    conformanceError (placeText scenario repetition sequence ++ lit "expected candidate " ++ idRepr expectedId ++
      lit ", observed " ++ idRepr observedId)
  else return {
    scenarioId := scenario.scenarioId
    repetition := repetition
    segment := turn.segmentIndex
    segmentTurn := turn.segmentTurn
    sequence := sequence
    nowUs := nowUs
    resourceMode := scenario.resourceMode turn.segmentIndex
    candidates := turn.segment.candidates.map (·.atTime nowUs)
    decisionClass := scheduled.decisionClass
    expectedCandidateId := expectedId
    observedCandidateId := observedId
    expectedRunnable := expected
    observedRunnable := observed
    receipt := none }

/-- A receipt that agrees with the oracle. -/
def readReceipt (sequence actual : Nat) (expected : List (Str × Str)) (response : Mapping Json) :
    Except Raised TraceReceipt := do
  let fields ← requireResponse response ["kind", "sequence", "model_ledgers_us"] "receipt response"
  demand (fields.get "kind" = .str (lit "receipt_accepted") && (fields.get "sequence").isCount sequence)
    (lit "invalid receipt response: " ++ responseRepr response)
  let observed ← ledgerResponse fraction (fields.get "model_ledgers_us") (expected.map Prod.fst)
    (lit "receipt.model_ledgers_us")
  if sameTexts observed expected then return ⟨actual, expected, observed⟩
  else conformanceError (placeText scenario repetition sequence ++ lit "receipt ledgers " ++ differText expected observed)

/-- The turn from its selection on. -/
def runSelection (state : State) (turn : Turn) (scheduled : Scheduled) (candidate : Candidate) (record : TraceRecord) :
    Except Raised State := do
  let actual ← actualService turn candidate.candidateId
  let consecutive := if state.lastModel = some candidate.modelId then state.consecutive + 1 else 1
  let tallies ← charge state.tallies candidate.modelId actual consecutive
  let (ledgers, oracle) ←
    callOracle (SchedulerOracle.acceptReceipt candidate.candidateId candidate.modelId actual) scheduled.oracle
  let expected ← fractionTexts ledgers
  let message := receiptMessage state.sequence candidate actual
  let response ← driver.answer (state.sent ++ [message])
  let receipt ← readReceipt fraction scenario repetition state.sequence actual expected response
  let urgent := scheduled.decisionClass = .urgent
  return { state with
    oracle
    sent := state.sent ++ [message]
    nowUs := state.nowUs + turn.segment.clockStepUs
    records := state.records ++ [{ record with receipt := some receipt }]
    tallies
    lastModel := some candidate.modelId
    consecutive
    urgentSelections := state.urgentSelections + if urgent then 1 else 0
    normalSelections := state.normalSelections + if urgent then 0 else 1 }

/-- The body of the inner loop. -/
def runTurn (state : State) (turn : Turn) : Except Raised State := do
  let sequence := state.sequence + 1
  let scheduled ← scheduleTurn turn state.nowUs state.oracle
  let message := scheduleMessage scenario turn sequence state.nowUs
  let response ← driver.answer (state.sent ++ [message])
  let record ← readPlan fraction scenario repetition turn sequence state.nowUs scheduled response
  let tallies := waitAll state.tallies (SchedulerOracle.currentOf record.candidates) (scheduled.expected.map (·.modelId))
  let state := { state with sent := state.sent ++ [message], sequence, tallies }
  match scheduled.expected with
  | some candidate => runSelection fraction scenario repetition driver state turn scheduled candidate record
  | none => do
    let (_, oracle) ← callOracle SchedulerOracle.clearNoPlan scheduled.oracle
    return { state with
      oracle
      nowUs := state.nowUs + turn.segment.clockStepUs
      records := state.records ++ [record]
      noPlanCount := state.noPlanCount + 1 }

def finish (sent : List Json) : Except Raised Unit := do
  let response ← driver.answer (sent ++ [.obj [(lit "kind", .str (lit "shutdown"))]])
  demand (response.val = [(lit "kind", .str (lit "shutdown_ack"))])
    (lit "invalid shutdown response: " ++ responseRepr response)
  driver.exited

/-- The `with` block, and the local variables after it. -/
def runDriver : Except Raised State := do
  driver.started
  let sent ← initialize_ fraction scenario repetition driver (← handshake driver)
  let state ← scenario.turns.foldlM (runTurn fraction scenario repetition driver) (State.start scenario.toScenario sent)
  finish driver state.sent
  return state

/-! ## The metrics -/

structure Metrics where
  turns : Nat
  selectionCount : List (Str × Nat)
  engineServiceUs : List (Str × Nat)
  engineServiceShare : List (Str × Str)
  normalizedEngineServiceUs : List (Str × Str)
  normalizedServiceSpreadUs : Str
  urgentSelectionCount : Nat
  normalSelectionCount : Nat
  noPlanCount : Nat
  maxRunnableWaitTurns : List (Str × Nat)
  maxConsecutiveTurns : List (Str × Nat)
  planTraceSha256 : Str

def State.column (state : State) (value : Tally → Nat) : List (Str × Nat) :=
  state.tallies.map fun entry => (entry.1, value entry.2)

def shareText (total service : Nat) : Str := if total ≠ 0 then fractionText (service / total) else lit "0/1"

def normalizedService (services : List (Str × Nat)) (model : ModelConfig) : Except Raised (Str × ℚ) :=
  match services.lookup model.modelId with
  | some service => .ok (model.modelId, service / model.weight)
  | none => keyError model.modelId

/-- `max(values) - min(values)` -/
def spreadOf (values : List ℚ) : Except Raised ℚ :=
  match values.max?, values.min? with
  | some most, some least => .ok (most - least)
  | _, _ => raised "ValueError" (lit "max() iterable argument is empty")

def metricsOf (state : State) : Except Raised Metrics := do
  let services := state.column (·.engineServiceUs)
  let total := (services.map Prod.snd).sum
  let normalized ← scenario.models.mapM (normalizedService services)
  let spread ← spreadOf (normalized.map Prod.snd)
  return {
    turns := state.sequence
    selectionCount := state.column (·.selectionCount)
    engineServiceUs := services
    engineServiceShare := (sortByKey services).map fun entry => (entry.1, shareText total entry.2)
    normalizedEngineServiceUs := ← fractionTexts (dictionary normalized)
    normalizedServiceSpreadUs := fractionText spread
    urgentSelectionCount := state.urgentSelections
    normalSelectionCount := state.normalSelections
    noPlanCount := state.noPlanCount
    maxRunnableWaitTurns := state.column (·.maxWait)
    maxConsecutiveTurns := state.column (·.maxConsecutive)
    planTraceSha256 := planHash sha256 state.records }

/-- `_run_repetition` -/
def runRepetition : Except Raised (Metrics × List TraceRecord) := do
  let state ← runDriver fraction scenario repetition driver
  return (← metricsOf sha256 scenario state, state.records)

end TurnVector.Runner
