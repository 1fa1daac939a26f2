import TurnVector.Core
import TurnVector.Lanes.BoundedTurn

/-! # The scheduler-policy runner

`SchedulerPolicyLaneRunner.run` of `lane_runner.py`, with the scenarios of `core.py`. What the subject and the files
answer is given at each place of the plan.
-/

namespace TurnVector.Lanes

open Python Json Effects
open LaneController (Raised contractError)

/-! ## Scenarios -/

structure CandidateTemplate where
  candidateId : Str
  modelId : Str
  executionPhase : Str
  serviceClass : Str
  engineServiceBoundUs : Nat
  runtimeOverheadBoundUs : Nat
  actualEngineServiceUs : Nat
  timingObligationOffsetUs : Option Nat
  capabilityAuthorized : Bool
  resourceSafe : Bool
  timingFeasible : Bool
  outputReserved : Bool
  actual_pos : 0 < actualEngineServiceUs
  actual_le : actualEngineServiceUs ≤ engineServiceBoundUs

def CandidateTemplate.atTime (template : CandidateTemplate) (nowUs : Int) : Candidate where
  candidateId := template.candidateId
  modelId := template.modelId
  executionPhase := template.executionPhase
  serviceClass := template.serviceClass
  engineServiceBoundUs := template.engineServiceBoundUs
  runtimeOverheadBoundUs := template.runtimeOverheadBoundUs
  timingObligationUs := template.timingObligationOffsetUs.map fun offset => nowUs + offset
  capabilityAuthorized := template.capabilityAuthorized
  resourceSafe := template.resourceSafe
  timingFeasible := template.timingFeasible
  outputReserved := template.outputReserved

/-- A segment that was parsed: each candidate and each model is named once. -/
structure Segment where
  turns : Nat
  clockStepUs : Nat
  candidates : List CandidateTemplate
  turns_pos : 0 < turns
  distinctCandidates : (candidates.map (·.candidateId)).Nodup
  distinctModels : (candidates.map (·.modelId)).Nodup

/-- A scenario that was parsed: its candidates are of its models. -/
structure Scenario where
  scenarioId : Str
  repetitions : Nat
  clockStartUs : Nat
  models : List ModelConfig
  segments : List Segment
  repetitions_bounds : 2 ≤ repetitions ∧ repetitions ≤ 10
  distinct : (models.map (·.modelId)).Nodup
  known : ∀ segment ∈ segments, ∀ candidate ∈ segment.candidates, candidate.modelId ∈ models.map (·.modelId)

def Scenario.totalTurns (scenario : Scenario) : Nat := (scenario.segments.map (·.turns)).sum

def Scenario.modelIds (scenario : Scenario) : List Str := scenario.models.map (·.modelId)

/-- `_SCENARIOS` -/
def scenarioNames : List (Str × Str) :=
  [(lit "weighted_service", lit "weighted-service-1-to-3"), (lit "idle_reentry", lit "idle-reentry-no-credit"),
    (lit "urgency_after_safety", lit "urgency-after-safety")]

abbrev Scenarios := Listed Scenario (·.scenarioId)

def scenarioOf (scenarios : Scenarios) (case : PlannedCase) : Except Raised Scenario :=
  let value := (case.parameters.lookup (lit "scenario")).getD .null
  match (scenarioNames.lookup value.strOf).bind fun id => scenarios.items.find? fun s => s.scenarioId = id with
  | some scenario => .ok scenario
  | none => contractError (lit "scheduler case " ++ case.caseId ++ lit " has unknown scenario " ++ Json.repr value)

/-! ## What the subject answers -/

/-- What surrounds one case of the plan. -/
structure SchedulerCase where
  prepared : Except Raised Unit
  opened : Except Raised OpenStatus
  stepped : Nat → Except Raised (Mapping Json)
  closed : Except Raised (Mapping Json × List (Mapping Json))
  probe : Str → Probe

def parseFraction (fraction : Str → Option ℚ) (place : Str) (member : Str × Json) : Except Raised (Str × ℚ) :=
  let named := place ++ lit "." ++ member.1
  match member.2 with
  | .str text =>
    match fraction text with
    | none => contractError (named ++ lit " is not a fraction")
    | some parsed =>
      if fractionText parsed = text then .ok (member.1, parsed) else contractError (named ++ lit " is not canonical")
  | _ => contractError (named ++ lit " must be a canonical fraction string")

/-- `_parse_fraction_map` -/
def parseFractionMap (fraction : Str → Option ℚ) (value : Option Json) (expected : List Str) (place : Str) :
    Except Raised (List (Str × ℚ)) :=
  let refused := contractError (place ++ lit " must contain the exact model ledger keys")
  match value with
  | some (.obj members) =>
    if sameSet (members.map Prod.fst) expected then members.mapM (parseFraction fraction place) else refused
  | _ => refused

def dictionary (pairs : List (Str × ℚ)) : Dict ℚ := pairs.foldl (fun d p => d.insert p.1 p.2) ∅

def readInitialized (fraction : Str → Option ℚ) (models : List Str) (evidence : Mapping Json) :
    Except Raised (List (Str × ℚ)) :=
  parseFractionMap fraction (evidence.val.lookup (lit "model_ledgers_us")) models
    (lit "scheduler_initialize.model_ledgers_us")

def readCandidateId (value : Option Json) : Except Raised (Option Str) :=
  match value with
  | some .null => .ok none
  | some (.str id) => .ok (some id)
  | _ => contractError (lit "scheduler_schedule candidate_id must be string or null")

def readSelection (fraction : Str → Option ℚ) (runnable : Dict ℚ) (evidence : Mapping Json) :
    Except Raised (Option Str × Dict ℚ) := do
  demand (sameSet (evidence.val.map Prod.fst) [lit "candidate_id", lit "runnable_ledgers_us"])
    (lit "scheduler_schedule evidence has invalid fields")
  let candidateId ← readCandidateId (evidence.val.lookup (lit "candidate_id"))
  let pairs ← parseFractionMap fraction (evidence.val.lookup (lit "runnable_ledgers_us")) (sorted runnable.keys)
    (lit "runnable_ledgers_us")
  return (candidateId, dictionary pairs)

def readReceiptLedgers (fraction : Str → Option ℚ) (ledgers : Dict ℚ) (evidence : Mapping Json) :
    Except Raised (Dict ℚ) := do
  demand (sameSet (evidence.val.map Prod.fst) [lit "model_ledgers_us"])
    (lit "scheduler_receipt evidence has invalid fields")
  let pairs ← parseFractionMap fraction (evidence.val.lookup (lit "model_ledgers_us")) (sorted ledgers.keys)
    (lit "scheduler_receipt.model_ledgers_us")
  return dictionary pairs

/-! ## Records -/

structure ReceiptRecord where
  expectedLedgers : List (Str × Str)
  observedLedgers : List (Str × Str)
  ok : Bool
  deriving DecidableEq

/-- The record of a turn, but for its repetition. -/
structure TurnRecord where
  caseId : Str
  scenarioId : Str
  sequence : Nat
  segmentIndex : Nat
  segmentTurn : Nat
  nowUs : Int
  decisionClass : DecisionClass
  expectedCandidateId : Option Str
  observedCandidateId : Option Str
  expectedRunnable : List (Str × Str)
  observedRunnable : List (Str × Str)
  selectionOk : Bool
  receipt : Option ReceiptRecord
  deriving DecidableEq

structure SchedulerRecord where
  repetition : Nat
  turn : TurnRecord

def TurnRecord.ok (record : TurnRecord) : Bool := record.selectionOk && record.receipt.all (·.ok)

def decisionText : DecisionClass → String
  | .urgent => "urgent"
  | .normal => "normal"
  | .noPlan => "no_plan"

def textOrNull : Option Str → Json
  | some text => .str text
  | none => .null

def texts (members : List (Str × Str)) : Json := .obj (members.map fun p => (p.1, .str p.2))

def ReceiptRecord.members (receipt : ReceiptRecord) : List (Str × Json) :=
  [(lit "expected_receipt_ledgers_us", texts receipt.expectedLedgers),
    (lit "observed_receipt_ledgers_us", texts receipt.observedLedgers), (lit "receipt_ok", .bool receipt.ok)]

/-- The record without its repetition. -/
def TurnRecord.json (record : TurnRecord) : Json :=
  .obj ([(lit "case_id", .str record.caseId), (lit "scenario_id", .str record.scenarioId),
    (lit "sequence", .int record.sequence), (lit "segment_index", .int record.segmentIndex),
    (lit "segment_turn", .int record.segmentTurn), (lit "now_us", .int record.nowUs),
    (lit "decision_class", .str (lit (decisionText record.decisionClass))),
    (lit "expected_candidate_id", textOrNull record.expectedCandidateId),
    (lit "observed_candidate_id", textOrNull record.observedCandidateId),
    (lit "expected_runnable_ledgers_us", texts record.expectedRunnable),
    (lit "observed_runnable_ledgers_us", texts record.observedRunnable),
    (lit "selection_ok", .bool record.selectionOk)] ++ (record.receipt.map (·.members)).getD [])

/-- The digest of a repetition. -/
def replayDigest (sha256 : Str → Str) (records : List TurnRecord) : Str :=
  sha256 (dumps .compact 0 (.arr (records.map (·.json))))

/-- The subject and the files of a whole run. `fraction` is `Fraction` of a text, and `sha256` the hex digest of one. -/
structure SchedulerWorld where
  suite : Except Raised Scenarios
  fraction : Str → Option ℚ
  sha256 : Str → Str
  atCase : Nat → SchedulerCase
  written : List SchedulerRecord → Except Raised (Nat × Str)

/-! ## One repetition -/

def ofExc : Exc → Raised
  | .contractError text => ⟨.contractError, text⟩
  | .keyError key => ⟨.exception, lit "KeyError(" ++ strRepr key ++ lit ")"⟩
  | _ => ⟨.exception, []⟩

/-- A call of the oracle. -/
def callOracle {α : Type} (method : Method SchedulerOracle α) (oracle : SchedulerOracle) :
    Except Raised (α × SchedulerOracle) :=
  match method.call oracle with
  | (.ok a, after) => .ok (a, after)
  | (.error error, _) => .error (ofExc error)

/-- The local variables of a repetition. -/
structure Repetition where
  oracle : SchedulerOracle
  stepIndex : Nat
  nowUs : Int
  sequence : Nat
  records : List TurnRecord
  selectionMismatches : Nat
  receiptMismatches : Nat
  aborted : Bool

/-- A turn of a scenario, and where it stands. -/
structure Turn where
  segment : Segment
  segmentIndex : Nat
  segmentTurn : Nat

def Repetition.afterTurn (state : Repetition) (turn : Turn) (oracle : SchedulerOracle) (requests : Nat)
    (record : TurnRecord) : Repetition where
  oracle := oracle
  stepIndex := state.stepIndex + requests
  nowUs := state.nowUs + turn.segment.clockStepUs
  sequence := state.sequence + 1
  records := state.records ++ [record]
  selectionMismatches := state.selectionMismatches + if record.selectionOk then 0 else 1
  receiptMismatches := state.receiptMismatches + if record.receipt.all (·.ok) then 0 else 1
  aborted := state.aborted || !record.ok

variable (context : LaneContext) (floats : Floats) (world : SchedulerWorld)

/-- What a turn is about, with what the oracle scheduled. -/
structure Scheduled where
  expected : Option Candidate
  decisionClass : DecisionClass
  runnable : Dict ℚ
  oracle : SchedulerOracle

def scheduleTurn (turn : Turn) (nowUs : Int) (oracle : SchedulerOracle) : Except Raised Scheduled := do
  let ((expected, decisionClass, runnable), oracle) ←
    callOracle (SchedulerOracle.schedule nowUs (turn.segment.candidates.map (·.atTime nowUs))) oracle
  return { expected, decisionClass, runnable, oracle }

/-- `actual_by_id[candidate_id]` -/
def actualService (turn : Turn) (candidateId : Str) : Except Raised Nat :=
  match (dictOf (turn.segment.candidates.map fun c => (c.candidateId, c.actualEngineServiceUs))).lookup candidateId with
  | some actual => .ok actual
  | none => keyError candidateId

def acceptTurn (turn : Turn) (candidate : Candidate) (oracle : SchedulerOracle) :
    Except Raised (Dict ℚ × SchedulerOracle) := do
  let actual ← actualService turn candidate.candidateId
  callOracle (SchedulerOracle.acceptReceipt candidate.candidateId candidate.modelId actual) oracle

def fractionTexts (values : Dict ℚ) : Except Raised (List (Str × Str)) := (fractionMap values).mapError ofExc

/-- The record of a turn before its receipt. -/
def turnRecord (case : PlannedCase) (scenario : Scenario) (turn : Turn) (sequence : Nat) (nowUs : Int)
    (scheduled : Scheduled) (observedId : Option Str) (observed : Dict ℚ) : Except Raised TurnRecord := do
  let expectedRunnable ← fractionTexts scheduled.runnable
  let observedRunnable ← fractionTexts observed
  return { caseId := case.caseId, scenarioId := scenario.scenarioId, sequence, segmentIndex := turn.segmentIndex
           segmentTurn := turn.segmentTurn, nowUs, decisionClass := scheduled.decisionClass
           expectedCandidateId := scheduled.expected.map (·.candidateId), observedCandidateId := observedId
           expectedRunnable, observedRunnable
           selectionOk := observedId = scheduled.expected.map (·.candidateId) && decide (observed = scheduled.runnable)
           receipt := none }

def receiptRecord (expected observed : Dict ℚ) : Except Raised ReceiptRecord := do
  return ⟨← fractionTexts expected, ← fractionTexts observed, decide (observed = expected)⟩

/-- The receipt of a selection that agreed. -/
def runReceipt (case : PlannedCase) (at_ : SchedulerCase) (turn : Turn) (candidate : Candidate)
    (scheduled : Scheduled) (record : TurnRecord) (state : Repetition) : Session SchedulerRecord Repetition := do
  let (ledgers, oracle) ← Session.lift (acceptTurn turn candidate scheduled.oracle)
  let evidence ← Session.request (.stepped case.caseId (state.stepIndex + 2) (lit "scheduler_receipt"))
    (at_.stepped (state.stepIndex + 2))
  let observed ← Session.lift (readReceiptLedgers world.fraction ledgers evidence)
  let receipt ← Session.lift (receiptRecord ledgers observed)
  return state.afterTurn turn oracle 2 { record with receipt := some receipt }

/-- The body of the inner loop. -/
def runTurn (case : PlannedCase) (at_ : SchedulerCase) (scenario : Scenario) (turn : Turn) (state : Repetition) :
    Session SchedulerRecord Repetition := do
  let scheduled ← Session.lift (scheduleTurn turn state.nowUs state.oracle)
  let evidence ← Session.request (.stepped case.caseId (state.stepIndex + 1) (lit "scheduler_schedule"))
    (at_.stepped (state.stepIndex + 1))
  let (observedId, observed) ← Session.lift (readSelection world.fraction scheduled.runnable evidence)
  let record ← Session.lift
    (turnRecord case scenario turn (state.sequence + 1) state.nowUs scheduled observedId observed)
  if record.selectionOk then
    match scheduled.expected with
    | some candidate => runReceipt world case at_ turn candidate scheduled record state
    | none => do
      let (_, oracle) ← Session.lift (callOracle SchedulerOracle.clearNoPlan scheduled.oracle)
      return state.afterTurn turn oracle 1 record
  else return state.afterTurn turn scheduled.oracle 1 record

def runSegment (case : PlannedCase) (at_ : SchedulerCase) (scenario : Scenario) :
    List Turn → Repetition → Session SchedulerRecord Repetition
  | [], state => return state
  | turn :: turns, state => do
    let state ← runTurn world case at_ scenario turn state
    if state.aborted then return state else runSegment case at_ scenario turns state

def turnsOf (segment : Segment × Nat) : List Turn :=
  (List.range segment.1.turns).map fun segmentTurn => ⟨segment.1, segment.2, segmentTurn⟩

def runSegments (case : PlannedCase) (at_ : SchedulerCase) (scenario : Scenario) :
    List (Segment × Nat) → Repetition → Session SchedulerRecord Repetition
  | [], state => return state
  | segment :: segments, state =>
    if state.aborted then return state
    else do runSegments case at_ scenario segments (← runSegment world case at_ scenario (turnsOf segment) state)

/-- The local variables of a case. -/
structure CaseState where
  stepIndex : Nat
  selectionMismatches : Nat
  receiptMismatches : Nat
  repetitionHashes : List Str
  rawRecords : List SchedulerRecord

def CaseState.begin (state : CaseState) (scenario : Scenario) (initialized : List (Str × ℚ)) : Repetition where
  oracle := SchedulerOracle.init scenario.models
  stepIndex := state.stepIndex + 1
  nowUs := scenario.clockStartUs
  sequence := 0
  records := []
  selectionMismatches := state.selectionMismatches
  receiptMismatches := state.receiptMismatches + if initialized.any fun p => p.2 ≠ 0 then 1 else 0
  aborted := false

def CaseState.afterRepetition (state : CaseState) (repetition : Nat) (done : Repetition) : CaseState where
  stepIndex := done.stepIndex
  selectionMismatches := done.selectionMismatches
  receiptMismatches := done.receiptMismatches
  repetitionHashes := state.repetitionHashes ++ [replayDigest world.sha256 done.records]
  rawRecords := state.rawRecords ++ done.records.map fun turn => ⟨repetition, turn⟩

def runRepetition (case : PlannedCase) (at_ : SchedulerCase) (scenario : Scenario) (repetition : Nat)
    (state : CaseState) : Session SchedulerRecord CaseState := do
  let evidence ← Session.request (.stepped case.caseId (state.stepIndex + 1) (lit "scheduler_initialize"))
    (at_.stepped (state.stepIndex + 1))
  let initialized ← Session.lift (readInitialized world.fraction scenario.modelIds evidence)
  let done ← runSegments world case at_ scenario scenario.segments.zipIdx (state.begin scenario initialized)
  return state.afterRepetition world repetition done

def runRepetitions (case : PlannedCase) (at_ : SchedulerCase) (scenario : Scenario) :
    List Nat → CaseState → Session SchedulerRecord CaseState
  | [], state => return state
  | repetition :: repetitions, state => do
    runRepetitions case at_ scenario repetitions (← runRepetition world case at_ scenario repetition state)

/-! ## The run -/

/-- The local variables of `SchedulerPolicyLaneRunner.run`. -/
structure SchedulerProgress where
  rawRecords : List SchedulerRecord
  selectionMismatches : Nat
  receiptMismatches : Nat
  replayMismatches : Nat
  executed : Nat
  artifacts : List Artifact

def SchedulerProgress.start : SchedulerProgress := ⟨[], 0, 0, 0, 0, []⟩

def SchedulerProgress.enter (progress : SchedulerProgress) : CaseState :=
  ⟨0, progress.selectionMismatches, progress.receiptMismatches, [], progress.rawRecords⟩

/-- `sum(value != hashes[0] for value in hashes[1:])` -/
def replayDifferences (hashes : List Str) : Nat :=
  (hashes.tail.filter fun digest => digest ≠ hashes.headD []).length

def SchedulerProgress.afterCase (progress : SchedulerProgress) (state : CaseState) (artifacts : List Artifact) :
    SchedulerProgress where
  rawRecords := state.rawRecords
  selectionMismatches := state.selectionMismatches
  receiptMismatches := state.receiptMismatches
  replayMismatches := progress.replayMismatches + replayDifferences state.repetitionHashes
  executed := progress.executed + 1
  artifacts := progress.artifacts ++ artifacts

def notReady (progress : SchedulerProgress) (case : PlannedCase) (status : LaneStatus) (name : String) :
    LaneResult SchedulerRecord where
  laneId := context.lane.laneId.val
  status := status
  caseCount := context.plan.cases.length
  executedCaseCount := progress.executed
  metrics := []
  gates := []
  failures := [.case status case.caseId (lit "subject returned " ++ lit name ++ lit " from case_open")]
  artifacts := progress.artifacts
  rawRecords := progress.rawRecords

def runReadySchedulerCase (case : PlannedCase) (at_ : SchedulerCase) (scenario : Scenario)
    (progress : SchedulerProgress) : Session SchedulerRecord SchedulerProgress := do
  let state ← runRepetitions world case at_ scenario (List.range scenario.repetitions) progress.enter
  let (observations, descriptors) ← Session.request (.closed case.caseId) at_.closed
  Session.lift (demand observations.val.isEmpty (lit "scheduler-policy case_close observations must be empty"))
  let artifacts ← Session.lift (descriptors.mapM fun descriptor => validateSubjectArtifact at_.probe descriptor.val)
  return progress.afterCase state artifacts

def runSchedulerCase (scenarios : Scenarios) (case : PlannedCase) (at_ : SchedulerCase)
    (progress : SchedulerProgress) : Session SchedulerRecord SchedulerProgress := do
  let scenario ← Session.lift (scenarioOf scenarios case)
  Session.lift at_.prepared
  let status ← Session.request (.opened case.caseId) at_.opened
  match status.refused with
  | none => runReadySchedulerCase world case at_ scenario progress
  | some (refused, name) => throw (.returned (notReady context progress case refused name))

def runSchedulerCases (scenarios : Scenarios) :
    List (PlannedCase × Nat) → SchedulerProgress → Session SchedulerRecord SchedulerProgress
  | [], progress => return progress
  | (case, place) :: cases, progress => do
    runSchedulerCases scenarios cases (← runSchedulerCase context world scenarios case (world.atCase place) progress)

def schedulerMetrics (progress : SchedulerProgress) : List (Str × Metric) :=
  [(lit "oracle_selection_mismatch_count", .int progress.selectionMismatches),
    (lit "receipt_ledger_mismatch_count", .int progress.receiptMismatches),
    (lit "plan_trace_hash_mismatch_count", .int progress.replayMismatches)]

def finishScheduler (progress : SchedulerProgress) : Except Raised (LaneResult SchedulerRecord) := do
  let trace ← localArtifact "trace" "scheduler-trace.jsonl" (world.written progress.rawRecords)
  let gates ← evaluateGates floats context.lane (schedulerMetrics progress) context.frozenThresholds
  return gatedResult context progress.executed (schedulerMetrics progress) gates (progress.artifacts ++ [trace])
    progress.rawRecords

def requireSuite : Except Raised Scenarios :=
  if context.lane.harness.legacyEntrypoint = none then
    contractError (lit "scheduler-policy lane lost its legacy oracle suite")
  else world.suite

/-- `SchedulerPolicyLaneRunner.run` -/
def schedulerRun : Session SchedulerRecord (LaneResult SchedulerRecord) := do
  let scenarios ← Session.lift (requireSuite context world)
  let progress ← runSchedulerCases context world scenarios context.plan.cases.zipIdx SchedulerProgress.start
  Session.lift (finishScheduler context floats world progress)

/-- What a caller sees of `SchedulerPolicyLaneRunner.run`. -/
def runSchedulerLane : Except Raised (LaneResult SchedulerRecord) :=
  Session.settle (Action.run (schedulerRun context floats world) []).1

end TurnVector.Lanes
