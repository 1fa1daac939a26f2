import TurnVector.Lanes.BoundedTurn

/-! # The MLX correctness runner

`MlxNativeCorrectnessLaneRunner.run` of `lane_runner.py`, for a subject that is no fixture. What the oracle, the
subject and the files answer is given at each place of the plan.
-/

namespace TurnVector.Lanes

open Python Json Effects
open LaneController (Raised contractError)

/-! ## What a run meets -/

/-- What surrounds one case of the plan. A step's answer is also that of building its payload, and `traceLines` has what
`json.loads` makes of each line of a file. -/
structure MlxCase where
  oracle : Except Raised (Int × Str × Str)
  manifest : Except Raised Json
  prepared : Except Raised Unit
  opened : Except Raised OpenStatus
  stepped : Nat → Except Raised (Mapping Json)
  closed : Except Raised (Mapping Json × List (Mapping Json))
  probe : Str → Probe
  traceLines : Str → Except Raised (List (Except Raised Json))
  sha256 : Str → Except Raised Str

structure OutputComparison where
  caseId : Str
  output : Digests
  logits : Digests
  kv : Digests
  deriving DecidableEq

/-- A line of an owner thread trace. -/
structure OwnerRecord where
  operationId : Str
  ownerThreadId : Int
  executionThreadId : Int
  crossThreadAttempt : Bool
  accepted : Bool

/-- The files that the runner writes itself. -/
inductive MlxFile where
  | outputHashes (comparisons : List OutputComparison)
  | logitsHashes (comparisons : List OutputComparison)
  | kvHashes (comparisons : List OutputComparison)
  | ownerThreadTrace (records : List Json)
  | nativeOracle (oracle : Str) (caseCount : Nat)

/-- The oracle, the subject and the files of a whole run. An external input has a name and a path, and `written` answers
the size and the digest of a file. -/
structure MlxWorld where
  externalInputs : List (Str × Str)
  artifactRoot : Str
  benchmarkRoot : Str
  numerals : Numerals
  atCase : Nat → MlxCase
  written : MlxFile → Except Raised (Nat × Str)

inductive MlxRecord where
  | oracle (caseId : Str) (command : List Str) (exitCode : Int) (stdout stderr : Str)
  | step (caseId : Str) (stepIndex : Nat) (operation : Str) (evidence : Mapping Json)
  | comparison (comparison : OutputComparison)

/-- The local variables of `MlxNativeCorrectnessLaneRunner.run`. -/
structure MlxProgress where
  rawRecords : List MlxRecord
  ownerViolations : List Nat
  ownerRecords : List Json
  candidateArtifacts : List Artifact
  comparisons : List OutputComparison
  executed : Nat

def MlxProgress.start : MlxProgress := ⟨[], [], [], [], [], 0⟩

variable (context : LaneContext) (floats : Floats) (world : MlxWorld)

/-! ## The oracle of a case -/

def oracleProgram : Str := world.benchmarkRoot ++ lit "/oracles/mlx/reference_oracle.py"

def oracleDirectory (case : PlannedCase) : Str :=
  world.artifactRoot ++ lit "/oracle/" ++ Relations.fourDigits case.ordinal

def externalPath (name : Str) : Except Raised Str :=
  match world.externalInputs.lookup name with
  | some path => .ok path
  | none => keyError name

/-- The arguments of the oracle, of which the first is its interpreter. -/
def mlxCommand (case : PlannedCase) : Except Raised (List Str) := do
  let python ← externalPath world (lit "mlx-python")
  let architecture := (← parameter case "model_architecture").strOf
  let model ← externalPath world (architecture ++ lit "-model")
  let batch ← intOf world.numerals ((case.parameters.lookup (lit "batch_size")).getD (.int 1))
  let shape ← intOf world.numerals ((case.parameters.lookup (lit "context_tokens")).getD
    ((case.parameters.lookup (lit "prompt_tokens")).getD (.int 0)))
  let phase := if case.matrixId = lit "decode" then Phase.decode else .prefill
  return [python, lit "-B", oracleProgram world, lit "--model", model, lit "--model-architecture", architecture,
    lit "--phase", phase.text, lit "--batch", intText batch, lit "--shape", intText shape, lit "--output",
    oracleDirectory world case]

def typeName : Json → String
  | .null => "NoneType"
  | .bool _ => "bool"
  | .int _ => "int"
  | .float _ => "float"
  | .str _ => "str"
  | .arr _ => "list"
  | .obj _ => "dict"

/-- The oracle's own manifest. -/
def checkManifest (case : PlannedCase) (manifest : Except Raised Json) : Except Raised Unit := do
  match ← manifest with
  | .obj members =>
    demand (members.lookup (lit "qualification_eligible") = some (.bool true))
      (lit "MLX oracle evidence for " ++ case.caseId ++ lit " is diagnostic-only")
  | value => raised "AttributeError" (strRepr (lit (typeName value)) ++ lit " object has no attribute " ++
      strRepr (lit "get"))

/-! ## The owner thread trace -/

def traceFields : List Str :=
  [lit "operation_id", lit "owner_thread_id", lit "execution_thread_id", lit "cross_thread_attempt", lit "accepted"]

/-- One line of `_read_strict_jsonl`. -/
def readTraceLine (place : Str) (line : Except Raised Json × Nat) : Except Raised (List (Str × Json)) := do
  let refused := contractError (place ++ lit " record " ++ natText line.2 ++ lit " fields are invalid")
  match ← line.1 with
  | .obj members => if sameSet (members.map Prod.fst) traceFields then return members else refused
  | _ => refused

/-- `_read_strict_jsonl` -/
def readTrace (place : Str) (lines : Except Raised (List (Except Raised Json))) :
    Except Raised (List (List (Str × Json))) := do
  let records ← (← lines).zipIdx.mapM (readTraceLine place)
  demand (!records.isEmpty) (place ++ lit " contains no records")
  return records

def traceField (case : PlannedCase) (members : List (Str × Json)) (name : String) : Except Raised Int :=
  match members.lookup (lit name) with
  | some (.int n) => .ok n
  | _ => contractError (lit "owner thread trace " ++ lit name ++ lit " is invalid for " ++ case.caseId)

/-- The checks of a record of the trace. -/
def parseOwnerRecord (case : PlannedCase) (members : List (Str × Json)) : Except Raised OwnerRecord := do
  let operation := members.lookup (lit "operation_id")
  demand (match operation with | some (.str (_ :: _)) => true | _ => false)
    (lit "owner thread trace operation ID is invalid for " ++ case.caseId)
  let ownerThreadId ← traceField case members "owner_thread_id"
  let executionThreadId ← traceField case members "execution_thread_id"
  match members.lookup (lit "cross_thread_attempt"), members.lookup (lit "accepted") with
  | some (.bool crossThreadAttempt), some (.bool accepted) =>
    return { operationId := (operation.map strOf).getD [], ownerThreadId, executionThreadId, crossThreadAttempt, accepted }
  | _, _ => contractError (lit "owner thread trace flags are invalid for " ++ case.caseId)

def OwnerRecord.violations (record : OwnerRecord) : Nat :=
  if record.crossThreadAttempt then if record.accepted then 1 else 0
  else if !record.accepted || record.executionThreadId ≠ record.ownerThreadId then 1 else 0

/-- `{"case_id": case.case_id, **record}` -/
def ownerLine (case : PlannedCase) (members : List (Str × Json)) : Json :=
  .obj ((lit "case_id", .str case.caseId) :: members)

/-- The violations of a trace, and its records under their case. -/
def judgeTrace (case : PlannedCase) (lines : Except Raised (List (Except Raised Json))) :
    Except Raised (Nat × List Json) := do
  let trace ← readTrace (lit "owner thread trace for " ++ case.caseId) lines
  let records ← trace.mapM (parseOwnerRecord case)
  demand (records.any (·.crossThreadAttempt))
    (lit "owner thread trace omits a rejected cross-thread attempt for " ++ case.caseId)
  return ((records.map (·.violations)).sum, trace.map (ownerLine case))

/-! ## A candidate -/

def mlxArtifactIds : List Str :=
  [lit "candidate_kv", lit "candidate_logits", lit "candidate_output", lit "owner_thread_trace"]

def verifyMlxArtifacts (case : PlannedCase) (at_ : MlxCase) (descriptors : List (Mapping Json)) :
    Except Raised (List Artifact) := do
  let verified ← descriptors.mapM fun descriptor => validateSubjectArtifact at_.probe descriptor.val
  demand (sameSet (verified.map (·.id)) mlxArtifactIds && verified.length = mlxArtifactIds.length)
    (case.caseId ++ lit " candidate artifacts must be exactly " ++ listRepr mlxArtifactIds)
  return verified

/-- One of the three comparisons of a case. -/
def compareWith (at_ : MlxCase) (path : Str) (artifacts : List Artifact) (name : String) : Except Raised Digests := do
  let candidate ← artifactNamed artifacts name
  return ⟨← at_.sha256 path, candidate.sha256⟩

/-- What a closed case gave. -/
structure MlxJudged where
  artifacts : List Artifact
  violations : Nat
  ownerRecords : List Json
  comparison : OutputComparison

/-- The checks after `case_close`. -/
def judgeMlxCase (case : PlannedCase) (at_ : MlxCase) (observations : Mapping Json)
    (descriptors : List (Mapping Json)) : Except Raised MlxJudged := do
  demand observations.val.isEmpty (case.caseId ++
    lit " implementation observations must be empty; parity and owner violations are computed by the benchmark")
  let artifacts ← verifyMlxArtifacts case at_ descriptors
  let (violations, ownerRecords) ←
    judgeTrace case (at_.traceLines (← artifactNamed artifacts "owner_thread_trace").path)
  let directory := oracleDirectory world case
  let output ← compareWith at_ (directory ++ lit "/output-tokens.i32") artifacts "candidate_output"
  let logits ← compareWith at_ (directory ++ lit "/complete-logits.bin") artifacts "candidate_logits"
  let kv ← compareWith at_ (directory ++ lit "/layer-kv-normalized.bin") artifacts "candidate_kv"
  return { artifacts, violations, ownerRecords, comparison := ⟨case.caseId, output, logits, kv⟩ }

/-! ## The run -/

def MlxProgress.afterCase (progress : MlxProgress) (case : PlannedCase) (evidence : List (Mapping Json))
    (judged : MlxJudged) : MlxProgress where
  rawRecords := progress.rawRecords ++
    ((case.operations.zipIdx 1).zip evidence).map (fun step => .step case.caseId step.1.2 step.1.1 step.2) ++
      [.comparison judged.comparison]
  ownerViolations := progress.ownerViolations ++ [judged.violations]
  ownerRecords := progress.ownerRecords ++ judged.ownerRecords
  candidateArtifacts := progress.candidateArtifacts ++ judged.artifacts
  comparisons := progress.comparisons ++ [judged.comparison]
  executed := progress.executed + 1

def runReadyMlxCase (case : PlannedCase) (at_ : MlxCase) (progress : MlxProgress) : Session MlxRecord MlxProgress := do
  let evidence ← (case.operations.zipIdx 1).mapM fun operation =>
    Session.request (.stepped case.caseId operation.2 operation.1) (at_.stepped operation.2)
  let (observations, descriptors) ← Session.request (.closed case.caseId) at_.closed
  let judged ← Session.lift (judgeMlxCase world case at_ observations descriptors)
  return progress.afterCase case evidence judged

/-- The case once its oracle has run. -/
def runMlxCandidate (case : PlannedCase) (at_ : MlxCase) (progress : MlxProgress) : Session MlxRecord MlxProgress := do
  Session.lift (checkManifest case at_.manifest)
  Session.lift at_.prepared
  let status ← Session.request (.opened case.caseId) at_.opened
  match status.refused with
  | none => runReadyMlxCase world case at_ progress
  | some (refused, name) => throw (.returned (messageResult context refused
      (lit "subject returned " ++ lit name ++ lit " from " ++ case.caseId) progress.executed progress.rawRecords))

/-- The body of the loop. -/
def runMlxCase (case : PlannedCase) (at_ : MlxCase) (progress : MlxProgress) : Session MlxRecord MlxProgress := do
  let command ← Session.lift (mlxCommand world case)
  let (exitCode, stdout, stderr) ← Session.lift at_.oracle
  let progress := { progress with rawRecords := progress.rawRecords ++
    [.oracle case.caseId command exitCode (lastCharacters stdout) (lastCharacters stderr)] }
  if exitCode ≠ 0 then throw (.returned (messageResult context .environmentUnavailable
    (lit "pinned MLX oracle failed for " ++ case.caseId ++ lit ": " ++ strRepr (strip stderr)) progress.executed
    progress.rawRecords))
  else runMlxCandidate context world case at_ progress

def runMlxCases : List (PlannedCase × Nat) → MlxProgress → Session MlxRecord MlxProgress
  | [], progress => return progress
  | (case, place) :: cases, progress => do
    runMlxCases cases (← runMlxCase context world case (world.atCase place) progress)

def mlxLocalArtifacts (progress : MlxProgress) : Except Raised (List Artifact) := do
  let nativeOracle ← localArtifact "native_oracle" "native-oracle.json"
    (world.written (.nativeOracle (oracleProgram world) progress.executed))
  let outputHashes ← localArtifact "output_hashes" "output-hashes.json"
    (world.written (.outputHashes progress.comparisons))
  let logitsHashes ← localArtifact "logits_hashes" "logits-hashes.json"
    (world.written (.logitsHashes progress.comparisons))
  let kvHashes ← localArtifact "kv_hashes" "kv-hashes.json" (world.written (.kvHashes progress.comparisons))
  let ownerThreadTrace ← localArtifact "owner_thread_trace" "owner-thread-trace.jsonl"
    (world.written (.ownerThreadTrace progress.ownerRecords))
  return [nativeOracle, outputHashes, logitsHashes, kvHashes, ownerThreadTrace]

/-- `metric_recipe` -/
def metricRecipe (suite : LaneSuite) (metric : Str) : Except Raised MetricRecipe :=
  match suite.metrics.find? fun recipe => recipe.metric.val = metric with
  | some recipe => .ok recipe
  | none => contractError (lit "suite " ++ strRepr suite.suiteId.val ++ lit " has no recipe for metric " ++
      strRepr metric)

def mismatchesOf (comparisons : List OutputComparison) (part : OutputComparison → Digests) : Metric :=
  .int (comparisons.filter fun comparison => !(part comparison).agree).length

/-- What follows the loop. -/
def finishMlx (progress : MlxProgress) : Except Raised (LaneResult MlxRecord) := do
  let written ← mlxLocalArtifacts world progress
  let recipe ← metricRecipe context.suite (lit "owner_thread_violation_count")
  let violations ← reduceObservations floats recipe (progress.ownerViolations.map fun count => .int count)
  let metrics := [(lit "output_mismatch_count", mismatchesOf progress.comparisons (·.output)),
    (lit "complete_logits_mismatch_count", mismatchesOf progress.comparisons (·.logits)),
    (lit "kv_state_mismatch_count", mismatchesOf progress.comparisons (·.kv)),
    (lit "owner_thread_violation_count", violations)]
  let gates ← evaluateGates floats context.lane metrics context.frozenThresholds
  return gatedResult context progress.executed metrics gates (progress.candidateArtifacts ++ written) progress.rawRecords

def mlxInputs : List Str := [lit "dense-model", lit "mlx-python", lit "moe-model"]

def mlxCases : Session MlxRecord (LaneResult MlxRecord) := do
  let progress ← runMlxCases context world context.plan.cases.zipIdx MlxProgress.start
  Session.lift (finishMlx context floats world progress)

/-- `MlxNativeCorrectnessLaneRunner.run` -/
def mlxRun : Session MlxRecord (LaneResult MlxRecord) :=
  let missing := mlxInputs.filter fun name => !occurs name (world.externalInputs.map Prod.fst)
  if missing.isEmpty then mlxCases context floats world
  else throw (.returned (messageResult context .environmentUnavailable
    (lit "MLX oracle inputs are unavailable: " ++ listRepr missing) 0 []))

end TurnVector.Lanes
