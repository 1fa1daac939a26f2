import TurnVector.Authority.ContractJson
import TurnVector.Lanes.Completeness

/-! # The bounded-turn runner

`BoundedTurnAndFfiLaneRunner.run` of `lane_runner.py`, for a subject that is no fixture. What the oracle, the subject
and the files answer is given at each place of the plan.
-/

namespace TurnVector.Lanes

open Python Json Effects
open CrossEngine (PyFloat)
open LaneController (Raised contractError)
open ContractJson (isSpace)

/-! ## Keys -/

inductive Phase where
  | prefill
  | decode
  deriving DecidableEq

def Phase.text : Phase → Str
  | prefill => lit "prefill"
  | decode => lit "decode"

structure BaselineKey where
  architecture : Str
  phase : Phase
  batch : Int
  shape : Int
  deriving DecidableEq

/-- The `repr` of the key's tuple. -/
def BaselineKey.repr (key : BaselineKey) : Str :=
  lit "(" ++ strRepr key.architecture ++ lit ", " ++ strRepr key.phase.text ++ lit ", " ++ intText key.batch ++
    lit ", " ++ intText key.shape ++ lit ")"

def keyError {α : Type} (name : Str) : Except Raised α :=
  .error ⟨.exception, lit "KeyError(" ++ strRepr name ++ lit ")"⟩

def raised {α : Type} (type : String) (text : Str) : Except Raised α :=
  .error ⟨.exception, lit type ++ lit "(" ++ strRepr text ++ lit ")"⟩

/-- `case.parameters[name]` -/
def parameter (case : PlannedCase) (name : String) : Except Raised Json :=
  match case.parameters.lookup (lit name) with
  | some value => .ok value
  | none => keyError (lit name)

/-- `int` of texts and floats. -/
structure Numerals where
  intOfText : Str → Option Int
  ofToken : Str → PyFloat

def notANumber {α : Type} (type : String) : Except Raised α :=
  raised "TypeError" (lit "int() argument must be a string, a bytes-like object or a real number, not " ++
    strRepr (lit type))

/-- `int(value)` -/
def intOf (numerals : Numerals) (value : Json) : Except Raised Int :=
  match value with
  | .bool b => .ok (if b then 1 else 0)
  | .int n => .ok n
  | .str text =>
    match numerals.intOfText text with
    | some n => .ok n
    | none => raised "ValueError" (lit "invalid literal for int() with base 10: " ++ strRepr text)
  | .float token =>
    match numerals.ofToken token with
    | .finite q => .ok (if 0 ≤ q then ⌊q⌋ else ⌈q⌉)
    | .infinite _ => raised "OverflowError" (lit "cannot convert float infinity to integer")
    | .nan => raised "ValueError" (lit "cannot convert float NaN to integer")
  | .null => notANumber "NoneType"
  | .arr _ => notANumber "list"
  | .obj _ => notANumber "dict"

/-- The key that pairs a candidate with its baseline. -/
def caseKey (numerals : Numerals) (case : PlannedCase) : Except Raised BaselineKey := do
  let architecture ← parameter case "model_architecture"
  let batch ← intOf numerals ((case.parameters.lookup (lit "batch_size")).getD (.int 1))
  let shape ← intOf numerals ((case.parameters.lookup (lit "context_tokens")).getD
    ((case.parameters.lookup (lit "prompt_tokens")).getD (.int 0)))
  return ⟨architecture.strOf, if case.matrixId = lit "decode-boundary" then .decode else .prefill, batch, shape⟩

def oracleBoundary : Json := .str (lit "cpp_direct_oracle")
def candidateBoundary : Json := .str (lit "implementation_candidate")

def boundaryOf (case : PlannedCase) : Option Json := case.parameters.lookup (lit "boundary")

/-! ## The oracle bundle -/

structure NativeModel where
  graph : Str
  layers : Nat
  kvHeads : Nat
  headDim : Nat
  vocabSize : Nat

/-- What `_load_cpp_direct_bundle` returns: it refuses any other models. -/
structure Bundle where
  root : Str
  manifest : Str
  binary : Str
  seed : Json
  warmup : Nat
  iterations : Nat
  dense : NativeModel
  moe : NativeModel

/-- `bundle["models"][architecture]` -/
def Bundle.model (bundle : Bundle) (architecture : Str) : Except Raised NativeModel :=
  if architecture = lit "dense" then .ok bundle.dense
  else if architecture = lit "moe" then .ok bundle.moe
  else keyError architecture

/-! ## What a run meets -/

inductive OracleRun where
  | raised (error : Raised)
  | unavailable (error : Str)
  | finished (exitCode : Int) (stdout stderr : Str)

/-- What surrounds one case of the plan. A step's answer is also that of building its payload. -/
structure NativeCase where
  prepared : Except Raised Unit
  oracle : OracleRun
  hasContent : Str → Bool
  sha256 : Str → Except Raised Str
  oracleLatency : Str → Except Raised (List ℚ)
  opened : Except Raised OpenStatus
  stepped : Nat → Except Raised (Mapping Json)
  closed : Except Raised (Mapping Json × List (Mapping Json))
  probe : Str → Probe
  candidateLatency : Str → Except Raised (List (ℚ × ℚ))
  readJson : Str → Except Raised Json

structure Baseline where
  caseId : Str
  logitsSha256 : Str
  kvSha256 : Str
  wallUs : List ℚ
  deriving DecidableEq

structure Digests where
  oracleSha256 : Str
  candidateSha256 : Str
  deriving DecidableEq

def Digests.agree (digests : Digests) : Bool := digests.oracleSha256 = digests.candidateSha256

structure Comparison where
  caseId : Str
  pairedOracleCaseId : Str
  logits : Digests
  kv : Digests
  deriving DecidableEq

def Comparison.mismatches (comparison : Comparison) : Nat :=
  (if comparison.logits.agree then 0 else 1) + if comparison.kv.agree then 0 else 1

inductive LatencyRecord where
  | oracle (caseId : Str) (wallUs : List ℚ)
  | candidate (caseId : Str) (wallUs engineServiceUs : List ℚ) (pairedOracleCaseId : Str)

/-- The files that the runner writes itself. -/
inductive LocalFile where
  | nativeOracle (bundle : Bundle) (baselineCaseCount : Nat)
  | outputHashes (comparisons : List Comparison)
  | latencySamples (records : List LatencyRecord)
  | turnReceipts (records : List Json)
  | cleanupTrace (records : List Json)

/-- The oracle, the subject and the files of a whole run. `written` answers the size and the digest of a file. -/
structure NativeWorld where
  externalInputs : List Str
  artifactRoot : Str
  bundle : Except Raised Bundle
  numerals : Numerals
  atCase : Nat → NativeCase
  written : LocalFile → Except Raised (Nat × Str)

inductive NativeRecord where
  | oracle (caseId : Str) (command : List Str) (exitCode : Int) (stdout stderr : Str)
  | step (caseId : Str) (stepIndex : Nat) (operation : Str) (evidence : Mapping Json)
  | comparison (comparison : Comparison)

/-- The local variables of `BoundedTurnAndFfiLaneRunner.run`. -/
structure NativeProgress where
  baselines : List (BaselineKey × Baseline)
  rawRecords : List NativeRecord
  comparisons : List Comparison
  latencyRecords : List LatencyRecord
  receiptRecords : List Json
  cleanupRecords : List Json
  candidateArtifacts : List Artifact
  turnServiceSamples : List ℚ
  regressionSamples : List PyFloat
  mismatchCount : Nat
  uncleanCount : Nat
  executed : Nat

def NativeProgress.start : NativeProgress := ⟨[], [], [], [], [], [], [], [], [], 0, 0, 0⟩

/-- `_lane_result_with_message` -/
def messageResult {ρ : Type} (context : LaneContext) (status : LaneStatus) (message : Str) (executed : Nat)
    (rawRecords : List ρ) : LaneResult ρ where
  laneId := context.lane.laneId.val
  status := status
  caseCount := context.plan.cases.length
  executedCaseCount := executed
  metrics := []
  gates := []
  failures := [.message status message]
  artifacts := []
  rawRecords := rawRecords

/-- `if not condition: raise ContractError(text)` -/
def demand (condition : Bool) (text : Str) : Except Raised Unit := if condition then .ok () else contractError text

theorem demand_ok {condition : Bool} {text : Str} {u : Unit} (h : demand condition text = .ok u) :
    condition = true := by
  unfold demand at h
  split at h
  · assumption
  · cases h

variable (context : LaneContext) (floats : Floats) (world : NativeWorld) (bundle : Bundle)

/-! ## A baseline -/

def outputPrefix (case : PlannedCase) : Str :=
  world.artifactRoot ++ lit "/cpp-direct/" ++ Relations.fourDigits case.ordinal ++ lit "/turn"

def oracleCommand (case : PlannedCase) (key : BaselineKey) (model : NativeModel) : List Str :=
  [bundle.binary, model.graph, outputPrefix world case, key.phase.text, intText key.batch, intText key.shape,
    natText model.layers, natText model.kvHeads, natText model.headDim, natText model.vocabSize, natText bundle.warmup,
    natText bundle.iterations, bundle.seed.strOf]

/-- `text[-4096:]` -/
def lastCharacters (text : Str) : Str := text.drop (text.length - 4096)

/-- `text.strip()` -/
def strip (text : Str) : Str := ((text.dropWhile isSpace).reverse.dropWhile isSpace).reverse

def outputPaths (case : PlannedCase) : Str × Str × Str :=
  let path := outputPrefix world case
  (path ++ lit ".csv", path ++ lit ".logits.f32", path ++ lit ".kv.f32")

/-- What the oracle's files say. -/
def readBaseline (case : PlannedCase) (at_ : NativeCase) : Except Raised Baseline := do
  let (csv, logits, kv) := outputPaths world case
  [csv, logits, kv].forM fun path =>
    demand (at_.hasContent path) (lit "C++ Direct oracle omitted non-empty output " ++ path)
  let wallUs ← at_.oracleLatency csv
  demand (wallUs.length = bundle.iterations) (lit "C++ Direct latency sample count differs for " ++ case.caseId)
  return ⟨case.caseId, ← at_.sha256 logits, ← at_.sha256 kv, wallUs⟩

def registerBaseline (case : PlannedCase) (at_ : NativeCase) (key : BaselineKey) (progress : NativeProgress) :
    Except Raised NativeProgress := do
  let baseline ← readBaseline world bundle case at_
  demand (progress.baselines.lookup key = none) (lit "duplicate C++ Direct baseline for " ++ key.repr)
  return { progress with
    baselines := progress.baselines ++ [(key, baseline)]
    latencyRecords := progress.latencyRecords ++ [.oracle case.caseId baseline.wallUs]
    executed := progress.executed + 1 }

def environmentUnavailable (progress : NativeProgress) (message : Str) : Stop NativeRecord :=
  .returned (messageResult context .environmentUnavailable message progress.executed progress.rawRecords)

/-- The oracle arm of the loop. -/
def runOracle (case : PlannedCase) (at_ : NativeCase) (key : BaselineKey) (model : NativeModel)
    (progress : NativeProgress) : Except (Stop NativeRecord) NativeProgress :=
  match at_.prepared, at_.oracle with
  | .error error, _ | .ok _, .raised error => .error (.raised error)
  | .ok _, .unavailable error =>
    .error (environmentUnavailable context progress
      (lit "C++ Direct oracle could not run for " ++ case.caseId ++ lit ": " ++ error))
  | .ok _, .finished exitCode stdout stderr =>
    let command := oracleCommand world bundle case key model
    let progress := { progress with rawRecords := progress.rawRecords ++
      [.oracle case.caseId command exitCode (lastCharacters stdout) (lastCharacters stderr)] }
    if exitCode ≠ 0 then
      .error (environmentUnavailable context progress
        (lit "C++ Direct oracle failed for " ++ case.caseId ++ lit ": " ++ strRepr (strip stderr)))
    else (registerBaseline world bundle case at_ key progress).mapError .raised

/-! ## A candidate -/

def candidateArtifactIds : List Str :=
  [lit "candidate_cleanup", lit "candidate_kv", lit "candidate_latency", lit "candidate_logits", lit "turn_receipt"]

/-- `by_id[name]` -/
def artifactNamed (verified : List Artifact) (name : String) : Except Raised Artifact :=
  match verified.find? fun artifact => artifact.id = lit name with
  | some artifact => .ok artifact
  | none => keyError (lit name)

/-- The terminal of an outcome, and its other member. -/
def readOutcome (label other : String) (caseId : Str) (outcome : Json) : Except Raised (Str × Json) :=
  let invalid := fun part => contractError (lit label ++ lit part ++ caseId)
  match outcome with
  | .obj members =>
    match members.lookup (lit "terminal"), members.lookup (lit other) with
    | some terminal, some value =>
      if members.length ≠ 2 then invalid " outcome is invalid for "
      else match terminal with
        | .str name =>
          if occurs name [lit "completed", lit "cancelled", lit "failed"] then .ok (name, value)
          else invalid " terminal is invalid for "
        | .arr _ => raised "TypeError" (lit "unhashable type: " ++ strRepr (lit "list"))
        | .obj _ => raised "TypeError" (lit "unhashable type: " ++ strRepr (lit "dict"))
        | _ => invalid " terminal is invalid for "
    | _, _ => invalid " outcome is invalid for "
  | _ => invalid " outcome is invalid for "

/-- `_read_strict_json` with the identity check after it: the document and its outcomes. -/
def readOutcomes (label place schema : String) (caseId : Str) (document : Except Raised Json) :
    Except Raised (Json × List Json) := do
  let value ← document
  match value with
  | .obj members =>
    demand (sameSet (members.map Prod.fst) [lit "schema_version", lit "case_id", lit "outcomes"])
      (lit place ++ lit " for " ++ caseId ++ lit " fields are invalid")
    let invalid := contractError (lit label ++ lit " identity is invalid for " ++ caseId)
    match members.lookup (lit "outcomes") with
    | some (.arr (first :: rest)) =>
      if members.lookup (lit "schema_version") = some (.str (lit schema)) ∧
          members.lookup (lit "case_id") = some (.str caseId) then return (value, first :: rest)
      else invalid
    | _ => invalid
  | _ => contractError (lit place ++ lit " for " ++ caseId ++ lit " fields are invalid")

/-- The terminal of one outcome of a Turn Receipt. -/
def boundedTerminal (caseId : Str) (outcome : Json) : Except Raised Str := do
  let (terminal, bounded) ← readOutcome "Turn Receipt" "bounded" caseId outcome
  demand (bounded = .bool true) (lit "Turn Receipt is unbounded for " ++ caseId)
  return terminal

def readReceipt (caseId : Str) (document : Except Raised Json) : Except Raised Json := do
  let (receipt, outcomes) ← readOutcomes "Turn Receipt" "Turn Receipt"
    "turnvector.benchmark.turn-receipt-evidence.v1" caseId document
  let terminals ← outcomes.mapM (boundedTerminal caseId)
  demand (occurs (lit "completed") terminals && occurs (lit "cancelled") terminals)
    (caseId ++ lit " must exercise completed and cancelled native outcomes")
  return receipt

/-- The terminal of one outcome of a cleanup trace, and whether it was cleaned. -/
def cleanedTerminal (caseId : Str) (outcome : Json) : Except Raised (Str × Bool) := do
  let (terminal, cleaned) ← readOutcome "cleanup" "cleaned" caseId outcome
  match cleaned with
  | .bool cleaned => return (terminal, cleaned)
  | _ => contractError (lit "cleanup state is invalid for " ++ caseId)

/-- The cleanup trace, and how many of its outcomes are unclean. -/
def readCleanup (caseId : Str) (document : Except Raised Json) : Except Raised (Json × Nat) := do
  let (cleanup, outcomes) ← readOutcomes "cleanup trace" "cleanup trace"
    "turnvector.benchmark.native-cleanup-evidence.v1" caseId document
  let terminals ← outcomes.mapM (cleanedTerminal caseId)
  demand (occurs (lit "cancelled") (terminals.map Prod.fst))
    (lit "cleanup trace omits cancellation for " ++ caseId)
  return (cleanup, (terminals.filter fun terminal => !terminal.2).length)

/-- What a closed candidate case gave. -/
structure Judged where
  artifacts : List Artifact
  comparison : Comparison
  samples : List (ℚ × ℚ)
  receipt : Json
  cleanup : Json
  unclean : Nat

def verifyArtifacts (case : PlannedCase) (at_ : NativeCase) (descriptors : List (Mapping Json)) :
    Except Raised (List Artifact) := do
  let verified ← descriptors.mapM fun descriptor => validateSubjectArtifact at_.probe descriptor.val
  demand (sameSet (verified.map (·.id)) candidateArtifactIds && verified.length = candidateArtifactIds.length)
    (case.caseId ++ lit " candidate artifacts must be exactly " ++ listRepr candidateArtifactIds)
  return verified

/-- The checks after `case_close`. -/
def judgeCandidate (case : PlannedCase) (at_ : NativeCase) (baseline : Baseline) (observations : Mapping Json)
    (descriptors : List (Mapping Json)) : Except Raised Judged := do
  demand observations.val.isEmpty
    (case.caseId ++ lit " candidate observations must be empty; raw files are judged")
  let artifacts ← verifyArtifacts case at_ descriptors
  let samples ← at_.candidateLatency (← artifactNamed artifacts "candidate_latency").path
  demand (samples.length = baseline.wallUs.length)
    (lit "candidate and C++ Direct sample counts differ for " ++ case.caseId)
  let receipt ← readReceipt case.caseId (at_.readJson (← artifactNamed artifacts "turn_receipt").path)
  let (cleanup, unclean) ←
    readCleanup case.caseId (at_.readJson (← artifactNamed artifacts "candidate_cleanup").path)
  let logits ← artifactNamed artifacts "candidate_logits"
  let kv ← artifactNamed artifacts "candidate_kv"
  let comparison := ⟨case.caseId, baseline.caseId, ⟨baseline.logitsSha256, logits.sha256⟩,
    ⟨baseline.kvSha256, kv.sha256⟩⟩
  return { artifacts, comparison, samples, receipt, cleanup, unclean }

/-- `(observed - reference) / reference * 100.0` -/
def regression (observed reference : ℚ) : PyFloat :=
  floats.mul (floats.div (floats.sub (.finite observed) (.finite reference)) (.finite reference)) (.finite 100)

/-- The latency of a candidate against that of its baseline. -/
def regressions (samples : List (ℚ × ℚ)) (reference : List ℚ) : List PyFloat :=
  (samples.map Prod.fst).zipWith (regression floats) reference

def NativeProgress.afterCandidate (progress : NativeProgress) (case : PlannedCase) (evidence : List (Mapping Json))
    (baseline : Baseline) (judged : Judged) : NativeProgress where
  baselines := progress.baselines
  rawRecords := progress.rawRecords ++
    ((case.operations.zipIdx 1).zip evidence).map (fun step => .step case.caseId step.1.2 step.1.1 step.2) ++
      [.comparison judged.comparison]
  comparisons := progress.comparisons ++ [judged.comparison]
  latencyRecords := progress.latencyRecords ++ [.candidate case.caseId (judged.samples.map Prod.fst)
    (judged.samples.map Prod.snd) baseline.caseId]
  receiptRecords := progress.receiptRecords ++ [judged.receipt]
  cleanupRecords := progress.cleanupRecords ++ [judged.cleanup]
  candidateArtifacts := progress.candidateArtifacts ++ judged.artifacts
  turnServiceSamples := progress.turnServiceSamples ++ judged.samples.map Prod.snd
  regressionSamples := progress.regressionSamples ++ regressions floats judged.samples baseline.wallUs
  mismatchCount := progress.mismatchCount + judged.comparison.mismatches
  uncleanCount := progress.uncleanCount + judged.unclean
  executed := progress.executed + 1

def priorBaseline (progress : NativeProgress) (key : BaselineKey) : Except Raised Baseline :=
  match progress.baselines.lookup key with
  | some baseline => .ok baseline
  | none => contractError (lit "candidate boundary has no prior C++ Direct pair for " ++ key.repr)

def runReadyCandidate (case : PlannedCase) (at_ : NativeCase) (baseline : Baseline) (progress : NativeProgress) :
    Session NativeRecord NativeProgress := do
  let evidence ← (case.operations.zipIdx 1).mapM fun operation =>
    Session.request (.stepped case.caseId operation.2 operation.1) (at_.stepped operation.2)
  let (observations, descriptors) ← Session.request (.closed case.caseId) at_.closed
  let judged ← Session.lift (judgeCandidate case at_ baseline observations descriptors)
  return progress.afterCandidate floats case evidence baseline judged

/-- The candidate arm of the loop. -/
def runCandidate (case : PlannedCase) (at_ : NativeCase) (key : BaselineKey) (progress : NativeProgress) :
    Session NativeRecord NativeProgress := do
  let baseline ← Session.lift (priorBaseline progress key)
  Session.lift at_.prepared
  let status ← Session.request (.opened case.caseId) at_.opened
  match status.refused with
  | none => runReadyCandidate floats case at_ baseline progress
  | some (refused, name) => throw (.returned (messageResult context refused
      (lit "subject returned " ++ lit name ++ lit " from " ++ case.caseId) progress.executed progress.rawRecords))

/-! ## The run -/

/-- The body of the loop. -/
def runNativeCase (case : PlannedCase) (at_ : NativeCase) (progress : NativeProgress) :
    Session NativeRecord NativeProgress := do
  let key ← Session.lift (caseKey world.numerals case)
  let boundary ← Session.lift (parameter case "boundary")
  let model ← Session.lift (bundle.model key.architecture)
  if boundary = oracleBoundary then Action.lift (runOracle context world bundle case at_ key model progress)
  else if boundary = candidateBoundary then runCandidate context floats case at_ key progress
  else Session.lift (contractError (lit "unknown native boundary " ++ Json.repr boundary))

def runNativeCases : List (PlannedCase × Nat) → NativeProgress → Session NativeRecord NativeProgress
  | [], progress => return progress
  | (case, place) :: cases, progress => do
    runNativeCases cases (← runNativeCase context floats world bundle case (world.atCase place) progress)

def pairingCheck (progress : NativeProgress) : Except Raised Unit :=
  demand (progress.executed = context.plan.cases.length && progress.baselines.length * 2 = progress.executed)
    (lit "C++ Direct/candidate case pairing is incomplete")

/-- The loop over the plan, with the check after it. -/
def pairedRun : Session NativeRecord NativeProgress := do
  let progress ← runNativeCases context floats world bundle context.plan.cases.zipIdx NativeProgress.start
  Session.lift (pairingCheck context progress)
  return progress

/-- `_local_artifact` -/
def localArtifact (id path : String) (written : Except Raised (Nat × Str)) : Except Raised Artifact := do
  let (size, sha256) ← written
  return ⟨lit id, lit path, size, sha256⟩

def localArtifacts (progress : NativeProgress) : Except Raised (List Artifact) := do
  let nativeOracle ← localArtifact "native_oracle" "native-oracle.json"
    (world.written (.nativeOracle bundle progress.baselines.length))
  let outputHashes ← localArtifact "output_hashes" "output-hashes.json"
    (world.written (.outputHashes progress.comparisons))
  let latencySamples ← localArtifact "latency_samples" "latency-samples.json"
    (world.written (.latencySamples progress.latencyRecords))
  let turnReceipts ← localArtifact "turn_receipts" "turn-receipts.json"
    (world.written (.turnReceipts progress.receiptRecords))
  let cleanupTrace ← localArtifact "cleanup_trace" "cleanup-trace.json"
    (world.written (.cleanupTrace progress.cleanupRecords))
  return [nativeOracle, outputHashes, latencySamples, turnReceipts, cleanupTrace]

/-- `left <= right` of floats that are no NaN. -/
def atMost : PyFloat → PyFloat → Bool
  | .finite p, .finite q => p ≤ q
  | .infinite negative, right => negative || right = .infinite false
  | .finite _, .infinite negative => !negative
  | _, _ => false

/-- `_percentile` of samples that may be infinite. -/
def percentileOf (samples : List PyFloat) (share : ℚ) : Except Raised PyFloat :=
  let ordered := samples.insertionSort fun left right => atMost left right
  match ordered with
  | [] => contractError (lit "percentile reducer received no samples")
  | [only] => .ok only
  | _ =>
    match floats.mul (.finite (ordered.length - 1)) (floats.literal share) with
    | .finite position =>
      let lower := ⌊position⌋.toNat
      let upper := ⌈position⌉.toNat
      let at_ := fun index => ordered.getD index (.finite 0)
      if lower = upper then .ok (at_ lower)
      else
        let weight := floats.sub (.finite position) (.finite lower)
        .ok (floats.add (floats.mul (at_ lower) (floats.sub (.finite 1) weight)) (floats.mul (at_ upper) weight))
    | _ => overflow

/-- What follows the pairing check. -/
def finishNative (progress : NativeProgress) : Except Raised (LaneResult NativeRecord) := do
  let written ← localArtifacts world bundle progress
  let turnService ← percentile floats progress.turnServiceSamples (99 / 100)
  let latencyRegression ← percentileOf floats progress.regressionSamples (95 / 100)
  let metrics := [(lit "turn_service_p99_us", .float turnService),
    (lit "ffi_output_mismatch_count", .int progress.mismatchCount),
    (lit "ffi_latency_regression_p95_percent", .float latencyRegression),
    (lit "unclean_native_outcome_count", .int progress.uncleanCount)]
  let gates ← evaluateGates floats context.lane metrics context.frozenThresholds
  return gatedResult context progress.executed metrics gates (progress.candidateArtifacts ++ written) progress.rawRecords

def nativeInputs : List Str := [lit "cpp-direct-build", lit "dense-model", lit "mlx-c-source", lit "moe-model"]

def withBundle : Session NativeRecord (LaneResult NativeRecord) := do
  let bundle ← Session.lift world.bundle
  let progress ← pairedRun context floats world bundle
  Session.lift (finishNative context floats world bundle progress)

/-- `BoundedTurnAndFfiLaneRunner.run` -/
def boundedTurnRun : Session NativeRecord (LaneResult NativeRecord) :=
  let missing := nativeInputs.filter fun name => !occurs name world.externalInputs
  if missing.isEmpty then withBundle context floats world
  else throw (.returned (messageResult context .environmentUnavailable
    (lit "C++ Direct inputs are unavailable: " ++ listRepr missing) 0 []))

end TurnVector.Lanes
