import TurnVector.Effects.Action
import TurnVector.Lanes.Reduction

/-! # Evidence lane runners

`EvidenceLaneRunner.run` of `lane_runner.py`, with the artifact check of `evidence.py`. What the subject, the
overridden hooks and the files answer is given at each place of the plan.
-/

namespace TurnVector.Lanes

open Python Json Effects
open LaneController (Raised contractError)

/-! ## Artifacts -/

structure Artifact where
  id : Str
  path : Str
  size : Nat
  sha256 : Str
  deriving DecidableEq

/-- What stands at a path under the artifact root. The texts are what the message adds. -/
inductive Probe where
  | missing (error : Str)
  | outside
  | symlink (text : Str)
  | irregular
  | file (size : Nat) (sha256 : Str)

/-- The part of the artifact check that needs no file. -/
def declaredPath (descriptor : List (Str × Json)) : Except Raised (Str × Str) :=
  match descriptor.lookup (lit "id"), descriptor.lookup (lit "path") with
  | some (.str (c :: id)), some (.str (d :: path)) =>
    if d = cp 47 || occurs (lit "..") ((d :: path).splitOn (cp 47)) then
      contractError (lit "subject artifact path escapes artifact root: " ++ strRepr (d :: path))
    else .ok (c :: id, d :: path)
  | some (.str (_ :: _)), _ => contractError (lit "subject artifact path must be a non-empty relative path")
  | _, _ => contractError (lit "subject artifact id must be a non-empty string")

/-- The size and the digest that a descriptor declares, against those of its file. -/
def checkFile (descriptor : List (Str × Json)) (id path : Str) (size : Nat) (sha256 : Str) : Except Raised Artifact :=
  match descriptor.lookup (lit "size") with
  | some (.int (.ofNat declared)) =>
    if declared ≠ size then
      contractError (lit "subject artifact size mismatch for " ++ strRepr path ++ lit ": declared=" ++ natText declared ++
        lit ", observed=" ++ natText size)
    else match descriptor.lookup (lit "sha256") with
      | some (.str digest) =>
        if !Canonical.isSha256 digest then contractError (lit "subject artifact sha256 must be a lowercase SHA256")
        else if digest ≠ sha256 then
          contractError (lit "subject artifact hash mismatch for " ++ strRepr path ++ lit ": declared=" ++ digest ++
            lit ", observed=" ++ sha256)
        else .ok ⟨id, path, size, sha256⟩
      | _ => contractError (lit "subject artifact sha256 must be a lowercase SHA256")
  | _ => contractError (lit "subject artifact size must be a non-negative integer")

/-- `validate_subject_artifact` -/
def validateSubjectArtifact (probe : Str → Probe) (descriptor : List (Str × Json)) : Except Raised Artifact := do
  let (id, path) ← declaredPath descriptor
  match probe path with
  | .missing error => contractError (lit "subject artifact does not exist: " ++ strRepr path ++ lit ": " ++ error)
  | .outside => contractError (lit "subject artifact path escapes artifact root: " ++ strRepr path)
  | .symlink text => contractError text
  | .irregular => contractError (lit "subject artifact must be a regular file: " ++ strRepr path)
  | .file size sha256 => checkFile descriptor id path size sha256

/-! ## Results -/

inductive LaneStatus where
  | passed
  | gateFailed
  | unsupported
  | environmentUnavailable
  deriving DecidableEq

/-- What `case_open` returns. -/
inductive OpenStatus where
  | ready
  | unsupported
  | environmentUnavailable
  deriving DecidableEq

/-- The lane status of a case that did not open. -/
def OpenStatus.refused : OpenStatus → Option (LaneStatus × String)
  | ready => none
  | unsupported => some (.unsupported, "unsupported")
  | environmentUnavailable => some (.environmentUnavailable, "environment_unavailable")

inductive Failure where
  | gate (gateId metric : Str) (expected : Json) (observed : Metric)
  | case (status : LaneStatus) (caseId message : Str)
  | message (status : LaneStatus) (message : Str)
  deriving DecidableEq

structure LaneResult (ρ : Type) where
  laneId : Str
  status : LaneStatus
  caseCount : Nat
  executedCaseCount : Nat
  metrics : List (Str × Metric)
  gates : List GateResult
  failures : List Failure
  artifacts : List Artifact
  rawRecords : List ρ

/-- The part of a `LaneContext` that the runners read. -/
structure LaneContext where
  lane : ExpectationLane
  suite : LaneSuite
  plan : CasePlan
  frozenThresholds : List (Str × Json)

/-- The way a run ends before its last line. -/
inductive Stop (ρ : Type) where
  | raised (error : Raised)
  | returned (result : LaneResult ρ)

/-- One request to the subject about a case. -/
inductive Call where
  | opened (caseId : Str)
  | stepped (caseId : Str) (stepIndex : Nat) (operation : Str)
  | closed (caseId : Str)
  deriving DecidableEq

/-- A run, with the requests it made. -/
abbrev Session (ρ α : Type) := Action (List Call) (Stop ρ) α

namespace Session

variable {ρ α : Type}

def lift (e : Except Raised α) : Session ρ α := Action.lift (e.mapError .raised)

def request (call : Call) (answer : Except Raised α) : Session ρ α := do
  modify fun calls => calls ++ [call]
  Session.lift answer

/-- What a caller sees of a run. -/
def settle (out : Except (Stop ρ) (LaneResult ρ)) : Except Raised (LaneResult ρ) :=
  match out with
  | .ok result => .ok result
  | .error (.returned result) => .ok result
  | .error (.raised error) => .error error

end Session

/-- The result when every case was executed: the gates decide. -/
def gatedResult {ρ : Type} (context : LaneContext) (executed : Nat) (metrics : List (Str × Metric))
    (gates : List GateResult) (artifacts : List Artifact) (rawRecords : List ρ) : LaneResult ρ where
  laneId := context.lane.laneId.val
  status := if gates.all (·.passed) then .passed else .gateFailed
  caseCount := context.plan.cases.length
  executedCaseCount := executed
  metrics := metrics
  gates := gates
  failures := (gates.filter fun g => !g.passed).map fun g => .gate g.gateId g.metric g.expected g.observed
  artifacts := artifacts
  rawRecords := rawRecords

/-! ## The generic runner -/

/-- A dict: its keys are distinct. -/
abbrev Mapping (α : Type) := {members : List (Str × α) // (members.map Prod.fst).Nodup}

structure Collected where
  caseId : Str
  parameters : List (Str × Json)
  evidence : Mapping Json

inductive RawRecord where
  | opened (caseId : Str) (status : OpenStatus)
  | step (caseId : Str) (stepIndex : Nat) (operation : Str) (evidence : Mapping Json)
  | collection (caseId : Str) (evidence : Mapping Json)
  | closed (caseId : Str) (subjectObservations benchmarkObservations : Mapping Json)
      (artifacts : List (Mapping Json))

/-- What surrounds one case of the plan. `stepCollection` is the third value of `execute_case_steps`; a step's answer
is also that of building its payload. -/
structure CaseWorld where
  prepared : Except Raised Unit
  opened : Except Raised OpenStatus
  collectionBegun : Except Raised Unit
  stepped : Nat → Except Raised (Mapping Json)
  stepCollection : Option (Mapping Json)
  closed : Except Raised (Mapping Json × List (Mapping Json))
  collectionEnded : Except Raised (Option (Mapping Json))
  cleanupErrorWritten : Except Raised Unit
  analyzed : List (Mapping Json) → Mapping Json → Option (Mapping Json) → Except Raised (Mapping Json)
  probe : Str → Probe

/-- The subject, the hooks and the files of a whole run. -/
structure World where
  atCase : Nat → CaseWorld
  benchmarkArtifacts : List Collected → Except Raised (List (Mapping Json))
  probe : Str → Probe

/-- `CONTROLLER_ARTIFACT_IDS` -/
def controllerArtifactIds : List Str := [lit "manifest", lit "environment", lit "report", lit "checksums"]

/-- The local variables of `EvidenceLaneRunner.run`. -/
structure Progress where
  rawRecords : List RawRecord
  observations : List (Str × List Json)
  artifacts : List Artifact
  caseCollections : List Collected
  executed : Nat

def Progress.start (suite : LaneSuite) : Progress where
  rawRecords := []
  observations := dictOf (suite.metrics.map fun recipe => (recipe.source.val, []))
  artifacts := []
  caseCollections := []
  executed := 0

/-- `observations[source].append(value)` -/
def appendTo (observations : List (Str × List Json)) (source : Str) (value : Json) : List (Str × List Json) :=
  observations.map fun entry => if entry.1 = source then (entry.1, entry.2 ++ [value]) else entry

/-- One descriptor. The artifacts listed so far are also the entries of `artifact_by_id`. -/
def mergeArtifact (conflict : String) (probe : Str → Probe) (artifacts : List Artifact) (descriptor : Mapping Json) :
    Except Raised (List Artifact) := do
  let verified ← validateSubjectArtifact probe descriptor.val
  match artifacts.find? fun prior => prior.id = verified.id with
  | none => return artifacts ++ [verified]
  | some prior =>
    if prior = verified then return artifacts
    else contractError (lit "artifact ID " ++ strRepr verified.id ++ lit conflict)

/-- `_validate_observations` -/
def validateObservations (suite : LaneSuite) (case : PlannedCase) (observations : Mapping Json) : Except Raised Unit :=
  let expected := suite.metrics.map (·.source.val)
  let observed := observations.val.map Prod.fst
  let difference := fun left right => listRepr ((left.filter fun name => !occurs name right).eraseDups.insertionSort
    fun a b => a ≤ b)
  if sameSet observed expected then .ok ()
  else contractError (case.caseId ++ lit " observations must exactly match suite sources: missing=" ++
    difference expected observed ++ lit ", unknown=" ++ difference observed expected)

variable (context : LaneContext)

/-- The result for a case that the subject did not open. -/
def refusedResult (progress : Progress) (case : PlannedCase) (status : LaneStatus) (name : String) :
    LaneResult RawRecord where
  laneId := context.lane.laneId.val
  status := status
  caseCount := context.plan.cases.length
  executedCaseCount := progress.executed
  metrics := []
  gates := []
  failures := [.case status case.caseId (lit "subject returned " ++ lit name ++ lit " from case_open")]
  artifacts := progress.artifacts
  rawRecords := progress.rawRecords

/-- `execute_case_steps`, one operation. -/
def stepOnce (world : CaseWorld) (case : PlannedCase) (operation : Str × Nat) : Session RawRecord (Mapping Json) :=
  Session.request (.stepped case.caseId operation.2 operation.1) (world.stepped operation.2)

/-- `execute_case_steps`, then `case_close`. -/
def stepsAndClose (world : CaseWorld) (case : PlannedCase) :
    Session RawRecord (List (Mapping Json) × Mapping Json × List (Mapping Json)) := do
  let evidence ← (case.operations.zipIdx 1).mapM (stepOnce world case)
  let (observations, artifacts) ← Session.request (.closed case.caseId) world.closed
  return (evidence, observations, artifacts)

/-- The `finally` block after a case that raised, or did not. -/
def endCollection (world : CaseWorld) (case : PlannedCase) (caseError : Option Raised) :
    Except Raised (Option (Mapping Json)) :=
  match world.collectionEnded with
  | .ok collection => .ok collection
  | .error error =>
    if error.kind = .baseException then .error error
    else do
      world.cleanupErrorWritten
      match caseError with
      | none => .error error
      | some caseError => contractError (case.caseId ++ lit ": " ++ caseError.text ++
          lit "; collector cleanup failed: " ++ error.text)

/-- The `except Exception` arm keeps the error of a case. -/
def caseErrorOf (error : Raised) : Option Raised := if error.kind = .baseException then none else some error

/-- The `finally` of a case, after what came of its `try`. -/
def settleCase {α : Type} (world : CaseWorld) (case : PlannedCase) (out : Except (Stop RawRecord) α) :
    Except (Stop RawRecord) (α × Option (Mapping Json)) :=
  match out with
  | .ok a => ((endCollection world case none).map fun collection => (a, collection)).mapError .raised
  | .error (.raised error) => .error (.raised (match endCollection world case (caseErrorOf error) with
    | .ok _ => error
    | .error replaced => replaced))
  | .error (.returned result) => .error (.returned result)

/-- The `try` of a case with its `finally`: what came of the case, and the system's collection. -/
def collectCase (world : CaseWorld) (case : PlannedCase) :
    Session RawRecord ((List (Mapping Json) × Mapping Json × List (Mapping Json)) × Option (Mapping Json)) :=
  fun calls =>
    let (out, after) := Action.run (stepsAndClose world case) calls
    (settleCase world case out, after)

/-- The collection of a case: its own or the system's, but not both. -/
def chooseCollection (laneId : Str) (own system : Option (Mapping Json)) : Except Raised (Option (Mapping Json)) :=
  match own, system with
  | some _, some _ => contractError (lit "lane " ++ strRepr laneId ++ lit " produced two independent case collections")
  | some own, none => .ok (some own)
  | none, system => .ok system

/-- The records of a case, as the run appends them. -/
def caseRecords (case : PlannedCase) (evidence : List (Mapping Json)) (collection : Option (Mapping Json))
    (subjectObservations reduced : Mapping Json) (artifacts : List (Mapping Json)) : List RawRecord :=
  ((case.operations.zipIdx 1).zip evidence).map (fun step => .step case.caseId step.1.2 step.1.1 step.2) ++
    (collection.map fun evidence => RawRecord.collection case.caseId evidence).toList ++
    [.closed case.caseId subjectObservations reduced artifacts]

def Progress.afterCase (progress : Progress) (case : PlannedCase) (collection : Option (Mapping Json))
    (reduced : Mapping Json) (artifacts : List Artifact) (records : List RawRecord) : Progress where
  rawRecords := progress.rawRecords ++ .opened case.caseId .ready :: records
  observations := reduced.val.foldl (fun observations p => appendTo observations p.1 p.2) progress.observations
  artifacts := artifacts
  caseCollections := progress.caseCollections ++
    (collection.map fun evidence => ⟨case.caseId, case.parameters, evidence⟩).toList
  executed := progress.executed + 1

/-- The body of the loop, once the subject is ready. -/
def runReadyCase (world : CaseWorld) (case : PlannedCase) (progress : Progress) : Session RawRecord Progress := do
  Session.lift world.collectionBegun
  let ((evidence, observations, descriptors), system) ← collectCase world case
  let collection ← Session.lift (chooseCollection context.lane.laneId.val world.stepCollection system)
  let reduced ← Session.lift (world.analyzed evidence observations collection)
  Session.lift (validateObservations context.suite case reduced)
  let artifacts ← Session.lift
    (descriptors.foldlM (mergeArtifact " was reused with different evidence" world.probe) progress.artifacts)
  return progress.afterCase case collection reduced artifacts
    (caseRecords case evidence collection observations reduced descriptors)

/-- The body of the loop. -/
def runCase (world : CaseWorld) (case : PlannedCase) (progress : Progress) : Session RawRecord Progress := do
  Session.lift world.prepared
  let status ← Session.request (.opened case.caseId) world.opened
  match status.refused with
  | none => runReadyCase context world case progress
  | some (refused, name) =>
    let opened := { progress with rawRecords := progress.rawRecords ++ [.opened case.caseId status] }
    throw (.returned (refusedResult context opened case refused name))

def runCases (world : World) : List (PlannedCase × Nat) → Progress → Session RawRecord Progress
  | [], progress => return progress
  | (case, place) :: cases, progress => do
    runCases world cases (← runCase context (world.atCase place) case progress)

def missingArtifacts (artifacts : List Artifact) : List Str :=
  context.lane.requiredArtifacts.items.filter fun id =>
    !occurs id controllerArtifactIds && !occurs id (artifacts.map (·.id))

def requireArtifacts (artifacts : List Artifact) : Except Raised Unit :=
  let missing := missingArtifacts context artifacts
  if missing.isEmpty then .ok ()
  else contractError (lit "lane " ++ strRepr context.lane.laneId.val ++ lit " is missing required raw artifacts: " ++
    listRepr (missing.insertionSort fun a b => a ≤ b))

def reduceMetric (floats : Floats) (observations : List (Str × List Json)) (recipe : MetricRecipe) :
    Except Raised (Str × Metric) := do
  return (recipe.metric.val, ← reduceObservations floats recipe ((observations.lookup recipe.source.val).getD []))

/-- `EvidenceLaneRunner.run` -/
def evidenceRun (floats : Floats) (world : World) : Session RawRecord (LaneResult RawRecord) := do
  let progress ← runCases context world context.plan.cases.zipIdx (Progress.start context.suite)
  let descriptors ← Session.lift (world.benchmarkArtifacts progress.caseCollections)
  let artifacts ← Session.lift
    (descriptors.foldlM (mergeArtifact " conflicts with Benchmark evidence" world.probe) progress.artifacts)
  Session.lift (requireArtifacts context artifacts)
  let metrics ← Session.lift (context.suite.metrics.mapM (reduceMetric floats progress.observations))
  let metrics := dictOf metrics
  let gates ← Session.lift (evaluateGates floats context.lane metrics context.frozenThresholds)
  return gatedResult context progress.executed metrics gates artifacts progress.rawRecords

/-- What a caller sees of `EvidenceLaneRunner.run`, and the requests that were made. -/
def runEvidenceLane (floats : Floats) (world : World) : Except Raised (LaneResult RawRecord) × List Call :=
  let (out, calls) := Action.run (evidenceRun context floats world) []
  (Session.settle out, calls)

end TurnVector.Lanes
