import TurnVector.LaneController.Provenance

/-! # The controller's run

`LaneController._run` and `_run_one_lane` of `controller.py`. The selection seam may hold anything at each read.
-/

namespace TurnVector.LaneController

open Python Json Effects

/-! ## The state of a run -/

/-- Where a selection is resolved. -/
inductive Stage where
  | preRun
  | binding
  | revalidation
  deriving DecidableEq

/-- One read of the seam. -/
structure Resolution where
  stage : Stage
  laneId : Str
  outcome : Except Raised ExecutionProvenance

abbrev Frozen := List (Str × ExecutionProvenance)

/-- One call of `_revalidate_frozen_provenance`: the reads before and after it, and the taint on either side of it. -/
structure Revalidation where
  start : Nat
  stop : Nat
  frozen : Frozen
  before : TaintState
  after : TaintState

/-- The fields of the controller that a run writes, with a record of the reads, of the taint states and of the
revalidations. -/
structure RunState where
  taint : TaintState
  startedLanes : List Str
  frozenProvenance : Frozen
  resolutions : List Resolution
  taints : List TaintState
  revalidations : List Revalidation

/-- `_begin_fixture_taint_state` -/
def RunState.begin : RunState where
  taint := .initial
  startedLanes := []
  frozenProvenance := []
  resolutions := []
  taints := [.initial]
  revalidations := []

abbrev Run (α : Type) := Action RunState Raised α

/-- The value of the selection seam for a lane, at the read of that index. -/
abbrev Seam := Nat → Str → Json

section Selection

variable (seam : Seam)

/-- `_resolve_lane_provenance` -/
def resolveLaneProvenance (stage : Stage) (laneId : Str) : Run ExecutionProvenance := do
  let state ← get
  let outcome := resolveSelection laneId (seam state.resolutions.length laneId)
  modify fun state => { state with resolutions := state.resolutions ++ [⟨stage, laneId, outcome⟩] }
  Action.lift outcome

def RunState.withTaint (state : RunState) (fixtureId : Str) : RunState :=
  { state with taint := state.taint.tainted fixtureId, taints := state.taints ++ [state.taint.tainted fixtureId] }

/-- `_apply_fixture_provenance` -/
def applyFixtureProvenance (provenance : ExecutionProvenance) : Run Unit :=
  match provenance with
  | .productionSubject => pure ()
  | .benchmarkFixture fixtureId =>
    if !occurs fixtureId knownFixtureIds then
      Action.lift (contractError (lit "unknown benchmark fixture ID " ++ strRepr fixtureId))
    else modify fun state => state.withTaint fixtureId

def resolveOne (resolved : Frozen) (laneId : Str) : Run Frozen := do
  let provenance ← resolveLaneProvenance seam .preRun laneId
  applyFixtureProvenance provenance
  return setItem resolved laneId provenance

/-- `_resolve_and_apply_pre_run_provenance` -/
def resolveAndApplyPreRunProvenance (laneIds : List Str) : Run Frozen := do
  let resolved ← laneIds.foldlM (resolveOne seam) []
  modify fun state => { state with frozenProvenance := resolved }
  return resolved

/-- What `_bind_and_revalidate_provenance` raises for a fixture that was not frozen. -/
def lateSelection (laneId : Str) (firstCaseStarted : Bool) : Str :=
  if firstCaseStarted then lit "late benchmark fixture selection for lane " ++ strRepr laneId ++
    lit " after the first case START in the run; the run remains fixture_tainted"
  else lit "benchmark fixture selection for lane " ++ strRepr laneId ++
    lit " changed after the pre-run snapshot; the run remains fixture_tainted"

/-- `_bind_and_revalidate_provenance` -/
def bindAndRevalidateProvenance (stage : Stage) (laneId : Str) (frozen : ExecutionProvenance) : Run Unit := do
  let current ← resolveLaneProvenance seam stage laneId
  if current = frozen then applyFixtureProvenance current
  else match current with
    | .benchmarkFixture _ => do
      applyFixtureProvenance current
      let state ← get
      Action.lift (contractError (lateSelection laneId !state.startedLanes.isEmpty))
    | .productionSubject =>
      Action.lift (contractError (lit "benchmark fixture selection for lane " ++ strRepr laneId ++
        lit " disagrees with the frozen pre-run driver selection"))

def revalidateAll (frozen : Frozen) : Run Unit :=
  frozen.forM fun lane => bindAndRevalidateProvenance seam .revalidation lane.1 lane.2

/-- `_revalidate_frozen_provenance` -/
def revalidateFrozenProvenance : Run Unit := do
  let before ← get
  Action.onExit (revalidateAll seam before.frozenProvenance) <| modify fun after =>
    { after with revalidations := after.revalidations ++
      [⟨before.resolutions.length, after.resolutions.length, before.frozenProvenance, before.taint, after.taint⟩] }

end Selection

/-! ## One lane -/

/-- A `LaneResult`, as far as the controller looks into it. -/
structure LaneResult where
  status : Str
  message : Str
  deriving DecidableEq

structure SubjectHello where
  kind : Str
  supportedLanes : List (Str × Str)
  hasDataPlane : Bool

/-- What the files given to the controller say about a lane. -/
structure LanePlan where
  thresholdFailures : List (Str × Str)
  adapterCategory : Option Str
  suiteCategory : Str
  suiteProtocol : Str
  directDataPlane : Bool
  externalInputs : List Str

/-- What the world answers while a lane runs: folders and files, the subject's session, and the runner. -/
structure LaneWorld where
  folder : Except Raised Unit
  rawFolder : Except Raised Unit
  opened : Except Raised Unit
  hello : Except Raised SubjectHello
  binaries : Except Raised Unit
  certified : Except Raised Unit
  starts : Bool
  runner : Except Raised LaneResult
  finished : Except Raised Unit
  closed : Except Raised Unit
  evidence : Except Raised Unit
  saved : Except Raised Unit

/-- A controller with its inputs, and the world it runs in. -/
structure Controller where
  certificationContractError : Option Str
  certificationRecord : Bool
  subjectKind : Option Str
  externalFixtures : Option (List Str)
  plan : Str → LanePlan
  requiredLanes : List Str
  seam : Seam
  world : Nat → LaneWorld
  prepared : Except Raised Unit
  manifested : Except Raised Unit
  evidenceValid : Bool
  sourceMatches : Bool

namespace Controller

section Lane

variable (self : Controller)

/-- The returns of `_run_one_lane` before its `try`. -/
def earlyResult (laneId : Str) : Option LaneResult :=
  let plan := self.plan laneId
  if let some error := self.certificationContractError then some ⟨lit "contract_failed", error⟩
  else if !plan.thresholdFailures.isEmpty then
    some ⟨lit "contract_failed", lit "pre-run threshold snapshot is incomplete: " ++
      join (lit "; ") (plan.thresholdFailures.map fun failure => failure.1 ++ lit ": " ++ failure.2)⟩
  else match self.subjectKind.bind fun _ => plan.adapterCategory with
    | none => some ⟨lit "unsupported", lit "subject manifest has no adapter for this required lane"⟩
    | some category =>
      if category ≠ plan.suiteCategory then
        some ⟨lit "contract_failed", lit "adapter category " ++ strRepr category ++
          lit " does not match suite category " ++ strRepr plan.suiteCategory⟩
      else if self.subjectKind = some (lit "implementation") ∧ plan.externalInputs ≠ [] then
        match self.externalFixtures with
        | none => some ⟨lit "environment_unavailable",
            lit "implementation lane requires a hash-verified external fixture manifest"⟩
        | some artifacts =>
          let missing := plan.externalInputs.filter fun artifactId => !occurs artifactId artifacts
          if !missing.isEmpty then
            some ⟨lit "environment_unavailable", lit "external fixture manifest is missing required inputs: [" ++
              join (lit ", ") ((CrossEngine.sortedTexts missing.dedup).map strRepr) ++ lit "]"⟩
          else none
      else none

/-- `_validate_hello` -/
def validateHello (world : LaneWorld) (hello : SubjectHello) : Except Raised Unit :=
  if some hello.kind ≠ self.subjectKind then
    contractError (lit ("subject hello kind does not match subject manifest; fixture identity cannot be " ++
      "presented as an implementation"))
  else world.binaries

/-- `_validate_execution_descriptor` -/
def validateExecutionDescriptor (laneId : Str) (plan : LanePlan) (hello : SubjectHello) : Except Raised Unit :=
  if plan.directDataPlane ∧ hello.kind = lit "implementation" ∧ ¬ hello.hasDataPlane then
    contractError (lit "implementation lane " ++ strRepr laneId ++ lit " requires a real Data Plane descriptor")
  else .ok ()

/-- The runner: it may start a case, and then it returns or raises. -/
def dispatch (laneId : Str) (world : LaneWorld) : Run LaneResult := do
  modify fun state => if world.starts then { state with startedLanes := laneId :: state.startedLanes } else state
  Action.lift world.runner

/-- From the binding of the LaneContext to the revalidation behind the runner. -/
def bindAndDispatch (laneId : Str) (provenance : ExecutionProvenance) (world : LaneWorld) : Run LaneResult := do
  Action.lift do
    let _ ← validateExecutionProvenance provenance.value provenance.fixtureId?
  bindAndRevalidateProvenance self.seam .binding laneId provenance
  Action.onExit (dispatch laneId world) (revalidateFrozenProvenance self.seam)

/-- The lane of a subject that has said hello. -/
def serve (laneId : Str) (provenance : ExecutionProvenance) (world : LaneWorld) (hello : SubjectHello) :
    Run LaneResult :=
  let plan := self.plan laneId
  match hello.supportedLanes.lookup laneId with
  | none =>
    pure ⟨lit "unsupported", lit "subject hello does not declare support for this required lane"⟩
  | some protocol =>
    if protocol ≠ plan.suiteProtocol then
      pure ⟨lit "unsupported", lit "subject lane protocol does not exactly match the suite protocol"⟩
    else do
      Action.lift (validateExecutionDescriptor laneId plan hello)
      Action.lift (if self.certificationRecord then world.certified else .ok ())
      self.bindAndDispatch laneId provenance world

/-- The body of the `with`. -/
def converse (laneId : Str) (provenance : ExecutionProvenance) (world : LaneWorld) : Run LaneResult := do
  let hello ← Action.lift world.hello
  Action.lift (self.validateHello world hello)
  let result ← self.serve laneId provenance world hello
  Action.lift world.finished
  return result

/-- The arms of the `except`. -/
def failure (world : LaneWorld) (error : Raised) : Run LaneResult :=
  match error.kind with
  | .contractError => do
    Action.lift world.evidence
    return ⟨lit "contract_failed", error.text⟩
  | .osOrRuntimeError | .exception => do
    Action.lift world.evidence
    return ⟨lit "infrastructure_failed", error.text⟩
  | .baseException => throw error

/-- `_run_one_lane` -/
def runOneLane (laneId : Str) (provenance : ExecutionProvenance) (world : LaneWorld) : Run LaneResult :=
  match self.earlyResult laneId with
  | some result => pure result
  | none => do
    Action.lift world.rawFolder
    Action.rescue
      (do
        Action.lift world.opened
        Action.onExit (self.converse laneId provenance world) (Action.lift world.closed))
      (failure world)

/-! ## The run -/

/-- `_status_for_results` -/
def statusForResults (results : List LaneResult) : Str :=
  let statuses := results.map LaneResult.status
  ([lit "infrastructure_failed", lit "contract_failed", lit "gate_failed", lit "environment_unavailable",
    lit "unsupported"].find? fun status => occurs status statuses).getD (lit "passed")

structure Report where
  status : Str
  fullImplementationStatus : Str
  claimable : Bool
  runFixtureTaint : Taint
  fixtureIds : List Str
  laneStatuses : List Str
  deriving DecidableEq

/-- One round of the loop over the lanes. Every selected lane has been resolved. -/
def runLane (resolved : Frozen) (lane : Str × Nat) : Run LaneResult := do
  let world := self.world lane.2
  Action.lift world.folder
  let result ← self.runOneLane lane.1 ((resolved.lookup lane.1).getD .productionSubject) world
  Action.lift world.saved
  return result

def aggregateStatus (results : List LaneResult) : Str :=
  if self.evidenceValid then statusForResults results else lit "infrastructure_failed"

def allRequiredSelected (laneIds : List Str) : Bool :=
  laneIds.all (fun laneId => occurs laneId self.requiredLanes) && self.requiredLanes.all fun laneId =>
    occurs laneId laneIds

/-- What `_run` does once the taint state has begun. -/
def body (laneIds : List Str) : Run Report := do
  Action.lift self.prepared
  let resolved ← resolveAndApplyPreRunProvenance self.seam laneIds
  let results ← laneIds.zipIdx.mapM (self.runLane resolved)
  let state ← get
  Action.lift (validateFixtureTaintState state.taint.runFixtureTaint state.taint.fixtureIds)
  Action.lift self.manifested
  let fullStatus ← Action.lift (resolveFullImplementationStatus state.taint
    (decide (self.subjectKind = some (lit "fixture"))) (self.allRequiredSelected laneIds)
    (self.aggregateStatus results) self.evidenceValid self.sourceMatches)
  return {
    status := self.aggregateStatus results
    fullImplementationStatus := fullStatus
    claimable := fullStatus = lit "passed"
    runFixtureTaint := state.taint.runFixtureTaint
    fixtureIds := state.taint.fixtureIds
    laneStatuses := results.map LaneResult.status }

/-- `_run` -/
def run (laneIds : List Str) : Except Raised Report × RunState := Action.run (self.body laneIds) .begin

end Lane

end Controller

end TurnVector.LaneController
