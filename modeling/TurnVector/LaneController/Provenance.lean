import TurnVector.CrossEngine.Campaign
import TurnVector.Effects.Action

/-! # Execution provenance

`fixture_provenance.py`, the fixture registry of `owner_lifecycle_fixture.py`, and the fixture-taint state of
`LaneController`: which fixture a lane selects, and what a selection does to a run.
-/

namespace TurnVector.LaneController

open Python Json Effects

/-- The arms of `_run_one_lane` that an exception can reach. -/
inductive Kind where
  | contractError
  | osOrRuntimeError
  | exception
  | baseException
  deriving DecidableEq

/-- The text is `str(error)`, and `repr(error)` in the last arm. -/
structure Raised where
  kind : Kind
  text : Str
  deriving DecidableEq

def contractError {α : Type} (text : Str) : Except Raised α := .error ⟨.contractError, text⟩

/-! ## Provenance -/

/-- A provenance that was constructed: a fixture ID comes with a fixture, and only with one. -/
inductive ExecutionProvenance where
  | productionSubject
  | benchmarkFixture (fixtureId : Str)
  deriving DecidableEq

def productionSubjectValue : Str := lit "production_subject"
def benchmarkFixtureValue : Str := lit "benchmark_fixture"

namespace ExecutionProvenance

def value : ExecutionProvenance → Str
  | productionSubject => productionSubjectValue
  | benchmarkFixture _ => benchmarkFixtureValue

def fixtureId? : ExecutionProvenance → Option Str
  | productionSubject => none
  | benchmarkFixture fixtureId => some fixtureId

end ExecutionProvenance

/-- `_validate_fixture_id` -/
def validateFixtureId (fixtureId : Option Str) : Except Raised Str :=
  match fixtureId with
  | none => contractError (lit "benchmark_fixture execution provenance requires a non-empty fixture_id")
  | some fixtureId =>
    if fixtureId.isEmpty then
      contractError (lit "benchmark_fixture execution provenance requires a non-empty fixture_id")
    else if !Canonical.isIdentifier fixtureId then
      contractError (lit "fixture_id must match identifier grammar '^[a-z0-9][a-z0-9._-]*$'")
    else if 128 < fixtureId.length then contractError (lit "fixture_id must not exceed 128 UTF-8 characters")
    else .ok fixtureId

/-- `validate_execution_provenance` -/
def validateExecutionProvenance (value : Str) (fixtureId : Option Str) : Except Raised ExecutionProvenance :=
  if value = benchmarkFixtureValue then (validateFixtureId fixtureId).map .benchmarkFixture
  else if value = productionSubjectValue then
    if fixtureId = none then .ok .productionSubject
    else contractError (lit ("production_subject execution provenance forbids fixture_id; " ++
      "driver/context disagreement fails closed"))
  else contractError (lit "unknown execution provenance " ++ strRepr value ++
    lit "; only ['benchmark_fixture', 'production_subject'] are admitted")

/-! ## The fixture registry -/

/-- What a selection is compared with in a fixture descriptor. -/
structure FixtureDescriptor where
  fixtureId : Str
  executionProvenance : Str
  deriving DecidableEq

def ownerLifecycleFixtureId : Str := lit "owner-lifecycle-device-executor-v1"

/-- `FIXTURE_DESCRIPTORS` -/
def fixtureDescriptors : List (Str × FixtureDescriptor) :=
  [(ownerLifecycleFixtureId, ⟨ownerLifecycleFixtureId, benchmarkFixtureValue⟩)]

def knownFixtureIds : List Str := CrossEngine.sortedTexts (fixtureDescriptors.map Prod.fst)

/-- `_resolve_lane_provenance`, for the value that the selection seam has for the lane. -/
def resolveSelection (laneId : Str) (selection : Json) : Except Raised ExecutionProvenance :=
  match selection with
  | .null => validateExecutionProvenance productionSubjectValue none
  | .str fixtureId =>
    match fixtureDescriptors.lookup fixtureId with
    | none => contractError (lit "unknown benchmark fixture ID " ++ strRepr fixtureId ++ lit " selected for lane " ++
        strRepr laneId)
    | some descriptor =>
      if descriptor.fixtureId ≠ fixtureId ∨ descriptor.executionProvenance ≠ benchmarkFixtureValue then
        contractError (lit "benchmark fixture descriptor disagrees with selection for " ++ strRepr fixtureId)
      else validateExecutionProvenance benchmarkFixtureValue (some fixtureId)
  | _ => contractError (lit "fixture selection for lane " ++ strRepr laneId ++ lit " must name a fixture ID string")

/-! ## The taint of a run -/

inductive Taint where
  | clean
  | fixtureTainted
  deriving DecidableEq

/-- `run_fixture_taint`, `fixture_ids` and the set behind them. -/
structure TaintState where
  runFixtureTaint : Taint
  fixtureIds : List Str
  fixtureIdSet : List Str
  deriving DecidableEq

/-- `_begin_fixture_taint_state` -/
def TaintState.initial : TaintState := ⟨.clean, [], []⟩

/-- The absorbing transition. -/
def TaintState.tainted (state : TaintState) (fixtureId : Str) : TaintState :=
  let fixtureIdSet :=
    if occurs fixtureId state.fixtureIdSet then state.fixtureIdSet else fixtureId :: state.fixtureIdSet
  ⟨.fixtureTainted, CrossEngine.sortedTexts fixtureIdSet, fixtureIdSet⟩

/-- The scan of `validate_fixture_taint_state` over the IDs, given the ones before. -/
def scanFixtureIds (seen : List Str) : List Str → Except Raised Unit
  | [] => .ok ()
  | fixtureId :: rest =>
    if !occurs fixtureId knownFixtureIds then
      contractError (lit "run fixture IDs must be known benchmark fixtures; unknown " ++ strRepr fixtureId)
    else if occurs fixtureId seen then
      contractError (lit "fixture_ids must not repeat a known benchmark fixture ID; duplicate " ++ strRepr fixtureId)
    else if seen.head?.any fun previous => fixtureId ≤ previous then
      contractError (lit "fixture_ids must be in canonical sorted order; " ++ strRepr (seen.headD []) ++
        lit " precedes " ++ strRepr fixtureId)
    else scanFixtureIds (fixtureId :: seen) rest

/-- `validate_fixture_taint_state` of a taint and IDs of the right types. -/
def validateFixtureTaintState (taint : Taint) (fixtureIds : List Str) : Except Raised Unit := do
  scanFixtureIds [] fixtureIds
  if taint = .clean ∧ fixtureIds ≠ [] then
    contractError (lit "clean run_fixture_taint must bind no fixture IDs; observed [" ++
      join (lit ", ") (fixtureIds.map strRepr) ++ lit "]")
  else if taint = .fixtureTainted ∧ fixtureIds = [] then
    contractError (lit "fixture_tainted run_fixture_taint must bind at least one known benchmark fixture ID")
  else .ok ()

/-- `resolve_full_implementation_status` -/
def resolveFullImplementationStatus (taint : TaintState) (fixtureSubject allRequiredSelected : Bool)
    (aggregateStatus : Str) (evidenceValid sourceMatches : Bool) : Except Raised Str := do
  validateFixtureTaintState taint.runFixtureTaint taint.fixtureIds
  let fixtureTainted := decide (taint.runFixtureTaint = .fixtureTainted)
  let implementationPassed := !fixtureTainted && !fixtureSubject && allRequiredSelected &&
    decide (aggregateStatus = lit "passed") && evidenceValid && sourceMatches
  if fixtureTainted || fixtureSubject then return lit "not_claimable_fixture"
  else if !allRequiredSelected then return lit "not_evaluated"
  else if implementationPassed then return lit "passed"
  else return lit "failed"

end TurnVector.LaneController
