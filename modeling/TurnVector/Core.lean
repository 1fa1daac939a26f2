import TurnVector.Errors
import TurnVector.Python.Json
import TurnVector.Fair.VirtualTime

/-! # The scheduler oracle

`SchedulerOracle` of `core.py`, and the clock that it keeps.
-/

namespace TurnVector

open Python Fair

/-- `fraction_text` -/
def fractionText (value : ℚ) : Str := intText value.num ++ lit "/" ++ natText value.den

/-- `fraction_map` -/
def fractionMap (values : Dict ℚ) : Except Exc (List (Str × Str)) :=
  (sorted values.keys).mapM fun key => do return (key, fractionText (← getItem values key))

/-- `_parse_model` admits weights from 1 on. -/
structure ModelConfig where
  modelId : Str
  weight : Nat
  weight_pos : 0 < weight

structure Candidate where
  candidateId : Str
  modelId : Str
  executionPhase : Str
  serviceClass : Str
  engineServiceBoundUs : Int
  runtimeOverheadBoundUs : Int
  timingObligationUs : Option Int
  capabilityAuthorized : Bool
  resourceSafe : Bool
  timingFeasible : Bool
  outputReserved : Bool
  deriving DecidableEq

namespace Candidate

def eligible (c : Candidate) : Bool :=
  c.capabilityAuthorized && c.resourceSafe && c.timingFeasible && c.outputReserved

def latestSafeStartUs (c : Candidate) : Option Int :=
  c.timingObligationUs.map fun t => t - c.engineServiceBoundUs - c.runtimeOverheadBoundUs

def isUrgent (c : Candidate) (nowUs : Int) : Bool :=
  match c.latestSafeStartUs with
  | none => false
  | some latest => c.eligible && nowUs ≥ latest

end Candidate

inductive DecisionClass where
  | urgent
  | normal
  | noPlan
  deriving DecidableEq

structure SchedulerOracle where
  weights : Dict Nat
  ledgers : Dict ℚ
  runnable : Finset Str
  baseline : ℚ
  pending : Option Candidate

namespace SchedulerOracle

def init (models : List ModelConfig) : SchedulerOracle where
  weights := models.foldl (fun d m => d.insert m.modelId m.weight) ∅
  ledgers := models.foldl (fun d m => d.insert m.modelId 0) ∅
  runnable := ∅
  baseline := 0
  pending := none

/-- The models of the eligible candidates. -/
def currentOf (candidates : List Candidate) : Finset Str :=
  ((candidates.filter (·.eligible)).map (·.modelId)).toFinset

/-- The ledger that a model which enters the runnable set is given. -/
def alignmentOf (s : SchedulerOracle) (continuing : Finset Str) : Except Exc ℚ :=
  if continuing.Nonempty then minItem s.ledgers continuing else .ok s.baseline

/-- `if models: self.baseline = min(self.ledgers[item] for item in models)` -/
def rebase (models : Finset Str) : Method SchedulerOracle Unit := do
  if models.Nonempty then
    let baseline ← liftM (minItem (← get).ledgers models)
    modify fun self => { self with baseline := baseline }

/-- `_sync_runnable` -/
def syncRunnable (candidates : List Candidate) : Method SchedulerOracle (Dict ℚ) := do
  let self ← get
  let alignment ← liftM (self.alignmentOf (currentOf candidates ∩ self.runnable))
  modify fun self => { self with ledgers := fill self.ledgers alignment (sorted (currentOf candidates \ self.runnable)) }
  modify fun self => { self with runnable := currentOf candidates }
  rebase (currentOf candidates)
  liftM (pick (← get).ledgers (currentOf candidates))

/-- The key of the urgent choice. `None` is never compared: every urgent candidate has a latest safe start. -/
def urgentKey (ledgers : Dict ℚ) (c : Candidate) : Except Exc (Lex (Int × Lex (ℚ × Str))) :=
  match c.latestSafeStartUs with
  | none => .error .typeError
  | some latest => do return toLex (latest, toLex (← getItem ledgers c.modelId, c.candidateId))

def normalKey (ledgers : Dict ℚ) (c : Candidate) : Except Exc (Lex (ℚ × Lex (Str × Str))) := do
  return toLex (← getItem ledgers c.modelId, toLex (c.modelId, c.candidateId))

/-- The choice among the candidates, once the ledgers are in step. -/
def select (ledgers : Dict ℚ) (nowUs : Int) (candidates : List Candidate) :
    Except Exc (Option Candidate × DecisionClass) := do
  let eligible := candidates.filter (·.eligible)
  let urgent := eligible.filter (·.isUrgent nowUs)
  if !urgent.isEmpty then return (← minBy (urgentKey ledgers) urgent, .urgent)
  else if !eligible.isEmpty then return (← minBy (normalKey ledgers) eligible, .normal)
  else return (none, .noPlan)

def schedule (nowUs : Int) (candidates : List Candidate) :
    Method SchedulerOracle (Option Candidate × DecisionClass × Dict ℚ) := do
  if (← get).pending.isSome then
    throw (.contractError (lit "oracle received schedule before the pending receipt"))
  else
    let runnableLedgers ← syncRunnable candidates
    let (selected, decisionClass) ← liftM (select (← get).ledgers nowUs candidates)
    modify fun self => { self with pending := selected }
    return (selected, decisionClass, runnableLedgers)

def acceptReceipt (candidateId modelId : Str) (actualEngineServiceUs : Int) : Method SchedulerOracle (Dict ℚ) := do
  let self ← get
  match self.pending with
  | none => throw (.contractError (lit "oracle received a receipt without a pending plan"))
  | some pending =>
    if pending.candidateId ≠ candidateId ∨ pending.modelId ≠ modelId then
      throw (.contractError (lit "oracle receipt does not match the pending plan"))
    else
      let ledger ← liftM (getItem self.ledgers modelId)
      let weight ← liftM (getItem self.weights modelId)
      modify fun self => { self with ledgers := self.ledgers.insert modelId (ledger + actualEngineServiceUs / weight) }
      modify fun self => { self with pending := none }
      rebase self.runnable
      return (← get).ledgers

def clearNoPlan : Method SchedulerOracle Unit := do
  if (← get).pending.isSome then
    throw (.contractError (lit "cannot clear a non-empty pending plan"))

/-! ## Runs -/

inductive Call where
  | schedule (nowUs : Int) (candidates : List Candidate)
  | acceptReceipt (candidateId modelId : Str) (actualEngineServiceUs : Int)
  | clearNoPlan

/-- The oracle after a call, whether it returned or raised. -/
def after (s : SchedulerOracle) : Call → SchedulerOracle
  | .schedule now candidates => ((schedule now candidates).call s).2
  | .acceptReceipt candidateId modelId actual => ((acceptReceipt candidateId modelId actual).call s).2
  | .clearNoPlan => (clearNoPlan.call s).2

def run (models : List ModelConfig) (calls : List Call) : SchedulerOracle := calls.foldl after (init models)

end SchedulerOracle

end TurnVector
