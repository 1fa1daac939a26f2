import TurnVector.Core

/-! # The reference driver

`ReferenceScheduler` of `drivers/reference_driver.py`. It reads the runner's messages as plain dicts.
-/

namespace TurnVector

open Python

/-- A value of a message that holds no other: what the runner puts on the wire. -/
inductive Scalar where
  | none
  | bool (b : Bool)
  | int (n : Int)
  | str (s : Str)
  deriving DecidableEq

namespace Scalar

def truthy : Scalar → Bool
  | .none => false
  | .bool b => b
  | .int n => n ≠ 0
  | .str s => s ≠ []

/-- An operand of a subtraction or of `Fraction`. -/
def asInt : Scalar → Except Exc Int
  | .int n => .ok n
  | .bool b => .ok (if b then 1 else 0)
  | _ => .error .typeError

/-- A key of the ledgers, or a part of a sort key. The runner sends text only. -/
def asStr : Scalar → Except Exc Str
  | .str s => .ok s
  | _ => .error .typeError

end Scalar

/-- A flat dict of a message. -/
abbrev Record := List (Str × Scalar)

/-- `record[key]` -/
def Record.get (record : Record) (key : Str) : Except Exc Scalar :=
  match List.lookup key record with
  | some v => .ok v
  | none => .error (.keyError key)

/-- `ModelConfig.as_message` -/
def ModelConfig.asMessage (m : ModelConfig) : Record :=
  [(lit "model_id", .str m.modelId), (lit "weight", .int m.weight)]

/-- `Candidate.as_message` -/
def Candidate.asMessage (c : Candidate) : Record :=
  [(lit "candidate_id", .str c.candidateId),
   (lit "model_id", .str c.modelId),
   (lit "execution_phase", .str c.executionPhase),
   (lit "service_class", .str c.serviceClass),
   (lit "engine_service_bound_us", .int c.engineServiceBoundUs),
   (lit "runtime_overhead_bound_us", .int c.runtimeOverheadBoundUs),
   (lit "timing_obligation_us", c.timingObligationUs.elim .none .int),
   (lit "capability_authorized", .bool c.capabilityAuthorized),
   (lit "resource_safe", .bool c.resourceSafe),
   (lit "timing_feasible", .bool c.timingFeasible),
   (lit "output_reserved", .bool c.outputReserved)]

structure ScheduleMessage where
  sequence : Int
  nowUs : Int
  candidates : List Record

structure PlanReply where
  sequence : Int
  candidateId : Scalar
  runnableLedgersUs : List (Str × Str)

structure ReceiptReply where
  sequence : Scalar
  modelLedgersUs : List (Str × Str)

structure ReferenceScheduler where
  weights : Dict Scalar
  ledgers : Dict ℚ
  runnable : Finset Str
  baseline : ℚ
  pending : Option Record

namespace ReferenceScheduler

def init (models : List Record) : Except Exc ReferenceScheduler := do
  let pairs ← models.mapM fun model => do
    return (← (← model.get (lit "model_id")).asStr, ← model.get (lit "weight"))
  let weights : Dict Scalar := pairs.foldl (fun d p => d.insert p.1 p.2) ∅
  return {
    weights
    ledgers := fill ∅ 0 (sorted weights.keys)
    runnable := ∅
    baseline := 0
    pending := none }

/-- `ledger_map` -/
def ledgerMap (ledgers : Dict ℚ) (modelIds : Finset Str) : Except Exc (List (Str × Str)) :=
  (sorted modelIds).mapM fun modelId => do return (modelId, fractionText (← getItem ledgers modelId))

/-- `all(candidate[field] for field in fields)` -/
def allTruthy (candidate : Record) : List Str → Except Exc Bool
  | [] => .ok true
  | field :: fields => do if (← candidate.get field).truthy then allTruthy candidate fields else return false

def eligible (candidate : Record) : Except Exc Bool :=
  allTruthy candidate [lit "capability_authorized", lit "resource_safe", lit "timing_feasible", lit "output_reserved"]

/-- `candidate["model_id"]`, as a key. -/
def modelIdOf (candidate : Record) : Except Exc Str := do (← candidate.get (lit "model_id")).asStr

def candidateIdOf (candidate : Record) : Except Exc Str := do (← candidate.get (lit "candidate_id")).asStr

/-- `if models: self.baseline = min(self.ledgers[item] for item in models)` -/
def rebase (models : Finset Str) : Method ReferenceScheduler Unit := do
  if models.Nonempty then
    let baseline ← liftM (minItem (← get).ledgers models)
    modify fun self => { self with baseline := baseline }

/-- The lines of `schedule` that bring the ledgers in step with the models that run now. -/
def realign (current : Finset Str) : Method ReferenceScheduler Unit := do
  let self ← get
  let alignment ← liftM (if (current ∩ self.runnable).Nonempty then minItem self.ledgers (current ∩ self.runnable)
    else Except.ok self.baseline)
  modify fun self => { self with ledgers := fill self.ledgers alignment (sorted (current \ self.runnable)) }
  modify fun self => { self with runnable := current }
  rebase current

/-- The entry of an eligible candidate in the list of the urgent ones. -/
def urgentEntry (nowUs : Int) (candidate : Record) : Except Exc (Option (Int × Record)) := do
  let obligation ← candidate.get (lit "timing_obligation_us")
  if obligation = .none then return none
  else
    let latest := (← obligation.asInt) - (← (← candidate.get (lit "engine_service_bound_us")).asInt) -
      (← (← candidate.get (lit "runtime_overhead_bound_us")).asInt)
    return if nowUs ≥ latest then some (latest, candidate) else none

def urgentKey (ledgers : Dict ℚ) (item : Int × Record) : Except Exc (Lex (Int × Lex (ℚ × Str))) := do
  return toLex (item.1, toLex (← getItem ledgers (← modelIdOf item.2), ← candidateIdOf item.2))

def normalKey (ledgers : Dict ℚ) (candidate : Record) : Except Exc (Lex (ℚ × Lex (Str × Str))) := do
  return toLex (← getItem ledgers (← modelIdOf candidate), toLex (← modelIdOf candidate, ← candidateIdOf candidate))

def select (ledgers : Dict ℚ) (nowUs : Int) (eligible : List Record) : Except Exc (Option Record) := do
  let urgent := (← eligible.mapM (urgentEntry nowUs)).filterMap id
  if !urgent.isEmpty then return (← minBy (urgentKey ledgers) urgent).map Prod.snd
  else if !eligible.isEmpty then minBy (normalKey ledgers) eligible
  else return none

def schedule (message : ScheduleMessage) : Method ReferenceScheduler PlanReply := do
  if (← get).pending.isSome then throw (.valueError (lit "schedule received before pending receipt"))
  else
    let eligible ← liftM (filterE eligible message.candidates)
    let current := (← liftM (eligible.mapM modelIdOf)).toFinset
    realign current
    let selected ← liftM (select (← get).ledgers message.nowUs eligible)
    modify fun self => { self with pending := selected }
    let candidateId ← liftM (selected.elim (Except.ok Scalar.none) (·.get (lit "candidate_id")))
    return ⟨message.sequence, candidateId, ← liftM (ledgerMap (← get).ledgers current)⟩

/-- `Fraction(numerator, denominator)` -/
def fraction (numerator denominator : Int) : Except Exc ℚ :=
  if denominator = 0 then .error .zeroDivisionError else .ok (numerator / denominator)

/-- Whether a receipt is that of the pending plan. -/
def isFor (message pending : Record) : Except Exc Bool := do
  if (← message.get (lit "candidate_id")) ≠ (← pending.get (lit "candidate_id")) then return false
  else return (← message.get (lit "model_id")) = (← pending.get (lit "model_id"))

/-- `Fraction(message["actual_engine_service_us"], self.weights[model_id])` -/
def chargeOf (weights : Dict Scalar) (message : Record) (modelId : Str) : Except Exc ℚ := do
  let actual ← message.get (lit "actual_engine_service_us")
  let weight ← getItem weights modelId
  fraction (← actual.asInt) (← weight.asInt)

def receipt (message : Record) : Method ReferenceScheduler ReceiptReply := do
  let self ← get
  match self.pending with
  | none => throw (.valueError (lit "receipt received without a pending plan"))
  | some pending =>
    if ← liftM (isFor message pending) then
      let modelId ← liftM (modelIdOf message)
      let ledger ← liftM (getItem self.ledgers modelId)
      let charge ← liftM (chargeOf self.weights message modelId)
      modify fun self => { self with ledgers := self.ledgers.insert modelId (ledger + charge) }
      modify fun self => { self with pending := none }
      rebase self.runnable
      let sequence ← liftM (message.get (lit "sequence"))
      return ⟨sequence, ← liftM (ledgerMap (← get).ledgers (← get).ledgers.keys)⟩
    else throw (.valueError (lit "receipt does not match pending plan"))

end ReferenceScheduler

end TurnVector
