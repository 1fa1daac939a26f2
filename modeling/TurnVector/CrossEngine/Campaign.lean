import TurnVector.Authority.PathId
import TurnVector.CrossEngine.Ledger

/-! # The campaign plan

`freeze_campaign` of `cross_engine/campaign.py`: cases, targets and repetitions become the cells of a plan.
-/

namespace TurnVector.CrossEngine

open Python Json Relations

/-! ## Target orders -/

/-- `sorted(values)` -/
def sortedTexts (values : List Str) : List Str := values.insertionSort fun a b => a ≤ b

/-- The targets of one repetition. -/
def targetOrder (canonical : List Str) (repetition : Nat) : List Str :=
  let block := repetition / canonical.length
  let offset := repetition % canonical.length
  let base := if block % 2 = 0 then canonical else canonical.reverse
  base.drop offset ++ base.take offset

/-- `balanced_target_orders` -/
def balancedTargetOrders (targetIds : List Str) (repetitionCount : Int) : Except Exc (List (List Str)) := do
  targetIds.forM fun value => identifier value (lit "target_ids[]")
  if targetIds.isEmpty then .error (.contractError (lit "target_ids must not be empty"))
  else if ¬ targetIds.Nodup then .error (.contractError (lit "target_ids must not contain duplicates"))
  else do
    nonnegativeInteger repetitionCount (lit "repetition_count")
    if repetitionCount = 0 then .error (.contractError (lit "repetition_count must be positive"))
    else .ok ((List.range repetitionCount.toNat).map (targetOrder (sortedTexts targetIds)))

/-! ## Cases -/

/-- `_field`: an item of a mapping, or an attribute of an object. -/
def field (value : List (Str × Json)) (name : String) (default : Json) : Json :=
  (value.lookup (lit name)).getD default

/-- `_identifier` of any value. -/
def identifierOf (value : Json) (place : Str) : Except Exc Str :=
  match value with
  | .str text => do
    identifier text place
    return text
  | _ => .error (.contractError (place ++ lit " must be a lowercase benchmark identifier"))

/-- `isinstance(value, (str, bool, int))`, or a finite float. -/
def isScalar : Json → Bool
  | .str _ | .bool _ | .int _ => true
  | .float token => !occurs token [lit "nan", lit "inf", lit "-inf"]
  | _ => false

/-- `_frozen_parameters` -/
def frozenParameters (value : Json) (place : Str) : Except Exc (List (Str × Json)) :=
  match value with
  | .obj members =>
    if members.length > 32 then .error (.contractError (place ++ lit " exceeds the 32-field bound"))
    else do
      members.forM fun member => do
        identifier member.1 (place ++ lit ".<key>")
        if isScalar member.2 then .ok ()
        else .error (.contractError (place ++ lit "." ++ member.1 ++ lit " must be a finite JSON scalar"))
      return sortByKey members
  | _ => .error (.contractError (place ++ lit " must be an object"))

def requiredCapabilities (value : Json) (place : Str) : Except Exc (List Str) :=
  match value with
  | .arr items => do
    let capabilities ← items.mapM fun item => identifierOf item (place ++ lit ".required_capabilities[]")
    if ¬ capabilities.Nodup then
      .error (.contractError (place ++ lit ".required_capabilities must not contain duplicates"))
    else .ok (sortedTexts capabilities)
  | _ => .error (.contractError (place ++ lit ".required_capabilities must be a sequence"))

structure ParsedCase where
  caseId : Str
  scenarioId : Str
  matrixId : Str
  pairingId : Str
  parameters : List (Str × Json)
  capabilities : List Str
  isolation : Json
  deriving DecidableEq

def parseCase (case : List (Str × Json)) (index : Nat) : Except Exc ParsedCase := do
  let place := lit "cases[" ++ natText index ++ lit "]"
  let caseId ← identifierOf (field case "case_id" .null) (place ++ lit ".case_id")
  let scenarioId ← identifierOf (field case "scenario_id" (field case "family" .null)) (place ++ lit ".scenario_id")
  let matrixId ← identifierOf (field case "matrix_id" (.str (lit "default"))) (place ++ lit ".matrix_id")
  let pairingId ← identifierOf (field case "pairing_id" (.str caseId)) (place ++ lit ".pairing_id")
  let parameters ← frozenParameters (field case "parameters" (.obj [])) (place ++ lit ".parameters")
  let capabilities ← requiredCapabilities (field case "required_capabilities" (.arr [])) place
  let isolation := field case "isolation_policy" (.str (lit "fresh_process_fresh_state_root"))
  return { caseId, scenarioId, matrixId, pairingId, parameters, capabilities, isolation }

/-! ## Cells -/

def isolationPolicies : List Str :=
  [lit "fresh_process_fresh_state_root", lit "fresh_process_preserved_disk_state", lit "session_reuse_memory_warm",
   lit "no_reset"]

def isolationPolicyOf (value : Json) : Except Exc Str :=
  match value with
  | .str policy =>
    if occurs policy isolationPolicies then .ok policy
    else .error (.contractError (lit "CampaignCell.isolation_policy is not registered"))
  | .arr _ | .obj _ => .error .typeError
  | _ => .error (.contractError (lit "CampaignCell.isolation_policy is not registered"))

structure CampaignCell where
  ordinal : Nat
  cellId : Str
  pairingKey : Str
  targetId : Str
  scenarioId : Str
  caseId : Str
  repetition : Nat
  requiredCapabilities : List Str
  isolationPolicy : Str
  matrixId : Str
  pairingId : Str
  parameters : List (Str × Json)
  identified : isBenchmarkIdentifier cellId = true
  deriving DecidableEq

/-- What a cell is frozen from: its repetition, its case and its target. -/
abbrev Place := Nat × ParsedCase × Str

def pairingKeyOf (place : Place) : Str :=
  place.2.1.scenarioId ++ lit "." ++ place.2.1.caseId ++ lit ".r" ++ fourDigits place.1

def cellIdOf (place : Place) : Str := pairingKeyOf place ++ lit "." ++ place.2.2

/-- `CampaignCell(...)` with its `__post_init__`. -/
def CampaignCell.init (place : Place) (ordinal : Nat) : Except Exc CampaignCell :=
  if identified : isBenchmarkIdentifier (cellIdOf place) = true then do
    identifier (pairingKeyOf place) (lit "CampaignCell.pairing_key")
    identifier place.2.2 (lit "CampaignCell.target_id")
    identifier place.2.1.scenarioId (lit "CampaignCell.scenario_id")
    identifier place.2.1.caseId (lit "CampaignCell.case_id")
    identifier place.2.1.matrixId (lit "CampaignCell.matrix_id")
    identifier place.2.1.pairingId (lit "CampaignCell.pairing_id")
    let parameters ← frozenParameters (.obj place.2.1.parameters) (lit "CampaignCell.parameters")
    place.2.1.capabilities.forM fun item => identifier item (lit "CampaignCell.required_capabilities[]")
    if ¬ place.2.1.capabilities.Nodup ∨ place.2.1.capabilities ≠ sortedTexts place.2.1.capabilities then
      .error (.contractError (lit "CampaignCell.required_capabilities must be unique and sorted"))
    else do
      let isolationPolicy ← isolationPolicyOf place.2.1.isolation
      return {
        ordinal
        cellId := cellIdOf place
        pairingKey := pairingKeyOf place
        targetId := place.2.2
        scenarioId := place.2.1.scenarioId
        caseId := place.2.1.caseId
        repetition := place.1
        requiredCapabilities := place.2.1.capabilities
        isolationPolicy
        matrixId := place.2.1.matrixId
        pairingId := place.2.1.pairingId
        parameters
        identified }
  else .error (.contractError (lit "CampaignCell.cell_id must be a lowercase benchmark identifier"))

/-! ## The plan -/

structure CampaignPlan where
  campaignId : Str
  cells : List CampaignCell
  targetOrders : List (List Str)
  retryableReasonCodes : List Str
  outlierPolicy : Str
  distinct : (cells.map (·.cellId)).Nodup
  reasonsIdentified : ∀ item ∈ retryableReasonCodes, isBenchmarkIdentifier item = true
  reasonsSorted : retryableReasonCodes = sortedTexts retryableReasonCodes.dedup

/-- `CampaignPlan(...)` with its `__post_init__`. -/
def CampaignPlan.init (campaignId : Str) (cells : List CampaignCell) (targetOrders : List (List Str))
    (retryableReasonCodes : List Str) (outlierPolicy : Str) : Except Exc CampaignPlan := do
  identifier campaignId (lit "CampaignPlan.campaign_id")
  if cells.isEmpty then .error (.contractError (lit "CampaignPlan.cells must not be empty"))
  else if cells.map (·.ordinal) ≠ List.range cells.length then
    .error (.contractError (lit "CampaignPlan cell ordinals must be contiguous from zero"))
  else if distinct : (cells.map (·.cellId)).Nodup then
    if reasonsIdentified : ∀ item ∈ retryableReasonCodes, isBenchmarkIdentifier item = true then
      if reasonsSorted : retryableReasonCodes = sortedTexts retryableReasonCodes.dedup then
        if outlierPolicy ≠ lit "no_deletion" then
          .error (.contractError (lit "cross-engine v1 fixes outlier_policy to no_deletion"))
        else .ok { campaignId, cells, targetOrders, retryableReasonCodes, outlierPolicy, distinct, reasonsIdentified,
                   reasonsSorted }
      else .error (.contractError (lit "CampaignPlan.retryable_reason_codes must be unique and sorted"))
    else .error (.contractError (lit "CampaignPlan.retryable_reason_codes[] must be a lowercase benchmark identifier"))
  else .error (.contractError (lit "CampaignPlan cell IDs must be unique"))

/-- The loops of `freeze_campaign` over repetitions, cases and targets. -/
def places (orders : List (List Str)) (cases : List ParsedCase) : List Place :=
  orders.zipIdx.flatMap fun order => cases.flatMap fun case => order.1.map fun targetId => (order.2, case, targetId)

def freezeCampaign (campaignId : Str) (cases : List (List (Str × Json))) (targetIds : List Str) (repetitionCount : Int)
    (retryableReasonCodes : List Str) : Except Exc CampaignPlan :=
  if cases.isEmpty then .error (.contractError (lit "cases must be a non-empty sequence"))
  else do
    let orders ← balancedTargetOrders targetIds repetitionCount
    let parsedCases ← cases.zipIdx.mapM fun case => parseCase case.1 case.2
    let cells ← (places orders parsedCases).zipIdx.mapM fun place => CampaignCell.init place.1 place.2
    identifier campaignId (lit "campaign_id")
    CampaignPlan.init campaignId cells orders (sortedTexts retryableReasonCodes) (lit "no_deletion")

end TurnVector.CrossEngine
