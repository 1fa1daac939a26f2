import TurnVector.Authority.Relations
import TurnVector.Canonical.Require

/-! # The relation layer, Phase C

`encode_enforcement_path` and `derive_relations` of `authority/compiler_relations.py`.
-/

namespace TurnVector.Relations

open Python Json Canonical

/-! ## Percent encoding -/

/-- `_UR`: the bytes that stand for themselves. -/
def isUnreserved (b : Byte) : Bool :=
  (65 ≤ b.val && b.val ≤ 90) || (97 ≤ b.val && b.val ≤ 122) || (48 ≤ b.val && b.val ≤ 57) || b.val == 45 ||
    b.val == 46 || b.val == 95

/-- A digit of `"%02X"`. -/
def upperHex (n : Nat) : CodePoint := if n < 10 then cp (48 + n) else cp (55 + n)

def pctByte (b : Byte) : Str :=
  if isUnreserved b then [cp b.val] else [cp 37, upperHex (b.val / 16), upperHex (b.val % 16)]

/-- `pct_encode` -/
def pctEncode (text : Str) : Except Exc Str :=
  match encodeUtf8 text with
  | none => .error (.valueError (lit "component contains an unpaired surrogate"))
  | some raw => .ok (raw.flatMap pctByte)

/-- The number of an uppercase hexadecimal digit. -/
def upperHexVal (b : Byte) : Option Nat :=
  if 48 ≤ b.val ∧ b.val ≤ 57 then some (b.val - 48)
  else if 65 ≤ b.val ∧ b.val ≤ 70 then some (b.val - 55)
  else none

/-- The loop of `pct_decode`. -/
def pctDecodeBytes : Bytes → Except Exc Bytes
  | [] => .ok []
  | b :: rest =>
    if b.val = 37 then
      match rest with
      | d1 :: d2 :: rest =>
        match upperHexVal d1, upperHexVal d2 with
        | some n1, some n2 =>
          if isUnreserved (byte (16 * n1 + n2)) then .error (.valueError (lit "nonminimal percent escape"))
          else do return byte (16 * n1 + n2) :: (← pctDecodeBytes rest)
        | _, _ => .error (.valueError (lit "percent escape must use uppercase hex"))
      | _ => .error (.valueError (lit "stray percent escape"))
    else if isUnreserved b then do return b :: (← pctDecodeBytes rest)
    else .error (.valueError (lit "reserved byte must be percent encoded"))

/-- `pct_decode` -/
def pctDecode (component : Str) : Except Exc Str :=
  match encodeAscii component with
  | none => .error (.valueError (lit "encoded component must be ASCII"))
  | some source => do
    match decodeUtf8 (← pctDecodeBytes source) with
    | none => throw (.valueError (lit "percent escapes do not encode valid UTF-8"))
    | some text =>
      if (← pctEncode text) ≠ component then throw (.valueError (lit "component is not canonical"))
      return text

/-- `_decode_identifier` -/
def decodeIdentifier (component : Str) : Except Exc Str := do
  let value ← pctDecode component
  if isIdentifier value then return value
  throw (.valueError (lit "decoded component is not an identifier"))

/-! ## Enforcement paths -/

/-- `"~".join(pieces)` -/
def joinTilde (pieces : List Str) : Str := [cp 126].intercalate pieces

/-- `encode_enforcement_path` -/
def encodeEnforcementPath (obligationId caseId judgeId bundleId gateId : Str) : Except Exc Str :=
  let values := [obligationId, caseId, judgeId, bundleId, gateId]
  if values.any fun item => !isIdentifier item then
    .error (.valueError (lit "enforcement-path fields must be identifiers"))
  else do return joinTilde (← values.mapM pctEncode)

/-- `decode_enforcement_path` -/
def decodeEnforcementPath (component : Str) : Except Exc (Str × Str × Str × Str × Str) :=
  match component.splitOn (cp 126) with
  | [p1, p2, p3, p4, p5] => do
    let o ← decodeIdentifier p1
    let c ← decodeIdentifier p2
    let j ← decodeIdentifier p3
    let b ← decodeIdentifier p4
    let g ← decodeIdentifier p5
    if (← encodeEnforcementPath o c j b g) ≠ component then
      throw (.valueError (lit "enforcement path is not canonical"))
    return (o, c, j, b, g)
  | _ => .error (.valueError (lit "enforcement path must contain exactly five fields"))

/-! ## Derivation -/

structure EnforcementPath where
  pathId : Str
  obligationId : Str
  caseId : Str
  judgeId : Str
  bundleId : Str
  gateId : Str

structure DerivedRelations where
  gateAggregateNegative : List (Str × Str)
  gatePlumbingNegative : List (Str × Str)
  enforcementPaths : List EnforcementPath
  pathCase : List (Str × Str)
  pathGate : List (Str × Str)
  pathJudgeNegative : List (Str × Str)
  pathEvidence : List (Str × Str)

/-- The records that one path adds. -/
structure PathRecords where
  path : EnforcementPath
  case : Str × Str
  gate : Str × Str
  judgeNegative : Str × Str
  evidence : List (Str × Str)

section
variable {σ : Type} (hook : String → Nat → Method σ Unit) (v : PhaseBResult)

/-- `d[key]` of a dict that a comprehension built from records. -/
def lookupRecord (records : List (Str × Str)) (key : Str) : Except Exc Str :=
  itemOf (lastOf Prod.fst Prod.snd records key) key

/-- The two records of a gate. -/
def deriveGate (gate : Str × Str) : Method σ ((Str × Str) × (Str × Str)) := do
  hook "gate_aggregate_negative" 24
  let aggregate ← liftM (lookupRecord v.aggregateTemplates gate.2)
  hook "gate_plumbing_negative" 24
  let plumbing ← liftM (lookupRecord v.plumbingTemplates gate.2)
  return ((gate.2, aggregate), (gate.2, plumbing))

/-- One turn of the innermost loop. A path id is ASCII, so it has a byte a character. -/
def derivePath (bundle judge : Str) (pair : Pair) (caseId : Str) : Method σ PathRecords := do
  let pathId ← liftM (encodeEnforcementPath pair.obligationId caseId judge bundle pair.gateId)
  hook "enforcement_path" (48 + pathId.length)
  hook "path_case" 24
  hook "path_gate" 24
  hook "path_judge_negative" 24
  let template ← liftM (lookupRecord v.judgeTemplates pair.obligationId)
  let sources := sortedBy (fun s => [s]) (membersOf v.toTables bundle)
  sources.forM fun _ => hook "path_evidence" 24
  return {
    path := ⟨pathId, pair.obligationId, caseId, judge, bundle, pair.gateId⟩
    case := (pathId, caseId)
    gate := (pathId, pair.gateId)
    judgeNegative := (pathId, template)
    evidence := sources.map fun source => (pathId, source) }

def derivePair (lane : Lane) (bundle : Str) (pair : Pair) : Method σ (List PathRecords) := do
  let judge ← liftM (lookupRecord v.obligationJudges pair.obligationId)
  (sortedBy (fun c => [c]) lane.caseIds).mapM (derivePath hook v bundle judge pair)

def deriveLane (lane : Lane) : Method σ (List PathRecords) := do
  let bundle ← liftM (lookupRecord v.bundles lane.laneId)
  let pairs := v.pairs.filter fun p => p.laneId = lane.laneId
  let records ← (sortedBy (fun p => [p.laneId, p.obligationId, p.gateId]) pairs).mapM (derivePair hook v lane bundle)
  return records.flatten

/-- `derive_relations` -/
def deriveRelations : Method σ DerivedRelations := do
  let gates ← (sortedBy (fun g => [g.1, g.2]) v.gates).mapM (deriveGate hook v)
  let records ← v.lanes.mapM (deriveLane hook v)
  let paths := records.flatten
  let evidence := paths.flatMap (·.evidence)
  if paths.length ≠ v.h ∨ evidence.length ≠ v.rHe then
    throw (.compilerInternalError (lit "Phase C relation count diverged from Phase B"))
  return {
    gateAggregateNegative := gates.map (·.1)
    gatePlumbingNegative := gates.map (·.2)
    enforcementPaths := paths.map (·.path)
    pathCase := paths.map (·.case)
    pathGate := paths.map (·.gate)
    pathJudgeNegative := paths.map (·.judgeNegative)
    pathEvidence := evidence }

end

end TurnVector.Relations
