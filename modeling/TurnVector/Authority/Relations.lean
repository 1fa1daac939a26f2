import TurnVector.CompileLimits
import TurnVector.Python.Value

/-! # The relation layer, Phase B

`authority/compiler_relations.py` up to `validate_relations`. Its inputs are read by protocol: a record is a mapping or
an object with attributes, so a typed value is here the mapping of its fields.
-/

namespace TurnVector.Relations

open Python Json

/-! ## Reading by protocol -/

/-- `_get` with a default. -/
def get? (value : Json) (names : List String) : Option Json := names.findSome? fun name => value.member? (lit name)

/-- `_get` -/
def get (value : Json) (names : List String) : Except Exc Json :=
  match get? value names with
  | some v => .ok v
  | none => .error (.compilerInternalError (lit "relation input lacks field " ++ join (lit "/") (names.map lit)))

/-- `_value` -/
def valueOf (value : Json) : Json := (get? value ["value"]).getD value

/-- `_seq` -/
def seq (value : Json) (names : List String) : Except Exc (List Json) :=
  match get? value names with
  | some v => v.tuple
  | none => .ok []

/-- `str(_get(record, *names))` -/
def field (record : Json) (names : List String) : Except Exc Str := do return (← get record names).strOf

/-- `_record_tuple` of two fields. -/
def recordPair (first second : List String) (record : Json) : Except Exc (Str × Str) := do
  return (← field record first, ← field record second)

/-- `_seq(dimension, "values")`. A dict without that key still has its method of that name, which is no sequence. -/
def dimensionValues (dimension : Json) : Except Exc (List Json) :=
  match dimension with
  | .obj kvs =>
    match kvs.lookup (lit "values") with
    | some v => v.tuple
    | none => .error .typeError
  | _ => .ok []

/-! ## Normal form of the inputs -/

/-- `_Lane` -/
structure Lane where
  laneId : Str
  cases : List Str
  caseIds : List Str
  gates : List Str
  requiredArtifacts : List Str
  deriving DecidableEq

/-- `_Obligation` -/
structure Obligation where
  obligationId : Str
  laneId : Str
  behaviorCaseId : Str
  required : Bool
  ordinal : Nat
  deriving DecidableEq

/-- `_Pair` -/
structure Pair where
  laneId : Str
  obligationId : Str
  gateId : Str
  index : Nat
  deriving DecidableEq

/-- The arrays that Phase B sweeps. A pair is (lane, bundle), (bundle, source), (lane, artifact), (lane, gate) or
(owner, template). -/
structure Tables where
  lanes : List Lane
  allObligations : List Obligation
  judges : List Str
  obligationJudges : List (Str × Str)
  bundles : List (Str × Str)
  evidenceSources : List Str
  bundleEvidence : List (Str × Str)
  laneContexts : List (Str × Str)
  laneOutputs : List (Str × Str)
  gates : List (Str × Str)
  pairs : List Pair
  judgeTemplates : List (Str × Str)
  aggregateTemplates : List (Str × Str)
  plumbingTemplates : List (Str × Str)
  cardinalities : List (Str × Json)

def Tables.obligations (t : Tables) : List Obligation := t.allObligations.filter (·.required)

structure PhaseBResult extends Tables where
  m : Nat
  h : Nat
  rHe : Nat
  kExec : Nat

/-- `_matrix_count` -/
def matrixCount (matrix : Json) : Except Exc Nat := do
  let dimensions ← seq matrix ["dimensions"]
  dimensions.foldlM (fun product dimension => do
    checkedMul product (← dimensionValues dimension).length (lit "case-plan product")) 1

/-- `"%04d" % n` -/
def fourDigits (n : Nat) : Str := List.replicate (4 - (natText n).length) (cp 48) ++ natText n

/-- `"%s.%s.%04d" % (lane_id, matrix_id, ordinal)` -/
def caseId (laneId matrixId : Str) (ordinal : Nat) : Str :=
  laneId ++ lit "." ++ matrixId ++ lit "." ++ fourDigits ordinal

/-- The case ids of the matrices from an ordinal on. -/
def expand (laneId : Str) (ordinal : Nat) : List Json → Except Exc (List Str)
  | [] => .ok []
  | matrix :: matrices => do
    let matrixId ← field matrix ["matrix_id", "id"]
    let count ← matrixCount matrix
    let rest ← expand laneId (ordinal + count) matrices
    return (List.range count).map (fun i => caseId laneId matrixId (ordinal + i)) ++ rest

def normalizeLane (lane : Json) : Except Exc Lane := do
  let laneId ← field lane ["lane_id", "id"]
  let caseIds ← expand laneId 1 (← seq lane ["matrices"])
  let cases ← (← seq lane ["cases"]).mapM (field · ["case_id", "id"])
  let gates ← (← seq lane ["gates"]).mapM (field · ["gate_id", "id"])
  return ⟨laneId, cases, caseIds, gates, (← seq lane ["required_artifacts"]).map strOf⟩

def normalizeObligation (item : Json × Nat) : Except Exc Obligation := do
  return ⟨← field item.1 ["obligation_id", "id"], ← field item.1 ["lane_id"], ← field item.1 ["behavior_case_id"],
    (← get item.1 ["required"]).truth, item.2 + 1⟩

def normalizePair (item : Json × Nat) : Except Exc Pair := do
  return ⟨← field item.1 ["lane_id"], ← field item.1 ["obligation_id"], ← field item.1 ["gate_id"], item.2⟩

/-- The members of `cardinalities`: of what is no mapping, none. -/
def members : Json → List (Str × Json)
  | .obj kvs => kvs
  | _ => []

/-- `entities`: without that field, the ledger itself. -/
def entitiesOf (ledger : Json) : Json := (get? (valueOf ledger) ["entities"]).getD (valueOf ledger)

def readIds (entities : Json) (name : String) : Except Exc (List Str) := do return (← seq entities [name]).map strOf

def readPairs (entities : Json) (name : String) (first second : List String) : Except Exc (List (Str × Str)) := do
  (← seq entities [name]).mapM (recordPair first second)

def readLanes (expectation : Json) : Except Exc (List Lane) := do
  (← seq (valueOf expectation) ["lanes"]).mapM normalizeLane

def readObligations (catalog : Json) : Except Exc (List Obligation) := do
  (← seq (valueOf catalog) ["obligations", "records"]).zipIdx.mapM normalizeObligation

def readGatePairs (entities : Json) : Except Exc (List Pair) := do
  (← seq entities ["obligation_gate_pairs"]).zipIdx.mapM normalizePair

/-- `_normalize`, and the arrays that `validate_relations` reads from the entities. -/
def normalize (catalog expectation ledger : Json) : Except Exc Tables := do
  let lanes ← readLanes expectation
  let allObligations ← readObligations catalog
  let entities := entitiesOf ledger
  let cardinalities ← get (valueOf ledger) ["cardinalities"]
  return {
    lanes, allObligations
    judges := ← readIds entities "judge_ids"
    obligationJudges := ← readPairs entities "obligation_to_judge" ["obligation_id"] ["judge_id"]
    bundles := ← readPairs entities "evidence_bundles" ["lane_id"] ["bundle_id", "id"]
    evidenceSources := ← readIds entities "evidence_source_ids"
    bundleEvidence := ← readPairs entities "evidence_bundle_memberships" ["bundle_id"] ["evidence_source_id"]
    laneContexts := ← readPairs entities "lane_contexts" ["lane_id"] ["artifact_type"]
    laneOutputs := ← readPairs entities "post_gate_outputs" ["lane_id"] ["artifact_type"]
    gates := ← readPairs entities "gates" ["lane_id"] ["gate_id"]
    pairs := ← readGatePairs entities
    judgeTemplates := ← readPairs entities "judge_negative_tests" ["owner_id"] ["id"]
    aggregateTemplates := ← readPairs entities "aggregate_negative_tests" ["owner_id"] ["id"]
    plumbingTemplates := ← readPairs entities "plumbing_negative_tests" ["owner_id"] ["id"]
    cardinalities := members cardinalities }

/-! ## Sweeps -/

/-- A test of a sweep: whether it fails, and the pointer that is reported then. -/
abbrev Probe := Bool × Str

/-- A sweep raises at the first test that fails. -/
def sweep (variant : Variant) (probes : List Probe) : Except Exc Unit :=
  match probes.find? (·.1) with
  | some p => .error (.relationValidationError variant [p.2])
  | none => .ok ()

def entityPointer (name : String) (index : Nat) : Str :=
  lit "/traceability_ledger/entities/" ++ lit name ++ lit "/" ++ natText index

def cardinalityPointer (name : String) : Str := lit "/traceability_ledger/cardinalities/" ++ lit name

def catalogPointer (x : Obligation) : Str := lit "/obligation_catalog/" ++ natText x.ordinal

def lanePointer (index : Nat) : Str := lit "/benchmark_expectation/lanes/" ++ natText index

/-- `{key(x): value(x) for x in xs}.get(k)`: the last of equal keys wins. -/
def lastOf {α β : Type} (key : α → Str) (value : α → β) (xs : List α) (k : Str) : Option β :=
  (xs.reverse.find? fun x => key x = k).map value

section
variable (t : Tables)

def laneIds : List Str := t.lanes.map (·.laneId)

def obligationIds : List Str := t.obligations.map (·.obligationId)

def gateIds : List Str := t.gates.map (·.2)

/-! ## Stage 29 -/

def unknownCase : List Probe := t.allObligations.map fun x =>
  (!(occurs x.laneId (laneIds t) && occurs x.behaviorCaseId ((lastOf Lane.laneId Lane.cases t.lanes x.laneId).getD [])),
    catalogPointer x ++ lit "/behavior_case_id")

/-- The tests of one array against the domains of its two fields. A field without a domain is not tested. -/
def unknownFields (records : List (Str × Str)) (first second : Option (List Str)) (name : String)
    (firstField secondField : String) : List Probe :=
  records.zipIdx.flatMap fun r =>
    (first.toList.map fun domain => (!occurs r.1.1 domain, entityPointer name r.2 ++ lit "/" ++ lit firstField)) ++
    (second.toList.map fun domain => (!occurs r.1.2 domain, entityPointer name r.2 ++ lit "/" ++ lit secondField))

def unknownPair : List Probe := t.pairs.flatMap fun p =>
  [(!occurs p.laneId (laneIds t), entityPointer "obligation_gate_pairs" p.index ++ lit "/lane_id"),
   (!occurs p.obligationId (obligationIds t), entityPointer "obligation_gate_pairs" p.index ++ lit "/obligation_id"),
   (!occurs p.gateId (gateIds t), entityPointer "obligation_gate_pairs" p.index ++ lit "/gate_id")]

def unknownEntity : List Probe :=
  unknownCase t ++
  unknownFields t.obligationJudges (some (obligationIds t)) (some t.judges) "obligation_to_judge"
    "obligation_id" "judge_id" ++
  unknownFields t.bundles (some (laneIds t)) none "evidence_bundles" "lane_id" "id" ++
  unknownFields t.bundleEvidence (some (t.bundles.map (·.2))) (some t.evidenceSources) "evidence_bundle_memberships"
    "bundle_id" "evidence_source_id" ++
  unknownFields t.laneContexts (some (laneIds t)) none "lane_contexts" "lane_id" "artifact_type" ++
  unknownFields t.laneOutputs (some (laneIds t)) none "post_gate_outputs" "lane_id" "artifact_type" ++
  unknownFields t.gates (some (laneIds t)) none "gates" "lane_id" "gate_id" ++
  unknownPair t ++
  unknownFields t.judgeTemplates (some (obligationIds t)) none "judge_negative_tests" "owner_id" "id" ++
  unknownFields t.aggregateTemplates (some (gateIds t)) none "aggregate_negative_tests" "owner_id" "id" ++
  unknownFields t.plumbingTemplates (some (gateIds t)) none "plumbing_negative_tests" "owner_id" "id"

/-! ## Stage 30 -/

/-- Each record against those before it. -/
def repeats {α : Type} [DecidableEq α] (records : List α) (pointer : Nat → Str) : List Probe :=
  records.zipIdx.map fun r => (occurs r.1 (records.take r.2), pointer r.2)

/-- A pair as a complete record. -/
def Pair.record (p : Pair) : Str × Str × Str := (p.laneId, p.obligationId, p.gateId)

def duplicateEntity : List Probe :=
  repeats t.obligationJudges (entityPointer "obligation_to_judge") ++
  repeats t.bundles (entityPointer "evidence_bundles") ++
  repeats t.bundleEvidence (entityPointer "evidence_bundle_memberships") ++
  repeats t.laneContexts (entityPointer "lane_contexts") ++
  repeats t.laneOutputs (entityPointer "post_gate_outputs") ++
  repeats t.gates (entityPointer "gates") ++
  repeats (t.pairs.map Pair.record) (entityPointer "obligation_gate_pairs")

/-! ## Stages 31 to 36: an empty base skips its sweep -/

def orphanObligation : List Probe :=
  if t.obligations.isEmpty || t.judges.isEmpty || t.gates.isEmpty then []
  else t.obligations.map fun x =>
    (!occurs x.obligationId (t.obligationJudges.map (·.1)) || !occurs x.obligationId (t.pairs.map (·.obligationId)),
      catalogPointer x)

def orphanCase : List Probe :=
  if t.obligations.isEmpty then []
  else t.lanes.zipIdx.flatMap fun lane => lane.1.cases.zipIdx.map fun case =>
    (!occurs (lane.1.laneId, case.1) (t.obligations.map fun x => (x.laneId, x.behaviorCaseId)),
      lanePointer lane.2 ++ lit "/cases/" ++ natText case.2 ++ lit "/id")

/-- Each item against what must name it. -/
def orphans {α : Type} (items : List α) (key : α → Str) (named : List Str) (pointer : Nat → Str) : List Probe :=
  items.zipIdx.map fun x => (!occurs (key x.1) named, pointer x.2)

def orphanJudge : List Probe := orphans t.judges id (t.obligationJudges.map (·.2)) (entityPointer "judge_ids")

def orphanBundle : List Probe :=
  if t.bundles.isEmpty then []
  else orphans t.bundles (·.2) (t.bundleEvidence.map (·.1)) (entityPointer "evidence_bundles") ++
    orphans t.lanes (·.laneId) (t.bundles.map (·.1)) (fun index => lanePointer index ++ lit "/id")

def orphanGate : List Probe :=
  orphans t.gates (·.2) (t.pairs.map (·.gateId)) fun index => entityPointer "gates" index ++ lit "/gate_id"

def orphanEvidence : List Probe :=
  orphans t.evidenceSources id (t.bundleEvidence.map (·.2)) (entityPointer "evidence_source_ids")

/-! ## Stage 38 -/

/-- The pointer of the first record whose key occurs more often than allowed, counted up to that record. -/
def degreeProbe (maximum : Nat) (pointer : Nat → Str) (keys : List Str) : Option Str :=
  (keys.zipIdx.find? fun k => maximum < (keys.take (k.2 + 1)).count k.1).map fun k => pointer k.2

/-- The first of the counts that is above its maximum. -/
def countProbe (caps : List (Nat × Nat × String)) : Option Str :=
  (caps.find? fun cap => cap.2.1 < cap.1).map fun cap => cardinalityPointer cap.2.2

/-- `sorted(xs, key=key)` for a key of texts. -/
def sortedBy {α : Type} (key : α → List Str) (xs : List α) : List α := xs.insertionSort fun a b => key a ≤ key b

/-- The case ids that the path sweep gives a pair's lane, in order. -/
def casesByLane (laneId : Str) : List Str :=
  sortedBy (fun c => [c]) ((lastOf Lane.laneId Lane.caseIds t.lanes laneId).getD [])

/-- One candidate path a pair and case id, in sweep order. -/
def candidates : List (Pair × Str) := t.pairs.flatMap fun p => (casesByLane t p.laneId).map fun c => (p, c)

/-- The path sweep, with the candidates that are admitted already. A degree counts those of one obligation, case or
gate. -/
def pathProbe (limits : CompileLimits) (admitted : List (Pair × Str)) : List (Pair × Str) → Option Str
  | [] => none
  | path :: paths =>
    let degree := fun same : Pair × Str → Bool => admitted.countP same + 1
    if limits.pathCountMax < admitted.length + 1 ∨
        limits.pathsPerObligationMax < degree (fun a => a.1.obligationId = path.1.obligationId) ∨
        limits.pathsPerCaseMax < degree (fun a => a.2 = path.2) ∨
        limits.pathsPerGateMax < degree (fun a => a.1.gateId = path.1.gateId) then
      some (entityPointer "obligation_gate_pairs" path.1.index)
    else pathProbe limits (path :: admitted) paths

def issue38 (limits : CompileLimits) : Option Str :=
  degreeProbe limits.evidenceMembersPerBundleOrPathMax (entityPointer "evidence_bundle_memberships")
    (t.bundleEvidence.map (·.1)) <|>
  degreeProbe limits.contextArtifactsPerLaneMax (entityPointer "lane_contexts") (t.laneContexts.map (·.1)) <|>
  degreeProbe limits.postGateOutputsPerLaneMax (entityPointer "post_gate_outputs") (t.laneOutputs.map (·.1)) <|>
  countProbe [((t.lanes.map (·.caseIds.length)).sum, limits.casePlanCountMax, "case_plan_count"),
    (t.obligations.length, limits.obligationCountMax, "obligation_count"),
    (t.judges.length, limits.judgeCountMax, "judge_count"),
    (t.bundles.length, limits.evidenceBundleCountMax, "evidence_bundle_count"),
    (t.evidenceSources.length, limits.evidenceSourceCountMax, "evidence_source_count"),
    (t.gates.length, limits.gateCountMax, "gate_count"),
    (t.judgeTemplates.length, limits.negativeTestClassCountMax, "judge_negative_template_count"),
    (t.aggregateTemplates.length, limits.negativeTestClassCountMax, "aggregate_negative_template_count"),
    (t.plumbingTemplates.length, limits.negativeTestClassCountMax, "plumbing_negative_template_count")] <|>
  pathProbe limits [] (candidates t)

/-! ## Stage 39 -/

def emptyLane (lane : Lane × Nat) : Option Str :=
  if lane.1.cases.isEmpty then some (lanePointer lane.2 ++ lit "/cases")
  else if lane.1.caseIds.isEmpty then some (lanePointer lane.2 ++ lit "/matrices")
  else none

def emptyEntity {α : Type} (records : List α) (name : String) : Option Str :=
  if records.isEmpty then some (lit "/traceability_ledger/entities/" ++ lit name) else none

def issue39 : Option Str :=
  (if t.lanes.isEmpty then some (lit "/benchmark_expectation/lanes")
    else if t.obligations.isEmpty then some (lit "/obligation_catalog")
    else t.lanes.zipIdx.findSome? emptyLane) <|>
  emptyEntity t.judges "judge_ids" <|> emptyEntity t.gates "gates" <|> emptyEntity t.bundles "evidence_bundles" <|>
  emptyEntity t.evidenceSources "evidence_source_ids" <|> emptyEntity t.laneContexts "lane_contexts" <|>
  emptyEntity t.laneOutputs "post_gate_outputs"

/-! ## Stage 40 -/

/-- `_owner_map(records).get(owner, ())`: the places of the owner's records. -/
def ownerMap (records : List (Str × Str)) (owner : Str) : List Nat :=
  (records.zipIdx.filter fun r => r.1.1 = owner).map (·.2)

/-- An owner has one record. The second of several is pointed at. -/
def ownerProbe (records : List (Str × Str)) (name : String) (owner : Str) : Option Str :=
  match ownerMap records owner with
  | [_] => none
  | _ :: second :: _ => some (entityPointer name second)
  | [] => some (lit "/traceability_ledger/entities/" ++ lit name)

def totalProbe (totals : List (Nat × Nat × String)) : Option Str :=
  (totals.find? fun total => total.1 ≠ total.2.1).map fun total => cardinalityPointer total.2.2

def issue40 : Option Str :=
  totalProbe [(t.judgeTemplates.length, 46, "judge_negative_template_count"),
    (t.aggregateTemplates.length, 58, "aggregate_negative_template_count"),
    (t.plumbingTemplates.length, 58, "plumbing_negative_template_count")] <|>
  (t.pairs.map (·.obligationId)).eraseDups.findSome? (ownerProbe t.judgeTemplates "judge_negative_tests") <|>
  (sortedBy (fun gate => [gate.1, gate.2]) t.gates).findSome? fun gate =>
    ownerProbe t.aggregateTemplates "aggregate_negative_tests" gate.2 <|>
    ownerProbe t.plumbingTemplates "plumbing_negative_tests" gate.2

/-! ## Skeleton counters -/

def bundlesOf (laneId : Str) : List Str := (t.bundles.filter fun b => b.1 = laneId).map (·.2)

def membersOf (bundleId : Str) : List Str := (t.bundleEvidence.filter fun m => m.1 = bundleId).map (·.2)

def laneObligationCounts : List Nat := t.lanes.map fun lane => t.obligations.countP fun x => x.laneId = lane.laneId

def laneCaseCounts : List Nat := t.lanes.map (·.caseIds.length)

def laneGateCounts : List Nat := t.lanes.map fun lane => t.gates.countP fun g => g.1 = lane.laneId

/-- The memberships of the bundles of a lane. -/
def laneDegree (laneId : Str) : Nat := ((bundlesOf t laneId).map fun b => (membersOf t b).length).sum

def laneRawCounts : List Nat := t.lanes.map fun lane => laneDegree t lane.laneId

def laneContextCounts : List Nat := t.lanes.map fun lane => t.laneContexts.countP fun c => c.1 = lane.laneId

def laneOutputCounts : List Nat := t.lanes.map fun lane => t.laneOutputs.countP fun c => c.1 = lane.laneId

def pairCount (laneId : Str) : Nat := t.pairs.countP fun p => p.laneId = laneId

/-- One turn of the loop over the lanes: `m`, `h` and `r_he` so far. -/
def countLane (counts : Nat × Nat × Nat) (lane : Lane) : Except Exc (Nat × Nat × Nat) := do
  let m ← checkedAdd counts.1 (pairCount t lane.laneId) (lit "obligation-gate pair count")
  let laneH ← checkedMul (pairCount t lane.laneId) lane.caseIds.length (lit "enforcement-path count")
  let h ← checkedAdd counts.2.1 laneH (lit "enforcement-path count")
  let laneRHe ← checkedMul laneH (laneDegree t lane.laneId) (lit "path-evidence count")
  let rHe ← checkedAdd counts.2.2 laneRHe (lit "path-evidence count")
  return (m, h, rHe)

def keyCount (h rHe : Nat) : Except Exc Nat := do
  let paths ← checkedAdd rHe (3 * h) (lit "execution key count")
  checkedAdd (425 + t.laneContexts.length + t.laneOutputs.length + 4 * t.gates.length) paths
    (lit "execution key count")

def countSkeleton : Except Exc PhaseBResult := do
  let (m, h, rHe) ← t.lanes.foldlM (countLane t) (0, 0, 0)
  return { t with m, h, rHe, kExec := ← keyCount t h rHe }

end

/-! ## Stage 37 -/

def laneOrder : List Str :=
  [lit "core-event-replay", lit "scheduler-policy", lit "scheduler-performance", lit "request-serving-lifecycle",
   lit "mlx-native-correctness", lit "bounded-turn-and-ffi", lit "residency-and-memory-governor",
   lit "cross-model-serving", lit "observability-qualification", lit "persistence-and-recovery",
   lit "protocol-and-owner-lifecycle", lit "certification-envelopes"]

def frozenObligationCounts : List Nat := [4, 3, 3, 4, 4, 4, 4, 4, 4, 4, 4, 4]

def frozenCaseCounts : List Nat := [20, 3, 40, 15, 18, 36, 80, 36, 36, 22, 24, 95]

def frozenGateCounts : List Nat := [3, 3, 4, 5, 4, 4, 7, 7, 7, 4, 5, 5]

def frozenRawCounts : List Nat := [3, 1, 4, 4, 5, 4, 5, 5, 6, 7, 4, 4]

def frozenContextCounts : List Nat := [1, 2, 2, 1, 2, 2, 2, 2, 2, 1, 2, 2]

def frozenOutputCounts : List Nat := [1, 2, 2, 1, 2, 2, 2, 2, 2, 2, 2, 2]

section
variable (r : PhaseBResult)

def mismatch (pointer : Str) : Exc := .relationValidationError .traceabilityRelationMismatch [pointer]

def repeatedCase : List Probe :=
  (r.allObligations.zipIdx.map fun x =>
    (occurs (x.1.laneId, x.1.behaviorCaseId) ((r.allObligations.take x.2).map fun y => (y.laneId, y.behaviorCaseId)),
      catalogPointer x.1 ++ lit "/behavior_case_id"))

/-- `d[key]` of the dict that a comprehension built. -/
def itemOf (found : Option Str) (key : Str) : Except Exc Str :=
  match found with
  | some v => .ok v
  | none => .error (.keyError key)

def checkPairLane (p : Pair) : Except Exc Unit := do
  let obligationLane ← itemOf (lastOf Obligation.obligationId Obligation.laneId r.obligations p.obligationId) p.obligationId
  if obligationLane ≠ p.laneId then throw (mismatch (entityPointer "obligation_gate_pairs" p.index ++ lit "/lane_id"))
  let gateLane ← itemOf (lastOf Prod.snd Prod.fst r.gates p.gateId) p.gateId
  if gateLane ≠ p.laneId then throw (mismatch (entityPointer "obligation_gate_pairs" p.index ++ lit "/lane_id"))

/-- What a cardinality is compared with. -/
inductive Expected where
  | count (n : Nat)
  | counts (ns : List Nat)

def checkCardinality (expected : String × Expected) : Except Exc Unit :=
  let fail := Except.error (mismatch (cardinalityPointer expected.1))
  match r.cardinalities.lookup (lit expected.1), expected.2 with
  | none, _ => fail
  | some observed, .count n => if observed.isCount n then .ok () else fail
  | some observed, .counts ns => do if areCounts (← observed.tuple) ns then return () else fail

/-- The distinct values of an array. -/
def distinct (xs : List Str) : List Str := xs.eraseDups

def entityActual : Nat :=
  r.lanes.length + (r.lanes.map (·.cases.length)).sum + (laneCaseCounts r.toTables).sum + r.obligations.length +
    r.judges.length + r.bundles.length + r.evidenceSources.length + (distinct (r.laneContexts.map (·.2))).length +
    (distinct (r.laneOutputs.map (·.2))).length + r.gates.length + r.judgeTemplates.length +
    r.aggregateTemplates.length + r.plumbingTemplates.length + r.h

/-- The 27 cardinalities in declaration order. -/
def actual (qTotal rTotal : Nat) : List (String × Expected) :=
  [("lane_count", .count r.lanes.length), ("case_plan_count", .count (laneCaseCounts r.toTables).sum),
   ("gate_count", .count r.gates.length), ("obligation_count", .count r.obligations.length),
   ("judge_count", .count r.judges.length), ("evidence_bundle_count", .count r.bundles.length),
   ("evidence_source_count", .count r.evidenceSources.length),
   ("lane_context_membership_count", .count r.laneContexts.length),
   ("post_gate_output_membership_count", .count r.laneOutputs.length),
   ("artifact_membership_total", .count (r.bundleEvidence.length + r.laneContexts.length + r.laneOutputs.length)),
   ("judge_negative_template_count", .count r.judgeTemplates.length),
   ("aggregate_negative_template_count", .count r.aggregateTemplates.length),
   ("plumbing_negative_template_count", .count r.plumbingTemplates.length),
   ("lane_obligation_counts", .counts (laneObligationCounts r.toTables)),
   ("lane_case_counts", .counts (laneCaseCounts r.toTables)), ("lane_gate_counts", .counts (laneGateCounts r.toTables)),
   ("lane_raw_membership_counts", .counts (laneRawCounts r.toTables)),
   ("lane_context_counts", .counts (laneContextCounts r.toTables)),
   ("lane_output_counts", .counts (laneOutputCounts r.toTables)), ("obligation_gate_pair_count", .count r.m),
   ("enforcement_path_count", .count r.h), ("evidence_membership_record_count", .count r.bundleEvidence.length),
   ("path_evidence_record_count", .count r.rHe), ("endpoint_reference_count", .count rTotal),
   ("relation_record_count", .count qTotal), ("entity_record_count", .count (entityActual r)),
   ("key_count_exec", .count r.kExec)]

def checkCardinalities : Except Exc Unit := do
  let defaultPlace := lit "checked u64 addition"
  let qTotal ← checkedAdd (← checkedAdd (4 * r.h) r.rHe defaultPlace) (r.m + 315) (lit "relation total")
  let rTotal ← checkedAdd (← checkedAdd (11 * r.h) (2 * r.rHe) defaultPlace) (2 * r.m + 630) (lit "endpoint total")
  (actual r qTotal rTotal).forM (checkCardinality r)

def shapeDrift : Bool :=
  r.obligationJudges.length != 46 || r.judges.length != 46 || r.obligations.length != 46 ||
    r.obligations.any (fun x => (r.obligationJudges.countP fun oj => oj.1 = x.obligationId) != 1) ||
    r.judges.any fun j => (r.obligationJudges.countP fun oj => oj.2 = j) != 1

def countDrift : Bool :=
  laneObligationCounts r.toTables != frozenObligationCounts || laneCaseCounts r.toTables != frozenCaseCounts ||
    laneGateCounts r.toTables != frozenGateCounts || laneRawCounts r.toTables != frozenRawCounts ||
    laneContextCounts r.toTables != frozenContextCounts || laneOutputCounts r.toTables != frozenOutputCounts

/-- The gates that the expectation gives a lane are those of the ledger. -/
def sameGates (lane : Lane) : Bool :=
  sortedBy (fun g => [g]) lane.gates ==
    sortedBy (fun g => [g]) ((r.gates.filter fun g => g.1 = lane.laneId).map (·.2))

/-- The artifacts of a lane: which of them are contexts and which outputs. -/
def artifactsOf (records : List (Str × Str)) (laneId : Str) : List Str :=
  (records.filter fun c => c.1 = laneId).map (·.2)

/-- One bundle, and the required artifacts split into contexts, outputs and raw evidence. -/
def partitionProbes (lane : Lane) : List Probe :=
  let contexts := artifactsOf r.laneContexts lane.laneId
  let outputs := artifactsOf r.laneOutputs lane.laneId
  let raw := (distinct lane.requiredArtifacts).filter fun a => !occurs a contexts && !occurs a outputs
  [((bundlesOf r.toTables lane.laneId).length != 1, lit "/traceability_ledger/entities/evidence_bundles"),
   (contexts.any (fun a => !occurs a lane.requiredArtifacts) || outputs.any (fun a => !occurs a lane.requiredArtifacts),
    lit "/traceability_ledger/entities/lane_contexts"),
   (raw.length != (laneRawCounts r.toTables).getD (laneOrder.idxOf lane.laneId) 0,
    cardinalityPointer "artifact_membership_total")]

def relationMismatch : Except Exc Unit := do
  sweep .traceabilityRelationMismatch (repeatedCase r)
  r.pairs.forM (checkPairLane r)
  checkCardinalities r
  sweep .traceabilityRelationMismatch
    ([(shapeDrift r, cardinalityPointer "obligation_count"),
      (laneIds r.toTables != laneOrder, cardinalityPointer "lane_count"),
      (countDrift r, cardinalityPointer "lane_case_counts"),
      (r.lanes.any (fun lane => !sameGates r lane), lit "/traceability_ledger/entities/gates")] ++
     r.lanes.flatMap (partitionProbes r))

end

def raiseAt (variant : Variant) (issue : Option Str) : Except Exc Unit :=
  match issue with
  | some pointer => .error (.relationValidationError variant [pointer])
  | none => .ok ()

/-- Stage 37 is skipped when a later stage has found something. -/
def stage37 (limits : CompileLimits) (t : Tables) (r : PhaseBResult) : Except Exc Unit :=
  if (issue38 t limits).isNone && (issue39 t).isNone && (issue40 t).isNone then relationMismatch r else .ok ()

/-- The sweep over the arrays. -/
def validateTables (limits : CompileLimits) (t : Tables) : Except Exc PhaseBResult := do
  sweep .traceabilityUnknownEntity (unknownEntity t)
  sweep .traceabilityDuplicateEntity (duplicateEntity t)
  sweep .traceabilityOrphanObligation (orphanObligation t)
  sweep .traceabilityOrphanCase (orphanCase t)
  sweep .traceabilityOrphanJudge (orphanJudge t)
  sweep .traceabilityOrphanBundle (orphanBundle t)
  sweep .traceabilityOrphanGate (orphanGate t)
  sweep .traceabilityOrphanEvidence (orphanEvidence t)
  let r ← countSkeleton t
  stage37 limits t r
  raiseAt .traceabilityDegreeCapExceeded (issue38 t limits)
  raiseAt .traceabilityEmptyRequiredSet (issue39 t)
  raiseAt .traceabilityNegativeTestCoverageMissing (issue40 t)
  return r

/-- `validate_relations` -/
def validateRelations (catalog expectation ledger : Json) (limits : CompileLimits) : Except Exc PhaseBResult := do
  validateTables limits (← normalize catalog expectation ledger)

end TurnVector.Relations
