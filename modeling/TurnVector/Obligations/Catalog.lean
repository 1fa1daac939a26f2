import TurnVector.Obligations.Files
import TurnVector.Python.Value

/-! # The obligation catalog

`load_obligation_catalog` of `obligation_catalog.py`.
-/

namespace TurnVector.Obligations

open Python Json Canonical Effects

/-! ## Fields and tables -/

def schemaFamily : Str := lit "turnvector.benchmark.obligation-catalog.v1"
def catalogProfileId : Str := lit "turnvector-implementation-v2"
def compileCustodyLineageId : Str := lit "tvb-qualification-d0-catalog-v1"
def catalogTMax : Nat := 8
def requiredObligationCount : Nat := 46
def catalogKind : Str := lit "catalog"
def obligationKind : Str := lit "obligation"
def readyStatus : Str := lit "design_ready"
def outOfScopeStatus : Str := lit "intentionally_out_of_scope"
def requiredStatuses : List Str := [readyStatus, lit "adapter_blocked", lit "environment_blocked"]
def allStatuses : List Str := requiredStatuses ++ [outOfScopeStatus]

def exactLaneObligationCounts : List (Str × Nat) :=
  [(lit "core-event-replay", 4), (lit "scheduler-policy", 3), (lit "scheduler-performance", 3),
    (lit "request-serving-lifecycle", 4), (lit "mlx-native-correctness", 4), (lit "bounded-turn-and-ffi", 4),
    (lit "residency-and-memory-governor", 4), (lit "cross-model-serving", 4), (lit "observability-qualification", 4),
    (lit "persistence-and-recovery", 4), (lit "protocol-and-owner-lifecycle", 4), (lit "certification-envelopes", 4)]

def headerFields : List Str :=
  ["kind", "schema_version", "id", "profile_id", "lineage_id", "predecessor", "design_gate_revision",
    "source_reconciliation_sha256", "expectation_sha256", "compile_custody_policy_sha256", "custody_domain_id",
    "custody_domain_sha256", "compile_custody_lineage_id", "t_max", "required_obligation_count", "record_count"].map lit

def obligationFields : List Str :=
  ["kind", "id", "required", "claim_class", "source_path", "source_file_sha256", "section_start", "section_end",
    "section_sha256", "module_ids", "seam_id", "observable_seam", "evidence_grade", "invalidation_rule", "lane_id",
    "behavior_case_id", "readiness_status", "blocker_ids", "design_gate_revision"].map lit

def predecessorFields : List Str := ["compile_custody_lineage_id", "chronology_sha256"].map lit

structure CatalogPredecessor where
  compileCustodyLineageId : Identifier
  chronologySha256 : Sha256

structure CatalogHeader where
  schemaVersion : Str
  id : Identifier
  profileId : Str
  lineageId : Identifier
  predecessor : Option CatalogPredecessor
  designGateRevision : Sha256
  sourceReconciliationSha256 : Sha256
  expectationSha256 : Sha256
  compileCustodyPolicySha256 : Sha256
  custodyDomainId : Identifier
  custodyDomainSha256 : Sha256
  compileCustodyLineageId : Str
  tMax : U64
  requiredObligationCount : U64
  recordCount : U64

/-- Nothing keeps a caller from a record that the loader would refuse, so the fields carry no bounds. -/
structure ObligationRecord where
  id : Str
  required : Bool
  claimClass : Str
  sourcePath : Str
  sourceFileSha256 : Str
  sectionStart : Int
  sectionEnd : Int
  sectionSha256 : Str
  moduleIds : List Str
  seamId : Str
  observableSeam : Str
  evidenceGrade : Str
  invalidationRule : Str
  laneId : Str
  behaviorCaseId : Str
  readinessStatus : Str
  blockerIds : List Str
  designGateRevision : Str

structure ObligationCatalog where
  header : CatalogHeader
  obligations : List ObligationRecord
  sourcePath : Str
  fileSha256 : Str
  fileSize : Nat

/-! ## Records -/

def at_ (place : Str) (name : String) : Str := place ++ lit "." ++ lit name

/-- `require(value[name], f"{where}.{name}")` -/
def requireField {α : Type} (require : Json → Str → Except Exc α) (members : List (Str × Json)) (place : Str)
    (name : String) : Except Exc α := do
  require (← readItem members name) (at_ place name)

def requireConstant (members : List (Str × Json)) (place : Str) (name : String) (constant : Str) : Except Exc Str := do
  let text ← requireField requireString members place name
  check (text = constant) (at_ place name ++ lit " must equal " ++ strRepr constant)
  return text

def requireKind (members : List (Str × Json)) (place : Str) (kind : Str) : Except Exc Unit := do
  check ((← readItem members "kind") = .str kind) (at_ place "kind" ++ lit " must equal " ++ strRepr kind)

def requireCount (members : List (Str × Json)) (place : Str) (name : String) (count : Nat) : Except Exc U64 := do
  let value ← requireField requireU64 members place name
  check (value.val = count) (at_ place name ++ lit " must equal " ++ natText count)
  return value

/-- `_parse_predecessor` -/
def parsePredecessor (value : Json) (place : Str) : Except Exc (Option CatalogPredecessor) :=
  let named := at_ place "predecessor"
  match value with
  | .null => .ok none
  | .obj members => do
    requireStrictKeys members predecessorFields named
    let lineage ← requireField requireIdentifier members named "compile_custody_lineage_id"
    let chronology ← requireField requireSha256 members named "chronology_sha256"
    return some ⟨lineage, chronology⟩
  | _ => refuse (named ++ lit " must be null or an object")

/-- `_parse_header` -/
def parseHeader (members : List (Str × Json)) (place : Str) : Except Exc CatalogHeader := do
  requireStrictKeys members headerFields place
  requireKind members place catalogKind
  let schemaVersion ← requireConstant members place "schema_version" schemaFamily
  let id ← requireField requireIdentifier members place "id"
  let profileId ← requireConstant members place "profile_id" catalogProfileId
  let lineageId ← requireField requireIdentifier members place "lineage_id"
  let predecessor ← parsePredecessor (← readItem members "predecessor") place
  let custodyLineage ← requireConstant members place "compile_custody_lineage_id" compileCustodyLineageId
  check (predecessor.all fun p => p.compileCustodyLineageId.val ≠ custodyLineage)
    (at_ place "predecessor.compile_custody_lineage_id" ++
      lit " must differ from the current header compile_custody_lineage_id")
  let tMax ← requireCount members place "t_max" catalogTMax
  let required ← requireCount members place "required_obligation_count" requiredObligationCount
  return {
    schemaVersion
    id
    profileId
    lineageId
    predecessor
    designGateRevision := ← requireField requireSha256 members place "design_gate_revision"
    sourceReconciliationSha256 := ← requireField requireSha256 members place "source_reconciliation_sha256"
    expectationSha256 := ← requireField requireSha256 members place "expectation_sha256"
    compileCustodyPolicySha256 := ← requireField requireSha256 members place "compile_custody_policy_sha256"
    custodyDomainId := ← requireField requireIdentifier members place "custody_domain_id"
    custodyDomainSha256 := ← requireField requireSha256 members place "custody_domain_sha256"
    compileCustodyLineageId := custodyLineage
    tMax
    requiredObligationCount := required
    recordCount := ← requireField requireU64 members place "record_count" }

/-- `_unique_identifiers` -/
def uniqueIdentifiers (minItems : Nat) (value : Json) (place : Str) : Except Exc (List Str) := do
  let values ← requireArray value place
  check (minItems ≤ values.length) (place ++ lit " must contain at least " ++ natText minItems ++ lit " item(s)")
  let items ← values.zipIdx.mapM fun item => requireIdentifier item.1 (itemAt place item.2)
  check ((items.map Subtype.val).Nodup) (place ++ lit " must not contain duplicates")
  return items.map Subtype.val

/-- `_check_readiness_algebra` -/
def checkReadinessAlgebra (required : Bool) (status : Str) (blockerIds : List Str) (place : Str) : Except Exc Unit :=
  if required then
    if !occurs status requiredStatuses then
      refuse (place ++ lit " required records must use design_ready, adapter_blocked, or environment_blocked; got " ++
        strRepr status)
    else if status = readyStatus && !blockerIds.isEmpty then
      refuse (place ++ lit " a design_ready record must not name blockers")
    else check (status = readyStatus || !blockerIds.isEmpty)
      (place ++ lit " a blocked record must name at least one blocker")
  else if status ≠ outOfScopeStatus then
    refuse (place ++ lit " intentionally_out_of_scope is the only readiness status allowed for required=false records")
  else check blockerIds.isEmpty (place ++ lit " an intentionally_out_of_scope record must not name blockers")

/-- `_parse_obligation` -/
def parseObligation (members : List (Str × Json)) (place : Str) : Except Exc ObligationRecord := do
  requireStrictKeys members obligationFields place
  requireKind members place obligationKind
  let id ← requireField requireIdentifier members place "id"
  let required ← requireField requireBoolean members place "required"
  let laneId ← requireField requireIdentifier members place "lane_id"
  check (occurs laneId.val (exactLaneObligationCounts.map Prod.fst))
    (at_ place "lane_id" ++ lit " is not in the exact successor lane set")
  let sectionStart ← requireField requireU64 members place "section_start"
  let sectionEnd ← requireField requireU64 members place "section_end"
  check (sectionStart.val < sectionEnd.val)
    (place ++ lit " section must be a nonempty half-open range with start < end")
  let moduleIds ← requireField (uniqueIdentifiers 1) members place "module_ids"
  let blockerIds ← requireField (uniqueIdentifiers 0) members place "blocker_ids"
  let status ← requireField requireString members place "readiness_status"
  check (occurs status allStatuses)
    (at_ place "readiness_status" ++ lit " must be one of " ++ join (lit ", ") allStatuses)
  checkReadinessAlgebra required status blockerIds place
  let claimClass ← requireField requireString members place "claim_class"
  let sourcePath ← requireField requirePosixPath members place "source_path"
  let sourceFileSha256 ← requireField requireSha256 members place "source_file_sha256"
  let sectionSha256 ← requireField requireSha256 members place "section_sha256"
  let seamId ← requireField requireIdentifier members place "seam_id"
  let observableSeam ← requireField requireString members place "observable_seam"
  let evidenceGrade ← requireField requireString members place "evidence_grade"
  let invalidationRule ← requireField requireString members place "invalidation_rule"
  let behaviorCaseId ← requireField requireIdentifier members place "behavior_case_id"
  let designGateRevision ← requireField requireSha256 members place "design_gate_revision"
  return {
    id := id.val
    required
    claimClass
    sourcePath
    sourceFileSha256 := sourceFileSha256.val
    sectionStart := sectionStart.val
    sectionEnd := sectionEnd.val
    sectionSha256 := sectionSha256.val
    moduleIds
    seamId := seamId.val
    observableSeam
    evidenceGrade
    invalidationRule
    laneId := laneId.val
    behaviorCaseId := behaviorCaseId.val
    readinessStatus := status
    blockerIds
    designGateRevision := designGateRevision.val }

/-! ## The file -/

/-- A path, what the steps of reading it come to, and what it resolves to. -/
structure CatalogFile where
  path : Str
  steps : FileSteps
  resolved : Option Str

/-- A record that was parsed is an object. -/
def membersOf : Json → List (Str × Json)
  | .obj members => members
  | _ => []

/-- `Counter(lanes) == Counter(EXACT_LANE_OBLIGATION_COUNTS)` -/
def exactLanes (lanes : List Str) : Bool :=
  (lanes ++ exactLaneObligationCounts.map Prod.fst).all fun lane =>
    lanes.count lane = (exactLaneObligationCounts.lookup lane).getD 0

def laneCountsRepr : Str := Json.repr (.obj (exactLaneObligationCounts.map fun entry => (entry.1, .int entry.2)))

/-- The checks of the header against all obligations. -/
def checkCatalog (named : Str) (header : CatalogHeader) (obligations : List ObligationRecord) : Except Exc Unit := do
  let ids := obligations.map (·.id)
  let count := 1 + obligations.length
  let required := obligations.filter (·.required)
  check ((ids.zip ids.tail).all fun pair => pair.1 < pair.2) (named ++ lit " obligation ids must be sorted and unique")
  check (!occurs header.id.val ids) (named ++ lit " an obligation id must not equal the header id")
  check (header.recordCount.val = count)
    (named ++ lit " header record_count must equal the actual record count (" ++ natText count ++ lit ")")
  check (obligations.all fun record => record.designGateRevision = header.designGateRevision.val)
    (named ++ lit " every obligation design_gate_revision must equal the header design_gate_revision")
  check (required.length = requiredObligationCount)
    (named ++ lit " must contain exactly " ++ natText requiredObligationCount ++ lit " required obligations")
  check (header.requiredObligationCount.val = required.length)
    (named ++ lit " header required_obligation_count must equal the actual required count (" ++
      natText required.length ++ lit ")")
  check (exactLanes (required.map (·.laneId)))
    (named ++ lit " per-lane required counts must equal " ++ laneCountsRepr)
  check ((obligations.map fun record => (record.laneId, record.behaviorCaseId)).Nodup)
    (named ++ lit " (lane_id, behavior_case_id) pairs must be unique")

def parseObligations (named : Str) (records : List Json) : Except Exc (List ObligationRecord) :=
  (records.zipIdx 1).mapM fun record =>
    parseObligation (membersOf record.1) (itemAt (named ++ lit " record") record.2)

/-- `load_obligation_catalog` -/
def loadObligationCatalog (sha256 : Bytes → Str) (file : CatalogFile) (limits : Option CompileLimits) :
    Except Exc ObligationCatalog := do
  let limits := limits.getD .frozen
  let named := lit "obligation catalog " ++ file.path
  let exceeds (cap : Nat) (what : String) : Exc :=
    .contractError (named ++ lit " exceeds the " ++ natText cap ++ lit "-" ++ lit what ++ lit " bound")
  let raw ← readNoFollowRegular file.steps file.path limits.largestSingleSerializedParserInputMax
    (lit "obligation catalog")
  atMost raw.length limits.serializedInputBytesTotalMax
    (exceeds limits.serializedInputBytesTotalMax "byte serialized-input")
  let records ← parseCanonicalJsonlRecords raw named (some limits.catalogRecordCountMax)
  check (!records.isEmpty) (named ++ lit " must contain a header record")
  atMost records.length limits.catalogRecordCountMax (exceeds limits.catalogRecordCountMax "record")
  let header ← parseHeader (membersOf (records.headD .null)) (named ++ lit " header")
  check (records.tail.all fun record => member? record (lit "kind") ≠ some (.str catalogKind))
    (named ++ lit " must contain exactly one header, first")
  let obligations ← parseObligations named records.tail
  atMost obligations.length limits.obligationCountMax (exceeds limits.obligationCountMax "obligation")
  checkCatalog named header obligations
  match file.resolved with
  | none => refuse (lit "cannot resolve obligation catalog")
  | some resolved => return ⟨header, obligations, resolved, sha256 raw, raw.length⟩

end TurnVector.Obligations
