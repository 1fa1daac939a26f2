import TurnVector.Authority.PathId

/-! # Implementation expectations

The loader of `expectation.py`, from the decoded document on. What the file system answers is given.
-/

namespace TurnVector.Lanes

open Python Json
open Canonical (Identifier isHex isDots reject itemAt readItem requireMembers requireArray requireString
  requireIdentifier requireBoolean)

/-! ## Readers -/

/-- `_strict_keys` -/
def strictKeys (value : List (Str × Json)) (required optional : List String) (place : Str) : Except Exc Unit :=
  let keys := value.map Prod.fst
  let named := fun text names => Except.error (Exc.contractError
    (place ++ lit text ++ join (lit ", ") (List.insertionSort (fun a b => a ≤ b) names)))
  let missing := (required.map lit).filter fun name => !occurs name keys
  let unknown := keys.filter fun key => !occurs key ((required ++ optional).map lit)
  if !missing.isEmpty then named " is missing required fields: " missing
  else if !unknown.isEmpty then named " has unknown fields: " unknown
  else .ok ()

/-- `_object`, then `_strict_keys`. -/
def record (value : Json) (required optional : List String) (place : Str) : Except Exc (List (Str × Json)) := do
  let obj ← requireMembers value place
  strictKeys obj required optional place
  return obj

/-- `{where}.{name}` -/
def memberAt (place : Str) (name : String) : Str := place ++ lit "." ++ lit name

/-- `obj[name]`, and where it stands. -/
def readAt {α : Type} (reader : Json → Str → Except Exc α) (obj : List (Str × Json)) (name : String) (place : Str) :
    Except Exc α := do reader (← readItem obj name) (memberAt place name)

/-- `tuple(parser(item, f"{where}[{index}]") for index, item in enumerate(items))` -/
def parseItems {α : Type} (parser : Json → Str → Except Exc α) (items : List Json) (place : Str) :
    Except Exc (List α) := items.zipIdx.mapM fun item => parser item.1 (itemAt place item.2)

def requireNonempty {α : Type} (items : List α) (place : Str) : Except Exc Unit :=
  if items.isEmpty then reject place " must not be empty" else .ok ()

def requireOneOf {α : Type} (known : List (String × α)) (text place : Str) (names : String) : Except Exc α :=
  match known.find? fun named => lit named.1 = text with
  | some named => .ok named.2
  | none => reject place (" must be one of " ++ names)

/-- Items without a repeated key, and at least one. -/
structure Listed (α : Type) (key : α → Str) where
  items : List α
  nonempty : items ≠ []
  distinct : (items.map key).Nodup
  deriving DecidableEq

def listed {α : Type} (key : α → Str) (items : List α) (place : Str) (repeated : String) :
    Except Exc (Listed α key) :=
  if hempty : items = [] then reject place " must not be empty"
  else if hdistinct : (items.map key).Nodup then .ok ⟨items, hempty, hdistinct⟩
  else reject place repeated

/-- `_string_array` -/
def stringArray (parser : Json → Str → Except Exc Str) (value : Json) (place : Str) :
    Except Exc (Listed Str id) := do
  let items ← requireArray value place
  requireNonempty items place
  let parsed ← parseItems parser items place
  listed id parsed place " must not contain duplicate values"

/-- `_identifier`, as a text. -/
def identifierText (value : Json) (place : Str) : Except Exc Str := do return (← requireIdentifier value place).val

/-- `_scalar` -/
def scalar (value : Json) (place : Str) : Except Exc Json :=
  match value with
  | .str _ | .bool _ | .int _ => .ok value
  | _ => reject place " must be a string, integer, or boolean"

/-- `json.dumps(item, sort_keys=True)` of a scalar, where no separator is written. -/
def scalarText (value : Json) : Str := dumps .compact 0 value

/-! ## Records -/

structure MatrixDimension where
  dimensionId : Identifier
  values : Listed Json scalarText
  deriving DecidableEq

structure Matrix where
  matrixId : Identifier
  dimensions : Listed MatrixDimension (·.dimensionId.val)
  deriving DecidableEq

namespace Matrix

/-- `expanded_case_count` -/
def expandedCaseCount (matrix : Matrix) : Nat := (matrix.dimensions.items.map (·.values.items.length)).prod

end Matrix

structure BehaviorCase where
  caseId : Identifier
  requirement : Str
  deriving DecidableEq

inductive Operator where
  | eq
  | gte
  | lte
  | present
  deriving DecidableEq

/-- `GATE_OPERATORS` -/
def gateOperators : List (String × Operator) := [("eq", .eq), ("gte", .gte), ("lte", .lte), ("present", .present)]

inductive ThresholdSource where
  | benchmarkContract
  | certificationRecord
  | runManifest
  deriving DecidableEq

/-- `THRESHOLD_SOURCES` -/
def thresholdSources : List (String × ThresholdSource) :=
  [("benchmark_contract", .benchmarkContract), ("certification_record", .certificationRecord),
    ("run_manifest", .runManifest)]

structure Gate where
  gateId : Identifier
  metric : Identifier
  operator : Operator
  expected : Json
  unit : Identifier
  thresholdSource : ThresholdSource
  evidence : Listed Str id
  deriving DecidableEq

structure Harness where
  status : Str
  kind : Str
  protocol : Identifier
  entrypoint : Option Str
  runner : Option Identifier
  legacyProtocol : Option Identifier
  legacyEntrypoint : Option Str
  deriving DecidableEq

structure ExpectationLane where
  laneId : Identifier
  layer : Identifier
  description : Str
  required : Bool
  implementationSources : Listed Str id
  harness : Harness
  matrices : Listed Matrix (·.matrixId.val)
  cases : Listed BehaviorCase (·.caseId.val)
  gates : Listed Gate (·.gateId.val)
  requiredArtifacts : Listed Str id
  claimScope : Listed Str id
  deriving DecidableEq

namespace ExpectationLane

/-- `expanded_matrix_case_count` -/
def expandedMatrixCaseCount (lane : ExpectationLane) : Nat := (lane.matrices.items.map (·.expandedCaseCount)).sum

end ExpectationLane

structure SourceContract where
  repository : Str
  revision : Str
  cleanRequired : Bool
  deriving DecidableEq

structure ExpectationAuthority where
  sourceReconciliationPath : Str
  sourceReconciliationSha256 : Str
  deriving DecidableEq

structure ImplementationExpectation where
  schemaVersion : Str
  expectationId : Identifier
  description : Str
  sourceContract : SourceContract
  authority : Option ExpectationAuthority
  lanes : Listed ExpectationLane (·.laneId.val)
  deriving DecidableEq

/-- The source-reconciliation file, found under the repository root. The texts are the resolved path and the error. -/
inductive Reconciliation where
  | escapes (resolved : Str)
  | missing (resolved : Str)
  | unreadable (resolved error : Str)
  | digest (resolved sha256 : Str)

/-- The file system beside an expectation. -/
structure Files where
  resolve : Str → Str
  isFile : Str → Bool
  reconciliation : Str → Reconciliation

/-! ## The loader -/

/-- `_parse_matrix`, one dimension. -/
def parseDimension (value : Json) (place : Str) : Except Exc MatrixDimension := do
  let obj ← record value ["id", "values"] [] place
  let items ← readAt requireArray obj "values" place
  let parsed ← parseItems scalar items (memberAt place "values")
  let values ← listed scalarText parsed (memberAt place "values") " must not contain duplicates"
  return ⟨← readAt requireIdentifier obj "id" place, values⟩

def parseMatrix (value : Json) (place : Str) : Except Exc Matrix := do
  let obj ← record value ["id", "dimensions"] [] place
  let items ← readAt requireArray obj "dimensions" place
  let parsed ← parseItems parseDimension items (memberAt place "dimensions")
  let dimensions ← listed (fun d : MatrixDimension => d.dimensionId.val) parsed (memberAt place "dimensions")
    " contains duplicate IDs"
  return ⟨← readAt requireIdentifier obj "id" place, dimensions⟩

def parseCase (value : Json) (place : Str) : Except Exc BehaviorCase := do
  let obj ← record value ["id", "requirement"] [] place
  return ⟨← readAt requireIdentifier obj "id" place, ← readAt requireString obj "requirement" place⟩

def parseGate (value : Json) (place : Str) : Except Exc Gate := do
  let obj ← record value ["id", "metric", "operator", "expected", "unit", "threshold_source", "evidence"] [] place
  let operator ← requireOneOf gateOperators (← readAt requireString obj "operator" place)
    (memberAt place "operator") "['eq', 'gte', 'lte', 'present']"
  let thresholdSource ← requireOneOf thresholdSources (← readAt requireString obj "threshold_source" place)
    (memberAt place "threshold_source") "['benchmark_contract', 'certification_record', 'run_manifest']"
  let gateId ← readAt requireIdentifier obj "id" place
  let metric ← readAt requireIdentifier obj "metric" place
  let expected ← readAt scalar obj "expected" place
  let unit ← readAt requireIdentifier obj "unit" place
  let evidence ← readAt (stringArray identifierText) obj "evidence" place
  return { gateId, metric, operator, expected, unit, thresholdSource, evidence }

def schemaV1 : Str := lit "turnvector.benchmark.expectation.v1"
def schemaV2 : Str := lit "turnvector.benchmark.expectation.v2"
def schemaV3 : Str := lit "turnvector.benchmark.expectation.v3"

/-- `_identifier` or `_string` of a value that may be `None`. -/
def optional {α : Type} (reader : Json → Str → Except Exc α) (value : Option Json) (place : Str) :
    Except Exc (Option α) :=
  match value with
  | none | some .null => .ok none
  | some v => (reader v place).map some

def isNone : Option Json → Bool
  | none | some .null => true
  | some _ => false

/-- `_parse_harness` from the second schema on. -/
def parseSuiteHarness (value : Json) (place : Str) : Except Exc Harness := do
  let obj ← record value ["protocol", "runner", "suite"] ["legacy_protocol", "legacy_suite"] place
  let suite ← readAt requireString obj "suite" place
  let legacyProtocol := obj.lookup (lit "legacy_protocol")
  let legacySuite := obj.lookup (lit "legacy_suite")
  if isNone legacyProtocol != isNone legacySuite then
    reject place ".legacy_protocol and legacy_suite must be provided together"
  else do
    let protocol ← readAt requireIdentifier obj "protocol" place
    let runner ← readAt requireIdentifier obj "runner" place
    let legacyProtocol ← optional requireIdentifier legacyProtocol (memberAt place "legacy_protocol")
    let legacyEntrypoint ← optional requireString legacySuite (memberAt place "legacy_suite")
    return { status := lit "executable", kind := lit "lane_suite", protocol, entrypoint := some suite,
             runner := some runner, legacyProtocol, legacyEntrypoint }

/-- The last checks of `_parse_harness` under the first schema. -/
def admitHarness (status kind : Str) (protocol : Identifier) (entrypoint : Option Str) (place : Str) :
    Except Exc Harness :=
  if status = lit "executable" ∧ entrypoint = none then
    reject place ".entrypoint is required for an executable harness"
  else if status = lit "contract_only" ∧ entrypoint ≠ none then
    reject place ".entrypoint must be null for a contract-only harness"
  else if status = lit "executable" ∧ kind ≠ lit "jsonl_suite" then
    reject place ".kind must be jsonl_suite while the harness is executable"
  else .ok { status, kind, protocol, entrypoint, runner := none, legacyProtocol := none, legacyEntrypoint := none }

def parseFirstHarness (value : Json) (place : Str) : Except Exc Harness := do
  let obj ← record value ["status", "kind", "protocol", "entrypoint"] [] place
  let status ← requireOneOf [("executable", lit "executable"), ("contract_only", lit "contract_only")]
    (← readAt requireString obj "status" place) (memberAt place "status") "['contract_only', 'executable']"
  let kind ← requireOneOf [("jsonl_suite", lit "jsonl_suite"), ("adapter", lit "adapter")]
    (← readAt requireString obj "kind" place) (memberAt place "kind") "['adapter', 'jsonl_suite']"
  let protocol ← readAt requireIdentifier obj "protocol" place
  let entrypoint ← optional requireString (some (← readItem obj "entrypoint")) (memberAt place "entrypoint")
  admitHarness status kind protocol entrypoint place

/-- `_parse_harness` -/
def parseHarness (value : Json) (place schemaVersion : Str) : Except Exc Harness :=
  if schemaVersion = schemaV2 ∨ schemaVersion = schemaV3 then parseSuiteHarness value place
  else parseFirstHarness value place

/-- The file that a harness names, when it names one. -/
def requireFile (files : Files) (named : Option Str) (place : Str) (text : String) : Except Exc Unit :=
  match named with
  | none => .ok ()
  | some name =>
    if files.isFile (files.resolve name) then .ok ()
    else .error (.contractError (place ++ lit text ++ files.resolve name))

def parseLane (files : Files) (schemaVersion : Str) (value : Json) (place : Str) : Except Exc ExpectationLane := do
  let obj ← record value ["id", "layer", "description", "required", "implementation_sources", "harness", "matrices",
    "cases", "gates", "required_artifacts", "claim_scope"] [] place
  let harness ← parseHarness (← readItem obj "harness") (memberAt place "harness") schemaVersion
  requireFile files harness.entrypoint place ".harness.entrypoint does not exist: "
  requireFile files harness.legacyEntrypoint place ".harness.legacy_suite does not exist: "
  let matrices ← parseItems parseMatrix (← readAt requireArray obj "matrices" place) (memberAt place "matrices")
  let cases ← parseItems parseCase (← readAt requireArray obj "cases" place) (memberAt place "cases")
  let gates ← parseItems parseGate (← readAt requireArray obj "gates" place) (memberAt place "gates")
  requireNonempty matrices (memberAt place "matrices")
  requireNonempty cases (memberAt place "cases")
  requireNonempty gates (memberAt place "gates")
  let matrices ← listed (fun m : Matrix => m.matrixId.val) matrices (memberAt place "matrices")
    " contains duplicate IDs"
  let cases ← listed (fun c : BehaviorCase => c.caseId.val) cases (memberAt place "cases") " contains duplicate IDs"
  let gates ← listed (fun g : Gate => g.gateId.val) gates (memberAt place "gates") " contains duplicate IDs"
  let laneId ← readAt requireIdentifier obj "id" place
  let layer ← readAt requireIdentifier obj "layer" place
  let description ← readAt requireString obj "description" place
  let required ← readAt requireBoolean obj "required" place
  let implementationSources ← readAt (stringArray requireString) obj "implementation_sources" place
  let requiredArtifacts ← readAt (stringArray identifierText) obj "required_artifacts" place
  let claimScope ← readAt (stringArray identifierText) obj "claim_scope" place
  return { laneId, layer, description, required, implementationSources, harness, matrices, cases, gates,
           requiredArtifacts, claimScope }

def parseSourceContract (value : Json) (place : Str) : Except Exc SourceContract := do
  let obj ← record value ["repository", "revision", "clean_required"] [] place
  let revision ← readAt requireString obj "revision" place
  if revision.length ≠ 40 || revision.any fun c => !isHex c then
    reject place ".revision must be a lowercase 40-character Git SHA"
  else return ⟨← readAt requireString obj "repository" place, revision, ← readAt requireBoolean obj "clean_required" place⟩

/-- The file check of `_parse_authority`. -/
def bindReconciliation (file : Reconciliation) (path digest place : Str) : Except Exc ExpectationAuthority :=
  match file with
  | .escapes resolved => .error (.contractError
      (place ++ lit ".source_reconciliation_path escapes the repository root: " ++ resolved))
  | .missing resolved => .error (.contractError (place ++ lit ".source_reconciliation_path does not exist: " ++ resolved))
  | .unreadable resolved error => .error (.contractError
      (lit "cannot read source reconciliation authority " ++ resolved ++ lit ": " ++ error))
  | .digest resolved observed =>
    if observed = digest then .ok ⟨path, digest⟩
    else .error (.contractError (place ++ lit ".source_reconciliation_sha256 does not match " ++ resolved ++
      lit ": expected " ++ digest ++ lit ", observed " ++ observed))

/-- A leading slash and a double one leave an empty component. -/
def parseAuthority (files : Files) (value : Json) (place : Str) : Except Exc ExpectationAuthority := do
  let obj ← record value ["source_reconciliation_path", "source_reconciliation_sha256"] [] place
  let path ← readAt requireString obj "source_reconciliation_path" place
  if occurs (cp 92) path || (path.splitOn (cp 47)).any isDots then
    reject place ".source_reconciliation_path must be a normalized repository-relative POSIX path"
  else do
    let digest ← readAt requireString obj "source_reconciliation_sha256" place
    if !Canonical.isSha256 digest then
      reject place ".source_reconciliation_sha256 must be a lowercase 64-character SHA-256 digest"
    else bindReconciliation (files.reconciliation path) path digest place

/-- The fail-closed policy of a schema. -/
def expectedPolicy (schemaVersion : Str) : List (String × Str) :=
  [("required_lane_policy", lit "all_required_lanes_must_execute_and_pass"),
    if schemaVersion = schemaV1 then ("contract_only_policy", lit "required_but_not_yet_executable")
    else ("unsupported_policy", lit "required_lane_failure"),
    ("scope_policy", lit "claims_are_limited_to_exact_evidence_identity")]

def checkPolicy (schemaVersion : Str) (value : Json) (path : Str) : Except Exc Unit := do
  let expected := expectedPolicy schemaVersion
  let policy ← record value (expected.map Prod.fst) [] (memberAt path "certification_policy")
  if expected.all fun p => decide (policy.lookup (lit p.1) = some (.str p.2)) then return ()
  else .error (.contractError (path ++
    lit ".certification_policy must equal the fail-closed policy for " ++ schemaVersion))

/-- `schema_version not in EXPECTATION_SCHEMAS` hashes the value. -/
def admitSchema (value : Json) (path : Str) : Except Exc Str :=
  let rejected := reject path (".schema_version must be one of ['turnvector.benchmark.expectation.v1', " ++
    "'turnvector.benchmark.expectation.v2', 'turnvector.benchmark.expectation.v3']")
  match value with
  | .str s => if occurs s [schemaV1, schemaV2, schemaV3] then .ok s else rejected
  | .arr _ | .obj _ => .error .typeError
  | _ => rejected

def documentFields : List String :=
  ["schema_version", "id", "description", "source_contract", "certification_policy", "lanes"]

def authorityOf (files : Files) (schemaVersion : Str) (obj : List (Str × Json)) (path : Str) :
    Except Exc (Option ExpectationAuthority) :=
  if schemaVersion = schemaV3 then do
    return some (← parseAuthority files (← readItem obj "authority") (memberAt path "authority"))
  else .ok none

def requireSomeLane (lanes : List ExpectationLane) (place : Str) : Except Exc Unit :=
  if lanes.any (·.required) then .ok () else reject place " must contain at least one required lane"

/-- `load_expectation` of a decoded document. -/
def loadExpectation (files : Files) (path : Str) (raw : Json) : Except Exc ImplementationExpectation := do
  let obj ← requireMembers raw path
  let isV3 := obj.lookup (lit "schema_version") = some (.str schemaV3)
  strictKeys obj (if isV3 then documentFields ++ ["authority"] else documentFields) [] path
  let schemaVersion ← admitSchema (← readItem obj "schema_version") path
  checkPolicy schemaVersion (← readItem obj "certification_policy") path
  let authority ← authorityOf files schemaVersion obj path
  let items ← readAt requireArray obj "lanes" path
  let parsed ← parseItems (parseLane files schemaVersion) items (memberAt path "lanes")
  let lanes ← listed (fun l : ExpectationLane => l.laneId.val) parsed (memberAt path "lanes") " contains duplicate IDs"
  requireSomeLane lanes.items (memberAt path "lanes")
  let expectationId ← readAt requireIdentifier obj "id" path
  let description ← readAt requireString obj "description" path
  let sourceContract ← parseSourceContract (← readItem obj "source_contract") (memberAt path "source_contract")
  return { schemaVersion, expectationId, description, sourceContract, authority, lanes }

end TurnVector.Lanes
