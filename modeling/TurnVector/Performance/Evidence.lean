import TurnVector.Performance.Contract

/-! # Performance evidence

`PerformanceContract.validate_artifact`. The evidence document is what `json.loads` makes of its file.
-/

namespace TurnVector.Performance

open Python Json
open CrossEngine (PyFloat)
open LaneController (Raised contractError)
open Lanes (Floats Listed Artifact Probe demand keyError raised listRepr tupleRepr validateSubjectArtifact isInteger)

variable (library : Library) (contract : PerformanceContract) (lane : PerformanceLane)

/-! ## Support, session and environment -/

inductive Support where
  | supported
  | unsupported
  deriving DecidableEq

/-- `_validate_support` -/
def validateSupport (value : Json) : Except Raised Support := do
  let obj ← strictObject value [lit "status", lit "reason"] (lit "evidence.support")
  let status ← readAt identifier obj "status" (lit "evidence.support")
  if status = lit "supported" then do
    demand ((← item obj (lit "reason")) = .null) (lit "supported evidence must have a null support reason")
    return .supported
  else if status = lit "unsupported" then do
    demand (lane.activation = .capabilityConditioned) (lit "a core performance lane cannot be marked unsupported")
    let _ ← readAt string obj "reason" (lit "evidence.support")
    return .unsupported
  else contractError (lit "evidence.support.status must be supported or unsupported")

/-- What a report and the certification check take from a session. -/
structure Session where
  claimType : Str
  startedAt : Json

/-- The reasons whose conditions hold. -/
def reasonsOf (checks : List (Bool × String)) : List Str := (checks.filter (·.1)).map fun check => lit check.2

def comparisonFields : List Str :=
  ["denominator_id", "denominator_sha256", "pairing_key_sha256", "measurement_semantics"].map lit

def validateComparison (claimType : Str) (comparison : Json) : Except Raised Unit :=
  if claimType = lit "paired_delta" then do
    let obj ← strictObject comparison comparisonFields (lit "evidence.session.comparison")
    let _ ← readAt string obj "denominator_id" (lit "comparison")
    let _ ← readAt (digest 64) obj "denominator_sha256" (lit "comparison")
    let _ ← readAt (digest 64) obj "pairing_key_sha256" (lit "comparison")
    demand ((← item obj (lit "measurement_semantics")) = .str (lit "same_session"))
      (lit "paired_delta evidence requires same_session measurement semantics")
  else demand (comparison = .null) (lit "non-paired evidence must have a null comparison")

def sessionFields : List Str :=
  ["id", "mode", "claim_type", "subject_kind", "started_at", "finished_at", "source_revision", "source_dirty",
    "benchmark_revision", "benchmark_dirty", "comparison"].map lit

/-- `_validate_session` -/
def validateSession (value : Json) : Except Raised (Session × List Str) := do
  let place := lit "evidence.session"
  let obj ← strictObject value sessionFields place
  let _ ← readAt identifier obj "id" place
  demand ((← item obj (lit "mode")) = .str lane.sessionMode)
    (lit "evidence session mode does not match the selected lane")
  let claimType ← readAt identifier obj "claim_type" place
  demand (occurs claimType lane.claimTypes) (lit "evidence claim type is not allowed by the selected lane")
  let subjectKind ← readAt identifier obj "subject_kind" place
  demand (subjectKind = lit "implementation" || subjectKind = lit "fixture")
    (lit "evidence.session.subject_kind must be implementation or fixture")
  let started ← readAt (timestamp library) obj "started_at" place
  let finished ← readAt (timestamp library) obj "finished_at" place
  demand (started ≤ finished) (lit "evidence session finished before it started")
  let sourceRevision ← readAt (digest 40) obj "source_revision" place
  let _ ← readAt (digest 40) obj "benchmark_revision" place
  let sourceDirty ← readAt boolean obj "source_dirty" place
  let benchmarkDirty ← readAt boolean obj "benchmark_dirty" place
  validateComparison claimType (← item obj (lit "comparison"))
  return (⟨claimType, ← item obj (lit "started_at")⟩,
    reasonsOf [(sourceRevision ≠ contract.sourceRevision, "source_revision_mismatch"),
      (sourceDirty, "source_checkout_dirty"), (benchmarkDirty, "benchmark_checkout_dirty"),
      (subjectKind = lit "fixture", "fixture_subject")])

/-- `_validate_environment` -/
def validateEnvironment (value : Json) : Except Raised (List Str) := do
  let place := lit "evidence.environment"
  let measured := number library.floats true
  let obj ← strictObject value (environmentIdentityFields ++ hostConditionFields) place
  let _ ← readAt string obj "device_class" place
  let _ ← readAt (integer 1) obj "memory_bytes" place
  let _ ← readAt string obj "os_build" place
  let _ ← readAt (digest 64) obj "resolved_runtime_sha256" place
  let _ ← readAt (digest 64) obj "subject_binary_sha256" place
  let _ ← readAt (digest 64) obj "model_manifest_sha256" place
  let _ ← readAt (digest 64) obj "prompt_manifest_sha256" place
  let _ ← readAt (digest 64) obj "certification_record_sha256" place
  let powerSource ← readAt identifier obj "power_source" place
  let thermalStart ← readAt identifier obj "thermal_state_start" place
  let thermalEnd ← readAt identifier obj "thermal_state_end" place
  let loadStart ← readAt measured obj "load_average_1m_start" place
  let loadEnd ← readAt measured obj "load_average_1m_end" place
  let cpuStart ← readAt measured obj "top_process_cpu_percent_start" place
  let cpuEnd ← readAt measured obj "top_process_cpu_percent_end" place
  let admission ← readAt boolean obj "host_admission_passed" place
  let limits := contract.hostAdmissionLimits
  return reasonsOf [(powerSource ≠ lit "external", "host_not_on_external_power"),
    (thermalStart ≠ lit "nominal" || thermalEnd ≠ lit "nominal", "host_thermal_state_not_nominal"),
    (limits.maxLoadAverage1m < max loadStart loadEnd, "host_load_average_exceeded"),
    (limits.maxTopProcessCpuPercent < max cpuStart cpuEnd, "host_top_process_cpu_exceeded"),
    (!admission, "host_admission_failed")]

/-! ## Thresholds and cases -/

/-- The gates whose thresholds a certification record has. -/
def certifiedGates : List Str := (lane.gates.items.filter (·.thresholdSource.certified)).map (·.gateId)

/-- The numbers of the certified gates. -/
def readThresholds (gates : List Str) (value : Json) (place : Str) : Except Raised (List (Str × ℚ)) := do
  let obj ← strictObject value gates place
  gates.mapM fun gateId => do
    return (gateId, ← number library.floats true (← item obj gateId) (place ++ lit "." ++ gateId))

/-- `_validate_thresholds` -/
def validateThresholds (value : Json) : Except Raised (List (Str × ℚ)) :=
  readThresholds library (certifiedGates lane) value (lit "evidence.frozen_thresholds")

/-- `_nearest_rank` -/
def nearestRank (floats : Floats) (values : List ℚ) (quantile : ℚ) : Except Raised PyFloat :=
  let ordered := values.insertionSort (· ≤ ·)
  match floats.mul (floats.literal quantile) (.finite ordered.length) with
  | .finite position =>
    match ordered[(max 1 ⌈position⌉).toNat - 1]? with
    | some value => .ok (.finite value)
    | none => raised "IndexError" (lit "list index out of range")
  | _ => raised "OverflowError" (lit "cannot convert float infinity to integer")

/-- `float(statistics.median(values))` -/
def median (floats : Floats) (values : List ℚ) : PyFloat :=
  let ordered := values.insertionSort (· ≤ ·)
  let middle := fun index => PyFloat.finite (ordered.getD index 0)
  let half := ordered.length / 2
  if ordered.length % 2 = 1 then middle half
  else floats.div (floats.add (middle (half - 1)) (middle half)) (.finite 2)

/-- `_reduce` -/
def reduce (floats : Floats) (values : List ℚ) (reducer : Reducer) : Except Raised PyFloat :=
  match values with
  | [] => contractError (lit "cannot reduce an empty performance sample set")
  | first :: rest =>
    match reducer with
    | .median => .ok (median floats values)
    | .p95 => nearestRank floats values (95 / 100)
    | .p99 => nearestRank floats values (99 / 100)
    | .min => .ok (.finite (rest.foldl min first))
    | .max => .ok (.finite (rest.foldl max first))
    | .sum => .ok (floats.sum values)

/-- `math.isclose(a, b, rel_tol=1e-9, abs_tol=1e-9)` -/
def isClose : PyFloat → PyFloat → Bool
  | .finite a, .finite b => |a - b| ≤ max (max |a| |b| / 10 ^ 9) (1 / 10 ^ 9)
  | .infinite s, .infinite t => s = t
  | _, _ => false

def trialFields : List Str := [lit "repetition", lit "metrics"]

/-- One metric of a trial. -/
def readMetric (metrics : List (Str × Json)) (place : Str) (metric : PerformanceMetric) : Except Raised (Str × ℚ) := do
  let place := place ++ lit ".metrics." ++ metric.metricId
  let observed ← number library.floats true (← item metrics metric.metricId) place
  demand (metric.unit ≠ lit "count" || isInteger observed) (place ++ lit " must be an integer count")
  return (metric.metricId, observed)

/-- One trial: the value of each metric. -/
def readTrial (place : Str) (trial : Json × Nat) : Except Raised (List (Str × ℚ)) := do
  let place := Canonical.itemAt place trial.2
  let obj ← strictObject trial.1 trialFields place
  let repetition ← item obj (lit "repetition")
  demand (pyEq library.value repetition (.int trial.2)) (place ++ lit ".repetition must preserve trial order")
  let metrics ← readAt object obj "metrics" place
  strictKeys metrics lane.metricIds (place ++ lit ".metrics")
  lane.metrics.items.mapM (readMetric library metrics place)

/-- The values of a metric, in the order of the trials. -/
def samplesOf (trials : List (List (Str × ℚ))) (metricId : Str) : List ℚ := trials.filterMap (·.lookup metricId)

/-- A metric's number, recomputed from the trials, to which the declared one is close. -/
def readSummary (trials : List (List (Str × ℚ))) (summary : List (Str × Json)) (place : Str)
    (metric : PerformanceMetric) : Except Raised (Str × PyFloat) := do
  let place := place ++ lit ".summary." ++ metric.metricId
  let expected ← reduce library.floats (samplesOf trials metric.metricId) metric.reducer
  let declared ← number library.floats false (← item summary metric.metricId) place
  demand (isClose (.finite declared) expected) (place ++ lit " does not recompute from raw trials")
  return (metric.metricId, expected)

def caseFields : List Str := ["case_id", "matrix_id", "parameters", "status", "trials", "summary"].map lit

/-- A case as far as its trials, which are read. -/
def readTrials (obj : List (Str × Json)) (planned : PlannedPerformanceCase) (place : Str) :
    Except Raised (List (List (Str × ℚ))) := do
  let caseId ← item obj (lit "case_id")
  let matrixId ← item obj (lit "matrix_id")
  let parameters ← item obj (lit "parameters")
  demand (caseId = .str planned.caseId && matrixId = .str planned.matrixId &&
    pyEq library.value parameters (.obj planned.parameters)) (place ++ lit " does not match the frozen case plan")
  demand ((← item obj (lit "status")) = .str (lit "measured")) (place ++ lit ".status must be measured")
  let trials ← readAt array obj "trials" place
  demand (trials.length = lane.protocol.measuredRepetitions) (place ++ lit ".trials must contain exactly " ++
    natText lane.protocol.measuredRepetitions ++ lit " repetitions")
  trials.zipIdx.mapM (readTrial library lane (place ++ lit ".trials"))

/-- One case: its ID, its recomputed summary and how many trials it has. -/
def readCase (case : (Json × PlannedPerformanceCase) × Nat) : Except Raised (Str × List (Str × PyFloat) × Nat) := do
  let place := Canonical.itemAt (lit "evidence.cases") case.2
  let obj ← strictObject case.1.1 caseFields place
  let trials ← readTrials library lane obj case.1.2 place
  let summary ← readAt object obj "summary" place
  strictKeys summary lane.metricIds (place ++ lit ".summary")
  let recomputed ← lane.metrics.items.mapM (readSummary library trials summary place)
  return (case.1.2.caseId, recomputed, trials.length)

/-- `_validate_cases`: the summaries by case, and how many trials there are. -/
def validateCases (value : Json) : Except Raised (List (Str × List (Str × PyFloat)) × Nat) := do
  let rawCases ← array value (lit "evidence.cases")
  let plan ← contract.casePlan lane.laneId
  demand (rawCases.length = plan.length)
    (lit "evidence.cases must contain the exact " ++ natText plan.length ++ lit "-case plan")
  let read ← (rawCases.zip plan).zipIdx.mapM (readCase library lane)
  return (dictOf (read.map fun case => (case.1, case.2.1)), (read.map (·.2.2)).sum)

/-! ## Artifacts and certification -/

/-- The files that a validation reads: the evidence, the artifacts by their paths, and records beside the evidence. -/
structure Files where
  evidencePath : Str
  document : Except Raised Json
  evidenceSha256 : Except Raised Str
  probe : Str → Probe
  beside : Str → Str
  readJson : Str → Except Raised Json

def artifactFields : List Str := ["id", "path", "size", "sha256", "custody"].map lit

/-- One descriptor. -/
def readArtifact (files : Files) (artifact : Json × Nat) : Except Raised (Str × Artifact) := do
  let place := Canonical.itemAt (lit "evidence.artifacts") artifact.2
  let descriptor ← strictObject artifact.1 artifactFields place
  let artifactId ← readAt identifier descriptor "id" place
  demand ((← item descriptor (lit "custody")) = .str (lit "benchmark")) (place ++ lit ".custody must be benchmark")
  let verified ← validateSubjectArtifact files.probe [(lit "id", .str artifactId),
    (lit "path", ← item descriptor (lit "path")), (lit "size", ← item descriptor (lit "size")),
    (lit "sha256", ← item descriptor (lit "sha256"))]
  return (artifactId, verified)

/-- `_validate_artifacts` -/
def validateArtifacts (files : Files) (value : Json) (requiredIds : List Str) :
    Except Raised (List (Str × Artifact)) := do
  let raw ← array value (lit "evidence.artifacts")
  demand (raw.length = requiredIds.length) (lit "evidence.artifacts must contain exactly " ++ listRepr requiredIds)
  let verified ← raw.zipIdx.mapM (readArtifact files)
  demand (verified.map Prod.fst = requiredIds)
    (lit "evidence artifact IDs must preserve required order " ++ tupleRepr requiredIds)
  return dictOf verified

def artifactOf (artifacts : List (Str × Artifact)) (artifactId : Str) : Except Raised Artifact :=
  match artifacts.lookup artifactId with
  | some artifact => .ok artifact
  | none => keyError artifactId

/-- One link of `_validate_identity_artifact_links`. -/
def validateLink (environment : List (Str × Json)) (artifacts : List (Str × Artifact)) (artifactId : Str) :
    Except Raised Unit := do
  let field := artifactId ++ lit "_sha256"
  let artifact ← artifactOf artifacts artifactId
  demand ((← item environment field) = .str artifact.sha256)
    (lit "evidence.environment." ++ field ++ lit " does not match artifact " ++ strRepr artifactId)

/-- `_validate_identity_artifact_links` -/
def validateIdentityArtifactLinks (environment : Json) (artifacts : List (Str × Artifact)) : Except Raised Unit := do
  let environment ← object environment (lit "evidence.environment")
  [lit "model_manifest", lit "prompt_manifest", lit "certification_record"].forM (validateLink environment artifacts)

def recordFields : List Str :=
  ["schema_version", "id", "contract", "lane_id", "issued_at", "expires_at", "identity", "thresholds"].map lit

def certifiedIdentityFields : List String :=
  ["resolved_runtime_sha256", "subject_binary_sha256", "model_manifest_sha256", "prompt_manifest_sha256"]

/-- The contract that a document names is this one. -/
def namesContract (members : List (Str × Json)) : Bool :=
  members.lookup (lit "id") = some (.str contract.contractId) &&
    members.lookup (lit "sha256") = some (.str contract.sha256)

def validateIdentityField (identity environment : List (Str × Json)) (place : Str) (field : String) :
    Except Raised Unit := do
  let _ ← readAt (digest 64) identity field place
  demand ((← item identity (lit field)) = (← item environment (lit field)))
    (lit "performance certification record identity " ++ strRepr (lit field) ++ lit " differs")

/-- The record applies to the contract, the lane and the start of the session. -/
def validateApplicability (record : List (Str × Json)) (startedAt : Json) (path : Str) : Except Raised Unit := do
  demand ((← item record (lit "schema_version")) = .str (lit "turnvector.benchmark.performance-certification.v1"))
    (path ++ lit ".schema_version must be 'turnvector.benchmark.performance-certification.v1'")
  let _ ← readAt identifier record "id" path
  let named ← strictObject (← item record (lit "contract")) [lit "id", lit "sha256"] (path ++ lit ".contract")
  demand (namesContract contract named) (lit "performance certification record contract identity differs")
  demand ((← item record (lit "lane_id")) = .str lane.laneId)
    (lit "performance certification record applies to a different lane")
  let issuedAt ← readAt (timestamp library) record "issued_at" path
  let expiresAt ← readAt (timestamp library) record "expires_at" path
  let sessionStart ← timestamp library startedAt (lit "evidence.session.started_at")
  demand (issuedAt ≤ sessionStart && sessionStart < expiresAt)
    (lit "performance certification record was not applicable at session start")

/-- `_validate_certification_record` -/
def validateCertificationRecord (files : Files) (artifacts : List (Str × Artifact)) (environment : Json)
    (session : Session) (thresholds : List (Str × ℚ)) : Except Raised Unit := do
  let descriptor ← artifactOf artifacts (lit "certification_record")
  let path := files.beside descriptor.path
  let record ← strictObject (← files.readJson path) recordFields path
  validateApplicability library contract lane record session.startedAt path
  let environment ← object environment (lit "evidence.environment")
  let identity ← strictObject (← item record (lit "identity")) (certifiedIdentityFields.map lit)
    (path ++ lit ".identity")
  certifiedIdentityFields.forM (validateIdentityField identity environment (path ++ lit ".identity"))
  let certified ← readThresholds library (thresholds.map Prod.fst) (← item record (lit "thresholds"))
    (path ++ lit ".thresholds")
  demand (certified = thresholds) (lit "frozen thresholds do not match the performance certification record")

/-! ## Gates and publication -/

/-- `_compare` -/
def compare (observed : PyFloat) (operator : Operator) (expected : ℚ) : Bool :=
  match operator with
  | .eq => isClose observed (.finite expected)
  | .gte =>
    match observed with
    | .finite q => expected ≤ q
    | .infinite negative => !negative
    | .nan => false
  | .lte =>
    match observed with
    | .finite q => q ≤ expected
    | .infinite negative => negative
    | .nan => false

structure GateResult where
  gateId : Str
  metric : Str
  operator : Operator
  threshold : ℚ
  decision : Decision
  failedCaseIds : List Str
  deriving DecidableEq

def GateResult.passed (result : GateResult) : Bool := result.failedCaseIds.isEmpty

def thresholdOf (thresholds : List (Str × ℚ)) (gate : PerformanceGate) : Except Raised ℚ :=
  match gate.thresholdSource with
  | .benchmarkContract expected => .ok expected
  | .certificationRecord =>
    match thresholds.lookup gate.gateId with
    | some threshold => .ok threshold
    | none => keyError gate.gateId

/-- Whether a case fails a gate. -/
def failsGate (gate : PerformanceGate) (threshold : ℚ) (summary : Str × List (Str × PyFloat)) :
    Except Raised (Option Str) :=
  match summary.2.lookup gate.metric with
  | some observed => .ok (if compare observed gate.operator threshold then none else some summary.1)
  | none => keyError gate.metric

def evaluateGate (summaries : List (Str × List (Str × PyFloat))) (thresholds : List (Str × ℚ))
    (gate : PerformanceGate) : Except Raised GateResult := do
  let threshold ← thresholdOf thresholds gate
  let failed ← summaries.mapM (failsGate gate threshold)
  return ⟨gate.gateId, gate.metric, gate.operator, threshold, gate.decision, failed.reduceOption⟩

def GateResult.reason (result : GateResult) : Str := result.decision.text ++ lit "_gate_failed:" ++ result.gateId

/-- The reasons that the failed gates of a decision give. -/
def gateReasons (decision : Decision) (results : List GateResult) : List Str :=
  (results.filter fun result => !result.passed && result.decision = decision).map (·.reason)

/-- `_evaluate_gates`, of which the reasons are those of `gateReasons`. -/
def evaluateGates (summaries : List (Str × List (Str × PyFloat))) (thresholds : List (Str × ℚ)) :
    Except Raised (List GateResult) := lane.gates.items.mapM (evaluateGate summaries thresholds)

inductive EvidenceStatus where
  | publishable
  | notPublishable
  | unsupported
  deriving DecidableEq

def EvidenceStatus.text : EvidenceStatus → Str
  | publishable => lit "publishable"
  | notPublishable => lit "not_publishable"
  | unsupported => lit "unsupported"

inductive PromotionStatus where
  | passed
  | failed
  | notApplicable
  | notEvaluated
  deriving DecidableEq

def PromotionStatus.text : PromotionStatus → Str
  | passed => lit "passed"
  | failed => lit "failed"
  | notApplicable => lit "not_applicable"
  | notEvaluated => lit "not_evaluated"

/-- The publication decision that is derived. -/
structure Derived where
  evidenceStatus : EvidenceStatus
  promotionStatus : PromotionStatus
  candidate : Bool
  evidenceReasons : List Str
  promotionReasons : List Str
  deriving DecidableEq

/-- The decision about a supported lane. -/
def derive (evidenceReasons promotionReasons : List Str) : Derived :=
  if !evidenceReasons.isEmpty then ⟨.notPublishable, .notEvaluated, false, evidenceReasons, []⟩
  else if !lane.gates.items.any (·.decision = .promotion) then ⟨.publishable, .notApplicable, true, [], promotionReasons⟩
  else if !promotionReasons.isEmpty then ⟨.publishable, .failed, true, [], promotionReasons⟩
  else ⟨.publishable, .passed, true, [], promotionReasons⟩

def publicationFields : List Str :=
  ["evidence_status", "promotion_status", "candidate", "evidence_reasons", "promotion_reasons", "supersedes"].map lit

/-- `_validate_publication`: what the evidence supersedes. -/
def validatePublication (value : Json) (derived : Derived) : Except Raised (List Str) := do
  let place := lit "evidence.publication"
  let obj ← strictObject value publicationFields place
  let supersedes ← readAt (strings string true) obj "supersedes" place
  let evidenceStatus ← readAt identifier obj "evidence_status" place
  let promotionStatus ← readAt identifier obj "promotion_status" place
  demand (occurs evidenceStatus [lit "publishable", lit "not_publishable", lit "unsupported"])
    (lit "evidence.publication.evidence_status is invalid")
  demand (occurs promotionStatus [lit "passed", lit "failed", lit "not_applicable", lit "not_evaluated"])
    (lit "evidence.publication.promotion_status is invalid")
  let evidenceReasons ← readAt (strings string true) obj "evidence_reasons" place
  let promotionReasons ← readAt (strings string true) obj "promotion_reasons" place
  let candidate ← readAt boolean obj "candidate" place
  demand (evidenceStatus = derived.evidenceStatus.text && promotionStatus = derived.promotionStatus.text &&
    candidate = derived.candidate && evidenceReasons = derived.evidenceReasons &&
    promotionReasons = derived.promotionReasons)
    (lit "declared publication decision differs from the independently derived decision")
  return supersedes

/-! ## The report -/

structure Report where
  contractId : Str
  contractSha256 : Str
  evidencePath : Str
  evidenceSha256 : Str
  laneId : Str
  activation : Activation
  sessionMode : Str
  claimType : Str
  caseCount : Nat
  trialCount : Nat
  artifactCount : Nat
  decision : Derived
  supersedes : List Str
  gates : List GateResult
  claimBoundaries : List Str

/-- `_report`, whose status is that of the evidence. -/
def reportOf (files : Files) (session : Session) (caseCount trialCount artifactCount : Nat) (gates : List GateResult)
    (decision : Derived) (supersedes : List Str) : Except Raised Report := do
  return { contractId := contract.contractId
           contractSha256 := contract.sha256
           evidencePath := files.evidencePath
           evidenceSha256 := ← files.evidenceSha256
           laneId := lane.laneId
           activation := lane.activation
           sessionMode := lane.sessionMode
           claimType := session.claimType
           caseCount
           trialCount
           artifactCount
           decision
           supersedes
           gates
           claimBoundaries := lane.claimBoundaries }

def unsupportedDecision : Derived := ⟨.unsupported, .notEvaluated, false, [lit "capability_unsupported"], []⟩

/-- The branch of `validate_artifact` for an unsupported capability. -/
def validateUnsupported (files : Files) (obj : List (Str × Json)) (session : Session) : Except Raised Report := do
  let thresholds ← item obj (lit "frozen_thresholds")
  demand (thresholds = .obj [] && (← item obj (lit "cases")) = .arr [])
    (lit "unsupported capability evidence cannot contain thresholds or cases")
  let artifacts ← validateArtifacts files (← item obj (lit "artifacts")) [lit "run_manifest", lit "environment"]
  let supersedes ← validatePublication (← item obj (lit "publication")) unsupportedDecision
  reportOf contract lane files session 0 0 artifacts.length [] unsupportedDecision supersedes

/-- The rest of `validate_artifact`, with the reasons that the session and the environment gave. -/
def validateSupported (files : Files) (obj : List (Str × Json)) (session : Session) (reasons : List Str) :
    Except Raised Report := do
  let thresholds ← validateThresholds library lane (← item obj (lit "frozen_thresholds"))
  let (summaries, trialCount) ← validateCases library contract lane (← item obj (lit "cases"))
  let artifacts ← validateArtifacts files (← item obj (lit "artifacts"))
    (commonRequiredArtifacts ++ lane.requiredArtifacts)
  let environment ← item obj (lit "environment")
  validateIdentityArtifactLinks environment artifacts
  validateCertificationRecord library contract lane files artifacts environment session thresholds
  let gates ← evaluateGates lane summaries thresholds
  let decision := derive lane (reasons ++ gateReasons .evidence gates) (gateReasons .promotion gates)
  let supersedes ← validatePublication (← item obj (lit "publication")) decision
  reportOf contract lane files session summaries.length trialCount artifacts.length gates decision supersedes

def evidenceFields : List Str :=
  ["schema_version", "contract", "lane_id", "support", "session", "environment", "custody", "protocol",
    "frozen_thresholds", "cases", "artifacts", "publication"].map lit

def validateProtocol (value : Json) : Except Raised Unit := do
  let protocol ← object value (lit "evidence.protocol")
  demand (pyEq library.value (.obj protocol) lane.protocol.asDict)
    (lit "evidence.protocol does not exactly match the lane protocol")

/-- The document names its schema and its contract; the lane it names. -/
def selectLane (obj : List (Str × Json)) (path : Str) : Except Raised PerformanceLane := do
  demand ((← item obj (lit "schema_version")) = .str (lit "turnvector.benchmark.performance-evidence.v1"))
    (path ++ lit ".schema_version must be 'turnvector.benchmark.performance-evidence.v1'")
  let named ← readAt object obj "contract" path
  strictKeys named [lit "id", lit "sha256"] (lit "evidence.contract")
  demand (namesContract contract named) (lit "performance evidence is bound to a different contract identity")
  contract.lane (← readAt identifier obj "lane_id" (lit "evidence"))

def validateCustody (value : Json) (place : Str) : Except Raised Unit := do
  let custody ← strings identifier false value place
  demand (custody = benchmarkCustodyFields)
    (lit "evidence.custody must exactly match " ++ tupleRepr benchmarkCustodyFields)

/-- `validate_artifact` -/
def validateArtifact (files : Files) : Except Raised Report := do
  let obj ← object (← files.document) files.evidencePath
  strictKeys obj evidenceFields files.evidencePath
  let lane ← selectLane contract obj files.evidencePath
  let support ← validateSupport lane (← item obj (lit "support"))
  let (session, sessionReasons) ← validateSession library contract lane (← item obj (lit "session"))
  let hostReasons ← validateEnvironment library contract (← item obj (lit "environment"))
  readAt validateCustody obj "custody" (lit "evidence")
  validateProtocol library lane (← item obj (lit "protocol"))
  match support with
  | .unsupported => validateUnsupported contract lane files obj session
  | .supported => validateSupported library contract lane files obj session (sessionReasons ++ hostReasons)

end TurnVector.Performance
