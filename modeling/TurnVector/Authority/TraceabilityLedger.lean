import TurnVector.Canonical.Require

/-! # The traceability ledger

`authority/traceability_ledger.py`: the typed value of a parsed ledger. Every id in it is an identifier.
-/

namespace TurnVector.TraceabilityLedger

open Python Json Canonical

/-! ## Values -/

structure JudgeBinding where
  obligationId : Identifier
  judgeId : Identifier

structure EvidenceBundle where
  id : Identifier
  laneId : Identifier

structure EvidenceMembership where
  bundleId : Identifier
  evidenceSourceId : Identifier

/-- `LaneContext` and `LaneOutput` -/
structure LaneArtifact where
  laneId : Identifier
  artifactType : Identifier

structure GateRecord where
  laneId : Identifier
  gateId : Identifier

structure ObligationGatePair where
  laneId : Identifier
  obligationId : Identifier
  gateId : Identifier

/-- `JudgeNegativeBinding`, `AggregateNegativeBinding` and `PlumbingNegativeBinding` -/
structure NegativeBinding where
  ownerId : Identifier
  id : Identifier

structure LedgerEntities where
  judgeIds : List Identifier
  obligationToJudge : List JudgeBinding
  evidenceBundles : List EvidenceBundle
  evidenceSourceIds : List Identifier
  evidenceBundleMemberships : List EvidenceMembership
  laneContexts : List LaneArtifact
  postGateOutputs : List LaneArtifact
  gates : List GateRecord
  obligationGatePairs : List ObligationGatePair
  judgeNegativeTests : List NegativeBinding
  aggregateNegativeTests : List NegativeBinding
  plumbingNegativeTests : List NegativeBinding

/-- A field of `Cardinalities`: a count, or a tuple of counts. -/
inductive Cardinality where
  | count (n : U64)
  | counts (ns : List U64)

structure DigestBindings where
  sourceReconciliationSha256 : Sha256
  expectationSha256 : Sha256
  catalogSha256 : Sha256
  compileCustodyPolicySha256 : Sha256
  custodyDomainSha256 : Sha256
  maps : List (String × List (Identifier × Sha256))

structure Predecessor where
  compileCustodyLineageId : Identifier
  chronologySha256 : Sha256

/-- `TraceabilityLedgerValue`, without its two constants. -/
structure Value where
  id : Identifier
  designGateRevision : Sha256
  predecessor : Option Predecessor
  cardinalities : List (String × Cardinality)
  binds : DigestBindings
  entities : LedgerEntities

/-! ## Reading -/

def schemaVersion : Str := lit "turnvector.benchmark.traceability.v1"

def profileId : Str := lit "turnvector-implementation-v2"

/-- `_CARDINALITY_FIELDS`, with whether the field is an array. -/
def cardinalityFields : List (String × Bool) :=
  [("lane_count", false), ("case_plan_count", false), ("gate_count", false), ("obligation_count", false),
   ("judge_count", false), ("evidence_bundle_count", false), ("evidence_source_count", false),
   ("lane_context_membership_count", false), ("post_gate_output_membership_count", false),
   ("artifact_membership_total", false), ("judge_negative_template_count", false),
   ("aggregate_negative_template_count", false), ("plumbing_negative_template_count", false),
   ("lane_obligation_counts", true), ("lane_case_counts", true), ("lane_gate_counts", true),
   ("lane_raw_membership_counts", true), ("lane_context_counts", true), ("lane_output_counts", true),
   ("obligation_gate_pair_count", false), ("enforcement_path_count", false),
   ("evidence_membership_record_count", false), ("path_evidence_record_count", false),
   ("endpoint_reference_count", false), ("relation_record_count", false), ("entity_record_count", false),
   ("key_count_exec", false)]

def scalarBinds : List String :=
  ["source_reconciliation_sha256", "expectation_sha256", "catalog_sha256", "compile_custody_policy_sha256",
   "custody_domain_sha256"]

def mapBinds : List String :=
  ["lane_suite_sha256", "case_schema_sha256", "judge_contract_sha256", "evidence_bundle_contract_sha256",
   "raw_evidence_source_sha256", "lane_context_contract_sha256", "post_gate_output_contract_sha256", "gate_sha256",
   "judge_negative_sha256", "aggregate_negative_sha256", "plumbing_negative_sha256"]

def entityFields : List String :=
  ["judge_ids", "obligation_to_judge", "evidence_bundles", "evidence_source_ids", "evidence_bundle_memberships",
   "lane_contexts", "post_gate_outputs", "gates", "obligation_gate_pairs", "judge_negative_tests",
   "aggregate_negative_tests", "plumbing_negative_tests"]

/-- Each item of an array, read at its place. -/
def readArray {α : Type} (read : Json → Str → Except Exc α) (value : Json) (place : Str) : Except Exc (List α) := do
  (← requireArray value place).zipIdx.mapM fun item => read item.1 (itemAt place item.2)

/-- A field of a record, read at its place. -/
def readField {α : Type} (read : Json → Str → Except Exc α) (kvs : List (Str × Json)) (place : Str) (name : String) :
    Except Exc α := do
  read (← readItem kvs name) (place ++ lit "." ++ lit name)

/-- `_two_ids` -/
def twoIds {α : Type} (build : Identifier → Identifier → α) (first second : String) (value : Json) (place : Str) :
    Except Exc α := do
  let kvs ← requireRecord value [first, second] place
  return build (← readField requireIdentifier kvs place first) (← readField requireIdentifier kvs place second)

def readPair (value : Json) (place : Str) : Except Exc ObligationGatePair := do
  let kvs ← requireRecord value ["lane_id", "obligation_id", "gate_id"] place
  return ⟨← readField requireIdentifier kvs place "lane_id", ← readField requireIdentifier kvs place "obligation_id",
    ← readField requireIdentifier kvs place "gate_id"⟩

/-- `_digest_map` -/
def digestMap (value : Json) (place : Str) : Except Exc (List (Identifier × Sha256)) := do
  (← requireMembers value place).mapM fun p => do
    let key ← requireIdentifier (.str p.1) (place ++ lit " key")
    return (key, ← requireSha256 p.2 (place ++ lit "." ++ p.1))

def readCardinality (isArray : Bool) (value : Json) (place : Str) : Except Exc Cardinality :=
  if isArray then do return .counts (← readArray requireU64 value place)
  else do return .count (← requireU64 value place)

def readPredecessor (value : Json) (place : Str) : Except Exc (Option Predecessor) :=
  match value with
  | .null => .ok none
  | _ => do
    let kvs ← requireRecord value ["compile_custody_lineage_id", "chronology_sha256"] place
    return some ⟨← readField requireIdentifier kvs place "compile_custody_lineage_id",
      ← readField requireSha256 kvs place "chronology_sha256"⟩

def readBinds (value : Json) (place : Str) : Except Exc DigestBindings := do
  let kvs ← requireRecord value (scalarBinds ++ mapBinds) place
  let scalar := readField requireSha256 kvs place
  return {
    sourceReconciliationSha256 := ← scalar "source_reconciliation_sha256"
    expectationSha256 := ← scalar "expectation_sha256"
    catalogSha256 := ← scalar "catalog_sha256"
    compileCustodyPolicySha256 := ← scalar "compile_custody_policy_sha256"
    custodyDomainSha256 := ← scalar "custody_domain_sha256"
    maps := ← mapBinds.mapM fun name => do return (name, ← readField digestMap kvs place name) }

def readEntities (value : Json) (place : Str) : Except Exc LedgerEntities := do
  let kvs ← requireRecord value entityFields place
  let negatives := readField (readArray (twoIds NegativeBinding.mk "owner_id" "id")) kvs place
  let artifacts := readField (readArray (twoIds LaneArtifact.mk "lane_id" "artifact_type")) kvs place
  return {
    judgeIds := ← readField (readArray requireIdentifier) kvs place "judge_ids"
    obligationToJudge := ←
      readField (readArray (twoIds JudgeBinding.mk "obligation_id" "judge_id")) kvs place "obligation_to_judge"
    evidenceBundles := ← readField (readArray (twoIds EvidenceBundle.mk "id" "lane_id")) kvs place "evidence_bundles"
    evidenceSourceIds := ← readField (readArray requireIdentifier) kvs place "evidence_source_ids"
    evidenceBundleMemberships := ← readField
      (readArray (twoIds EvidenceMembership.mk "bundle_id" "evidence_source_id")) kvs place "evidence_bundle_memberships"
    laneContexts := ← artifacts "lane_contexts"
    postGateOutputs := ← artifacts "post_gate_outputs"
    gates := ← readField (readArray (twoIds GateRecord.mk "lane_id" "gate_id")) kvs place "gates"
    obligationGatePairs := ← readField (readArray readPair) kvs place "obligation_gate_pairs"
    judgeNegativeTests := ← negatives "judge_negative_tests"
    aggregateNegativeTests := ← negatives "aggregate_negative_tests"
    plumbingNegativeTests := ← negatives "plumbing_negative_tests" }

/-- `traceability_ledger_value` -/
def traceabilityLedgerValue (value : Json) : Except Exc Value := do
  let place := lit "traceability_ledger"
  let root ← requireRecord value ["schema_version", "id", "profile_id", "design_gate_revision", "predecessor",
    "cardinalities", "binds", "entities"] place
  if (← readItem root "schema_version") ≠ .str schemaVersion ∨ (← readItem root "profile_id") ≠ .str profileId then
    reject place " has an unsupported const value"
  else
    let predecessor ← readField readPredecessor root place "predecessor"
    let counts ← requireRecord (← readItem root "cardinalities") (cardinalityFields.map Prod.fst)
      (place ++ lit ".cardinalities")
    let cardinalities ← cardinalityFields.mapM fun field => do
      return (field.1, ← readField (readCardinality field.2) counts (place ++ lit ".cardinalities") field.1)
    let binds ← readField readBinds root place "binds"
    let entities ← readField readEntities root place "entities"
    return {
      predecessor, cardinalities, binds, entities
      id := ← readField requireIdentifier root place "id"
      designGateRevision := ← readField requireSha256 root place "design_gate_revision" }

/-! ## The fields that the relation layer reads -/

def texts (fields : List (String × Identifier)) : Json := .obj (fields.map fun f => (lit f.1, .str f.2.val))

def negativeTests (tests : List NegativeBinding) : Json :=
  .arr (tests.map fun x => texts [("owner_id", x.ownerId), ("id", x.id)])

def artifacts (records : List LaneArtifact) : Json :=
  .arr (records.map fun x => texts [("lane_id", x.laneId), ("artifact_type", x.artifactType)])

def LedgerEntities.record (e : LedgerEntities) : Json :=
  .obj [
    (lit "judge_ids", .arr (e.judgeIds.map fun x => .str x.val)),
    (lit "obligation_to_judge", .arr (e.obligationToJudge.map fun x =>
      texts [("obligation_id", x.obligationId), ("judge_id", x.judgeId)])),
    (lit "evidence_bundles", .arr (e.evidenceBundles.map fun x => texts [("id", x.id), ("lane_id", x.laneId)])),
    (lit "evidence_source_ids", .arr (e.evidenceSourceIds.map fun x => .str x.val)),
    (lit "evidence_bundle_memberships", .arr (e.evidenceBundleMemberships.map fun x =>
      texts [("bundle_id", x.bundleId), ("evidence_source_id", x.evidenceSourceId)])),
    (lit "lane_contexts", artifacts e.laneContexts),
    (lit "post_gate_outputs", artifacts e.postGateOutputs),
    (lit "gates", .arr (e.gates.map fun x => texts [("lane_id", x.laneId), ("gate_id", x.gateId)])),
    (lit "obligation_gate_pairs", .arr (e.obligationGatePairs.map fun x =>
      texts [("lane_id", x.laneId), ("obligation_id", x.obligationId), ("gate_id", x.gateId)])),
    (lit "judge_negative_tests", negativeTests e.judgeNegativeTests),
    (lit "aggregate_negative_tests", negativeTests e.aggregateNegativeTests),
    (lit "plumbing_negative_tests", negativeTests e.plumbingNegativeTests)]

def Cardinality.record : Cardinality → Json
  | .count n => .int n.val
  | .counts ns => .arr (ns.map fun n => .int n.val)

/-- The value as its attributes show it. -/
def Value.record (v : Value) : Json :=
  .obj [
    (lit "cardinalities", .obj (v.cardinalities.map fun c => (lit c.1, c.2.record))),
    (lit "entities", v.entities.record)]

end TurnVector.TraceabilityLedger
