import TurnVector.Python.Text

/-! # The failure algebra

The 48 variants of `contract_failure.py`. The position of a variant is its stage.
-/

namespace TurnVector

open Python

inductive Variant where
  | authorityInvalidCanonicalJson
  | authorityUnknownField
  | authorityDuplicateKey
  | authorityInvalidIdentifier
  | authorityDuplicateIdentifier
  | authorityOrderViolation
  | authorityAbsolutePath
  | authorityPathTraversal
  | authoritySymlink
  | authorityNonRegularFile
  | authorityMissingSource
  | authorityMissingHistoricalObject
  | authorityRepositoryMismatch
  | authorityRevisionMismatch
  | authorityDirtyRepository
  | authorityFileDigestMismatch
  | authorityInvalidSectionRange
  | authoritySectionDigestMismatch
  | authorityRepositoryControlUnsupported
  | catalogDigestMismatch
  | catalogGateRevisionMismatch
  | catalogLineageMismatch
  | catalogPredecessorMismatch
  | catalogRecordLimitExceeded
  | catalogOrphanSource
  | catalogInvalidStatus
  | expectationDigestMismatch
  | traceabilityDigestMismatch
  | traceabilityUnknownEntity
  | traceabilityDuplicateEntity
  | traceabilityOrphanObligation
  | traceabilityOrphanCase
  | traceabilityOrphanJudge
  | traceabilityOrphanBundle
  | traceabilityOrphanGate
  | traceabilityOrphanEvidence
  | traceabilityRelationMismatch
  | traceabilityDegreeCapExceeded
  | traceabilityEmptyRequiredSet
  | traceabilityNegativeTestCoverageMissing
  | resourceCheckedArithmeticOverflow
  | resourcePlatformSizeOverflow
  | resourceSourceCapExceeded
  | resourceSectionCapExceeded
  | resourceInputCapExceeded
  | resourceIndexCapExceeded
  | resourceOutputCapExceeded
  | resourceAllocationFailed
  deriving DecidableEq

namespace Variant

/-- `CONTRACT_FAILURE_VARIANTS` -/
def all : List Variant :=
  [.authorityInvalidCanonicalJson, .authorityUnknownField, .authorityDuplicateKey, .authorityInvalidIdentifier,
   .authorityDuplicateIdentifier, .authorityOrderViolation, .authorityAbsolutePath, .authorityPathTraversal,
   .authoritySymlink, .authorityNonRegularFile, .authorityMissingSource, .authorityMissingHistoricalObject,
   .authorityRepositoryMismatch, .authorityRevisionMismatch, .authorityDirtyRepository,
   .authorityFileDigestMismatch, .authorityInvalidSectionRange, .authoritySectionDigestMismatch,
   .authorityRepositoryControlUnsupported, .catalogDigestMismatch, .catalogGateRevisionMismatch,
   .catalogLineageMismatch, .catalogPredecessorMismatch, .catalogRecordLimitExceeded, .catalogOrphanSource,
   .catalogInvalidStatus, .expectationDigestMismatch, .traceabilityDigestMismatch, .traceabilityUnknownEntity,
   .traceabilityDuplicateEntity, .traceabilityOrphanObligation, .traceabilityOrphanCase,
   .traceabilityOrphanJudge, .traceabilityOrphanBundle, .traceabilityOrphanGate, .traceabilityOrphanEvidence,
   .traceabilityRelationMismatch, .traceabilityDegreeCapExceeded, .traceabilityEmptyRequiredSet,
   .traceabilityNegativeTestCoverageMissing, .resourceCheckedArithmeticOverflow, .resourcePlatformSizeOverflow,
   .resourceSourceCapExceeded, .resourceSectionCapExceeded, .resourceInputCapExceeded,
   .resourceIndexCapExceeded, .resourceOutputCapExceeded, .resourceAllocationFailed]

/-- The public ordinal, counted from one. -/
def stage (v : Variant) : Nat := all.idxOf v + 1

/-- The variant as the source writes it. -/
def text : Variant → Str
  | .authorityInvalidCanonicalJson => lit "authority_invalid_canonical_json"
  | .authorityUnknownField => lit "authority_unknown_field"
  | .authorityDuplicateKey => lit "authority_duplicate_key"
  | .authorityInvalidIdentifier => lit "authority_invalid_identifier"
  | .authorityDuplicateIdentifier => lit "authority_duplicate_identifier"
  | .authorityOrderViolation => lit "authority_order_violation"
  | .authorityAbsolutePath => lit "authority_absolute_path"
  | .authorityPathTraversal => lit "authority_path_traversal"
  | .authoritySymlink => lit "authority_symlink"
  | .authorityNonRegularFile => lit "authority_non_regular_file"
  | .authorityMissingSource => lit "authority_missing_source"
  | .authorityMissingHistoricalObject => lit "authority_missing_historical_object"
  | .authorityRepositoryMismatch => lit "authority_repository_mismatch"
  | .authorityRevisionMismatch => lit "authority_revision_mismatch"
  | .authorityDirtyRepository => lit "authority_dirty_repository"
  | .authorityFileDigestMismatch => lit "authority_file_digest_mismatch"
  | .authorityInvalidSectionRange => lit "authority_invalid_section_range"
  | .authoritySectionDigestMismatch => lit "authority_section_digest_mismatch"
  | .authorityRepositoryControlUnsupported => lit "authority_repository_control_unsupported"
  | .catalogDigestMismatch => lit "catalog_digest_mismatch"
  | .catalogGateRevisionMismatch => lit "catalog_gate_revision_mismatch"
  | .catalogLineageMismatch => lit "catalog_lineage_mismatch"
  | .catalogPredecessorMismatch => lit "catalog_predecessor_mismatch"
  | .catalogRecordLimitExceeded => lit "catalog_record_limit_exceeded"
  | .catalogOrphanSource => lit "catalog_orphan_source"
  | .catalogInvalidStatus => lit "catalog_invalid_status"
  | .expectationDigestMismatch => lit "expectation_digest_mismatch"
  | .traceabilityDigestMismatch => lit "traceability_digest_mismatch"
  | .traceabilityUnknownEntity => lit "traceability_unknown_entity"
  | .traceabilityDuplicateEntity => lit "traceability_duplicate_entity"
  | .traceabilityOrphanObligation => lit "traceability_orphan_obligation"
  | .traceabilityOrphanCase => lit "traceability_orphan_case"
  | .traceabilityOrphanJudge => lit "traceability_orphan_judge"
  | .traceabilityOrphanBundle => lit "traceability_orphan_bundle"
  | .traceabilityOrphanGate => lit "traceability_orphan_gate"
  | .traceabilityOrphanEvidence => lit "traceability_orphan_evidence"
  | .traceabilityRelationMismatch => lit "traceability_relation_mismatch"
  | .traceabilityDegreeCapExceeded => lit "traceability_degree_cap_exceeded"
  | .traceabilityEmptyRequiredSet => lit "traceability_empty_required_set"
  | .traceabilityNegativeTestCoverageMissing => lit "traceability_negative_test_coverage_missing"
  | .resourceCheckedArithmeticOverflow => lit "resource_checked_arithmetic_overflow"
  | .resourcePlatformSizeOverflow => lit "resource_platform_size_overflow"
  | .resourceSourceCapExceeded => lit "resource_source_cap_exceeded"
  | .resourceSectionCapExceeded => lit "resource_section_cap_exceeded"
  | .resourceInputCapExceeded => lit "resource_input_cap_exceeded"
  | .resourceIndexCapExceeded => lit "resource_index_cap_exceeded"
  | .resourceOutputCapExceeded => lit "resource_output_cap_exceeded"
  | .resourceAllocationFailed => lit "resource_allocation_failed"

end Variant

/-- `Accounting`: the resources that a failure reports. -/
structure Accounting where
  authorityFileCount : Nat := 0
  authorityByteCount : Nat := 0
  sectionCount : Nat := 0
  sectionByteCount : Nat := 0
  serializedInputByteCount : Nat := 0
  catalogRecordCount : Nat := 0
  entityCount : Nat := 0
  relationRecordCount : Nat := 0
  endpointReferenceCount : Nat := 0
  pathCount : Nat := 0
  logicalArenaByteCount : Nat := 0
  outputByteCountAttempted : Nat := 0
  deriving DecidableEq

/-- `_StageFailure` -/
structure StageFailure where
  variant : Variant
  pointers : List Str
  accounting : Accounting
  deriving DecidableEq

end TurnVector
