import TurnVector.Errors

/-! # Compile limits

Checked u64 arithmetic and the frozen vector of `compile_limits.py`.
-/

namespace TurnVector

open Python

def u64Max : Nat := 2 ^ 64 - 1

/-- `checked_nonnegative_u64`. A value of this type is neither a bool nor negative. -/
def checkedNonnegativeU64 (value : Nat) (place : Str) : Except Exc Unit :=
  if value ≤ u64Max then .ok () else .error (.contractError (place ++ lit " exceeds the u64 range"))

/-- `checked_add` -/
def checkedAdd (left right : Nat) (place : Str) : Except Exc Nat := do
  checkedNonnegativeU64 left place
  checkedNonnegativeU64 right place
  if left + right ≤ u64Max then return left + right
  throw (.contractError (place ++ lit " overflows u64"))

/-- `checked_mul` -/
def checkedMul (left right : Nat) (place : Str) : Except Exc Nat := do
  checkedNonnegativeU64 left place
  checkedNonnegativeU64 right place
  if left = 0 ∨ right = 0 then return 0
  if left ≤ u64Max / right then return left * right
  throw (.contractError (place ++ lit " overflows u64"))

theorem checkedNonnegativeU64_ok (value : Nat) (place : Str) :
    checkedNonnegativeU64 value place = .ok () ↔ value ≤ u64Max := by
  unfold checkedNonnegativeU64
  split <;> simp [*]

theorem checkedAdd_ok (left right n : Nat) (place : Str) :
    checkedAdd left right place = .ok n ↔ n = left + right ∧ left + right ≤ u64Max := by
  unfold checkedAdd
  rw [then_ok_iff, then_ok_iff, checkedNonnegativeU64_ok, checkedNonnegativeU64_ok]
  by_cases h : left + right ≤ u64Max
  · have hl : left ≤ u64Max := by omega
    have hr : right ≤ u64Max := by omega
    simp [h, hl, hr, pure, Except.pure, eq_comm]
  · simp [h]

theorem checkedMul_ok (left right n : Nat) (place : Str) :
    checkedMul left right place = .ok n ↔
      n = left * right ∧ left ≤ u64Max ∧ right ≤ u64Max ∧ left * right ≤ u64Max := by
  unfold checkedMul
  rw [then_ok_iff, then_ok_iff, checkedNonnegativeU64_ok, checkedNonnegativeU64_ok]
  by_cases hz : left = 0 ∨ right = 0
  · have hm : left * right = 0 := by simpa using hz
    rw [if_pos hz, hm]
    simp only [pure, Except.pure, Except.ok.injEq, Nat.zero_le, and_true]
    constructor
    · rintro ⟨hl, hr, rfl⟩
      exact ⟨rfl, hl, hr⟩
    · rintro ⟨rfl, hl, hr⟩
      exact ⟨hl, hr, rfl⟩
  · have hr : 0 < right := by omega
    rw [if_neg hz]
    simp only [Nat.le_div_iff_mul_le hr]
    by_cases h : left * right ≤ u64Max
    · simp [h, pure, Except.pure, eq_comm, and_comm, and_left_comm]
    · simp [h]

/-- `CompileLimits`: the defaults are the frozen values. -/
structure CompileLimits where
  authorityFileCountMax : Nat := 256
  authorityFileBytesMax : Nat := 4194304
  authorityTotalBytesMax : Nat := 67108864
  authoritySectionCountMax : Nat := 1024
  authoritySectionBytesTotalMax : Nat := 33554432
  serializedInputBytesTotalMax : Nat := 16777216
  catalogRecordCountMax : Nat := 512
  casePlanCountMax : Nat := 4096
  obligationCountMax : Nat := 256
  judgeCountMax : Nat := 256
  evidenceBundleCountMax : Nat := 64
  evidenceSourceCountMax : Nat := 256
  gateCountMax : Nat := 256
  negativeTestClassCountMax : Nat := 256
  pathCountMax : Nat := 32768
  pathsPerObligationMax : Nat := 1024
  evidenceMembersPerBundleOrPathMax : Nat := 16
  contextArtifactsPerLaneMax : Nat := 2
  postGateOutputsPerLaneMax : Nat := 2
  pathsPerCaseMax : Nat := 32
  pathsPerGateMax : Nat := 512
  judgeNegativeTestsPerPathMax : Nat := 1
  aggregateNegativeTestsPerGateMax : Nat := 1
  plumbingNegativeTestsPerGateMax : Nat := 1
  authorityHashBufferMax : Nat := 65536
  largestSingleSerializedParserInputMax : Nat := 4194304
  logicalRetainedIndexArenaMax : Nat := 33554432
  outputStreamingChunkMax : Nat := 65536
  coveragePlanOrFailureMax : Nat := 33554432
  perReceiptMax : Nat := 65536
  custodyDomainRecordMax : Nat := 32768
  custodyRegistryGenesisMax : Nat := 32768
  custodyRegistryBindingEventMax : Nat := 16384
  compileChronologyGenesisMax : Nat := 32768
  compileChronologyEventMax : Nat := 16384
  custodyEventStagingFileMax : Nat := 16384
  attemptObjectStagingDirectoryMax : Nat := 33619968
  interruptionQuarantineMax : Nat := 33619968
  tMax : Nat := 8
  executionClosureRecordCountMax : Nat := 4096
  executionClosureFileBytesMax : Nat := 83886080
  executionClosurePathBytesMax : Nat := 4096
  executionClosurePathBytesTotalMax : Nat := 16777216
  executionClosureSymlinkTargetBytesMax : Nat := 4096
  executionClosureSymlinkTargetBytesTotalMax : Nat := 16777216
  executionClosureLoadedImageCountMax : Nat := 512
  executionClosureLoadedImagePathBytesMax : Nat := 4096
  executionClosureLoadedImagePathBytesTotalMax : Nat := 2097152
  canonicalDirectoryEntryCountMax : Nat := 4096
  canonicalDirectoryNameBytesMax : Nat := 4194304
  canonicalDirectorySortIndexBytesMax : Nat := 65536
  repositoryControlEntryCountMax : Nat := 32768
  repositoryControlPathBytesMax : Nat := 4096
  repositoryControlPathBytesTotalMax : Nat := 134217728
  repositoryControlFileBytesMax : Nat := 4194304
  repositoryControlFileBytesTotalMax : Nat := 33554432
  repositoryControlConfigBytesTotalMax : Nat := 1048576
  repositoryControlIgnoreFileCountMax : Nat := 256
  repositoryControlIgnoreFileBytesMax : Nat := 1048576
  repositoryControlIgnoreBytesTotalMax : Nat := 4194304
  repositoryControlGitPathRecordCountMax : Nat := 32768
  repositoryControlGitOutputBytesMax : Nat := 134217728
  repositoryControlGitOutputBytesOtherMax : Nat := 4194304
  repositoryControlGitStderrBytesMax : Nat := 1048576
  repositoryControlGitTimeoutSeconds : Nat := 60
  authorityChildStdoutBytesMax : Nat := 33652736
  authorityChildStderrBytesMax : Nat := 1048576
  authorityChildTimeoutSeconds : Nat := 600

/-- `CompileLimits.frozen` -/
def CompileLimits.frozen : CompileLimits := {}

end TurnVector
