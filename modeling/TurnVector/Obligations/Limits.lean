import TurnVector.Obligations.Sources

/-! # Limits only restrict

What is accepted under lower limits is accepted under higher ones, with the same result.
-/

namespace TurnVector

/-- The values of all fields, in their order. -/
def CompileLimits.fields (l : CompileLimits) : List Nat :=
  [l.authorityFileCountMax, l.authorityFileBytesMax, l.authorityTotalBytesMax, l.authoritySectionCountMax,
    l.authoritySectionBytesTotalMax, l.serializedInputBytesTotalMax, l.catalogRecordCountMax, l.casePlanCountMax,
    l.obligationCountMax, l.judgeCountMax, l.evidenceBundleCountMax, l.evidenceSourceCountMax, l.gateCountMax,
    l.negativeTestClassCountMax, l.pathCountMax, l.pathsPerObligationMax, l.evidenceMembersPerBundleOrPathMax,
    l.contextArtifactsPerLaneMax, l.postGateOutputsPerLaneMax, l.pathsPerCaseMax, l.pathsPerGateMax,
    l.judgeNegativeTestsPerPathMax, l.aggregateNegativeTestsPerGateMax, l.plumbingNegativeTestsPerGateMax,
    l.authorityHashBufferMax, l.largestSingleSerializedParserInputMax, l.logicalRetainedIndexArenaMax,
    l.outputStreamingChunkMax, l.coveragePlanOrFailureMax, l.perReceiptMax, l.custodyDomainRecordMax,
    l.custodyRegistryGenesisMax, l.custodyRegistryBindingEventMax, l.compileChronologyGenesisMax,
    l.compileChronologyEventMax, l.custodyEventStagingFileMax, l.attemptObjectStagingDirectoryMax,
    l.interruptionQuarantineMax, l.tMax, l.executionClosureRecordCountMax, l.executionClosureFileBytesMax,
    l.executionClosurePathBytesMax, l.executionClosurePathBytesTotalMax, l.executionClosureSymlinkTargetBytesMax,
    l.executionClosureSymlinkTargetBytesTotalMax, l.executionClosureLoadedImageCountMax,
    l.executionClosureLoadedImagePathBytesMax, l.executionClosureLoadedImagePathBytesTotalMax,
    l.canonicalDirectoryEntryCountMax, l.canonicalDirectoryNameBytesMax, l.canonicalDirectorySortIndexBytesMax,
    l.repositoryControlEntryCountMax, l.repositoryControlPathBytesMax, l.repositoryControlPathBytesTotalMax,
    l.repositoryControlFileBytesMax, l.repositoryControlFileBytesTotalMax, l.repositoryControlConfigBytesTotalMax,
    l.repositoryControlIgnoreFileCountMax, l.repositoryControlIgnoreFileBytesMax,
    l.repositoryControlIgnoreBytesTotalMax, l.repositoryControlGitPathRecordCountMax,
    l.repositoryControlGitOutputBytesMax, l.repositoryControlGitOutputBytesOtherMax,
    l.repositoryControlGitStderrBytesMax, l.repositoryControlGitTimeoutSeconds, l.authorityChildStdoutBytesMax,
    l.authorityChildStderrBytesMax, l.authorityChildTimeoutSeconds]

/-- Field by field. -/
instance : LE CompileLimits := ⟨fun a b => List.Forall₂ (· ≤ ·) a.fields b.fields⟩

namespace Obligations

open Python Canonical Effects

/-- The caps of the loader. -/
theorem catalog_caps {a b : CompileLimits} (h : a ≤ b) :
    a.largestSingleSerializedParserInputMax ≤ b.largestSingleSerializedParserInputMax ∧
      a.serializedInputBytesTotalMax ≤ b.serializedInputBytesTotalMax ∧
      a.catalogRecordCountMax ≤ b.catalogRecordCountMax ∧ a.obligationCountMax ≤ b.obligationCountMax := by
  change List.Forall₂ (· ≤ ·) a.fields b.fields at h
  simp only [CompileLimits.fields, List.forall₂_cons] at h
  omega

/-- The caps of the verifier. -/
structure SourceCaps (a b : CompileLimits) : Prop where
  paths : a.pathCountMax ≤ b.pathCountMax
  pathBytes : a.executionClosurePathBytesMax ≤ b.executionClosurePathBytesMax
  pathBytesTotal : a.executionClosurePathBytesTotalMax ≤ b.executionClosurePathBytesTotalMax
  fileBytes : a.authorityFileBytesMax ≤ b.authorityFileBytesMax
  hashBuffer : a.authorityHashBufferMax ≤ b.authorityHashBufferMax
  bytesTotal : a.authorityTotalBytesMax ≤ b.authorityTotalBytesMax
  files : a.authorityFileCountMax ≤ b.authorityFileCountMax
  sections : a.authoritySectionCountMax ≤ b.authoritySectionCountMax
  sectionBytes : a.authoritySectionBytesTotalMax ≤ b.authoritySectionBytesTotalMax

theorem source_caps {a b : CompileLimits} (h : a ≤ b) : SourceCaps a b := by
  change List.Forall₂ (· ≤ ·) a.fields b.fields at h
  simp only [CompileLimits.fields, List.forall₂_cons] at h
  constructor <;> omega

/-! ## Records -/

theorem parseLines_limit (what : Str) (limit : Int) (lines : List Bytes) (index : Nat) (records : List Json)
    (hindex : index ≤ limit) :
    parseLines what (some limit) index lines = .ok records ↔
      parseLines what none index lines = .ok records ∧ index + records.length ≤ limit := by
  induction lines generalizing index records with
  | nil =>
    simp only [parseLines, Except.ok.injEq]
    constructor
    · rintro rfl
      exact ⟨rfl, by simpa using hindex⟩
    · exact And.left
  | cons line lines ih =>
    by_cases hline : line = []
    · simp [parseLines, hline]
    simp only [parseLines, if_neg hline, Option.any_some, Option.any_none, Bool.false_eq_true, if_false,
      decide_eq_true_eq]
    by_cases hlimit : limit ≤ index
    · rw [if_pos hlimit]
      simp only [reduceCtorEq, false_iff, not_and]
      intro h
      obtain ⟨record, -, h⟩ := bind_ok_iff.mp h
      obtain ⟨rest, -, h⟩ := bind_ok_iff.mp h
      cases h
      rw [List.length_cons]
      omega
    · rw [if_neg hlimit]
      simp only [bind_ok_iff, pure, Except.pure, Except.ok.injEq]
      constructor
      · rintro ⟨record, hrecord, rest, hrest, rfl⟩
        obtain ⟨hnone, hlength⟩ := (ih (index + 1) rest (by omega)).mp hrest
        refine ⟨⟨record, hrecord, rest, hnone, rfl⟩, ?_⟩
        rw [List.length_cons]
        omega
      · rintro ⟨⟨record, hrecord, rest, hrest, rfl⟩, hlength⟩
        rw [List.length_cons] at hlength
        exact ⟨record, hrecord, rest, (ih (index + 1) rest (by omega)).mpr ⟨hrest, by omega⟩, rfl⟩

/-- A limit of records refuses longer inputs, and nothing else. -/
theorem parse_limit (raw : Bytes) (what : Str) (limit : Int) (records : List Json) (hlimit : 0 ≤ limit) :
    parseCanonicalJsonlRecords raw what (some limit) = .ok records ↔
      parseCanonicalJsonlRecords raw what none = .ok records ∧ records.length ≤ limit := by
  have hnegative : ¬ limit < 0 := by omega
  simp only [parseCanonicalJsonlRecords, Option.any_some, Option.any_none, decide_eq_true_eq, if_neg hnegative,
    Bool.false_eq_true, if_false]
  split
  · simp
  split
  · simp
  split
  · simp
  simp only [bind_ok_iff, parseLines_limit what limit _ 0 _ (by simpa using hlimit)]
  constructor
  · rintro ⟨found, ⟨hnone, hlength⟩, h⟩
    split at h
    · rename_i hrest
      obtain rfl : found = records := Except.ok.inj h
      exact ⟨⟨found, hnone, by rw [if_pos hrest]; rfl⟩, by simpa using hlength⟩
    · cases h
  · rintro ⟨⟨found, hnone, h⟩, hlength⟩
    split at h
    · rename_i hrest
      obtain rfl : found = records := Except.ok.inj h
      exact ⟨found, ⟨hnone, by simpa using hlength⟩, by rw [if_pos hrest]; rfl⟩
    · cases h

theorem parse_restricts (raw : Bytes) (what : Str) {low high : Nat} (h : low ≤ high) :
    Restricts (parseCanonicalJsonlRecords raw what (some low)) (parseCanonicalJsonlRecords raw what (some high)) := by
  intro records hlow
  obtain ⟨hnone, hlength⟩ := (parse_limit raw what low records (by omega)).mp hlow
  exact (parse_limit raw what high records (by omega)).mpr ⟨hnone, by omega⟩

/-! ## Files -/

theorem closing_restricts {α : Type} {x y : Except Exc α} (closed : Except Exc Unit) (h : Restricts x y) :
    Restricts (closing x closed) (closing y closed) := by
  intro a ha
  cases x with
  | error e => cases ha
  | ok b =>
    rw [h b rfl]
    exact ha

/-- What is done with what was read. -/
theorem chunks_restricts {α : Type} {reads : Nat → Nat} {low high remaining : Nat} {content : Bytes} {text : Str}
    (f : Bytes → Except Exc α) (h : low ≤ high) :
    Restricts
      (match readChunks reads low remaining content with
        | none => refuse text
        | some raw => f raw)
      (match readChunks reads high remaining content with
        | none => refuse text
        | some raw => f raw) := by
  cases hlow : readChunks reads low remaining content with
  | none => exact .error _ _
  | some raw =>
    rw [readChunks_grow h hlow]
    exact .refl _

theorem read_restricts (file : FileSteps) (path place : Str) {low high : Nat} (h : low ≤ high) :
    Restricts (readNoFollowRegular file path low place) (readNoFollowRegular file path high place) := by
  unfold readNoFollowRegular
  refine .after _ fun found => ?_
  refine .after _ fun _ => .after _ fun opened => closing_restricts _ ?_
  refine .after _ fun before => .after _ fun _ => .after _ fun _ => ?_
  exact .bind (.cap _ _ _ _ _ h) fun _ => .refl _

theorem load_restricts (sha256 : Bytes → Str) (file : CatalogFile) {a b : CompileLimits} (h : a ≤ b) :
    Restricts (loadObligationCatalog sha256 file (some a)) (loadObligationCatalog sha256 file (some b)) := by
  obtain ⟨hinput, htotal, hrecords, hobligations⟩ := catalog_caps h
  unfold loadObligationCatalog
  refine .bind (read_restricts _ _ _ hinput) fun raw => ?_
  refine .bind (.cap _ _ _ _ _ htotal) fun _ => ?_
  refine .bind (parse_restricts raw _ hrecords) fun records => ?_
  refine .after _ fun _ => .bind (.cap _ _ _ _ _ hrecords) fun _ => ?_
  refine .after _ fun header => .after _ fun _ => .after _ fun obligations => ?_
  exact .bind (.cap _ _ _ _ _ hobligations) fun _ => .refl _

/-! ## Sources -/

section Passes

variable (sha256 : Bytes → Str) (steps : SourceSteps) {a b : CompileLimits}

theorem hashFile_restricts (file : OpenFile) (place : Str) {low high buffer buffer' : Nat} (hsize : low ≤ high)
    (hbuffer : buffer ≤ buffer') :
    Restricts (hashFile sha256 file low buffer place) (hashFile sha256 file high buffer' place) := by
  unfold hashFile
  refine .after _ fun before => .after _ fun _ => .bind (.cap _ _ _ _ _ hsize) fun _ => ?_
  exact chunks_restricts _ hbuffer

theorem hashRange_restricts (file : OpenFile) (start stop : Int) (expected : FileIdentity) (place : Str)
    {buffer buffer' : Nat} (hbuffer : buffer ≤ buffer') :
    Restricts (hashRange sha256 file start stop expected buffer place)
      (hashRange sha256 file start stop expected buffer' place) := by
  unfold hashRange
  refine .after _ fun before => .after _ fun _ => .after _ fun _ => .after _ fun _ => ?_
  exact chunks_restricts _ hbuffer

theorem addPath_restricts (hcaps : SourceCaps a b) (total : Nat) (path : Str) :
    Restricts (addPath a total path) (addPath b total path) := by
  unfold addPath
  refine .after _ fun length => .bind (.cap _ _ _ _ _ hcaps.pathBytes) fun _ => .after _ fun sum => ?_
  exact .bind (.cap _ _ _ _ _ hcaps.pathBytesTotal) fun _ => .refl _

theorem hashSource_restricts (hcaps : SourceCaps a b) (obligations : List ObligationRecord) (hashed : Hashed)
    (path : Str) :
    Restricts (hashSource sha256 steps a obligations hashed path)
      (hashSource sha256 steps b obligations hashed path) := by
  unfold hashSource
  refine .after _ fun _ => ?_
  refine .bind (closing_restricts _ (hashFile_restricts sha256 _ _ hcaps.fileBytes hcaps.hashBuffer)) fun read => ?_
  refine .after _ fun total => .bind (.cap _ _ _ _ _ hcaps.bytesTotal) fun _ => ?_
  exact .bind (.cap _ _ _ _ _ hcaps.files) fun _ => .refl _

theorem hashSection_restricts (hcaps : SourceCaps a b) (identities : List (Str × FileIdentity))
    (sectioned : Sectioned) (entry : ObligationRecord × Nat) :
    Restricts (hashSection sha256 steps a identities sectioned entry)
      (hashSection sha256 steps b identities sectioned entry) := by
  unfold hashSection
  refine .after _ fun identity => .after _ fun _ => .after _ fun _ => ?_
  refine .bind (.cap _ _ _ _ _ hcaps.sections) fun _ => .after _ fun total => ?_
  refine .bind (.cap _ _ _ _ _ hcaps.sectionBytes) fun _ => .after _ fun _ => ?_
  exact .bind (closing_restricts _ (hashRange_restricts sha256 _ _ _ _ _ hcaps.hashBuffer)) fun _ => .refl _

theorem verify_restricts (h : a ≤ b) (catalog : ObligationCatalog) (root : Str) :
    Restricts (verifyObligationSources sha256 steps catalog root (some a))
      (verifyObligationSources sha256 steps catalog root (some b)) := by
  have hcaps := source_caps h
  unfold verifyObligationSources
  refine .after _ fun identity => closing_restricts _ ?_
  unfold verifyBelow
  refine .bind (.cap _ _ _ _ _ hcaps.paths) fun _ => ?_
  refine .bind (.foldlM _ (fun total path _ => addPath_restricts hcaps total path) 0) fun _ => ?_
  refine .bind (.foldlM _ (fun hashed path _ => hashSource_restricts sha256 steps hcaps _ hashed path) _) ?_
  refine fun hashed => .bind (.foldlM _ (fun sectioned entry _ => ?_) _) fun _ => .refl _
  exact hashSection_restricts sha256 steps hcaps _ sectioned entry

end Passes

/-- A limit of records refuses longer inputs only. What the loader or the verifier accepts under some limits it accepts
under any that are as high in every field, with the same result. -/
theorem limits_only_restrict (n : Int) (hn : 1 ≤ n) (a b : CompileLimits) (hab : a ≤ b) :
    (∀ (raw : Bytes) (what : Str) (records : List Json),
      parseCanonicalJsonlRecords raw what (some n) = .ok records ↔
        parseCanonicalJsonlRecords raw what none = .ok records ∧ records.length ≤ n) ∧
    (∀ (sha256 : Bytes → Str) (file : CatalogFile) (catalog : ObligationCatalog),
      loadObligationCatalog sha256 file (some a) = .ok catalog →
        loadObligationCatalog sha256 file (some b) = .ok catalog) ∧
    ∀ (sha256 : Bytes → Str) (steps : SourceSteps) (catalog : ObligationCatalog) (root : Str)
      (verification : SourceVerification),
      verifyObligationSources sha256 steps catalog root (some a) = .ok verification →
        verifyObligationSources sha256 steps catalog root (some b) = .ok verification := by
  refine ⟨fun raw what records => parse_limit raw what n records (by omega), ?_, ?_⟩
  · exact fun sha256 file catalog => load_restricts sha256 file hab catalog
  · exact fun sha256 steps catalog root verification => verify_restricts sha256 steps hab catalog root verification

/-! ## A source of two bytes -/

theorem isIdentifier_source : isIdentifier (lit "source") = true := by decide

theorem isSha256_ones : isSha256 (List.replicate 64 (cp 49)) = true := by decide

def onesDigest : Sha256 := ⟨List.replicate 64 (cp 49), isSha256_ones⟩

def sourceName : Identifier := ⟨lit "source", isIdentifier_source⟩

def zeroU64 : U64 := ⟨0, Nat.zero_le u64Max⟩

/-- The digest of the two bytes. -/
def sourceDigest : Str := lit "fb8e20fc2e4c3f248c60c39bd652f3c1347298bb977b8b4d5903b85055620603"

def sourceStat : FileStat := ⟨.regular, ⟨1, 3, 2, 0⟩⟩

def sourceFile : OpenFile := ⟨.ok sourceStat, [byte 97, byte 98], fun _ => 0, .ok sourceStat, .ok ()⟩

def sourceSteps : PathSteps := ⟨fun _ => ⟨.ok sourceStat, .ok sourceStat, .ok ()⟩, sourceFile⟩

def rootIdentity : RootIdentity := ⟨1, 2, 501, 20, 16877⟩

def rootStat : FileStat := ⟨.directory, ⟨1, 2, 64, 0⟩⟩

def rootSteps : RootSteps := ⟨.ok (), fun _ => ⟨.ok rootStat, .ok rootStat, .ok ()⟩, .ok rootIdentity⟩

def verificationSteps : SourceSteps where
  root := rootSteps
  firstPass _ := sourceSteps
  secondPass _ := sourceSteps
  reopened := rootSteps
  reopenedClosed := .ok ()
  held := .ok rootIdentity
  rootClosed := .ok ()

def sourceRecord : ObligationRecord where
  id := lit "obligation"
  required := true
  claimClass := lit "class"
  sourcePath := lit "source"
  sourceFileSha256 := sourceDigest
  sectionStart := 0
  sectionEnd := 2
  sectionSha256 := sourceDigest
  moduleIds := [lit "module"]
  seamId := lit "seam"
  observableSeam := lit "seam"
  evidenceGrade := lit "grade"
  invalidationRule := lit "rule"
  laneId := lit "scheduler-policy"
  behaviorCaseId := lit "case"
  readinessStatus := readyStatus
  blockerIds := []
  designGateRevision := onesDigest.val

def sourceCatalog : ObligationCatalog where
  header := {
    schemaVersion := schemaFamily
    id := sourceName
    profileId := catalogProfileId
    lineageId := sourceName
    predecessor := none
    designGateRevision := onesDigest
    sourceReconciliationSha256 := onesDigest
    expectationSha256 := onesDigest
    compileCustodyPolicySha256 := onesDigest
    custodyDomainId := sourceName
    custodyDomainSha256 := onesDigest
    compileCustodyLineageId := compileCustodyLineageId
    tMax := zeroU64
    requiredObligationCount := zeroU64
    recordCount := zeroU64 }
  obligations := [sourceRecord]
  sourcePath := lit "/catalog.jsonl"
  fileSha256 := onesDigest.val
  fileSize := 0

/-- One byte at a time, and one file of two bytes. -/
def narrowLimits : CompileLimits :=
  { CompileLimits.frozen with authorityHashBufferMax := 1, authorityFileCountMax := 1, authorityFileBytesMax := 2 }

theorem narrow_le : narrowLimits ≤ CompileLimits.frozen := by
  change List.Forall₂ (· ≤ ·) narrowLimits.fields CompileLimits.frozen.fields
  decide

theorem read_source : readChunks (fun _ => 0) 1 2 [97, 98] = some [97, 98] := by
  rw [readChunks_eq _ 1 2 _ Nat.one_pos]
  rfl

/-- What is done with the two bytes. -/
theorem read_source_then {α : Type} (text : Str) (f : Bytes → Except Exc α) :
    (match readChunks (fun _ => 0) 1 2 [97, 98] with
      | none => refuse text
      | some raw => f raw) = f [97, 98] := by
  rw [read_source]

theorem hashFile_source (place : Str) :
    hashFile (fun _ => sourceDigest) sourceFile 2 1 place = .ok (sourceDigest, sourceStat.identity) :=
  read_source_then _ fun _ => .ok (sourceDigest, sourceStat.identity)

theorem hashRange_source (place : Str) :
    hashRange (fun _ => sourceDigest) sourceFile 0 2 sourceStat.identity 1 place = .ok sourceDigest :=
  read_source_then _ fun _ => .ok sourceDigest

theorem hashSource_source :
    hashSource (fun _ => sourceDigest) verificationSteps narrowLimits sourceCatalog.obligations ⟨[], 0⟩
      (lit "source") = .ok ⟨[(lit "source", sourceStat.identity)], 2⟩ :=
  bind_ok_iff.mpr ⟨(), rfl, bind_ok_iff.mpr ⟨_, congrArg (closing · (.ok ())) (hashFile_source _), rfl⟩⟩

theorem hashSection_source :
    hashSection (fun _ => sourceDigest) verificationSteps narrowLimits [(lit "source", sourceStat.identity)] ⟨0, 0⟩
      (sourceRecord, 0) = .ok ⟨1, 2⟩ := by
  change (closing (hashRange _ sourceFile 0 2 sourceStat.identity 1 _) (.ok ()) >>= _) = _
  rw [hashRange_source]
  rfl

theorem distinctPaths_source : distinctPaths sourceCatalog.obligations = [lit "source"] := by
  simp [distinctPaths, sourceCatalog, sourceRecord, sorted]

theorem hashed_source :
    [lit "source"].foldlM (hashSource (fun _ => sourceDigest) verificationSteps narrowLimits sourceCatalog.obligations)
      ⟨[], 0⟩ = .ok ⟨[(lit "source", sourceStat.identity)], 2⟩ := by
  rw [List.foldlM_cons, hashSource_source]
  rfl

theorem sectioned_source :
    [(sourceRecord, 0)].foldlM (hashSection (fun _ => sourceDigest) verificationSteps narrowLimits
      [(lit "source", sourceStat.identity)]) ⟨0, 0⟩ = .ok ⟨1, 2⟩ := by
  rw [List.foldlM_cons, hashSection_source]
  rfl

theorem verify_source :
    verifyObligationSources (fun _ => sourceDigest) verificationSteps sourceCatalog (lit "/root")
      (some narrowLimits) = .ok ⟨1, 2, 1, 2, lit "/root", rootIdentity⟩ := by
  have hroot : openCanonicalRoot verificationSteps.root (lit "/root") = .ok rootIdentity := by rfl
  have hbelow : verifyBelow (fun _ => sourceDigest) verificationSteps narrowLimits sourceCatalog.obligations
      (lit "/root") rootIdentity = .ok ⟨1, 2, 1, 2, lit "/root", rootIdentity⟩ := by
    rw [verifyBelow, distinctPaths_source]
    exact bind_ok_iff.mpr ⟨(), rfl, bind_ok_iff.mpr ⟨6, rfl, bind_ok_iff.mpr ⟨_, hashed_source,
      bind_ok_iff.mpr ⟨_, sectioned_source, rfl⟩⟩⟩⟩
  exact bind_ok_iff.mpr ⟨rootIdentity, hroot, congrArg (closing · (.ok ())) hbelow⟩

theorem limits_only_restrict_source :
    parseCanonicalJsonlRecords [123, 125, 10] (lit "catalog") (some 1) = .ok [.obj []] ∧
      verifyObligationSources (fun _ => sourceDigest) verificationSteps sourceCatalog (lit "/root") (some .frozen) =
        .ok ⟨1, 2, 1, 2, lit "/root", rootIdentity⟩ := by
  obtain ⟨hparse, -, hverify⟩ := limits_only_restrict 1 (by decide) narrowLimits .frozen narrow_le
  exact ⟨(hparse _ _ _).mpr ⟨by rfl, by decide⟩, hverify _ _ _ _ _ verify_source⟩

end Obligations

end TurnVector
