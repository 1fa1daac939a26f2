import Mathlib.Algebra.BigOperators.Group.Finset.Basic
import TurnVector.Obligations.Limits
import TurnVector.Obligations.Tree

/-! # What is verified

`verify_obligation_sources` on a tree that stays as it is: what it takes to be verified, and the totals.
-/

namespace TurnVector.Obligations

open Python Canonical Effects

/-- What `__post_init__` of the limits lets through. -/
def ValidLimits : Type := {limits : CompileLimits // (∀ value ∈ limits.fields, 1 ≤ value) ∧ limits ≤ .frozen}

/-- `limits or CompileLimits.frozen()` -/
def givenLimits (limits : Option ValidLimits) : CompileLimits := (limits.map Subtype.val).getD .frozen

/-! ## What is asked of the sources -/

def cited (obligations : List ObligationRecord) : Finset Str := (obligations.map (·.sourcePath)).toFinset

def utf8Length (path : Str) : Nat := ((encodeUtf8 path).getD []).length

/-- The bytes of a half-open range. -/
def rangeOf (content : Bytes) (start stop : Int) : Bytes := (content.drop start.toNat).take (stop - start).toNat

def sectionLength (record : ObligationRecord) : Nat := (record.sectionEnd - record.sectionStart).toNat

section Trees

variable (sha256 : Bytes → Str) (tree : SourceTree)

/-- A nonempty range inside the file, with its digest. -/
structure SectionVerified (record : ObligationRecord) : Prop where
  starts : 0 ≤ record.sectionStart
  nonempty : record.sectionStart < record.sectionEnd
  within : record.sectionEnd ≤ (tree.contentOf record.sourcePath).length
  digest : sha256 (rangeOf (tree.contentOf record.sourcePath) record.sectionStart record.sectionEnd) =
    record.sectionSha256

/-- What is said of the records, and each cap: a file counts once, and a section as often as it is cited. -/
structure Verifiable (limits : CompileLimits) (obligations : List ObligationRecord) : Prop where
  files : ∀ record ∈ obligations, tree.Regular record.sourcePath
  digests : ∀ record ∈ obligations, record.sourceFileSha256 = sha256 (tree.contentOf record.sourcePath)
  sections : ∀ record ∈ obligations, SectionVerified sha256 tree record
  paths : (cited obligations).card ≤ limits.pathCountMax
  encodable : ∀ path ∈ cited obligations, encodeUtf8 path ≠ none
  pathBytes : ∀ path ∈ cited obligations, utf8Length path ≤ limits.executionClosurePathBytesMax
  pathBytesTotal : ∑ path ∈ cited obligations, utf8Length path ≤ limits.executionClosurePathBytesTotalMax
  fileBytes : ∀ path ∈ cited obligations, (tree.contentOf path).length ≤ limits.authorityFileBytesMax
  fileCount : (cited obligations).card ≤ limits.authorityFileCountMax
  bytesTotal : ∑ path ∈ cited obligations, (tree.contentOf path).length ≤ limits.authorityTotalBytesMax
  sectionCount : obligations.length ≤ limits.authoritySectionCountMax
  sectionBytes : (obligations.map sectionLength).sum ≤ limits.authoritySectionBytesTotalMax

def totals (obligations : List ObligationRecord) : SourceVerification where
  pathCount := (cited obligations).card
  sourceBytesTotal := ∑ path ∈ cited obligations, (tree.contentOf path).length
  sectionCount := obligations.length
  sectionBytesTotal := (obligations.map sectionLength).sum
  rootPath := tree.root
  root := tree.identity

end Trees

/-! ## Caps -/

/-- What the verifier relies on. -/
structure Capped (limits : CompileLimits) : Prop where
  buffer : 0 < limits.authorityHashBufferMax
  pathBytesTotal : limits.executionClosurePathBytesTotalMax ≤ u64Max
  bytesTotal : limits.authorityTotalBytesMax ≤ u64Max
  sectionBytes : limits.authoritySectionBytesTotalMax ≤ u64Max

theorem capped_valid (limits : ValidLimits) : Capped limits.val := by
  have hbuffer : 1 ≤ limits.val.authorityHashBufferMax := limits.property.1 _ (by simp [CompileLimits.fields])
  have hcaps := source_caps limits.property.2
  exact ⟨hbuffer, hcaps.pathBytesTotal.trans (by decide), hcaps.bytesTotal.trans (by decide),
    hcaps.sectionBytes.trans (by decide)⟩

theorem capped_given (limits : Option ValidLimits) : Capped (givenLimits limits) := by
  cases limits with
  | none => exact ⟨by decide, by decide, by decide, by decide⟩
  | some limits => exact capped_valid limits

theorem sum_sorted (paths : Finset Str) (f : Str → Nat) : ((sorted paths).map f).sum = ∑ path ∈ paths, f path := by
  rw [← Finset.sum_map_toList]
  exact ((Finset.sort_perm_toList paths _).map f).sum_eq

/-! ## Turns of the loops -/

theorem pathBytes_ok (path : Str) (n : Nat) :
    pathBytes path = .ok n ↔ encodeUtf8 path ≠ none ∧ n = utf8Length path := by
  unfold pathBytes utf8Length
  split
  · simp [*, eq_comm]
  · simp [*]

section Turns

variable {limits : CompileLimits}

theorem addPath_ok (hcapped : Capped limits) (total : Nat) (path : Str) (n : Nat) :
    addPath limits total path = .ok n ↔
      (encodeUtf8 path ≠ none ∧ utf8Length path ≤ limits.executionClosurePathBytesMax) ∧
        total + utf8Length path ≤ limits.executionClosurePathBytesTotalMax ∧ n = total + utf8Length path := by
  have hcap := hcapped.pathBytesTotal
  unfold addPath
  rw [bind_ok_iff]
  simp only [pathBytes_ok, then_ok_iff, atMost_ok]
  constructor
  · rintro ⟨length, ⟨hencoded, rfl⟩, hpath, h⟩
    obtain ⟨sum, hsum, h⟩ := bind_ok_iff.mp h
    obtain ⟨rfl, hu64⟩ := (checkedAdd_ok _ _ _ _).mp hsum
    obtain ⟨htotal, h⟩ := then_ok_iff.mp h
    cases h
    exact ⟨⟨hencoded, hpath⟩, (atMost_ok _ _ _).mp htotal, rfl⟩
  · rintro ⟨⟨hencoded, hpath⟩, htotal, rfl⟩
    refine ⟨_, ⟨hencoded, rfl⟩, hpath, bind_ok_iff.mpr ⟨_, (checkedAdd_ok _ _ _ _).mpr ⟨rfl, by omega⟩, ?_⟩⟩
    exact then_ok_iff.mpr ⟨(atMost_ok _ _ _).mpr htotal, rfl⟩

variable (sha256 : Bytes → Str) (tree : SourceTree) (splits : Splits) (obligations : List ObligationRecord)

/-- What the first pass has read after a path. -/
def Hashed.next (hashed : Hashed) (path : Str) : Hashed :=
  ⟨hashed.identities ++ [(path, tree.identityOf path)], hashed.sourceBytesTotal + (tree.contentOf path).length⟩

def Hashed.Within (limits : CompileLimits) (hashed : Hashed) : Prop :=
  hashed.sourceBytesTotal ≤ limits.authorityTotalBytesMax ∧ hashed.identities.length ≤ limits.authorityFileCountMax

structure SourceVerified (limits : CompileLimits) (path : Str) : Prop where
  regular : tree.Regular path
  fileBytes : (tree.contentOf path).length ≤ limits.authorityFileBytesMax
  digest : ∀ record ∈ obligations, record.sourcePath = path →
    record.sourceFileSha256 = sha256 (tree.contentOf path)

theorem hashSource_ok (hcapped : Capped limits) (hashed : Hashed) (path : Str) (result : Hashed) :
    hashSource sha256 (tree.steps splits obligations) limits obligations hashed path = .ok result ↔
      SourceVerified sha256 tree obligations limits path ∧ (hashed.next tree path).Within limits ∧
        result = hashed.next tree path := by
  have hcap := hcapped.bytesTotal
  have hdigest : ((obligations.filter fun record => record.sourcePath = path).find? fun record =>
      record.sourceFileSha256 ≠ sha256 (tree.contentOf path)) = none ↔
      ∀ record ∈ obligations, record.sourcePath = path → record.sourceFileSha256 = sha256 (tree.contentOf path) := by
    simp [List.find?_eq_none]
  unfold hashSource
  rw [then_ok_iff]
  constructor
  · rintro ⟨hopened, h⟩
    have hregular := (tree.openSourceNoFollow_ok path (splits.firstPass path)).mp hopened
    obtain ⟨⟨digest, identity⟩, hhashed, h⟩ := bind_ok_iff.mp h
    obtain ⟨hsize, hread⟩ := (tree.hashFile_ok sha256 hregular _ _ _ hcapped.buffer _ _).mp hhashed
    obtain ⟨rfl, rfl⟩ := Prod.mk.inj hread
    simp only [tree.size_regular hregular] at h
    obtain ⟨sum, hsum, h⟩ := bind_ok_iff.mp h
    obtain ⟨rfl, hu64⟩ := (checkedAdd_ok _ _ _ _).mp hsum
    obtain ⟨htotal, h⟩ := then_ok_iff.mp h
    obtain ⟨hcount, h⟩ := then_ok_iff.mp h
    split at h
    · cases h
    · rename_i hnone
      cases h
      exact ⟨⟨hregular, hsize, hdigest.mp hnone⟩, ⟨(atMost_ok _ _ _).mp htotal, (atMost_ok _ _ _).mp hcount⟩, rfl⟩
  · rintro ⟨hverified, ⟨htotal, hcount⟩, rfl⟩
    have hregular := hverified.regular
    have hsum : hashed.sourceBytesTotal + (tree.contentOf path).length ≤ limits.authorityTotalBytesMax := htotal
    refine ⟨(tree.openSourceNoFollow_ok path _).mpr hregular, bind_ok_iff.mpr ⟨_,
      (tree.hashFile_ok sha256 hregular _ _ _ hcapped.buffer _ _).mpr ⟨hverified.fileBytes, rfl⟩, ?_⟩⟩
    simp only [tree.size_regular hregular]
    refine bind_ok_iff.mpr ⟨_, (checkedAdd_ok _ _ _ _).mpr ⟨rfl, by omega⟩, ?_⟩
    refine then_ok_iff.mpr ⟨(atMost_ok _ _ _).mpr htotal, then_ok_iff.mpr ⟨(atMost_ok _ _ _).mpr hcount, ?_⟩⟩
    rw [hdigest.mpr hverified.digest]
    rfl

/-- What the second pass has read after a record. -/
def Sectioned.next (sectioned : Sectioned) (record : ObligationRecord) : Sectioned :=
  ⟨sectioned.sectionCount + 1, sectioned.sectionBytesTotal + sectionLength record⟩

def Sectioned.Within (limits : CompileLimits) (sectioned : Sectioned) : Prop :=
  sectioned.sectionCount ≤ limits.authoritySectionCountMax ∧
    sectioned.sectionBytesTotal ≤ limits.authoritySectionBytesTotalMax

theorem hashSection_ok (hcapped : Capped limits) {identities : List (Str × FileIdentity)} {record : ObligationRecord}
    {i : Nat} (hrecord : obligations[i]? = some record) (hregular : tree.Regular record.sourcePath)
    (hidentity : identities.lookup record.sourcePath = some (tree.identityOf record.sourcePath))
    (sectioned result : Sectioned) :
    hashSection sha256 (tree.steps splits obligations) limits identities sectioned (record, i) = .ok result ↔
      SectionVerified sha256 tree record ∧ (sectioned.next record).Within limits ∧
        result = sectioned.next record := by
  have hcap := hcapped.sectionBytes
  have hsteps : (tree.steps splits obligations).secondPass i =
      tree.pathSteps record.sourcePath (splits.secondPass i) := by
    simp [SourceTree.steps, hrecord]
  have hopened := (tree.openSourceNoFollow_ok record.sourcePath (splits.secondPass i)).mpr hregular
  unfold hashSection identityOf
  simp only [hidentity, hsteps]
  rw [bind_ok_iff]
  simp only [Except.ok.injEq, exists_eq_left', then_ok_iff, check_ok, decide_eq_true_eq, atMost_ok,
    tree.size_regular hregular]
  constructor
  · rintro ⟨hnonempty, hstop, hcount, h⟩
    obtain ⟨sum, hsum, h⟩ := bind_ok_iff.mp h
    obtain ⟨rfl, hu64⟩ := (checkedAdd_ok _ _ _ _).mp hsum
    obtain ⟨htotal, h⟩ := then_ok_iff.mp h
    obtain ⟨-, h⟩ := then_ok_iff.mp h
    obtain ⟨digest, hdigest, h⟩ := bind_ok_iff.mp h
    obtain ⟨hstart, rfl⟩ :=
      (tree.hashRange_ok sha256 hregular _ _ _ _ hcapped.buffer hnonempty hstop _ _).mp hdigest
    obtain ⟨hsame, h⟩ := then_ok_iff.mp h
    cases h
    exact ⟨⟨hstart, hnonempty, hstop, of_decide_eq_true ((check_ok _ _).mp hsame)⟩,
      ⟨hcount, (atMost_ok _ _ _).mp htotal⟩, rfl⟩
  · rintro ⟨hverified, ⟨hcount, htotal⟩, rfl⟩
    refine ⟨hverified.nonempty, hverified.within, hcount, ?_⟩
    have hsum : sectioned.sectionBytesTotal + sectionLength record ≤ limits.authoritySectionBytesTotalMax := htotal
    refine bind_ok_iff.mpr ⟨_, (checkedAdd_ok _ _ _ _).mpr ⟨rfl, hsum.trans hcap⟩, ?_⟩
    refine then_ok_iff.mpr ⟨(atMost_ok _ _ _).mpr htotal, then_ok_iff.mpr ⟨hopened, bind_ok_iff.mpr ⟨_,
      (tree.hashRange_ok sha256 hregular _ _ _ _ hcapped.buffer hverified.nonempty hverified.within _ _).mpr
        ⟨hverified.starts, rfl⟩, ?_⟩⟩⟩
    exact then_ok_iff.mpr ⟨(check_ok _ _).mpr (decide_eq_true hverified.digest), rfl⟩

/-! ## Loops -/

theorem addPaths_ok (hcapped : Capped limits) (paths : Finset Str) (n : Nat) :
    (sorted paths).foldlM (addPath limits) 0 = .ok n ↔
      (∀ path ∈ paths, encodeUtf8 path ≠ none ∧ utf8Length path ≤ limits.executionClosurePathBytesMax) ∧
        ∑ path ∈ paths, utf8Length path ≤ limits.executionClosurePathBytesTotalMax ∧
        n = ∑ path ∈ paths, utf8Length path := by
  have hfold : (sorted paths).foldl (fun total path => total + utf8Length path) 0 =
      ∑ path ∈ paths, utf8Length path := by
    rw [← sum_sorted, List.sum_eq_foldl, List.foldl_map]
  rw [foldlM_within (· ≤ limits.executionClosurePathBytesTotalMax) (sorted paths) 0 (Nat.zero_le _)
    (fun total path _ result => addPath_ok hcapped total path result) (fun total path h => by omega), hfold]
  simp only [mem_sorted]

theorem hashed_foldl (paths : List Str) (hashed : Hashed) :
    paths.foldl (Hashed.next tree) hashed =
      ⟨hashed.identities ++ paths.map fun path => (path, tree.identityOf path),
        hashed.sourceBytesTotal + (paths.map fun path => (tree.contentOf path).length).sum⟩ := by
  induction paths generalizing hashed with
  | nil => simp
  | cons path paths ih =>
    rw [List.foldl_cons, ih]
    simp [Hashed.next, Nat.add_assoc]

/-- What the first pass has read at its end. -/
def allHashed (paths : Finset Str) : Hashed :=
  ⟨(sorted paths).map fun path => (path, tree.identityOf path), ∑ path ∈ paths, (tree.contentOf path).length⟩

theorem hashSources_ok (hcapped : Capped limits) (paths : Finset Str) (result : Hashed) :
    (sorted paths).foldlM (hashSource sha256 (tree.steps splits obligations) limits obligations) ⟨[], 0⟩ = .ok result ↔
      (∀ path ∈ paths, SourceVerified sha256 tree obligations limits path) ∧
        (∑ path ∈ paths, (tree.contentOf path).length ≤ limits.authorityTotalBytesMax ∧
          paths.card ≤ limits.authorityFileCountMax) ∧
        result = allHashed tree paths := by
  have hfold : (sorted paths).foldl (Hashed.next tree) ⟨[], 0⟩ = allHashed tree paths := by
    rw [hashed_foldl, allHashed, ← sum_sorted, List.nil_append, Nat.zero_add]
  have hback : ∀ (hashed : Hashed) (path : Str), (hashed.next tree path).Within limits → hashed.Within limits := by
    rintro hashed path ⟨htotal, hcount⟩
    simp only [Hashed.next, List.length_append, List.length_singleton] at htotal hcount
    exact ⟨by omega, by omega⟩
  rw [foldlM_within (Hashed.Within limits) (sorted paths) ⟨[], 0⟩ ⟨Nat.zero_le _, Nat.zero_le _⟩
    (fun hashed path _ result => hashSource_ok sha256 tree splits obligations hcapped hashed path result) hback, hfold]
  simp only [mem_sorted, Hashed.Within, allHashed, List.length_map]
  rw [sorted, Finset.length_sort]

theorem sectioned_foldl (entries : List (ObligationRecord × Nat)) (sectioned : Sectioned) :
    entries.foldl (fun sectioned entry => sectioned.next entry.1) sectioned =
      ⟨sectioned.sectionCount + entries.length,
        sectioned.sectionBytesTotal + (entries.map fun entry => sectionLength entry.1).sum⟩ := by
  induction entries generalizing sectioned with
  | nil => simp
  | cons entry entries ih =>
    rw [List.foldl_cons, ih]
    simp [Sectioned.next, Nat.add_assoc, Nat.add_comm entries.length]

def allSectioned : Sectioned := ⟨obligations.length, (obligations.map sectionLength).sum⟩

theorem lookup_identity (paths : List Str) (path : Str) (h : path ∈ paths) :
    (paths.map fun path => (path, tree.identityOf path)).lookup path = some (tree.identityOf path) := by
  induction paths with
  | nil => cases h
  | cons head paths ih =>
    by_cases hhead : path = head
    · simp [hhead]
    · rw [List.map_cons, List.lookup_cons, beq_false_of_ne hhead]
      exact ih ((List.mem_cons.mp h).resolve_left hhead)

theorem hashSections_ok (hcapped : Capped limits) (hregular : ∀ record ∈ obligations, tree.Regular record.sourcePath)
    (result : Sectioned) :
    obligations.zipIdx.foldlM (hashSection sha256 (tree.steps splits obligations) limits
        (allHashed tree (cited obligations)).identities) ⟨0, 0⟩ = .ok result ↔
      (∀ record ∈ obligations, SectionVerified sha256 tree record) ∧
        (obligations.length ≤ limits.authoritySectionCountMax ∧
          (obligations.map sectionLength).sum ≤ limits.authoritySectionBytesTotalMax) ∧
        result = allSectioned obligations := by
  have hlengths : (obligations.zipIdx.map fun entry => sectionLength entry.1) = obligations.map sectionLength := by
    conv_rhs => rw [← List.zipIdx_map_fst 0 obligations, List.map_map]
    rfl
  have hfold : obligations.zipIdx.foldl (fun sectioned entry => sectioned.next entry.1) ⟨0, 0⟩ =
      allSectioned obligations := by
    rw [sectioned_foldl, hlengths, List.length_zipIdx, Nat.zero_add, Nat.zero_add, allSectioned]
  have hback : ∀ (sectioned : Sectioned) (entry : ObligationRecord × Nat),
      (sectioned.next entry.1).Within limits → sectioned.Within limits := by
    rintro sectioned entry ⟨hcount, htotal⟩
    simp only [Sectioned.next] at hcount htotal
    exact ⟨by omega, by omega⟩
  have hstep : ∀ (sectioned : Sectioned), ∀ entry ∈ obligations.zipIdx, ∀ result,
      hashSection sha256 (tree.steps splits obligations) limits (allHashed tree (cited obligations)).identities
          sectioned entry = .ok result ↔
        SectionVerified sha256 tree entry.1 ∧ (sectioned.next entry.1).Within limits ∧
          result = sectioned.next entry.1 := by
    rintro sectioned ⟨record, i⟩ hentry result
    have hget : obligations[i]? = some record := List.mk_mem_zipIdx_iff_getElem?.mp hentry
    have hrecord : record ∈ obligations := List.mem_of_getElem? hget
    refine hashSection_ok sha256 tree splits obligations hcapped hget (hregular record hrecord) ?_ sectioned result
    refine lookup_identity tree _ _ ((mem_sorted _ _).mpr ?_)
    exact List.mem_toFinset.mpr (List.mem_map_of_mem hrecord)
  rw [foldlM_within (Sectioned.Within limits) obligations.zipIdx ⟨0, 0⟩ ⟨Nat.zero_le _, Nat.zero_le _⟩
    hstep hback, hfold]
  refine and_congr_left fun _ => ?_
  conv_rhs => rw [← List.zipIdx_map_fst 0 obligations, List.forall_mem_map]

/-! ## The verification -/

theorem verifyBelow_ok (hcapped : Capped limits) (result : SourceVerification) :
    verifyBelow sha256 (tree.steps splits obligations) limits obligations tree.root tree.identity = .ok result ↔
      Verifiable sha256 tree limits obligations ∧ result = totals tree obligations := by
  have hrevalidated := tree.revalidateRoot_ok splits obligations
  have hheld : (tree.steps splits obligations).held = .ok tree.identity := rfl
  have hcited : ∀ record ∈ obligations, record.sourcePath ∈ cited obligations := fun record hrecord =>
    List.mem_toFinset.mpr (List.mem_map_of_mem hrecord)
  have hsource : ∀ path ∈ cited obligations, ∃ record ∈ obligations, record.sourcePath = path := fun path hpath =>
    List.mem_map.mp (List.mem_toFinset.mp hpath)
  have hcard : (sorted (cited obligations)).length = (cited obligations).card := Finset.length_sort _
  have hpaths : distinctPaths obligations = sorted (cited obligations) := rfl
  unfold verifyBelow
  simp only [hpaths, hcard]
  constructor
  · intro h
    obtain ⟨hcap, h⟩ := then_ok_iff.mp h
    obtain ⟨n, hbytes, h⟩ := bind_ok_iff.mp h
    obtain ⟨hencoded, hbytesTotal, -⟩ := (addPaths_ok hcapped _ _).mp hbytes
    obtain ⟨hashed, hhashed, h⟩ := bind_ok_iff.mp h
    obtain ⟨hsources, ⟨htotal, hcount⟩, rfl⟩ :=
      (hashSources_ok sha256 tree splits obligations hcapped _ _).mp hhashed
    have hregular : ∀ record ∈ obligations, tree.Regular record.sourcePath := fun record hrecord =>
      (hsources _ (hcited record hrecord)).regular
    obtain ⟨sectioned, hsectioned, h⟩ := bind_ok_iff.mp h
    obtain ⟨hsections, ⟨hsectionCount, hsectionBytes⟩, rfl⟩ :=
      (hashSections_ok sha256 tree splits obligations hcapped hregular _).mp hsectioned
    obtain ⟨-, h⟩ := then_ok_iff.mp h
    obtain ⟨held, -, h⟩ := bind_ok_iff.mp h
    obtain ⟨-, h⟩ := then_ok_iff.mp h
    cases h
    exact ⟨{
      files := hregular
      digests := fun record hrecord => (hsources _ (hcited record hrecord)).digest record hrecord rfl
      sections := hsections
      paths := (atMost_ok _ _ _).mp hcap
      encodable := fun path hpath => (hencoded path hpath).1
      pathBytes := fun path hpath => (hencoded path hpath).2
      pathBytesTotal := hbytesTotal
      fileBytes := fun path hpath => (hsources path hpath).fileBytes
      fileCount := hcount
      bytesTotal := htotal
      sectionCount := hsectionCount
      sectionBytes := hsectionBytes }, rfl⟩
  · rintro ⟨hverifiable, rfl⟩
    have hsources : ∀ path ∈ cited obligations, SourceVerified sha256 tree obligations limits path := by
      intro path hpath
      obtain ⟨record, hrecord, rfl⟩ := hsource path hpath
      refine ⟨hverifiable.files record hrecord, hverifiable.fileBytes _ hpath, fun other hother hsame => ?_⟩
      rw [hverifiable.digests other hother, hsame]
    refine then_ok_iff.mpr ⟨(atMost_ok _ _ _).mpr hverifiable.paths, bind_ok_iff.mpr ⟨_,
      (addPaths_ok hcapped _ _).mpr ⟨fun path hpath => ⟨hverifiable.encodable path hpath,
        hverifiable.pathBytes path hpath⟩, hverifiable.pathBytesTotal, rfl⟩, ?_⟩⟩
    refine bind_ok_iff.mpr ⟨_, (hashSources_ok sha256 tree splits obligations hcapped _ _).mpr
      ⟨hsources, ⟨hverifiable.bytesTotal, hverifiable.fileCount⟩, rfl⟩, ?_⟩
    refine bind_ok_iff.mpr ⟨_, (hashSections_ok sha256 tree splits obligations hcapped hverifiable.files _).mpr
      ⟨hverifiable.sections, ⟨hverifiable.sectionCount, hverifiable.sectionBytes⟩, rfl⟩, ?_⟩
    refine then_ok_iff.mpr ⟨hrevalidated, bind_ok_iff.mpr ⟨_, hheld, then_ok_iff.mpr ⟨?_, rfl⟩⟩⟩
    exact (check_ok _ _).mpr (decide_eq_true rfl)

/-! ## How the reads are split -/

theorem hashSource_splits (hcapped : Capped limits) (other : Splits) :
    hashSource sha256 (tree.steps splits obligations) limits obligations =
      hashSource sha256 (tree.steps other obligations) limits obligations := by
  funext hashed path
  unfold hashSource hashFile
  simp only [readChunks_eq _ _ _ _ hcapped.buffer]
  rfl

theorem hashSection_splits (hcapped : Capped limits) (other : Splits) (identities : List (Str × FileIdentity)) :
    hashSection sha256 (tree.steps splits obligations) limits identities =
      hashSection sha256 (tree.steps other obligations) limits identities := by
  funext sectioned entry
  unfold hashSection hashRange
  simp only [readChunks_eq _ _ _ _ hcapped.buffer]
  rfl

theorem verifyBelow_splits (hcapped : Capped limits) (other : Splits) :
    verifyBelow sha256 (tree.steps splits obligations) limits obligations tree.root tree.identity =
      verifyBelow sha256 (tree.steps other obligations) limits obligations tree.root tree.identity := by
  unfold verifyBelow
  simp only [hashSource_splits sha256 tree splits obligations hcapped other,
    hashSection_splits sha256 tree splits obligations hcapped other]
  rfl

end Turns

/-! ## Refusals -/

/-- Whatever is raised is a `ContractError`. -/
def Refuses {α : Type} (x : Except Exc α) : Prop := ∀ error, x = .error error → ∃ text, error = .contractError text

namespace Refuses

variable {α β : Type}

theorem ok (a : α) : Refuses (.ok a : Except Exc α) := by
  intro error h
  cases h

theorem refuse (text : Str) : Refuses (Obligations.refuse text : Except Exc α) := by
  rintro error ⟨⟩
  exact ⟨text, rfl⟩

theorem check (condition : Bool) (text : Str) : Refuses (Obligations.check condition text) := by
  unfold Obligations.check
  split
  · exact ok ()
  · exact refuse text

theorem atMost (value cap : Nat) (text : Str) : Refuses (Effects.atMost value cap (.contractError text)) := by
  unfold Effects.atMost
  split
  · exact refuse text
  · exact ok ()

theorem bind {x : Except Exc α} {f : α → Except Exc β} (hx : Refuses x) (hf : ∀ a, x = .ok a → Refuses (f a)) :
    Refuses (x >>= f) := by
  intro error h
  cases hvalue : x with
  | error e =>
    rw [hvalue] at h
    cases h
    exact hx _ hvalue
  | ok a =>
    rw [hvalue] at h
    exact hf a hvalue error h

theorem foldlM {f : β → α → Except Exc β} (xs : List α) (h : ∀ b, ∀ x ∈ xs, Refuses (f b x)) (b : β) :
    Refuses (xs.foldlM f b) := by
  induction xs generalizing b with
  | nil => exact ok b
  | cons x xs ih =>
    rw [List.foldlM_cons]
    exact bind (h b x (by simp)) fun c _ => ih (fun b y hy => h b y (by simp [hy])) c

theorem checkedAdd (left right : Nat) (place : Str) : Refuses (TurnVector.checkedAdd left right place) := by
  have hu64 : ∀ value, Refuses (checkedNonnegativeU64 value place) := by
    intro value
    unfold checkedNonnegativeU64
    split
    · exact ok ()
    · exact refuse _
  unfold TurnVector.checkedAdd
  refine bind (hu64 left) fun _ _ => bind (hu64 right) fun _ _ => ?_
  split
  · exact ok _
  · exact refuse _

theorem readChunks (reads : Nat → Nat) (buffer remaining : Nat) (content : Bytes) (text : Str)
    {f : Bytes → Except Exc α} (hf : ∀ raw, Refuses (f raw)) :
    Refuses
      (match Obligations.readChunks reads buffer remaining content with
        | none => Obligations.refuse text
        | some raw => f raw) := by
  split
  · exact refuse text
  · exact hf _

theorem openComponent (final closes : Bool) (named : Str) {found : Except Exc FileStat} (h : Refuses found) :
    Refuses (Obligations.openComponent final closes named ⟨found, found, .ok ()⟩) := by
  have hrest : ∀ stat : FileStat, Refuses (found >>= fun opened => do
      checkSame stat opened (named ++ lit " changed while opening")
      if closes then .ok () else pure ()) := fun stat => by
    refine bind h fun opened _ => bind (check _ _) fun _ _ => ?_
    split
    · exact ok ()
    · exact ok ()
  have hregular : ∀ stat : FileStat, Refuses (checkRegular stat.kind named) := fun stat => by
    unfold checkRegular
    split
    · exact ok ()
    · exact refuse _
    · exact refuse _
    · exact refuse _
  unfold Obligations.openComponent
  refine bind h fun stat _ => bind (check _ _) fun _ _ => ?_
  cases final with
  | false => exact bind (check _ _) fun _ _ => hrest stat
  | true => exact bind (hregular stat) fun _ _ => hrest stat

section Trees

variable (tree : SourceTree)

theorem statAt (place : Str) (components : List Str) : Refuses (tree.statAt place components) := by
  unfold SourceTree.statAt
  split
  · exact ok _
  · exact refuse _

theorem openSourceNoFollow (path : Str) (reads : Nat → Nat) (components : List Str) (place : Str) :
    Refuses (Obligations.openSourceNoFollow (tree.pathSteps path reads).components components place) := by
  unfold Obligations.openSourceNoFollow
  generalize components.zipIdx = entries
  induction entries with
  | nil => exact ok ()
  | cons entry entries ih => exact bind (openComponent _ _ _ (statAt tree _ _)) fun _ _ => ih

variable (sha256 : Bytes → Str)

theorem hashFile (path : Str) (reads : Nat → Nat) (maxBytes hashBuffer : Nat) (place : Str) :
    Refuses (Obligations.hashFile sha256 (tree.fileAt path reads) maxBytes hashBuffer place) := by
  unfold Obligations.hashFile
  refine bind (statAt tree _ _) fun before _ => bind (check _ _) fun _ _ => bind (atMost _ _ _) fun _ _ => ?_
  refine readChunks _ _ _ _ _ fun raw => bind (statAt tree _ _) fun after _ => bind (check _ _) fun _ _ => ?_
  exact ok _

theorem hashRange (path : Str) (reads : Nat → Nat) (start stop : Int) (expected : FileIdentity) (hashBuffer : Nat)
    (place : Str) :
    Refuses (Obligations.hashRange sha256 (tree.fileAt path reads) start stop expected hashBuffer place) := by
  unfold Obligations.hashRange
  refine bind (statAt tree _ _) fun before _ => bind (check _ _) fun _ _ => bind (check _ _) fun _ _ => ?_
  refine bind (check _ _) fun _ _ => readChunks _ _ _ _ _ fun raw => bind (statAt tree _ _) fun after _ => ?_
  exact bind (check _ _) fun _ _ => ok _

theorem hashSource (splits : Splits) (limits : CompileLimits) (obligations : List ObligationRecord) (hashed : Hashed)
    (path : Str) :
    Refuses (Obligations.hashSource sha256 (tree.steps splits obligations) limits obligations hashed path) := by
  have hhash := hashFile tree sha256 path (splits.firstPass path) limits.authorityFileBytesMax
    limits.authorityHashBufferMax (sourcePlace path)
  unfold Obligations.hashSource
  refine bind (openSourceNoFollow tree _ _ _ _) fun _ _ => bind ?_ fun read _ => bind (checkedAdd _ _ _) fun _ _ => ?_
  · exact (closing_done _).symm ▸ hhash
  refine bind (atMost _ _ _) fun _ _ => bind (atMost _ _ _) fun _ _ => ?_
  split
  · exact refuse _
  · exact ok _

theorem hashSection (splits : Splits) (limits : CompileLimits) (obligations : List ObligationRecord)
    {identities : List (Str × FileIdentity)} (sectioned : Sectioned) {entry : ObligationRecord × Nat}
    {identity : FileIdentity} (hidentity : identities.lookup entry.1.sourcePath = some identity) :
    Refuses (Obligations.hashSection sha256 (tree.steps splits obligations) limits identities sectioned entry) := by
  unfold Obligations.hashSection identityOf
  simp only [hidentity]
  refine bind (ok _) fun _ _ => bind (check _ _) fun _ _ => bind (check _ _) fun _ _ => ?_
  refine bind (atMost _ _ _) fun _ _ => ?_
  refine bind (checkedAdd _ _ _) fun _ _ => bind (atMost _ _ _) fun _ _ => ?_
  refine bind (openSourceNoFollow tree _ _ _ _) fun _ _ => bind ?_ fun _ _ => bind (check _ _) fun _ _ => ok _
  exact (closing_done _).symm ▸ hashRange tree sha256 _ _ _ _ _ _ _

end Trees

end Refuses

/-! ## Outcomes -/

/-- What is raised, without the text of a refusal: it names what was looked at first. -/
def untold : Exc → Exc
  | .contractError _ => .contractError []
  | error => error

def outcome (result : Except Exc SourceVerification) : Except Exc SourceVerification := result.mapError untold

/-- What is asked of the paths before a source is opened. -/
def measured (limits : CompileLimits) (paths : Finset Str) : Except Exc Nat := do
  atMost (sorted paths).length limits.pathCountMax (exceedsText limits.pathCountMax "-path bound")
  (sorted paths).foldlM (addPath limits) 0

section Outcomes

variable (sha256 : Bytes → Str) (tree : SourceTree) (splits : Splits) {limits : CompileLimits}

theorem verifyBelow_error {obligations : List ObligationRecord} {error : Exc}
    (h : measured limits (cited obligations) = .error error) :
    verifyBelow sha256 (tree.steps splits obligations) limits obligations tree.root tree.identity = .error error := by
  unfold measured at h
  unfold verifyBelow
  change (atMost (sorted (cited obligations)).length _ _ >>= fun _ => _) = _
  cases hcount : atMost (sorted (cited obligations)).length limits.pathCountMax
      (exceedsText limits.pathCountMax "-path bound") with
  | error e =>
    rw [hcount] at h
    cases h
    rfl
  | ok u =>
    rw [hcount] at h
    change (sorted (cited obligations)).foldlM (addPath limits) 0 = .error error at h
    change ((sorted (cited obligations)).foldlM (addPath limits) 0 >>= fun _ => _) = _
    rw [h]
    rfl

theorem verifyBelow_refuses (hcapped : Capped limits) {obligations : List ObligationRecord} {n : Nat}
    (h : measured limits (cited obligations) = .ok n) :
    Refuses (verifyBelow sha256 (tree.steps splits obligations) limits obligations tree.root tree.identity) := by
  obtain ⟨-, hfold⟩ := then_ok_iff.mp h
  have hpaths : distinctPaths obligations = sorted (cited obligations) := rfl
  have hrevalidated : Refuses (revalidateRoot (tree.steps splits obligations) tree.root tree.identity) :=
    (tree.revalidateRoot_ok splits obligations).symm ▸ Refuses.ok ()
  unfold verifyBelow
  simp only [hpaths, hfold]
  refine .bind (.atMost _ _ _) fun _ _ => .bind (.ok _) fun _ _ => ?_
  refine .bind (.foldlM _ (fun hashed path _ => .hashSource tree sha256 splits limits obligations hashed path) _) ?_
  intro hashed hhashed
  obtain ⟨-, -, rfl⟩ := (hashSources_ok sha256 tree splits obligations hcapped _ _).mp hhashed
  refine .bind (.foldlM _ (fun sectioned entry hentry => ?_) _) fun sectioned _ => ?_
  · refine .hashSection tree sha256 splits limits obligations sectioned (lookup_identity tree _ _ ?_)
    exact (mem_sorted _ _).mpr (List.mem_toFinset.mpr (List.mem_map_of_mem (List.fst_mem_of_mem_zipIdx hentry)))
  · exact .bind hrevalidated fun _ _ => .bind (.ok _) fun _ _ => .bind (.check _ _) fun _ _ => .ok _

/-- A refusal has one outcome. -/
theorem outcome_refused {result : Except Exc SourceVerification} (h : Refuses result) (hnone : ∀ v, result ≠ .ok v) :
    outcome result = .error (.contractError []) := by
  cases result with
  | ok v => exact absurd rfl (hnone v)
  | error error =>
    obtain ⟨text, rfl⟩ := h error rfl
    rfl

theorem cited_perm {obligations other : List ObligationRecord} (h : obligations.Perm other) :
    cited obligations = cited other := List.toFinset_eq_of_perm _ _ (h.map _)

theorem totals_perm {obligations other : List ObligationRecord} (h : obligations.Perm other) :
    totals tree obligations = totals tree other := by
  simp only [totals, cited_perm h, h.length_eq, (h.map sectionLength).sum_eq]

theorem verifiable_perm {obligations other : List ObligationRecord} (h : obligations.Perm other)
    (hverifiable : Verifiable sha256 tree limits obligations) : Verifiable sha256 tree limits other where
  files record hrecord := hverifiable.files record (h.mem_iff.mpr hrecord)
  digests record hrecord := hverifiable.digests record (h.mem_iff.mpr hrecord)
  sections record hrecord := hverifiable.sections record (h.mem_iff.mpr hrecord)
  paths := cited_perm h ▸ hverifiable.paths
  encodable := cited_perm h ▸ hverifiable.encodable
  pathBytes := cited_perm h ▸ hverifiable.pathBytes
  pathBytesTotal := cited_perm h ▸ hverifiable.pathBytesTotal
  fileBytes := cited_perm h ▸ hverifiable.fileBytes
  fileCount := cited_perm h ▸ hverifiable.fileCount
  bytesTotal := cited_perm h ▸ hverifiable.bytesTotal
  sectionCount := h.length_eq ▸ hverifiable.sectionCount
  sectionBytes := (h.map sectionLength).sum_eq ▸ hverifiable.sectionBytes

theorem verifyBelow_perm (hcapped : Capped limits) {obligations other : List ObligationRecord}
    (h : obligations.Perm other) :
    outcome (verifyBelow sha256 (tree.steps splits obligations) limits obligations tree.root tree.identity) =
      outcome (verifyBelow sha256 (tree.steps splits other) limits other tree.root tree.identity) := by
  have hexact := fun obligations => verifyBelow_ok sha256 tree splits obligations hcapped
  cases hmeasured : measured limits (cited obligations) with
  | error error =>
    rw [verifyBelow_error sha256 tree splits hmeasured,
      verifyBelow_error sha256 tree splits (cited_perm h ▸ hmeasured)]
  | ok n =>
    have hrefuses := verifyBelow_refuses sha256 tree splits hcapped hmeasured
    have hrefuses' := verifyBelow_refuses sha256 tree splits hcapped (cited_perm h ▸ hmeasured)
    by_cases hverifiable : Verifiable sha256 tree limits obligations
    · rw [(hexact obligations _).mpr ⟨hverifiable, rfl⟩,
        (hexact other _).mpr ⟨verifiable_perm sha256 tree h hverifiable, rfl⟩, totals_perm tree h]
    · have hother : ¬ Verifiable sha256 tree limits other := fun hother =>
        hverifiable (verifiable_perm sha256 tree h.symm hother)
      rw [outcome_refused hrefuses fun v hv => hverifiable ((hexact obligations v).mp hv).1,
        outcome_refused hrefuses' fun v hv => hother ((hexact other v).mp hv).1]

/-! ## The verifier -/

/-- `verify_obligation_sources` on the tree. -/
def verifyTree (splits : Splits) (catalog : ObligationCatalog) (limits : Option ValidLimits) :
    Except Exc SourceVerification :=
  verifyObligationSources sha256 (tree.steps splits catalog.obligations) catalog tree.root (limits.map Subtype.val)

theorem verifyTree_below (catalog : ObligationCatalog) (limits : Option ValidLimits) :
    verifyTree sha256 tree splits catalog limits =
      verifyBelow sha256 (tree.steps splits catalog.obligations) (givenLimits limits) catalog.obligations tree.root
        tree.identity := by
  have hopened : openCanonicalRoot (tree.steps splits catalog.obligations).root tree.root = .ok tree.identity :=
    tree.openCanonicalRoot_ok
  unfold verifyTree verifyObligationSources
  rw [hopened]
  exact closing_done _

end Outcomes

/-- A catalog is verified where what it says of the tree is so and every cap holds, and what is returned are the
totals. It is the same however the reads are split, and up to the text of a refusal in whichever order the records
stand. -/
theorem verification_exact (sha256 : Bytes → Str) (tree : SourceTree) (splits : Splits) (catalog : ObligationCatalog)
    (limits : Option ValidLimits) :
    (∀ verification, verifyTree sha256 tree splits catalog limits = .ok verification ↔
      Verifiable sha256 tree (givenLimits limits) catalog.obligations ∧
        verification = totals tree catalog.obligations) ∧
    (∀ other : Splits, verifyTree sha256 tree splits catalog limits = verifyTree sha256 tree other catalog limits) ∧
    ∀ reordered : ObligationCatalog, catalog.obligations.Perm reordered.obligations →
      outcome (verifyTree sha256 tree splits catalog limits) =
        outcome (verifyTree sha256 tree splits reordered limits) := by
  have hcapped := capped_given limits
  simp only [verifyTree_below]
  refine ⟨fun verification => ?_, fun other => ?_, fun reordered h => ?_⟩
  · exact verifyBelow_ok sha256 tree splits catalog.obligations hcapped verification
  · exact verifyBelow_splits sha256 tree splits catalog.obligations hcapped other
  · exact verifyBelow_perm sha256 tree splits hcapped h

/-! ## A tree of one file -/

theorem source_sized : sourceStat.kind = .regular → sourceStat.identity.size = sourceFile.content.length := by
  intro _
  rfl

def sourceEntry : Entry := ⟨sourceStat, sourceFile.content, source_sized⟩

theorem rooted :
    (lit "/root").head? = some (cp 47) ∧ ∀ part ∈ ((lit "/root").splitOn (cp 47)).tail, isDots part = false := by
  decide

def oneFile (components : List Str) : Option Entry := if components = [lit "source"] then some sourceEntry else none

theorem oneFile_nested (parent : List Str) (name : Str) (entry : Entry) (hparent : parent ≠ [])
    (h : oneFile (parent ++ [name]) = some entry) :
    ∃ directory, oneFile parent = some directory ∧ directory.stat.kind = .directory := by
  have hone : parent ++ [name] ≠ [lit "source"] := by
    intro heq
    have hlength := congrArg List.length heq
    have hpos := List.length_pos_iff.mpr hparent
    simp only [List.length_append, List.length_singleton] at hlength
    omega
  rw [oneFile, if_neg hone] at h
  cases h

def sourceTree : SourceTree where
  root := lit "/root"
  canonical := rooted
  ancestors _ := rootStat.identity
  identity := rootIdentity
  entries := oneFile
  nested := oneFile_nested

/-- A byte at a time. -/
def singly : Splits := ⟨fun _ _ => 0, fun _ _ => 0⟩

theorem source_entry : sourceTree.entryAt (lit "source") = some sourceEntry := by
  have hpieces : (lit "source").splitOn (cp 47) = [lit "source"] := by decide
  change oneFile ((lit "source").splitOn (cp 47)) = some sourceEntry
  rw [hpieces, oneFile, if_pos rfl]

theorem source_content : sourceTree.contentOf (lit "source") = sourceFile.content := by
  rw [SourceTree.contentOf, source_entry]
  rfl

theorem source_cited : cited sourceCatalog.obligations = {lit "source"} := rfl

theorem source_section : SectionVerified (fun _ => sourceDigest) sourceTree sourceRecord where
  starts := le_refl _
  nonempty := by decide
  within := by
    change (2 : Int) ≤ (sourceTree.contentOf (lit "source")).length
    rw [source_content]
    decide
  digest := rfl

theorem source_verifiable :
    Verifiable (fun _ => sourceDigest) sourceTree (givenLimits none) sourceCatalog.obligations where
  files := List.forall_mem_singleton.mpr ⟨sourceEntry, source_entry, rfl⟩
  digests := List.forall_mem_singleton.mpr rfl
  sections := List.forall_mem_singleton.mpr source_section
  paths := by decide
  encodable := by decide
  pathBytes := by decide
  pathBytesTotal := by decide
  fileBytes := by
    simp only [source_cited, Finset.mem_singleton, forall_eq, source_content]
    decide
  fileCount := by decide
  bytesTotal := by
    simp only [source_cited, Finset.sum_singleton, source_content]
    decide
  sectionCount := by decide
  sectionBytes := by decide

theorem verification_exact_source :
    verifyTree (fun _ => sourceDigest) sourceTree singly sourceCatalog none =
      .ok ⟨1, 2, 1, 2, lit "/root", rootIdentity⟩ :=
  ((verification_exact _ sourceTree singly sourceCatalog none).1 _).mpr ⟨source_verifiable, rfl⟩

end TurnVector.Obligations
