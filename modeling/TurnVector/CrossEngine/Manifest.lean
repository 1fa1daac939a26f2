import TurnVector.CrossEngine.Contracts
import TurnVector.Lanes.Suite
import TurnVector.Python.Identity

/-! # Artifact manifests

`build_artifact_manifest` and `validate_artifact_manifest` of `cross_engine/artifacts.py`. What the files answer is
given.
-/

namespace TurnVector.CrossEngine

open Python Json Contracts
open Lanes (listRepr sameSet)

/-! ## Specifications -/

/-- `relative_posix_path`. Every way to break the form has the same message. -/
def relativePosixPath (value : Json) (place : Str) : Except Raised Str := do
  let text ← boundedString value place 1024 false
  if (text.splitOn (cp 47)).all fun part => !Canonical.isDots part && Canonical.isPosixComponent part then return text
  else reject (place ++ lit " must be a normalized relative POSIX path")

/-- `sha256_digest` -/
def sha256Digest (value : Json) (place : Str) : Except Raised Str := do
  let text ← boundedString value place 64 false
  if Canonical.isSha256 text then return text
  else reject (place ++ lit " must be a lowercase 64-character SHA-256 digest")

/-- `boolean` -/
def boolean (value : Json) (place : Str) : Except Raised Bool :=
  match value with
  | .bool b => .ok b
  | _ => reject (place ++ lit " must be a boolean")

/-- `RESERVED_DERIVED_PATHS` -/
def reservedDerivedPaths : List Str := [lit "artifact_manifest.json", lit "SHA256SUMS"]

/-- `ArtifactSpec`, whose fields may be those of any entry. -/
structure ArtifactSpec where
  artifactId : Json
  path : Json
  mediaType : Json
  schemaType : Json
  custody : Json
  required : Json

/-- A specification that `_validate_spec` accepted. -/
structure ValidSpec where
  artifactId : Str
  path : Str
  mediaType : Str
  schemaType : Option Str
  custody : Str
  required : Bool
  deriving DecidableEq

def refuseReserved (path : Str) (what : String) : Except Raised Unit :=
  if occurs path reservedDerivedPaths then reject (lit what ++ lit " " ++ strRepr path ++ lit " is reserved") else .ok ()

def validateSchemaType (value : Json) (place : Str) : Except Raised (Option Str) :=
  match value with
  | .null => .ok none
  | value => (boundedString value place 256 false).map some

def validateSpecCustody (value : Json) : Except Raised Str :=
  match value with
  | .str custody =>
    if occurs custody [lit "benchmark_measurement", lit "diagnostic_import"] then .ok custody
    else reject (lit "artifact custody must be benchmark_measurement or diagnostic_import")
  | _ => reject (lit "artifact custody must be benchmark_measurement or diagnostic_import")

/-- `_validate_spec` -/
def validateSpec (spec : ArtifactSpec) (ordinal : Nat) : Except Raised ValidSpec := do
  let place := Canonical.itemAt (lit "artifacts") (ordinal - 1)
  let artifactId ← Contracts.identifier spec.artifactId (place ++ lit ".id")
  let path ← relativePosixPath spec.path (place ++ lit ".path")
  refuseReserved path "artifact path"
  let mediaType ← boundedString spec.mediaType (place ++ lit ".media_type") 128 false
  let schemaType ← validateSchemaType spec.schemaType (place ++ lit ".schema_type")
  let custody ← validateSpecCustody spec.custody
  let required ← boolean spec.required (place ++ lit ".required")
  return ⟨artifactId, path, mediaType, schemaType, custody, required⟩

/-! ## Building -/

/-- What `lstat` of an artifact's path answers. -/
inductive Inspection where
  | missing
  | failed (error : Str)
  | there

/-- The artifact root. A file that is read gives its size, its digest and its identity. -/
structure ArtifactRoot where
  root : Except Raised Unit
  inspect : Str → Inspection
  read : Str → Int → Except Raised (Nat × Str × Int × Int)
  inventory : Except Raised (List Str)

/-- `ArtifactRecord`. A file that is there has a size and a digest. -/
structure ArtifactRecord where
  spec : ValidSpec
  ordinal : Nat
  content : Option (Nat × Str)
  deriving DecidableEq

def optionalText : Option Str → Json
  | some text => .str text
  | none => .null

/-- `as_dict` -/
def ArtifactRecord.asDict (record : ArtifactRecord) : Json :=
  .obj [(lit "id", .str record.spec.artifactId),
    (lit "path", .str record.spec.path),
    (lit "media_type", .str record.spec.mediaType),
    (lit "schema_type", optionalText record.spec.schemaType),
    (lit "custody", .str record.spec.custody),
    (lit "required", .bool record.spec.required),
    (lit "ordinal", .int record.ordinal),
    (lit "present", .bool record.content.isSome),
    (lit "size_bytes", (record.content.map fun content => Json.int content.1).getD .null),
    (lit "sha256", (record.content.map fun content => Json.str content.2).getD .null)]

/-- The local variables of `build_artifact_manifest`. -/
structure ManifestProgress where
  records : List ArtifactRecord
  identities : List (Int × Int)
  total : Nat

variable (files : ArtifactRoot) (fileLimit totalLimit : Int)

/-- `_candidate` -/
def candidate (path : Str) : Except Raised Unit := do
  refuseReserved (← relativePosixPath (.str path) (lit "artifact path")) "artifact path"

/-- One specification. The ids and paths met so far are those of the records. -/
def buildRecord (progress : ManifestProgress) (spec : ArtifactSpec × Nat) : Except Raised ManifestProgress := do
  let valid ← validateSpec spec.1 spec.2
  if occurs valid.artifactId (progress.records.map (·.spec.artifactId)) then
    reject (lit "duplicate artifact ID " ++ strRepr valid.artifactId)
  else if occurs valid.path (progress.records.map (·.spec.path)) then
    reject (lit "duplicate artifact path " ++ strRepr valid.path)
  else do
    candidate valid.path
    match files.inspect valid.path with
    | .missing =>
      if valid.required then reject (lit "required artifact is missing: " ++ strRepr valid.path)
      else return { progress with records := progress.records ++ [⟨valid, spec.2, none⟩] }
    | .failed error => reject (lit "cannot inspect artifact " ++ strRepr valid.path ++ lit ": " ++ error)
    | .there => do
      let (size, digest, identity) ← files.read valid.path fileLimit
      if occurs identity progress.identities then
        reject (lit "artifact aliases another declared file: " ++ strRepr valid.path)
      else if totalLimit < progress.total + size then
        reject (lit "artifacts exceed the " ++ intText totalLimit ++ lit "-byte total limit")
      else return ⟨progress.records ++ [⟨valid, spec.2, some (size, digest)⟩], progress.identities ++ [identity],
        progress.total + size⟩

/-- The files of the root that no record and no derived path names. -/
def refuseUndeclared (rejectUndeclared : Bool) (records : List ArtifactRecord) : Except Raised Unit :=
  if rejectUndeclared then do
    let found ← files.inventory
    let declared := records.map (·.spec.path) ++ reservedDerivedPaths
    let undeclared := (found.filter fun path => !occurs path declared).eraseDups
    if undeclared.isEmpty then return ()
    else reject (lit "artifact root contains undeclared files: " ++ listRepr (undeclared.insertionSort (· ≤ ·)))
  else .ok ()

def manifestSchemaVersion : Str := lit "turnvector.benchmark.cross-engine-artifact-manifest.v1"

/-- The manifest of the records. -/
def manifestOf (campaignId : Str) (records : List ArtifactRecord) (total : Nat) : Json :=
  .obj [(lit "schema_version", .str manifestSchemaVersion),
    (lit "campaign_id", .str campaignId),
    (lit "per_file_byte_limit", .int fileLimit),
    (lit "total_byte_limit", .int totalLimit),
    (lit "artifact_count", .int records.length),
    (lit "present_artifact_count", .int (records.filter (·.content.isSome)).length),
    (lit "total_size_bytes", .int total),
    (lit "artifacts", .arr (records.map (·.asDict)))]

/-- `build_artifact_manifest`, of limits that are integers. -/
def buildArtifactManifest (specs : List ArtifactSpec) (campaignId : Json) (rejectUndeclared : Bool) :
    Except Raised Json := do
  files.root
  let campaign ← Contracts.identifier campaignId (lit "campaign_id")
  let _ ← integer (.int fileLimit) (lit "per_file_byte_limit") 1 maxInteger
  let _ ← integer (.int totalLimit) (lit "total_byte_limit") 1 maxInteger
  if specs.isEmpty then reject (lit "artifact specs must not be empty")
  else if 4096 < specs.length then reject (lit "artifact specs exceed the 4096-entry bound")
  else do
    let progress ← (specs.zipIdx 1).foldlM (buildRecord files fileLimit totalLimit) ⟨[], [], 0⟩
    refuseUndeclared files rejectUndeclared progress.records
    return manifestOf fileLimit totalLimit campaign progress.records progress.total

/-! ## Validation -/

/-- `members[name]`, of a name that a strict read has found. -/
def entryOf (members : List (Str × Json)) (name : String) : Except Raised Json :=
  match members.lookup (lit name) with
  | some value => .ok value
  | none => .error ⟨lit "KeyError", strRepr (lit name)⟩

def manifestFields : List String :=
  ["schema_version", "campaign_id", "per_file_byte_limit", "total_byte_limit", "artifact_count",
    "present_artifact_count", "total_size_bytes", "artifacts"]

def entryFields : List String :=
  ["id", "path", "media_type", "schema_type", "custody", "required", "ordinal", "present", "size_bytes", "sha256"]

/-- What an entry says of its file. -/
def checkProjection (entry : List (Str × Json)) (required : Bool) (place : Str) : Except Raised Unit := do
  let present ← boolean (← entryOf entry "present") (place ++ lit ".present")
  let size ← entryOf entry "size_bytes"
  let digest ← entryOf entry "sha256"
  if present then do
    let _ ← integer size (place ++ lit ".size_bytes") 0 maxInteger
    let _ ← sha256Digest digest (place ++ lit ".sha256")
    return ()
  else if size ≠ .null || digest ≠ .null || required then reject (place ++ lit " has an invalid absent projection")
  else return ()

/-- One entry of a manifest. -/
def specOf (floatValue : Str → Option ℚ) (raw : Json × Nat) : Except Raised ArtifactSpec := do
  let place := Canonical.itemAt (lit "artifact manifest.artifacts") raw.2
  let entry ← strictObject raw.1 entryFields [] place
  let ordinal ← entryOf entry "ordinal"
  if pyEq floatValue ordinal (.int (raw.2 + 1)) then do
    let spec : ArtifactSpec := ⟨← entryOf entry "id", ← entryOf entry "path", ← entryOf entry "media_type",
      ← entryOf entry "schema_type", ← entryOf entry "custody", ← entryOf entry "required"⟩
    let valid ← validateSpec spec (raw.2 + 1)
    checkProjection entry valid.required place
    return spec
  else reject (place ++ lit ".ordinal must preserve manifest order")

/-- `_specs_from_manifest` -/
def specsFromManifest (floatValue : Str → Option ℚ) (value : Json) :
    Except Raised (List ArtifactSpec × List (Str × Json)) := do
  let place := lit "artifact manifest"
  let obj ← strictObject value manifestFields [] place
  let schema ← entryOf obj "schema_version"
  if schema ≠ .str manifestSchemaVersion then reject (lit "artifact manifest schema_version is not v1")
  else do
    let _ ← Contracts.identifier (← entryOf obj "campaign_id") (place ++ lit ".campaign_id")
    let artifacts ← boundedArray (← entryOf obj "artifacts") (place ++ lit ".artifacts") 4096 false
    let specs ← artifacts.zipIdx.mapM (specOf floatValue)
    let _ ← integer (← entryOf obj "artifact_count") (place ++ lit ".artifact_count") 0 maxInteger
    let _ ← integer (← entryOf obj "present_artifact_count") (place ++ lit ".present_artifact_count") 0 maxInteger
    let _ ← integer (← entryOf obj "total_size_bytes") (place ++ lit ".total_size_bytes") 0 maxInteger
    return (specs, obj)

/-- `validate_artifact_manifest` -/
def validateArtifactManifest (floatValue : Str → Option ℚ) (value : Json) (rejectUndeclared : Bool) :
    Except Raised Json := do
  let place := lit "artifact manifest"
  let (specs, declared) ← specsFromManifest floatValue value
  let campaignId ← entryOf declared "campaign_id"
  let fileLimit ← integer (← entryOf declared "per_file_byte_limit") (place ++ lit ".per_file_byte_limit") 1 maxInteger
  let totalLimit ← integer (← entryOf declared "total_byte_limit") (place ++ lit ".total_byte_limit") 1 maxInteger
  let recomputed ← buildArtifactManifest files fileLimit totalLimit specs campaignId rejectUndeclared
  if pyEq floatValue recomputed (.obj declared) then return recomputed
  else reject (lit "artifact manifest does not match governed files")

/-! ## What a validation compares -/

variable {files fileLimit totalLimit} {floatValue : Str → Option ℚ}

theorem entryOf_ok {members : List (Str × Json)} {name : String} {value : Json}
    (h : entryOf members name = .ok value) : members.lookup (lit name) = some value := by
  unfold entryOf at h
  split at h
  · rename_i found hfound
    cases h
    exact hfound
  · cases h

theorem boolean_ok {value : Json} {place : Str} {b : Bool} (h : boolean value place = .ok b) : value = .bool b := by
  unfold boolean at h
  split at h
  · cases h
    rfl
  · cases h

/-- The types that an accepted entry has, of which that of its ordinal is free. -/
structure TypedEntry (entry : List (Str × Json)) : Prop where
  required : ∃ b, entry.lookup (lit "required") = some (.bool b)
  present : ∃ b, entry.lookup (lit "present") = some (.bool b)
  size : entry.lookup (lit "size_bytes") = some .null ∨ ∃ n, entry.lookup (lit "size_bytes") = some (.int n)

theorem specOf_ok {raw : Json × Nat} {spec : ArtifactSpec} (h : specOf floatValue raw = .ok spec) :
    ∃ entry, raw.1 = .obj entry ∧ TypedEntry entry := by
  unfold specOf at h
  obtain ⟨entry, hentry, h⟩ := bind_ok_iff.mp h
  obtain ⟨ordinal, -, h⟩ := bind_ok_iff.mp h
  split at h
  · obtain ⟨_, -, h⟩ := bind_ok_iff.mp h
    obtain ⟨_, -, h⟩ := bind_ok_iff.mp h
    obtain ⟨_, -, h⟩ := bind_ok_iff.mp h
    obtain ⟨_, -, h⟩ := bind_ok_iff.mp h
    obtain ⟨_, -, h⟩ := bind_ok_iff.mp h
    obtain ⟨required, hrequired, h⟩ := bind_ok_iff.mp h
    obtain ⟨valid, hvalid, h⟩ := bind_ok_iff.mp h
    obtain ⟨_, hprojection, -⟩ := bind_ok_iff.mp h
    refine ⟨entry, strictObject_ok hentry, ?_, ?_, ?_⟩
    · unfold validateSpec at hvalid
      obtain ⟨_, -, hvalid⟩ := bind_ok_iff.mp hvalid
      obtain ⟨_, -, hvalid⟩ := bind_ok_iff.mp hvalid
      obtain ⟨_, -, hvalid⟩ := bind_ok_iff.mp hvalid
      obtain ⟨_, -, hvalid⟩ := bind_ok_iff.mp hvalid
      obtain ⟨_, -, hvalid⟩ := bind_ok_iff.mp hvalid
      obtain ⟨_, -, hvalid⟩ := bind_ok_iff.mp hvalid
      obtain ⟨b, hb, -⟩ := bind_ok_iff.mp hvalid
      exact ⟨b, by rw [entryOf_ok hrequired, ← boolean_ok hb]⟩
    · unfold checkProjection at hprojection
      obtain ⟨value, hvalue, hprojection⟩ := bind_ok_iff.mp hprojection
      obtain ⟨b, hb, -⟩ := bind_ok_iff.mp hprojection
      exact ⟨b, by rw [entryOf_ok hvalue, boolean_ok hb]⟩
    · unfold checkProjection at hprojection
      obtain ⟨value, -, hprojection⟩ := bind_ok_iff.mp hprojection
      obtain ⟨b, -, hprojection⟩ := bind_ok_iff.mp hprojection
      obtain ⟨size, hsize, hprojection⟩ := bind_ok_iff.mp hprojection
      obtain ⟨digest, -, hprojection⟩ := bind_ok_iff.mp hprojection
      rw [entryOf_ok hsize]
      split at hprojection
      · obtain ⟨n, hn, -⟩ := bind_ok_iff.mp hprojection
        exact Or.inr ⟨n, by rw [integer_ok hn]⟩
      · split at hprojection
        · cases hprojection
        · rename_i hnull
          simp only [ne_eq, Bool.or_eq_true, decide_eq_true_eq, not_or, not_not] at hnull
          exact Or.inl (by rw [hnull.1.1])
  · cases h

/-- An entry that equals its record is the same exactly when its ordinal is an integer. -/
theorem entry_sameKinds_iff {record : ArtifactRecord} {entry : List (Str × Json)} (htyped : TypedEntry entry)
    (h : pyEq floatValue record.asDict (.obj entry) = true) :
    sameKinds record.asDict (.obj entry) = true ↔ ∃ n, entry.lookup (lit "ordinal") = some (.int n) := by
  simp only [ArtifactRecord.asDict, pyEq, Bool.and_eq_true] at h
  have heq := (pyEqMembers_iff floatValue _ _).mp h.2
  simp only [List.forall_mem_cons, List.not_mem_nil, IsEmpty.forall_iff, implies_true, and_true] at heq
  obtain ⟨⟨id, hid, eid⟩, ⟨path, hpath, epath⟩, ⟨media, hmedia, emedia⟩, ⟨schema, hschema, eschema⟩,
    ⟨custody, hcustody, ecustody⟩, -, ⟨ordinal, hordinal, -⟩, -, ⟨size, hsize, esize⟩, ⟨digest, hdigest, edigest⟩⟩ := heq
  obtain ⟨required, hrequired⟩ := htyped.required
  obtain ⟨present, hpresent⟩ := htyped.present
  have kschema : sameKinds (optionalText record.spec.schemaType) schema = true := by
    cases hs : record.spec.schemaType with
    | none =>
      rw [hs] at eschema
      exact sameKinds_null floatValue schema eschema
    | some text =>
      rw [hs] at eschema
      exact sameKinds_text floatValue text schema eschema
  have ksize : sameKinds ((record.content.map fun content => Json.int content.1).getD .null) size = true := by
    cases hc : record.content with
    | none =>
      rw [hc] at esize
      exact sameKinds_null floatValue size esize
    | some content =>
      rw [hc] at esize
      refine (sameKinds_int_iff _ size).mpr ?_
      rcases htyped.size with hnull | ⟨n, hn⟩
      · rw [hsize, Option.some_inj] at hnull
        rw [hnull] at esize
        simp [pyEq, sameNumber, numberOf] at esize
      · exact ⟨n, by rwa [hsize, Option.some_inj] at hn⟩
  have kdigest : sameKinds ((record.content.map fun content => Json.str content.2).getD .null) digest = true := by
    cases hc : record.content with
    | none =>
      rw [hc] at edigest
      exact sameKinds_null floatValue digest edigest
    | some content =>
      rw [hc] at edigest
      exact sameKinds_text floatValue content.2 digest edigest
  simp only [ArtifactRecord.asDict, sameKinds]
  rw [sameKindsMembers_iff]
  simp only [List.forall_mem_cons, List.not_mem_nil, IsEmpty.forall_iff, implies_true, and_true, hid, hpath, hmedia,
    hschema, hcustody, hrequired, hordinal, hpresent, hsize, hdigest, Option.some_inj, forall_eq', kschema, ksize,
    kdigest, sameKinds_text floatValue _ _ eid, sameKinds_text floatValue _ _ epath,
    sameKinds_text floatValue _ _ emedia, sameKinds_text floatValue _ _ ecustody, sameKinds_int_iff,
    sameKinds_bool_iff, Json.bool.injEq, exists_eq', true_and]

/-- The types that an accepted manifest has. -/
structure TypedManifest (declared : List (Str × Json)) (entries : List Json) : Prop where
  artifacts : declared.lookup (lit "artifacts") = some (.arr entries)
  entries : ∀ entry ∈ entries, ∃ members, entry = .obj members ∧ TypedEntry members
  count : ∃ n, declared.lookup (lit "artifact_count") = some (.int n)
  present : ∃ n, declared.lookup (lit "present_artifact_count") = some (.int n)
  total : ∃ n, declared.lookup (lit "total_size_bytes") = some (.int n)

theorem typedEntries {entries : List Json} {specs : List ArtifactSpec}
    (h : entries.zipIdx.mapM (specOf floatValue) = .ok specs) :
    ∀ entry ∈ entries, ∃ members, entry = .obj members ∧ TypedEntry members := by
  intro entry hentry
  obtain ⟨i, hi, hget⟩ := List.mem_iff_getElem.mp hentry
  have hmem : (entry, i) ∈ entries.zipIdx := by
    rw [List.mem_zipIdx_iff_getElem?, List.getElem?_eq_getElem hi, hget]
  obtain ⟨spec, hspec⟩ := mapM_all_ok (specOf floatValue) _ _ h _ hmem
  exact specOf_ok hspec

theorem specsFromManifest_ok {value : Json} {specs : List ArtifactSpec} {declared : List (Str × Json)}
    (h : specsFromManifest floatValue value = .ok (specs, declared)) :
    value = .obj declared ∧ ∃ entries, TypedManifest declared entries := by
  unfold specsFromManifest at h
  obtain ⟨obj, hobj, h⟩ := bind_ok_iff.mp h
  obtain ⟨schema, -, h⟩ := bind_ok_iff.mp h
  split at h
  · cases h
  · obtain ⟨_, -, h⟩ := bind_ok_iff.mp h
    obtain ⟨_, -, h⟩ := bind_ok_iff.mp h
    obtain ⟨array, harray, h⟩ := bind_ok_iff.mp h
    obtain ⟨entries, hentries, h⟩ := bind_ok_iff.mp h
    obtain ⟨specs', hspecs, h⟩ := bind_ok_iff.mp h
    obtain ⟨count, hcount, h⟩ := bind_ok_iff.mp h
    obtain ⟨n, hn, h⟩ := bind_ok_iff.mp h
    obtain ⟨present, hpresent, h⟩ := bind_ok_iff.mp h
    obtain ⟨m, hm, h⟩ := bind_ok_iff.mp h
    obtain ⟨total, htotal, h⟩ := bind_ok_iff.mp h
    obtain ⟨k, hk, h⟩ := bind_ok_iff.mp h
    cases h
    exact ⟨strictObject_ok hobj, entries, by rw [entryOf_ok harray, boundedArray_ok hentries], typedEntries hspecs,
      ⟨n, by rw [entryOf_ok hcount, integer_ok hn]⟩, ⟨m, by rw [entryOf_ok hpresent, integer_ok hm]⟩,
      ⟨k, by rw [entryOf_ok htotal, integer_ok hk]⟩⟩

theorem buildArtifactManifest_ok {specs : List ArtifactSpec} {campaignId : Json} {rejectUndeclared : Bool}
    {manifest : Json} (h : buildArtifactManifest files fileLimit totalLimit specs campaignId rejectUndeclared = .ok manifest) :
    ∃ campaign records total, manifest = manifestOf fileLimit totalLimit campaign records total := by
  unfold buildArtifactManifest at h
  obtain ⟨_, -, h⟩ := bind_ok_iff.mp h
  obtain ⟨campaign, -, h⟩ := bind_ok_iff.mp h
  obtain ⟨_, -, h⟩ := bind_ok_iff.mp h
  obtain ⟨_, -, h⟩ := bind_ok_iff.mp h
  split at h
  · cases h
  · split at h
    · cases h
    · obtain ⟨progress, -, h⟩ := bind_ok_iff.mp h
      obtain ⟨_, -, h⟩ := bind_ok_iff.mp h
      cases h
      exact ⟨campaign, _, _, rfl⟩

/-- Entries that equal their records are the same exactly when their ordinals are integers. -/
theorem entries_sameKinds_iff {records : List ArtifactRecord} {entries : List Json}
    (htyped : ∀ entry ∈ entries, ∃ members, entry = .obj members ∧ TypedEntry members)
    (h : pyEqItems floatValue (records.map (·.asDict)) entries = true) :
    sameKindsItems (records.map (·.asDict)) entries = true ↔
      ∀ entry ∈ entries, ∃ n, entry.member? (lit "ordinal") = some (.int n) := by
  have heq := (pyEqItems_iff floatValue _ _).mp h
  rw [sameKindsItems_iff _ _ heq.length_eq, List.forall₂_map_left_iff]
  rw [List.forall₂_map_left_iff] at heq
  clear h
  induction heq with
  | nil => simp
  | @cons record entry records entries hhead htail ih =>
    obtain ⟨members, rfl, hmembers⟩ := htyped entry (by simp)
    rw [List.forall₂_cons, List.forall_mem_cons]
    exact and_congr (entry_sameKinds_iff hmembers hhead) (ih fun e he => htyped e (by simp [he]))

/-- An accepted manifest is the one that is computed exactly when its ordinals are integers. -/
theorem manifest_identical_iff {value recomputed : Json} {rejectUndeclared : Bool}
    (h : validateArtifactManifest files floatValue value rejectUndeclared = .ok recomputed) :
    ∃ entries, value.member? (lit "artifacts") = some (.arr entries) ∧ (identical floatValue recomputed value = true ↔
      ∀ entry ∈ entries, ∃ n, entry.member? (lit "ordinal") = some (.int n)) := by
  unfold validateArtifactManifest at h
  obtain ⟨⟨specs, declared⟩, hspecs, hrest⟩ := bind_ok_iff.mp h
  clear h
  obtain ⟨rfl, entries, htyped⟩ := specsFromManifest_ok hspecs
  obtain ⟨campaignId, -, h⟩ := bind_ok_iff.mp hrest
  obtain ⟨fileValue, hfileValue, h⟩ := bind_ok_iff.mp h
  obtain ⟨fileLimit, hfile, h⟩ := bind_ok_iff.mp h
  obtain ⟨totalValue, htotalValue, h⟩ := bind_ok_iff.mp h
  obtain ⟨totalLimit, htotal, h⟩ := bind_ok_iff.mp h
  obtain ⟨manifest, hmanifest, h⟩ := bind_ok_iff.mp h
  split at h
  · rename_i heq
    cases h
    refine ⟨entries, htyped.artifacts, ?_⟩
    obtain ⟨campaign, records, total, rfl⟩ := buildArtifactManifest_ok hmanifest
    rw [identical_eq, heq, Bool.true_and]
    simp only [manifestOf, pyEq, Bool.and_eq_true] at heq
    have hmembers := (pyEqMembers_iff floatValue _ _).mp heq.2
    simp only [List.forall_mem_cons, List.not_mem_nil, IsEmpty.forall_iff, implies_true, and_true] at hmembers
    obtain ⟨⟨schema, hschema, eschema⟩, ⟨campaign', hcampaign, ecampaign⟩, -, -, -, -, -, ⟨array, harray, earray⟩⟩ :=
      hmembers
    obtain ⟨count, hcount⟩ := htyped.count
    obtain ⟨present, hpresent⟩ := htyped.present
    obtain ⟨sum, hsum⟩ := htyped.total
    rw [htyped.artifacts, Option.some_inj] at harray
    subst harray
    have hfileLimit : declared.lookup (lit "per_file_byte_limit") = some (.int fileLimit) := by
      rw [entryOf_ok hfileValue, integer_ok hfile]
    have htotalLimit : declared.lookup (lit "total_byte_limit") = some (.int totalLimit) := by
      rw [entryOf_ok htotalValue, integer_ok htotal]
    have hentries : sameKinds (.arr (records.map (·.asDict))) (.arr entries) = true ↔
        ∀ entry ∈ entries, ∃ n, entry.member? (lit "ordinal") = some (.int n) :=
      entries_sameKinds_iff htyped.entries (by simpa only [pyEq] using earray)
    rw [manifestOf, sameKinds, sameKindsMembers_iff]
    simp only [List.forall_mem_cons, List.not_mem_nil, IsEmpty.forall_iff, implies_true, and_true, hschema, hcampaign,
      hfileLimit, htotalLimit, hcount, hpresent, hsum, htyped.artifacts, Option.some_inj, forall_eq',
      sameKinds_text floatValue _ _ eschema, sameKinds_text floatValue _ _ ecampaign, sameKinds_int_iff,
      Json.int.injEq, exists_eq', true_and, hentries]
  · cases h

end TurnVector.CrossEngine
