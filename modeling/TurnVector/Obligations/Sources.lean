import TurnVector.Obligations.Catalog

/-! # The sources of the obligations

`verify_obligation_sources` of `obligation_sources.py`. What the file system answers to each step is given: to opening
the root, at the first pass for each path, and at the second for each record.
-/

namespace TurnVector.Obligations

open Python Canonical Effects

/-! ## The root -/

structure RootIdentity where
  device : Nat
  inode : Nat
  uid : Nat
  gid : Nat
  mode : Nat
  deriving DecidableEq

structure SourceVerification where
  pathCount : Nat
  sourceBytesTotal : Nat
  sectionCount : Nat
  sectionBytesTotal : Nat
  rootPath : Str
  root : RootIdentity
  deriving DecidableEq

/-- What opening the root of the file system and each component comes to, and the last `fstat`. -/
structure RootSteps where
  base : Except Exc Unit
  components : Nat → ComponentSteps
  entry : Except Exc RootIdentity

/-- What opening each component of a path below the root comes to, and the file behind it. -/
structure PathSteps where
  components : Nat → ComponentSteps
  file : OpenFile

structure SourceSteps where
  root : RootSteps
  firstPass : Str → PathSteps
  secondPass : Nat → PathSteps
  reopened : RootSteps
  reopenedClosed : Except Exc Unit
  held : Except Exc RootIdentity
  rootClosed : Except Exc Unit

def catalogPlace : Str := lit "obligation catalog"

/-- `_open_canonical_root`. A path that starts at the root of the file system has a component. -/
def openCanonicalRoot (steps : RootSteps) (root : Str) : Except Exc RootIdentity := do
  let named := catalogPlace ++ lit ": source root " ++ root
  check (root.head? = some (cp 47)) (named ++ lit " must be an absolute path")
  let components := (root.splitOn (cp 47)).tail
  check (components.all fun part => !isDots part) (named ++ lit " is not a canonical absolute path")
  steps.base
  descendDirectories steps.components components named
  steps.entry

/-- `_revalidate_root` -/
def revalidateRoot (steps : SourceSteps) (root : Str) (expected : RootIdentity) : Except Exc Unit :=
  let changed := catalogPlace ++ lit ": source root " ++ root ++ lit " changed during verification"
  match openCanonicalRoot steps.reopened root with
  | .error (.contractError text) => refuse (changed ++ lit ": " ++ text)
  | .error error => .error error
  | .ok identity => closing (check (identity = expected) changed) steps.reopenedClosed

/-! ## Hashing -/

variable (sha256 : Bytes → Str)

/-- `_hash_fd` -/
def hashFile (file : OpenFile) (maxBytes hashBuffer : Nat) (place : Str) : Except Exc (Str × FileIdentity) := do
  let before ← file.before
  check (before.kind = .regular) (place ++ lit " is not a regular file")
  atMost before.identity.size maxBytes
    (.contractError (place ++ lit " exceeds the " ++ natText maxBytes ++ lit "-byte bound"))
  match readChunks file.reads hashBuffer before.identity.size file.content with
  | none => refuse (place ++ lit " was truncated while reading")
  | some raw => do
    let after ← file.after
    check (before.identity = after.identity) (place ++ lit " changed while reading")
    return (sha256 raw, after.identity)

/-- `_hash_range_fd`. There is nothing to seek before the start of a file. -/
def hashRange (file : OpenFile) (start stop : Int) (expected : FileIdentity) (hashBuffer : Nat) (place : Str) :
    Except Exc Str := do
  let before ← file.before
  check (before.identity = expected) (place ++ lit ": source changed between verification passes")
  check (start < stop) (place ++ lit ": section must be a nonempty half-open range")
  check (0 ≤ start) (place ++ lit ": cannot seek: [Errno 22] Invalid argument")
  match readChunks file.reads hashBuffer (stop - start).toNat (file.content.drop start.toNat) with
  | none => refuse (place ++ lit " was truncated while reading")
  | some raw => do
    let after ← file.after
    check (after.identity = expected) (place ++ lit ": source changed while reading section")
    return sha256 raw

/-! ## The passes -/

variable (steps : SourceSteps) (limits : CompileLimits)

def exceedsText (cap : Nat) (what : String) : Exc :=
  .contractError (catalogPlace ++ lit " exceeds the " ++ natText cap ++ lit what)

/-- `len(path.encode("utf-8"))` -/
def pathBytes (path : Str) : Except Exc Nat :=
  match encodeUtf8 path with
  | some raw => .ok raw.length
  | none => .error .unicodeEncodeError

def distinctPaths (obligations : List ObligationRecord) : List Str := sorted (obligations.map (·.sourcePath)).toFinset

/-- The body of the loop over the lengths of the paths. -/
def addPath (total : Nat) (path : Str) : Except Exc Nat := do
  let length ← pathBytes path
  atMost length limits.executionClosurePathBytesMax
    (.contractError (catalogPlace ++ lit " source path " ++ strRepr path ++ lit " exceeds the " ++
      natText limits.executionClosurePathBytesMax ++ lit "-byte path bound"))
  let total ← checkedAdd total length (lit "source path bytes total")
  atMost total limits.executionClosurePathBytesTotalMax
    (exceedsText limits.executionClosurePathBytesTotalMax "-byte total path bound")
  return total

/-- What the first pass has read. -/
structure Hashed where
  identities : List (Str × FileIdentity)
  sourceBytesTotal : Nat

def sourcePlace (path : Str) : Str := lit "source " ++ path

/-- The body of the loop that hashes each source. -/
def hashSource (obligations : List ObligationRecord) (hashed : Hashed) (path : Str) : Except Exc Hashed := do
  let opened := steps.firstPass path
  openSourceNoFollow opened.components (path.splitOn (cp 47)) (sourcePlace path)
  let (digest, identity) ← closing
    (hashFile sha256 opened.file limits.authorityFileBytesMax limits.authorityHashBufferMax (sourcePlace path))
    opened.file.closed
  let identities := hashed.identities ++ [(path, identity)]
  let total ← checkedAdd hashed.sourceBytesTotal identity.size (lit "authority source bytes")
  atMost total limits.authorityTotalBytesMax (exceedsText limits.authorityTotalBytesMax "-byte total source bound")
  atMost identities.length limits.authorityFileCountMax (exceedsText limits.authorityFileCountMax "-file bound")
  match (obligations.filter fun record => record.sourcePath = path).find? fun record =>
      record.sourceFileSha256 ≠ digest with
  | some record => refuse (catalogPlace ++ lit " record " ++ record.id ++ lit ": source " ++ path ++
      lit " does not match the catalog source_file_sha256")
  | none => return ⟨identities, total⟩

/-- What the second pass has read. -/
structure Sectioned where
  sectionCount : Nat
  sectionBytesTotal : Nat

/-- `identities[path]` -/
def identityOf (identities : List (Str × FileIdentity)) (path : Str) : Except Exc FileIdentity :=
  match identities.lookup path with
  | some identity => .ok identity
  | none => .error (.keyError path)

/-- The body of the loop that hashes each section. -/
def hashSection (identities : List (Str × FileIdentity)) (sectioned : Sectioned) (entry : ObligationRecord × Nat) :
    Except Exc Sectioned := do
  let record := entry.1
  let named := catalogPlace ++ lit " record " ++ record.id
  let identity ← identityOf identities record.sourcePath
  check (record.sectionStart < record.sectionEnd) (named ++ lit ": section must be a nonempty half-open range")
  check (record.sectionEnd ≤ identity.size) (named ++ lit ": section_end " ++ intText record.sectionEnd ++
    lit " exceeds the source file length " ++ natText identity.size)
  let count := sectioned.sectionCount + 1
  atMost count limits.authoritySectionCountMax (exceedsText limits.authoritySectionCountMax "-section bound")
  let total ← checkedAdd sectioned.sectionBytesTotal (record.sectionEnd - record.sectionStart).toNat
    (lit "authority section bytes")
  atMost total limits.authoritySectionBytesTotalMax
    (exceedsText limits.authoritySectionBytesTotalMax "-byte section bound")
  let opened := steps.secondPass entry.2
  openSourceNoFollow opened.components (record.sourcePath.splitOn (cp 47)) (sourcePlace record.sourcePath)
  let digest ← closing
    (hashRange sha256 opened.file record.sectionStart record.sectionEnd identity limits.authorityHashBufferMax
      (lit "record " ++ record.id ++ lit " section")) opened.file.closed
  check (digest = record.sectionSha256) (named ++ lit ": section digest mismatch for " ++ record.sourcePath)
  return ⟨count, total⟩

/-- The `try` block of `verify_obligation_sources`. -/
def verifyBelow (obligations : List ObligationRecord) (root : Str) (identity : RootIdentity) :
    Except Exc SourceVerification := do
  let paths := distinctPaths obligations
  atMost paths.length limits.pathCountMax (exceedsText limits.pathCountMax "-path bound")
  let _ ← paths.foldlM (addPath limits) 0
  let hashed ← paths.foldlM (hashSource sha256 steps limits obligations) ⟨[], 0⟩
  let sectioned ← obligations.zipIdx.foldlM (hashSection sha256 steps limits hashed.identities) ⟨0, 0⟩
  revalidateRoot steps root identity
  let held ← steps.held
  check (held = identity) (catalogPlace ++ lit ": source root " ++ root ++ lit " changed during verification")
  return ⟨paths.length, hashed.sourceBytesTotal, sectioned.sectionCount, sectioned.sectionBytesTotal, root, identity⟩

/-- `verify_obligation_sources` -/
def verifyObligationSources (catalog : ObligationCatalog) (root : Str) (limits : Option CompileLimits) :
    Except Exc SourceVerification := do
  let identity ← openCanonicalRoot steps.root root
  closing (verifyBelow sha256 steps (limits.getD .frozen) catalog.obligations root identity) steps.rootClosed

end TurnVector.Obligations
