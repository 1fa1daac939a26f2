import TurnVector.CrossEngine.Manifest
import TurnVector.Lanes.CoreReplay
import TurnVector.Posix.Resolve

/-! # Path guards

The four functions that admit a file below a root: `validate_subject_artifact` of `evidence.py`, `_bundle_file` and
`_persistence_file` of `lane_runner.py`, and `_read_regular_file` of `cross_engine/artifacts.py`.
-/

namespace TurnVector.Guards

open Python Json Posix
open Lanes (Artifact declaredPath checkFile strictEvidenceObject memberOf)

/-! ## The loop over the components -/

/-- What a loop over the components raises. -/
structure Texts (ε : Type) where
  unreadable : Path → Fault → ε
  linked : Path → ε
  other : Fault → ε

section Code

-- The file system, how many links it follows, what an exception says, and the digest of a file.
variable (tree : Node) (limit : Nat) (describe : Fault → Str) (sha256 : Bytes → Str)

/-- `os.lstat` of each component, none of which may be a link: what the last one is. -/
def lstatEach {ε : Type} (texts : Texts ε) (current : Path) (final : Option Node) : List Str → Except ε (Option Node)
  | [] => .ok final
  | component :: components =>
    let current := current ++ [component]
    match lstat tree limit current with
    | .error (.osError errno path) => .error (texts.unreadable current (.osError errno path))
    | .error fault => .error (texts.other fault)
    | .ok (.link _) => .error (texts.linked current)
    | .ok node => lstatEach texts current (some node) components

/-! ## Lanes -/

open LaneController (Raised contractError)

/-- An exception that is no `ContractError`. -/
def through (fault : Fault) : Raised :=
  match fault with
  | .valueError _ => ⟨.exception, describe fault⟩
  | _ => ⟨.osOrRuntimeError, describe fault⟩

def contract (text : Str) : Raised := ⟨.contractError, text⟩

def laneTexts (unreadable linked : Path → Str) : Texts Raised where
  unreadable := fun current fault => contract (unreadable current ++ lit ": " ++ describe fault)
  linked := fun current => contract (linked current)
  other := through describe

def raising {α : Type} (result : Except Fault α) : Except Raised α := result.mapError (through describe)

/-- `try: … except OSError as error: raise ContractError(text + str(error))` -/
def orRefused {α : Type} (text : Str) : Except Fault α → Except Raised α
  | .ok a => .ok a
  | .error (.osError errno path) => contractError (text ++ describe (.osError errno path))
  | .error fault => .error (through describe fault)

/-- `path.relative_to(root)` -/
def below (root path : Path) (refused : Str) : Except Raised Unit :=
  if root <+: path then .ok () else contractError refused

/-- `_ensure_no_symlink`. The path is below the root. -/
def ensureNoSymlink (root : Path) (components : List Str) : Except Raised Unit := do
  let _ ← lstatEach tree limit
    (laneTexts describe (fun current => lit "cannot inspect subject artifact path " ++ pathText current)
      fun current => lit "subject artifact path contains a symlink: " ++ pathText current)
    root none components

/-- `validate_subject_artifact` -/
def validateSubjectArtifact (descriptor : List (Str × Json)) (artifactRoot : Path) : Except Raised Artifact := do
  let (id, text) ← declaredPath descriptor
  let root ← raising describe (resolve tree false artifactRoot)
  let candidate := root ++ names text
  let resolved ← orRefused describe (lit "subject artifact does not exist: " ++ strRepr text ++ lit ": ")
    (resolve tree true candidate)
  below root resolved (lit "subject artifact path escapes artifact root: " ++ strRepr text)
  ensureNoSymlink tree limit describe root (names text)
  match stat tree limit resolved with
  | .ok (.file _ content) => checkFile descriptor id text content.length (sha256 content)
  | _ => contractError (lit "subject artifact must be a regular file: " ++ strRepr text)

/-- A relative path without `..`, as two of the guards read it. -/
def relativePath (value : Json) (empty escapes : Str) : Except Raised Str :=
  match value with
  | .str (first :: more) =>
    if isAbsolute (first :: more) || occurs (lit "..") (names (first :: more)) then contractError escapes
    else .ok (first :: more)
  | _ => contractError empty

/-- `_bundle_file` -/
def bundleFile (root : Path) (value : Json) (place : Str) (requireExecutable : Bool) : Except Raised Path := do
  let escapes := place ++ lit " escapes the C++ Direct bundle"
  let text ← relativePath value (place ++ lit " must be a non-empty relative path") escapes
  let resolvedRoot ← raising describe (resolve tree false root)
  let final ← lstatEach tree limit
    (laneTexts describe (fun _ => place ++ lit " cannot be inspected")
      fun current => place ++ lit " must not contain a symlink: " ++ pathText current)
    resolvedRoot none (names text)
  let candidate ← raising describe (resolve tree false (resolvedRoot ++ names text))
  below resolvedRoot candidate escapes
  match final with
  | some (.file info _) =>
    if requireExecutable && info.permissions &&& 0o111 == 0 then
      contractError (place ++ lit " must be executable: " ++ pathText candidate)
    else return candidate
  | _ => contractError (place ++ lit " is not a file: " ++ pathText candidate)

/-- What a descriptor says of a staged file: the last part of `_persistence_file`. -/
def checkStaged (path : Path) (descriptor : List (Str × Json)) (place : Str) : Except Raised Unit := do
  let size ← memberOf descriptor "size"
  match size with
  | .int (.ofNat size) => do
    let found ← raising describe (stat tree limit path)
    if found.size ≠ size then contractError (place ++ lit ".size differs from the staged file")
    else do
      let digest ← memberOf descriptor "sha256"
      match digest with
      | .str digest =>
        if !Canonical.isSha256 digest then contractError (place ++ lit ".sha256 must be a lowercase SHA256")
        else do
          let content ← raising describe (readBytes tree limit path)
          if sha256 content ≠ digest then contractError (place ++ lit ".sha256 differs from the staged file")
      | _ => contractError (place ++ lit ".sha256 must be a lowercase SHA256")
  | _ => contractError (place ++ lit ".size must be a non-negative integer")

/-- `_persistence_file` -/
def persistenceFile (runtimeRoot : Path) (value : Json) (place expectedRole : Str) :
    Except Raised (Path × List (Str × Json)) := do
  let descriptor ← strictEvidenceObject value ["path", "size", "sha256", "role"] place
  let role ← memberOf descriptor "role"
  if role ≠ .str expectedRole then contractError (place ++ lit ".role must be " ++ strRepr expectedRole)
  else do
    let escapes := place ++ lit ".path escapes the Benchmark runtime root"
    let text ← relativePath (← memberOf descriptor "path") (place ++ lit ".path must be a non-empty relative path")
      escapes
    let root ← raising describe (resolve tree false runtimeRoot)
    let path ← raising describe (resolve tree false (root ++ names text))
    below root path escapes
    let node ← orRefused describe (place ++ lit ".path is unavailable: ") (lstat tree limit path)
    match node with
    | .file _ _ => do
      checkStaged tree limit describe sha256 path descriptor place
      return (path, descriptor)
    | _ => contractError (place ++ lit ".path must name a regular file directly")

/-! ## Cross-engine artifacts -/

open CrossEngine (relativePosixPath refuseReserved)
open CrossEngine.Contracts (reject)

/-- An exception that is no `ContractError`, by its class. -/
def crossThrough (fault : Fault) : CrossEngine.Raised :=
  match fault with
  | .osError _ _ => ⟨lit "OSError", describe fault⟩
  | .runtimeError _ => ⟨lit "RuntimeError", describe fault⟩
  | .valueError _ => ⟨lit "ValueError", describe fault⟩

def crossTexts : Texts CrossEngine.Raised where
  unreadable := fun current fault =>
    ⟨lit "ContractError", lit "cannot inspect artifact path " ++ pathText current ++ lit ": " ++ describe fault⟩
  linked := fun current => ⟨lit "ContractError", lit "artifact path contains a symlink: " ++ pathText current⟩
  other := crossThrough describe

/-- The loop that reads so many bytes of a file that is open. -/
def readRemaining (text : Str) (rest : Bytes) (remaining : Nat) : Except CrossEngine.Raised Bytes :=
  if remaining = 0 then .ok []
  else
    let chunk := rest.take (min (64 * 1024) remaining)
    if chunk = [] then reject (lit "artifact was truncated while reading: " ++ strRepr text)
    else do
      let more ← readRemaining text (rest.drop chunk.length) (remaining - chunk.length)
      return chunk ++ more
termination_by remaining
decreasing_by exact Nat.sub_lt (Nat.pos_of_ne_zero ‹_›) (List.length_pos_iff.mpr ‹_›)

/-- What follows `os.open`, up to `os.close`: `final` is the file once more. -/
def readOpened (text : Str) (before : Info) (size : Nat) (opened : Node) :
    Except CrossEngine.Raised (Nat × Str × Nat × Nat) :=
  match opened with
  | .file info content =>
    if (info.device, info.inode) ≠ (before.device, before.inode) then
      reject (lit "artifact changed while opening: " ++ strRepr text)
    else if info.links ≠ 1 then reject (lit "artifact is not an unaliased regular file: " ++ strRepr text)
    else do
      let raw ← readRemaining text content content.length
      if (info.device, info.inode, content.length, info.mtimeNs, info.links) ≠
          (before.device, before.inode, size, before.mtimeNs, before.links) then
        reject (lit "artifact changed while reading: " ++ strRepr text)
      else return (content.length, sha256 raw, info.device, info.inode)
  | _ => reject (lit "artifact changed while opening: " ++ strRepr text)

/-- `_read_regular_file` -/
def readRegularFile (root : Path) (text : Str) (perFileByteLimit : Int) :
    Except CrossEngine.Raised (Nat × Str × Nat × Nat) := do
  let relative ← relativePosixPath (.str text) (lit "artifact path")
  refuseReserved relative "artifact path"
  let components := relative.splitOn (cp 47)
  let before ← lstatEach tree limit (crossTexts describe) root none components
  match before with
  | none => .error ⟨lit "AssertionError", []⟩
  | some (.file before content) =>
    if before.links ≠ 1 then reject (lit "artifact has a hard-link identity conflict: " ++ strRepr text)
    else if perFileByteLimit < content.length then
      reject (lit "artifact " ++ strRepr text ++ lit " exceeds the " ++ intText perFileByteLimit ++
        lit "-byte file limit")
    else match openNoFollow tree limit (root ++ components) with
      | .error (.osError errno path) =>
        reject (lit "cannot open artifact " ++ strRepr text ++ lit ": " ++ describe (.osError errno path))
      | .error fault => .error (crossThrough describe fault)
      | .ok opened => readOpened sha256 text before content.length opened
  | some _ => reject (lit "artifact must be a regular file: " ++ strRepr text)

end Code

end TurnVector.Guards
