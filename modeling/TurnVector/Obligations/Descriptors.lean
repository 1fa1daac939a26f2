import TurnVector.Effects.Triple
import TurnVector.Obligations.Sources

/-! # Descriptors

`obligation_sources.py` once more, with each call of the operating system as a step on the table of open descriptors
that may fail. What a step comes to is given by its place in the run.
-/

namespace TurnVector.Obligations.Descriptors

open Python Canonical Effects Action

/-! ## The operating system -/

/-- Two descriptors of one number are told apart by how many were opened before. -/
structure Descriptor where
  number : Nat
  serial : Nat
  deriving DecidableEq

/-- What `os.stat` and `os.fstat` return. -/
structure Stat where
  file : FileStat
  uid : Nat
  gid : Nat
  mode : Nat

/-- `OSError`, or what Python raises before the call is made. -/
inductive Fault where
  | osError (text : Str)
  | other (text : Str)

def Fault.exc : Fault → Exc
  | .osError text => .osError text
  | .other text => .valueError text

/-- What each step comes to. A descriptor that is opened has a number that is free. The arguments of `fstat` and `close`
are descriptors alone, so they raise nothing but `OSError`. -/
structure World where
  stat : Nat → Except Fault Stat
  refused : Nat → Option Fault
  number : Nat → List Nat → Nat
  fresh : ∀ step taken, number step taken ∉ taken
  fstat : Nat → Except Str Stat
  read : Nat → Except Fault Bytes
  seek : Nat → Option Fault
  close : Nat → Option Str

/-- The open descriptors, what was opened and what was passed to `close`, the last one first. `most` have been open at
once. A step is a misuse where its descriptor is not open. Whether a `ContractError` was raised is kept, and whether
one was raised for a `close` after that. -/
structure Os where
  table : List Descriptor
  opens : List Descriptor
  closes : List Descriptor
  most : Nat
  steps : Nat
  misused : Bool
  raised : Bool
  replaced : Bool

def Os.start : Os := ⟨[], [], [], 0, 0, false, false, false⟩

abbrev Call (α : Type) := Action Os Exc α

/-- A step on an open descriptor. -/
def Os.use (s : Os) (fd : Descriptor) : Os :=
  { s with steps := s.steps + 1, misused := s.misused || decide (fd ∉ s.table) }

def Os.tick (s : Os) : Os := { s with steps := s.steps + 1 }

def Os.opening (s : Os) (number : Nat) : Os :=
  let fd := ⟨number, s.opens.length⟩
  { s with table := fd :: s.table, opens := fd :: s.opens, most := max s.most (s.table.length + 1) }

/-- A descriptor is gone when `close` was called, even if that fails. -/
def Os.closing (s : Os) (fd : Descriptor) : Os :=
  { s.use fd with table := s.table.erase fd, closes := fd :: s.closes }

def answer {α : Type} (fault : Option Fault) (a : α) : Call α :=
  match fault with
  | none => pure a
  | some fault => throw fault.exc

def answered {α : Type} : Except Fault α → Call α
  | .ok a => pure a
  | .error fault => throw fault.exc

/-! ## Raising -/

/-- `raise ContractError(text)` -/
def raiseContract {α : Type} (text : Str) : Call α := do
  modify fun s => { s with raised := true }
  throw (.contractError text)

/-- `raise ContractError(text)` for a `close` that failed. -/
def raiseClose {α : Type} (text : Str) : Call α := do
  modify fun s => { s with replaced := s.replaced || s.raised }
  raiseContract text

/-- A result that was computed without the operating system. -/
def attempt {α : Type} : Except Exc α → Call α
  | .ok a => pure a
  | .error (.contractError text) => raiseContract text
  | .error error => throw error

/-- `except OSError as error: raise ContractError(text + str(error))` -/
def translate {α : Type} (text : Str) (m : Call α) : Call α :=
  rescue m fun
    | .osError error => raiseContract (text ++ error)
    | error => throw error

/-- A call, at its place in the run. -/
def step (f : Os → Os) : Call Nat := do
  let s ← get
  modify f
  return s.steps

section Calls

variable (world : World)

/-! ## Calls -/

/-- `os.stat(component, dir_fd=parent, follow_symlinks=False)` -/
def osStat (parent : Descriptor) : Call Stat := do
  let place ← step (·.use parent)
  answered (world.stat place)

/-- `os.open("/", …)`, or `os.open(component, …, dir_fd=parent)` -/
def osOpen (parent : Option Descriptor) : Call Descriptor := do
  let place ← step (parent.elim Os.tick fun fd s => s.use fd)
  answer (world.refused place) ()
  let s ← get
  let number := world.number place (s.table.map (·.number))
  modify (·.opening number)
  return ⟨number, s.opens.length⟩

def osFstat (fd : Descriptor) : Call Stat := do
  let place ← step (·.use fd)
  answered ((world.fstat place).mapError .osError)

/-- No more is read than was asked for. -/
def osRead (fd : Descriptor) (size : Nat) : Call Bytes := do
  let place ← step (·.use fd)
  answered ((world.read place).map (·.take size))

def osLseek (fd : Descriptor) : Call Unit := do
  let place ← step (·.use fd)
  answer (world.seek place) ()

def osClose (fd : Descriptor) : Call Unit := do
  let place ← step (·.closing fd)
  answer ((world.close place).map .osError) ()

/-- `except OSError` around a `close`: what it says is raised where nothing is pending. -/
def closing (fd : Descriptor) (text : Str) (pending : Bool) : Call Unit :=
  rescue (osClose world fd) fun
    | .osError error => if pending then pure () else raiseClose (text ++ error)
    | error => throw error

/-- `_close_fd` -/
def closeFd (fd : Descriptor) (named : Str) (pending : Bool) : Call Unit :=
  closing world fd (lit "cannot close " ++ named ++ lit ": ") pending

/-! ## Walkers -/

/-- `open_fds` of a walker, the newest and the ones before it. -/
structure Fds where
  newest : Descriptor
  older : List Descriptor

def Fds.all (fds : Fds) : List Descriptor := fds.newest :: fds.older

/-- What sets the two walkers apart: whether the first descriptor is closed with the others, and the texts. -/
structure Walker where
  closeBase : Bool
  place : Str
  subject : Str → Str
  named : Str → Str

def Walker.cannot (walker : Walker) (verb : String) (component : Str) : Str :=
  walker.place ++ lit ": cannot " ++ lit verb ++ lit " " ++ walker.subject component ++ lit ": "

-- Whether the caller handles an exception already.
variable (outside : Bool)

/-- The body of the loop over the components. -/
def walkComponent (walker : Walker) (component : Str) (final : Bool) : Action (Os × Fds) Exc Unit := do
  let fds := (← get).2
  let named := walker.named component
  let pre ← apart (translate (walker.cannot "stat" component) (osStat world fds.newest))
  apart (attempt (check (pre.file.kind ≠ .symlink) (named ++ lit " is a symlink")))
  apart (attempt (if final then checkRegular pre.file.kind named
    else check (pre.file.kind = .directory) (named ++ lit " is not a directory")))
  let child ← apart (translate (walker.cannot "open" component) (osOpen world (some fds.newest)))
  modify fun s => (s.1, ⟨child, fds.newest :: fds.older⟩)
  let post ← apart (translate (walker.cannot "stat" component) (osFstat world child))
  apart (attempt (checkSame pre.file post.file (named ++ lit " changed while opening")))
  if walker.closeBase ∨ 3 ≤ fds.older.length + 2 then do
    -- `open_fds.pop(-2)` is the parent.
    modify fun s => (s.1, ⟨child, fds.older⟩)
    apart (closing world fds.newest (walker.cannot "close" component) outside)

/-- The loop, and the clean-up where it raised. -/
def walk (walker : Walker) (base : Descriptor) (components : List (Str × Bool)) : Call Descriptor :=
  locally ⟨base, []⟩ (rescue
    (do
      components.forM fun component => walkComponent world outside walker component.1 component.2
      return (← get).2.newest)
    fun error => do
      let fds := (← get).2
      apart (fds.all.reverse.forM fun fd =>
        if walker.closeBase ∨ fd.number ≠ base.number then closing world fd [] true else pure ())
      throw error)

/-- `_descend_directories` -/
def descendDirectories (base : Descriptor) (components : List Str) (pathText what : Str) (closeBase : Bool) :
    Call Descriptor :=
  walk world outside
    { closeBase := closeBase
      place := what
      subject := fun _ => pathText
      named := fun component => what ++ lit ": " ++ pathText ++ lit ": component " ++ strRepr component }
    base (components.map fun component => (component, false))

/-- `_open_source_no_follow` -/
def openSourceNoFollow (root : Descriptor) (components : List Str) (what : Str) : Call Descriptor :=
  walk world outside
    { closeBase := false
      place := what
      subject := strRepr
      named := fun component => what ++ lit ": " ++ strRepr component }
    root (components.zipIdx.map fun component => (component.1, decide (component.2 + 1 = components.length)))

/-! ## The root -/

def Stat.root (stat : Stat) : RootIdentity :=
  ⟨stat.file.identity.device, stat.file.identity.inode, stat.uid, stat.gid, stat.mode⟩

/-- `_open_canonical_root`. A path that starts at the root of the file system has a component. -/
def openCanonicalRoot (root : Str) : Call (Descriptor × RootIdentity) := do
  let named := catalogPlace ++ lit ": source root " ++ root
  attempt (check (root.head? = some (cp 47)) (named ++ lit " must be an absolute path"))
  let components := (root.splitOn (cp 47)).tail
  attempt (check (components.all fun part => !isDots part) (named ++ lit " is not a canonical absolute path"))
  let base ← translate (catalogPlace ++ lit ": cannot open source root " ++ root ++ lit ": ") (osOpen world none)
  let rootFd ← descendDirectories world outside base components (lit "source root " ++ root) catalogPlace true
  let entry ← rescue (osFstat world rootFd) fun
    | .osError error => do
      closeFd world rootFd (lit "source root " ++ root) false
      raiseContract (catalogPlace ++ lit ": cannot stat source root " ++ root ++ lit ": " ++ error)
    | error => throw error
  return (rootFd, entry.root)

/-- `_revalidate_root` -/
def revalidateRoot (root : Str) (expected : RootIdentity) : Call Unit := do
  let changed := catalogPlace ++ lit ": source root " ++ root ++ lit " changed during verification"
  let (fd, identity) ← rescue (openCanonicalRoot world outside root) fun
    | .contractError text => raiseContract (changed ++ lit ": " ++ text)
    | error => throw error
  always outside (attempt (check (identity = expected) changed)) (closeFd world fd (lit "source root " ++ root))

/-! ## Hashing -/

/-- The loop that reads what remains. -/
def readRemaining (fd : Descriptor) (hashBuffer remaining : Nat) (place : Str) : Call Bytes :=
  if remaining = 0 then pure []
  else do
    let chunk ← translate (place ++ lit ": cannot read: ") (osRead world fd (min hashBuffer remaining))
    if chunk = [] then raiseContract (place ++ lit " was truncated while reading")
    else do
      let rest ← readRemaining fd hashBuffer (remaining - chunk.length) place
      return chunk ++ rest
termination_by remaining
decreasing_by exact Nat.sub_lt (Nat.pos_of_ne_zero ‹_›) (List.length_pos_iff.mpr ‹_›)

variable (sha256 : Bytes → Str)

/-- `_hash_fd` -/
def hashFd (fd : Descriptor) (maxBytes hashBuffer : Nat) (place : Str) : Call (Nat × Str × FileIdentity) := do
  let before ← translate (place ++ lit ": cannot stat: ") (osFstat world fd)
  attempt (check (before.file.kind = .regular) (place ++ lit " is not a regular file"))
  let size := before.file.identity.size
  attempt (atMost size maxBytes
    (.contractError (place ++ lit " exceeds the " ++ natText maxBytes ++ lit "-byte bound")))
  let raw ← readRemaining world fd hashBuffer size place
  let after ← translate (place ++ lit ": cannot stat: ") (osFstat world fd)
  attempt (check (before.file.identity = after.file.identity) (place ++ lit " changed while reading"))
  return (size, sha256 raw, after.file.identity)

/-- `_hash_range_fd` -/
def hashRangeFd (fd : Descriptor) (start stop : Int) (expected : FileIdentity) (hashBuffer : Nat) (place : Str) :
    Call Str := do
  let before ← translate (place ++ lit ": cannot stat: ") (osFstat world fd)
  attempt (check (before.file.identity = expected) (place ++ lit ": source changed between verification passes"))
  attempt (check (start < stop) (place ++ lit ": section must be a nonempty half-open range"))
  translate (place ++ lit ": cannot seek: ") (osLseek world fd)
  let raw ← readRemaining world fd hashBuffer (stop - start).toNat place
  let after ← translate (place ++ lit ": cannot stat: ") (osFstat world fd)
  attempt (check (after.file.identity = expected) (place ++ lit ": source changed while reading section"))
  return sha256 raw

/-! ## The passes -/

variable (limits : CompileLimits)

/-- The body of the loop that hashes each source. -/
def hashSource (rootFd : Descriptor) (obligations : List ObligationRecord) (hashed : Hashed) (path : Str) :
    Call Hashed := do
  let fd ← openSourceNoFollow world outside rootFd (path.splitOn (cp 47)) (sourcePlace path)
  let (size, digest, identity) ← always outside
    (hashFd world sha256 fd limits.authorityFileBytesMax limits.authorityHashBufferMax (sourcePlace path))
    (closeFd world fd (sourcePlace path))
  let identities := hashed.identities ++ [(path, identity)]
  let total ← attempt (checkedAdd hashed.sourceBytesTotal size (lit "authority source bytes"))
  attempt (atMost total limits.authorityTotalBytesMax
    (exceedsText limits.authorityTotalBytesMax "-byte total source bound"))
  attempt (atMost identities.length limits.authorityFileCountMax
    (exceedsText limits.authorityFileCountMax "-file bound"))
  match (obligations.filter fun record => record.sourcePath = path).find? fun record =>
      record.sourceFileSha256 ≠ digest with
  | some record => raiseContract (catalogPlace ++ lit " record " ++ record.id ++ lit ": source " ++ path ++
      lit " does not match the catalog source_file_sha256")
  | none => return ⟨identities, total⟩

/-- The body of the loop that hashes each section. -/
def hashSection (rootFd : Descriptor) (identities : List (Str × FileIdentity)) (sectioned : Sectioned)
    (record : ObligationRecord) : Call Sectioned := do
  let named := catalogPlace ++ lit " record " ++ record.id
  let identity ← attempt (identityOf identities record.sourcePath)
  attempt (check (record.sectionStart < record.sectionEnd)
    (named ++ lit ": section must be a nonempty half-open range"))
  attempt (check (record.sectionEnd ≤ identity.size) (named ++ lit ": section_end " ++ intText record.sectionEnd ++
    lit " exceeds the source file length " ++ natText identity.size))
  let count := sectioned.sectionCount + 1
  attempt (atMost count limits.authoritySectionCountMax
    (exceedsText limits.authoritySectionCountMax "-section bound"))
  let total ← attempt (checkedAdd sectioned.sectionBytesTotal (record.sectionEnd - record.sectionStart).toNat
    (lit "authority section bytes"))
  attempt (atMost total limits.authoritySectionBytesTotalMax
    (exceedsText limits.authoritySectionBytesTotalMax "-byte section bound"))
  let fd ← openSourceNoFollow world outside rootFd (record.sourcePath.splitOn (cp 47)) (sourcePlace record.sourcePath)
  let digest ← always outside
    (hashRangeFd world sha256 fd record.sectionStart record.sectionEnd identity limits.authorityHashBufferMax
      (lit "record " ++ record.id ++ lit " section"))
    (closeFd world fd (sourcePlace record.sourcePath))
  attempt (check (digest = record.sectionSha256)
    (named ++ lit ": section digest mismatch for " ++ record.sourcePath))
  return ⟨count, total⟩

/-- The `try` block of `verify_obligation_sources`. -/
def verifyBelow (rootFd : Descriptor) (obligations : List ObligationRecord) (root : Str) (identity : RootIdentity) :
    Call SourceVerification := do
  let paths := distinctPaths obligations
  attempt (atMost paths.length limits.pathCountMax (exceedsText limits.pathCountMax "-path bound"))
  let _ ← attempt (paths.foldlM (addPath limits) 0)
  let hashed ← paths.foldlM (hashSource world outside sha256 limits rootFd obligations) ⟨[], 0⟩
  let sectioned ← obligations.foldlM (hashSection world outside sha256 limits rootFd hashed.identities) ⟨0, 0⟩
  revalidateRoot world outside root identity
  let held ← translate (catalogPlace ++ lit ": cannot stat source root " ++ root ++ lit ": ") (osFstat world rootFd)
  attempt (check (held.root = identity)
    (catalogPlace ++ lit ": source root " ++ root ++ lit " changed during verification"))
  return ⟨paths.length, hashed.sourceBytesTotal, sectioned.sectionCount, sectioned.sectionBytesTotal, root, identity⟩

/-- `verify_obligation_sources` -/
def verifyObligationSources (catalog : ObligationCatalog) (root : Str) (limits : Option CompileLimits) :
    Call SourceVerification := do
  let (rootFd, identity) ← openCanonicalRoot world outside root
  always outside (verifyBelow world outside sha256 (limits.getD .frozen) rootFd catalog.obligations root identity)
    (closeFd world rootFd (lit "source root " ++ root))

end Calls

end TurnVector.Obligations.Descriptors
