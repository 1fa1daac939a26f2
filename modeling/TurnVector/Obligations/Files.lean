import TurnVector.Canonical.Require
import TurnVector.Effects.Restricts

/-! # Reading files

`read_no_follow_regular` of `canonical.py`, and the two loops of `obligation_sources.py` that hash a file. What the
file system answers to each step is given; what is read comes out of the content of a file.
-/

namespace TurnVector.Obligations

open Python Effects

/-! ## Files -/

structure FileIdentity where
  device : Nat
  inode : Nat
  size : Nat
  mtimeNs : Int
  deriving DecidableEq

inductive FileKind where
  | regular
  | directory
  | symlink
  | other
  deriving DecidableEq

/-- A file's kind and what tells it from others. -/
structure FileStat where
  kind : FileKind
  identity : FileIdentity

/-- What the first `fstat` of an open file, the reads, the last `fstat` and `close` come to. A read returns one byte
more than `reads` gives, where so many are asked for and left. -/
structure OpenFile where
  before : Except Exc FileStat
  content : Bytes
  reads : Nat → Nat
  after : Except Exc FileStat
  closed : Except Exc Unit

/-- What `lstat` and `open` come to. -/
structure FileSteps where
  lstat : Except Exc FileStat
  opened : Except Exc OpenFile

/-- What `stat` and `open` of a component come to, with `fstat` of what was opened and `close` of where it was. -/
structure ComponentSteps where
  found : Except Exc FileStat
  opened : Except Exc FileStat
  closed : Except Exc Unit

def refuse {α : Type} (text : Str) : Except Exc α := .error (.contractError text)

def check (condition : Bool) (text : Str) : Except Exc Unit := if condition then .ok () else refuse text

def checkSame (found opened : FileStat) (text : Str) : Except Exc Unit :=
  check (found.identity.device = opened.identity.device && found.identity.inode = opened.identity.inode) text

/-- What is read must be a regular file. -/
def checkRegular (kind : FileKind) (named : Str) : Except Exc Unit :=
  match kind with
  | .regular => .ok ()
  | .symlink => refuse (named ++ lit " is a symlink, not a regular file")
  | .directory => refuse (named ++ lit " is a directory, not a regular file")
  | .other => refuse (named ++ lit " is a non-regular file, not a regular file")

/-- `finally: close(fd)`. What the body raised stays. -/
def closing {α : Type} (body : Except Exc α) (closed : Except Exc Unit) : Except Exc α :=
  match body with
  | .ok a => closed.map fun _ => a
  | .error e => .error e

/-- The loop that reads what remains, so many bytes at once. -/
def readChunks (reads : Nat → Nat) (buffer remaining : Nat) (content : Bytes) : Option Bytes :=
  if remaining = 0 then some []
  else
    let chunk := content.take (min (min buffer remaining) (reads 0 + 1))
    if chunk.length = 0 then none
    else
      (readChunks (fun k => reads (k + 1)) buffer (remaining - chunk.length) (content.drop chunk.length)).map
        fun rest => chunk ++ rest
termination_by remaining
decreasing_by exact Nat.sub_lt (Nat.pos_of_ne_zero ‹_›) (Nat.pos_of_ne_zero ‹_›)

/-- The loop returns what remains, unless the content is too short for it, however the reads are split. -/
theorem readChunks_eq (reads : Nat → Nat) (buffer remaining : Nat) (content : Bytes) (hbuffer : 0 < buffer) :
    readChunks reads buffer remaining content =
      if remaining ≤ content.length then some (content.take remaining) else none := by
  induction remaining using Nat.strong_induction_on generalizing reads content with
  | h remaining ih =>
    rw [readChunks]
    by_cases hzero : remaining = 0
    · simp [hzero]
    rw [if_neg hzero]
    have hlength : (content.take (min (min buffer remaining) (reads 0 + 1))).length =
        min (min (min buffer remaining) (reads 0 + 1)) content.length := List.length_take
    by_cases hempty : (content.take (min (min buffer remaining) (reads 0 + 1))).length = 0
    · rw [if_pos hempty, if_neg (by omega)]
    · rw [if_neg hempty, ih _ (by omega), List.length_drop]
      by_cases hle : remaining ≤ content.length
      · have htake : (content.take (min (min buffer remaining) (reads 0 + 1))).length =
            min (min buffer remaining) (reads 0 + 1) := by omega
        have hsplit : remaining = min (min buffer remaining) (reads 0 + 1) +
            (remaining - min (min buffer remaining) (reads 0 + 1)) := by omega
        rw [if_pos hle, if_pos (by omega), Option.map_some, htake]
        conv_rhs => rw [hsplit, List.take_add]
      · rw [if_neg hle, if_neg (by omega), Option.map_none]

/-- A larger buffer reads the same. -/
theorem readChunks_grow {reads : Nat → Nat} {buffer buffer' remaining : Nat} {content bytes : Bytes}
    (hle : buffer ≤ buffer') (h : readChunks reads buffer remaining content = some bytes) :
    readChunks reads buffer' remaining content = some bytes := by
  rcases Nat.eq_zero_or_pos buffer with hzero | hpos
  · have hremaining : remaining = 0 := by
      by_contra hne
      rw [readChunks, if_neg hne] at h
      simp [hzero] at h
    subst hremaining
    rw [readChunks, if_pos rfl] at h ⊢
    exact h
  · rw [readChunks_eq reads buffer remaining content hpos] at h
    rw [readChunks_eq reads buffer' remaining content (hpos.trans_le hle)]
    exact h

/-- `read_no_follow_regular` -/
def readNoFollowRegular (file : FileSteps) (path : Str) (maxBytes : Nat) (place : Str) : Except Exc Bytes := do
  let named := place ++ lit " " ++ path
  let found ← file.lstat
  checkRegular found.kind named
  let opened ← file.opened
  closing (do
    let before ← opened.before
    checkSame found before (named ++ lit " changed while opening")
    check (before.kind = .regular) (named ++ lit " is not a regular file")
    atMost before.identity.size maxBytes
      (.contractError (named ++ lit " exceeds the " ++ natText maxBytes ++ lit "-byte bound"))
    match readChunks opened.reads 65536 before.identity.size opened.content with
    | none => refuse (named ++ lit " was truncated while reading")
    | some raw => do
      let after ← opened.after
      check (found.identity = after.identity) (named ++ lit " changed while reading")
      return raw) opened.closed

/-! ## Descending -/

/-- The body of the loop over the components of a path. A directory is left open where it belongs to the caller. -/
def openComponent (final closes : Bool) (named : Str) (steps : ComponentSteps) : Except Exc Unit := do
  let found ← steps.found
  check (found.kind ≠ .symlink) (named ++ lit " is a symlink")
  if final then checkRegular found.kind named
  else check (found.kind = .directory) (named ++ lit " is not a directory")
  let opened ← steps.opened
  checkSame found opened (named ++ lit " changed while opening")
  if closes then steps.closed else pure ()

/-- `_descend_directories` from the root of the file system -/
def descendDirectories (steps : Nat → ComponentSteps) (components : List Str) (place : Str) : Except Exc Unit :=
  components.zipIdx.forM fun component =>
    openComponent false true (place ++ lit ": component " ++ strRepr component.1) (steps component.2)

/-- `_open_source_no_follow` -/
def openSourceNoFollow (steps : Nat → ComponentSteps) (components : List Str) (place : Str) : Except Exc Unit :=
  components.zipIdx.forM fun component =>
    openComponent (component.2 + 1 = components.length) (0 < component.2) (place ++ lit ": " ++ strRepr component.1)
      (steps component.2)

end TurnVector.Obligations
