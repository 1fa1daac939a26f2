import Mathlib.Data.Rat.Defs
import TurnVector.Effects.Triple
import TurnVector.Python.Text

/-! # Draining a Git child

`_drain_bounded` of `source_verification.py`. What a call of the operating system comes to may depend on all that
happened before.
-/

namespace TurnVector.Git

open Python Effects Action

/-! ## The child -/

inductive Pipe where
  | stdout
  | stderr
  deriving DecidableEq

def Pipe.name : Pipe → Str
  | .stdout => lit "stdout"
  | .stderr => lit "stderr"

/-- What `select.select` comes to: `EINTR`, another `OSError`, or the pipes that are ready. -/
inductive Selected where
  | interrupted
  | failed
  | ready (pipes : Pipe → Bool)

/-- `gone` is `ProcessLookupError`, `failed` any other `OSError`. -/
inductive Killed where
  | sent
  | gone
  | failed
  deriving DecidableEq

inductive Waited where
  | exited
  | expired
  | failed (text : Str)
  deriving DecidableEq

inductive Event where
  | started (now : ℚ)
  | remaining (left : ℚ)
  | selected (outcome : Selected)
  | read (pipe : Pipe) (size : Nat) (chunk : Option Bytes)
  | polled (running : Bool)
  | killed (outcome : Killed)
  | reaped (done : Bool)
  | waited (outcome : Waited)

/-- What calls come to, given what happened before, the last event first. A read fails, or gives no more than so many
bytes besides the first one. -/
structure World where
  clock : List Event → ℚ
  select : List Event → Selected
  read : List Event → Option Nat
  running : List Event → Bool
  kill : List Event → Killed
  reap : List Event → Bool
  wait : List Event → Waited

inductive Raised where
  | contractError (text : Str)
  | osError (text : Str)
  | stopIteration
  deriving DecidableEq

/-- What is still in the pipes, what was taken from them, and the pipes that did not end. -/
structure State where
  log : List Event
  rest : Pipe → Bytes
  buffer : Pipe → Bytes
  active : List Pipe

abbrev Drain (α : Type) := Action State Raised α

/-- What a child writes to a pipe. -/
def contents (streams : Pipe → Option Bytes) (pipe : Pipe) : Bytes := (streams pipe).getD []

/-- A pipe that is `None` is not drained. -/
def State.start (streams : Pipe → Option Bytes) : State where
  log := []
  rest := contents streams
  buffer := fun _ => []
  active := [.stdout, .stderr].filter fun pipe => (streams pipe).isSome

def State.note (s : State) (event : Event) : State := { s with log := event :: s.log }

def State.finish (s : State) (pipe : Pipe) : State := { s with active := s.active.erase pipe }

def State.receive (s : State) (pipe : Pipe) (chunk : Bytes) : State :=
  { s with
    rest := Function.update s.rest pipe ((s.rest pipe).drop chunk.length)
    buffer := Function.update s.buffer pipe (s.buffer pipe ++ chunk) }

/-- A call, and its event. -/
def call {β : Type} (answer : List Event → β) (event : β → Event) : Drain β := do
  let outcome := answer (← get).log
  modify (·.note (event outcome))
  return outcome

section Code

variable (world : World)

/-! ## Giving up -/

def terminationFailed : Str := lit "git child termination failed"

def kill : Drain Unit := do
  let outcome ← call world.kill .killed
  onlyIf (outcome = .failed) (throw (.contractError terminationFailed))

/-- `_kill_and_reap` -/
def killAndReap : Drain Unit := do
  let running ← call world.running .polled
  onlyIf (running = true) (kill world)
  let reaped ← call world.reap .reaped
  onlyIf (reaped = false) (throw (.contractError terminationFailed))

def giveUp {α : Type} (text : Str) : Drain α := do
  killAndReap world
  throw (.contractError text)

/-- The check of the deadline. -/
def checkDeadline (deadline : ℚ) : Drain Unit := do
  let left ← call (fun log => deadline - world.clock log) .remaining
  onlyIf (left ≤ 0) (giveUp world (lit "git invocation timed out"))

/-! ## Draining -/

variable (cap : Pipe → Nat)

/-- What `os.read` comes to. -/
def readChunk (pipe : Pipe) (size : Nat) (rest : Bytes) : Drain (Option Bytes) :=
  call (fun log => (world.read log).map fun more => rest.take (min (more + 1) size)) (.read pipe size)

def overBounded (pipe : Pipe) : Drain Unit := do
  let s ← get
  onlyIf (cap pipe < (s.buffer pipe).length) (giveUp world (lit "git produced over-bounded " ++ pipe.name))

/-- The body of the loop over the pipes that are ready. -/
def readPipe (pipe : Pipe) : Drain Unit := do
  let s ← get
  onlyIf (pipe ∉ s.active) (throw .stopIteration)
  let chunk ← readChunk world pipe (min 65536 (cap pipe + 1 - (s.buffer pipe).length)) (s.rest pipe)
  match chunk with
  | none => giveUp world (lit "git pipe read failed")
  | some [] => modify (·.finish pipe)
  | some (first :: more) => do
    modify (·.receive pipe (first :: more))
    overBounded world cap pipe

/-- The body of the `while` loop. -/
def turn (deadline : ℚ) : Drain Unit := do
  checkDeadline world deadline
  let selected ← call world.select .selected
  match selected with
  | .interrupted => pure ()
  | .failed => giveUp world (lit "git pipe read failed")
  | .ready pipes => do
    let readable := (← get).active.filter pipes
    readable.forM (readPipe world cap)

/-- So many turns of the `while` loop, or fewer if it ends: whether it ended. -/
def loop (deadline : ℚ) : Nat → Drain Bool
  | 0 => do return (← get).active.isEmpty
  | turns + 1 => do
    if (← get).active.isEmpty then return true
    else do
      turn world cap deadline
      loop deadline turns

/-- What follows the `while` loop. -/
def finish (deadline : ℚ) : Drain (Option (Bytes × Bytes)) := do
  checkDeadline world deadline
  let waited ← call world.wait .waited
  match waited with
  | .exited => do
    let s ← get
    return some (s.buffer .stdout, s.buffer .stderr)
  | .expired => giveUp world (lit "git invocation timed out")
  | .failed text => throw (.osError text)

/-- `_drain_bounded`, when its loop made so many turns: it may run still. -/
def drainBounded (timeout : ℚ) (turns : Nat) : Drain (Option (Bytes × Bytes)) := do
  let now ← call world.clock .started
  let deadline := now + timeout
  let ended ← loop world cap deadline turns
  if ended then finish world deadline else return none

end Code

end TurnVector.Git
