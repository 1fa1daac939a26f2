import TurnVector.CompileLimits

/-! # Logical accounting

`compiler_accounting.py`: the retained arena, the seam for injected faults, and the counters of Phase C.
-/

namespace TurnVector

open Python

def phaseBScratchBytes : Nat := 2712

def sha256StateCharge : Nat := 256

def hashBufferCharge : Nat := 65536

/-! ## Accounting -/

/-- The fields of an `Accounting` under the names that its checks report. -/
def Accounting.fields (a : Accounting) : List (String × Nat) :=
  [("authority_file_count", a.authorityFileCount), ("authority_byte_count", a.authorityByteCount),
   ("section_count", a.sectionCount), ("section_byte_count", a.sectionByteCount),
   ("serialized_input_byte_count", a.serializedInputByteCount), ("catalog_record_count", a.catalogRecordCount),
   ("entity_count", a.entityCount), ("relation_record_count", a.relationRecordCount),
   ("endpoint_reference_count", a.endpointReferenceCount), ("path_count", a.pathCount),
   ("logical_arena_byte_count", a.logicalArenaByteCount), ("output_byte_count_attempted", a.outputByteCountAttempted)]

/-- `Accounting.__post_init__`, which runs whenever one is built. -/
def Accounting.checked (a : Accounting) : Except Exc Accounting := do
  a.fields.forM fun field => checkedNonnegativeU64 field.2 (lit "Accounting." ++ lit field.1)
  return a

theorem Accounting.checked_ok (a b : Accounting) :
    a.checked = .ok b ↔ b = a ∧ ∀ field ∈ a.fields, field.2 ≤ u64Max := by
  unfold checked
  rw [then_ok_iff, forM_ok_iff]
  simp only [checkedNonnegativeU64_ok, pure, Except.pure, Except.ok.injEq]
  constructor
  · rintro ⟨h, rfl⟩
    exact ⟨rfl, h⟩
  · rintro ⟨rfl, h⟩
    exact ⟨h, rfl⟩

/-! ## The counters of Phase C -/

/-- `_DerivedCounters` -/
structure DerivedCounters where
  rGng : Nat := 0
  rGnp : Nat := 0
  h : Nat := 0
  rCh : Nat := 0
  rGh : Nat := 0
  rHnj : Nat := 0
  rHe : Nat := 0
  deriving DecidableEq

namespace DerivedCounters

def accounting (c : DerivedCounters) (base : Accounting) (m arenaValue : Nat) : Except Exc Accounting :=
  Accounting.checked { base with
    entityCount := 852 + c.h
    relationRecordCount := 199 + m + c.rGng + c.rGnp + c.rCh + c.rGh + c.rHnj + c.rHe + c.h
    endpointReferenceCount :=
      398 + 2 * m + 2 * c.rGng + 2 * c.rGnp + 5 * c.h + 2 * c.rCh + 2 * c.rGh + 2 * c.rHnj + 2 * c.rHe
    pathCount := c.h
    logicalArenaByteCount := arenaValue
    outputByteCountAttempted := 0 }

def admitted (c : DerivedCounters) (label : String) : Except Exc DerivedCounters :=
  match label with
  | "gate_aggregate_negative" => .ok { c with rGng := c.rGng + 1 }
  | "gate_plumbing_negative" => .ok { c with rGnp := c.rGnp + 1 }
  | "enforcement_path" => .ok { c with h := c.h + 1 }
  | "path_case" => .ok { c with rCh := c.rCh + 1 }
  | "path_gate" => .ok { c with rGh := c.rGh + 1 }
  | "path_judge_negative" => .ok { c with rHnj := c.rHnj + 1 }
  | "path_evidence" => .ok { c with rHe := c.rHe + 1 }
  | _ => .error (.compilerInternalError (lit "unknown Phase C allocation label"))

end DerivedCounters

/-! ## The arena -/

/-- `RetainedArena` -/
structure RetainedArena where
  maximum : Nat
  used : Nat := 0
  highWater : Nat := 0
  lastCandidate : Nat := 0
  deriving DecidableEq

/-- `_FaultInjector` -/
structure FaultInjector where
  target : Option Nat
  ordinal : Nat := 0
  fired : Bool := false
  deriving DecidableEq

/-- What a run of the compiler writes: its arena, its injector, and its live reservations. -/
structure Machine where
  arena : RetainedArena
  fault : Option FaultInjector
  hashLive : Bool := false
  digestLive : Bool := false
  counters : DerivedCounters := {}
  deriving DecidableEq

/-- `_FaultInjector.before_modeled_allocation` -/
def beforeModeledAllocation (label : String) : Method Machine Unit := do
  let s ← get
  match s.fault with
  | none => return
  | some fault =>
    let ordinal ← liftM (checkedAdd fault.ordinal 1 (lit "modeled allocation ordinal"))
    if !fault.fired && fault.target = some ordinal then
      set { s with fault := some { target := none, ordinal, fired := true } }
      throw (.memoryError (lit "injected modeled allocation failure: " ++ lit label))
    set { s with fault := some { fault with ordinal } }

/-- `RetainedArena.candidate`, noted in `last_candidate`. -/
def noteCandidate (amount : Nat) : Method Machine Nat := do
  let s ← get
  liftM (checkedNonnegativeU64 amount (lit "RetainedArena reservation"))
  let candidate ← liftM (checkedAdd s.arena.used amount (lit "RetainedArena reservation"))
  set { s with arena := { s.arena with lastCandidate := candidate } }
  return candidate

def raiseHighWater (n : Nat) : Method Machine Unit :=
  modify fun s => { s with arena := { s.arena with highWater := max s.arena.highWater n } }

/-- `RetainedArena.reserve` -/
def reserve (amount : Nat) : Method Machine Bool := do
  let candidate ← noteCandidate amount
  raiseHighWater candidate
  if (← get).arena.maximum < candidate then return false
  modify fun s => { s with arena := { s.arena with used := candidate } }
  return true

/-- `RetainedArena.release` -/
def release (amount : Nat) : Method Machine Unit := do
  liftM (checkedNonnegativeU64 amount (lit "RetainedArena release"))
  let s ← get
  if s.arena.used < amount then throw (.compilerInternalError (lit "arena release exceeds retained charge"))
  set { s with arena := { s.arena with used := s.arena.used - amount } }

/-- `RetainedArena.modeled_allocate` of an object that is always had; false is its `None`. -/
def modeledAllocate (amount : Nat) (label : String) : Method Machine Bool := do
  let candidate ← noteCandidate amount
  if (← get).arena.maximum < candidate then
    raiseHighWater candidate
    return false
  beforeModeledAllocation label
  modify fun s => { s with arena := { s.arena with used := candidate } }
  raiseHighWater candidate
  return true

end TurnVector
