import TurnVector.CrossEngine.Contracts

/-! # Baseline promotion

`promote_baseline` of `cross_engine/baseline.py`: what it prepares, and its steps on the file system. The exclusive
create and the rename are one step each, and every step may fail.
-/

namespace TurnVector.CrossEngine

open Python Json
open Contracts (reject)

/-! ## Receipts -/

/-- What the standard library says of a text. -/
structure Clock where
  isDecimal : CodePoint → Bool
  fromIsoformat : Str → Bool
  now : Str

/-- The characters of a pattern: `d` stands for a decimal digit. -/
def fits (clock : Clock) : Str → Str → Bool
  | [], [] => true
  | p :: pattern, c :: text => (if p = cp 100 then clock.isDecimal c else c = p) && fits clock pattern text
  | _, _ => false

/-- The zone of a timestamp. -/
def isZone (clock : Clock) (text : Str) : Bool :=
  text = lit "Z" || fits clock (lit "+dd:dd") text || fits clock (lit "-dd:dd") text

/-- `_RFC3339_RE.fullmatch` -/
def isRfc3339 (clock : Clock) (text : Str) : Bool :=
  let rest := text.drop 19
  fits clock (lit "dddd-dd-ddTdd:dd:dd") (text.take 19) &&
    match rest with
    | c :: digits =>
      if c = cp 46 then
        !(digits.takeWhile clock.isDecimal).isEmpty && isZone clock (digits.dropWhile clock.isDecimal)
      else isZone clock rest
    | [] => false

/-- `_timestamp`, of which only the check is used. `fromIsoformat` answers whether the text has a timezone. -/
def checkTimestamp (clock : Clock) (value : Json) (place : Str) : Except Raised Unit :=
  let refusal := reject (place ++ lit " must be RFC 3339 with a timezone")
  match value with
  | .str text =>
    let text' := if text.getLast? = some (cp 90) then text.dropLast ++ lit "+00:00" else text
    if isRfc3339 clock text && clock.fromIsoformat text' then .ok () else refusal
  | _ => refusal

/-- `_digest` -/
def digest (value : Json) (place : Str) : Except Raised Unit :=
  match value with
  | .str text =>
    if Canonical.isSha256 text then .ok () else reject (place ++ lit " must be a lowercase SHA-256")
  | _ => reject (place ++ lit " must be a lowercase SHA-256")

/-- `_text` -/
def nonEmptyText (value : Json) (place : Str) : Except Raised Unit :=
  match value with
  | .str (_ :: _) => .ok ()
  | _ => reject (place ++ lit " must be a non-empty string")

def baselineSchema : Str := lit "turnvector.benchmark.cross-engine-baseline-receipt.v1"

structure BaselineReceipt where
  authorityId : Json
  promotedAt : Json
  evidenceRootSha256 : Json
  profileSha256 : Json
  scenarioSetSha256 : Json
  targetSha256 : Json
  modelSha256 : Json
  physicalHostSha256 : Json
  supersededBaselineSha256 : Json
  deriving DecidableEq

/-- `as_dict` -/
def BaselineReceipt.asDict (clock : Clock) (receipt : BaselineReceipt) : Except Raised Json := do
  nonEmptyText receipt.authorityId (lit "authority_id")
  nonEmptyText receipt.promotedAt (lit "promoted_at")
  digest receipt.evidenceRootSha256 (lit "evidence_root_sha256")
  digest receipt.profileSha256 (lit "profile_sha256")
  digest receipt.scenarioSetSha256 (lit "scenario_set_sha256")
  digest receipt.targetSha256 (lit "target_sha256")
  digest receipt.modelSha256 (lit "model_sha256")
  digest receipt.physicalHostSha256 (lit "physical_host_sha256")
  if receipt.supersededBaselineSha256 = .null then .ok ()
  else digest receipt.supersededBaselineSha256 (lit "superseded_baseline_sha256")
  checkTimestamp clock receipt.promotedAt (lit "promoted_at")
  return .obj [(lit "schema_version", .str baselineSchema),
    (lit "authority_id", receipt.authorityId),
    (lit "promoted_at", receipt.promotedAt),
    (lit "evidence_root_sha256", receipt.evidenceRootSha256),
    (lit "profile_sha256", receipt.profileSha256),
    (lit "scenario_set_sha256", receipt.scenarioSetSha256),
    (lit "target_sha256", receipt.targetSha256),
    (lit "model_sha256", receipt.modelSha256),
    (lit "physical_host_sha256", receipt.physicalHostSha256),
    (lit "superseded_baseline_sha256", receipt.supersededBaselineSha256)]

/-- `_canonical` -/
def canonicalLine (value : Json) : Except Raised Bytes :=
  match encodeAscii (dumps .compact 0 value) with
  | some text => .ok (text ++ [lf])
  | none => reject (lit "baseline receipt is not canonical JSON")

def BaselineReceipt.canonicalBytes (clock : Clock) (receipt : BaselineReceipt) : Except Raised Bytes := do
  canonicalLine (← receipt.asDict clock)

/-! ## Evidence -/

/-- What a path under the evidence root is. -/
inductive EvidenceEntry where
  | symlink
  | directory
  | file (raw : Bytes)
  | other

variable (clock : Clock) (sha256 : Bytes → Str)

/-- One path under the evidence root, of those in order. -/
def recordEvidence (records : List Json) (entry : Str × EvidenceEntry) : Except Raised (List Json) :=
  match entry.2 with
  | .symlink => reject (lit "baseline evidence must not contain symlinks")
  | .directory => .ok records
  | .file raw => .ok (records ++ [.obj [(lit "path", .str entry.1), (lit "size", .int raw.length),
      (lit "sha256", .str (sha256 raw))]])
  | .other => reject (lit "baseline evidence must contain regular files only")

/-- `evidence_tree_digest`, of a root that is a directory with the paths under it, or no directory. -/
def evidenceTreeDigest (root : Option (List (Str × EvidenceEntry))) : Except Raised (Str × List Json) :=
  match root with
  | none => reject (lit "baseline evidence root must be a directory")
  | some entries => do
    let records ← (entries.insertionSort fun a b => a.1 ≤ b.1).foldlM (recordEvidence sha256) []
    if records.isEmpty then reject (lit "baseline evidence root must not be empty")
    else do
      let lines ← records.mapM canonicalLine
      return (sha256 lines.flatten, records)

/-! ## What a call prepares -/

/-- The arguments of a call of one baseline. `registry` is what making the registry's directory answers. -/
structure Request where
  evidenceRoot : Option (List (Str × EvidenceEntry))
  authorityId : Json
  identities : List (Str × Json)
  supersededBaselineSha256 : Json
  promotedAt : Option Str
  registry : Except Raised Unit

/-- A receipt with the bytes of the three files. -/
structure Promotion where
  receipt : BaselineReceipt
  inventoryBytes : Bytes
  receiptBytes : Bytes
  commitBytes : Bytes

def isBaselineIdChar (c : CodePoint) : Bool :=
  (97 ≤ c.val && c.val ≤ 122) || (48 ≤ c.val && c.val ≤ 57) || c = cp 46 || c = cp 95 || c = cp 45

def identityKeys : List Str :=
  ["profile_sha256", "scenario_set_sha256", "target_sha256", "model_sha256", "physical_host_sha256"].map lit

/-- The text of the marker. -/
def commitMarker (receiptBytes : Bytes) : Bytes := (sha256 receiptBytes ++ [cp 10]).map fun c => byte c.val

/-- `identities[key]`, of a key that is there. -/
def identityOf (identities : List (Str × Json)) (key : String) : Json := (identities.lookup (lit key)).getD .null

def receiptOf (request : Request) (rootDigest : Str) : BaselineReceipt where
  authorityId := request.authorityId
  promotedAt := .str (match request.promotedAt with
    | some (c :: text) => c :: text
    | _ => clock.now)
  evidenceRootSha256 := .str rootDigest
  profileSha256 := identityOf request.identities "profile_sha256"
  scenarioSetSha256 := identityOf request.identities "scenario_set_sha256"
  targetSha256 := identityOf request.identities "target_sha256"
  modelSha256 := identityOf request.identities "model_sha256"
  physicalHostSha256 := identityOf request.identities "physical_host_sha256"
  supersededBaselineSha256 := request.supersededBaselineSha256

/-- `promote_baseline` up to the staging directory. -/
def prepare (baselineId : Str) (request : Request) : Except Raised Promotion :=
  if baselineId.isEmpty || !baselineId.all isBaselineIdChar then reject (lit "baseline ID is invalid")
  else if !((request.identities.map (·.1)).all (occurs · identityKeys) &&
      identityKeys.all (occurs · (request.identities.map (·.1)))) then
    reject (lit "baseline identities must have the exact required key set")
  else do
    let (rootDigest, records) ← evidenceTreeDigest sha256 request.evidenceRoot
    let receipt := receiptOf clock request rootDigest
    request.registry
    let receiptBytes ← receipt.canonicalBytes clock
    let inventoryBytes ← canonicalLine (.obj [(lit "records", .arr records)])
    return ⟨receipt, inventoryBytes, receiptBytes, commitMarker sha256 receiptBytes⟩

/-! ## The file system -/

/-- The files that are staged. -/
inductive StagedFile where
  | inventory
  | receipt
  | marker
  deriving DecidableEq

def StagedFile.name : StagedFile → Str
  | .inventory => lit "inventory.json"
  | .receipt => lit "receipt.json"
  | .marker => lit "COMMITTED"

def Promotion.bytes (promotion : Promotion) : StagedFile → Bytes
  | .inventory => promotion.inventoryBytes
  | .receipt => promotion.receiptBytes
  | .marker => promotion.commitBytes

abbrev Dir := List (Str × Bytes)

/-- What is at the path of the baseline. -/
inductive Target where
  | absent
  | directory (dir : Dir)
  | other
  deriving DecidableEq

/-- The paths of the registry that calls of one baseline touch: a staging directory a call, the lock, the target. -/
structure Registry where
  staging : Nat → Option Dir
  lock : Bool
  target : Target

def Registry.setStaging (registry : Registry) (call : Nat) (dir : Option Dir) : Registry :=
  { registry with staging := Function.update registry.staging call dir }

/-- Whether the system does a step. A write that fails leaves the start of its bytes. -/
inductive Answer where
  | done
  | failed (kept : Nat)
  deriving DecidableEq

/-! ## The steps of a call -/

/-- What a call does next. In the `finally`, `committed` says whether it has renamed. -/
inductive PromotionPhase where
  | start
  | create (file : StagedFile)
  | write (file : StagedFile)
  | sync (file : StagedFile)
  | lock
  | test
  | rename
  | close (committed : Bool)
  | unlock (committed : Bool)
  | unlink (file : StagedFile)
  | rmdir
  | returned
  | raised
  deriving DecidableEq

/-- What follows a file that is written. -/
def afterSync : StagedFile → PromotionPhase
  | .inventory => .create .receipt
  | .receipt => .create .marker
  | .marker => .lock

/-- The start of `_cleanup_staging`. -/
def cleanup : PromotionPhase := .unlink .marker

def afterUnlink : StagedFile → PromotionPhase
  | .marker => .unlink .inventory
  | .inventory => .unlink .receipt
  | .receipt => .rmdir

/-- The end of the `finally` of a call that held the lock. -/
def afterUnlock (committed : Bool) : PromotionPhase := if committed then .returned else cleanup

/-- `open("xb")` in the staging directory. -/
def createFile (registry : Registry) (call : Nat) (file : StagedFile) : PromotionPhase × Registry :=
  match registry.staging call with
  | some dir =>
    if occurs file.name (dir.map (·.1)) then (cleanup, registry)
    else (.write file, registry.setStaging call (some (dir ++ [(file.name, [])])))
  | none => (cleanup, registry)

/-- A file of the staging directory gets its bytes, or the start of them. -/
def writeFile (registry : Registry) (call : Nat) (file : StagedFile) (raw : Bytes) : Registry :=
  registry.setStaging call ((registry.staging call).map fun dir => setItem dir file.name raw)

/-- `os.rename(staging, target)`. A directory can only replace an empty one. -/
def renameStaging (registry : Registry) (call : Nat) : PromotionPhase × Registry :=
  match registry.staging call with
  | some dir =>
    if registry.target = .absent ∨ registry.target = .directory [] then
      (.close true, { registry.setStaging call none with target := .directory dir })
    else (.close false, registry)
  | none => (.close false, registry)

/-- One step of a call. -/
def perform (promotion : Promotion) (call : Nat) : PromotionPhase → Answer → Registry → PromotionPhase × Registry
  | .start, .done, registry => (.create .inventory, registry.setStaging call (some []))
  | .start, .failed _, registry => (.raised, registry)
  | .create file, .done, registry => createFile registry call file
  | .create _, .failed _, registry => (cleanup, registry)
  | .write file, .done, registry => (.sync file, writeFile registry call file (promotion.bytes file))
  | .write file, .failed kept, registry =>
    (cleanup, writeFile registry call file ((promotion.bytes file).take kept))
  | .sync file, .done, registry => (afterSync file, registry)
  | .sync _, .failed _, registry => (cleanup, registry)
  | .lock, .done, registry => if registry.lock then (cleanup, registry) else (.test, { registry with lock := true })
  | .lock, .failed _, registry => (cleanup, registry)
  | .test, .done, registry => (if registry.target = .absent then .rename else .close false, registry)
  | .test, .failed _, registry => (.close false, registry)
  | .rename, .done, registry => renameStaging registry call
  | .rename, .failed _, registry => (.close false, registry)
  | .close committed, _, registry => (.unlock committed, registry)
  | .unlock committed, .done, registry => (afterUnlock committed, { registry with lock := false })
  | .unlock committed, .failed _, registry => (afterUnlock committed, registry)
  | .unlink file, .done, registry => (afterUnlink file, registry.setStaging call
      ((registry.staging call).map fun dir => dir.filter fun entry => entry.1 ≠ file.name))
  | .unlink file, .failed _, registry => (afterUnlink file, registry)
  | .rmdir, .done, registry =>
    (.raised, if registry.staging call = some [] then registry.setStaging call none else registry)
  | .rmdir, .failed _, registry => (.raised, registry)
  | .returned, _, registry => (.returned, registry)
  | .raised, _, registry => (.raised, registry)

/-! ## Runs -/

structure World where
  registry : Registry
  phase : Nat → PromotionPhase

/-- The registry before the first call of the run, with no staging directory of it. -/
def started (lock : Bool) (target : Target) : World := ⟨⟨fun _ => none, lock, target⟩, fun _ => .start⟩

/-- One step of one call. A call that could prepare nothing raises. -/
def World.step (calls : Nat → Except Raised Promotion) (world : World) (event : Nat × Answer) : World :=
  match calls event.1 with
  | .ok promotion =>
    let (phase, registry) := perform promotion event.1 (world.phase event.1) event.2 world.registry
    ⟨registry, Function.update world.phase event.1 phase⟩
  | .error _ => ⟨world.registry, Function.update world.phase event.1 .raised⟩

/-- A run of any calls, their steps in any order. -/
def World.run (calls : Nat → Except Raised Promotion) (world : World) (schedule : List (Nat × Answer)) : World :=
  schedule.foldl (World.step calls) world

end TurnVector.CrossEngine
