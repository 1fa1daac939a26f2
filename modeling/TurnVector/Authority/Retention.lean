import TurnVector.Authority.Accounting
import TurnVector.Authority.Enforcement

/-! # Accounting along Phase C

Phase C without its hook is a script: the records that it retains, in order, and what it then returns or raises.
-/

namespace TurnVector.Relations

open Python Json Canonical Table TraceabilityLedger

/-! ## Scripts -/

/-- A record that Phase C retains. -/
inductive Retention where
  | gateAggregateNegative (record : Str × Str)
  | gatePlumbingNegative (record : Str × Str)
  | enforcementPath (path : EnforcementPath)
  | pathCase (record : Str × Str)
  | pathGate (record : Str × Str)
  | pathJudgeNegative (record : Str × Str)
  | pathEvidence (record : Str × Str)

namespace Retention

def label : Retention → String
  | gateAggregateNegative _ => "gate_aggregate_negative"
  | gatePlumbingNegative _ => "gate_plumbing_negative"
  | enforcementPath _ => "enforcement_path"
  | pathCase _ => "path_case"
  | pathGate _ => "path_gate"
  | pathJudgeNegative _ => "path_judge_negative"
  | pathEvidence _ => "path_evidence"

def charge : Retention → Nat
  | enforcementPath path => 48 + path.pathId.length
  | _ => 24

def isPath : Retention → Bool
  | enforcementPath _ => true
  | _ => false

end Retention

/-- The records retained, and the hook calls without a record before what is raised. -/
structure Script (α : Type) where
  kept : List Retention
  result : Except (List (String × Nat) × Exc) α

namespace Script

instance : Monad Script where
  pure a := ⟨[], .ok a⟩
  bind s f :=
    match s.result with
    | .ok a => ⟨s.kept ++ (f a).kept, (f a).result⟩
    | .error e => ⟨s.kept, .error e⟩

/-- A hook call, and then the record. -/
def keep (r : Retention) : Script Unit := ⟨[r], .ok ()⟩

/-- A hook call, and then a record of what is looked up after it. -/
def keepLooked (found : Except Exc Str) (record : Str → Retention) : Script Str :=
  match found with
  | .ok v => ⟨[record v], .ok v⟩
  | .error e => ⟨[], .error ([((record []).label, (record []).charge)], e)⟩

def lift {α : Type} (e : Except Exc α) : Script α :=
  match e with
  | .ok a => ⟨[], .ok a⟩
  | .error e => ⟨[], .error ([], e)⟩

/-- The script with its hook calls. -/
def perform {σ α : Type} (hook : String → Nat → Method σ Unit) (s : Script α) : Method σ α := do
  s.kept.forM fun r => hook r.label r.charge
  match s.result with
  | .ok a => return a
  | .error (calls, e) => do
    calls.forM fun call => hook call.1 call.2
    throw e

end Script

section
variable (v : PhaseBResult)

def retainGate (gate : Str × Str) : Script ((Str × Str) × (Str × Str)) := do
  let aggregate ← Script.keepLooked (lookupRecord v.aggregateTemplates gate.2) fun t => .gateAggregateNegative (gate.2, t)
  let plumbing ← Script.keepLooked (lookupRecord v.plumbingTemplates gate.2) fun t => .gatePlumbingNegative (gate.2, t)
  return ((gate.2, aggregate), (gate.2, plumbing))

def retainPath (bundle judge : Str) (pair : Pair) (caseId : Str) : Script PathRecords := do
  let pathId ← Script.lift (encodeEnforcementPath pair.obligationId caseId judge bundle pair.gateId)
  Script.keep (.enforcementPath ⟨pathId, pair.obligationId, caseId, judge, bundle, pair.gateId⟩)
  Script.keep (.pathCase (pathId, caseId))
  Script.keep (.pathGate (pathId, pair.gateId))
  let template ← Script.keepLooked (lookupRecord v.judgeTemplates pair.obligationId) fun t => .pathJudgeNegative (pathId, t)
  let sources := sortedBy (fun s => [s]) (membersOf v.toTables bundle)
  sources.forM fun source => Script.keep (.pathEvidence (pathId, source))
  return {
    path := ⟨pathId, pair.obligationId, caseId, judge, bundle, pair.gateId⟩
    case := (pathId, caseId)
    gate := (pathId, pair.gateId)
    judgeNegative := (pathId, template)
    evidence := sources.map fun source => (pathId, source) }

def retainPair (lane : Lane) (bundle : Str) (pair : Pair) : Script (List PathRecords) := do
  let judge ← Script.lift (lookupRecord v.obligationJudges pair.obligationId)
  (sortedBy (fun c => [c]) lane.caseIds).mapM (retainPath v bundle judge pair)

def retainLane (lane : Lane) : Script (List PathRecords) := do
  let bundle ← Script.lift (lookupRecord v.bundles lane.laneId)
  let pairs := v.pairs.filter fun p => p.laneId = lane.laneId
  let records ← (sortedBy (fun p => [p.laneId, p.obligationId, p.gateId]) pairs).mapM (retainPair v lane bundle)
  return records.flatten

/-- `derive_relations`, record by record. -/
def retaining : Script DerivedRelations := do
  let gates ← (sortedBy (fun g => [g.1, g.2]) v.gates).mapM (retainGate v)
  let records ← v.lanes.mapM (retainLane v)
  let paths := records.flatten
  let evidence := paths.flatMap (·.evidence)
  if paths.length ≠ v.h ∨ evidence.length ≠ v.rHe then
    Script.lift (.error (.compilerInternalError (lit "Phase C relation count diverged from Phase B")))
  return {
    gateAggregateNegative := gates.map (·.1)
    gatePlumbingNegative := gates.map (·.2)
    enforcementPaths := paths.map (·.path)
    pathCase := paths.map (·.case)
    pathGate := paths.map (·.gate)
    pathJudgeNegative := paths.map (·.judgeNegative)
    pathEvidence := evidence }

end

/-! ## A script and its hook calls are Phase C -/

namespace Script

section
variable {α β : Type}

@[simp] theorem kept_pure (a : α) : (pure a : Script α).kept = [] := rfl

@[simp] theorem result_pure (a : α) : (pure a : Script α).result = .ok a := rfl

theorem bind_of_ok {s : Script α} {a : α} (h : s.result = .ok a) (f : α → Script β) :
    s >>= f = ⟨s.kept ++ (f a).kept, (f a).result⟩ := by
  show (match s.result with | .ok a => _ | .error e => _) = _
  rw [h]

theorem bind_of_error {s : Script α} {e : List (String × Nat) × Exc} (h : s.result = .error e) (f : α → Script β) :
    s >>= f = ⟨s.kept, .error e⟩ := by
  show (match s.result with | .ok a => _ | .error e => _) = _
  rw [h]

theorem map_same (s : Script α) : id <$> s = s := by
  rcases h : s.result with e | a
  · exact (bind_of_error h _).trans (by rw [← h])
  · refine (bind_of_ok h _).trans ?_
    show Script.mk (s.kept ++ []) (.ok a) = s
    rw [List.append_nil, ← h]

theorem bind_bind (s : Script α) (f : α → Script β) (g : β → Script γ) :
    s >>= f >>= g = s >>= fun a => f a >>= g := by
  rcases h : s.result with e | a
  · rw [bind_of_error h, bind_of_error h, bind_of_error rfl]
  · rw [bind_of_ok h, bind_of_ok h]
    rcases hf : (f a).result with e | b
    · rw [bind_of_error rfl, bind_of_error hf]
    · rw [bind_of_ok rfl, bind_of_ok hf, List.append_assoc]

instance : LawfulMonad Script := LawfulMonad.mk' Script map_same
  (fun a f => by rw [bind_of_ok (result_pure a), kept_pure, List.nil_append]) bind_bind

section
variable {σ : Type} (hook : String → Nat → Method σ Unit)

theorem perform_of_ok {s : Script α} {a : α} (h : s.result = .ok a) :
    perform hook s = (do
      s.kept.forM fun r => hook r.label r.charge
      return a) := by
  unfold perform
  rw [h]

theorem perform_of_error {s : Script α} {calls : List (String × Nat)} {e : Exc} (h : s.result = .error (calls, e)) :
    perform hook s = (do
      s.kept.forM fun r => hook r.label r.charge
      calls.forM fun call => hook call.1 call.2
      throw e) := by
  unfold perform
  rw [h]

@[simp] theorem perform_pure (a : α) : perform hook (pure a) = pure a := by
  rw [perform_of_ok hook (result_pure a)]
  rfl

theorem perform_bind (s : Script α) (f : α → Script β) :
    perform hook (s >>= f) = perform hook s >>= fun a => perform hook (f a) := by
  rcases h : s.result with ⟨calls, e⟩ | a
  · rw [bind_of_error h, perform_of_error hook h, perform_of_error hook rfl]
    simp [bind_assoc]
  · rw [bind_of_ok h, perform_of_ok hook h]
    unfold perform
    simp [List.forM_append, bind_assoc]

theorem perform_mapM (f : α → Script β) (xs : List α) :
    perform hook (xs.mapM f) = xs.mapM fun x => perform hook (f x) := by
  induction xs with
  | nil => exact perform_pure hook []
  | cons x xs ih => simp only [List.mapM_cons, perform_bind, ih, perform_pure]

theorem perform_forM (f : α → Script Unit) (xs : List α) :
    perform hook (xs.forM f) = xs.forM fun x => perform hook (f x) := by
  induction xs with
  | nil => exact perform_pure hook ()
  | cons x xs ih => simp only [List.forM, perform_bind, ih]

@[simp] theorem perform_keep (r : Retention) : perform hook (keep r) = hook r.label r.charge := by
  simp [perform, keep]

theorem perform_keepLooked (found : Except Exc Str) (record : Str → Retention)
    (hlabel : ∀ t, (record t).label = (record []).label) (hcharge : ∀ t, (record t).charge = (record []).charge) :
    perform hook (keepLooked found record) = (do
      hook (record []).label (record []).charge
      liftM found) := by
  rcases found with e | t
  · simp [perform, keepLooked, throw, liftM, monadLift]
    rfl
  · simp [perform, keepLooked, hlabel t, hcharge t]
    rfl

@[simp] theorem perform_lift (e : Except Exc α) : perform hook (lift e) = liftM e := by
  rcases e with e | a <;> rfl

end

end

end Script

section
variable {σ : Type} (hook : String → Nat → Method σ Unit) (v : PhaseBResult)

theorem deriveGate_eq (gate : Str × Str) : deriveGate hook v gate = Script.perform hook (retainGate v gate) := by
  unfold retainGate
  simp only [Script.perform_bind, Script.perform_pure]
  rw [Script.perform_keepLooked hook _ (fun t => .gateAggregateNegative (gate.2, t)) (fun _ => rfl) (fun _ => rfl)]
  rw [Script.perform_keepLooked hook _ (fun t => .gatePlumbingNegative (gate.2, t)) (fun _ => rfl) (fun _ => rfl)]
  simp only [bind_assoc]
  rfl

theorem derivePath_eq (bundle judge : Str) (pair : Pair) (caseId : Str) :
    derivePath hook v bundle judge pair caseId = Script.perform hook (retainPath v bundle judge pair caseId) := by
  unfold retainPath
  simp only [Script.perform_bind, Script.perform_pure, Script.perform_lift, Script.perform_keep, Script.perform_forM]
  apply bind_congr
  intro pathId
  rw [Script.perform_keepLooked hook _ (fun t => .pathJudgeNegative (pathId, t)) (fun _ => rfl) (fun _ => rfl)]
  simp only [bind_assoc]
  rfl

theorem derivePair_eq (lane : Lane) (bundle : Str) (pair : Pair) :
    derivePair hook v lane bundle pair = Script.perform hook (retainPair v lane bundle pair) := by
  unfold retainPair derivePair
  simp only [Script.perform_bind, Script.perform_lift, Script.perform_mapM, ← derivePath_eq]

theorem deriveLane_eq (lane : Lane) : deriveLane hook v lane = Script.perform hook (retainLane v lane) := by
  unfold retainLane deriveLane
  simp only [Script.perform_bind, Script.perform_lift, Script.perform_mapM, Script.perform_pure, ← derivePair_eq]

/-- Phase C is its script, whatever the hook. -/
theorem deriveRelations_eq : deriveRelations hook v = Script.perform hook (retaining v) := by
  unfold retaining deriveRelations
  simp only [Script.perform_bind, Script.perform_mapM, ← deriveGate_eq, ← deriveLane_eq]
  apply bind_congr
  intro gates
  apply bind_congr
  intro records
  split
  · simp only [Script.perform_bind, Script.perform_lift]
    rfl
  · simp only [Script.perform_pure]

end

/-! ## Counting -/

/-- The records of a label. -/
def labelled (label : String) (kept : List Retention) : Nat := kept.countP fun r => r.label = label

/-- The counters after the hook calls for these records. -/
def counted (kept : List Retention) : Except Exc DerivedCounters := kept.foldlM (fun c r => c.admitted r.label) {}

def paths (kept : List Retention) : Nat := kept.countP Retention.isPath

def relationRecords (kept : List Retention) : Nat := kept.countP fun r => !r.isPath

@[simp] theorem labelled_nil (label : String) : labelled label [] = 0 := rfl

@[simp] theorem labelled_cons (label : String) (r : Retention) (kept : List Retention) :
    labelled label (r :: kept) = labelled label kept + if r.label = label then 1 else 0 := by
  unfold labelled
  simp [List.countP_cons]

@[simp] theorem labelled_append (label : String) (kept kept' : List Retention) :
    labelled label (kept ++ kept') = labelled label kept + labelled label kept' := by
  unfold labelled
  rw [List.countP_append]

theorem admitted_label (c : DerivedCounters) (r : Retention) : c.admitted r.label = .ok {
    rGng := c.rGng + labelled "gate_aggregate_negative" [r]
    rGnp := c.rGnp + labelled "gate_plumbing_negative" [r]
    h := c.h + labelled "enforcement_path" [r]
    rCh := c.rCh + labelled "path_case" [r]
    rGh := c.rGh + labelled "path_gate" [r]
    rHnj := c.rHnj + labelled "path_judge_negative" [r]
    rHe := c.rHe + labelled "path_evidence" [r] } := by
  rcases r with r | r | r | r | r | r | r <;> rfl

theorem foldlM_admitted (kept : List Retention) (c : DerivedCounters) :
    kept.foldlM (fun c r => c.admitted r.label) c = .ok {
      rGng := c.rGng + labelled "gate_aggregate_negative" kept
      rGnp := c.rGnp + labelled "gate_plumbing_negative" kept
      h := c.h + labelled "enforcement_path" kept
      rCh := c.rCh + labelled "path_case" kept
      rGh := c.rGh + labelled "path_gate" kept
      rHnj := c.rHnj + labelled "path_judge_negative" kept
      rHe := c.rHe + labelled "path_evidence" kept } := by
  induction kept generalizing c with
  | nil => rfl
  | cons r kept ih =>
    rw [List.foldlM_cons, admitted_label]
    refine (ih _).trans ?_
    simp only [labelled_cons, labelled_nil, Nat.zero_add, Nat.add_assoc, Nat.add_comm (labelled _ kept)]

theorem counted_eq (kept : List Retention) : counted kept = .ok {
    rGng := labelled "gate_aggregate_negative" kept
    rGnp := labelled "gate_plumbing_negative" kept
    h := labelled "enforcement_path" kept
    rCh := labelled "path_case" kept
    rGh := labelled "path_gate" kept
    rHnj := labelled "path_judge_negative" kept
    rHe := labelled "path_evidence" kept } := by
  unfold counted
  rw [foldlM_admitted]
  simp

theorem paths_eq (kept : List Retention) : paths kept = labelled "enforcement_path" kept := by
  unfold paths labelled
  congr 1
  funext r
  rcases r with r | r | r | r | r | r | r <;> simp [Retention.isPath, Retention.label]

theorem relationRecords_eq (kept : List Retention) : relationRecords kept =
    labelled "gate_aggregate_negative" kept + labelled "gate_plumbing_negative" kept + labelled "path_case" kept +
      labelled "path_gate" kept + labelled "path_judge_negative" kept + labelled "path_evidence" kept := by
  unfold relationRecords
  induction kept with
  | nil => rfl
  | cons r kept ih =>
    rw [List.countP_cons, ih]
    rcases r with r | r | r | r | r | r | r <;> simp [Retention.isPath, Retention.label] <;> omega

/-- The counters follow the records, whichever were retained so far. -/
theorem counted_records (kept : List Retention) : ∃ c, counted kept = .ok c ∧ c.h = paths kept ∧
    c.rGng + c.rGnp + c.rCh + c.rGh + c.rHnj + c.rHe = relationRecords kept := by
  refine ⟨_, counted_eq kept, (paths_eq kept).symm, ?_⟩
  rw [relationRecords_eq]

/-! ## A script that returns -/

theorem Script.bind_ok {α β : Type} {s : Script α} {f : α → Script β} {b : β} (h : (s >>= f).result = .ok b) :
    ∃ a, s.result = .ok a ∧ (f a).result = .ok b ∧ (s >>= f).kept = s.kept ++ (f a).kept := by
  rcases hs : s.result with e | a
  · rw [bind_of_error hs] at h
    simp at h
  · rw [bind_of_ok hs] at h ⊢
    exact ⟨a, rfl, h, rfl⟩

theorem Script.keepLooked_ok {found : Except Exc Str} {record : Str → Retention} {t : Str}
    (h : (keepLooked found record).result = .ok t) : found = .ok t ∧ (keepLooked found record).kept = [record t] := by
  rcases found with e | v
  · simp [keepLooked] at h
  · simp only [keepLooked, Except.ok.injEq] at h ⊢
    subst h
    exact ⟨rfl, rfl⟩

theorem Script.lift_ok {α : Type} {e : Except Exc α} {a : α} (h : (lift e).result = .ok a) :
    e = .ok a ∧ (lift e).kept = [] := by
  rcases e with e | v
  · simp [lift] at h
  · exact ⟨by simpa [lift] using h, rfl⟩

/-- What holds of the records of each turn, and of nothing, and of one after another, holds of the records of a loop. -/
theorem Script.mapM_records {α β γ : Type} (R : List Retention → List γ → Prop) (f : α → Script β) (out : β → List γ)
    (hnil : R [] []) (happend : ∀ k k' o o', R k o → R k' o' → R (k ++ k') (o ++ o'))
    (hf : ∀ x b, (f x).result = .ok b → R (f x).kept (out b)) (xs : List α) (bs : List β)
    (h : (xs.mapM f).result = .ok bs) : R (xs.mapM f).kept (bs.flatMap out) := by
  induction xs generalizing bs with
  | nil =>
    cases h
    exact hnil
  | cons x xs ih =>
    rw [List.mapM_cons] at h ⊢
    obtain ⟨b, hb, h, hk⟩ := bind_ok h
    obtain ⟨rest, hrest, h, hk'⟩ := bind_ok h
    cases h
    rw [hk, hk', kept_pure, List.append_nil, List.flatMap_cons]
    exact happend _ _ _ _ (hf x b hb) (ih rest hrest)

theorem Script.forM_keep {α : Type} (record : α → Retention) (xs : List α) :
    xs.forM (fun x => keep (record x)) = ⟨xs.map record, .ok ()⟩ := by
  induction xs with
  | nil => rfl
  | cons x xs ih =>
    rw [List.forM, bind_of_ok rfl, ih]
    rfl

/-- The records of some paths. -/
structure PathTally (kept : List Retention) (records : List PathRecords) : Prop where
  aggregate : labelled "gate_aggregate_negative" kept = 0
  plumbing : labelled "gate_plumbing_negative" kept = 0
  path : labelled "enforcement_path" kept = records.length
  case : labelled "path_case" kept = records.length
  gate : labelled "path_gate" kept = records.length
  judge : labelled "path_judge_negative" kept = records.length
  evidence : labelled "path_evidence" kept = (records.flatMap (·.evidence)).length

theorem pathTally_nil : PathTally [] [] := ⟨rfl, rfl, rfl, rfl, rfl, rfl, rfl⟩

theorem PathTally.append (kept kept' : List Retention) (records records' : List PathRecords)
    (h : PathTally kept records) (h' : PathTally kept' records') : PathTally (kept ++ kept') (records ++ records') := by
  constructor <;> simp only [labelled_append, List.length_append, List.flatMap_append]
  · rw [h.aggregate, h'.aggregate]
  · rw [h.plumbing, h'.plumbing]
  · rw [h.path, h'.path]
  · rw [h.case, h'.case]
  · rw [h.gate, h'.gate]
  · rw [h.judge, h'.judge]
  · rw [h.evidence, h'.evidence]

theorem labelled_map {α : Type} (label : String) (record : α → Retention) (xs : List α) (b : Bool)
    (h : ∀ x, decide ((record x).label = label) = b) : labelled label (xs.map record) = if b then xs.length else 0 := by
  unfold labelled
  rw [List.countP_map]
  have : (fun r : Retention => decide (r.label = label)) ∘ record = fun _ => b := funext h
  rw [this]
  cases b <;> simp

section
variable (v : PhaseBResult)

theorem retainPath_tally (bundle judge : Str) (pair : Pair) (caseId : Str) (r : PathRecords)
    (h : (retainPath v bundle judge pair caseId).result = .ok r) :
    PathTally (retainPath v bundle judge pair caseId).kept [r] := by
  unfold retainPath at h ⊢
  obtain ⟨pathId, hid, h, hk⟩ := Script.bind_ok h
  rw [hk, (Script.lift_ok hid).2]
  obtain ⟨⟨⟩, -, h, hk⟩ := Script.bind_ok h
  rw [hk]
  obtain ⟨⟨⟩, -, h, hk⟩ := Script.bind_ok h
  rw [hk]
  obtain ⟨⟨⟩, -, h, hk⟩ := Script.bind_ok h
  rw [hk]
  obtain ⟨template, ht, h, hk⟩ := Script.bind_ok h
  rw [hk, (Script.keepLooked_ok ht).2]
  obtain ⟨⟨⟩, -, h, hk⟩ := Script.bind_ok h
  rw [hk, Script.forM_keep]
  cases h
  constructor <;>
    simp [Script.keep, Retention.label, labelled_map]

theorem retainPair_tally (lane : Lane) (bundle : Str) (pair : Pair) (records : List PathRecords)
    (h : (retainPair v lane bundle pair).result = .ok records) :
    PathTally (retainPair v lane bundle pair).kept records := by
  unfold retainPair at h ⊢
  obtain ⟨judge, hj, h, hk⟩ := Script.bind_ok h
  rw [hk, (Script.lift_ok hj).2, List.nil_append]
  have := Script.mapM_records PathTally _ (fun r => [r]) pathTally_nil PathTally.append
    (fun c r hr => retainPath_tally v bundle judge pair c r hr) _ _ h
  simpa using this

theorem retainLane_tally (lane : Lane) (records : List PathRecords) (h : (retainLane v lane).result = .ok records) :
    PathTally (retainLane v lane).kept records := by
  unfold retainLane at h ⊢
  obtain ⟨bundle, hb, h, hk⟩ := Script.bind_ok h
  rw [hk, (Script.lift_ok hb).2, List.nil_append]
  obtain ⟨groups, hg, h, hk⟩ := Script.bind_ok h
  rw [hk, Script.kept_pure, List.append_nil]
  have := Script.mapM_records PathTally _ id pathTally_nil PathTally.append
    (fun pair records hr => retainPair_tally v lane bundle pair records hr) _ _ hg
  cases h
  simpa using this

/-- The records of some gates. -/
structure GateTally (kept : List Retention) (gates : List ((Str × Str) × (Str × Str))) : Prop where
  aggregate : labelled "gate_aggregate_negative" kept = gates.length
  plumbing : labelled "gate_plumbing_negative" kept = gates.length
  path : labelled "enforcement_path" kept = 0
  case : labelled "path_case" kept = 0
  gate : labelled "path_gate" kept = 0
  judge : labelled "path_judge_negative" kept = 0
  evidence : labelled "path_evidence" kept = 0

theorem GateTally.append (kept kept' : List Retention) (gates gates' : List ((Str × Str) × (Str × Str)))
    (h : GateTally kept gates) (h' : GateTally kept' gates') : GateTally (kept ++ kept') (gates ++ gates') := by
  constructor <;> simp only [labelled_append, List.length_append]
  · rw [h.aggregate, h'.aggregate]
  · rw [h.plumbing, h'.plumbing]
  · rw [h.path, h'.path]
  · rw [h.case, h'.case]
  · rw [h.gate, h'.gate]
  · rw [h.judge, h'.judge]
  · rw [h.evidence, h'.evidence]

theorem retainGate_tally (gate : Str × Str) (g : (Str × Str) × (Str × Str)) (h : (retainGate v gate).result = .ok g) :
    GateTally (retainGate v gate).kept [g] := by
  unfold retainGate at h ⊢
  obtain ⟨aggregate, ha, h, hk⟩ := Script.bind_ok h
  rw [hk, (Script.keepLooked_ok ha).2]
  obtain ⟨plumbing, hp, h, hk⟩ := Script.bind_ok h
  rw [hk, (Script.keepLooked_ok hp).2]
  constructor <;> simp [Retention.label]

theorem length_flatMap_singleton {α : Type} (xs : List α) : (xs.flatMap fun x => [x]).length = xs.length := by simp

theorem length_of_mapM {α β : Type} (f : α → Script β) (xs : List α) (bs : List β) (h : (xs.mapM f).result = .ok bs) :
    bs.length = xs.length := by
  induction xs generalizing bs with
  | nil =>
    cases h
    rfl
  | cons x xs ih =>
    rw [List.mapM_cons] at h
    obtain ⟨b, -, h, -⟩ := Script.bind_ok h
    obtain ⟨rest, hrest, h, -⟩ := Script.bind_ok h
    cases h
    rw [List.length_cons, ih rest hrest, List.length_cons]

/-- After the last call, whatever the arrays are. -/
theorem counted_retaining (d : DerivedRelations) (h : (retaining v).result = .ok d) :
    counted (retaining v).kept = .ok ⟨v.gates.length, v.gates.length, v.h, v.h, v.h, v.h, v.rHe⟩ := by
  rw [counted_eq]
  unfold retaining at h ⊢
  obtain ⟨gates, hg, h, hk⟩ := Script.bind_ok h
  rw [hk]
  obtain ⟨groups, hl, h, hk⟩ := Script.bind_ok h
  rw [hk]
  have hgates : gates.length = v.gates.length := by
    rw [length_of_mapM _ _ _ hg, (sortedBy_perm _ _).length_eq]
  have hgt := Script.mapM_records GateTally _ (fun g => [g]) ⟨rfl, rfl, rfl, rfl, rfl, rfl, rfl⟩ GateTally.append
    (fun gate g hr => retainGate_tally v gate g hr) _ _ hg
  have hpt := Script.mapM_records PathTally _ id pathTally_nil PathTally.append
    (fun lane records hr => retainLane_tally v lane records hr) _ _ hl
  rw [List.flatMap_id] at hpt
  by_cases hcount : groups.flatten.length ≠ v.h ∨ (groups.flatten.flatMap (·.evidence)).length ≠ v.rHe
  · rw [if_pos hcount] at h
    obtain ⟨-, h, -⟩ := Script.bind_ok h
    simp [Script.lift] at h
  · rw [if_neg hcount]
    rw [not_or, not_not, not_not] at hcount
    obtain ⟨hh, hr⟩ := hcount
    rw [Script.kept_pure, List.append_nil]
    simp only [labelled_append, hgt.aggregate, hgt.plumbing, hgt.path, hgt.case, hgt.gate, hgt.judge, hgt.evidence,
      hpt.aggregate, hpt.plumbing, hpt.path, hpt.case, hpt.gate, hpt.judge, hpt.evidence, length_flatMap_singleton,
      hgates, hh, hr, Nat.zero_add, Nat.add_zero]

end

/-! ## The totals of the compiler -/

/-- The checkpoint K4. -/
def checkpointK4 (structural : Accounting) (v : PhaseBResult) (arenaUsed : Nat) : Accounting :=
  { structural with
    entityCount := v.h + 852
    relationRecordCount := 4 * v.h + v.rHe + v.m + 315
    endpointReferenceCount := 11 * v.h + 2 * v.rHe + 2 * v.m + 630
    pathCount := v.h
    logicalArenaByteCount := arenaUsed }

/-- What `_plan_counts` reads from the parsed inputs. -/
structure SourceTotals where
  serializedInputByteCount : Nat
  authorityFileCount : Nat
  authorityByteCount : Nat
  sectionCount : Nat
  sectionByteCount : Nat

/-- `_plan_counts` -/
def planCounts (v : PhaseBResult) (source : SourceTotals) (arenaHighWater : Nat) : List (String × Nat) :=
  let qPath := 4 * v.h + v.rHe + 211
  let rPath := 11 * v.h + 2 * v.rHe + 422
  [("lane_count", 12), ("behavior_case_count", 46), ("case_plan_count", 425), ("obligation_count", 46),
   ("judge_count", 46), ("evidence_bundle_count", 12), ("evidence_source_count", 41),
   ("lane_context_contract_count", 2), ("post_gate_output_contract_count", 2), ("gate_count", 58),
   ("judge_negative_template_count", 46), ("aggregate_negative_template_count", 58),
   ("plumbing_negative_template_count", 58), ("obligation_gate_pair_count", v.m), ("enforcement_path_count", v.h),
   ("bundle_evidence_record_count", 52), ("path_case_record_count", v.h), ("path_gate_record_count", v.h),
   ("path_evidence_record_count", v.rHe), ("path_judge_negative_record_count", v.h),
   ("gate_aggregate_negative_record_count", 58), ("gate_plumbing_negative_record_count", 58),
   ("lane_context_record_count", 21), ("lane_output_record_count", 22), ("artifact_membership_total", 95),
   ("relation_path_record_count", qPath), ("relation_support_record_count", v.m + 104),
   ("relation_total_record_count", qPath + v.m + 104), ("endpoint_path_reference_count", rPath),
   ("endpoint_support_reference_count", 2 * v.m + 208), ("endpoint_total_reference_count", rPath + 2 * v.m + 208),
   ("entity_record_count", v.h + 852), ("relation_only_record_count", 3 * v.h + v.rHe + v.m + 315),
   ("serialized_input_byte_count", source.serializedInputByteCount),
   ("authority_file_count", source.authorityFileCount), ("authority_byte_count", source.authorityByteCount),
   ("section_count", source.sectionCount), ("section_byte_count", source.sectionByteCount),
   ("logical_arena_byte_count", arenaHighWater), ("key_count_exec", v.kExec), ("key_count_run", v.kExec + 22)]

/-- The totals that stage 37 compares. -/
def stage37Totals (v : PhaseBResult) : Except Exc (Nat × Nat) := do
  let defaultPlace := lit "checked u64 addition"
  let qTotal ← checkedAdd (← checkedAdd (4 * v.h) v.rHe defaultPlace) (v.m + 315) (lit "relation total")
  let rTotal ← checkedAdd (← checkedAdd (11 * v.h) (2 * v.rHe) defaultPlace) (2 * v.m + 630) (lit "endpoint total")
  return (qTotal, rTotal)

theorem checkCardinalities_eq (v : PhaseBResult) : checkCardinalities v =
    (stage37Totals v >>= fun totals => (actual v totals.1 totals.2).forM (checkCardinality v)) := by
  unfold checkCardinalities stage37Totals
  simp only [bind_assoc, pure_bind]

theorem stage37Totals_ok (v : PhaseBResult) (q r : Nat) (h : stage37Totals v = .ok (q, r)) :
    q = 4 * v.h + v.rHe + v.m + 315 ∧ r = 11 * v.h + 2 * v.rHe + 2 * v.m + 630 := by
  unfold stage37Totals at h
  simp only [bind_ok_iff, checkedAdd_ok, pure, Except.pure, Except.ok.injEq, Prod.mk.injEq] at h
  obtain ⟨a, ⟨rfl, -⟩, q', ⟨rfl, -⟩, b, ⟨rfl, -⟩, r', ⟨rfl, -⟩, rfl, rfl⟩ := h
  omega

/-! ## Every abort point, and the end -/

instance : LE DerivedCounters where
  le c d := c.rGng ≤ d.rGng ∧ c.rGnp ≤ d.rGnp ∧ c.h ≤ d.h ∧ c.rCh ≤ d.rCh ∧ c.rGh ≤ d.rGh ∧ c.rHnj ≤ d.rHnj ∧
    c.rHe ≤ d.rHe

/-- The entities that the arrays hold before Phase C. -/
def tableEntities (v : PhaseBResult) : Nat :=
  v.lanes.length + (v.lanes.map (·.cases.length)).sum + (laneCaseCounts v.toTables).sum + v.obligations.length +
    v.judges.length + v.bundles.length + v.evidenceSources.length + (distinct (v.laneContexts.map (·.2))).length +
    (distinct (v.laneOutputs.map (·.2))).length + v.gates.length + v.judgeTemplates.length +
    v.aggregateTemplates.length + v.plumbingTemplates.length

/-- Phase C retains one record a hook call; its accounting agrees with the records at each call, and at the end with
the four closed formulas. -/
structure PhaseCAccounting (v : PhaseBResult) : Prop where
  calls : ∀ (σ : Type) (hook : String → Nat → Method σ Unit), deriveRelations hook v = (retaining v).perform hook
  soFar : ∀ kept, kept <+: (retaining v).kept → ∃ c, counted kept = .ok c ∧
    ∀ base arena a, c.accounting base v.m arena = .ok a →
      a.relationRecordCount = 199 + v.m + (relationRecords kept + paths kept) ∧
      a.endpointReferenceCount = 398 + 2 * v.m + (2 * relationRecords kept + 5 * paths kept) ∧
      a.pathCount = paths kept ∧ a.entityCount = 852 + a.pathCount
  monotone : ∀ kept kept' c c', kept <+: kept' → kept' <+: (retaining v).kept → counted kept = .ok c →
    counted kept' = .ok c' → c ≤ c'
  last : ∀ d, (retaining v).result = .ok d → ∃ c, counted (retaining v).kept = .ok c ∧
    ∀ base arena a, c.accounting base v.m arena = .ok a →
      a = checkpointK4 { base with outputByteCountAttempted := 0 } v arena
  stage37 : ∀ d, (retaining v).result = .ok d → ∀ base arena,
    entityActual v = (checkpointK4 base v arena).entityCount ∧
    ∀ q r, stage37Totals v = .ok (q, r) →
      q = (checkpointK4 base v arena).relationRecordCount ∧ r = (checkpointK4 base v arena).endpointReferenceCount
  plan : ∀ base arena source high,
    (planCounts v source high).lookup "entity_record_count" = some (checkpointK4 base v arena).entityCount ∧
    (planCounts v source high).lookup "relation_total_record_count" =
      some (checkpointK4 base v arena).relationRecordCount ∧
    (planCounts v source high).lookup "endpoint_total_reference_count" =
      some (checkpointK4 base v arena).endpointReferenceCount ∧
    (planCounts v source high).lookup "enforcement_path_count" = some (checkpointK4 base v arena).pathCount

theorem counted_mono (kept kept' : List Retention) (c c' : DerivedCounters) (h : kept <+: kept')
    (hc : counted kept = .ok c) (hc' : counted kept' = .ok c') : c ≤ c' := by
  obtain ⟨rest, rfl⟩ := h
  rw [counted_eq] at hc hc'
  cases hc
  cases hc'
  simp only [labelled_append]
  exact ⟨Nat.le_add_right _ _, Nat.le_add_right _ _, Nat.le_add_right _ _, Nat.le_add_right _ _, Nat.le_add_right _ _,
    Nat.le_add_right _ _, Nat.le_add_right _ _⟩

theorem accounting_soFar (v : PhaseBResult) (kept : List Retention) : ∃ c, counted kept = .ok c ∧
    ∀ base arena a, c.accounting base v.m arena = .ok a →
      a.relationRecordCount = 199 + v.m + (relationRecords kept + paths kept) ∧
      a.endpointReferenceCount = 398 + 2 * v.m + (2 * relationRecords kept + 5 * paths kept) ∧
      a.pathCount = paths kept ∧ a.entityCount = 852 + a.pathCount := by
  obtain ⟨c, hc, hp, hr⟩ := counted_records kept
  refine ⟨c, hc, ?_⟩
  intro base arena a ha
  obtain ⟨rfl, -⟩ := (Accounting.checked_ok _ _).mp ha
  refine ⟨?_, ?_, hp, rfl⟩
  · simp only
    omega
  · simp only
    omega

theorem accounting_last (v : PhaseBResult) (hgates : v.gates.length = 58) (d : DerivedRelations)
    (hd : (retaining v).result = .ok d) : ∃ c, counted (retaining v).kept = .ok c ∧
    ∀ base arena a, c.accounting base v.m arena = .ok a →
      a = checkpointK4 { base with outputByteCountAttempted := 0 } v arena := by
  refine ⟨_, counted_retaining v d hd, ?_⟩
  intro base arena a ha
  obtain ⟨rfl, -⟩ := (Accounting.checked_ok _ _).mp ha
  unfold checkpointK4
  simp only [hgates, Accounting.mk.injEq, true_and, and_true]
  omega

theorem planCounts_totals (v : PhaseBResult) (base : Accounting) (arena high : Nat) (source : SourceTotals) :
    (planCounts v source high).lookup "entity_record_count" = some (checkpointK4 base v arena).entityCount ∧
    (planCounts v source high).lookup "relation_total_record_count" =
      some (checkpointK4 base v arena).relationRecordCount ∧
    (planCounts v source high).lookup "endpoint_total_reference_count" =
      some (checkpointK4 base v arena).endpointReferenceCount ∧
    (planCounts v source high).lookup "enforcement_path_count" = some (checkpointK4 base v arena).pathCount := by
  refine ⟨rfl, ?_, ?_, rfl⟩
  · show some (4 * v.h + v.rHe + 211 + v.m + 104) = some (4 * v.h + v.rHe + v.m + 315)
    congr 1
    omega
  · show some (11 * v.h + 2 * v.rHe + 422 + 2 * v.m + 208) = some (11 * v.h + 2 * v.rHe + 2 * v.m + 630)
    congr 1
    omega

/-- Of 58 gates, the accounting of Phase C agrees with the closed formulas exactly when the arrays of a derivation that
completes hold 852 entities. -/
theorem phaseC_accounting (v : PhaseBResult) (hgates : v.gates.length = 58) :
    PhaseCAccounting v ↔ ((∃ d, (retaining v).result = .ok d) → tableEntities v = 852) := by
  constructor
  · rintro h ⟨d, hd⟩
    have he : tableEntities v + v.h = v.h + 852 := (h.stage37 d hd {} 0).1
    omega
  · intro h
    refine ⟨fun σ hook => deriveRelations_eq hook v, fun kept _ => accounting_soFar v kept,
      fun kept kept' c c' hle _ => counted_mono kept kept' c c' hle, accounting_last v hgates, ?_,
      fun base arena source high => planCounts_totals v base arena high source⟩
    intro d hd base arena
    refine ⟨?_, ?_⟩
    · show tableEntities v + v.h = v.h + 852
      rw [h ⟨d, hd⟩, Nat.add_comm]
    · intro q r hqr
      exact stage37Totals_ok v q r hqr

theorem phaseC_accounting_sample_iff : sampleResult.gates.length = 58 ∧
    (PhaseCAccounting sampleResult ↔ ((∃ d, (retaining sampleResult).result = .ok d) → tableEntities sampleResult = 852)) :=
  ⟨by decide +kernel, phaseC_accounting sampleResult (by decide +kernel)⟩

theorem retaining_of_derivable (v : PhaseBResult) (hv : Derivable v) : ∃ d, (retaining v).result = .ok d := by
  have h := deriveRelations_returns (fun _ _ => (Method.returns_pure () : (pure () : Method Unit Unit).Returns ())) hv
  rw [deriveRelations_eq] at h
  obtain ⟨s', hs⟩ := h ()
  rcases hr : (retaining v).result with ⟨calls, e⟩ | d
  · rw [Script.perform_of_error _ hr, ← bind_assoc] at hs
    exact absurd hs (Method.call_then_throw _ _ _ _ _)
  · exact ⟨d, rfl⟩

/-- With an evidence source of its own for each membership, the arrays hold 863 entities. -/
theorem phaseC_accounting_sample : sampleResult.gates.length = 58 ∧
    validateRelations sampleCatalog sampleExpectation sampleLedger.record CompileLimits.frozen = .ok sampleResult ∧
    ¬ PhaseCAccounting sampleResult := by
  refine ⟨by decide +kernel, validateRelations_sample, ?_⟩
  intro h
  obtain ⟨d, hd⟩ := retaining_of_derivable sampleResult derivable_sample
  have he : tableEntities sampleResult + sampleResult.h = sampleResult.h + 852 := (h.stage37 d hd {} 0).1
  have hcount : tableEntities sampleResult = 863 := by decide +kernel
  omega

end TurnVector.Relations
