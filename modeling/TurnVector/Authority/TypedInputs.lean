import TurnVector.Authority.PathId
import TurnVector.Authority.Sweeps
import TurnVector.Authority.TraceabilityLedger

/-! # Typed inputs of the relation layer

What Phase B reads from a typed ledger, when its path sweep stays within the caps, and an input that it admits.
-/

namespace TurnVector.Relations

open Python Json Canonical Table TraceabilityLedger

/-! ## The arrays of a typed ledger -/

theorem readPairs_texts {α : Type} (xs : List α) (build : α → List (String × Identifier)) (value : α → Str × Str)
    (entities : Json) (name : String) (first second : List String)
    (hs : seq entities [name] = .ok (xs.map fun x => texts (build x)))
    (h : ∀ x, recordPair first second (texts (build x)) = .ok (value x)) :
    readPairs entities name first second = .ok (xs.map value) := by
  unfold readPairs
  rw [hs]
  show (xs.map fun x => texts (build x)).mapM (recordPair first second) = _
  rw [List.mapM_map]
  exact mapM_ok _ value xs fun x _ => h x

theorem readIds_texts (ids : List Identifier) (entities : Json) (name : String)
    (hs : seq entities [name] = .ok (ids.map fun x => .str x.val)) : readIds entities name = .ok (ids.map (·.val)) := by
  unfold readIds
  rw [hs]
  show Except.ok ((ids.map fun x => Json.str x.val).map strOf) = _
  rw [List.map_map]
  rfl

theorem recordPair_two (a b : String) (x y : Identifier) (hne : (lit b == lit a) = false) :
    recordPair [a] [b] (texts [(a, x), (b, y)]) = .ok (x.val, y.val) := by
  simp [recordPair, field, get, get?, texts, member?, List.lookup, hne, strOf, bind, Except.bind, pure, Except.pure]

theorem recordPair_bundle (x y : Identifier) :
    recordPair ["lane_id"] ["bundle_id", "id"] (texts [("id", x), ("lane_id", y)]) = .ok (y.val, x.val) := by
  have hl : (lit "lane_id" == lit "id") = false := by decide
  have hb : (lit "bundle_id" == lit "id") = false := by decide
  have hb' : (lit "bundle_id" == lit "lane_id") = false := by decide
  simp [recordPair, field, get, get?, texts, member?, List.lookup, hl, hb, hb', strOf, bind, Except.bind, pure,
    Except.pure]

def LedgerEntities.gatePairs (e : LedgerEntities) : List Pair :=
  e.obligationGatePairs.zipIdx.map fun x => ⟨x.1.laneId.val, x.1.obligationId.val, x.1.gateId.val, x.2⟩

theorem readGatePairs_texts (e : LedgerEntities) : readGatePairs e.record = .ok (LedgerEntities.gatePairs e) := by
  have hs : seq e.record ["obligation_gate_pairs"] = .ok (e.obligationGatePairs.map fun x =>
      texts [("lane_id", x.laneId), ("obligation_id", x.obligationId), ("gate_id", x.gateId)]) := rfl
  unfold readGatePairs LedgerEntities.gatePairs
  rw [hs]
  show List.mapM normalizePair (List.zipIdx (e.obligationGatePairs.map _)) = _
  rw [List.zipIdx_map, List.mapM_map]
  apply mapM_ok
  rintro ⟨x, index⟩ _
  have ho : (lit "obligation_id" == lit "lane_id") = false := by decide
  have hg : (lit "gate_id" == lit "lane_id") = false := by decide
  have hg' : (lit "gate_id" == lit "obligation_id") = false := by decide
  simp [normalizePair, field, get, get?, texts, member?, List.lookup, ho, hg, hg', strOf, bind, Except.bind, pure,
    Except.pure]

/-- The arrays that come from a typed ledger. -/
def typedTables (lanes : List Lane) (obligations : List Obligation) (ledger : Value) : Tables where
  lanes := lanes
  allObligations := obligations
  judges := ledger.entities.judgeIds.map (·.val)
  obligationJudges := ledger.entities.obligationToJudge.map fun x => (x.obligationId.val, x.judgeId.val)
  bundles := ledger.entities.evidenceBundles.map fun x => (x.laneId.val, x.id.val)
  evidenceSources := ledger.entities.evidenceSourceIds.map (·.val)
  bundleEvidence := ledger.entities.evidenceBundleMemberships.map fun x => (x.bundleId.val, x.evidenceSourceId.val)
  laneContexts := ledger.entities.laneContexts.map fun x => (x.laneId.val, x.artifactType.val)
  laneOutputs := ledger.entities.postGateOutputs.map fun x => (x.laneId.val, x.artifactType.val)
  gates := ledger.entities.gates.map fun x => (x.laneId.val, x.gateId.val)
  pairs := LedgerEntities.gatePairs ledger.entities
  judgeTemplates := ledger.entities.judgeNegativeTests.map fun x => (x.ownerId.val, x.id.val)
  aggregateTemplates := ledger.entities.aggregateNegativeTests.map fun x => (x.ownerId.val, x.id.val)
  plumbingTemplates := ledger.entities.plumbingNegativeTests.map fun x => (x.ownerId.val, x.id.val)
  cardinalities := ledger.cardinalities.map fun c => (lit c.1, c.2.record)

theorem normalized_typed (catalog expectation : Json) (ledger : Value) (lanes : List Lane) (obligations : List Obligation)
    (hl : readLanes expectation = .ok lanes) (ho : readObligations catalog = .ok obligations) :
    Normalized catalog expectation ledger.record (typedTables lanes obligations ledger) where
  lanes := hl
  obligations := ho
  cardinalities := ⟨_, rfl, rfl⟩
  judges := readIds_texts _ _ _ rfl
  obligationJudges := readPairs_texts _ _ _ _ _ _ _ rfl fun _ => recordPair_two _ _ _ _ (by decide)
  bundles := readPairs_texts _ _ _ _ _ _ _ rfl fun _ => recordPair_bundle _ _
  evidenceSources := readIds_texts _ _ _ rfl
  bundleEvidence := readPairs_texts _ _ _ _ _ _ _ rfl fun _ => recordPair_two _ _ _ _ (by decide)
  laneContexts := readPairs_texts _ _ _ _ _ _ _ rfl fun _ => recordPair_two _ _ _ _ (by decide)
  laneOutputs := readPairs_texts _ _ _ _ _ _ _ rfl fun _ => recordPair_two _ _ _ _ (by decide)
  gates := readPairs_texts _ _ _ _ _ _ _ rfl fun _ => recordPair_two _ _ _ _ (by decide)
  pairs := readGatePairs_texts ledger.entities
  judgeTemplates := readPairs_texts _ _ _ _ _ _ _ rfl fun _ => recordPair_two _ _ _ _ (by decide)
  aggregateTemplates := readPairs_texts _ _ _ _ _ _ _ rfl fun _ => recordPair_two _ _ _ _ (by decide)
  plumbingTemplates := readPairs_texts _ _ _ _ _ _ _ rfl fun _ => recordPair_two _ _ _ _ (by decide)

theorem normalize_typed_eq (catalog expectation : Json) (ledger : Value) (t : Tables)
    (h : normalize catalog expectation ledger.record = .ok t) : t = typedTables t.lanes t.allObligations ledger := by
  have hn := (normalize_ok _ _ _ _).mp h
  have := (normalize_ok _ _ _ _).mpr (normalized_typed catalog expectation ledger _ _ hn.lanes hn.obligations)
  rw [h] at this
  exact Except.ok.inj this

/-- Every id that comes from the ledger is an identifier. -/
structure TypedIds (t : Tables) : Prop where
  judges : ∀ j ∈ t.judges, isIdentifier j = true
  obligationJudges : ∀ p ∈ t.obligationJudges, isIdentifier p.1 = true ∧ isIdentifier p.2 = true
  bundles : ∀ p ∈ t.bundles, isIdentifier p.1 = true ∧ isIdentifier p.2 = true
  evidenceSources : ∀ s ∈ t.evidenceSources, isIdentifier s = true
  bundleEvidence : ∀ p ∈ t.bundleEvidence, isIdentifier p.1 = true ∧ isIdentifier p.2 = true
  laneContexts : ∀ p ∈ t.laneContexts, isIdentifier p.1 = true ∧ isIdentifier p.2 = true
  laneOutputs : ∀ p ∈ t.laneOutputs, isIdentifier p.1 = true ∧ isIdentifier p.2 = true
  gates : ∀ p ∈ t.gates, isIdentifier p.1 = true ∧ isIdentifier p.2 = true
  judgeTemplates : ∀ p ∈ t.judgeTemplates, isIdentifier p.1 = true ∧ isIdentifier p.2 = true
  aggregateTemplates : ∀ p ∈ t.aggregateTemplates, isIdentifier p.1 = true ∧ isIdentifier p.2 = true
  plumbingTemplates : ∀ p ∈ t.plumbingTemplates, isIdentifier p.1 = true ∧ isIdentifier p.2 = true

theorem ids_typed (ids : List Identifier) : ∀ s ∈ ids.map (·.val), isIdentifier s = true := by
  intro s hs
  obtain ⟨x, -, rfl⟩ := List.mem_map.mp hs
  exact x.property

theorem pairs_typed {α : Type} (xs : List α) (f g : α → Identifier) :
    ∀ p ∈ xs.map fun x => ((f x).val, (g x).val), isIdentifier p.1 = true ∧ isIdentifier p.2 = true := by
  intro p hp
  obtain ⟨x, -, rfl⟩ := List.mem_map.mp hp
  exact ⟨(f x).property, (g x).property⟩

theorem typedTables_ids (lanes : List Lane) (obligations : List Obligation) (ledger : Value) :
    TypedIds (typedTables lanes obligations ledger) where
  judges := ids_typed _
  obligationJudges := pairs_typed _ _ _
  bundles := pairs_typed _ _ _
  evidenceSources := ids_typed _
  bundleEvidence := pairs_typed _ _ _
  laneContexts := pairs_typed _ _ _
  laneOutputs := pairs_typed _ _ _
  gates := pairs_typed _ _ _
  judgeTemplates := pairs_typed _ _ _
  aggregateTemplates := pairs_typed _ _ _
  plumbingTemplates := pairs_typed _ _ _

theorem normalize_typed (catalog expectation : Json) (ledger : Value) (t : Tables)
    (h : normalize catalog expectation ledger.record = .ok t) : TypedIds t := by
  rw [normalize_typed_eq catalog expectation ledger t h]
  exact typedTables_ids _ _ ledger

/-! ## The path sweep of an input -/

section
variable (t : Tables)

/-- How many case ids the path sweep gives a pair. -/
def caseCount (p : Pair) : Nat := ((lastOf Lane.laneId Lane.caseIds t.lanes p.laneId).getD []).length

theorem length_casesByLane (p : Pair) : (casesByLane t p.laneId).length = caseCount t p :=
  (sortedBy_perm _ _).length_eq

theorem length_candidates : (candidates t).length = (t.pairs.map (caseCount t)).sum := by
  unfold candidates
  rw [List.length_flatMap]
  simp only [List.length_map, length_casesByLane]

theorem countP_candidates (key : Pair → Str) (k : Str) : ((candidates t).countP fun a => key a.1 = k) =
    (t.pairs.map fun p => if key p = k then caseCount t p else 0).sum := by
  unfold candidates
  rw [List.countP_flatMap]
  congr 1
  apply List.map_congr_left
  intro p _
  rw [Function.comp_apply, List.countP_map]
  by_cases hk : key p = k
  · rw [if_pos hk, ← length_casesByLane, List.countP_eq_length.mpr]
    simp [hk]
  · rw [if_neg hk, List.countP_eq_zero.mpr]
    simp [hk]

theorem sum_le_of_forall (key : Pair → Str) (bound : Nat)
    (h : ∀ q ∈ t.pairs, (t.pairs.map fun p => if key p = key q then caseCount t p else 0).sum ≤ bound) (k : Str) :
    (t.pairs.map fun p => if key p = k then caseCount t p else 0).sum ≤ bound := by
  by_cases hk : ∃ q ∈ t.pairs, key q = k
  · obtain ⟨q, hq, rfl⟩ := hk
    exact h q hq
  · rw [List.sum_eq_zero]
    · omega
    · intro n hn
      obtain ⟨p, hp, rfl⟩ := List.mem_map.mp hn
      exact if_neg fun he => hk ⟨p, hp, he⟩

theorem sum_le_countP {α : Type} (f : α → Nat) (q : α → Bool) (xs : List α) (h : ∀ x ∈ xs, f x ≤ if q x then 1 else 0) :
    (xs.map f).sum ≤ xs.countP q := by
  induction xs with
  | nil => simp
  | cons x xs ih =>
    have hx := h x (by simp)
    have := ih fun y hy => h y (by simp [hy])
    rw [List.map_cons, List.sum_cons, List.countP_cons]
    omega

/-- A case id of one lane is on as many paths as its lane has pairs. -/
theorem countP_case_le (laneOf : Str → Str)
    (hlane : ∀ p ∈ t.pairs, ∀ c ∈ casesByLane t p.laneId, laneOf c = p.laneId)
    (hnodup : ∀ p ∈ t.pairs, (casesByLane t p.laneId).Nodup) (c : Str) :
    ((candidates t).countP fun a => a.2 = c) ≤ pairCount t (laneOf c) := by
  have hsum : ((candidates t).countP fun a => a.2 = c) = (t.pairs.map fun p => (casesByLane t p.laneId).count c).sum := by
    unfold candidates
    rw [List.countP_flatMap]
    congr 1
    apply List.map_congr_left
    intro p _
    rw [Function.comp_apply, List.countP_map, List.count]
    apply List.countP_congr
    simp
  rw [hsum, pairCount]
  apply sum_le_countP
  intro p hp
  by_cases hc : c ∈ casesByLane t p.laneId
  · rw [hlane p hp c hc, if_pos (by simp)]
    exact List.nodup_iff_count_le_one.mp (hnodup p hp) c
  · rw [List.count_eq_zero_of_not_mem hc]
    omega

/-- The caps, from what is counted pair by pair. -/
theorem withinCaps_candidates (limits : CompileLimits) (laneOf : Str → Str)
    (hlane : ∀ p ∈ t.pairs, ∀ c ∈ casesByLane t p.laneId, laneOf c = p.laneId)
    (hnodup : ∀ p ∈ t.pairs, (casesByLane t p.laneId).Nodup)
    (htotal : (t.pairs.map (caseCount t)).sum ≤ limits.pathCountMax)
    (ho : ∀ q ∈ t.pairs, (t.pairs.map fun p => if p.obligationId = q.obligationId then caseCount t p else 0).sum ≤
      limits.pathsPerObligationMax)
    (hc : ∀ q ∈ t.pairs, pairCount t q.laneId ≤ limits.pathsPerCaseMax)
    (hg : ∀ q ∈ t.pairs, (t.pairs.map fun p => if p.gateId = q.gateId then caseCount t p else 0).sum ≤
      limits.pathsPerGateMax) : WithinCaps limits (candidates t) := by
  refine ⟨?_, ?_, ?_, ?_⟩
  · rw [length_candidates]
    exact htotal
  · intro o
    rw [countP_candidates t Pair.obligationId]
    exact sum_le_of_forall t Pair.obligationId _ ho o
  · intro c
    refine (countP_case_le t laneOf hlane hnodup c).trans ?_
    by_cases hq : ∃ q ∈ t.pairs, q.laneId = laneOf c
    · obtain ⟨q, hq, he⟩ := hq
      rw [← he]
      exact hc q hq
    · rw [pairCount, List.countP_eq_zero.mpr]
      · omega
      · intro p hp
        simpa using fun he => hq ⟨p, hp, he⟩
  · intro g
    rw [countP_candidates t Pair.gateId]
    exact sum_le_of_forall t Pair.gateId _ hg g

theorem pathProbe_candidates (limits : CompileLimits) (h : WithinCaps limits (candidates t)) :
    pathProbe limits [] (candidates t) = none := by
  have hnil : WithinCaps limits [] := withinCaps_of_append limits (candidates t) [] (by simpa using h)
  rw [pathProbe_none limits [] _ hnil, List.append_nil]
  refine ⟨?_, ?_, ?_, ?_⟩
  · simpa using h.total
  · simpa using h.obligation
  · simpa using h.case
  · simpa using h.gate

end

/-! ## An input that is admitted -/

theorem isIdentifier_x : isIdentifier (lit "x") = true := by decide

def ident (s : Str) : Identifier := if h : isIdentifier s = true then ⟨s, h⟩ else ⟨lit "x", isIdentifier_x⟩

def named (stem : String) (n : Nat) : Identifier := ident (lit stem ++ natText n)

def count (n : Nat) : Cardinality := .count (if h : n ≤ u64Max then ⟨n, h⟩ else ⟨0, Nat.zero_le u64Max⟩)

def counts (ns : List Nat) : Cardinality :=
  .counts (ns.map fun n => if h : n ≤ u64Max then ⟨n, h⟩ else ⟨0, Nat.zero_le u64Max⟩)

theorem isSha256_zeros : isSha256 (List.replicate 64 (cp 48)) = true := by decide

def zeros : Sha256 := ⟨List.replicate 64 (cp 48), isSha256_zeros⟩

def sampleLaneId (i : Nat) : Identifier := ident (laneOrder.getD i [])

/-- The numbers that fall to a lane. -/
def share (ns : List Nat) (i : Nat) : List Nat := List.range' (ns.take i).sum (ns.getD i 0)

/-- One record for each number of each lane. -/
def perLane {α : Type} (ns : List Nat) (build : Nat → Nat → α) : List α :=
  (List.range 12).flatMap fun i => (share ns i).map (build i)

/-- Obligations and gates of a lane, paired round after round. -/
def samplePairs (i : Nat) : List ObligationGatePair :=
  let os := share frozenObligationCounts i
  let gs := share frozenGateCounts i
  (List.range (max os.length gs.length)).map fun k =>
    ⟨sampleLaneId i, named "o" (os.getD (k % os.length) 0), named "g" (gs.getD (k % gs.length) 0)⟩

def sampleContexts (i : Nat) : List Identifier :=
  [ident (lit "manifest"), ident (lit "environment")].take (frozenContextCounts.getD i 0)

def sampleOutputs (i : Nat) : List Identifier :=
  [ident (lit "report"), ident (lit "checksums")].take (frozenOutputCounts.getD i 0)

/-- A ledger in which no two bundles share an evidence source. -/
def sampleEntities : LedgerEntities where
  judgeIds := (List.range 46).map (named "j")
  obligationToJudge := (List.range 46).map fun n => ⟨named "o" n, named "j" n⟩
  evidenceBundles := (List.range 12).map fun i => ⟨named "b" i, sampleLaneId i⟩
  evidenceSourceIds := (List.range 52).map (named "s")
  evidenceBundleMemberships := perLane frozenRawCounts fun i n => ⟨named "b" i, named "s" n⟩
  laneContexts := (List.range 12).flatMap fun i => (sampleContexts i).map fun a => ⟨sampleLaneId i, a⟩
  postGateOutputs := (List.range 12).flatMap fun i => (sampleOutputs i).map fun a => ⟨sampleLaneId i, a⟩
  gates := perLane frozenGateCounts fun i n => ⟨sampleLaneId i, named "g" n⟩
  obligationGatePairs := (List.range 12).flatMap samplePairs
  judgeNegativeTests := (List.range 46).map fun n => ⟨named "o" n, named "nj" n⟩
  aggregateNegativeTests := (List.range 58).map fun n => ⟨named "g" n, named "na" n⟩
  plumbingNegativeTests := (List.range 58).map fun n => ⟨named "g" n, named "np" n⟩

def sampleCardinalities : List (String × Cardinality) :=
  [("lane_count", count 12), ("case_plan_count", count 425), ("gate_count", count 58), ("obligation_count", count 46),
   ("judge_count", count 46), ("evidence_bundle_count", count 12), ("evidence_source_count", count 52),
   ("lane_context_membership_count", count 21), ("post_gate_output_membership_count", count 22),
   ("artifact_membership_total", count 95), ("judge_negative_template_count", count 46),
   ("aggregate_negative_template_count", count 58), ("plumbing_negative_template_count", count 58),
   ("lane_obligation_counts", counts frozenObligationCounts), ("lane_case_counts", counts frozenCaseCounts),
   ("lane_gate_counts", counts frozenGateCounts), ("lane_raw_membership_counts", counts frozenRawCounts),
   ("lane_context_counts", counts frozenContextCounts), ("lane_output_counts", counts frozenOutputCounts),
   ("obligation_gate_pair_count", count 59), ("enforcement_path_count", count 2287),
   ("evidence_membership_record_count", count 52), ("path_evidence_record_count", count 10693),
   ("endpoint_reference_count", count 47291), ("relation_record_count", count 20215),
   ("entity_record_count", count 3150), ("key_count_exec", count 18254)]

def sampleLedger : Value where
  id := ident (lit "ledger")
  designGateRevision := zeros
  predecessor := none
  cardinalities := sampleCardinalities
  binds := ⟨zeros, zeros, zeros, zeros, zeros, []⟩
  entities := sampleEntities

def sampleLane (i : Nat) : Lane where
  laneId := (sampleLaneId i).val
  cases := (share frozenObligationCounts i).map fun n => (named "c" n).val
  caseIds := (List.range (frozenCaseCounts.getD i 0)).map fun k => caseId (sampleLaneId i).val (lit "m") (1 + k)
  gates := (share frozenGateCounts i).map fun n => (named "g" n).val
  requiredArtifacts := ((sampleContexts i ++ sampleOutputs i).map (·.val)) ++
    (share frozenRawCounts i).map fun n => (named "raw" n).val

/-- The lane as the expectation writes it. -/
def Lane.document (lane : Lane) : Json :=
  let ids := fun xs => Json.arr (xs.map fun x => Json.obj [(lit "id", .str x)])
  .obj [(lit "id", .str lane.laneId), (lit "cases", ids lane.cases), (lit "gates", ids lane.gates),
    (lit "required_artifacts", .arr (lane.requiredArtifacts.map .str)),
    (lit "matrices", .arr [.obj [(lit "id", .str (lit "m")),
      (lit "dimensions", .arr [.obj [(lit "values", .arr (List.replicate lane.caseIds.length .null))]])]])]

def sampleLanes : List Lane := (List.range 12).map sampleLane

def sampleExpectation : Json := .obj [(lit "lanes", .arr (sampleLanes.map Lane.document))]

def sampleObligations : List Obligation :=
  perLane frozenObligationCounts fun i n => ⟨(named "o" n).val, (sampleLaneId i).val, (named "c" n).val, true, n + 1⟩

def Obligation.document (x : Obligation) : Json :=
  .obj [(lit "id", .str x.obligationId), (lit "lane_id", .str x.laneId), (lit "behavior_case_id", .str x.behaviorCaseId),
    (lit "required", .bool x.required)]

def sampleCatalog : Json := .obj [(lit "records", .arr (sampleObligations.map Obligation.document))]

def sampleTables : Tables := typedTables sampleLanes sampleObligations sampleLedger

def sampleResult : PhaseBResult :=
  { sampleTables with m := 59, h := 2287, rHe := 10693, kExec := 18254 }

theorem read_sample :
    readObligations sampleCatalog = .ok sampleObligations ∧ readLanes sampleExpectation = .ok sampleLanes :=
  ⟨by decide +kernel, by decide +kernel⟩

theorem normalize_sample : normalize sampleCatalog sampleExpectation sampleLedger.record = .ok sampleTables :=
  (normalize_ok _ _ _ _).mpr (normalized_typed _ _ _ _ _ read_sample.2 read_sample.1)

/-- What is counted over the sample, pair by pair and lane by lane. -/
theorem counted_sample :
    ((∀ i ∈ List.range 12, (sampleLaneId i).val.all (· ≠ cp 46)) ∧
      (sampleTables.pairs.map (caseCount sampleTables)).sum ≤ CompileLimits.frozen.pathCountMax ∧
      (∀ q ∈ sampleTables.pairs, (sampleTables.pairs.map fun p => if p.obligationId = q.obligationId then
        caseCount sampleTables p else 0).sum ≤ CompileLimits.frozen.pathsPerObligationMax) ∧
      (∀ q ∈ sampleTables.pairs, pairCount sampleTables q.laneId ≤ CompileLimits.frozen.pathsPerCaseMax) ∧
      ∀ q ∈ sampleTables.pairs, (sampleTables.pairs.map fun p => if p.gateId = q.gateId then
        caseCount sampleTables p else 0).sum ≤ CompileLimits.frozen.pathsPerGateMax) ∧
    sampleTables.lanes.foldlM (countLane sampleTables) (0, 0, 0) = .ok (59, 2287, 10693) ∧
    keyCount sampleTables 2287 10693 = .ok 18254 := by
  refine ⟨⟨?_, ?_, ?_, ?_, ?_⟩, ?_, ?_⟩
  all_goals decide +kernel

theorem takeWhile_caseId (laneId matrixId : Str) (ordinal : Nat) (h : ∀ c ∈ laneId, c ≠ cp 46) :
    (caseId laneId matrixId ordinal).takeWhile (· ≠ cp 46) = laneId := by
  have hdot : lit "." = [cp 46] := by decide
  unfold caseId
  rw [hdot]
  simp only [List.append_assoc, List.cons_append, List.nil_append]
  rw [List.takeWhile_append_of_pos]
  · simp
  · intro c hc
    simpa using h c hc

/-- The lane id is what stands before the first dot of a case id. -/
theorem sample_lane_of_case : ∀ lane ∈ sampleLanes, ∀ c ∈ lane.caseIds, c.takeWhile (· ≠ cp 46) = lane.laneId := by
  intro lane hlane c hc
  obtain ⟨i, hi, rfl⟩ := List.mem_map.mp hlane
  obtain ⟨k, -, rfl⟩ := List.mem_map.mp hc
  exact takeWhile_caseId _ _ _ (by simpa using counted_sample.1.1 i hi)

theorem mem_casesByLane_sample (laneId c : Str) (hc : c ∈ casesByLane sampleTables laneId) :
    ∃ lane ∈ sampleLanes, lane.laneId = laneId ∧ c ∈ lane.caseIds := by
  unfold casesByLane at hc
  rw [mem_sortedBy] at hc
  cases hl : lastOf Lane.laneId Lane.caseIds sampleTables.lanes laneId with
  | none => simp [hl] at hc
  | some ids =>
    obtain ⟨lane, hlane, hid, rfl⟩ := lastOf_some _ _ _ _ _ hl
    exact ⟨lane, hlane, hid, by simpa [hl] using hc⟩

theorem nodup_casesByLane_sample (laneId : Str) : (casesByLane sampleTables laneId).Nodup := by
  unfold casesByLane
  rw [(sortedBy_perm _ _).nodup_iff]
  cases hl : lastOf Lane.laneId Lane.caseIds sampleTables.lanes laneId with
  | none => simp
  | some ids =>
    obtain ⟨lane, hlane, -, rfl⟩ := lastOf_some _ _ _ _ _ hl
    exact readLanes_caseIds _ _ read_sample.2 lane hlane

theorem withinCaps_sample : WithinCaps CompileLimits.frozen (candidates sampleTables) := by
  apply withinCaps_candidates sampleTables CompileLimits.frozen (List.takeWhile (· ≠ cp 46))
  · intro p _ c hc
    obtain ⟨lane, hl, hid, hc⟩ := mem_casesByLane_sample p.laneId c hc
    rw [← hid]
    exact sample_lane_of_case lane hl c hc
  · exact fun p _ => nodup_casesByLane_sample p.laneId
  · exact counted_sample.1.2.1
  · exact counted_sample.1.2.2.1
  · exact counted_sample.1.2.2.2.1
  · exact counted_sample.1.2.2.2.2

theorem issue38_sample : issue38 sampleTables CompileLimits.frozen = none := by
  unfold issue38
  rw [pathProbe_candidates sampleTables CompileLimits.frozen withinCaps_sample]
  decide +kernel

theorem countSkeleton_sample : countSkeleton sampleTables = .ok sampleResult := by
  obtain ⟨-, hm, hk⟩ := counted_sample
  unfold countSkeleton
  simp only [hm, hk, bind, Except.bind, pure, Except.pure]
  rfl

theorem passed_sample : Passed CompileLimits.frozen sampleTables sampleResult where
  unknownEntity := by
    unfold unknownEntity
    simp only [clean_append]
    refine ⟨⟨⟨⟨⟨⟨⟨⟨⟨⟨?_, ?_⟩, ?_⟩, ?_⟩, ?_⟩, ?_⟩, ?_⟩, ?_⟩, ?_⟩, ?_⟩, ?_⟩
    all_goals decide +kernel
  duplicateEntity := by decide +kernel
  orphanObligation := by decide +kernel
  orphanCase := by decide +kernel
  orphanJudge := by decide +kernel
  orphanBundle := by decide +kernel
  orphanGate := by decide +kernel
  orphanEvidence := by decide +kernel
  counted := countSkeleton_sample
  relationMismatch := by
    unfold relationMismatch
    simp only [then_ok_iff, sweep_ok]
    refine ⟨?_, ?_, ?_, ?_⟩
    all_goals decide +kernel
  issue38 := issue38_sample
  issue39 := by decide +kernel
  issue40 := by decide +kernel

theorem validateRelations_sample :
    validateRelations sampleCatalog sampleExpectation sampleLedger.record CompileLimits.frozen = .ok sampleResult := by
  unfold validateRelations
  rw [bind_ok_iff]
  exact ⟨sampleTables, normalize_sample, (validateTables_ok _ _ _).mpr passed_sample⟩

end TurnVector.Relations
