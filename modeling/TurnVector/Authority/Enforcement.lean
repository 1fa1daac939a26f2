import TurnVector.Authority.Coherence

/-! # The enforcement relation that Phase C derives -/

namespace TurnVector.Relations

open Python Json Canonical Table TraceabilityLedger

/-! ## What Phase C returns -/

/-- The last record of a key. -/
def recordOf (records : List (Str × Str)) (key : Str) : Str := (lastOf Prod.fst Prod.snd records key).getD []

theorem lookupRecord_ok (records : List (Str × Str)) (key : Str) (h : ∃ p ∈ records, p.1 = key) :
    lookupRecord records key = .ok (recordOf records key) ∧ (key, recordOf records key) ∈ records := by
  obtain ⟨v, hv⟩ : ∃ v, lastOf Prod.fst Prod.snd records key = some v := by
    rw [← Option.isSome_iff_exists, lastOf, Option.isSome_map, List.find?_isSome]
    obtain ⟨p, hp, hk⟩ := h
    exact ⟨p, List.mem_reverse.mpr hp, by simpa using hk⟩
  unfold lookupRecord recordOf
  rw [hv]
  obtain ⟨⟨a, b⟩, hp, rfl, rfl⟩ := lastOf_some _ _ _ _ _ hv
  exact ⟨rfl, hp⟩

section
variable (v : PhaseBResult)

def judgeOf (obligationId : Str) : Str := recordOf v.obligationJudges obligationId

def bundleOf (laneId : Str) : Str := recordOf v.bundles laneId

/-- The records of the path of a pair and a case id. -/
def pathRecords (lane : Lane) (pair : Pair) (caseId : Str) : PathRecords :=
  let pathId := joinTilde [pair.obligationId, caseId, judgeOf v pair.obligationId, bundleOf v lane.laneId, pair.gateId]
  { path := ⟨pathId, pair.obligationId, caseId, judgeOf v pair.obligationId, bundleOf v lane.laneId, pair.gateId⟩
    case := (pathId, caseId)
    gate := (pathId, pair.gateId)
    judgeNegative := (pathId, recordOf v.judgeTemplates pair.obligationId)
    evidence := (sortedBy (fun s => [s]) (membersOf v.toTables (bundleOf v lane.laneId))).map fun s => (pathId, s) }

def lanePairs (lane : Lane) : List Pair :=
  sortedBy (fun p => [p.laneId, p.obligationId, p.gateId]) (v.pairs.filter fun p => p.laneId = lane.laneId)

def lanePaths (lane : Lane) : List PathRecords :=
  (lanePairs v lane).flatMap fun pair => (sortedBy (fun c => [c]) lane.caseIds).map (pathRecords v lane pair)

def allPaths : List PathRecords := v.lanes.flatMap (lanePaths v)

def sortedGates : List (Str × Str) := sortedBy (fun g => [g.1, g.2]) v.gates

/-- The relations that Phase C builds when nothing is missing. -/
def derived : DerivedRelations where
  gateAggregateNegative := (sortedGates v).map fun g => (g.2, recordOf v.aggregateTemplates g.2)
  gatePlumbingNegative := (sortedGates v).map fun g => (g.2, recordOf v.plumbingTemplates g.2)
  enforcementPaths := (allPaths v).map (·.path)
  pathCase := (allPaths v).map (·.case)
  pathGate := (allPaths v).map (·.gate)
  pathJudgeNegative := (allPaths v).map (·.judgeNegative)
  pathEvidence := (allPaths v).flatMap (·.evidence)

/-- What the loops of Phase C look up, and the fields they encode. -/
structure Derivable : Prop where
  aggregate : ∀ g ∈ v.gates, ∃ p ∈ v.aggregateTemplates, p.1 = g.2
  plumbing : ∀ g ∈ v.gates, ∃ p ∈ v.plumbingTemplates, p.1 = g.2
  bundle : ∀ lane ∈ v.lanes, ∃ b ∈ v.bundles, b.1 = lane.laneId
  judge : ∀ p ∈ v.pairs, ∃ oj ∈ v.obligationJudges, oj.1 = p.obligationId
  template : ∀ p ∈ v.pairs, ∃ jt ∈ v.judgeTemplates, jt.1 = p.obligationId
  fields : ∀ lane ∈ v.lanes, ∀ p ∈ v.pairs, p.laneId = lane.laneId → ∀ c ∈ lane.caseIds,
    Fields p.obligationId c (judgeOf v p.obligationId) (bundleOf v lane.laneId) p.gateId
  h : (allPaths v).length = v.h
  rHe : ((allPaths v).flatMap (·.evidence)).length = v.rHe

end

section
variable {σ : Type} {hook : String → Nat → Method σ Unit} {v : PhaseBResult}
  (hgrant : ∀ label charge, (hook label charge).Returns ()) (hv : Derivable v)
include hgrant hv

theorem derivePath_returns (lane : Lane) (hl : lane ∈ v.lanes) (p : Pair) (hp : p ∈ v.pairs)
    (hid : p.laneId = lane.laneId) (c : Str) (hc : c ∈ lane.caseIds) :
    (derivePath hook v (bundleOf v lane.laneId) (judgeOf v p.obligationId) p c).Returns (pathRecords v lane p c) := by
  unfold derivePath
  apply (Method.returns_lift (encodeEnforcementPath_ok _ _ _ _ _ (hv.fields lane hl p hp hid c hc))).bind
  apply (hgrant _ _).bind
  apply (hgrant _ _).bind
  apply (hgrant _ _).bind
  apply (hgrant _ _).bind
  apply (Method.returns_lift (lookupRecord_ok _ _ (hv.template p hp)).1).bind
  apply (Method.returns_forM _ _ fun _ _ => hgrant _ _).bind
  exact Method.returns_pure _

theorem derivePair_returns (lane : Lane) (hl : lane ∈ v.lanes) (p : Pair) (hp : p ∈ v.pairs)
    (hid : p.laneId = lane.laneId) :
    (derivePair hook v lane (bundleOf v lane.laneId) p).Returns
      ((sortedBy (fun c => [c]) lane.caseIds).map (pathRecords v lane p)) := by
  unfold derivePair
  apply (Method.returns_lift (lookupRecord_ok _ _ (hv.judge p hp)).1).bind
  apply Method.returns_mapM
  intro c hc
  exact derivePath_returns hgrant hv lane hl p hp hid c ((mem_sortedBy _ _ _).mp hc)

theorem deriveLane_returns (lane : Lane) (hl : lane ∈ v.lanes) : (deriveLane hook v lane).Returns (lanePaths v lane) := by
  unfold deriveLane
  apply (Method.returns_lift (lookupRecord_ok _ _ (hv.bundle lane hl)).1).bind
  have hpairs : (List.mapM (derivePair hook v lane (bundleOf v lane.laneId)) (lanePairs v lane)).Returns
      ((lanePairs v lane).map fun p => (sortedBy (fun c => [c]) lane.caseIds).map (pathRecords v lane p)) := by
    apply Method.returns_mapM
    intro p hp
    have hp := List.mem_filter.mp ((mem_sortedBy _ _ _).mp hp)
    exact derivePair_returns hgrant hv lane hl p hp.1 (by simpa using hp.2)
  apply hpairs.bind
  rw [← List.flatMap_def]
  exact Method.returns_pure _

theorem deriveGate_returns (g : Str × Str) (hg : g ∈ v.gates) : (deriveGate hook v g).Returns
    ((g.2, recordOf v.aggregateTemplates g.2), (g.2, recordOf v.plumbingTemplates g.2)) := by
  unfold deriveGate
  apply (hgrant _ _).bind
  apply (Method.returns_lift (lookupRecord_ok _ _ (hv.aggregate g hg)).1).bind
  apply (hgrant _ _).bind
  apply (Method.returns_lift (lookupRecord_ok _ _ (hv.plumbing g hg)).1).bind
  exact Method.returns_pure _

/-- With nothing missing, Phase C returns from every state of the hook. -/
theorem deriveRelations_returns : (deriveRelations hook v).Returns (derived v) := by
  unfold deriveRelations
  apply (Method.returns_mapM (deriveGate hook v) _ _ fun g hg =>
    deriveGate_returns hgrant hv g ((mem_sortedBy _ _ _).mp hg)).bind
  apply (Method.returns_mapM (deriveLane hook v) (lanePaths v) _ fun lane hl =>
    deriveLane_returns hgrant hv lane hl).bind
  have hflat : (v.lanes.map (lanePaths v)).flatten = allPaths v := (List.flatMap_def).symm
  simp only [hflat]
  rw [if_neg (by simp [hv.h, hv.rHe])]
  unfold derived sortedGates
  simp only [List.map_map]
  exact Method.returns_pure _

end

/-! ## Validated input misses nothing -/

theorem length_lanePairs (v : PhaseBResult) (lane : Lane) : (lanePairs v lane).length = pairCount v.toTables lane.laneId := by
  unfold lanePairs pairCount
  rw [(sortedBy_perm _ _).length_eq, List.countP_eq_length_filter]

theorem length_lanePaths (v : PhaseBResult) (lane : Lane) :
    (lanePaths v lane).length = pairCount v.toTables lane.laneId * lane.caseIds.length := by
  unfold lanePaths
  rw [List.length_flatMap]
  simp only [List.length_map, (sortedBy_perm _ _).length_eq, List.map_const', List.sum_replicate, smul_eq_mul,
    length_lanePairs v lane]

theorem length_laneEvidence (v : PhaseBResult) (lane : Lane) : ((lanePaths v lane).flatMap (·.evidence)).length =
    pairCount v.toTables lane.laneId * lane.caseIds.length * (membersOf v.toTables (bundleOf v lane.laneId)).length := by
  have hone : ∀ records ∈ lanePaths v lane,
      records.evidence.length = (membersOf v.toTables (bundleOf v lane.laneId)).length := by
    intro records hr
    obtain ⟨p, -, hr⟩ := List.mem_flatMap.mp hr
    obtain ⟨c, -, rfl⟩ := List.mem_map.mp hr
    simp only [pathRecords, List.length_map, (sortedBy_perm _ _).length_eq]
  rw [List.length_flatMap, List.map_congr_left hone, List.map_const', List.sum_replicate, length_lanePaths v lane]
  rfl

section
variable {limits : CompileLimits} {v : PhaseBResult} (h : Passed limits v.toTables v)
include h

theorem Passed.bundleOf_mem (lane : Lane) (hl : lane ∈ v.lanes) :
    bundlesOf v.toTables lane.laneId = [bundleOf v lane.laneId] := by
  obtain ⟨b, hb, hid⟩ := exists_of_owned Prod.fst v.bundles lane.laneId (by rw [h.lane_bundle lane hl]; omega)
  have hmem := (lookupRecord_ok v.bundles lane.laneId ⟨b, hb, hid⟩).2
  obtain ⟨b', hb'⟩ := List.length_eq_one_iff.mp (h.bundlesOf_length lane hl)
  have : bundleOf v lane.laneId ∈ bundlesOf v.toTables lane.laneId := by
    unfold bundlesOf
    rw [List.mem_map]
    exact ⟨_, List.mem_filter.mpr ⟨hmem, by simp⟩, rfl⟩
  rw [hb', List.mem_singleton] at this
  rw [hb', this]

theorem Passed.laneDegree_bundleOf (lane : Lane) (hl : lane ∈ v.lanes) :
    laneDegree v.toTables lane.laneId = (membersOf v.toTables (bundleOf v lane.laneId)).length := by
  unfold laneDegree
  rw [h.bundleOf_mem lane hl]
  simp

theorem Passed.length_allPaths : (allPaths v).length = v.h := by
  unfold allPaths
  rw [List.length_flatMap, h.counters.h]
  simp only [length_lanePaths]

theorem Passed.length_allEvidence : ((allPaths v).flatMap (·.evidence)).length = v.rHe := by
  unfold allPaths
  rw [List.flatMap_assoc, List.length_flatMap, h.counters.rHe]
  congr 1
  apply List.map_congr_left
  intro lane hl
  rw [length_laneEvidence v lane, h.laneDegree_bundleOf lane hl]

theorem Passed.judgeOf_mem (p : Pair) (hp : p ∈ v.pairs) :
    (p.obligationId, judgeOf v p.obligationId) ∈ v.obligationJudges := by
  obtain ⟨x, hx, hid, -⟩ := h.coherent.pairObligation p hp
  obtain ⟨j, hj, -⟩ := h.coherent.judges.first p.obligationId (hid ▸ List.mem_map_of_mem hx)
  exact (lookupRecord_ok v.obligationJudges p.obligationId ⟨_, hj, rfl⟩).2

theorem Passed.bundleOf_record (lane : Lane) (hl : lane ∈ v.lanes) :
    (lane.laneId, bundleOf v lane.laneId) ∈ v.bundles := by
  obtain ⟨b, hb, hid⟩ := exists_of_owned Prod.fst v.bundles lane.laneId (by rw [h.lane_bundle lane hl]; omega)
  exact (lookupRecord_ok v.bundles lane.laneId ⟨b, hb, hid⟩).2

theorem Passed.template_exists (p : Pair) (hp : p ∈ v.pairs) : ∃ jt ∈ v.judgeTemplates, jt.1 = p.obligationId := by
  apply exists_of_owned Prod.fst
  rw [((issue40_none v.toTables).mp h.issue40).2.1 p hp]
  omega

theorem Passed.derivable (hids : TypedIds v.toTables)
    (hcases : ∀ lane ∈ v.lanes, ∀ c ∈ lane.caseIds, isIdentifier c = true) : Derivable v where
  aggregate g hg := by
    apply exists_of_owned Prod.fst
    rw [(h.gate_templates g.2 (List.mem_map_of_mem hg)).1]
    omega
  plumbing g hg := by
    apply exists_of_owned Prod.fst
    rw [(h.gate_templates g.2 (List.mem_map_of_mem hg)).2]
    omega
  bundle lane hl := ⟨_, h.bundleOf_record lane hl, rfl⟩
  judge p hp := ⟨_, h.judgeOf_mem p hp, rfl⟩
  template := h.template_exists
  fields lane hl p hp hid c hc :=
    ⟨(hids.obligationJudges _ (h.judgeOf_mem p hp)).1, hcases lane hl c hc,
      (hids.obligationJudges _ (h.judgeOf_mem p hp)).2, (hids.bundles _ (h.bundleOf_record lane hl)).2,
      (hids.gates _ (h.coherent.pairGate p hp)).2⟩
  h := h.length_allPaths
  rHe := h.length_allEvidence

end

/-! ## No loss and no duplication -/

/-- The obligation, gate and case of a path. -/
def EnforcementPath.key (e : EnforcementPath) : Str × Str × Str := (e.obligationId, e.gateId, e.caseId)

theorem mem_allPaths (v : PhaseBResult) (records : PathRecords) : records ∈ allPaths v ↔
    ∃ lane ∈ v.lanes, ∃ p ∈ v.pairs, p.laneId = lane.laneId ∧ ∃ c ∈ lane.caseIds, records = pathRecords v lane p c := by
  unfold allPaths lanePaths lanePairs
  simp only [List.mem_flatMap, List.mem_map, mem_sortedBy, List.mem_filter, decide_eq_true_eq, and_assoc]
  constructor
  · rintro ⟨lane, hl, p, hp, hid, c, hc, rfl⟩
    exact ⟨lane, hl, p, hp, hid, c, hc, rfl⟩
  · rintro ⟨lane, hl, p, hp, hid, c, hc, rfl⟩
    exact ⟨lane, hl, p, hp, hid, c, hc, rfl⟩

section
variable {limits : CompileLimits} {v : PhaseBResult} (h : Passed limits v.toTables v)
  (hnodup : ∀ lane ∈ v.lanes, lane.caseIds.Nodup)
include h

theorem Passed.lanePairs_nodup (lane : Lane) : ((lanePairs v lane).map Pair.record).Nodup := by
  have hn := ((clean_duplicateEntity v.toTables).mp h.duplicateEntity).2.2.2.2.2.2
  have hperm := (sortedBy_perm (fun p : Pair => [p.laneId, p.obligationId, p.gateId])
    (v.pairs.filter fun p => p.laneId = lane.laneId)).map Pair.record
  exact hperm.nodup_iff.mpr (hn.sublist (List.filter_sublist.map Pair.record))

/-- Two pairs of one obligation are of one lane. -/
theorem Passed.pair_lane (p q : Pair) (hp : p ∈ v.pairs) (hq : q ∈ v.pairs) (he : p.obligationId = q.obligationId) :
    p.laneId = q.laneId := by
  have h1 := (h.reconciled.pairLane p hp).1
  have h2 := (h.reconciled.pairLane q hq).1
  rw [he, h2] at h1
  exact (Option.some.inj h1).symm

include hnodup

theorem Passed.lanePaths_keys (lane : Lane) (hl : lane ∈ v.lanes) :
    ((lanePaths v lane).map (·.path.key)).Nodup := by
  unfold lanePaths
  rw [List.map_flatMap, List.nodup_flatMap]
  constructor
  · intro p _
    have hs : (sortedBy (fun c => [c]) lane.caseIds).Nodup := (sortedBy_perm _ _).nodup_iff.mpr (hnodup lane hl)
    rw [List.map_map]
    apply hs.map
    intro c c' he
    exact (Prod.mk.inj (Prod.mk.inj he).2).2
  · have hpairs := h.lanePairs_nodup lane
    rw [List.Nodup, List.pairwise_map] at hpairs
    refine hpairs.imp_of_mem ?_
    intro p q hp hq hne key hkp hkq
    have hp := List.mem_filter.mp ((mem_sortedBy _ _ _).mp hp)
    have hq := List.mem_filter.mp ((mem_sortedBy _ _ _).mp hq)
    simp only [List.map_map] at hkp hkq
    obtain ⟨c, -, rfl⟩ := List.mem_map.mp hkp
    obtain ⟨c', -, he⟩ := List.mem_map.mp hkq
    apply hne
    have hlane : p.laneId = q.laneId := by
      have h1 : p.laneId = lane.laneId := by simpa using hp.2
      have h2 : q.laneId = lane.laneId := by simpa using hq.2
      rw [h1, h2]
    have ho : q.obligationId = p.obligationId := (Prod.mk.inj he).1
    have hg : q.gateId = p.gateId := (Prod.mk.inj (Prod.mk.inj he).2).1
    simp only [Pair.record, hlane, ho, hg]

theorem Passed.allPaths_keys : ((allPaths v).map (·.path.key)).Nodup := by
  unfold allPaths
  rw [List.map_flatMap, List.nodup_flatMap]
  refine ⟨h.lanePaths_keys hnodup, ?_⟩
  have hlanes := h.laneIds_nodup
  rw [laneIds, List.Nodup, List.pairwise_map] at hlanes
  refine hlanes.imp_of_mem ?_
  intro lane lane' hl hl' hne key hk hk'
  obtain ⟨records, hr, rfl⟩ := List.mem_map.mp hk
  obtain ⟨records', hr', he⟩ := List.mem_map.mp hk'
  have hmem : ∀ l ∈ v.lanes, ∀ x ∈ lanePaths v l, ∃ p ∈ v.pairs, p.laneId = l.laneId ∧
      x.path.obligationId = p.obligationId := by
    intro l _ x hx
    obtain ⟨p, hp, hx⟩ := List.mem_flatMap.mp hx
    obtain ⟨c, -, rfl⟩ := List.mem_map.mp hx
    have hp := List.mem_filter.mp ((mem_sortedBy _ _ _).mp hp)
    exact ⟨p, hp.1, by simpa using hp.2, rfl⟩
  obtain ⟨p, hp, hid, ho⟩ := hmem lane hl records hr
  obtain ⟨p', hp', hid', ho'⟩ := hmem lane' hl' records' hr'
  have hobl : records'.path.obligationId = records.path.obligationId := (Prod.mk.inj he).1
  apply hne
  rw [← hid, ← hid']
  exact h.pair_lane p p' hp hp' (by rw [← ho, ← ho', hobl])

end

/-- The enforcement relation of a validated input: one record a pair and case id, with what it carries. -/
structure Complete (v : PhaseBResult) (d : DerivedRelations) : Prop where
  sound : ∀ e ∈ d.enforcementPaths, ∃ p ∈ v.pairs, ∃ lane ∈ v.lanes, lane.laneId = p.laneId ∧
    e.caseId ∈ lane.caseIds ∧ e.obligationId = p.obligationId ∧ e.gateId = p.gateId ∧
    (∀ j, (p.obligationId, j) ∈ v.obligationJudges ↔ j = e.judgeId) ∧
    (∀ b, (p.laneId, b) ∈ v.bundles ↔ b = e.bundleId) ∧
    encodeEnforcementPath e.obligationId e.caseId e.judgeId e.bundleId e.gateId = .ok e.pathId
  one : ∀ p ∈ v.pairs, ∀ lane ∈ v.lanes, lane.laneId = p.laneId → ∀ c ∈ lane.caseIds,
    owned EnforcementPath.key d.enforcementPaths (p.obligationId, p.gateId, c) = 1
  pathIds : (d.enforcementPaths.map (·.pathId)).Nodup
  decodes : ∀ e ∈ d.enforcementPaths,
    decodeEnforcementPath e.pathId = .ok (e.obligationId, e.caseId, e.judgeId, e.bundleId, e.gateId)
  pathCase : d.pathCase = d.enforcementPaths.map fun e => (e.pathId, e.caseId)
  pathGate : d.pathGate = d.enforcementPaths.map fun e => (e.pathId, e.gateId)
  pathJudgeNegative : d.pathJudgeNegative.map Prod.fst = d.enforcementPaths.map (·.pathId)
  judgeNegative : ∀ e ∈ d.enforcementPaths, ∃ n, (e.pathId, n) ∈ d.pathJudgeNegative ∧
    (e.obligationId, n) ∈ v.judgeTemplates
  pathEvidence : d.pathEvidence.Nodup
  evidence : ∀ id source, (id, source) ∈ d.pathEvidence ↔
    ∃ e ∈ d.enforcementPaths, e.pathId = id ∧ (e.bundleId, source) ∈ v.bundleEvidence
  gateAggregate : (d.gateAggregateNegative.map Prod.fst).Perm (gateIds v.toTables) ∧
    ∀ r ∈ d.gateAggregateNegative, r ∈ v.aggregateTemplates
  gatePlumbing : (d.gatePlumbingNegative.map Prod.fst).Perm (gateIds v.toTables) ∧
    ∀ r ∈ d.gatePlumbingNegative, r ∈ v.plumbingTemplates
  h : d.enforcementPaths.length = v.h
  rHe : d.pathEvidence.length = v.rHe

theorem mem_pathEvidence (v : PhaseBResult) (id source : Str) : (id, source) ∈ (derived v).pathEvidence ↔
    ∃ e ∈ (derived v).enforcementPaths, e.pathId = id ∧ (e.bundleId, source) ∈ v.bundleEvidence := by
  have hmembers : ∀ b s, s ∈ membersOf v.toTables b ↔ (b, s) ∈ v.bundleEvidence := by
    intro b s
    simp [membersOf]
  constructor
  · intro hm
    obtain ⟨records, hr, hm⟩ := List.mem_flatMap.mp hm
    refine ⟨records.path, List.mem_map_of_mem hr, ?_⟩
    obtain ⟨lane, hl, p, hp, hid, c, hc, rfl⟩ := (mem_allPaths v records).mp hr
    obtain ⟨s, hs, he⟩ := List.mem_map.mp hm
    obtain ⟨rfl, rfl⟩ := Prod.mk.inj he
    exact ⟨rfl, (hmembers _ _).mp ((mem_sortedBy _ _ _).mp hs)⟩
  · rintro ⟨e, he, rfl, hm⟩
    obtain ⟨records, hr, rfl⟩ := List.mem_map.mp he
    refine List.mem_flatMap.mpr ⟨records, hr, ?_⟩
    obtain ⟨lane, hl, p, hp, hid, c, hc, rfl⟩ := (mem_allPaths v records).mp hr
    exact List.mem_map.mpr ⟨source, (mem_sortedBy _ _ _).mpr ((hmembers _ _).mpr hm), rfl⟩

theorem gate_records (v : PhaseBResult) (templates : List (Str × Str))
    (hone : ∀ g ∈ gateIds v.toTables, owned Prod.fst templates g = 1) :
    (((sortedGates v).map fun g => (g.2, recordOf templates g.2)).map Prod.fst).Perm (gateIds v.toTables) ∧
      ∀ r ∈ (sortedGates v).map fun g => (g.2, recordOf templates g.2), r ∈ templates := by
  constructor
  · rw [List.map_map]
    exact (sortedBy_perm _ v.gates).map Prod.snd
  · intro r hr
    obtain ⟨g, hg, rfl⟩ := List.mem_map.mp hr
    have hg : g.2 ∈ gateIds v.toTables := List.mem_map_of_mem ((mem_sortedBy _ _ _).mp hg)
    exact (lookupRecord_ok templates g.2 (exists_of_owned Prod.fst _ _ (by rw [hone g.2 hg]; omega))).2

theorem Passed.pathEvidence_nodup {limits : CompileLimits} {v : PhaseBResult} (h : Passed limits v.toTables v)
    (hids : ((allPaths v).map (·.path.pathId)).Nodup) :
    (derived v).pathEvidence.Nodup := by
  have hb : v.bundleEvidence.Nodup := ((clean_duplicateEntity v.toTables).mp h.duplicateEntity).2.2.1
  have hmembers : ∀ b, (membersOf v.toTables b).Nodup := by
    intro b
    unfold membersOf
    refine (hb.filter _).map_on ?_
    intro x hx y hy he
    have hx := (List.mem_filter.mp hx).2
    have hy := (List.mem_filter.mp hy).2
    simp only [decide_eq_true_eq] at hx hy
    exact Prod.ext (hx.trans hy.symm) he
  have hfst : ∀ records ∈ allPaths v, ∀ r ∈ records.evidence, r.1 = records.path.pathId := by
    intro records hr r hm
    obtain ⟨lane, hl, p, hp, hid, c, hc, rfl⟩ := (mem_allPaths v records).mp hr
    obtain ⟨s, -, rfl⟩ := List.mem_map.mp hm
    rfl
  unfold derived
  simp only
  rw [List.nodup_flatMap]
  constructor
  · intro records hr
    obtain ⟨lane, hl, p, hp, hid, c, hc, rfl⟩ := (mem_allPaths v records).mp hr
    have hs : (sortedBy (fun s => [s]) (membersOf v.toTables (bundleOf v lane.laneId))).Nodup :=
      (sortedBy_perm _ _).nodup_iff.mpr (hmembers _)
    exact hs.map fun s s' he => (Prod.mk.inj he).2
  · rw [List.Nodup, List.pairwise_map] at hids
    refine hids.imp_of_mem ?_
    intro x y hx hy hne r hrx hry
    exact hne ((hfst x hx r hrx).symm.trans (hfst y hy r hry))

section
variable {limits : CompileLimits} {v : PhaseBResult} (h : Passed limits v.toTables v) (hd : Derivable v)
include hd

theorem decode_pathRecords (records : PathRecords) (hr : records ∈ allPaths v) :
    decodeEnforcementPath records.path.pathId = .ok (records.path.obligationId, records.path.caseId,
      records.path.judgeId, records.path.bundleId, records.path.gateId) := by
  obtain ⟨lane, hl, p, hp, hid, c, hc, rfl⟩ := (mem_allPaths v records).mp hr
  exact decodeEnforcementPath_ok _ _ _ _ _ (hd.fields lane hl p hp hid c hc)

/-- Path ids are distinct, because the ids they decode to are. -/
theorem pathIds_nodup (hkeys : ((allPaths v).map (·.path.key)).Nodup) : ((allPaths v).map (·.path.pathId)).Nodup := by
  rw [List.Nodup, List.pairwise_map] at hkeys ⊢
  refine hkeys.imp_of_mem ?_
  intro x y hx hy hne he
  apply hne
  have hdx := decode_pathRecords hd x hx
  have hdy := decode_pathRecords hd y hy
  rw [he, hdy] at hdx
  simp only [Except.ok.injEq, Prod.mk.injEq] at hdx
  obtain ⟨ho, hc, -, -, hg⟩ := hdx
  simp only [EnforcementPath.key, ho, hc, hg]

include h

theorem Passed.complete_sound (e : EnforcementPath) (he : e ∈ (derived v).enforcementPaths) :
    ∃ p ∈ v.pairs, ∃ lane ∈ v.lanes, lane.laneId = p.laneId ∧
      e.caseId ∈ lane.caseIds ∧ e.obligationId = p.obligationId ∧ e.gateId = p.gateId ∧
      (∀ j, (p.obligationId, j) ∈ v.obligationJudges ↔ j = e.judgeId) ∧
      (∀ b, (p.laneId, b) ∈ v.bundles ↔ b = e.bundleId) ∧
      encodeEnforcementPath e.obligationId e.caseId e.judgeId e.bundleId e.gateId = .ok e.pathId := by
  obtain ⟨records, hr, rfl⟩ := List.mem_map.mp he
  obtain ⟨lane, hl, p, hp, hid, c, hc, rfl⟩ := (mem_allPaths v records).mp hr
  refine ⟨p, hp, lane, hl, hid.symm, hc, rfl, rfl, ?_, ?_, ?_⟩
  · intro j
    have hmem := h.judgeOf_mem p hp
    have hin := (h.coherent.judges.inside _ hmem).1
    constructor
    · intro hj
      exact (h.coherent.judges.first p.obligationId hin).unique hj hmem
    · rintro rfl
      exact hmem
  · intro b
    have hmem := h.bundleOf_record lane hl
    rw [hid]
    constructor
    · intro hb
      exact congrArg Prod.snd (eq_of_owned_one Prod.fst v.bundles lane.laneId (h.lane_bundle lane hl) hb hmem rfl rfl)
    · rintro rfl
      exact hmem
  · exact encodeEnforcementPath_ok _ _ _ _ _ (hd.fields lane hl p hp hid c hc)

theorem Passed.complete (hnodup : ∀ lane ∈ v.lanes, lane.caseIds.Nodup) : Complete v (derived v) := by
  have hkeys := h.allPaths_keys hnodup
  have hids := pathIds_nodup hd hkeys
  refine ⟨h.complete_sound hd, ?_, ?_, ?_, ?_, ?_, ?_, ?_, h.pathEvidence_nodup hids, mem_pathEvidence v,
    gate_records v _ fun g hg => (h.gate_templates g hg).1,
    gate_records v _ fun g hg => (h.gate_templates g hg).2, ?_, hd.rHe⟩
  · intro p hp lane hl hid c hc
    have hmem : pathRecords v lane p c ∈ allPaths v := (mem_allPaths v _).mpr ⟨lane, hl, p, hp, hid.symm, c, hc, rfl⟩
    have hn : ((derived v).enforcementPaths.map EnforcementPath.key).Nodup := by
      unfold derived
      rw [List.map_map]
      exact hkeys
    exact owned_one_of_mem EnforcementPath.key _ hn _ (List.mem_map_of_mem hmem)
  · unfold derived
    rw [List.map_map]
    exact hids
  · intro e he
    obtain ⟨records, hr, rfl⟩ := List.mem_map.mp he
    exact decode_pathRecords hd records hr
  · simp only [derived, List.map_map]
    apply List.map_congr_left
    intro records hr
    obtain ⟨lane, hl, p, hp, hid, c, hc, rfl⟩ := (mem_allPaths v records).mp hr
    rfl
  · simp only [derived, List.map_map]
    apply List.map_congr_left
    intro records hr
    obtain ⟨lane, hl, p, hp, hid, c, hc, rfl⟩ := (mem_allPaths v records).mp hr
    rfl
  · simp only [derived, List.map_map]
    apply List.map_congr_left
    intro records hr
    obtain ⟨lane, hl, p, hp, hid, c, hc, rfl⟩ := (mem_allPaths v records).mp hr
    rfl
  · intro e he
    obtain ⟨records, hr, rfl⟩ := List.mem_map.mp he
    refine ⟨records.judgeNegative.2, ?_, ?_⟩
    · refine List.mem_map.mpr ⟨records, hr, ?_⟩
      obtain ⟨lane, hl, p, hp, hid, c, hc, rfl⟩ := (mem_allPaths v records).mp hr
      rfl
    · obtain ⟨lane, hl, p, hp, hid, c, hc, rfl⟩ := (mem_allPaths v records).mp hr
      exact (lookupRecord_ok v.judgeTemplates p.obligationId (hd.template p hp)).2
  · simpa only [derived, List.length_map] using hd.h

end

/-- What Phase C relies on, of every validated input with identifiers for case ids. -/
theorem validateRelations_derivable (catalog expectation : Json) (ledger : Value) (limits : CompileLimits)
    (v : PhaseBResult) (h : validateRelations catalog expectation ledger.record limits = .ok v)
    (hcases : ∀ lane ∈ v.lanes, ∀ c ∈ lane.caseIds, isIdentifier c = true) :
    Derivable v ∧ TypedIds v.toTables ∧ ∀ lane ∈ v.lanes, lane.caseIds.Nodup := by
  have hpassed := validateRelations_ok catalog expectation ledger.record limits v h
  unfold validateRelations at h
  rw [bind_ok_iff] at h
  obtain ⟨t, ht, hv⟩ := h
  have hnorm := (normalize_ok catalog expectation ledger.record t).mp ht
  have htab : v.toTables = t := (countSkeleton_ok t v ((validateTables_ok limits t v).mp hv).counted).1
  rw [← htab] at hnorm ht
  have hids := normalize_typed catalog expectation ledger v.toTables ht
  exact ⟨hpassed.derivable hids hcases, hids, readLanes_caseIds expectation v.lanes hnorm.lanes⟩

/-- A path id of identifiers. -/
def IsPathId (id : Str) : Prop := ∃ o c j b g, Fields o c j b g ∧ id = joinTilde [o, c, j, b, g]

/-- Every id that Phase C writes is an identifier or a path id. -/
structure DerivedIds (d : DerivedRelations) : Prop where
  path : ∀ e ∈ d.enforcementPaths, Fields e.obligationId e.caseId e.judgeId e.bundleId e.gateId ∧
    e.pathId = joinTilde [e.obligationId, e.caseId, e.judgeId, e.bundleId, e.gateId]
  pathCase : ∀ r ∈ d.pathCase, IsPathId r.1 ∧ isIdentifier r.2 = true
  pathGate : ∀ r ∈ d.pathGate, IsPathId r.1 ∧ isIdentifier r.2 = true
  pathJudgeNegative : ∀ r ∈ d.pathJudgeNegative, IsPathId r.1 ∧ isIdentifier r.2 = true
  pathEvidence : ∀ r ∈ d.pathEvidence, IsPathId r.1 ∧ isIdentifier r.2 = true
  gateAggregateNegative : ∀ r ∈ d.gateAggregateNegative, isIdentifier r.1 = true ∧ isIdentifier r.2 = true
  gatePlumbingNegative : ∀ r ∈ d.gatePlumbingNegative, isIdentifier r.1 = true ∧ isIdentifier r.2 = true

theorem derived_ids (v : PhaseBResult) (hv : Derivable v) (hids : TypedIds v.toTables) : DerivedIds (derived v) := by
  have hfields : ∀ records ∈ allPaths v, Fields records.path.obligationId records.path.caseId records.path.judgeId
      records.path.bundleId records.path.gateId := by
    intro records hr
    obtain ⟨lane, hl, p, hp, hid, c, hc, rfl⟩ := (mem_allPaths v records).mp hr
    exact hv.fields lane hl p hp hid c hc
  have hpath : ∀ records ∈ allPaths v, IsPathId records.path.pathId := by
    intro records hr
    obtain ⟨lane, hl, p, hp, hid, c, hc, rfl⟩ := (mem_allPaths v records).mp hr
    exact ⟨_, _, _, _, _, hv.fields lane hl p hp hid c hc, rfl⟩
  refine ⟨?_, ?_, ?_, ?_, ?_, ?_, ?_⟩
  · intro e he
    obtain ⟨records, hr, rfl⟩ := List.mem_map.mp he
    refine ⟨hfields records hr, ?_⟩
    obtain ⟨lane, hl, p, hp, hid, c, hc, rfl⟩ := (mem_allPaths v records).mp hr
    rfl
  · intro r he
    obtain ⟨records, hr, rfl⟩ := List.mem_map.mp he
    have hf := hfields records hr
    have hp := hpath records hr
    obtain ⟨lane, hl, p, -, hid, c, hc, rfl⟩ := (mem_allPaths v records).mp hr
    exact ⟨hp, hf.case⟩
  · intro r he
    obtain ⟨records, hr, rfl⟩ := List.mem_map.mp he
    have hf := hfields records hr
    have hp := hpath records hr
    obtain ⟨lane, hl, p, -, hid, c, hc, rfl⟩ := (mem_allPaths v records).mp hr
    exact ⟨hp, hf.gate⟩
  · intro r he
    obtain ⟨records, hr, rfl⟩ := List.mem_map.mp he
    have hp := hpath records hr
    obtain ⟨lane, hl, p, hpair, hid, c, hc, rfl⟩ := (mem_allPaths v records).mp hr
    exact ⟨hp, (hids.judgeTemplates _ (lookupRecord_ok _ _ (hv.template p hpair)).2).2⟩
  · rintro ⟨id, source⟩ he
    obtain ⟨e, hpaths, rfl, hm⟩ := (mem_pathEvidence v id source).mp he
    obtain ⟨records, hr, rfl⟩ := List.mem_map.mp hpaths
    exact ⟨hpath records hr, (hids.bundleEvidence _ hm).2⟩
  · intro r he
    obtain ⟨g, hg, rfl⟩ := List.mem_map.mp he
    exact hids.aggregateTemplates _ (lookupRecord_ok _ _ (hv.aggregate g ((mem_sortedBy _ _ _).mp hg))).2
  · intro r he
    obtain ⟨g, hg, rfl⟩ := List.mem_map.mp he
    exact hids.plumbingTemplates _ (lookupRecord_ok _ _ (hv.plumbing g ((mem_sortedBy _ _ _).mp hg))).2

theorem sample_caseIds : ∀ lane ∈ sampleResult.lanes, ∀ c ∈ lane.caseIds, isIdentifier c = true := by decide +kernel

theorem derivable_sample : Derivable sampleResult :=
  (validateRelations_derivable _ _ _ _ _ validateRelations_sample sample_caseIds).1

/-- Phase C derives the complete relation from every validated input with identifiers for case ids, and raises
nothing, whatever the admitting hook does to its state. -/
theorem deriveRelations_complete {σ : Type} (catalog expectation : Json) (ledger : Value) (limits : CompileLimits)
    (v : PhaseBResult) (h : validateRelations catalog expectation ledger.record limits = .ok v)
    (hcases : ∀ lane ∈ v.lanes, ∀ c ∈ lane.caseIds, isIdentifier c = true) (hook : String → Nat → Method σ Unit)
    (hgrant : ∀ label charge, (hook label charge).Returns ()) :
    ∃ d, (deriveRelations hook v).Returns d ∧ Complete v d := by
  have hpassed := validateRelations_ok catalog expectation ledger.record limits v h
  obtain ⟨hd, -, hnodup⟩ := validateRelations_derivable catalog expectation ledger limits v h hcases
  exact ⟨derived v, deriveRelations_returns hgrant hd, hpassed.complete hd hnodup⟩

theorem deriveRelations_complete_sample :
    validateRelations sampleCatalog sampleExpectation sampleLedger.record CompileLimits.frozen = .ok sampleResult ∧
      ∃ d, (deriveRelations (σ := Unit) (fun _ _ => pure ()) sampleResult).Returns d ∧ Complete sampleResult d :=
  ⟨validateRelations_sample, deriveRelations_complete sampleCatalog sampleExpectation sampleLedger _ sampleResult
    validateRelations_sample sample_caseIds _ fun _ _ => Method.returns_pure _⟩

end TurnVector.Relations
