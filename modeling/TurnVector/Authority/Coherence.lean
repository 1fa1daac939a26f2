import TurnVector.Authority.TypedInputs

/-! # The traceability graph that Phase B admits -/

namespace TurnVector.Relations

open Python Json Table

/-! ## Counters -/

theorem countLane_ok (t : Tables) (counts next : Nat × Nat × Nat) (lane : Lane)
    (h : countLane t counts lane = .ok next) :
    next = (counts.1 + pairCount t lane.laneId,
      counts.2.1 + pairCount t lane.laneId * lane.caseIds.length,
      counts.2.2 + pairCount t lane.laneId * lane.caseIds.length * laneDegree t lane.laneId) := by
  unfold countLane at h
  simp only [bind_ok_iff, checkedAdd_ok, checkedMul_ok, pure, Except.pure, Except.ok.injEq] at h
  obtain ⟨m, ⟨rfl, -⟩, laneH, ⟨rfl, -⟩, hh, ⟨rfl, -⟩, laneRHe, ⟨rfl, -⟩, rHe, ⟨rfl, -⟩, rfl⟩ := h
  rfl

theorem foldlM_countLane_ok (t : Tables) (lanes : List Lane) (counts last : Nat × Nat × Nat)
    (h : lanes.foldlM (countLane t) counts = .ok last) :
    last = (counts.1 + (lanes.map fun lane => pairCount t lane.laneId).sum,
      counts.2.1 + (lanes.map fun lane => pairCount t lane.laneId * lane.caseIds.length).sum,
      counts.2.2 + (lanes.map fun lane =>
        pairCount t lane.laneId * lane.caseIds.length * laneDegree t lane.laneId).sum) := by
  induction lanes generalizing counts with
  | nil => simpa [pure, Except.pure, eq_comm] using h
  | cons lane lanes ih =>
    rw [List.foldlM_cons, bind_ok_iff] at h
    obtain ⟨next, hnext, hrest⟩ := h
    rw [ih next hrest, countLane_ok t counts next lane hnext]
    simp only [List.map_cons, List.sum_cons, Nat.add_assoc]

/-- What the counters hold, whenever no sum overflows. -/
structure Counted (r : PhaseBResult) : Prop where
  m : r.m = (r.lanes.map fun lane => pairCount r.toTables lane.laneId).sum
  h : r.h = (r.lanes.map fun lane => pairCount r.toTables lane.laneId * lane.caseIds.length).sum
  rHe : r.rHe = (r.lanes.map fun lane =>
    pairCount r.toTables lane.laneId * lane.caseIds.length * laneDegree r.toTables lane.laneId).sum
  kExec : r.kExec = 425 + r.laneContexts.length + r.laneOutputs.length + 4 * r.gates.length + r.rHe + 3 * r.h

theorem countSkeleton_ok (t : Tables) (r : PhaseBResult) (h : countSkeleton t = .ok r) :
    r.toTables = t ∧ Counted r := by
  unfold countSkeleton keyCount at h
  simp only [bind_ok_iff, checkedAdd_ok, pure, Except.pure, Except.ok.injEq] at h
  obtain ⟨⟨m, hh, rHe⟩, hcount, kExec, ⟨paths, ⟨rfl, -⟩, rfl, -⟩, rfl⟩ := h
  have hlast := foldlM_countLane_ok t t.lanes _ _ hcount
  simp only [Nat.zero_add, Prod.mk.injEq] at hlast
  obtain ⟨hm, hh, hr⟩ := hlast
  exact ⟨rfl, hm, hh, hr, by simp only; omega⟩

/-! ## Stage 37 -/

/-- The behaviour case that an obligation covers. -/
def Obligation.case (x : Obligation) : Str × Str := (x.laneId, x.behaviorCaseId)

theorem clean_repeatedCase (r : PhaseBResult) :
    Clean (repeatedCase r) ↔ (r.allObligations.map Obligation.case).Nodup := by
  unfold repeatedCase
  rw [clean_map, ← nodup_iff_seen Obligation.case]
  apply forall₂_congr
  intro x _
  rw [← Bool.not_eq_true, occurs_iff]
  rfl

theorem checkPairLane_ok (r : PhaseBResult) (p : Pair) :
    checkPairLane r p = .ok () ↔
      lastOf Obligation.obligationId Obligation.laneId r.obligations p.obligationId = some p.laneId ∧
        lastOf Prod.snd Prod.fst r.gates p.gateId = some p.laneId := by
  unfold checkPairLane
  cases ho : lastOf Obligation.obligationId Obligation.laneId r.obligations p.obligationId with
  | none => simp [itemOf, bind, Except.bind]
  | some o =>
    by_cases hl : o = p.laneId
    · cases hg : lastOf Prod.snd Prod.fst r.gates p.gateId with
      | none => simp [itemOf, bind, Except.bind, hl]
      | some g => by_cases hl' : g = p.laneId <;> simp [itemOf, bind, Except.bind, hl, hl', pure, Except.pure]
    · simp [itemOf, bind, Except.bind, hl]

/-- What stage 37 compared. -/
structure Reconciled (r : PhaseBResult) : Prop where
  cases : (r.allObligations.map Obligation.case).Nodup
  pairLane : ∀ p ∈ r.pairs,
    lastOf Obligation.obligationId Obligation.laneId r.obligations p.obligationId = some p.laneId ∧
      lastOf Prod.snd Prod.fst r.gates p.gateId = some p.laneId
  cardinalities : checkCardinalities r = .ok ()
  shape : shapeDrift r = false
  lanes : laneIds r.toTables = laneOrder
  counts : countDrift r = false
  gates : ∀ lane ∈ r.lanes, sameGates r lane = true
  partition : ∀ lane ∈ r.lanes, Clean (partitionProbes r lane)

theorem relationMismatch_ok (r : PhaseBResult) : relationMismatch r = .ok () ↔ Reconciled r := by
  unfold relationMismatch
  simp only [then_ok_iff, sweep_ok, forM_ok_iff, checkPairLane_ok, clean_repeatedCase, clean_append, clean_cons,
    clean_nil, clean_flatMap, bne_eq_false_iff_eq, List.any_eq_false, Bool.not_eq_true', and_true]
  constructor
  · rintro ⟨h1, h2, h3, ⟨h4, h5, h6, h7⟩, h8⟩
    exact ⟨h1, h2, h3, h4, h5, h6, by simpa using h7, h8⟩
  · intro h
    exact ⟨h.cases, h.pairLane, h.cardinalities, ⟨h.shape, h.lanes, h.counts, by simpa using h.gates⟩, h.partition⟩

/-! ## What was returned -/

/-- The behaviour cases of the lanes. -/
def behaviorCases (r : PhaseBResult) : Set (Str × Str) := {c | ∃ lane ∈ r.lanes, c.1 = lane.laneId ∧ c.2 ∈ lane.cases}

/-- The evidence members of the bundles of a lane. -/
def bundleMembers (r : PhaseBResult) (laneId : Str) : Nat :=
  r.bundleEvidence.countP fun m => occurs (laneId, m.1) r.bundles

/-- A coherent traceability graph. -/
structure Coherent (r : PhaseBResult) : Prop where
  judges : Matching r.obligationJudges (obligationIds r.toTables) r.judges
  required : ∀ x ∈ r.allObligations, x.required = true
  cases : Set.BijOn Obligation.case {x | x ∈ r.obligations} (behaviorCases r)
  gateRecord : ∀ g ∈ gateIds r.toTables, ∃! laneId, (laneId, g) ∈ r.gates
  gateLane : ∀ g ∈ gateIds r.toTables, ∃! lane, lane ∈ r.lanes ∧ g ∈ lane.gates
  aggregate : ∀ g ∈ gateIds r.toTables, owned Prod.fst r.aggregateTemplates g = 1
  plumbing : ∀ g ∈ gateIds r.toTables, owned Prod.fst r.plumbingTemplates g = 1
  judgeTemplate : ∀ x ∈ r.obligations, owned Prod.fst r.judgeTemplates x.obligationId = 1
  bundle : ∀ lane ∈ r.lanes, owned Prod.fst r.bundles lane.laneId = 1
  bundleMember : ∀ b ∈ r.bundles, ∃ source, (b.2, source) ∈ r.bundleEvidence
  sourceMember : ∀ source ∈ r.evidenceSources, ∃ b, (b, source) ∈ r.bundleEvidence
  pairObligation : ∀ p ∈ r.pairs, ∃ x ∈ r.obligations, x.obligationId = p.obligationId ∧ x.laneId = p.laneId
  pairGate : ∀ p ∈ r.pairs, (p.laneId, p.gateId) ∈ r.gates
  obligationPaired : ∀ x ∈ r.obligations, ∃ p ∈ r.pairs, p.obligationId = x.obligationId
  gatePaired : ∀ g ∈ gateIds r.toTables, ∃ p ∈ r.pairs, p.gateId = g
  m : r.m = r.pairs.length
  h : r.h = (r.lanes.map fun lane => pairCount r.toTables lane.laneId * lane.caseIds.length).sum
  rHe : r.rHe = (r.lanes.map fun lane =>
    pairCount r.toTables lane.laneId * lane.caseIds.length * bundleMembers r lane.laneId).sum
  kExec : r.kExec = 425 + r.laneContexts.length + r.laneOutputs.length + 4 * r.gates.length + r.rHe + 3 * r.h

theorem laneOrder_nodup : laneOrder.Nodup := by decide +kernel

section
variable {limits : CompileLimits} {r : PhaseBResult} (h : Passed limits r.toTables r)
include h

theorem Passed.reconciled : Reconciled r := (relationMismatch_ok r).mp h.relationMismatch

theorem Passed.counters : Counted r := (countSkeleton_ok r.toTables r h.counted).2

theorem Passed.laneIds_nodup : (laneIds r.toTables).Nodup := by
  rw [h.reconciled.lanes]
  exact laneOrder_nodup

theorem Passed.known : Known r.toTables := (clean_unknownEntity r.toTables).mp h.unknownEntity

/-- No base is empty, so no sweep is skipped. -/
theorem Passed.bases : r.lanes ≠ [] ∧ r.obligations ≠ [] ∧ r.judges ≠ [] ∧ r.gates ≠ [] ∧ r.bundles ≠ [] := by
  have h39 := h.issue39
  unfold Relations.issue39 emptyEntity at h39
  simp only [Option.orElse_eq_orElse, Option.orElse_eq_or, Option.or_eq_none_iff, ite_eq_right_iff, reduceCtorEq,
    imp_false, List.isEmpty_iff] at h39
  obtain ⟨hbase, hj, hg, hb, -, -, -⟩ := h39
  by_cases hl : r.lanes = []
  · simp [hl] at hbase
  by_cases ho : r.obligations = []
  · simp [hl, ho] at hbase
  exact ⟨hl, ho, hj, hg, hb⟩

/-! ## Judges -/

theorem Passed.shape : r.obligationJudges.length = 46 ∧ r.judges.length = 46 ∧ r.obligations.length = 46 ∧
    (∀ x ∈ r.obligations, owned Prod.fst r.obligationJudges x.obligationId = 1) ∧
    ∀ j ∈ r.judges, owned Prod.snd r.obligationJudges j = 1 := by
  have hs := h.reconciled.shape
  unfold shapeDrift at hs
  simp only [Bool.or_eq_false_iff, bne_eq_false_iff_eq, List.any_eq_false, bne_iff_ne, not_not] at hs
  obtain ⟨⟨⟨⟨h1, h2⟩, h3⟩, h4⟩, h5⟩ := hs
  exact ⟨h1, h2, h3, h4, h5⟩

theorem Passed.judges_matching : Matching r.obligationJudges (obligationIds r.toTables) r.judges := by
  obtain ⟨hoj, hj, ho, hone, hjone⟩ := h.shape
  have hn := ((clean_duplicateEntity r.toTables).mp h.duplicateEntity).1
  apply matching_of_owned _ _ _ hn h.known.judge _ hjone
  · unfold obligationIds
    rw [List.length_map, ho, hoj]
  · rw [hj, hoj]
  · intro o hm
    obtain ⟨x, hx, rfl⟩ := List.mem_map.mp hm
    exact hone x hx

/-! ## Behaviour cases -/

theorem Passed.case_known (x : Obligation) (hx : x ∈ r.allObligations) : x.case ∈ behaviorCases r := by
  have hk := (h.known.case x hx).2
  cases hl : lastOf Lane.laneId Lane.cases r.lanes x.laneId with
  | none => simp [hl] at hk
  | some cases =>
    obtain ⟨lane, hlane, hid, rfl⟩ := lastOf_some _ _ _ _ _ hl
    rw [hl] at hk
    exact ⟨lane, hlane, hid.symm, hk⟩

theorem Passed.case_covered (c : Str × Str) (hc : c ∈ behaviorCases r) : ∃ x ∈ r.obligations, x.case = c := by
  obtain ⟨lane, hlane, hid, hmem⟩ := hc
  have hs := h.orphanCase
  unfold Relations.orphanCase at hs
  rw [if_neg (by simpa using h.bases.2.1)] at hs
  simp only [clean_flatMap, clean_map, Bool.not_eq_false', occurs_iff] at hs
  rw [forall_zipIdx r.lanes fun lane => ∀ c ∈ lane.cases.zipIdx, (lane.laneId, c.1) ∈ _] at hs
  have hcase := (forall_zipIdx lane.cases fun c => (lane.laneId, c) ∈ _).mp (hs lane hlane) c.2 hmem
  obtain ⟨x, hx, he⟩ := List.mem_map.mp hcase
  exact ⟨x, hx, by rw [← hid] at he; exact he⟩

theorem Passed.all_required (x : Obligation) (hx : x ∈ r.allObligations) : x.required = true := by
  obtain ⟨y, hy, he⟩ := h.case_covered x.case (h.case_known x hx)
  have hy := List.mem_filter.mp hy
  have : y = x := List.inj_on_of_nodup_map h.reconciled.cases hy.1 hx he
  exact this ▸ hy.2

theorem Passed.cases_bijOn : Set.BijOn Obligation.case {x | x ∈ r.obligations} (behaviorCases r) := by
  refine ⟨?_, ?_, ?_⟩
  · intro x hx
    exact h.case_known x (List.mem_of_mem_filter hx)
  · intro x hx y hy he
    exact List.inj_on_of_nodup_map h.reconciled.cases (List.mem_of_mem_filter hx) (List.mem_of_mem_filter hy) he
  · intro c hc
    obtain ⟨x, hx, he⟩ := h.case_covered c hc
    exact ⟨x, hx, he⟩

/-! ## Pairs -/

theorem Passed.obligation_paired (x : Obligation) (hx : x ∈ r.obligations) :
    ∃ p ∈ r.pairs, p.obligationId = x.obligationId := by
  obtain ⟨-, ho, hj, hg, -⟩ := h.bases
  have hs := h.orphanObligation
  unfold Relations.orphanObligation at hs
  rw [if_neg (by simp [ho, hj, hg])] at hs
  simp only [clean_map, Bool.or_eq_false_iff, Bool.not_eq_false', occurs_iff] at hs
  exact List.mem_map.mp (hs x hx).2

theorem Passed.gate_paired (g : Str) (hg : g ∈ gateIds r.toTables) : ∃ p ∈ r.pairs, p.gateId = g := by
  obtain ⟨gate, hgate, rfl⟩ := List.mem_map.mp hg
  exact List.mem_map.mp ((clean_orphans _ _ _ _).mp h.orphanGate gate hgate)

/-! ## Owners of templates -/

theorem Passed.judge_template (x : Obligation) (hx : x ∈ r.obligations) :
    owned Prod.fst r.judgeTemplates x.obligationId = 1 := by
  obtain ⟨p, hp, he⟩ := h.obligation_paired x hx
  rw [← he]
  exact ((issue40_none r.toTables).mp h.issue40).2.1 p hp

theorem Passed.gate_templates (g : Str) (hg : g ∈ gateIds r.toTables) :
    owned Prod.fst r.aggregateTemplates g = 1 ∧ owned Prod.fst r.plumbingTemplates g = 1 := by
  obtain ⟨gate, hgate, rfl⟩ := List.mem_map.mp hg
  exact ((issue40_none r.toTables).mp h.issue40).2.2 gate hgate

/-! ## Gates -/

/-- What the six count tuples say. -/
theorem Passed.frozen_counts : laneObligationCounts r.toTables = frozenObligationCounts ∧
    laneCaseCounts r.toTables = frozenCaseCounts ∧ laneGateCounts r.toTables = frozenGateCounts ∧
    laneRawCounts r.toTables = frozenRawCounts ∧ laneContextCounts r.toTables = frozenContextCounts ∧
    laneOutputCounts r.toTables = frozenOutputCounts := by
  have hc := h.reconciled.counts
  unfold countDrift at hc
  simpa only [Bool.or_eq_false_iff, bne_eq_false_iff_eq, and_assoc] using hc

/-- Records that are counted lane by lane are all counted. -/
theorem Passed.sum_lanes {α : Type} (key : α → Str) (records : List α) (hin : ∀ x ∈ records, key x ∈ laneIds r.toTables) :
    (r.lanes.map fun lane => owned key records lane.laneId).sum = records.length := by
  rw [← sum_owned_eq_length key (laneIds r.toTables) records h.laneIds_nodup hin]
  unfold laneIds
  rw [List.map_map]
  rfl

theorem Passed.gates_length : r.gates.length = 58 := by
  have hsum := h.sum_lanes Prod.fst r.gates h.known.gate
  have hc : r.lanes.map (fun lane => owned Prod.fst r.gates lane.laneId) = frozenGateCounts := h.frozen_counts.2.2.1
  rw [← hsum, hc]
  rfl

/-- As many aggregate templates as gate records, and one a gate id: no gate id is repeated. -/
theorem Passed.gateIds_nodup : (gateIds r.toTables).Nodup := by
  apply nodup_of_owned_one Prod.fst r.aggregateTemplates (gateIds r.toTables) h.known.aggregate
  · exact fun g hg => (h.gate_templates g hg).1
  · unfold gateIds
    rw [List.length_map, h.gates_length, ((issue40_none r.toTables).mp h.issue40).1.2.1]

theorem Passed.mem_lane_gates (lane : Lane) (hl : lane ∈ r.lanes) (g : Str) :
    g ∈ lane.gates ↔ (lane.laneId, g) ∈ r.gates := by
  have hs := h.reconciled.gates lane hl
  unfold sameGates at hs
  rw [beq_iff_eq] at hs
  rw [← mem_sortedBy (fun g => [g]) lane.gates, hs, mem_sortedBy]
  simp

theorem Passed.gate_record (g : Str) (hg : g ∈ gateIds r.toTables) : ∃! laneId, (laneId, g) ∈ r.gates := by
  obtain ⟨⟨laneId, _⟩, hgate, rfl⟩ := List.mem_map.mp hg
  refine ⟨laneId, hgate, ?_⟩
  intro laneId' hgate'
  have := List.inj_on_of_nodup_map h.gateIds_nodup hgate' hgate rfl
  exact congrArg Prod.fst this

theorem Passed.gate_lane (g : Str) (hg : g ∈ gateIds r.toTables) : ∃! lane, lane ∈ r.lanes ∧ g ∈ lane.gates := by
  obtain ⟨laneId, hgate, hunique⟩ := h.gate_record g hg
  obtain ⟨lane, hl, rfl⟩ := List.mem_map.mp (h.known.gate _ hgate)
  refine ⟨lane, ⟨hl, (h.mem_lane_gates lane hl g).mpr hgate⟩, ?_⟩
  rintro lane' ⟨hl', hg'⟩
  have hid : lane'.laneId = lane.laneId := hunique _ ((h.mem_lane_gates lane' hl' g).mp hg')
  exact List.inj_on_of_nodup_map h.laneIds_nodup hl' hl hid

/-! ## Bundles -/

theorem Passed.bundlesOf_length (lane : Lane) (hl : lane ∈ r.lanes) : (bundlesOf r.toTables lane.laneId).length = 1 := by
  have hp := h.reconciled.partition lane hl
  unfold partitionProbes at hp
  simp only [clean_cons, bne_eq_false_iff_eq] at hp
  exact hp.1

theorem Passed.lane_bundle (lane : Lane) (hl : lane ∈ r.lanes) : owned Prod.fst r.bundles lane.laneId = 1 := by
  have := h.bundlesOf_length lane hl
  unfold bundlesOf at this
  rwa [List.length_map, ← List.countP_eq_length_filter] at this

theorem Passed.bundle_member (b : Str × Str) (hb : b ∈ r.bundles) : ∃ source, (b.2, source) ∈ r.bundleEvidence := by
  have hs := h.orphanBundle
  unfold Relations.orphanBundle at hs
  rw [if_neg (by simpa using h.bases.2.2.2.2), clean_append] at hs
  obtain ⟨⟨_, source⟩, hm, rfl⟩ := List.mem_map.mp ((clean_orphans _ _ _ _).mp hs.1 b hb)
  exact ⟨source, hm⟩

theorem Passed.source_member (source : Str) (hs : source ∈ r.evidenceSources) : ∃ b, (b, source) ∈ r.bundleEvidence := by
  obtain ⟨⟨b, _⟩, hm, rfl⟩ := List.mem_map.mp ((clean_orphans _ _ _ _).mp h.orphanEvidence source hs)
  exact ⟨b, hm⟩

/-- With one bundle a lane, its degree counts the members of that bundle. -/
theorem Passed.laneDegree_eq (lane : Lane) (hl : lane ∈ r.lanes) :
    laneDegree r.toTables lane.laneId = bundleMembers r lane.laneId := by
  obtain ⟨b, hb⟩ := List.length_eq_one_iff.mp (h.bundlesOf_length lane hl)
  have hmem : ∀ d, (lane.laneId, d) ∈ r.bundles ↔ d = b := by
    intro d
    rw [← List.mem_singleton, ← hb]
    unfold bundlesOf
    simp
  unfold laneDegree bundleMembers membersOf
  rw [hb, List.map_singleton, List.sum_singleton, List.length_map, ← List.countP_eq_length_filter]
  apply List.countP_congr
  intro m _
  simp [hmem]

/-! ## The graph -/

theorem Passed.coherent : Coherent r where
  judges := h.judges_matching
  required := h.all_required
  cases := h.cases_bijOn
  gateRecord := h.gate_record
  gateLane := h.gate_lane
  aggregate g hg := (h.gate_templates g hg).1
  plumbing g hg := (h.gate_templates g hg).2
  judgeTemplate := h.judge_template
  bundle := h.lane_bundle
  bundleMember := h.bundle_member
  sourceMember := h.source_member
  pairObligation p hp := lastOf_some _ _ _ _ _ (h.reconciled.pairLane p hp).1
  pairGate p hp := by
    obtain ⟨⟨laneId, gateId⟩, hg, rfl, rfl⟩ := lastOf_some _ _ _ _ _ (h.reconciled.pairLane p hp).2
    exact hg
  obligationPaired := h.obligation_paired
  gatePaired := h.gate_paired
  m := by
    rw [h.counters.m]
    exact h.sum_lanes Pair.laneId r.pairs fun p hp => (h.known.pair p hp).1
  h := h.counters.h
  rHe := by
    rw [h.counters.rHe]
    congr 1
    apply List.map_congr_left
    intro lane hl
    rw [h.laneDegree_eq lane hl]
  kExec := h.counters.kExec

end

theorem validateRelations_ok (catalog expectation ledger : Json) (limits : CompileLimits) (r : PhaseBResult)
    (h : validateRelations catalog expectation ledger limits = .ok r) : Passed limits r.toTables r := by
  unfold validateRelations at h
  rw [bind_ok_iff] at h
  obtain ⟨t, -, ht⟩ := h
  have hp := (validateTables_ok limits t r).mp ht
  have := (countSkeleton_ok t r hp.counted).1
  rwa [this]

/-- Phase B admits only a coherent traceability graph. -/
theorem validateRelations_coherent (catalog expectation ledger : Json) (limits : CompileLimits) (r : PhaseBResult)
    (h : validateRelations catalog expectation ledger limits = .ok r) : Coherent r :=
  (validateRelations_ok catalog expectation ledger limits r h).coherent

theorem validateRelations_coherent_sample :
    validateRelations sampleCatalog sampleExpectation sampleLedger.record CompileLimits.frozen = .ok sampleResult ∧
      Coherent sampleResult :=
  ⟨validateRelations_sample, validateRelations_coherent _ _ _ _ _ validateRelations_sample⟩

end TurnVector.Relations
