import TurnVector.Authority.PathId
import TurnVector.Authority.Sweeps
import TurnVector.Authority.PhaseA

/-! # The caps of stage 38

The sweep of `_later_probes` never builds the relation of paths. It decides the caps of that relation, in whatever order
the arrays stand, and it reports the first record that goes over one.
-/

namespace TurnVector.Relations

open Python Json Canonical

variable (limits : CompileLimits) (t : Tables)

/-! ## The caps -/

/-- The case ids of the lane with an id. -/
def caseIdsOf (laneId : Str) : List Str := (lastOf Lane.laneId Lane.caseIds t.lanes laneId).getD []

/-- The relation that is never built: each pair with each case of its lane. -/
def pathRelation : Set (Pair × Str) := {a | a.1 ∈ t.pairs ∧ a.2 ∈ caseIdsOf t a.1.laneId}

structure PathCaps (relation : Set (Pair × Str)) : Prop where
  total : relation.ncard ≤ limits.pathCountMax
  obligation : ∀ o, {a | a ∈ relation ∧ a.1.obligationId = o}.ncard ≤ limits.pathsPerObligationMax
  case : ∀ c, {a | a ∈ relation ∧ a.2 = c}.ncard ≤ limits.pathsPerCaseMax
  gate : ∀ g, {a | a ∈ relation ∧ a.1.gateId = g}.ncard ≤ limits.pathsPerGateMax

/-- The nine counts, with their maxima and the names of their cardinalities. -/
def countCaps : List (Nat × Nat × String) :=
  [((t.lanes.map (·.caseIds.length)).sum, limits.casePlanCountMax, "case_plan_count"),
    (t.obligations.length, limits.obligationCountMax, "obligation_count"),
    (t.judges.length, limits.judgeCountMax, "judge_count"),
    (t.bundles.length, limits.evidenceBundleCountMax, "evidence_bundle_count"),
    (t.evidenceSources.length, limits.evidenceSourceCountMax, "evidence_source_count"),
    (t.gates.length, limits.gateCountMax, "gate_count"),
    (t.judgeTemplates.length, limits.negativeTestClassCountMax, "judge_negative_template_count"),
    (t.aggregateTemplates.length, limits.negativeTestClassCountMax, "aggregate_negative_template_count"),
    (t.plumbingTemplates.length, limits.negativeTestClassCountMax, "plumbing_negative_template_count")]

/-- No degree and no count is above its maximum. -/
structure Caps : Prop where
  members : ∀ bundleId, (t.bundleEvidence.map (·.1)).count bundleId ≤ limits.evidenceMembersPerBundleOrPathMax
  contexts : ∀ laneId, (t.laneContexts.map (·.1)).count laneId ≤ limits.contextArtifactsPerLaneMax
  outputs : ∀ laneId, (t.laneOutputs.map (·.1)).count laneId ≤ limits.postGateOutputsPerLaneMax
  counts : ∀ cap ∈ countCaps limits t, cap.1 ≤ cap.2.1
  paths : PathCaps limits (pathRelation t)

/-! ## What is handed over -/

/-- The case ids of a lane are distinct, and a pair carries its position. -/
structure Handed : Prop where
  caseIds : ∀ lane ∈ t.lanes, lane.caseIds.Nodup
  indices : t.pairs.map (·.index) = List.range t.pairs.length

theorem mapM_index (items : List (Json × Nat)) (pairs : List Pair) (h : items.mapM normalizePair = .ok pairs) :
    pairs.map (·.index) = items.map Prod.snd := by
  apply mapM_map normalizePair (·.index) Prod.snd _ items pairs h
  intro item pair hitem
  unfold normalizePair at hitem
  simp only [bind_ok_iff, pure, Except.pure, Except.ok.injEq] at hitem
  obtain ⟨_, -, _, -, _, -, rfl⟩ := hitem
  rfl

/-- `_normalize` hands such arrays over. -/
theorem normalize_handed (catalog expectation ledger : Json) (h : normalize catalog expectation ledger = .ok t) :
    Handed t := by
  have hnormal := (normalize_ok catalog expectation ledger t).mp h
  refine ⟨readLanes_caseIds expectation t.lanes hnormal.lanes, ?_⟩
  have hpairs := hnormal.pairs
  unfold readGatePairs at hpairs
  obtain ⟨items, -, hpairs⟩ := bind_ok_iff.mp hpairs
  have hindex := mapM_index items.zipIdx t.pairs hpairs
  have hlength : t.pairs.length = items.length := by
    have := congrArg List.length hindex
    simpa using this
  rw [hindex, List.zipIdx_map_snd, hlength, List.range_eq_range']

variable {t} in
theorem Handed.pairs_nodup (h : Handed t) : t.pairs.Nodup := by
  apply List.Nodup.of_map (·.index)
  rw [h.indices]
  exact List.nodup_range

variable {t} in
theorem Handed.caseIdsOf_nodup (h : Handed t) (laneId : Str) : (caseIdsOf t laneId).Nodup := by
  unfold caseIdsOf
  cases hlast : lastOf Lane.laneId Lane.caseIds t.lanes laneId with
  | none => exact List.nodup_nil
  | some ids =>
    obtain ⟨lane, hlane, -, rfl⟩ := lastOf_some _ _ _ _ _ hlast
    exact h.caseIds lane hlane

/-! ## The sweep and the caps -/

theorem mem_candidates (a : Pair × Str) : a ∈ candidates t ↔ a ∈ pathRelation t := by
  obtain ⟨pair, case⟩ := a
  unfold candidates casesByLane
  simp only [List.mem_flatMap, List.mem_map, mem_sortedBy, Prod.mk.injEq]
  constructor
  · rintro ⟨p, hp, c, hc, rfl, rfl⟩
    exact ⟨hp, hc⟩
  · rintro ⟨hp, hc⟩
    exact ⟨pair, hp, case, hc, rfl, rfl⟩

variable {t} in
theorem Handed.candidates_nodup (h : Handed t) : (candidates t).Nodup := by
  unfold candidates
  rw [List.nodup_flatMap]
  constructor
  · intro pair _
    apply List.Nodup.map
    · intro c c' heq
      exact (Prod.mk.inj heq).2
    · exact (sortedBy_perm _ _).nodup_iff.mpr (h.caseIdsOf_nodup pair.laneId)
  · apply h.pairs_nodup.imp
    intro p q hne a hp hq
    obtain ⟨c, -, rfl⟩ := List.mem_map.mp hp
    obtain ⟨d, -, heq⟩ := List.mem_map.mp hq
    exact hne (Prod.mk.inj heq).1.symm

/-- A list without repetition counts the elements of its set. -/
theorem ncard_list {α : Type} [DecidableEq α] (xs : List α) (hxs : xs.Nodup) (p : α → Prop) [DecidablePred p] :
    {a | a ∈ xs ∧ p a}.ncard = xs.countP p := by
  have hset : {a | a ∈ xs ∧ p a} = ((xs.filter p).toFinset : Set α) := by
    ext a
    simp
  rw [hset, Set.ncard_coe_finset, List.toFinset_card_of_nodup (hxs.filter _), List.countP_eq_length_filter]

variable {t} in
theorem Handed.withinCaps_iff (h : Handed t) : WithinCaps limits (candidates t) ↔ PathCaps limits (pathRelation t) := by
  have hcount (p : Pair × Str → Prop) [DecidablePred p] :
      {a | a ∈ pathRelation t ∧ p a}.ncard = (candidates t).countP p := by
    rw [← ncard_list (candidates t) h.candidates_nodup p]
    simp only [mem_candidates]
  have htotal : (pathRelation t).ncard = (candidates t).length := by
    have := hcount fun _ => True
    simpa using this
  constructor
  · rintro ⟨hlength, ho, hc, hg⟩
    exact ⟨htotal ▸ hlength, fun o => (hcount _).trans_le (ho o), fun c => (hcount _).trans_le (hc c),
      fun g => (hcount _).trans_le (hg g)⟩
  · rintro ⟨hlength, ho, hc, hg⟩
    exact ⟨htotal ▸ hlength, fun o => (hcount _).symm.trans_le (ho o), fun c => (hcount _).symm.trans_le (hc c),
      fun g => (hcount _).symm.trans_le (hg g)⟩

theorem countProbe_none (caps : List (Nat × Nat × String)) :
    countProbe caps = none ↔ ∀ cap ∈ caps, cap.1 ≤ cap.2.1 := by
  unfold countProbe
  rw [Option.map_eq_none_iff, List.find?_eq_none]
  simp only [decide_eq_true_eq, not_lt]

theorem pathProbe_candidates_none :
    pathProbe limits [] (candidates t) = none ↔ WithinCaps limits (candidates t) := by
  have hnil : WithinCaps limits [] := ⟨by simp, by simp, by simp, by simp⟩
  rw [pathProbe_none limits [] _ hnil, List.append_nil]
  constructor
  · rintro ⟨hlength, ho, hc, hg⟩
    exact ⟨by simpa using hlength, by simpa using ho, by simpa using hc, by simpa using hg⟩
  · rintro ⟨hlength, ho, hc, hg⟩
    exact ⟨by simpa using hlength, by simpa using ho, by simpa using hc, by simpa using hg⟩

/-- Stage 38 finds nothing exactly when each of its five sweeps finds nothing. -/
theorem issue38_none : issue38 t limits = none ↔
    (∀ bundleId, (t.bundleEvidence.map (·.1)).count bundleId ≤ limits.evidenceMembersPerBundleOrPathMax) ∧
    (∀ laneId, (t.laneContexts.map (·.1)).count laneId ≤ limits.contextArtifactsPerLaneMax) ∧
    (∀ laneId, (t.laneOutputs.map (·.1)).count laneId ≤ limits.postGateOutputsPerLaneMax) ∧
    (∀ cap ∈ countCaps limits t, cap.1 ≤ cap.2.1) ∧ WithinCaps limits (candidates t) := by
  have hsplit : issue38 t limits = none ↔
      degreeProbe limits.evidenceMembersPerBundleOrPathMax (entityPointer "evidence_bundle_memberships")
        (t.bundleEvidence.map (·.1)) = none ∧
      degreeProbe limits.contextArtifactsPerLaneMax (entityPointer "lane_contexts") (t.laneContexts.map (·.1)) = none ∧
      degreeProbe limits.postGateOutputsPerLaneMax (entityPointer "post_gate_outputs")
        (t.laneOutputs.map (·.1)) = none ∧
      countProbe (countCaps limits t) = none ∧ pathProbe limits [] (candidates t) = none := by
    unfold issue38
    simp only [Option.orElse_eq_orElse, Option.orElse_eq_or, Option.or_eq_none_iff]
    rfl
  rw [hsplit, degreeProbe_none, degreeProbe_none, degreeProbe_none, countProbe_none, pathProbe_candidates_none]

variable {t} in
theorem Handed.issue38_none_iff (h : Handed t) : issue38 t limits = none ↔ Caps limits t := by
  rw [issue38_none, h.withinCaps_iff]
  constructor
  · rintro ⟨hm, hc, ho, hn, hp⟩
    exact ⟨hm, hc, ho, hn, hp⟩
  · rintro ⟨hm, hc, ho, hn, hp⟩
    exact ⟨hm, hc, ho, hn, hp⟩

/-! ## The order of the arrays -/

/-- The same arrays in another order. A pair and an obligation get new positions. -/
structure Reordered (t t' : Tables) : Prop where
  lanes : ∃ lanes, t.lanes.Perm lanes ∧
    List.Forall₂ (fun l l' => l.laneId = l'.laneId ∧ l.caseIds.Perm l'.caseIds) lanes t'.lanes
  obligations : (t.obligations.map fun o => (o.obligationId, o.laneId, o.behaviorCaseId)).Perm
    (t'.obligations.map fun o => (o.obligationId, o.laneId, o.behaviorCaseId))
  judges : t.judges.Perm t'.judges
  bundles : t.bundles.Perm t'.bundles
  evidenceSources : t.evidenceSources.Perm t'.evidenceSources
  bundleEvidence : t.bundleEvidence.Perm t'.bundleEvidence
  laneContexts : t.laneContexts.Perm t'.laneContexts
  laneOutputs : t.laneOutputs.Perm t'.laneOutputs
  gates : t.gates.Perm t'.gates
  pairs : (t.pairs.map Pair.record).Perm (t'.pairs.map Pair.record)
  judgeTemplates : t.judgeTemplates.Perm t'.judgeTemplates
  aggregateTemplates : t.aggregateTemplates.Perm t'.aggregateTemplates
  plumbingTemplates : t.plumbingTemplates.Perm t'.plumbingTemplates

theorem lastOf_none (lanes : List Lane) (k : Str) :
    lastOf Lane.laneId Lane.caseIds lanes k = none ↔ k ∉ lanes.map (·.laneId) := by
  unfold lastOf
  rw [Option.map_eq_none_iff, List.find?_eq_none]
  simp only [List.mem_reverse, decide_eq_true_eq, List.mem_map, not_exists, not_and]

theorem lastOf_mem (lanes : List Lane) (hnodup : (lanes.map (·.laneId)).Nodup) (lane : Lane) (hlane : lane ∈ lanes) :
    lastOf Lane.laneId Lane.caseIds lanes lane.laneId = some lane.caseIds := by
  cases hlast : lastOf Lane.laneId Lane.caseIds lanes lane.laneId with
  | none => exact absurd (List.mem_map_of_mem hlane) ((lastOf_none lanes _).mp hlast)
  | some ids =>
    obtain ⟨other, hother, hid, rfl⟩ := lastOf_some _ _ _ _ _ hlast
    rw [List.inj_on_of_nodup_map hnodup hother hlane hid]

theorem forall₂_ids (lanes lanes' : List Lane)
    (h : List.Forall₂ (fun l l' => l.laneId = l'.laneId ∧ l.caseIds.Perm l'.caseIds) lanes lanes') :
    lanes.map (·.laneId) = lanes'.map (·.laneId) ∧
      lanes.map (·.caseIds.length) = lanes'.map (·.caseIds.length) ∧
      ∀ lane ∈ lanes, ∃ lane' ∈ lanes', lane.laneId = lane'.laneId ∧ lane.caseIds.Perm lane'.caseIds := by
  induction h with
  | nil => simp
  | cons hhead _ ih =>
    obtain ⟨hids, hlengths, hpartner⟩ := ih
    refine ⟨by rw [List.map_cons, List.map_cons, hids, hhead.1],
      by rw [List.map_cons, List.map_cons, hlengths, hhead.2.length_eq], ?_⟩
    intro lane hlane
    rcases List.mem_cons.mp hlane with rfl | hlane
    · exact ⟨_, List.mem_cons_self, hhead⟩
    · obtain ⟨lane', hlane', hsame⟩ := hpartner lane hlane
      exact ⟨lane', List.mem_cons_of_mem _ hlane', hsame⟩

variable {t} {t' : Tables} in
/-- Where no lane stands twice, the cases of a lane do not depend on the order of the lanes. -/
theorem Reordered.caseIdsOf_perm (h : Reordered t t') (hnodup : (laneIds t).Nodup) (laneId : Str) :
    (caseIdsOf t laneId).Perm (caseIdsOf t' laneId) := by
  obtain ⟨lanes, hperm, hforall⟩ := h.lanes
  obtain ⟨hids, -, hpartner⟩ := forall₂_ids lanes t'.lanes hforall
  have hsame : (laneIds t).Perm (laneIds t') := by
    unfold laneIds
    rw [← hids]
    exact hperm.map _
  unfold caseIdsOf
  by_cases hmem : laneId ∈ laneIds t
  · obtain ⟨lane, hlane, rfl⟩ := List.mem_map.mp hmem
    obtain ⟨lane', hlane', hid, hcases⟩ := hpartner lane (hperm.mem_iff.mp hlane)
    rw [lastOf_mem t.lanes hnodup lane hlane, hid, lastOf_mem t'.lanes (hsame.nodup_iff.mp hnodup) lane' hlane']
    exact hcases
  · rw [(lastOf_none t.lanes laneId).mpr hmem,
      (lastOf_none t'.lanes laneId).mpr fun hm => hmem (hsame.mem_iff.mpr hm)]

/-- The candidates without the positions of their pairs. -/
def candidateRecords : List ((Str × Str × Str) × Str) := (candidates t).map fun a => (a.1.record, a.2)

theorem candidateRecords_eq : candidateRecords t =
    (t.pairs.map Pair.record).flatMap fun r => (casesByLane t r.1).map fun c => (r, c) := by
  unfold candidateRecords candidates
  rw [List.map_flatMap, List.flatMap_map]
  apply List.flatMap_congr
  intro pair _
  rw [List.map_map]
  rfl

variable {t} {t' : Tables} in
theorem Reordered.candidateRecords_perm (h : Reordered t t') (hnodup : (laneIds t).Nodup) :
    (candidateRecords t).Perm (candidateRecords t') := by
  rw [candidateRecords_eq, candidateRecords_eq]
  apply List.Perm.flatMap h.pairs
  intro r _
  apply List.Perm.map
  exact (sortedBy_perm _ _).trans ((h.caseIdsOf_perm hnodup r.1).trans (sortedBy_perm _ _).symm)

theorem withinCaps_records : WithinCaps limits (candidates t) ↔
    (candidateRecords t).length ≤ limits.pathCountMax ∧
    (∀ o, ((candidateRecords t).countP fun a => a.1.2.1 = o) ≤ limits.pathsPerObligationMax) ∧
    (∀ c, ((candidateRecords t).countP fun a => a.2 = c) ≤ limits.pathsPerCaseMax) ∧
    ∀ g, ((candidateRecords t).countP fun a => a.1.2.2 = g) ≤ limits.pathsPerGateMax := by
  unfold candidateRecords
  simp only [List.length_map, List.countP_map]
  constructor
  · rintro ⟨hlength, ho, hc, hg⟩
    exact ⟨hlength, ho, hc, hg⟩
  · rintro ⟨hlength, ho, hc, hg⟩
    exact ⟨hlength, ho, hc, hg⟩

variable {t} {t' : Tables} in
theorem Reordered.countCaps_le (h : Reordered t t') :
    (∀ cap ∈ countCaps limits t, cap.1 ≤ cap.2.1) ↔ ∀ cap ∈ countCaps limits t', cap.1 ≤ cap.2.1 := by
  have heq : countCaps limits t = countCaps limits t' := by
    obtain ⟨lanes, hperm, hforall⟩ := h.lanes
    obtain ⟨-, hlengths, -⟩ := forall₂_ids lanes t'.lanes hforall
    have hcases : (t.lanes.map (·.caseIds.length)).sum = (t'.lanes.map (·.caseIds.length)).sum := by
      rw [← hlengths]
      exact (hperm.map _).sum_eq
    have hobligations : t.obligations.length = t'.obligations.length := by
      simpa using h.obligations.length_eq
    unfold countCaps
    rw [hcases, hobligations, h.judges.length_eq, h.bundles.length_eq, h.evidenceSources.length_eq,
      h.gates.length_eq, h.judgeTemplates.length_eq, h.aggregateTemplates.length_eq, h.plumbingTemplates.length_eq]
  rw [heq]

variable {t} {t' : Tables} in
/-- Whether stage 38 finds anything does not depend on the order of the arrays. -/
theorem Reordered.issue38_none (h : Reordered t t') (hnodup : (laneIds t).Nodup) :
    issue38 t limits = none ↔ issue38 t' limits = none := by
  have hrecords := h.candidateRecords_perm hnodup
  have hwithin : WithinCaps limits (candidates t) ↔ WithinCaps limits (candidates t') := by
    simp only [withinCaps_records, hrecords.length_eq, hrecords.countP_eq]
  simp only [Relations.issue38_none, (h.bundleEvidence.map _).count_eq, (h.laneContexts.map _).count_eq,
    (h.laneOutputs.map _).count_eq, h.countCaps_le limits, hwithin]

/-! ## No lane twice -/

theorem collectDuplicateIds_nil (base : String) (path : List Str) (seen : List Json) (index : Nat) (ids : List Str)
    (h : PhaseA.collectDuplicateIds base path seen index (ids.map .str) = .ok []) :
    ids.Nodup ∧ ∀ id ∈ ids, Json.str id ∉ seen := by
  induction ids generalizing seen index with
  | nil => simp
  | cons id ids ih =>
    simp only [List.map_cons, PhaseA.collectDuplicateIds, PhaseA.hashKey, bind, Except.bind] at h
    cases hrest : PhaseA.collectDuplicateIds base path (.str id :: seen) (index + 1) (ids.map .str) with
    | error e =>
      rw [hrest] at h
      cases h
    | ok rest =>
      rw [hrest] at h
      simp only [pure, Except.pure, Except.ok.injEq] at h
      split at h
      · cases h
      · rename_i hseen
        subst h
        obtain ⟨hnodup, hnew⟩ := ih (.str id :: seen) (index + 1) hrest
        simp only [List.mem_cons, Json.str.injEq, not_or] at hnew
        rw [List.nodup_cons]
        refine ⟨⟨fun hm => (hnew id hm).1 rfl, hnodup⟩, ?_⟩
        intro other hother
        rcases List.mem_cons.mp hother with rfl | hm
        · rwa [occurs_iff] at hseen
        · exact (hnew other hm).2

theorem normalizeLane_id (item : Json) (lane : Lane) (id : Str) (h : normalizeLane item = .ok lane)
    (hlane : item.member? (lit "lane_id") = none) (hid : item.member? (lit "id") = some (.str id)) : lane.laneId = id := by
  unfold normalizeLane at h
  simp only [bind_ok_iff, pure, Except.pure, Except.ok.injEq] at h
  obtain ⟨laneId, hfield, _, -, _, -, _, -, _, -, _, -, _, -, _, -, rfl⟩ := h
  have hget : get? item ["lane_id", "id"] = some (.str id) := by
    simp only [get?, List.findSome?, hlane, hid]
  unfold field get at hfield
  rw [hget] at hfield
  exact (Except.ok.inj hfield).symm

/-- Stage 5 of Phase A lets no lane through twice. -/
theorem laneIds_distinct (expectation : Json) (items : List Json) (lanes : List Lane)
    (hunique : PhaseA.expectationDuplicates expectation = .ok [])
    (hitems : expectation.member? (lit "lanes") = some (.arr items))
    (hnamed : ∀ item ∈ items, item.member? (lit "lane_id") = none ∧ ∃ id, item.member? (lit "id") = some (.str id))
    (hread : items.mapM normalizeLane = .ok lanes) : (lanes.map (·.laneId)).Nodup := by
  have hids : PhaseA.idsOf "id" items = (lanes.map (·.laneId)).map .str := by
    have hlanes := forall₂_of_mapM hread
    clear hread hunique hitems
    induction hlanes with
    | nil => rfl
    | @cons item lane items lanes hhead _ ih =>
      obtain ⟨hlane, id, hid⟩ := hnamed item List.mem_cons_self
      have hmapping : PhaseA.isMapping item = true := by
        cases item with
        | obj kvs => rfl
        | _ => cases hid
      have hrest := ih fun other hm => hnamed other (List.mem_cons_of_mem _ hm)
      unfold PhaseA.idsOf at hrest ⊢
      rw [List.filter_cons_of_pos hmapping, List.map_cons, hrest, List.map_cons, List.map_cons,
        normalizeLane_id item lane id hhead hlane hid, PhaseA.getOr, hid]
      rfl
  unfold PhaseA.expectationDuplicates at hunique
  simp only [hitems, hids] at hunique
  obtain ⟨ids, hcollect, hunique⟩ := bind_ok_iff.mp hunique
  obtain ⟨inner, -, hunique⟩ := bind_ok_iff.mp hunique
  have hnil : ids = [] := (List.append_eq_nil_iff.mp (Except.ok.inj hunique)).1
  rw [hnil] at hcollect
  exact (collectDuplicateIds_nil _ _ _ _ _ hcollect).1

/-! ## The record that is reported -/

/-- The pointer of the first probe that fails. -/
def firstFailure (probes : List Probe) : Option Str := (probes.find? (·.1)).map (·.2)

/-- One probe a record: whether its key goes over the maximum there, counted up to the record. -/
def degreeProbes (maximum : Nat) (pointer : Nat → Str) (keys : List Str) : List Probe :=
  keys.zipIdx.map fun k => (decide (maximum < (keys.take (k.2 + 1)).count k.1), pointer k.2)

def countProbes : List Probe :=
  (countCaps limits t).map fun cap => (decide (cap.2.1 < cap.1), cardinalityPointer cap.2.2)

/-- Whether a path goes over one of its four caps, as the last of the paths up to it. -/
def Exceeds (upTo : List (Pair × Str)) (path : Pair × Str) : Prop :=
  limits.pathCountMax < upTo.length ∨
    limits.pathsPerObligationMax < (upTo.countP fun a => a.1.obligationId = path.1.obligationId) ∨
    limits.pathsPerCaseMax < (upTo.countP fun a => a.2 = path.2) ∨
    limits.pathsPerGateMax < (upTo.countP fun a => a.1.gateId = path.1.gateId)

instance (upTo : List (Pair × Str)) (path : Pair × Str) : Decidable (Exceeds limits upTo path) :=
  inferInstanceAs (Decidable (_ ∨ _ ∨ _ ∨ _))

/-- One probe a path, after the paths before it. -/
def pathProbes (before : List (Pair × Str)) : List (Pair × Str) → List Probe
  | [] => []
  | path :: paths =>
    (decide (Exceeds limits (before ++ [path]) path), entityPointer "obligation_gate_pairs" path.1.index) ::
      pathProbes (before ++ [path]) paths

/-- The probes of stage 38, in the order of its sweep. -/
def capProbes : List Probe :=
  degreeProbes limits.evidenceMembersPerBundleOrPathMax (entityPointer "evidence_bundle_memberships")
      (t.bundleEvidence.map (·.1)) ++
    degreeProbes limits.contextArtifactsPerLaneMax (entityPointer "lane_contexts") (t.laneContexts.map (·.1)) ++
    degreeProbes limits.postGateOutputsPerLaneMax (entityPointer "post_gate_outputs") (t.laneOutputs.map (·.1)) ++
    countProbes limits t ++ pathProbes limits [] (candidates t)

theorem firstFailure_append (probes probes' : List Probe) :
    firstFailure (probes ++ probes') = (firstFailure probes).or (firstFailure probes') := by
  unfold firstFailure
  rw [List.find?_append]
  cases probes.find? (·.1) <;> rfl

theorem firstFailure_iff (probes : List Probe) (pointer : Str) :
    firstFailure probes = some pointer ↔ ∃ before after, probes = before ++ (true, pointer) :: after ∧ Clean before := by
  unfold firstFailure
  constructor
  · intro h
    obtain ⟨⟨failed, pointer'⟩, hfind, rfl⟩ := Option.map_eq_some_iff.mp h
    obtain ⟨hfailed, before, after, rfl, hbefore⟩ := List.find?_eq_some_iff_append.mp hfind
    simp only at hfailed
    exact ⟨before, after, by rw [hfailed], fun p hp => by simpa using hbefore p hp⟩
  · rintro ⟨before, after, rfl, hbefore⟩
    have hfind : (before ++ (true, pointer) :: after).find? (·.1) = some (true, pointer) :=
      List.find?_eq_some_iff_append.mpr ⟨rfl, before, after, rfl, fun p hp => by simp [hbefore p hp]⟩
    rw [hfind]
    rfl

theorem degreeProbe_eq (maximum : Nat) (pointer : Nat → Str) (keys : List Str) :
    degreeProbe maximum pointer keys = firstFailure (degreeProbes maximum pointer keys) := by
  unfold degreeProbe firstFailure degreeProbes
  rw [List.find?_map, Option.map_map]
  rfl

theorem countProbe_eq : countProbe (countCaps limits t) = firstFailure (countProbes limits t) := by
  unfold countProbe firstFailure countProbes
  rw [List.find?_map, Option.map_map]
  rfl

/-- Up to the first path that goes over a cap, all of them are admitted. -/
theorem pathProbe_eq (before paths : List (Pair × Str)) :
    pathProbe limits before.reverse paths = firstFailure (pathProbes limits before paths) := by
  induction paths generalizing before with
  | nil => rfl
  | cons path paths ih =>
    have hrest := ih (before ++ [path])
    rw [List.reverse_append, List.reverse_singleton, List.singleton_append] at hrest
    have hexceeds : Exceeds limits (before ++ [path]) path ↔
        (limits.pathCountMax < before.reverse.length + 1 ∨
          limits.pathsPerObligationMax < (before.reverse.countP fun a => a.1.obligationId = path.1.obligationId) + 1 ∨
          limits.pathsPerCaseMax < (before.reverse.countP fun a => a.2 = path.2) + 1 ∨
          limits.pathsPerGateMax < (before.reverse.countP fun a => a.1.gateId = path.1.gateId) + 1) := by
      simp [Exceeds]
    rw [pathProbe, pathProbes, firstFailure, List.find?_cons]
    simp only [← hexceeds]
    by_cases h : Exceeds limits (before ++ [path]) path
    · rw [if_pos h]
      simp [h]
    · rw [if_neg h, hrest]
      simp [h, firstFailure]

theorem issue38_eq : issue38 t limits = firstFailure (capProbes limits t) := by
  have hpaths := pathProbe_eq limits [] (candidates t)
  rw [List.reverse_nil] at hpaths
  unfold capProbes
  rw [firstFailure_append, firstFailure_append, firstFailure_append, firstFailure_append, ← degreeProbe_eq,
    ← degreeProbe_eq, ← degreeProbe_eq, ← countProbe_eq, ← hpaths]
  unfold issue38 countCaps
  simp only [Option.orElse_eq_orElse, Option.orElse_eq_or, Option.or_assoc]

/-- One lane with one case, and one pair. -/
def cappedTables : Tables where
  lanes := [⟨lit "lane", [lit "case"], [lit "lane.matrix.0001"], [lit "gate"], []⟩]
  allObligations := []
  judges := [lit "first", lit "second"]
  obligationJudges := []
  bundles := []
  evidenceSources := []
  bundleEvidence := []
  laneContexts := []
  laneOutputs := []
  gates := [(lit "lane", lit "gate")]
  pairs := [⟨lit "lane", lit "obligation", lit "gate", 0⟩]
  judgeTemplates := []
  aggregateTemplates := []
  plumbingTemplates := []
  cardinalities := []

theorem cappedTables_handed : Handed cappedTables := ⟨by decide, by decide⟩

theorem cappedTables_reordered :
    Reordered cappedTables { cappedTables with judges := [lit "second", lit "first"] } where
  lanes := ⟨_, List.Perm.refl _, .cons ⟨rfl, List.Perm.refl _⟩ .nil⟩
  obligations := List.Perm.refl _
  judges := List.Perm.swap _ _ _
  bundles := List.Perm.refl _
  evidenceSources := List.Perm.refl _
  bundleEvidence := List.Perm.refl _
  laneContexts := List.Perm.refl _
  laneOutputs := List.Perm.refl _
  gates := List.Perm.refl _
  pairs := List.Perm.refl _
  judgeTemplates := List.Perm.refl _
  aggregateTemplates := List.Perm.refl _
  plumbingTemplates := List.Perm.refl _

end TurnVector.Relations
