import TurnVector.Authority.Relations
import TurnVector.Table.Matching

/-! # What a sweep that raises nothing says -/

namespace TurnVector.Relations

open Python Json Table

/-! ## Inputs -/

/-- Where each array comes from. -/
structure Normalized (catalog expectation ledger : Json) (t : Tables) : Prop where
  lanes : readLanes expectation = .ok t.lanes
  obligations : readObligations catalog = .ok t.allObligations
  cardinalities : ∃ v, get (valueOf ledger) ["cardinalities"] = .ok v ∧ t.cardinalities = members v
  judges : readIds (entitiesOf ledger) "judge_ids" = .ok t.judges
  obligationJudges : readPairs (entitiesOf ledger) "obligation_to_judge" ["obligation_id"] ["judge_id"] =
    .ok t.obligationJudges
  bundles : readPairs (entitiesOf ledger) "evidence_bundles" ["lane_id"] ["bundle_id", "id"] = .ok t.bundles
  evidenceSources : readIds (entitiesOf ledger) "evidence_source_ids" = .ok t.evidenceSources
  bundleEvidence : readPairs (entitiesOf ledger) "evidence_bundle_memberships" ["bundle_id"] ["evidence_source_id"] =
    .ok t.bundleEvidence
  laneContexts : readPairs (entitiesOf ledger) "lane_contexts" ["lane_id"] ["artifact_type"] = .ok t.laneContexts
  laneOutputs : readPairs (entitiesOf ledger) "post_gate_outputs" ["lane_id"] ["artifact_type"] = .ok t.laneOutputs
  gates : readPairs (entitiesOf ledger) "gates" ["lane_id"] ["gate_id"] = .ok t.gates
  pairs : readGatePairs (entitiesOf ledger) = .ok t.pairs
  judgeTemplates : readPairs (entitiesOf ledger) "judge_negative_tests" ["owner_id"] ["id"] = .ok t.judgeTemplates
  aggregateTemplates : readPairs (entitiesOf ledger) "aggregate_negative_tests" ["owner_id"] ["id"] =
    .ok t.aggregateTemplates
  plumbingTemplates : readPairs (entitiesOf ledger) "plumbing_negative_tests" ["owner_id"] ["id"] =
    .ok t.plumbingTemplates

theorem normalize_ok (catalog expectation ledger : Json) (t : Tables) :
    normalize catalog expectation ledger = .ok t ↔ Normalized catalog expectation ledger t := by
  unfold normalize
  simp only [bind_ok_iff, pure, Except.pure, Except.ok.injEq]
  constructor
  · rintro ⟨_, h1, _, h2, v, h3, _, h4, _, h5, _, h6, _, h7, _, h8, _, h9, _, h10, _, h11, _, h12, _, h13, _, h14, _,
      h15, rfl⟩
    exact ⟨h1, h2, ⟨v, h3, rfl⟩, h4, h5, h6, h7, h8, h9, h10, h11, h12, h13, h14, h15⟩
  · intro h
    obtain ⟨v, hv, hm⟩ := h.cardinalities
    exact ⟨_, h.lanes, _, h.obligations, v, hv, _, h.judges, _, h.obligationJudges, _, h.bundles, _, h.evidenceSources,
      _, h.bundleEvidence, _, h.laneContexts, _, h.laneOutputs, _, h.gates, _, h.pairs, _, h.judgeTemplates, _,
      h.aggregateTemplates, _, h.plumbingTemplates, by rw [← hm]⟩

/-! ## Tests -/

/-- No test fails. -/
def Clean (probes : List Probe) : Prop := ∀ p ∈ probes, p.1 = false

instance (probes : List Probe) : Decidable (Clean probes) := inferInstanceAs (Decidable (∀ p ∈ probes, p.1 = false))

@[simp] theorem clean_nil : Clean [] := by simp [Clean]

@[simp] theorem clean_cons (p : Probe) (ps : List Probe) : Clean (p :: ps) ↔ p.1 = false ∧ Clean ps := by
  simp [Clean]

@[simp] theorem clean_append (ps qs : List Probe) : Clean (ps ++ qs) ↔ Clean ps ∧ Clean qs := by
  simp [Clean, or_imp, forall_and]

@[simp] theorem clean_map {α : Type} (f : α → Probe) (xs : List α) :
    Clean (xs.map f) ↔ ∀ x ∈ xs, (f x).1 = false := by
  simp [Clean]

@[simp] theorem clean_flatMap {α : Type} (f : α → List Probe) (xs : List α) :
    Clean (xs.flatMap f) ↔ ∀ x ∈ xs, Clean (f x) := by
  unfold Clean
  constructor
  · intro h x hx p hp
    exact h p (List.mem_flatMap.mpr ⟨x, hx, hp⟩)
  · intro h p hp
    obtain ⟨x, hx, hp⟩ := List.mem_flatMap.mp hp
    exact h x hx p hp

theorem sweep_ok (variant : Variant) (probes : List Probe) : sweep variant probes = .ok () ↔ Clean probes := by
  unfold sweep Clean
  cases hf : probes.find? (·.1) with
  | none => simpa using hf
  | some p =>
    have hp := List.find?_some hf
    simp only [reduceCtorEq, false_iff, not_forall]
    exact ⟨p, List.mem_of_find?_eq_some hf, by simpa using hp⟩

/-- What holds of every item with its index holds of every item. -/
theorem forall_zipIdx {α : Type} (xs : List α) (P : α → Prop) : (∀ x ∈ xs.zipIdx, P x.1) ↔ ∀ x ∈ xs, P x := by
  constructor
  · intro h x hx
    obtain ⟨i, hi⟩ := List.mem_iff_getElem?.mp hx
    exact h (x, i) (by rwa [List.mem_zipIdx_iff_getElem?])
  · rintro h ⟨x, i⟩ hx
    rw [List.mem_zipIdx_iff_getElem?] at hx
    exact h x (List.mem_of_getElem? hx)

theorem clean_unknownFields (records : List (Str × Str)) (first second : Option (List Str))
    (name firstField secondField : String) :
    Clean (unknownFields records first second name firstField secondField) ↔
      ∀ r ∈ records, (∀ domain ∈ first, r.1 ∈ domain) ∧ ∀ domain ∈ second, r.2 ∈ domain := by
  unfold unknownFields
  simp only [clean_flatMap, clean_append, clean_map, Option.mem_toList, Bool.not_eq_false', occurs_iff]
  exact forall_zipIdx records fun r => (∀ domain ∈ first, r.1 ∈ domain) ∧ ∀ domain ∈ second, r.2 ∈ domain

theorem clean_orphans {α : Type} (items : List α) (key : α → Str) (named : List Str) (pointer : Nat → Str) :
    Clean (orphans items key named pointer) ↔ ∀ x ∈ items, key x ∈ named := by
  unfold orphans
  simp only [clean_map, Bool.not_eq_false', occurs_iff]
  exact forall_zipIdx items fun x => key x ∈ named

/-- Keys are distinct when none of them is among those before it. -/
theorem nodup_iff_seen {α κ : Type} (key : α → κ) (xs : List α) :
    (∀ x ∈ xs.zipIdx, key x.1 ∉ (xs.take x.2).map key) ↔ (xs.map key).Nodup := by
  rw [List.nodup_iff_getElem?_ne_getElem?]
  simp only [List.length_map, List.getElem?_map, Prod.forall, List.mem_zipIdx_iff_getElem?]
  constructor
  · intro h i j hij hj he
    have hx : xs[j]? = some (xs[j]) := List.getElem?_eq_getElem hj
    apply h _ j hx
    rw [List.mem_map]
    refine ⟨xs[i], ?_, ?_⟩
    · rw [List.mem_take_iff_getElem]
      exact ⟨i, by omega, rfl⟩
    · rw [List.getElem?_eq_getElem (by omega), hx] at he
      simpa using he
  · intro h x j hx hm
    obtain ⟨y, hy, hk⟩ := List.mem_map.mp hm
    obtain ⟨i, hi, rfl⟩ := List.mem_take_iff_getElem.mp hy
    obtain ⟨hj, rfl⟩ := List.getElem?_eq_some_iff.mp hx
    apply h i j (by omega) hj
    rw [hx, List.getElem?_eq_getElem (by omega)]
    simpa using hk

theorem clean_repeats {α : Type} [DecidableEq α] (records : List α) (pointer : Nat → Str) :
    Clean (repeats records pointer) ↔ records.Nodup := by
  have h := nodup_iff_seen id records
  simp only [List.map_id, id_eq] at h
  unfold repeats
  rw [← h, clean_map]
  apply forall₂_congr
  intro x _
  rw [← Bool.not_eq_true, occurs_iff]

/-- Stage 29: every reference is to something declared. -/
structure Known (t : Tables) : Prop where
  case : ∀ x ∈ t.allObligations, x.laneId ∈ laneIds t ∧
    x.behaviorCaseId ∈ (lastOf Lane.laneId Lane.cases t.lanes x.laneId).getD []
  judge : ∀ p ∈ t.obligationJudges, p.1 ∈ obligationIds t ∧ p.2 ∈ t.judges
  bundle : ∀ b ∈ t.bundles, b.1 ∈ laneIds t
  member : ∀ m ∈ t.bundleEvidence, m.1 ∈ t.bundles.map (·.2) ∧ m.2 ∈ t.evidenceSources
  context : ∀ c ∈ t.laneContexts, c.1 ∈ laneIds t
  output : ∀ c ∈ t.laneOutputs, c.1 ∈ laneIds t
  gate : ∀ g ∈ t.gates, g.1 ∈ laneIds t
  pair : ∀ p ∈ t.pairs, p.laneId ∈ laneIds t ∧ p.obligationId ∈ obligationIds t ∧ p.gateId ∈ gateIds t
  judgeTemplate : ∀ r ∈ t.judgeTemplates, r.1 ∈ obligationIds t
  aggregate : ∀ r ∈ t.aggregateTemplates, r.1 ∈ gateIds t
  plumbing : ∀ r ∈ t.plumbingTemplates, r.1 ∈ gateIds t

theorem clean_unknownEntity (t : Tables) : Clean (unknownEntity t) ↔ Known t := by
  unfold unknownEntity unknownCase unknownPair
  simp only [clean_append, clean_unknownFields, clean_map, clean_flatMap, clean_cons, clean_nil, Bool.not_eq_false',
    Bool.and_eq_true, occurs_iff, Option.mem_def, Option.some.injEq, forall_eq', reduceCtorEq, false_implies,
    implies_true, and_true]
  constructor
  · rintro ⟨⟨⟨⟨⟨⟨⟨⟨⟨⟨h1, h2⟩, h3⟩, h4⟩, h5⟩, h6⟩, h7⟩, h8⟩, h9⟩, h10⟩, h11⟩
    exact ⟨h1, h2, h3, h4, h5, h6, h7, h8, h9, h10, h11⟩
  · intro h
    exact ⟨⟨⟨⟨⟨⟨⟨⟨⟨⟨h.case, h.judge⟩, h.bundle⟩, h.member⟩, h.context⟩, h.output⟩, h.gate⟩, h.pair⟩, h.judgeTemplate⟩,
      h.aggregate⟩, h.plumbing⟩

/-- Stage 30: no record twice. -/
theorem clean_duplicateEntity (t : Tables) : Clean (duplicateEntity t) ↔
    t.obligationJudges.Nodup ∧ t.bundles.Nodup ∧ t.bundleEvidence.Nodup ∧ t.laneContexts.Nodup ∧
      t.laneOutputs.Nodup ∧ t.gates.Nodup ∧ (t.pairs.map Pair.record).Nodup := by
  unfold duplicateEntity
  simp only [clean_append, clean_repeats, and_assoc]

/-! ## Degrees and owners -/

theorem degree_snoc (maximum : Nat) (keys : List Str) (x : Str) :
    (∀ k ∈ (keys ++ [x]).zipIdx, ((keys ++ [x]).take (k.2 + 1)).count k.1 ≤ maximum) ↔
      (∀ k ∈ keys.zipIdx, (keys.take (k.2 + 1)).count k.1 ≤ maximum) ∧ (keys ++ [x]).count x ≤ maximum := by
  have htake : ∀ k ∈ keys.zipIdx, (keys ++ [x]).take (k.2 + 1) = keys.take (k.2 + 1) := by
    rintro ⟨k, i⟩ hk
    have hi : i < keys.length := by
      rw [List.mem_zipIdx_iff_getElem?] at hk
      exact (List.getElem?_eq_some_iff.mp hk).1
    exact List.take_append_of_le_length (by simp only; omega)
  rw [List.zipIdx_append, List.forall_mem_append]
  apply and_congr
  · apply forall₂_congr
    intro k hk
    rw [htake k hk]
  · simp only [List.zipIdx_singleton, List.mem_singleton, forall_eq, Nat.zero_add]
    rw [List.take_of_length_le (by simp)]

theorem degree_le (maximum : Nat) (keys : List Str) :
    (∀ k ∈ keys.zipIdx, (keys.take (k.2 + 1)).count k.1 ≤ maximum) ↔ ∀ k, keys.count k ≤ maximum := by
  induction keys using List.reverseRecOn with
  | nil => simp
  | append_singleton keys x ih =>
    rw [degree_snoc, ih]
    constructor
    · rintro ⟨h, hx⟩ k
      by_cases hk : k = x
      · exact hk ▸ hx
      · rw [List.count_append, List.count_singleton, if_neg (by simpa using Ne.symm hk)]
        exact h k
    · intro h
      refine ⟨?_, h x⟩
      intro k
      have := h k
      rw [List.count_append] at this
      omega

theorem degreeProbe_none (maximum : Nat) (pointer : Nat → Str) (keys : List Str) :
    degreeProbe maximum pointer keys = none ↔ ∀ k, keys.count k ≤ maximum := by
  unfold degreeProbe
  rw [Option.map_eq_none_iff, List.find?_eq_none, ← degree_le]
  simp only [decide_eq_true_eq, not_lt]

theorem ownerMap_length (records : List (Str × Str)) (owner : Str) :
    (ownerMap records owner).length = owned Prod.fst records owner := by
  unfold ownerMap owned
  rw [List.length_map, ← List.countP_eq_length_filter]
  conv_rhs => rw [← List.zipIdx_map_fst 0 records, List.countP_map]
  rfl

theorem ownerProbe_none (records : List (Str × Str)) (name : String) (owner : Str) :
    ownerProbe records name owner = none ↔ owned Prod.fst records owner = 1 := by
  rw [← ownerMap_length]
  unfold ownerProbe
  split <;> simp_all

theorem sortedBy_perm {α : Type} (key : α → List Str) (xs : List α) : (sortedBy key xs).Perm xs :=
  List.perm_insertionSort _ xs

@[simp] theorem mem_sortedBy {α : Type} (key : α → List Str) (xs : List α) (x : α) : x ∈ sortedBy key xs ↔ x ∈ xs :=
  (sortedBy_perm key xs).mem_iff

/-- Stage 40: the frozen totals, and one template an owner. -/
theorem issue40_none (t : Tables) : issue40 t = none ↔
    (t.judgeTemplates.length = 46 ∧ t.aggregateTemplates.length = 58 ∧ t.plumbingTemplates.length = 58) ∧
    (∀ p ∈ t.pairs, owned Prod.fst t.judgeTemplates p.obligationId = 1) ∧
    ∀ g ∈ t.gates, owned Prod.fst t.aggregateTemplates g.2 = 1 ∧ owned Prod.fst t.plumbingTemplates g.2 = 1 := by
  unfold issue40 totalProbe
  simp only [Option.orElse_eq_orElse, Option.orElse_eq_or, Option.or_eq_none_iff, Option.map_eq_none_iff,
    List.find?_eq_none, List.mem_cons, List.not_mem_nil, or_false, forall_eq_or_imp, forall_eq,
    List.findSome?_eq_none_iff, ownerProbe_none, List.mem_eraseDups, ne_eq, decide_not, Bool.not_eq_true',
    Bool.not_eq_false, decide_eq_true_eq, mem_sortedBy, List.forall_mem_map]

theorem lastOf_some {α β : Type} (key : α → Str) (value : α → β) (xs : List α) (k : Str) (v : β)
    (h : lastOf key value xs k = some v) : ∃ x ∈ xs, key x = k ∧ value x = v := by
  unfold lastOf at h
  obtain ⟨x, hx, rfl⟩ := Option.map_eq_some_iff.mp h
  exact ⟨x, by simpa using List.mem_of_find?_eq_some hx, by simpa using List.find?_some hx, rfl⟩

/-! ## Paths -/

/-- The degrees of the candidate paths are within the caps. -/
structure WithinCaps (limits : CompileLimits) (paths : List (Pair × Str)) : Prop where
  total : paths.length ≤ limits.pathCountMax
  obligation : ∀ o, (paths.countP fun a => a.1.obligationId = o) ≤ limits.pathsPerObligationMax
  case : ∀ c, (paths.countP fun a => a.2 = c) ≤ limits.pathsPerCaseMax
  gate : ∀ g, (paths.countP fun a => a.1.gateId = g) ≤ limits.pathsPerGateMax

theorem countP_le_append {α : Type} (p : α → Bool) (xs ys : List α) : ys.countP p ≤ (xs ++ ys).countP p := by
  rw [List.countP_append]
  omega

theorem withinCaps_of_append (limits : CompileLimits) (xs ys : List (Pair × Str)) (h : WithinCaps limits (xs ++ ys)) :
    WithinCaps limits ys := by
  refine ⟨?_, ?_, ?_, ?_⟩
  · have := h.total
    rw [List.length_append] at this
    omega
  · exact fun o => (countP_le_append _ xs ys).trans (h.obligation o)
  · exact fun c => (countP_le_append _ xs ys).trans (h.case c)
  · exact fun g => (countP_le_append _ xs ys).trans (h.gate g)

/-- A degree goes up only at the key of the new path. -/
theorem countP_cons_le {α : Type} (key : α → Str) (x : α) (xs : List α) (maximum : Nat)
    (h : ∀ k, (xs.countP fun a => key a = k) ≤ maximum) (hx : (xs.countP fun a => key a = key x) + 1 ≤ maximum) :
    ∀ k, ((x :: xs).countP fun a => key a = k) ≤ maximum := by
  intro k
  rw [List.countP_cons]
  by_cases hk : key x = k
  · subst hk
    simpa using hx
  · simpa [hk] using h k

theorem pathProbe_none (limits : CompileLimits) (admitted paths : List (Pair × Str)) (h : WithinCaps limits admitted) :
    pathProbe limits admitted paths = none ↔ WithinCaps limits (paths.reverse ++ admitted) := by
  induction paths generalizing admitted with
  | nil => simpa [pathProbe] using h
  | cons path paths ih =>
    rw [pathProbe, List.reverse_cons, List.append_assoc, List.singleton_append]
    split
    · rename_i hover
      simp only at hover
      simp only [reduceCtorEq, false_iff]
      intro hcaps
      have hcaps := withinCaps_of_append limits paths.reverse _ hcaps
      have ht := hcaps.total
      have ho := hcaps.obligation path.1.obligationId
      have hc := hcaps.case path.2
      have hg := hcaps.gate path.1.gateId
      simp only [List.length_cons, List.countP_cons, decide_true, if_true] at ht ho hc hg
      omega
    · rename_i hunder
      simp only [not_or, not_lt] at hunder
      obtain ⟨ht, ho, hc, hg⟩ := hunder
      apply ih
      refine ⟨ht, ?_, ?_, ?_⟩
      · exact countP_cons_le (·.1.obligationId) path admitted _ h.obligation ho
      · exact countP_cons_le (·.2) path admitted _ h.case hc
      · exact countP_cons_le (·.1.gateId) path admitted _ h.gate hg

/-! ## The whole sweep -/

theorem raiseAt_ok (variant : Variant) (issue : Option Str) : raiseAt variant issue = .ok () ↔ issue = none := by
  unfold raiseAt
  cases issue <;> simp

/-- What the arrays passed, stage by stage. -/
structure Passed (limits : CompileLimits) (t : Tables) (r : PhaseBResult) : Prop where
  unknownEntity : Clean (unknownEntity t)
  duplicateEntity : Clean (duplicateEntity t)
  orphanObligation : Clean (orphanObligation t)
  orphanCase : Clean (orphanCase t)
  orphanJudge : Clean (orphanJudge t)
  orphanBundle : Clean (orphanBundle t)
  orphanGate : Clean (orphanGate t)
  orphanEvidence : Clean (orphanEvidence t)
  counted : countSkeleton t = .ok r
  relationMismatch : relationMismatch r = .ok ()
  issue38 : issue38 t limits = none
  issue39 : issue39 t = none
  issue40 : issue40 t = none

theorem validateTables_ok (limits : CompileLimits) (t : Tables) (r : PhaseBResult) :
    validateTables limits t = .ok r ↔ Passed limits t r := by
  unfold validateTables
  simp only [then_ok_iff, sweep_ok]
  simp only [@bind_ok_iff _ _ _ (countSkeleton t), then_ok_iff, raiseAt_ok, pure, Except.pure, Except.ok.injEq]
  constructor
  · rintro ⟨h29, h30, h31, h32, h33, h34, h35, h36, r', hr, h37, h38, h39, h40, rfl⟩
    rw [stage37, h38, h39, h40] at h37
    exact ⟨h29, h30, h31, h32, h33, h34, h35, h36, hr, by simpa using h37, h38, h39, h40⟩
  · intro h
    refine ⟨h.unknownEntity, h.duplicateEntity, h.orphanObligation, h.orphanCase, h.orphanJudge, h.orphanBundle,
      h.orphanGate, h.orphanEvidence, r, h.counted, ?_, h.issue38, h.issue39, h.issue40, rfl⟩
    rw [stage37, h.issue38, h.issue39, h.issue40]
    simpa using h.relationMismatch

end TurnVector.Relations
