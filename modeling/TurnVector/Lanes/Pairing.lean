import TurnVector.Lanes.BoundedTurn

/-! # Which candidate is paired with which baseline -/

namespace TurnVector.Lanes

open Python Json Effects
open CrossEngine (PyFloat)
open LaneController (Raised contractError)

/-! ## One case -/

section Case

variable (context : LaneContext) (floats : Floats) (world : NativeWorld) (bundle : Bundle)

/-- The loop took the oracle arm. -/
structure OracleStep (case : PlannedCase) (at_ : NativeCase) (before after : NativeProgress) (key : BaselineKey)
    (baseline : Baseline) : Prop where
  boundary : boundaryOf case = some oracleBoundary
  keyed : caseKey world.numerals case = .ok key
  read : readBaseline world bundle case at_ = .ok baseline
  fresh : before.baselines.lookup key = none
  baselines : after.baselines = before.baselines ++ [(key, baseline)]
  comparisons : after.comparisons = before.comparisons
  regressions : after.regressionSamples = before.regressionSamples
  artifacts : after.candidateArtifacts = before.candidateArtifacts
  executed : after.executed = before.executed + 1

/-- The answers to a candidate that was judged against a baseline. -/
structure JudgedAgainst (case : PlannedCase) (at_ : NativeCase) (baseline : Baseline) (judged : Judged) : Prop where
  answers : ∃ observations descriptors, at_.closed = .ok (observations, descriptors) ∧
    judgeCandidate case at_ baseline observations descriptors = .ok judged

/-- The loop took the candidate arm. -/
structure CandidateStep (case : PlannedCase) (at_ : NativeCase) (before after : NativeProgress) (key : BaselineKey)
    (baseline : Baseline) (judged : Judged) : Prop where
  boundary : boundaryOf case = some candidateBoundary
  keyed : caseKey world.numerals case = .ok key
  prior : before.baselines.lookup key = some baseline
  against : JudgedAgainst case at_ baseline judged
  baselines : after.baselines = before.baselines
  comparisons : after.comparisons = before.comparisons ++ [judged.comparison]
  regressions : after.regressionSamples = before.regressionSamples ++
    regressions floats judged.samples baseline.wallUs
  artifacts : after.candidateArtifacts = before.candidateArtifacts ++ judged.artifacts
  executed : after.executed = before.executed + 1

variable {context floats world bundle} {case : PlannedCase} {at_ : NativeCase} {key : BaselineKey} {model : NativeModel}
  {before after : NativeProgress} {s t : List Call}

theorem parameter_boundary {value : Json} (h : parameter case "boundary" = .ok value) :
    boundaryOf case = some value := by
  unfold parameter at h
  unfold boundaryOf
  split at h
  · rename_i hlookup
    cases h
    exact hlookup
  · cases h

theorem registerBaseline_ok (h : registerBaseline world bundle case at_ key before = .ok after) :
    ∃ baseline, readBaseline world bundle case at_ = .ok baseline ∧ before.baselines.lookup key = none ∧
      after = { before with
        baselines := before.baselines ++ [(key, baseline)]
        latencyRecords := before.latencyRecords ++ [.oracle case.caseId baseline.wallUs]
        executed := before.executed + 1 } := by
  unfold registerBaseline at h
  obtain ⟨baseline, hread, h⟩ := bind_ok_iff.mp h
  obtain ⟨_, hfresh, h⟩ := bind_ok_iff.mp h
  cases h
  exact ⟨baseline, hread, of_decide_eq_true (demand_ok hfresh), rfl⟩

theorem runOracle_ok (hboundary : boundaryOf case = some oracleBoundary) (hkey : caseKey world.numerals case = .ok key)
    (h : runOracle context world bundle case at_ key model before = .ok after) :
    ∃ baseline, OracleStep world bundle case at_ before after key baseline := by
  unfold runOracle at h
  rcases hprepared : at_.prepared with error | ⟨⟩
  · rw [hprepared] at h
    cases h
  rcases horacle : at_.oracle with error | error | ⟨exitCode, stdout, stderr⟩
  all_goals rw [hprepared, horacle] at h
  · cases h
  · cases h
  dsimp only at h
  split at h
  · cases h
  · rcases hregister : registerBaseline world bundle case at_ key { before with rawRecords := before.rawRecords ++
      [.oracle case.caseId (oracleCommand world bundle case key model) exitCode (lastCharacters stdout)
        (lastCharacters stderr)] } with error | next
    · rw [hregister] at h
      cases h
    · rw [hregister] at h
      cases h
      obtain ⟨baseline, hread, hfresh, rfl⟩ := registerBaseline_ok hregister
      exact ⟨baseline, hboundary, hkey, hread, hfresh, rfl, rfl, rfl, rfl, rfl⟩

theorem priorBaseline_ok {baseline : Baseline} (h : priorBaseline before key = .ok baseline) :
    before.baselines.lookup key = some baseline := by
  unfold priorBaseline at h
  split at h
  · rename_i hlookup
    cases h
    exact hlookup
  · cases h

theorem runCandidate_returned (hboundary : boundaryOf case = some candidateBoundary)
    (hkey : caseKey world.numerals case = .ok key)
    (h : Action.run (runCandidate context floats case at_ key before) s = (.ok after, t)) :
    ∃ baseline judged, CandidateStep floats world case at_ before after key baseline judged := by
  unfold runCandidate at h
  obtain ⟨baseline, hprior, h⟩ := Session.lift_bind h
  obtain ⟨_, -, h⟩ := Session.lift_bind h
  obtain ⟨status, -, h⟩ := Session.request_bind h
  cases status with
  | unsupported => cases h
  | environmentUnavailable => cases h
  | ready =>
    unfold runReadyCandidate at h
    obtain ⟨evidence, u, -, h⟩ := Action.bind_returned h
    obtain ⟨⟨observations, descriptors⟩, hclosed, h⟩ := Session.request_bind h
    obtain ⟨judged, hjudged, h⟩ := Session.lift_bind h
    cases h
    exact ⟨baseline, judged, hboundary, hkey, priorBaseline_ok hprior, ⟨observations, descriptors, hclosed, hjudged⟩,
      rfl, rfl, rfl, rfl, rfl⟩

/-- A case that the loop went on from is a baseline that was registered or a candidate that was judged. -/
theorem runNativeCase_returned
    (h : Action.run (runNativeCase context floats world bundle case at_ before) s = (.ok after, t)) :
    (∃ key baseline, OracleStep world bundle case at_ before after key baseline) ∨
      ∃ key baseline judged, CandidateStep floats world case at_ before after key baseline judged := by
  unfold runNativeCase at h
  obtain ⟨key, hkey, h⟩ := Session.lift_bind h
  obtain ⟨boundary, hboundary, h⟩ := Session.lift_bind h
  obtain ⟨model, -, h⟩ := Session.lift_bind h
  have hparameter := parameter_boundary hboundary
  split at h
  · rename_i horacle
    obtain ⟨hrun, -⟩ := Action.lift_returned h
    exact .inl ⟨key, runOracle_ok (horacle ▸ hparameter) hkey hrun⟩
  · split at h
    · rename_i hcandidate
      exact .inr ⟨key, runCandidate_returned (hcandidate ▸ hparameter) hkey h⟩
    · cases h

end Case

/-! ## What the loop keeps -/

theorem filter_last {α : Type} (p : α → Bool) (done : List α) (a : α) :
    (done ++ [a]).filter p = done.filter p ++ if p a then [a] else [] := by
  rw [List.filter_append, List.filter_cons, List.filter_nil]

def isOracle (case : PlannedCase) : Bool := boundaryOf case = some oracleBoundary
def isCandidate (case : PlannedCase) : Bool := boundaryOf case = some candidateBoundary

theorem not_both (case : PlannedCase) (h : isOracle case = true) : isCandidate case = false := by
  unfold isOracle at h
  unfold isCandidate
  rw [of_decide_eq_true h]
  decide

section Loop

variable (floats : Floats) (world : NativeWorld) (bundle : Bundle)

/-- The entry of a baseline. -/
def Recorded (case : PlannedCase × Nat) (entry : BaselineKey × Baseline) : Prop :=
  caseKey world.numerals case.1 = .ok entry.1 ∧
    readBaseline world bundle case.1 (world.atCase case.2) = .ok entry.2

/-- A candidate was compared with what was read of an earlier baseline of its key. -/
structure Compared (cases : List (PlannedCase × Nat)) (case : PlannedCase × Nat) (judged : Judged)
    (samples : List PyFloat) : Prop where
  paired : ∃ oracle ∈ cases, isOracle oracle.1 = true ∧ oracle.2 < case.2 ∧
    caseKey world.numerals oracle.1 = caseKey world.numerals case.1 ∧
    ∃ baseline, readBaseline world bundle oracle.1 (world.atCase oracle.2) = .ok baseline ∧
      JudgedAgainst case.1 (world.atCase case.2) baseline judged ∧
      judged.comparison.caseId = case.1.caseId ∧ judged.comparison.pairedOracleCaseId = oracle.1.caseId ∧
      judged.comparison.logits.oracleSha256 = baseline.logitsSha256 ∧
      judged.comparison.kv.oracleSha256 = baseline.kvSha256 ∧
      samples = regressions floats judged.samples baseline.wallUs

/-- All that the comparisons and the regression samples are. -/
def ComparedAll (cases : List (PlannedCase × Nat)) (progress : NativeProgress) : Prop :=
  ∃ pairs : List (Judged × List PyFloat), progress.comparisons = pairs.map (·.1.comparison) ∧
    progress.regressionSamples = (pairs.map Prod.snd).flatten ∧
    progress.candidateArtifacts = (pairs.map (·.1.artifacts)).flatten ∧
    List.Forall₂ (fun case pair => Compared floats world bundle cases case pair.1 pair.2)
      (cases.filter fun case => isCandidate case.1) pairs

/-- The invariant of the loop, after the cases that are done. -/
structure PairedSoFar (done : List (PlannedCase × Nat)) (progress : NativeProgress) : Prop where
  known : ∀ case ∈ done, isOracle case.1 = true ∨ isCandidate case.1 = true
  distinct : (progress.baselines.map Prod.fst).Nodup
  recorded : List.Forall₂ (Recorded world bundle) (done.filter fun case => isOracle case.1) progress.baselines
  compared : ComparedAll floats world bundle done progress
  executed : progress.executed = done.length

variable {floats world bundle}

theorem pairedSoFar_start : PairedSoFar floats world bundle [] NativeProgress.start where
  known := by simp
  distinct := by simp [NativeProgress.start]
  recorded := .nil
  compared := ⟨[], rfl, rfl, rfl, .nil⟩
  executed := rfl

theorem Compared.mono {cases more : List (PlannedCase × Nat)} {case : PlannedCase × Nat} {judged : Judged}
    {samples : List PyFloat} (hsub : cases ⊆ more) (h : Compared floats world bundle cases case judged samples) :
    Compared floats world bundle more case judged samples := by
  obtain ⟨oracle, hmem, hrest⟩ := h.paired
  exact ⟨oracle, hsub hmem, hrest⟩

theorem readBaseline_caseId {case : PlannedCase} {at_ : NativeCase} {baseline : Baseline}
    (h : readBaseline world bundle case at_ = .ok baseline) : baseline.caseId = case.caseId := by
  unfold readBaseline at h
  simp only [bind_ok_iff, pure, Except.pure, Except.ok.injEq] at h
  obtain ⟨_, -, _, -, _, -, _, -, _, -, rfl⟩ := h
  rfl

theorem judgeCandidate_comparison {case : PlannedCase} {at_ : NativeCase} {baseline : Baseline}
    {observations : Mapping Json} {descriptors : List (Mapping Json)} {judged : Judged}
    (h : judgeCandidate case at_ baseline observations descriptors = .ok judged) :
    judged.comparison.caseId = case.caseId ∧ judged.comparison.pairedOracleCaseId = baseline.caseId ∧
      judged.comparison.logits.oracleSha256 = baseline.logitsSha256 ∧
      judged.comparison.kv.oracleSha256 = baseline.kvSha256 := by
  unfold judgeCandidate at h
  simp only [bind_ok_iff, pure, Except.pure, Except.ok.injEq] at h
  obtain ⟨_, -, _, -, _, -, _, -, _, -, _, -, _, -, _, -, _, -, _, -, _, -, rfl⟩ := h
  exact ⟨rfl, rfl, rfl, rfl⟩

theorem pairedSoFar_oracle {done : List (PlannedCase × Nat)} {case : PlannedCase} {place : Nat}
    {before after : NativeProgress} {key : BaselineKey} {baseline : Baseline}
    (h : PairedSoFar floats world bundle done before)
    (hstep : OracleStep world bundle case (world.atCase place) before after key baseline) :
    PairedSoFar floats world bundle (done ++ [(case, place)]) after := by
  have horacle : isOracle case = true := decide_eq_true hstep.boundary
  have hcandidate : isCandidate case = false := not_both case horacle
  refine ⟨?_, ?_, ?_, ?_, ?_⟩
  · intro c hc
    rcases List.mem_append.mp hc with hc | hc
    · exact h.known c hc
    · cases List.mem_singleton.mp hc
      exact .inl horacle
  · rw [hstep.baselines, List.map_append, List.nodup_append]
    refine ⟨h.distinct, List.nodup_singleton _, ?_⟩
    rintro k hk _ hk' rfl
    obtain ⟨entry, hentry, rfl⟩ := List.mem_map.mp hk
    have hnone := List.lookup_eq_none_iff.mp hstep.fresh entry hentry
    simp at hk'
    simp [hk'] at hnone
  · rw [hstep.baselines, filter_last, if_pos horacle]
    exact List.rel_append h.recorded (.cons ⟨hstep.keyed, hstep.read⟩ .nil)
  · obtain ⟨pairs, hcomparisons, hregressions, hartifacts, hpairs⟩ := h.compared
    refine ⟨pairs, hstep.comparisons.trans hcomparisons, hstep.regressions.trans hregressions,
      hstep.artifacts.trans hartifacts, ?_⟩
    rw [filter_last, if_neg (by simp [hcandidate]), List.append_nil]
    exact hpairs.imp fun _ _ hpair => hpair.mono (List.subset_append_left _ _)
  · rw [hstep.executed, h.executed, List.length_append, List.length_singleton]

/-- The baseline that is found under a key was read at an earlier oracle case of that key. -/
theorem recorded_lookup {done : List (PlannedCase × Nat)} {progress : NativeProgress} {key : BaselineKey}
    {baseline : Baseline} (h : PairedSoFar floats world bundle done progress)
    (hprior : progress.baselines.lookup key = some baseline) :
    ∃ oracle ∈ done, isOracle oracle.1 = true ∧ Recorded world bundle oracle (key, baseline) := by
  have hmem : (key, baseline) ∈ progress.baselines := by
    obtain ⟨l₁, l₂, hsplit, -⟩ := List.lookup_eq_some_iff.mp hprior
    simp [hsplit]
  obtain ⟨i, hi, hentry⟩ := List.getElem_of_mem hmem
  have hj : i < (done.filter fun case => isOracle case.1).length := h.recorded.length_eq ▸ hi
  have hat := (List.forall₂_iff_get.mp h.recorded).2 i hj hi
  obtain ⟨hin, horacle⟩ := List.mem_filter.mp (List.getElem_mem hj)
  refine ⟨_, hin, horacle, ?_⟩
  rw [← hentry]
  exact hat

theorem pairedSoFar_candidate {done : List (PlannedCase × Nat)} {case : PlannedCase} {place : Nat}
    {before after : NativeProgress} {key : BaselineKey} {baseline : Baseline} {judged : Judged}
    (h : PairedSoFar floats world bundle done before) (hlast : ∀ c ∈ done, c.2 < place)
    (hstep : CandidateStep floats world case (world.atCase place) before after key baseline judged) :
    PairedSoFar floats world bundle (done ++ [(case, place)]) after := by
  have hcandidate : isCandidate case = true := decide_eq_true hstep.boundary
  have horacle : isOracle case = false := by
    cases ho : isOracle case with
    | false => rfl
    | true => rw [not_both case ho] at hcandidate; cases hcandidate
  refine ⟨?_, ?_, ?_, ?_, ?_⟩
  · intro c hc
    rcases List.mem_append.mp hc with hc | hc
    · exact h.known c hc
    · cases List.mem_singleton.mp hc
      exact .inr hcandidate
  · rw [hstep.baselines]
    exact h.distinct
  · rw [hstep.baselines, filter_last, if_neg (by simp [horacle]), List.append_nil]
    exact h.recorded
  · obtain ⟨pairs, hcomparisons, hregressions, hartifacts, hpairs⟩ := h.compared
    obtain ⟨oracle, hin, hisOracle, hkey, hread⟩ := recorded_lookup h hstep.prior
    obtain ⟨observations, descriptors, -, hjudge⟩ := hstep.against.answers
    obtain ⟨hcase, hpaired, hlogits, hkv⟩ := judgeCandidate_comparison hjudge
    refine ⟨pairs ++ [(judged, regressions floats judged.samples baseline.wallUs)], ?_, ?_, ?_, ?_⟩
    · rw [hstep.comparisons, hcomparisons, List.map_append]
      rfl
    · rw [hstep.regressions, hregressions]
      simp
    · rw [hstep.artifacts, hartifacts]
      simp
    · rw [filter_last, if_pos hcandidate]
      refine List.rel_append (hpairs.imp fun _ _ hpair => hpair.mono (List.subset_append_left _ _)) (.cons ?_ .nil)
      refine ⟨oracle, List.mem_append_left _ hin, hisOracle, hlast _ hin, hkey.trans hstep.keyed.symm, baseline, hread,
        hstep.against, hcase, ?_, hlogits, hkv, rfl⟩
      exact hpaired.trans (readBaseline_caseId hread)
  · rw [hstep.executed, h.executed, List.length_append, List.length_singleton]

theorem runNativeCases_paired {context : LaneContext} {done todo : List (PlannedCase × Nat)}
    {before after : NativeProgress} {s t : List Call}
    (horder : (done ++ todo).Pairwise fun c c' => c.2 < c'.2) (hbefore : PairedSoFar floats world bundle done before)
    (h : Action.run (runNativeCases context floats world bundle todo before) s = (.ok after, t)) :
    PairedSoFar floats world bundle (done ++ todo) after := by
  induction todo generalizing done before s with
  | nil =>
    cases h
    rwa [List.append_nil]
  | cons case todo ih =>
    unfold runNativeCases at h
    obtain ⟨middle, u, hcase, h⟩ := Action.bind_returned h
    rw [List.append_cons] at horder ⊢
    refine ih horder ?_ h
    have hlast : ∀ c ∈ done, c.2 < case.2 := fun c hc =>
      (List.pairwise_append.mp (List.pairwise_append.mp horder).1).2.2 c hc case (by simp)
    rcases runNativeCase_returned hcase with ⟨key, baseline, hstep⟩ | ⟨key, baseline, judged, hstep⟩
    · exact pairedSoFar_oracle hbefore hstep
    · exact pairedSoFar_candidate hbefore hlast hstep

end Loop

/-! ## Counting and pairing -/

/-- A list without repetition that lies in one no longer than itself has all of its members. -/
theorem covers_of_nodup {α : Type} {xs ys : List α} (h : xs.Nodup) (hsub : xs ⊆ ys) (hlength : ys.length ≤ xs.length) :
    ys ⊆ xs := by
  have hsubperm : xs.Subperm ys := h.subperm hsub
  exact (hsubperm.perm_of_length_le hlength).symm.subset

theorem filter_zipIdx_fst {α : Type} (p : α → Bool) (xs : List α) :
    (xs.zipIdx.filter fun x => p x.1).map Prod.fst = xs.filter p := by
  rw [← List.zipIdx_map_fst 0 xs, List.filter_map, List.zipIdx_map_fst]
  rfl

theorem length_split {α : Type} (p q : α → Bool) (xs : List α) (hor : ∀ x ∈ xs, p x = true ∨ q x = true)
    (hnot : ∀ x, p x = true → q x = false) : (xs.filter p).length + (xs.filter q).length = xs.length := by
  induction xs with
  | nil => rfl
  | cons x xs ih =>
    have hrest := ih fun y hy => hor y (by simp [hy])
    rw [List.filter_cons, List.filter_cons, List.length_cons, ← hrest]
    rcases hor x (by simp) with hp | hq
    · simp [hp, hnot x hp]
      omega
    · have hp : p x = false := by
        cases hpx : p x with
        | false => rfl
        | true => rw [hnot x hpx] at hq; cases hq
      simp [hp, hq]
      omega

def oracles (plan : CasePlan) : Set PlannedCase := {case | case ∈ plan.cases ∧ isOracle case = true}
def candidates (plan : CasePlan) : Set PlannedCase := {case | case ∈ plan.cases ∧ isCandidate case = true}

/-- The keys of the candidates, in the order of the plan. -/
def candidateKeys (numerals : Numerals) (plan : CasePlan) : List (Except Raised BaselineKey) :=
  (plan.cases.filter isCandidate).map (caseKey numerals)

/-- Every baseline has exactly one candidate, which was compared with it and comes after it. -/
structure Paired (floats : Floats) (world : NativeWorld) (bundle : Bundle) (plan : CasePlan)
    (progress : NativeProgress) : Prop where
  bijective : Set.BijOn (caseKey world.numerals) (candidates plan) (caseKey world.numerals '' oracles plan)
  distinct : Set.InjOn (caseKey world.numerals) (oracles plan)
  compared : ComparedAll floats world bundle plan.cases.zipIdx progress

section Check

variable {floats : Floats} {world : NativeWorld} {bundle : Bundle} {plan : CasePlan} {progress : NativeProgress}

theorem pairedRun_returned {context : LaneContext} {s t : List Call}
    (h : Action.run (pairedRun context floats world bundle) s = (.ok progress, t)) :
    PairedSoFar floats world bundle context.plan.cases.zipIdx progress ∧
      progress.executed = context.plan.cases.length ∧ progress.baselines.length * 2 = progress.executed := by
  unfold pairedRun at h
  obtain ⟨done, u, hloop, h⟩ := Action.bind_returned h
  obtain ⟨_, hcheck, h⟩ := Session.lift_bind h
  cases h
  have hcounts := demand_ok hcheck
  simp only [Bool.and_eq_true, decide_eq_true_eq] at hcounts
  refine ⟨?_, hcounts⟩
  have horder : ([] ++ context.plan.cases.zipIdx).Pairwise fun (c c' : PlannedCase × Nat) => c.2 < c'.2 := by
    rw [List.nil_append, ← List.pairwise_map, List.zipIdx_map_snd]
    exact List.pairwise_lt_range'
  have := runNativeCases_paired horder pairedSoFar_start hloop
  rwa [List.nil_append] at this

theorem oracle_keys (h : PairedSoFar floats world bundle plan.cases.zipIdx progress) :
    (plan.cases.filter isOracle).map (caseKey world.numerals) = progress.baselines.map fun entry => .ok entry.1 := by
  rw [← filter_zipIdx_fst, List.map_map, ← List.forall₂_eq_eq_eq, List.forall₂_map_left_iff, List.forall₂_map_right_iff]
  exact h.recorded.imp fun _ _ hrecorded => hrecorded.1

theorem oracle_keys_nodup (h : PairedSoFar floats world bundle plan.cases.zipIdx progress) :
    ((plan.cases.filter isOracle).map (caseKey world.numerals)).Nodup := by
  have hkeys : progress.baselines.map (fun entry => (.ok entry.1 : Except Raised BaselineKey)) =
      (progress.baselines.map Prod.fst).map .ok := by rw [List.map_map]; rfl
  rw [oracle_keys h, hkeys]
  exact h.distinct.map fun _ _ heq => Except.ok.inj heq

theorem candidate_key_mem (h : PairedSoFar floats world bundle plan.cases.zipIdx progress) (case : PlannedCase)
    (hcase : case ∈ candidates plan) :
    ∃ oracle ∈ oracles plan, caseKey world.numerals oracle = caseKey world.numerals case := by
  obtain ⟨pairs, -, -, -, hpairs⟩ := h.compared
  have hmem : case ∈ (plan.cases.zipIdx.filter fun c => isCandidate c.1).map Prod.fst := by
    rw [filter_zipIdx_fst]
    exact List.mem_filter.mpr hcase
  obtain ⟨placed, hplaced, rfl⟩ := List.mem_map.mp hmem
  obtain ⟨i, hi, rfl⟩ := List.getElem_of_mem hplaced
  obtain ⟨oracle, hin, horacle, -, hkey, -⟩ :=
    ((List.forall₂_iff_get.mp hpairs).2 i hi (hpairs.length_eq ▸ hi)).paired
  exact ⟨oracle.1, ⟨List.fst_mem_of_mem_zipIdx hin, horacle⟩, hkey⟩

theorem bijOn_of_nodup (h : PairedSoFar floats world bundle plan.cases.zipIdx progress)
    (hexecuted : progress.executed = plan.cases.length) (hcount : progress.baselines.length * 2 = progress.executed)
    (hnodup : (candidateKeys world.numerals plan).Nodup) :
    Set.BijOn (caseKey world.numerals) (candidates plan) (caseKey world.numerals '' oracles plan) := by
  have hsub : candidateKeys world.numerals plan ⊆ (plan.cases.filter isOracle).map (caseKey world.numerals) := by
    intro key hkey
    obtain ⟨case, hcase, rfl⟩ := List.mem_map.mp hkey
    obtain ⟨oracle, horacle, hsame⟩ := candidate_key_mem h case (List.mem_filter.mp hcase)
    exact List.mem_map.mpr ⟨oracle, List.mem_filter.mpr horacle, hsame⟩
  have hboth : (plan.cases.filter isOracle).length + (plan.cases.filter isCandidate).length = plan.cases.length := by
    refine length_split _ _ _ (fun case hcase => ?_) not_both
    rw [← List.zipIdx_map_fst 0 plan.cases] at hcase
    obtain ⟨placed, hplaced, rfl⟩ := List.mem_map.mp hcase
    exact h.known placed hplaced
  have horacles : (plan.cases.filter isOracle).length = progress.baselines.length := by
    have := congrArg List.length (oracle_keys h)
    rwa [List.length_map, List.length_map] at this
  have hcover := covers_of_nodup hnodup hsub (by
    unfold candidateKeys
    rw [List.length_map, List.length_map]
    omega)
  refine ⟨?_, ?_, ?_⟩
  · intro case hcase
    obtain ⟨oracle, horacle, hsame⟩ := candidate_key_mem h case hcase
    exact ⟨oracle, horacle, hsame⟩
  · intro case hcase case' hcase' hsame
    exact List.inj_on_of_nodup_map hnodup (List.mem_filter.mpr hcase) (List.mem_filter.mpr hcase') hsame
  · rintro key ⟨oracle, horacle, rfl⟩
    obtain ⟨case, hcase, hsame⟩ := List.mem_map.mp (hcover (List.mem_map.mpr ⟨oracle, List.mem_filter.mpr horacle, rfl⟩))
    exact ⟨case, List.mem_filter.mp hcase, hsame⟩

end Check

/-- The cases of an expanded plan are distinct. -/
theorem plan_nodup {lane : ExpectationLane} {suite : LaneSuite} {plan : CasePlan}
    (h : expandCasePlan lane suite = .ok plan) : plan.cases.Nodup := by
  rw [expandCasePlan_ok] at h
  cases h
  apply List.Nodup.of_map (·.caseId)
  have hids := idsFrom_nodup lane.laneId.val 1 lane.matrices.items
  rwa [← plannedCases_ids lane suite] at hids

/-- A run that passes its check has paired every baseline with one candidate exactly where no two candidates of the
plan have the same key. -/
theorem pairing_check_iff (context : LaneContext) (floats : Floats) (world : NativeWorld) (bundle : Bundle)
    (progress : NativeProgress) (s t : List Call) (hplan : expandCasePlan context.lane context.suite = .ok context.plan)
    (h : Action.run (pairedRun context floats world bundle) s = (.ok progress, t)) :
    Paired floats world bundle context.plan progress ↔ (candidateKeys world.numerals context.plan).Nodup := by
  obtain ⟨hpaired, hexecuted, hcount⟩ := pairedRun_returned h
  constructor
  · intro hall
    refine ((plan_nodup hplan).filter _).map_on ?_
    intro case hcase case' hcase' hsame
    exact hall.bijective.injOn (List.mem_filter.mp hcase) (List.mem_filter.mp hcase') hsame
  · intro hnodup
    refine ⟨bijOn_of_nodup hpaired hexecuted hcount hnodup, ?_, hpaired.compared⟩
    intro case hcase case' hcase' hsame
    exact List.inj_on_of_nodup_map (oracle_keys_nodup hpaired) (List.mem_filter.mpr hcase) (List.mem_filter.mpr hcase')
      hsame

/-! ## Two candidates of one key -/

def architectureDimension : MatrixDimension := ⟨⟨lit "model_architecture", by decide⟩, only _ (.str (lit "dense"))⟩

/-- A matrix of one boundary. -/
def nativeMatrix (matrixId : Canonical.Identifier) (boundary : Json) (tokens samples : Listed Json scalarText) :
    Matrix where
  matrixId := matrixId
  dimensions := ⟨[architectureDimension, ⟨⟨lit "boundary", by decide⟩, only _ boundary⟩, ⟨⟨lit "prompt_tokens", by decide⟩, tokens⟩,
    ⟨⟨lit "sample", by decide⟩, samples⟩], by simp, (by decide : [lit "model_architecture", lit "boundary",
      lit "prompt_tokens", lit "sample"].Nodup)⟩

def oneAndTwo : Listed Json scalarText := ⟨[.int 1, .int 2], by simp, by decide⟩

def baselineMatrix : Listed Json scalarText → Listed Json scalarText → Matrix :=
  nativeMatrix ⟨lit "baseline", by decide⟩ oracleBoundary

def candidateMatrix : Listed Json scalarText → Listed Json scalarText → Matrix :=
  nativeMatrix ⟨lit "candidate", by decide⟩ candidateBoundary

/-- Two baselines of 1 and 2 tokens, and two candidates of 1 token. -/
def skewedLane : ExpectationLane :=
  { twoCaseLane with
    laneId := ⟨lit "bounded-turn-and-ffi", by decide⟩
    matrices := ⟨[baselineMatrix oneAndTwo (only _ (.int 1)), candidateMatrix (only _ (.int 1)) oneAndTwo], by simp,
      by decide⟩ }

def skewedContext : LaneContext where
  lane := skewedLane
  suite := countSuite
  plan := ⟨lit "bounded-turn-and-ffi", lit "suite", plannedCases skewedLane countSuite 1 skewedLane.matrices.items⟩
  frozenThresholds := [(lit "m", .int 0)]

def descriptorOf (id digest : Str) : Mapping Json :=
  ⟨[(lit "id", .str id), (lit "path", .str id), (lit "size", .int 3), (lit "sha256", .str digest)],
    (by decide : [lit "id", lit "path", lit "size", lit "sha256"].Nodup)⟩

def candidateDescriptor (id : Str) : Mapping Json := descriptorOf id sampleDigest

def outcomeDocument (schema other : String) (caseId : Str) : Json :=
  .obj [(lit "schema_version", text schema), (lit "case_id", .str caseId),
    (lit "outcomes", .arr ([text "completed", text "cancelled"].map fun terminal =>
      .obj [(lit "terminal", terminal), (lit other, .bool true)]))]

def cleanNativeCase (caseId : Str) : NativeCase where
  prepared := .ok ()
  oracle := .finished 0 [] []
  hasContent _ := true
  sha256 _ := .ok sampleDigest
  oracleLatency _ := .ok [1]
  opened := .ok .ready
  stepped _ := .ok noMembers
  closed := .ok (noMembers, candidateArtifactIds.map candidateDescriptor)
  probe _ := .file 3 sampleDigest
  candidateLatency _ := .ok [(1, 1)]
  readJson path := .ok (if path = lit "turn_receipt" then
      outcomeDocument "turnvector.benchmark.turn-receipt-evidence.v1" "bounded" caseId
    else outcomeDocument "turnvector.benchmark.native-cleanup-evidence.v1" "cleaned" caseId)

def sampleModel : NativeModel := ⟨lit "graph", 1, 1, 1, 1⟩

def sampleBundle : Bundle := ⟨[], [], [], .int 0, 0, 1, sampleModel, sampleModel⟩

def skewedWorld : NativeWorld where
  externalInputs := nativeInputs
  artifactRoot := []
  bundle := .ok sampleBundle
  numerals := ⟨fun _ => none, fun _ => .nan⟩
  atCase place := cleanNativeCase ((skewedContext.plan.cases.map (·.caseId)).getD place [])
  written _ := .ok (3, sampleDigest)

/-- The check passes over a plan that leaves the baseline of 2 tokens without a candidate. -/
theorem pairing_check_skewed : expandCasePlan skewedLane countSuite = .ok skewedContext.plan ∧
    (Action.run (pairedRun skewedContext exactFloats skewedWorld sampleBundle) []).1.toOption.isSome = true ∧
      ¬ Set.BijOn (caseKey skewedWorld.numerals) (candidates skewedContext.plan)
        (caseKey skewedWorld.numerals '' oracles skewedContext.plan) := by
  refine ⟨expandCasePlan_ok skewedLane countSuite, by decide +kernel, fun h => ?_⟩
  have hnodup : (candidateKeys skewedWorld.numerals skewedContext.plan).Nodup := by
    have hcases : skewedContext.plan.cases.Nodup := plan_nodup (expandCasePlan_ok skewedLane countSuite)
    refine (hcases.filter _).map_on ?_
    intro case hcase case' hcase' hsame
    exact h.injOn (List.mem_filter.mp hcase) (List.mem_filter.mp hcase') hsame
  revert hnodup
  decide +kernel

theorem pairing_check_iff_sample : ∃ progress calls,
    Action.run (pairedRun skewedContext exactFloats skewedWorld sampleBundle) [] = (.ok progress, calls) ∧
      (Paired exactFloats skewedWorld sampleBundle skewedContext.plan progress ↔
        (candidateKeys skewedWorld.numerals skewedContext.plan).Nodup) := by
  obtain ⟨progress, hprogress⟩ := ok_of_isSome
    (Action.run (pairedRun skewedContext exactFloats skewedWorld sampleBundle) []).1 (by decide +kernel)
  have hrun : Action.run (pairedRun skewedContext exactFloats skewedWorld sampleBundle) [] =
      (.ok progress, (Action.run (pairedRun skewedContext exactFloats skewedWorld sampleBundle) []).2) :=
    Prod.ext hprogress rfl
  exact ⟨progress, _, hrun, pairing_check_iff _ _ _ _ _ _ _ (expandCasePlan_ok skewedLane countSuite) hrun⟩

end TurnVector.Lanes
