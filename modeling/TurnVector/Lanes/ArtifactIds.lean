import TurnVector.Lanes.MlxCorrectness
import TurnVector.Lanes.OracleAgreement
import TurnVector.Lanes.Pairing

/-! # What an artifact id names in a passed lane -/

namespace TurnVector.Lanes

open Python Json Effects
open LaneController (Raised contractError)

/-! ## The law -/

/-- No two entries of an id have different paths, sizes or digests. -/
def ConflictFree (artifacts : List Artifact) : Prop := ∀ a ∈ artifacts, ∀ b ∈ artifacts, a.id = b.id → a = b

/-- The artifacts of a lane, as `EvidenceLaneRunner.run` enforces them. -/
structure Enforced (context : LaneContext) (artifacts : List Artifact) : Prop where
  conflictFree : ConflictFree artifacts
  required : ∀ id ∈ context.lane.requiredArtifacts.items, id ∉ controllerArtifactIds → id ∈ artifacts.map (·.id)

theorem conflictFree_of_nodup {artifacts : List Artifact} (h : (artifacts.map (·.id)).Nodup) :
    ConflictFree artifacts := fun _ ha _ hb hid => List.inj_on_of_nodup_map h ha hb hid

/-- As many ids as expected, and the expected ones: each of them once. -/
theorem perm_of_sameSet {found expected : List Str} (hsame : sameSet found expected = true)
    (hnodup : expected.Nodup) (hlength : found.length = expected.length) : found.Perm expected := by
  have hsub : expected ⊆ found := fun id hid => ((sameSet_iff _ _).mp hsame id).mpr hid
  exact ((hnodup.subperm hsub).perm_of_length_le (le_of_eq hlength)).symm

/-- A verified artifact is what stands at its path. -/
theorem validated_probe {probe : Str → Probe} {descriptor : List (Str × Json)} {artifact : Artifact}
    (h : validateSubjectArtifact probe descriptor = .ok artifact) :
    probe artifact.path = .file artifact.size artifact.sha256 := by
  unfold validateSubjectArtifact at h
  obtain ⟨⟨id, path⟩, -, h⟩ := bind_ok_iff.mp h
  dsimp only at h
  split at h
  · cases h
  · cases h
  · cases h
  · cases h
  · rename_i size sha256 hprobe
    unfold checkFile at h
    split at h
    · split at h
      · cases h
      · split at h
        · split at h
          · cases h
          · split at h
            · cases h
            · cases h
              exact hprobe
        · cases h
    · cases h

theorem verified_probe {probe : Str → Probe} {descriptors : List (Mapping Json)} {artifacts : List Artifact}
    (h : (descriptors.mapM fun descriptor => validateSubjectArtifact probe descriptor.val) = .ok artifacts)
    (artifact : Artifact) (hmem : artifact ∈ artifacts) :
    probe artifact.path = .file artifact.size artifact.sha256 := by
  have hall := forall₂_of_mapM h
  obtain ⟨i, hi, rfl⟩ := List.getElem_of_mem hmem
  exact validated_probe ((List.forall₂_iff_get.mp hall).2 i (hall.length_eq ▸ hi) hi)

theorem artifactNamed_ok {artifacts : List Artifact} {name : String} {artifact : Artifact}
    (h : artifactNamed artifacts name = .ok artifact) : artifact ∈ artifacts ∧ artifact.id = lit name := by
  unfold artifactNamed at h
  split at h
  · rename_i found hfind
    cases h
    exact ⟨List.mem_of_find?_eq_some hfind, by simpa using List.find?_some hfind⟩
  · cases h

theorem localArtifact_ok {id path : String} {written : Except Raised (Nat × Str)} {artifact : Artifact}
    (h : localArtifact id path written = .ok artifact) :
    artifact.id = lit id ∧ written = .ok (artifact.size, artifact.sha256) := by
  unfold localArtifact at h
  obtain ⟨⟨size, sha256⟩, hwritten, h⟩ := bind_ok_iff.mp h
  cases h
  exact ⟨rfl, hwritten⟩

theorem gatedResult_passed {ρ : Type} {context : LaneContext} {floats : Floats} {executed : Nat}
    {metrics : List (Str × Metric)} {artifacts : List Artifact} {rawRecords : List ρ} {result : LaneResult ρ}
    (h : (do
      let gates ← evaluateGates floats context.lane metrics context.frozenThresholds
      return gatedResult context executed metrics gates artifacts rawRecords : Except Raised (LaneResult ρ)) = .ok result) :
    result.artifacts = artifacts ∧ result.rawRecords = rawRecords := by
  obtain ⟨gates, -, h⟩ := bind_ok_iff.mp h
  cases h
  exact ⟨rfl, rfl⟩

theorem messageResult_refuses {ρ : Type} (context : LaneContext) (status : LaneStatus) (message : Str) (executed : Nat)
    (rawRecords : List ρ) (h : status ≠ .passed) :
    Refuses (.returned (messageResult context status message executed rawRecords)) := by
  intro result hresult
  cases hresult
  exact ⟨h, rfl, rfl⟩

/-- A passed result comes from a run that reached its last line. -/
theorem settle_passed {ρ : Type} {run : Session ρ (LaneResult ρ)}
    (hrefuses : Action.Raises (fun stop => ∀ result, stop = .returned result → result.status ≠ .passed) run)
    {result : LaneResult ρ} (h : Session.settle (Action.run run []).1 = .ok result) (hpassed : result.status = .passed) :
    ∃ calls, Action.run run [] = (.ok result, calls) := by
  rcases hrun : Action.run run [] with ⟨(error | returned) | returned, calls⟩
  all_goals
    rw [hrun] at h
    cases h
  · exact absurd hpassed (hrefuses _ _ _ hrun result rfl)
  · exact ⟨calls, rfl⟩

/-! ## The scheduler-policy lane -/

section Scheduler

variable {context : LaneContext} {floats : Floats} {world : SchedulerWorld}

/-- What the subject returned for a case, verified. -/
def Returned (world : SchedulerWorld) (case : PlannedCase × Nat) (artifacts : List Artifact) : Prop :=
  ∃ observations descriptors, (world.atCase case.2).closed = .ok (observations, descriptors) ∧
    (descriptors.mapM fun descriptor => validateSubjectArtifact (world.atCase case.2).probe descriptor.val) = .ok artifacts

/-- The descriptors of a run name one file for each id, that of the runner's trace for `trace`, and supply the rest of
what the lane requires. -/
structure OneFileEach (context : LaneContext) (returned : List Artifact) (trace : Artifact) : Prop where
  agree : ∀ a ∈ returned, ∀ b ∈ returned, a.id = b.id → a = b
  trace : ∀ a ∈ returned, a.id = lit "trace" → a = trace
  required : ∀ id ∈ context.lane.requiredArtifacts.items, id ∉ controllerArtifactIds → id = lit "trace" ∨
    id ∈ returned.map (·.id)

theorem enforced_iff {returned : List Artifact} {trace : Artifact} (hid : trace.id = lit "trace") :
    Enforced context (returned ++ [trace]) ↔ OneFileEach context returned trace := by
  constructor
  · rintro ⟨hfree, hrequired⟩
    refine ⟨?_, ?_, ?_⟩
    · intro a ha b hb hab
      exact hfree a (by simp [ha]) b (by simp [hb]) hab
    · intro a ha haid
      exact hfree a (by simp [ha]) trace (by simp) (haid.trans hid.symm)
    · intro id hin hnot
      have := hrequired id hin hnot
      simp only [List.map_append, List.map_cons, List.map_nil, List.mem_append, List.mem_singleton, hid] at this
      exact this.symm
  · rintro ⟨hagree, htrace, hrequired⟩
    refine ⟨?_, ?_⟩
    · intro a ha b hb hab
      rw [List.mem_append, List.mem_singleton] at ha hb
      rcases ha with ha | rfl <;> rcases hb with hb | rfl
      · exact hagree a ha b hb hab
      · exact htrace a ha (hab.trans hid)
      · exact (htrace b hb (hab.symm.trans hid)).symm
      · rfl
    · intro id hin hnot
      simp only [List.map_append, List.map_cons, List.map_nil, List.mem_append, List.mem_singleton, hid]
      exact (hrequired id hin hnot).symm

theorem runSchedulerCase_artifacts {scenarios : Scenarios} {case : PlannedCase} {place : Nat}
    {before after : SchedulerProgress} {s t : List Call}
    (h : Action.run (runSchedulerCase context world scenarios case (world.atCase place) before) s = (.ok after, t)) :
    ∃ artifacts, Returned world (case, place) artifacts ∧ after.artifacts = before.artifacts ++ artifacts := by
  unfold runSchedulerCase at h
  obtain ⟨scenario, -, h⟩ := Session.lift_bind h
  obtain ⟨_, -, h⟩ := Session.lift_bind h
  obtain ⟨status, -, h⟩ := Session.request_bind h
  cases status with
  | unsupported => cases h
  | environmentUnavailable => cases h
  | ready =>
    unfold runReadySchedulerCase at h
    obtain ⟨state, u, -, h⟩ := Action.bind_returned h
    obtain ⟨⟨observations, descriptors⟩, hclosed, h⟩ := Session.request_bind h
    obtain ⟨_, -, h⟩ := Session.lift_bind h
    obtain ⟨artifacts, hartifacts, h⟩ := Session.lift_bind h
    cases h
    exact ⟨artifacts, ⟨observations, descriptors, hclosed, hartifacts⟩, rfl⟩

theorem runSchedulerCases_artifacts {scenarios : Scenarios} {cases : List (PlannedCase × Nat)}
    {before after : SchedulerProgress} {s t : List Call}
    (h : Action.run (runSchedulerCases context world scenarios cases before) s = (.ok after, t)) :
    ∃ returned, List.Forall₂ (Returned world) cases returned ∧
      after.artifacts = before.artifacts ++ returned.flatten := by
  induction cases generalizing before s with
  | nil =>
    cases h
    exact ⟨[], .nil, by simp⟩
  | cons case cases ih =>
    unfold runSchedulerCases at h
    obtain ⟨middle, u, hcase, h⟩ := Action.bind_returned h
    obtain ⟨artifacts, hreturned, hmiddle⟩ := runSchedulerCase_artifacts hcase
    obtain ⟨rest, hrest, hafter⟩ := ih h
    refine ⟨artifacts :: rest, .cons hreturned hrest, ?_⟩
    rw [hafter, hmiddle, List.flatten_cons, List.append_assoc]

/-- The artifacts of a passed run: what the subject returned, and the runner's trace. -/
theorem scheduler_artifacts {result : LaneResult SchedulerRecord}
    (h : runSchedulerLane context floats world = .ok result) (hpassed : result.status = .passed) :
    ∃ returned trace, List.Forall₂ (Returned world) context.plan.cases.zipIdx returned ∧
      localArtifact "trace" "scheduler-trace.jsonl" (world.written result.rawRecords) = .ok trace ∧
      result.artifacts = returned.flatten ++ [trace] := by
  obtain ⟨calls, hrun⟩ := settle_passed
    (fun s stop t hstop result hresult => (notOpened_run s stop t hstop result hresult).1) h hpassed
  unfold schedulerRun at hrun
  obtain ⟨scenarios, -, hrun⟩ := Session.lift_bind hrun
  obtain ⟨progress, u, hcases, hrun⟩ := Action.bind_returned hrun
  obtain ⟨_, hfinish, hrun⟩ := Session.lift_bind (f := pure) (by rwa [bind_pure])
  cases hrun
  unfold finishScheduler at hfinish
  obtain ⟨trace, htrace, hfinish⟩ := bind_ok_iff.mp hfinish
  obtain ⟨hartifacts, hrecords⟩ := gatedResult_passed hfinish
  obtain ⟨returned, hreturned, hprogress⟩ := runSchedulerCases_artifacts hcases
  refine ⟨returned, trace, hreturned, ?_, ?_⟩
  · rw [hrecords]
    exact htrace
  · rw [hartifacts, hprogress]
    rfl

end Scheduler

/-! ## The bounded-turn lane -/

section BoundedTurn

/-- What a caller sees of `BoundedTurnAndFfiLaneRunner.run`. -/
def runBoundedTurnLane (context : LaneContext) (floats : Floats) (world : NativeWorld) :
    Except Raised (LaneResult NativeRecord) :=
  Session.settle (Action.run (boundedTurnRun context floats world) []).1

/-- Files of one digest decode alike. -/
def DigestsIdentify (world : NativeWorld) : Prop :=
  ∀ place place' path path' size size' sha256, (world.atCase place).probe path = .file size sha256 →
    (world.atCase place').probe path' = .file size' sha256 →
      (world.atCase place).readJson path = (world.atCase place').readJson path'

def nativeFileIds : List Str :=
  [lit "native_oracle", lit "output_hashes", lit "latency_samples", lit "turn_receipts", lit "cleanup_trace"]

variable {context : LaneContext} {floats : Floats} {world : NativeWorld} {bundle : Bundle}

theorem runOracle_refuses {case : PlannedCase} {at_ : NativeCase} {key : BaselineKey} {model : NativeModel}
    {progress : NativeProgress} (stop : Stop NativeRecord)
    (h : runOracle context world bundle case at_ key model progress = .error stop) : Refuses stop := by
  have hunavailable : ∀ progress message, Refuses (environmentUnavailable context progress message) :=
    fun _ _ => messageResult_refuses context _ _ _ _ (by decide)
  unfold runOracle at h
  rcases hprepared : at_.prepared with error | ⟨⟩
  · rw [hprepared] at h
    cases h
    exact refuses_raised _
  rcases horacle : at_.oracle with error | error | ⟨exitCode, stdout, stderr⟩
  all_goals rw [hprepared, horacle] at h
  · cases h
    exact refuses_raised _
  · cases h
    exact hunavailable _ _
  dsimp only at h
  split at h
  · cases h
    exact hunavailable _ _
  · unfold Except.mapError at h
    split at h
    · cases h
      exact refuses_raised _
    · cases h

theorem runNativeCase_refuses (case : PlannedCase) (at_ : NativeCase) (progress : NativeProgress) :
    Action.Raises Refuses (runNativeCase context floats world bundle case at_ progress) := by
  unfold runNativeCase
  refine Action.Raises.bind (raises_lift _) fun key => Action.Raises.bind (raises_lift _) fun boundary => ?_
  refine Action.Raises.bind (raises_lift _) fun model => ?_
  split
  · exact Action.Raises.lift fun stop hstop => runOracle_refuses stop hstop
  · split
    · unfold runCandidate
      refine Action.Raises.bind (raises_lift _) fun baseline => Action.Raises.bind (raises_lift _) fun _ => ?_
      refine Action.Raises.bind (raises_request _ _) fun status => ?_
      cases status with
      | unsupported => exact Action.Raises.throw (messageResult_refuses context _ _ _ _ (by decide))
      | environmentUnavailable => exact Action.Raises.throw (messageResult_refuses context _ _ _ _ (by decide))
      | ready =>
        show Action.Raises Refuses (runReadyCandidate floats case at_ baseline progress)
        unfold runReadyCandidate
        refine Action.Raises.bind (Action.Raises.mapM _ _ fun _ _ => raises_request _ _) fun _ => ?_
        refine Action.Raises.bind (raises_request _ _) fun _ => ?_
        exact Action.Raises.bind (raises_lift _) fun _ => Action.Raises.pure _
    · exact raises_lift _

theorem runNativeCases_refuses (cases : List (PlannedCase × Nat)) (progress : NativeProgress) :
    Action.Raises Refuses (runNativeCases context floats world bundle cases progress) := by
  induction cases generalizing progress with
  | nil => exact Action.Raises.pure _
  | cons case cases ih =>
    unfold runNativeCases
    exact Action.Raises.bind (runNativeCase_refuses _ _ _) fun next => ih next

theorem boundedTurnRun_refuses : Action.Raises Refuses (boundedTurnRun context floats world) := by
  unfold boundedTurnRun
  dsimp only
  split
  · unfold withBundle pairedRun
    refine Action.Raises.bind (raises_lift _) fun bundle => Action.Raises.bind ?_ fun _ => raises_lift _
    refine Action.Raises.bind (runNativeCases_refuses _ _) fun _ => ?_
    exact Action.Raises.bind (raises_lift _) fun _ => Action.Raises.pure _
  · exact Action.Raises.throw (messageResult_refuses context _ _ _ _ (by decide))

/-- The files that the runner wrote itself. -/
theorem localArtifacts_ids {progress : NativeProgress} {written : List Artifact}
    (h : localArtifacts world bundle progress = .ok written) : written.map (·.id) = nativeFileIds := by
  unfold localArtifacts at h
  obtain ⟨a, ha, h⟩ := bind_ok_iff.mp h
  obtain ⟨b, hb, h⟩ := bind_ok_iff.mp h
  obtain ⟨c, hc, h⟩ := bind_ok_iff.mp h
  obtain ⟨d, hd, h⟩ := bind_ok_iff.mp h
  obtain ⟨e, he, h⟩ := bind_ok_iff.mp h
  cases h
  simp [nativeFileIds, (localArtifact_ok ha).1, (localArtifact_ok hb).1, (localArtifact_ok hc).1,
    (localArtifact_ok hd).1, (localArtifact_ok he).1]

/-- A candidate that was judged has each of the five artifacts once, and a receipt of its own. -/
theorem judgedAgainst_artifacts {case : PlannedCase} {at_ : NativeCase} {baseline : Baseline} {judged : Judged}
    (h : JudgedAgainst case at_ baseline judged) :
    (judged.artifacts.map (·.id)).Perm candidateArtifactIds ∧
      (∀ artifact ∈ judged.artifacts, at_.probe artifact.path = .file artifact.size artifact.sha256) ∧
      ∃ receipt ∈ judged.artifacts, receipt.id = lit "turn_receipt" ∧ ∃ members,
        at_.readJson receipt.path = .ok (.obj members) ∧ members.lookup (lit "case_id") = some (.str case.caseId) := by
  obtain ⟨observations, descriptors, -, hjudge⟩ := h.answers
  unfold judgeCandidate at hjudge
  obtain ⟨_, -, hjudge⟩ := bind_ok_iff.mp hjudge
  obtain ⟨artifacts, hverify, hjudge⟩ := bind_ok_iff.mp hjudge
  obtain ⟨latency, -, hjudge⟩ := bind_ok_iff.mp hjudge
  obtain ⟨samples, -, hjudge⟩ := bind_ok_iff.mp hjudge
  obtain ⟨_, -, hjudge⟩ := bind_ok_iff.mp hjudge
  obtain ⟨receipt, hnamed, hjudge⟩ := bind_ok_iff.mp hjudge
  obtain ⟨document, hreceipt, hjudge⟩ := bind_ok_iff.mp hjudge
  have hartifacts : judged.artifacts = artifacts := by
    simp only [bind_ok_iff, pure, Except.pure, Except.ok.injEq] at hjudge
    obtain ⟨_, -, _, -, _, -, _, -, rfl⟩ := hjudge
    rfl
  rw [hartifacts]
  unfold verifyArtifacts at hverify
  obtain ⟨verified, hvalid, hverify⟩ := bind_ok_iff.mp hverify
  obtain ⟨_, hdemand, hverify⟩ := bind_ok_iff.mp hverify
  cases hverify
  have hexact := demand_ok hdemand
  rw [Bool.and_eq_true, decide_eq_true_eq] at hexact
  obtain ⟨hmem, hid⟩ := artifactNamed_ok hnamed
  refine ⟨perm_of_sameSet hexact.1 (by decide) (by simpa using hexact.2), verified_probe hvalid, receipt, hmem, hid, ?_⟩
  unfold readReceipt at hreceipt
  obtain ⟨⟨value, outcomes⟩, hread, -⟩ := bind_ok_iff.mp hreceipt
  unfold readOutcomes at hread
  obtain ⟨content, hcontent, hread⟩ := bind_ok_iff.mp hread
  split at hread
  · rename_i members
    obtain ⟨_, -, hread⟩ := bind_ok_iff.mp hread
    dsimp only at hread
    split at hread
    · split at hread
      · rename_i hidentity
        exact ⟨members, hcontent, hidentity.2⟩
      · cases hread
    · cases hread
  · cases hread

theorem percentileOf_nonempty {samples : List CrossEngine.PyFloat} {share : ℚ} {value : CrossEngine.PyFloat}
    (h : percentileOf floats samples share = .ok value) : samples ≠ [] := by
  rintro rfl
  cases h

/-- The artifacts of a passed run: five of each candidate, and the runner's own. -/
theorem boundedTurn_artifacts {result : LaneResult NativeRecord}
    (h : runBoundedTurnLane context floats world = .ok result) (hpassed : result.status = .passed) :
    ∃ (pairs : List Judged) (written : List Artifact), pairs ≠ [] ∧
      List.Forall₂ (fun case judged => ∃ baseline, JudgedAgainst case.1 (world.atCase case.2) baseline judged)
        (context.plan.cases.zipIdx.filter fun case => isCandidate case.1) pairs ∧
      written.map (·.id) = nativeFileIds ∧ result.artifacts = (pairs.map (·.artifacts)).flatten ++ written := by
  obtain ⟨calls, hrun⟩ := settle_passed
    (fun s stop t hstop result hresult => (boundedTurnRun_refuses s stop t hstop result hresult).1) h hpassed
  unfold boundedTurnRun at hrun
  dsimp only at hrun
  split at hrun
  · unfold withBundle at hrun
    obtain ⟨bundle, -, hrun⟩ := Session.lift_bind hrun
    obtain ⟨progress, u, hpaired, hrun⟩ := Action.bind_returned hrun
    obtain ⟨_, hfinish, hrun⟩ := Session.lift_bind (f := pure) (by rwa [bind_pure])
    cases hrun
    unfold finishNative at hfinish
    obtain ⟨written, hwritten, hfinish⟩ := bind_ok_iff.mp hfinish
    obtain ⟨_, -, hfinish⟩ := bind_ok_iff.mp hfinish
    obtain ⟨_, hregression, hfinish⟩ := bind_ok_iff.mp hfinish
    obtain ⟨hartifacts, -⟩ := gatedResult_passed hfinish
    obtain ⟨hsofar, -⟩ := pairedRun_returned hpaired
    obtain ⟨pairs, -, hsamples, hcandidates, hpairs⟩ := hsofar.compared
    refine ⟨pairs.map Prod.fst, written, ?_, ?_, localArtifacts_ids hwritten, ?_⟩
    · intro hnone
      refine percentileOf_nonempty hregression ?_
      rw [hsamples, List.map_eq_nil_iff.mp hnone]
      rfl
    · rw [List.forall₂_map_right_iff]
      refine hpairs.imp fun case pair hcompared => ?_
      obtain ⟨_, -, -, -, -, baseline, -, hjudged, -⟩ := hcompared.paired
      exact ⟨baseline, hjudged⟩
    · rw [hartifacts, hcandidates, List.map_map]
      rfl
  · cases hrun

/-- Two candidates have receipts of their own, and an id names two files. -/
theorem one_candidate {cases : List (PlannedCase × Nat)} {pairs : List Judged}
    (hdigests : DigestsIdentify world) (hids : (cases.map (·.1.caseId)).Nodup)
    (hpairs : List.Forall₂ (fun case judged => ∃ baseline, JudgedAgainst case.1 (world.atCase case.2) baseline judged)
      cases pairs) (hfree : ConflictFree (pairs.map (·.artifacts)).flatten) : cases.length ≤ 1 := by
  cases hpairs with
  | nil => simp
  | @cons case judged _ _ hfirst hrest =>
    cases hrest with
    | nil => simp
    | @cons case' judged' _ _ hsecond _ =>
      obtain ⟨_, hfirst⟩ := hfirst
      obtain ⟨_, hsecond⟩ := hsecond
      obtain ⟨-, hprobe, receipt, hmem, hid, members, hread, hcase⟩ := judgedAgainst_artifacts hfirst
      obtain ⟨-, hprobe', receipt', hmem', hid', members', hread', hcase'⟩ := judgedAgainst_artifacts hsecond
      have hsame : receipt = receipt' :=
        hfree receipt (by simp [hmem]) receipt' (by simp [hmem']) (hid.trans hid'.symm)
      subst hsame
      have hdocument := hdigests _ _ _ _ _ _ _ (hprobe receipt hmem) (hprobe' receipt hmem')
      rw [hread, hread'] at hdocument
      cases hdocument
      rw [hcase] at hcase'
      have hne : case.1.caseId ≠ case'.1.caseId := by
        simp only [List.map_cons, List.nodup_cons, List.mem_cons, not_or] at hids
        exact hids.1.1
      exact absurd (Json.str.inj (Option.some.inj hcase')) hne

theorem plan_ids_nodup {lane : ExpectationLane} {suite : LaneSuite} {plan : CasePlan}
    (h : expandCasePlan lane suite = .ok plan) : (plan.cases.map (·.caseId)).Nodup := by
  rw [expandCasePlan_ok] at h
  cases h
  have hids := idsFrom_nodup lane.laneId.val 1 lane.matrices.items
  rwa [← plannedCases_ids lane suite] at hids

/-- A passed run obeys the law exactly where its plan has one candidate and the lane requires nothing else. -/
theorem boundedTurn_enforced_iff {result : LaneResult NativeRecord}
    (hplan : expandCasePlan context.lane context.suite = .ok context.plan) (hdigests : DigestsIdentify world)
    (h : runBoundedTurnLane context floats world = .ok result) (hpassed : result.status = .passed) :
    Enforced context result.artifacts ↔ (context.plan.cases.filter isCandidate).length = 1 ∧
      ∀ id ∈ context.lane.requiredArtifacts.items, id ∉ controllerArtifactIds →
        id ∈ candidateArtifactIds ++ nativeFileIds := by
  obtain ⟨pairs, written, hsome, hpairs, hwritten, hartifacts⟩ := boundedTurn_artifacts h hpassed
  have hcount : (context.plan.cases.filter isCandidate).length = pairs.length := by
    rw [← filter_zipIdx_fst, List.length_map]
    exact hpairs.length_eq
  have hallIds : ∀ id, id ∈ result.artifacts.map (·.id) ↔ id ∈ candidateArtifactIds ++ nativeFileIds := by
    intro id
    rw [hartifacts, List.map_append, hwritten, List.mem_append, List.mem_append]
    refine or_congr_left ?_
    rw [List.map_flatten, List.mem_flatten]
    constructor
    · rintro ⟨_, hlist, hid⟩
      simp only [List.map_map, List.mem_map] at hlist
      obtain ⟨judged, hjudged, rfl⟩ := hlist
      obtain ⟨i, hi, rfl⟩ := List.getElem_of_mem hjudged
      obtain ⟨_, hat⟩ := (List.forall₂_iff_get.mp hpairs).2 i (hpairs.length_eq ▸ hi) hi
      exact (judgedAgainst_artifacts hat).1.mem_iff.mp hid
    · intro hid
      obtain ⟨judged, rest, rfl⟩ := List.exists_cons_of_ne_nil hsome
      obtain ⟨_, _, ⟨_, hat⟩, -, -⟩ := List.forall₂_cons_right_iff.mp hpairs
      exact ⟨judged.artifacts.map (·.id), by simp, (judgedAgainst_artifacts hat).1.mem_iff.mpr hid⟩
  have hrequired : (∀ id ∈ context.lane.requiredArtifacts.items, id ∉ controllerArtifactIds →
      id ∈ result.artifacts.map (·.id)) ↔ ∀ id ∈ context.lane.requiredArtifacts.items, id ∉ controllerArtifactIds →
        id ∈ candidateArtifactIds ++ nativeFileIds := by simp only [hallIds]
  constructor
  · rintro ⟨hfree, hsupplied⟩
    refine ⟨?_, hrequired.mp hsupplied⟩
    have hids : ((context.plan.cases.zipIdx.filter fun case => isCandidate case.1).map (·.1.caseId)).Nodup := by
      have hnames : (context.plan.cases.zipIdx.filter fun case => isCandidate case.1).map (·.1.caseId) =
          (context.plan.cases.filter isCandidate).map (·.caseId) := by
        conv_rhs => rw [← filter_zipIdx_fst, List.map_map]
        rfl
      rw [hnames]
      exact ((List.filter_sublist (p := isCandidate)).map _).nodup (plan_ids_nodup hplan)
    have hpart : ConflictFree (pairs.map (·.artifacts)).flatten := by
      intro a ha b hb hid
      rw [hartifacts] at hfree
      exact hfree a (List.mem_append_left _ ha) b (List.mem_append_left _ hb) hid
    have hone := one_candidate hdigests hids hpairs hpart
    have hpos := List.length_pos_iff.mpr hsome
    have hlength := hpairs.length_eq
    omega
  · rintro ⟨hone, hsupplied⟩
    refine ⟨conflictFree_of_nodup ?_, hrequired.mpr hsupplied⟩
    obtain ⟨judged, rfl⟩ := List.length_eq_one_iff.mp (hcount.symm.trans hone)
    obtain ⟨_, _, ⟨_, hat⟩, -, -⟩ := List.forall₂_cons_right_iff.mp hpairs
    rw [hartifacts, List.map_append, hwritten]
    have hperm : ((([judged].map (·.artifacts)).flatten).map (·.id)).Perm candidateArtifactIds := by
      simpa using (judgedAgainst_artifacts hat).1
    exact (hperm.append_right nativeFileIds).nodup_iff.mpr (by decide)

end BoundedTurn

/-! ## The MLX correctness lane -/

section Mlx

/-- What a caller sees of `MlxNativeCorrectnessLaneRunner.run`. -/
def runMlxLane (context : LaneContext) (floats : Floats) (world : MlxWorld) :
    Except Raised (LaneResult MlxRecord) :=
  Session.settle (Action.run (mlxRun context floats world) []).1

/-- A file with the digest of the trace that the runner wrote has its lines. -/
def TraceReadsBack (world : MlxWorld) : Prop :=
  ∀ place path size size' sha256 records, (world.atCase place).probe path = .file size sha256 →
    world.written (.ownerThreadTrace records) = .ok (size', sha256) →
      (world.atCase place).traceLines path = .ok (records.map .ok)

variable {context : LaneContext} {floats : Floats} {world : MlxWorld}

theorem runMlxCase_refuses (case : PlannedCase) (at_ : MlxCase) (progress : MlxProgress) :
    Action.Raises Refuses (runMlxCase context world case at_ progress) := by
  unfold runMlxCase
  refine Action.Raises.bind (raises_lift _) fun command => Action.Raises.bind (raises_lift _) fun outcome => ?_
  dsimp only
  split
  · exact Action.Raises.throw (messageResult_refuses context _ _ _ _ (by decide))
  · unfold runMlxCandidate
    refine Action.Raises.bind (raises_lift _) fun _ => Action.Raises.bind (raises_lift _) fun _ => ?_
    refine Action.Raises.bind (raises_request _ _) fun status => ?_
    cases status with
    | unsupported => exact Action.Raises.throw (messageResult_refuses context _ _ _ _ (by decide))
    | environmentUnavailable => exact Action.Raises.throw (messageResult_refuses context _ _ _ _ (by decide))
    | ready =>
      show Action.Raises Refuses (runReadyMlxCase world case at_ _)
      unfold runReadyMlxCase
      refine Action.Raises.bind (Action.Raises.mapM _ _ fun _ _ => raises_request _ _) fun _ => ?_
      refine Action.Raises.bind (raises_request _ _) fun _ => ?_
      exact Action.Raises.bind (raises_lift _) fun _ => Action.Raises.pure _

theorem mlxRun_refuses : Action.Raises Refuses (mlxRun context floats world) := by
  have hcases : ∀ (cases : List (PlannedCase × Nat)) progress,
      Action.Raises Refuses (runMlxCases context world cases progress) := by
    intro cases
    induction cases with
    | nil => exact fun _ => Action.Raises.pure _
    | cons case cases ih =>
      intro progress
      unfold runMlxCases
      exact Action.Raises.bind (runMlxCase_refuses _ _ _) fun next => ih next
  unfold mlxRun
  dsimp only
  split
  · unfold mlxCases
    exact Action.Raises.bind (hcases _ _) fun _ => raises_lift _
  · exact Action.Raises.throw (messageResult_refuses context _ _ _ _ (by decide))

/-- A case that was judged at its place. -/
def JudgedMlx (world : MlxWorld) (case : PlannedCase × Nat) (judged : MlxJudged) : Prop :=
  ∃ observations descriptors, judgeMlxCase world case.1 (world.atCase case.2) observations descriptors = .ok judged

/-- What the loop has collected. -/
structure MlxSoFar (world : MlxWorld) (cases : List (PlannedCase × Nat)) (before after : MlxProgress)
    (judged : List MlxJudged) : Prop where
  all : List.Forall₂ (JudgedMlx world) cases judged
  artifacts : after.candidateArtifacts = before.candidateArtifacts ++ (judged.map (·.artifacts)).flatten
  owners : after.ownerRecords = before.ownerRecords ++ (judged.map (·.ownerRecords)).flatten
  violations : after.ownerViolations = before.ownerViolations ++ judged.map (·.violations)

theorem runMlxCase_returned {case : PlannedCase} {place : Nat} {before after : MlxProgress} {s t : List Call}
    (h : Action.run (runMlxCase context world case (world.atCase place) before) s = (.ok after, t)) :
    ∃ judged, MlxSoFar world [(case, place)] before after [judged] := by
  unfold runMlxCase at h
  obtain ⟨command, -, h⟩ := Session.lift_bind h
  obtain ⟨⟨exitCode, stdout, stderr⟩, -, h⟩ := Session.lift_bind h
  dsimp only at h
  split at h
  · cases h
  · unfold runMlxCandidate at h
    obtain ⟨_, -, h⟩ := Session.lift_bind h
    obtain ⟨_, -, h⟩ := Session.lift_bind h
    obtain ⟨status, -, h⟩ := Session.request_bind h
    cases status with
    | unsupported => cases h
    | environmentUnavailable => cases h
    | ready =>
      unfold runReadyMlxCase at h
      obtain ⟨evidence, u, -, h⟩ := Action.bind_returned h
      obtain ⟨⟨observations, descriptors⟩, -, h⟩ := Session.request_bind h
      obtain ⟨judged, hjudged, h⟩ := Session.lift_bind h
      cases h
      refine ⟨judged, .cons ⟨observations, descriptors, hjudged⟩ .nil, ?_, ?_, ?_⟩
      · simp [MlxProgress.afterCase]
      · simp [MlxProgress.afterCase]
      · simp [MlxProgress.afterCase]

theorem runMlxCases_returned {cases : List (PlannedCase × Nat)} {before after : MlxProgress} {s t : List Call}
    (h : Action.run (runMlxCases context world cases before) s = (.ok after, t)) :
    ∃ judged, MlxSoFar world cases before after judged := by
  induction cases generalizing before s with
  | nil =>
    cases h
    exact ⟨[], .nil, by simp, by simp, by simp⟩
  | cons case cases ih =>
    unfold runMlxCases at h
    obtain ⟨middle, u, hcase, h⟩ := Action.bind_returned h
    obtain ⟨first, hfirst⟩ := runMlxCase_returned hcase
    obtain ⟨rest, hrest⟩ := ih h
    refine ⟨first :: rest, .cons ?_ hrest.all, ?_, ?_, ?_⟩
    · exact (List.forall₂_cons.mp hfirst.all).1
    · rw [hrest.artifacts, hfirst.artifacts]
      simp
    · rw [hrest.owners, hfirst.owners]
      simp
    · rw [hrest.violations, hfirst.violations]
      simp

/-- A case that was judged has a trace whose lines do not name their case, and records that do. -/
theorem judgedMlx_trace {case : PlannedCase × Nat} {judged : MlxJudged} (h : JudgedMlx world case judged) :
    ∃ trace ∈ judged.artifacts, trace.id = lit "owner_thread_trace" ∧
      (world.atCase case.2).probe trace.path = .file trace.size trace.sha256 ∧
      (∃ first rest, judged.ownerRecords = ownerLine case.1 first :: rest) ∧
      ∀ members rest, (world.atCase case.2).traceLines trace.path ≠ .ok (.ok (ownerLine case.1 members) :: rest) := by
  obtain ⟨observations, descriptors, hjudge⟩ := h
  unfold judgeMlxCase at hjudge
  obtain ⟨_, -, hjudge⟩ := bind_ok_iff.mp hjudge
  obtain ⟨artifacts, hverify, hjudge⟩ := bind_ok_iff.mp hjudge
  obtain ⟨trace, hnamed, hjudge⟩ := bind_ok_iff.mp hjudge
  obtain ⟨⟨violations, records⟩, htrace, hjudge⟩ := bind_ok_iff.mp hjudge
  have hfields : judged.artifacts = artifacts ∧ judged.ownerRecords = records := by
    simp only [bind_ok_iff, pure, Except.pure, Except.ok.injEq] at hjudge
    obtain ⟨_, -, _, -, _, -, rfl⟩ := hjudge
    exact ⟨rfl, rfl⟩
  unfold verifyMlxArtifacts at hverify
  obtain ⟨verified, hvalid, hverify⟩ := bind_ok_iff.mp hverify
  obtain ⟨_, -, hverify⟩ := bind_ok_iff.mp hverify
  cases hverify
  obtain ⟨hmem, hid⟩ := artifactNamed_ok hnamed
  unfold judgeTrace at htrace
  obtain ⟨lines, hlines, htrace⟩ := bind_ok_iff.mp htrace
  obtain ⟨_, -, htrace⟩ := bind_ok_iff.mp htrace
  obtain ⟨_, -, htrace⟩ := bind_ok_iff.mp htrace
  cases htrace
  unfold readTrace at hlines
  obtain ⟨raw, hraw, hlines⟩ := bind_ok_iff.mp hlines
  obtain ⟨found, hfound, hlines⟩ := bind_ok_iff.mp hlines
  obtain ⟨_, hsome, hlines⟩ := bind_ok_iff.mp hlines
  cases hlines
  have hparsed := forall₂_of_mapM hfound
  rw [hfields.1, hfields.2]
  refine ⟨trace, hmem, hid, verified_probe hvalid trace hmem, ?_, ?_⟩
  · cases lines with
    | nil => exact absurd (demand_ok hsome) (by simp)
    | cons first rest => exact ⟨first, rest.map (ownerLine case.1), rfl⟩
  · intro members rest hback
    rw [hraw] at hback
    cases hback
    rw [List.zipIdx_cons] at hparsed
    obtain ⟨parsed, _, hfirst, -, rfl⟩ := List.forall₂_cons_left_iff.mp hparsed
    unfold readTraceLine at hfirst
    simp only [ownerLine, bind, Except.bind] at hfirst
    split at hfirst
    · rename_i hsame
      have := ((sameSet_iff _ _).mp hsame (lit "case_id")).mp (by simp)
      revert this
      decide
    · cases hfirst

theorem mlxLocalArtifacts_ok {progress : MlxProgress} {written : List Artifact}
    (h : mlxLocalArtifacts world progress = .ok written) :
    ∃ own ∈ written, own.id = lit "owner_thread_trace" ∧
      world.written (.ownerThreadTrace progress.ownerRecords) = .ok (own.size, own.sha256) := by
  unfold mlxLocalArtifacts at h
  obtain ⟨_, -, h⟩ := bind_ok_iff.mp h
  obtain ⟨_, -, h⟩ := bind_ok_iff.mp h
  obtain ⟨_, -, h⟩ := bind_ok_iff.mp h
  obtain ⟨_, -, h⟩ := bind_ok_iff.mp h
  obtain ⟨own, hown, h⟩ := bind_ok_iff.mp h
  cases h
  exact ⟨own, by simp, localArtifact_ok hown⟩

theorem reduceObservations_nonempty {recipe : MetricRecipe} {values : List Json} {metric : Metric}
    (h : reduceObservations floats recipe values = .ok metric) : values ≠ [] := by
  rintro rfl
  cases h

/-- A passed run lists the owner thread trace of its first case beside its own file of that id. -/
theorem mlx_conflict {result : LaneResult MlxRecord} (hback : TraceReadsBack world)
    (h : runMlxLane context floats world = .ok result) (hpassed : result.status = .passed) :
    ¬ ConflictFree result.artifacts := by
  obtain ⟨calls, hrun⟩ := settle_passed
    (fun s stop t hstop result hresult => (mlxRun_refuses s stop t hstop result hresult).1) h hpassed
  unfold mlxRun at hrun
  dsimp only at hrun
  split at hrun
  · unfold mlxCases at hrun
    obtain ⟨progress, u, hcases, hrun⟩ := Action.bind_returned hrun
    obtain ⟨_, hfinish, hrun⟩ := Session.lift_bind (f := pure) (by rwa [bind_pure])
    cases hrun
    unfold finishMlx at hfinish
    obtain ⟨written, hwritten, hfinish⟩ := bind_ok_iff.mp hfinish
    obtain ⟨_, -, hfinish⟩ := bind_ok_iff.mp hfinish
    obtain ⟨_, hviolations, hfinish⟩ := bind_ok_iff.mp hfinish
    obtain ⟨hartifacts, -⟩ := gatedResult_passed hfinish
    obtain ⟨judged, hall⟩ := runMlxCases_returned hcases
    obtain ⟨own, hown, hownId, hownFile⟩ := mlxLocalArtifacts_ok hwritten
    have hsome : judged ≠ [] := by
      rintro rfl
      refine reduceObservations_nonempty hviolations ?_
      rw [hall.violations]
      rfl
    obtain ⟨first, rest, rfl⟩ := List.exists_cons_of_ne_nil hsome
    obtain ⟨case, cases, hjudged, -, -⟩ := List.forall₂_cons_right_iff.mp hall.all
    obtain ⟨trace, hmem, hid, hprobe, ⟨members, others, hrecords⟩, hnot⟩ := judgedMlx_trace hjudged
    intro hfree
    have hsame : trace = own := by
      refine hfree trace ?_ own ?_ (hid.trans hownId.symm)
      · rw [hartifacts, hall.artifacts]
        simp [hmem]
      · rw [hartifacts]
        exact List.mem_append_right _ hown
    subst hsame
    have hlines := hback _ _ _ _ _ _ hprobe hownFile
    rw [hall.owners, List.map_cons, List.flatten_cons, hrecords] at hlines
    exact hnot members _ hlines
  · cases hrun

end Mlx

/-! ## The three lanes -/

/-- When a passed run of a lane that has its own `run` obeys the law that the other lanes enforce. -/
theorem artifact_ids_iff (context : LaneContext) (floats : Floats) :
    (∀ world result, runSchedulerLane context floats world = .ok result → result.status = .passed →
      ∃ returned trace, List.Forall₂ (Returned world) context.plan.cases.zipIdx returned ∧
        localArtifact "trace" "scheduler-trace.jsonl" (world.written result.rawRecords) = .ok trace ∧
        (Enforced context result.artifacts ↔ OneFileEach context returned.flatten trace)) ∧
    (∀ world result, expandCasePlan context.lane context.suite = .ok context.plan →
      DigestsIdentify world → runBoundedTurnLane context floats world = .ok result → result.status = .passed →
      (Enforced context result.artifacts ↔ (context.plan.cases.filter isCandidate).length = 1 ∧
        ∀ id ∈ context.lane.requiredArtifacts.items, id ∉ controllerArtifactIds →
          id ∈ candidateArtifactIds ++ nativeFileIds)) ∧
    ∀ world result, TraceReadsBack world → runMlxLane context floats world = .ok result →
      result.status = .passed → ¬ Enforced context result.artifacts := by
  refine ⟨?_, ?_, ?_⟩
  · intro world result h hpassed
    obtain ⟨returned, trace, hreturned, htrace, hartifacts⟩ := scheduler_artifacts h hpassed
    refine ⟨returned, trace, hreturned, htrace, ?_⟩
    rw [hartifacts]
    exact enforced_iff (localArtifact_ok htrace).1
  · intro world result hplan hdigests h hpassed
    exact boundedTurn_enforced_iff hplan hdigests h hpassed
  · intro world result hback h hpassed henforced
    exact mlx_conflict hback h hpassed henforced.conflictFree

/-! ## Passed runs -/

/-- Two files under one id. -/
def twiceNamedWorld : SchedulerWorld :=
  { alphaWorld with
    atCase := fun place => { alphaWorld.atCase place with
      closed := .ok (noMembers, [sampleDescriptor,
        ⟨[(lit "id", .str (lit "a")), (lit "path", .str (lit "b.jsonl")), (lit "size", .int 3),
          (lit "sha256", .str sampleDigest)], by decide⟩])
      probe := fun _ => .file 3 sampleDigest } }

/-- A passed scheduler-policy lane lists two files under the id that it requires, and another none. -/
theorem scheduler_lane_unenforced :
    (∃ result, runSchedulerLane schedulerContext exactFloats twiceNamedWorld = .ok result ∧ result.status = .passed ∧
      ¬ ConflictFree result.artifacts) ∧
    ∃ result, runSchedulerLane schedulerContext exactFloats alphaWorld = .ok result ∧ result.status = .passed ∧
      ¬ Enforced schedulerContext result.artifacts := by
  constructor
  · obtain ⟨result, hresult⟩ := ok_of_isSome (runSchedulerLane schedulerContext exactFloats twiceNamedWorld)
      (by decide +kernel)
    have hfacts : ∀ r ∈ (runSchedulerLane schedulerContext exactFloats twiceNamedWorld).toOption, r.status = .passed ∧
        ¬ ∀ a ∈ r.artifacts, ∀ b ∈ r.artifacts, a.id = b.id → a = b := by decide +kernel
    exact ⟨result, hresult, hfacts result (by rw [hresult]; rfl)⟩
  · obtain ⟨result, hresult⟩ := ok_of_isSome (runSchedulerLane schedulerContext exactFloats alphaWorld)
      (by decide +kernel)
    have hfacts : ∀ r ∈ (runSchedulerLane schedulerContext exactFloats alphaWorld).toOption, r.status = .passed ∧
        lit "a" ∉ r.artifacts.map (·.id) := by decide +kernel
    obtain ⟨hpassed, hmissing⟩ := hfacts result (by rw [hresult]; rfl)
    exact ⟨result, hresult, hpassed, fun henforced =>
      hmissing (henforced.required (lit "a") (by decide) (by decide))⟩

def otherDigest : Str := List.replicate 64 (cp 98)

/-- The receipt has a digest of its own. -/
def digestOf (path : Str) : Str := if path = lit "turn_receipt" then otherDigest else sampleDigest

/-- One baseline and its candidate. -/
def pairLane : ExpectationLane :=
  { twoCaseLane with
    laneId := skewedLane.laneId
    matrices := ⟨[baselineMatrix (only _ (.int 1)) (only _ (.int 1)),
      candidateMatrix (only _ (.int 1)) (only _ (.int 1))], by simp, by decide⟩
    gates := only _ { zeroGate with metric := ⟨lit "ffi_output_mismatch_count", by decide⟩ } }

def pairContext : LaneContext where
  lane := pairLane
  suite := countSuite
  plan := ⟨lit "bounded-turn-and-ffi", lit "suite", plannedCases pairLane countSuite 1 pairLane.matrices.items⟩
  frozenThresholds := [(lit "ffi_output_mismatch_count", .int 0)]

def pairCase (place : Nat) : NativeCase :=
  { cleanNativeCase ((pairContext.plan.cases.map (·.caseId)).getD place []) with
    closed := .ok (noMembers, candidateArtifactIds.map fun id => descriptorOf id (digestOf id))
    probe := fun path => if place = 1 then .file 3 (digestOf path) else .missing [] }

def pairWorld : NativeWorld := { skewedWorld with atCase := pairCase }

theorem pairWorld_digests : DigestsIdentify pairWorld := by
  intro place place' path path' size size' sha256 hprobe hprobe'
  simp only [pairWorld, pairCase] at hprobe hprobe'
  split at hprobe
  · split at hprobe'
    · rename_i hplace hplace'
      subst hplace hplace'
      cases hprobe
      obtain ⟨-, hsame⟩ := Probe.file.inj hprobe'
      have hreceipt : path' = lit "turn_receipt" ↔ path = lit "turn_receipt" := by
        unfold digestOf at hsame
        split at hsame <;> split at hsame
        · simp [*]
        · exact absurd hsame (by decide)
        · exact absurd hsame (by decide)
        · simp [*]
      simp only [pairWorld, pairCase, cleanNativeCase, hreceipt]
    · cases hprobe'
  · cases hprobe

def mlxLane : ExpectationLane :=
  { twoCaseLane with
    laneId := ⟨lit "mlx-native-correctness", by decide⟩
    matrices := only _ ⟨⟨lit "prefill", by decide⟩, only _ architectureDimension⟩
    gates := only _ { zeroGate with metric := ⟨lit "output_mismatch_count", by decide⟩ } }

def mlxSuite : LaneSuite :=
  { countSuite with metrics := [⟨⟨lit "owner_thread_violation_count", by decide⟩, countSource, .sum⟩] }

def mlxContext : LaneContext where
  lane := mlxLane
  suite := mlxSuite
  plan := ⟨lit "mlx-native-correctness", lit "suite", plannedCases mlxLane mlxSuite 1 mlxLane.matrices.items⟩
  frozenThresholds := [(lit "output_mismatch_count", .int 0)]

def sampleTrace : Json := fields [("operation_id", text "o"), ("owner_thread_id", .int 1),
  ("execution_thread_id", .int 2), ("cross_thread_attempt", .bool true), ("accepted", .bool false)]

def cleanMlxWorld : MlxWorld where
  externalInputs := mlxInputs.map fun name => (name, name)
  artifactRoot := []
  benchmarkRoot := []
  numerals := ⟨fun _ => none, fun _ => .nan⟩
  atCase _ :=
    { oracle := .ok (0, [], [])
      manifest := .ok (fields [("qualification_eligible", .bool true)])
      prepared := .ok ()
      opened := .ok .ready
      stepped := fun _ => .ok noMembers
      closed := .ok (noMembers, mlxArtifactIds.map candidateDescriptor)
      probe := fun _ => .file 3 sampleDigest
      traceLines := fun _ => .ok [.ok sampleTrace]
      sha256 := fun _ => .ok sampleDigest }
  written _ := .ok (3, otherDigest)

theorem cleanMlxWorld_reads_back : TraceReadsBack cleanMlxWorld := by
  intro place path size size' sha256 records hprobe hwritten
  cases hprobe
  exact absurd (Prod.mk.inj (Except.ok.inj hwritten)).2 (by decide)

theorem passed_of_decide {ρ : Type} (run : Except Raised (LaneResult ρ))
    (hsome : run.toOption.isSome = true) (hpassed : ∀ r ∈ run.toOption, r.status = .passed) :
    ∃ result, run = .ok result ∧ result.status = .passed := by
  obtain ⟨result, hresult⟩ := ok_of_isSome run hsome
  exact ⟨result, hresult, hpassed result (by rw [hresult]; rfl)⟩

theorem artifact_ids_iff_sample :
    (∃ result, runSchedulerLane schedulerContext exactFloats alphaWorld = .ok result ∧ ∃ returned trace,
      Enforced schedulerContext result.artifacts ↔ OneFileEach schedulerContext returned trace) ∧
    (∃ result, runBoundedTurnLane pairContext exactFloats pairWorld = .ok result ∧
      (Enforced pairContext result.artifacts ↔ (pairContext.plan.cases.filter isCandidate).length = 1 ∧
        ∀ id ∈ pairContext.lane.requiredArtifacts.items, id ∉ controllerArtifactIds →
          id ∈ candidateArtifactIds ++ nativeFileIds)) ∧
    ∃ result, runMlxLane mlxContext exactFloats cleanMlxWorld = .ok result ∧ ¬ Enforced mlxContext result.artifacts := by
  refine ⟨?_, ?_, ?_⟩
  · obtain ⟨result, hresult, hpassed⟩ := passed_of_decide
      (runSchedulerLane schedulerContext exactFloats alphaWorld) (by decide +kernel) (by decide +kernel)
    obtain ⟨returned, trace, -, -, hiff⟩ := (artifact_ids_iff schedulerContext exactFloats).1 _ _ hresult hpassed
    exact ⟨result, hresult, _, _, hiff⟩
  · obtain ⟨result, hresult, hpassed⟩ := passed_of_decide
      (runBoundedTurnLane pairContext exactFloats pairWorld) (by decide +kernel) (by decide +kernel)
    exact ⟨result, hresult, (artifact_ids_iff pairContext exactFloats).2.1 _ _ (expandCasePlan_ok pairLane countSuite)
      pairWorld_digests hresult hpassed⟩
  · obtain ⟨result, hresult, hpassed⟩ := passed_of_decide
      (runMlxLane mlxContext exactFloats cleanMlxWorld) (by decide +kernel) (by decide +kernel)
    exact ⟨result, hresult, (artifact_ids_iff mlxContext exactFloats).2.2 _ _ cleanMlxWorld_reads_back hresult hpassed⟩

end TurnVector.Lanes
