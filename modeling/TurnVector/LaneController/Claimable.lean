import TurnVector.LaneController.Taint

/-! # A claimable run

The taint of a run is absorbing, and a run that may be claimed resolved nothing but production subjects.
-/

namespace TurnVector.LaneController

open Python Json Effects

/-! ## Taint states -/

/-- Tainted with IDs or clean without; the IDs are known, sorted and not repeated. -/
structure TaintState.Consistent (state : TaintState) : Prop where
  tainted_iff : state.runFixtureTaint = .fixtureTainted ↔ state.fixtureIds ≠ []
  sorted : state.fixtureIds.Pairwise (· < ·)
  known : ∀ fixtureId ∈ state.fixtureIds, fixtureId ∈ knownFixtureIds
  backed : state.fixtureIds = CrossEngine.sortedTexts state.fixtureIdSet

theorem consistent_initial : TaintState.initial.Consistent where
  tainted_iff := by simp [TaintState.initial]
  sorted := .nil
  known := by simp [TaintState.initial]
  backed := rfl

theorem TaintState.Consistent.mem_set {state : TaintState} (h : state.Consistent) (fixtureId : Str) :
    fixtureId ∈ state.fixtureIdSet ↔ fixtureId ∈ state.fixtureIds := by
  rw [h.backed]
  exact (List.perm_insertionSort _ _).mem_iff.symm

theorem mem_tainted {state : TaintState} (h : state.Consistent) (fixtureId id : Str) :
    id ∈ (state.tainted fixtureId).fixtureIds ↔ id = fixtureId ∨ id ∈ state.fixtureIds := by
  have hperm : id ∈ (state.tainted fixtureId).fixtureIds ↔ id ∈ (state.tainted fixtureId).fixtureIdSet :=
    (List.perm_insertionSort _ _).mem_iff
  rw [hperm]
  unfold TaintState.tainted
  dsimp only
  by_cases hin : occurs fixtureId state.fixtureIdSet = true
  · rw [if_pos hin, h.mem_set]
    rw [occurs_iff, h.mem_set] at hin
    refine ⟨.inr, ?_⟩
    rintro (rfl | hid)
    · exact hin
    · exact hid
  · rw [if_neg hin, List.mem_cons, h.mem_set]

theorem nodup_of_sorted (ids : List Str) (h : ids.Pairwise (· < ·)) : ids.Nodup := h.imp fun hlt => ne_of_lt hlt

theorem consistent_tainted {state : TaintState} (h : state.Consistent) (fixtureId : Str)
    (hknown : fixtureId ∈ knownFixtureIds) : (state.tainted fixtureId).Consistent := by
  have hset : state.fixtureIdSet.Nodup := by
    have hids := nodup_of_sorted _ h.sorted
    rw [h.backed] at hids
    exact (List.perm_insertionSort _ _).nodup_iff.mp hids
  have hnext : (state.tainted fixtureId).fixtureIdSet.Nodup := by
    unfold TaintState.tainted
    dsimp only
    split
    · exact hset
    · rename_i hnew
      rw [occurs_iff] at hnew
      exact List.nodup_cons.mpr ⟨hnew, hset⟩
  have hmem := mem_tainted h fixtureId
  refine ⟨?_, ?_, ?_, rfl⟩
  · exact iff_of_true rfl (List.ne_nil_of_mem ((hmem fixtureId).mpr (.inl rfl)))
  · have hle : (state.tainted fixtureId).fixtureIds.Pairwise (· ≤ ·) := List.pairwise_insertionSort _ _
    have hnodup : (state.tainted fixtureId).fixtureIds.Nodup := (List.perm_insertionSort _ _).nodup_iff.mpr hnext
    exact hle.imp₂ (fun _ _ hab hne => lt_of_le_of_ne hab hne) hnodup
  · intro id hid
    rcases (hmem id).mp hid with rfl | hid
    · exact hknown
    · exact h.known id hid

/-! ## What every step keeps -/

/-- Once tainted, a run stays tainted. -/
def Absorbing (earlier later : TaintState) : Prop :=
  earlier.runFixtureTaint = .fixtureTainted → later.runFixtureTaint = .fixtureTainted

structure Kept (s : RunState) : Prop where
  consistent : ∀ state ∈ s.taints, state.Consistent
  absorbing : s.taints.Pairwise Absorbing
  last : s.taints.getLast? = some s.taint
  clean : s.taint.runFixtureTaint = .clean → ∀ r ∈ s.resolutions, ∀ id, r.outcome ≠ .ok (.benchmarkFixture id)

theorem Kept.taint_consistent {s : RunState} (h : Kept s) : s.taint.Consistent :=
  h.consistent _ (List.mem_of_getLast? h.last)

theorem kept_begin : Kept .begin where
  consistent := by
    intro state hstate
    rw [List.mem_singleton.mp hstate]
    exact consistent_initial
  absorbing := List.pairwise_singleton _ _
  last := rfl
  clean := by simp [RunState.begin]

theorem kept_reads {s : RunState} (h : Kept s) (resolution : Resolution)
    (hknown : ∀ id, resolution.outcome = .ok (.benchmarkFixture id) → id ∈ knownFixtureIds) :
    Kept (s.reads resolution) := by
  unfold RunState.reads
  split
  · rename_i fixtureId hfixture
    have hnext := consistent_tainted h.taint_consistent fixtureId (hknown fixtureId hfixture)
    refine ⟨?_, ?_, by simp [RunState.withTaint], fun hclean => ?_⟩
    · intro state hstate
      rcases List.mem_append.mp hstate with hstate | hstate
      · exact h.consistent state hstate
      · rw [List.mem_singleton.mp hstate]
        exact hnext
    · refine List.pairwise_append.mpr ⟨h.absorbing, List.pairwise_singleton _ _, ?_⟩
      intro earlier _ later hlater
      rw [List.mem_singleton.mp hlater]
      exact fun _ => rfl
    · cases hclean
  · rename_i hother
    refine ⟨h.consistent, h.absorbing, h.last, fun hclean r hr id => ?_⟩
    rcases List.mem_append.mp hr with hr | hr
    · exact h.clean hclean r hr id
    · rw [List.mem_singleton.mp hr]
      exact hother id

theorem kept_next (seam : Seam) (stage : Stage) (laneId : Str) (s : RunState) (h : Kept s) :
    Kept (s.reads (nextResolution seam stage laneId s)) :=
  kept_reads h _ fun _ hid => (resolveSelection_fixture _ _ _ hid).2

theorem always_kept_revalidate (self : Controller) :
    Action.Always (fun s t => Kept s → Kept t) (revalidateFrozenProvenance self.seam) := by
  intro s h
  have hall : Action.Always (fun s t => Kept s → Kept t) (revalidateAll self.seam s.frozenProvenance) := by
    refine Action.Always.forM (fun _ => id) (fun _ _ _ hst htu hs => htu (hst hs)) _ _ fun lane _ => ?_
    exact always_bindAndRevalidate self (fun stage laneId s => kept_next self.seam stage laneId s) _ _ _
  have hend := hall s h
  exact ⟨hend.consistent, hend.absorbing, hend.last, hend.clean⟩

theorem kept_body (self : Controller) (laneIds : List Str) :
    Action.Always (fun s t => Kept s → Kept t) (self.body laneIds) := by
  have refl : ∀ s : RunState, Kept s → Kept s := fun _ => id
  have trans : ∀ s t u : RunState, (Kept s → Kept t) → (Kept t → Kept u) → Kept s → Kept u :=
    fun _ _ _ hst htu hs => htu (hst hs)
  have hread := fun stage laneId s => kept_next self.seam stage laneId s
  have hlift : ∀ {α : Type} (e : Except Raised α),
      Action.Always (fun s t => Kept s → Kept t) (Action.lift e : Run α) := fun e => Action.Always.lift refl e
  unfold Controller.body
  refine Action.Always.bind trans (hlift _) fun _ => Action.Always.bind trans ?_ fun resolved =>
    Action.Always.bind trans ?_ fun results => Action.Always.bind trans (Action.Always.get refl) fun state =>
    Action.Always.bind trans (hlift _) fun _ => Action.Always.bind trans (hlift _) fun _ =>
    Action.Always.bind trans (hlift _) fun status => Action.Always.pure refl _
  · exact always_preRun self refl trans hread (fun s frozen h => ⟨h.consistent, h.absorbing, h.last, h.clean⟩) laneIds
  · exact always_lanes self refl trans hread (fun s lanes h => ⟨h.consistent, h.absorbing, h.last, h.clean⟩)
      (always_kept_revalidate self) resolved _

/-! ## What a lane that did not fail has read -/

/-- No read failed. -/
def Sound (s : RunState) : Prop := ∀ r ∈ s.resolutions, ∃ provenance, r.outcome = .ok provenance

theorem sound_reads {s : RunState} (h : Sound s) (resolution : Resolution) (provenance : ExecutionProvenance)
    (hok : resolution.outcome = .ok provenance) : Sound (s.reads resolution) := by
  intro r hr
  rw [reads_resolutions] at hr
  rcases List.mem_append.mp hr with hr | hr
  · exact h r hr
  · rw [List.mem_singleton.mp hr]
    exact ⟨provenance, hok⟩

theorem sound_bindAndRevalidate (seam : Seam) (stage : Stage) (laneId : Str) (frozen : ExecutionProvenance)
    (s t : RunState) (h : Action.run (bindAndRevalidateProvenance seam stage laneId frozen) s = (.ok (), t))
    (hs : Sound s) : Sound t := by
  have hrun := run_bindAndRevalidate seam stage laneId s frozen
  rw [h] at hrun
  have ht : t = s.reads (nextResolution seam stage laneId s) := hrun.1
  rw [ht]
  exact sound_reads hs _ frozen (hrun.2.mp rfl)

theorem sound_revalidateAll (seam : Seam) (frozen : Frozen) (s t : RunState)
    (h : Action.run (revalidateAll seam frozen) s = (.ok (), t)) (hs : Sound s) : Sound t := by
  unfold revalidateAll at h
  induction frozen generalizing s with
  | nil =>
    cases h
    exact hs
  | cons lane frozen ih =>
    obtain ⟨_, u, hlane, hrest⟩ := Action.bind_returned h
    exact ih u hrest (sound_bindAndRevalidate seam _ _ _ s u hlane hs)

theorem sound_revalidate (seam : Seam) (s t : RunState)
    (h : Action.run (revalidateFrozenProvenance seam) s = (.ok (), t)) (hs : Sound s) : Sound t := by
  obtain ⟨before, u, hget, h⟩ := Action.bind_returned h
  cases hget
  obtain ⟨v, hall, hnote⟩ := Action.onExit_returned h
  cases hnote
  exact sound_revalidateAll seam _ s v hall hs

theorem sound_resolveAll (seam : Seam) (laneIds : List Str) (start resolved : Frozen) (s t : RunState)
    (h : Action.run (laneIds.foldlM (resolveOne seam) start) s = (.ok resolved, t)) (hs : Sound s) : Sound t := by
  induction laneIds generalizing start s with
  | nil =>
    cases h
    exact hs
  | cons laneId laneIds ih =>
    rw [List.foldlM_cons] at h
    obtain ⟨next, u, hone, hrest⟩ := Action.bind_returned h
    rw [run_resolveOne, Prod.mk.injEq] at hone
    obtain ⟨hout, rfl⟩ := hone
    cases hnext : nextOutcome seam laneId s with
    | error e =>
      rw [hnext] at hout
      cases hout
    | ok provenance => exact ih next _ hrest (sound_reads hs _ provenance hnext)

theorem sound_preRun (seam : Seam) (laneIds : List Str) (resolved : Frozen) (s t : RunState)
    (h : Action.run (resolveAndApplyPreRunProvenance seam laneIds) s = (.ok resolved, t)) (hs : Sound s) : Sound t := by
  obtain ⟨next, u, hall, hrest⟩ := Action.bind_returned h
  have hu := sound_resolveAll seam laneIds [] next s u hall hs
  obtain ⟨_, v, hset, hend⟩ := Action.bind_returned hrest
  cases hset
  cases hend
  exact hu

section Lane

variable (self : Controller) (laneId : Str) (provenance : ExecutionProvenance) (world : LaneWorld)

theorem sound_bindAndDispatch (s t : RunState) (result : LaneResult)
    (h : Action.run (self.bindAndDispatch laneId provenance world) s = (.ok result, t)) (hs : Sound s) : Sound t := by
  obtain ⟨_, _, h⟩ := Action.lift_bind_returned h
  obtain ⟨_, v, hbind, h⟩ := Action.bind_returned h
  have hv := sound_bindAndRevalidate self.seam _ _ _ _ v hbind hs
  obtain ⟨w, hdispatch, hrevalidate⟩ := Action.onExit_returned h
  refine sound_revalidate self.seam w t hrevalidate ?_
  obtain ⟨_, x, hstart, hrunner⟩ := Action.bind_returned hdispatch
  obtain ⟨-, rfl⟩ := Action.lift_returned hrunner
  rw [Action.run_modify, Prod.mk.injEq] at hstart
  rw [← hstart.2]
  split <;> exact hv

theorem sound_serve (hello : SubjectHello) (s t : RunState) (result : LaneResult)
    (h : Action.run (self.serve laneId provenance world hello) s = (.ok result, t)) (hs : Sound s) : Sound t := by
  unfold Controller.serve at h
  dsimp only at h
  split at h
  · cases h
    exact hs
  split at h
  · cases h
    exact hs
  obtain ⟨_, _, h⟩ := Action.lift_bind_returned h
  obtain ⟨_, _, h⟩ := Action.lift_bind_returned h
  exact sound_bindAndDispatch self laneId provenance world _ t result h hs

theorem sound_converse (s t : RunState) (result : LaneResult)
    (h : Action.run (self.converse laneId provenance world) s = (.ok result, t)) (hs : Sound s) : Sound t := by
  obtain ⟨hello, _, h⟩ := Action.lift_bind_returned h
  obtain ⟨_, _, h⟩ := Action.lift_bind_returned h
  obtain ⟨served, w, hserve, h⟩ := Action.bind_returned h
  have hw := sound_serve self laneId provenance world hello _ w served hserve hs
  obtain ⟨_, _, h⟩ := Action.lift_bind_returned h
  cases h
  exact hw

/-- The statuses that keep a run from passing. -/
def failingStatuses : List Str :=
  [lit "infrastructure_failed", lit "contract_failed", lit "gate_failed", lit "environment_unavailable",
    lit "unsupported"]

theorem earlyResult_failing (result : LaneResult) (h : self.earlyResult laneId = some result) :
    result.status ∈ failingStatuses := by
  unfold Controller.earlyResult at h
  dsimp only at h
  repeat' split at h
  all_goals cases h
  all_goals simp [failingStatuses]

theorem failure_failing (error : Raised) (s t : RunState) (result : LaneResult)
    (h : Action.run (Controller.failure world error) s = (.ok result, t)) : result.status ∈ failingStatuses := by
  unfold Controller.failure at h
  split at h
  · obtain ⟨_, u, _, h⟩ := Action.bind_returned h
    cases h
    simp [failingStatuses]
  · obtain ⟨_, u, _, h⟩ := Action.bind_returned h
    cases h
    simp [failingStatuses]
  · obtain ⟨_, u, _, h⟩ := Action.bind_returned h
    cases h
    simp [failingStatuses]
  · cases h

/-- A lane whose result does not fail has no read that failed. -/
theorem sound_runOneLane (s t : RunState) (result : LaneResult)
    (h : Action.run (self.runOneLane laneId provenance world) s = (.ok result, t)) (hs : Sound s)
    (hstatus : result.status ∉ failingStatuses) : Sound t := by
  unfold Controller.runOneLane at h
  split at h
  · rename_i early hearly
    cases h
    exact absurd (earlyResult_failing self laneId _ hearly) hstatus
  obtain ⟨_, _, h⟩ := Action.lift_bind_returned h
  rcases Action.rescue_returned h with h | ⟨error, v, -, hfailure⟩
  · obtain ⟨_, _, h⟩ := Action.lift_bind_returned h
    obtain ⟨w, hconverse, hclosed⟩ := Action.onExit_returned h
    obtain ⟨-, rfl⟩ := Action.lift_returned hclosed
    exact sound_converse self laneId provenance world _ _ result hconverse hs
  · exact absurd (failure_failing world error v t result hfailure) hstatus

end Lane

theorem sound_lanes (self : Controller) (resolved : Frozen) (lanes : List (Str × Nat)) (results : List LaneResult)
    (s t : RunState) (h : Action.run (lanes.mapM (self.runLane resolved)) s = (.ok results, t)) (hs : Sound s)
    (hstatus : ∀ result ∈ results, result.status ∉ failingStatuses) : Sound t := by
  induction lanes generalizing s results with
  | nil =>
    cases h
    exact hs
  | cons lane lanes ih =>
    rw [List.mapM_cons] at h
    obtain ⟨result, u, hlane, h⟩ := Action.bind_returned h
    obtain ⟨rest, v, hrest, h⟩ := Action.bind_returned h
    cases h
    obtain ⟨hresult, hall⟩ := List.forall_mem_cons.mp hstatus
    refine ih rest u hrest ?_ hall
    obtain ⟨_, _, hlane⟩ := Action.lift_bind_returned hlane
    obtain ⟨one, x, hone, hlane⟩ := Action.bind_returned hlane
    obtain ⟨_, _, hend⟩ := Action.lift_bind_returned hlane
    cases hend
    exact sound_runOneLane self lane.1 _ _ _ _ result hone hs hresult

/-- A run that passed has no failing lane. -/
theorem statusForResults_passed (results : List LaneResult)
    (h : Controller.statusForResults results = lit "passed") :
    ∀ result ∈ results, result.status ∉ failingStatuses := by
  intro result hresult hfailing
  unfold Controller.statusForResults at h
  dsimp only at h
  cases hfind : failingStatuses.find? fun status => occurs status (results.map LaneResult.status) with
  | none =>
    have hnone := List.find?_eq_none.mp hfind _ hfailing
    rw [occurs_iff] at hnone
    exact hnone (List.mem_map_of_mem hresult)
  | some status =>
    have hmem := List.mem_of_find?_eq_some hfind
    have hstatus : status = lit "passed" := by
      unfold failingStatuses at hfind
      rw [hfind] at h
      exact h
    rw [hstatus] at hmem
    exact absurd hmem (by decide)

/-- A full status of "passed" needs a clean run and lanes that passed. -/
theorem resolveFull_passed (taint : TaintState) (fixtureSubject allRequiredSelected evidenceValid sourceMatches : Bool)
    (aggregateStatus : Str)
    (h : resolveFullImplementationStatus taint fixtureSubject allRequiredSelected aggregateStatus evidenceValid
      sourceMatches = .ok (lit "passed")) :
    taint.runFixtureTaint = .clean ∧ aggregateStatus = lit "passed" ∧ evidenceValid = true := by
  unfold resolveFullImplementationStatus at h
  obtain ⟨-, h⟩ := then_ok_iff.mp h
  dsimp only at h
  have h1 : lit "not_claimable_fixture" ≠ lit "passed" := by decide
  have h2 : lit "not_evaluated" ≠ lit "passed" := by decide
  have h3 : lit "failed" ≠ lit "passed" := by decide
  split at h
  · exact absurd (Except.ok.inj h) h1
  split at h
  · exact absurd (Except.ok.inj h) h2
  split at h
  · rename_i hpassed
    simp only [Bool.and_eq_true, Bool.not_eq_true', decide_eq_false_iff_not, decide_eq_true_eq] at hpassed
    refine ⟨?_, hpassed.1.1.2, hpassed.1.2⟩
    cases htaint : taint.runFixtureTaint with
    | clean => rfl
    | fixtureTainted => exact absurd htaint hpassed.1.1.1.1.1
  · exact absurd (Except.ok.inj h) h3

/-- Every taint state of a run is consistent and the taint is absorbing; a run that may be claimed resolved the
production subject at every read. -/
theorem run_claimable (self : Controller) (laneIds : List Str) :
    (∀ state ∈ (self.run laneIds).2.taints, state.Consistent) ∧
      (self.run laneIds).2.taints.Pairwise Absorbing ∧
      (self.run laneIds).2.taints.getLast? = some (self.run laneIds).2.taint ∧
      ∀ report, (self.run laneIds).1 = .ok report → report.fullImplementationStatus = lit "passed" →
        ∀ resolution ∈ (self.run laneIds).2.resolutions, resolution.outcome = .ok .productionSubject := by
  have hkept : Kept (self.run laneIds).2 := kept_body self laneIds .begin kept_begin
  refine ⟨hkept.consistent, hkept.absorbing, hkept.last, fun report hreport hpassed => ?_⟩
  have hrun : Action.run (self.body laneIds) .begin = (.ok report, (self.run laneIds).2) := Prod.ext hreport rfl
  generalize (self.run laneIds).2 = final at hrun hkept
  obtain ⟨_, _, h⟩ := Action.lift_bind_returned hrun
  obtain ⟨resolved, t, hpre, h⟩ := Action.bind_returned h
  obtain ⟨results, u, hlanes, h⟩ := Action.bind_returned h
  obtain ⟨state, v, hget, h⟩ := Action.bind_returned h
  cases hget
  obtain ⟨_, _, h⟩ := Action.lift_bind_returned h
  obtain ⟨_, _, h⟩ := Action.lift_bind_returned h
  obtain ⟨status, hfull, h⟩ := Action.lift_bind_returned h
  cases h
  rw [show status = lit "passed" from hpassed] at hfull
  obtain ⟨hclean, haggregate, hevidence⟩ := resolveFull_passed _ _ _ _ _ _ hfull
  have hstatus : Controller.statusForResults results = lit "passed" := by
    unfold Controller.aggregateStatus at haggregate
    rwa [if_pos hevidence] at haggregate
  have hsound : Sound final := sound_lanes self resolved _ results t final hlanes
    (sound_preRun self.seam laneIds resolved _ t hpre (by simp [Sound, RunState.begin]))
    (statusForResults_passed results hstatus)
  intro resolution hresolution
  obtain ⟨provenance, hprovenance⟩ := hsound resolution hresolution
  cases provenance with
  | productionSubject => exact hprovenance
  | benchmarkFixture id => exact absurd hprovenance (hkept.clean hclean resolution hresolution id)

/-! ## Two lanes that pass -/

def sampleLanes : List Str := [lit "core-event-replay", lit "scheduler-policy"]

def samplePlan : LanePlan where
  thresholdFailures := []
  adapterCategory := some (lit "engine")
  suiteCategory := lit "engine"
  suiteProtocol := lit "v1"
  directDataPlane := false
  externalInputs := []

def sampleWorld : LaneWorld where
  folder := .ok ()
  rawFolder := .ok ()
  opened := .ok ()
  hello := .ok ⟨lit "implementation", sampleLanes.map fun laneId => (laneId, lit "v1"), false⟩
  binaries := .ok ()
  certified := .ok ()
  starts := true
  runner := .ok ⟨lit "passed", []⟩
  finished := .ok ()
  closed := .ok ()
  evidence := .ok ()
  saved := .ok ()

def sampleController (seam : Seam) : Controller where
  certificationContractError := none
  certificationRecord := true
  subjectKind := some (lit "implementation")
  externalFixtures := none
  plan _ := samplePlan
  requiredLanes := sampleLanes
  seam := seam
  world _ := sampleWorld
  prepared := .ok ()
  manifested := .ok ()
  evidenceValid := true
  sourceMatches := true

theorem run_claimable_sample : ((sampleController fun _ _ => .null).run sampleLanes).2.resolutions.length = 8 ∧
    ∀ resolution ∈ ((sampleController fun _ _ => .null).run sampleLanes).2.resolutions,
      resolution.outcome = .ok .productionSubject := by
  obtain ⟨report, hreport⟩ := ok_of_isSome ((sampleController fun _ _ => .null).run sampleLanes).1 (by decide +kernel)
  have hpassed : ∀ r ∈ ((sampleController fun _ _ => .null).run sampleLanes).1.toOption,
      r.fullImplementationStatus = lit "passed" := by decide +kernel
  rw [hreport] at hpassed
  exact ⟨by decide +kernel, (run_claimable (sampleController fun _ _ => .null) sampleLanes).2.2.2 report hreport
    (hpassed report rfl)⟩

end TurnVector.LaneController
