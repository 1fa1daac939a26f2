import TurnVector.LaneController.Claimable

/-! # Late fixture selections

Which fixtures a revalidation records: it walks the frozen lanes in order and stops at the first one that disagrees.
-/

namespace TurnVector.LaneController

open Python Json Effects

/-! ## What a revalidation reads -/

/-- The lane at that place of the frozen order is read as it was frozen. -/
def Agrees (seam : Seam) (start : Nat) (frozen : Frozen) (place : Nat) : Prop :=
  ∀ lane, frozen[place]? = some lane → resolveSelection lane.1 (seam (start + place) lane.1) = .ok lane.2

/-- A lane that the walk reaches names the fixture. -/
def Reached (seam : Seam) (start : Nat) (frozen : Frozen) (fixtureId : Str) : Prop :=
  ∃ place lane, frozen[place]? = some lane ∧ seam (start + place) lane.1 = .str fixtureId ∧
    fixtureId ∈ knownFixtureIds ∧ ∀ earlier < place, Agrees seam start frozen earlier

theorem reached_cons (seam : Seam) (start : Nat) (lane : Str × ExecutionProvenance) (frozen : Frozen) (fixtureId : Str) :
    Reached seam start (lane :: frozen) fixtureId ↔
      (seam start lane.1 = .str fixtureId ∧ fixtureId ∈ knownFixtureIds) ∨
        (resolveSelection lane.1 (seam start lane.1) = .ok lane.2 ∧ Reached seam (start + 1) frozen fixtureId) := by
  have hshift : ∀ place, start + 1 + place = start + (place + 1) := by omega
  constructor
  · rintro ⟨place, other, hplace, hseam, hknown, hearlier⟩
    cases place with
    | zero =>
      cases hplace
      exact .inl ⟨hseam, hknown⟩
    | succ place =>
      refine .inr ⟨hearlier 0 (by omega) lane rfl, place, other, hplace, by rwa [hshift], hknown, ?_⟩
      intro earlier hlt found hfound
      rw [hshift]
      exact hearlier (earlier + 1) (by omega) found hfound
  · rintro (⟨hseam, hknown⟩ | ⟨hagrees, place, other, hplace, hseam, hknown, hearlier⟩)
    · exact ⟨0, lane, rfl, hseam, hknown, by omega⟩
    · refine ⟨place + 1, other, hplace, by rwa [hshift] at hseam, hknown, ?_⟩
      intro earlier hlt found hfound
      cases earlier with
      | zero =>
        cases hfound
        exact hagrees
      | succ earlier =>
        have := hearlier earlier (by omega) found hfound
        rwa [hshift] at this

/-- What a read leaves of the fixture IDs. -/
theorem mem_reads (seam : Seam) (stage : Stage) (laneId : Str) (s : RunState) (hs : s.taint.Consistent) (id : Str) :
    id ∈ (s.reads (nextResolution seam stage laneId s)).taint.fixtureIds ↔
      (seam s.resolutions.length laneId = .str id ∧ id ∈ knownFixtureIds) ∨ id ∈ s.taint.fixtureIds := by
  unfold RunState.reads
  split
  · rename_i fixtureId hfixture
    have hnamed := resolveSelection_fixture _ _ _ hfixture
    rw [RunState.withTaint_taint, mem_tainted hs]
    refine or_congr_left ⟨?_, fun h => ?_⟩
    · rintro rfl
      exact hnamed
    · rw [hnamed.1] at h
      exact (Json.str.inj h.1).symm
  · rename_i hother
    refine ⟨.inr, ?_⟩
    rintro (⟨hseam, hknown⟩ | hid)
    · refine absurd ?_ (hother id)
      show resolveSelection laneId (seam s.resolutions.length laneId) = _
      rw [hseam]
      exact resolveSelection_known laneId id hknown
    · exact hid

theorem consistent_reads (seam : Seam) (stage : Stage) (laneId : Str) (s : RunState) (hs : s.taint.Consistent) :
    (s.reads (nextResolution seam stage laneId s)).taint.Consistent := by
  unfold RunState.reads
  split
  · rename_i fixtureId hfixture
    exact consistent_tainted hs fixtureId (resolveSelection_fixture _ _ _ hfixture).2
  · exact hs

/-- The walk records what was recorded before it and what it reaches. -/
theorem mem_revalidateAll (seam : Seam) (frozen : Frozen) (s : RunState) (hs : s.taint.Consistent) (id : Str) :
    id ∈ (Action.run (revalidateAll seam frozen) s).2.taint.fixtureIds ↔
      id ∈ s.taint.fixtureIds ∨ Reached seam s.resolutions.length frozen id := by
  unfold revalidateAll
  induction frozen generalizing s with
  | nil => simp [Reached]
  | cons lane frozen ih =>
    have hlane := run_bindAndRevalidate seam .revalidation lane.1 s lane.2
    have hreads := mem_reads seam .revalidation lane.1 s hs id
    rw [reached_cons]
    show id ∈ (Action.run (bindAndRevalidateProvenance seam .revalidation lane.1 lane.2 >>= fun _ => _) s).2.taint.fixtureIds ↔ _
    rw [Action.run_bind]
    rcases hrun : Action.run (bindAndRevalidateProvenance seam .revalidation lane.1 lane.2) s with ⟨e | u, t⟩
    · rw [hrun] at hlane
      obtain ⟨rfl, hout⟩ := hlane
      have hdisagrees : ¬ resolveSelection lane.1 (seam s.resolutions.length lane.1) = .ok lane.2 := by
        intro hagrees
        cases hout.mpr hagrees
      simp only [hreads, hdisagrees, false_and, or_false]
      exact or_comm
    · rw [hrun] at hlane
      obtain ⟨rfl, hout⟩ := hlane
      have hagrees : resolveSelection lane.1 (seam s.resolutions.length lane.1) = .ok lane.2 := hout.mp rfl
      have hrest := ih _ (consistent_reads seam .revalidation lane.1 s hs)
      rw [reads_resolutions, List.length_append, List.length_singleton] at hrest
      refine hrest.trans ?_
      rw [hreads]
      simp only [hagrees, true_and]
      tauto

/-! ## The revalidations of a run -/

/-- Whenever the revalidation reads the seam, the seam names the fixture for the lane. -/
def Revalidation.Names (r : Revalidation) (seam : Seam) (laneId fixtureId : Str) : Prop :=
  ∀ read, r.start ≤ read → read < r.stop → seam read laneId = .str fixtureId

/-- Every known fixture that the seam names for a selected lane taints the run and is among its fixtures. -/
def Revalidation.Taints (r : Revalidation) (seam : Seam) (laneIds : List Str) : Prop :=
  ∀ laneId ∈ laneIds, ∀ fixtureId ∈ knownFixtureIds, r.Names seam laneId fixtureId →
    r.after.runFixtureTaint = .fixtureTainted ∧ fixtureId ∈ r.after.fixtureIds

/-- Every known fixture that the seam names for a selected lane was recorded before, or is named by a lane behind lanes
that are all read as they were frozen. -/
def Revalidation.Reaches (r : Revalidation) (seam : Seam) (laneIds : List Str) : Prop :=
  ∀ laneId ∈ laneIds, ∀ fixtureId ∈ knownFixtureIds, r.Names seam laneId fixtureId →
    fixtureId ∈ r.before.fixtureIds ∨ Reached seam r.start r.frozen fixtureId

/-- The revalidation walked the selected lanes and recorded what it reached. -/
structure Revalidation.Exact (r : Revalidation) (seam : Seam) (laneIds : List Str) : Prop where
  consistent : r.after.Consistent
  lanes : ∀ laneId, laneId ∈ r.frozen.map Prod.fst ↔ laneId ∈ laneIds
  recorded : ∀ id, id ∈ r.after.fixtureIds ↔ id ∈ r.before.fixtureIds ∨ Reached seam r.start r.frozen id

theorem Revalidation.Exact.taints_iff {r : Revalidation} {seam : Seam} {laneIds : List Str}
    (h : r.Exact seam laneIds) : r.Taints seam laneIds ↔ r.Reaches seam laneIds := by
  refine forall₂_congr fun laneId _ => forall₂_congr fun fixtureId _ => imp_congr_right fun _ => ?_
  rw [← h.recorded, h.consistent.tainted_iff]
  exact ⟨fun hid => hid.2, fun hid => ⟨List.ne_nil_of_mem hid, hid⟩⟩

structure Recorded (seam : Seam) (laneIds : List Str) (s : RunState) : Prop where
  consistent : s.taint.Consistent
  lanes : ∀ laneId, laneId ∈ s.frozenProvenance.map Prod.fst ↔ laneId ∈ laneIds
  exact : ∀ r ∈ s.revalidations, r.Exact seam laneIds

section Run

variable (self : Controller) (laneIds : List Str)

theorem recorded_next (stage : Stage) (laneId : Str) (s : RunState) (h : Recorded self.seam laneIds s) :
    Recorded self.seam laneIds (s.reads (nextResolution self.seam stage laneId s)) where
  consistent := consistent_reads self.seam stage laneId s h.consistent
  lanes := by
    rw [reads_frozen]
    exact h.lanes
  exact := by
    rw [reads_revalidations]
    exact h.exact

theorem always_recorded_revalidate :
    Action.Always (fun s t => Recorded self.seam laneIds s → Recorded self.seam laneIds t)
      (revalidateFrozenProvenance self.seam) := by
  intro s h
  have hall : Action.Always (fun s t => Recorded self.seam laneIds s → Recorded self.seam laneIds t)
      (revalidateAll self.seam s.frozenProvenance) := by
    refine Action.Always.forM (fun _ => id) (fun _ _ _ hst htu hs => htu (hst hs)) _ _ fun lane _ => ?_
    exact always_bindAndRevalidate self (fun stage laneId s => recorded_next self laneIds stage laneId s) _ _ _
  have hend := hall s h
  have hmem := mem_revalidateAll self.seam s.frozenProvenance s h.consistent
  refine ⟨hend.consistent, hend.lanes, fun r hr => ?_⟩
  rcases List.mem_append.mp hr with hr | hr
  · exact hend.exact r hr
  · rw [List.mem_singleton.mp hr]
    exact ⟨hend.consistent, h.lanes, hmem⟩

/-- The snapshot before the lanes holds the selected lanes. -/
theorem keys_resolveAll (start resolved : Frozen) (s t : RunState)
    (h : Action.run (laneIds.foldlM (resolveOne self.seam) start) s = (.ok resolved, t)) (laneId : Str) :
    laneId ∈ resolved.map Prod.fst ↔ laneId ∈ start.map Prod.fst ∨ laneId ∈ laneIds := by
  induction laneIds generalizing start s with
  | nil =>
    cases h
    simp
  | cons first laneIds ih =>
    rw [List.foldlM_cons] at h
    obtain ⟨next, u, hone, hrest⟩ := Action.bind_returned h
    rw [run_resolveOne, Prod.mk.injEq] at hone
    rw [ih next u hrest]
    cases hnext : nextOutcome self.seam first s with
    | error e => simp [hnext, Except.map] at hone
    | ok provenance =>
      have hset : setItem start first provenance = next := by
        have := hone.1
        rw [hnext] at this
        exact Except.ok.inj this
      rw [← hset, setItem_keys]
      split
      · simp only [List.mem_cons]
        grind
      · simp only [List.mem_append, List.mem_cons]
        grind

theorem recorded_lanes (resolved : Frozen) (lanes : List (Str × Nat)) :
    Action.Always (fun s t => Recorded self.seam laneIds s → Recorded self.seam laneIds t)
      (lanes.mapM (self.runLane resolved)) :=
  always_lanes self (fun _ => id) (fun _ _ _ hst htu hs => htu (hst hs))
    (fun stage laneId s => recorded_next self laneIds stage laneId s)
    (fun _ _ h => ⟨h.consistent, h.lanes, h.exact⟩) (always_recorded_revalidate self laneIds) resolved lanes

/-- Nothing is revalidated before the lanes. -/
structure Fresh (s : RunState) : Prop where
  consistent : s.taint.Consistent
  revalidations : s.revalidations = []

theorem fresh_preRun :
    Action.Always (fun s t => Fresh s → Fresh t) (resolveAndApplyPreRunProvenance self.seam laneIds) := by
  refine always_preRun self (fun _ => id) (fun _ _ _ hst htu hs => htu (hst hs)) (fun stage laneId s h => ?_)
    (fun s frozen h => ⟨h.consistent, h.revalidations⟩) laneIds
  refine ⟨consistent_reads self.seam stage laneId s h.consistent, ?_⟩
  rw [reads_revalidations]
  exact h.revalidations

theorem recorded_preRun (s t : RunState) (resolved : Frozen)
    (h : Action.run (resolveAndApplyPreRunProvenance self.seam laneIds) s = (.ok resolved, t)) (hs : Fresh s) :
    Recorded self.seam laneIds t := by
  have hfresh := fresh_preRun self laneIds s hs
  rw [h] at hfresh
  obtain ⟨next, u, hall, hrest⟩ := Action.bind_returned h
  have hkeys := keys_resolveAll self laneIds [] next s u hall
  cases hrest
  refine ⟨hfresh.consistent, fun laneId => (hkeys laneId).trans (by simp), ?_⟩
  rw [hfresh.revalidations]
  simp

theorem exact_run : ∀ r ∈ (self.run laneIds).2.revalidations, r.Exact self.seam laneIds := by
  have hbegin : Fresh .begin := ⟨consistent_initial, rfl⟩
  have refl : ∀ s : RunState, Recorded self.seam laneIds s → Recorded self.seam laneIds s := fun _ => id
  have trans : ∀ s t u : RunState, (Recorded self.seam laneIds s → Recorded self.seam laneIds t) →
      (Recorded self.seam laneIds t → Recorded self.seam laneIds u) → Recorded self.seam laneIds s →
      Recorded self.seam laneIds u := fun _ _ _ hst htu hs => htu (hst hs)
  have hlift : ∀ {α : Type} (e : Except Raised α),
      Action.Always (fun s t => Recorded self.seam laneIds s → Recorded self.seam laneIds t) (Action.lift e : Run α) :=
    fun e => Action.Always.lift refl e
  unfold Controller.run Controller.body
  rw [Action.run_bind]
  rcases hprepared : self.prepared with e | done
  · simp [hbegin.revalidations]
  simp only [Action.run_lift]
  rw [Action.run_bind]
  rcases hpre : Action.run (resolveAndApplyPreRunProvenance self.seam laneIds) .begin with ⟨e | resolved, t⟩
  · have hfresh : Fresh t := by simpa [hpre] using fresh_preRun self laneIds .begin hbegin
    simp [hfresh.revalidations]
  · have hrecorded := recorded_preRun self laneIds .begin t resolved hpre hbegin
    refine Recorded.exact (Action.Always.bind trans (recorded_lanes self laneIds resolved _) (fun results => ?_) t
      hrecorded)
    exact Action.Always.bind trans (Action.Always.get refl) fun state => Action.Always.bind trans (hlift _) fun _ =>
      Action.Always.bind trans (hlift _) fun _ => Action.Always.bind trans (hlift _) fun _ => Action.Always.pure refl _

/-- At every revalidation of a run, the fixtures that the seam names for selected lanes taint the run exactly when each
of them was recorded before or is reached before the walk fails closed. -/
theorem revalidation_taints_iff : ∀ r ∈ (self.run laneIds).2.revalidations,
    r.Taints self.seam laneIds ↔ r.Reaches self.seam laneIds :=
  fun r hr => (exact_run self laneIds r hr).taints_iff

end Run

/-! ## Two lanes that change together -/

/-- Once the first runner is done, the seam names an unknown fixture for its lane and the known one for the other. -/
def lateSeam : Seam := fun read laneId =>
  if read < 3 then .null
  else if laneId = lit "core-event-replay" then .str (lit "no-such-fixture")
  else .str ownerLifecycleFixtureId

theorem revalidation_taints_sample : ∃ r ∈ ((sampleController lateSeam).run sampleLanes).2.revalidations,
    (r.Taints lateSeam sampleLanes ↔ r.Reaches lateSeam sampleLanes) := by
  have hone : ((sampleController lateSeam).run sampleLanes).2.revalidations.length = 1 := by decide +kernel
  obtain ⟨r, hr⟩ := List.exists_mem_of_length_pos (show 0 < _ by rw [hone]; decide)
  exact ⟨r, hr, revalidation_taints_iff (sampleController lateSeam) sampleLanes r hr⟩

/-- The walk stops at the first lane, so the fixture of the second one is not recorded. -/
theorem revalidation_missed : ∃ r ∈ ((sampleController lateSeam).run sampleLanes).2.revalidations,
    ¬ r.Taints lateSeam sampleLanes := by
  have hfirst : ((sampleController lateSeam).run sampleLanes).2.revalidations.head?.map
      (fun r => (r.start, r.after.runFixtureTaint)) = some (3, .clean) := by decide +kernel
  obtain ⟨r, hr, hfields⟩ := Option.map_eq_some_iff.mp hfirst
  obtain ⟨hstart, hclean⟩ := Prod.mk.inj hfields
  refine ⟨r, List.mem_of_head? hr, fun htaints => ?_⟩
  have hnames : r.Names lateSeam (lit "scheduler-policy") ownerLifecycleFixtureId := by
    intro read hread _
    rw [hstart] at hread
    unfold lateSeam
    rw [if_neg (by omega), if_neg (by decide)]
  obtain ⟨htainted, -⟩ := htaints _ (by decide) _ (by decide) hnames
  rw [hclean] at htainted
  cases htainted

end TurnVector.LaneController
