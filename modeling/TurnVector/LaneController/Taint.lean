import TurnVector.LaneController.Run

/-! # The taint of a run

What a run leaves behind: its taint states in order, and the selections that it resolved. A run that may be claimed
resolved nothing but production subjects.
-/

namespace TurnVector.LaneController

open Python Json Effects

/-! ## One read -/

theorem validateFixtureId_ok (fixtureId : Option Str) (result : Str) (h : validateFixtureId fixtureId = .ok result) :
    fixtureId = some result := by
  unfold validateFixtureId contractError at h
  split at h
  · cases h
  · split at h
    · cases h
    split at h
    · cases h
    split at h
    · cases h
    cases h
    rfl

theorem validate_production : validateExecutionProvenance productionSubjectValue none = .ok .productionSubject := by
  decide

theorem validate_benchmark (fixtureId : Str) (provenance : ExecutionProvenance)
    (h : validateExecutionProvenance benchmarkFixtureValue (some fixtureId) = .ok provenance) :
    provenance = .benchmarkFixture fixtureId := by
  unfold validateExecutionProvenance at h
  rw [if_pos rfl] at h
  cases hid : validateFixtureId (some fixtureId) with
  | error e =>
    rw [hid] at h
    cases h
  | ok result =>
    rw [hid] at h
    cases h
    rw [Option.some.inj (validateFixtureId_ok _ _ hid)]

theorem mem_knownFixtureIds (fixtureId : Str) :
    fixtureId ∈ knownFixtureIds ↔ fixtureId ∈ fixtureDescriptors.map Prod.fst :=
  (List.perm_insertionSort _ _).mem_iff

/-- A fixture that was resolved is the one that the seam names, and a known one. -/
theorem resolveSelection_fixture (laneId fixtureId : Str) (selection : Json)
    (h : resolveSelection laneId selection = .ok (.benchmarkFixture fixtureId)) :
    selection = .str fixtureId ∧ fixtureId ∈ knownFixtureIds := by
  unfold resolveSelection at h
  split at h
  · rw [validate_production] at h
    cases h
  · rename_i named
    split at h
    · cases h
    rename_i descriptor hlookup
    split at h
    · cases h
    have hsame := validate_benchmark _ _ h
    cases hsame
    refine ⟨rfl, (mem_knownFixtureIds _).mpr ?_⟩
    obtain ⟨l₁, l₂, htable, -⟩ := List.lookup_eq_some_iff.mp hlookup
    rw [htable]
    simp
  · cases h

/-- Every registered fixture can be selected. -/
theorem resolveSelection_known (laneId fixtureId : Str) (h : fixtureId ∈ knownFixtureIds) :
    resolveSelection laneId (.str fixtureId) = .ok (.benchmarkFixture fixtureId) := by
  rw [mem_knownFixtureIds] at h
  simp only [fixtureDescriptors, List.map_cons, List.map_nil, List.mem_singleton] at h
  subst h
  have hlookup : fixtureDescriptors.lookup ownerLifecycleFixtureId =
      some ⟨ownerLifecycleFixtureId, benchmarkFixtureValue⟩ := by decide
  have hvalid : validateExecutionProvenance benchmarkFixtureValue (some ownerLifecycleFixtureId) =
      .ok (.benchmarkFixture ownerLifecycleFixtureId) := by decide
  unfold resolveSelection
  simp only [hlookup, hvalid, ne_eq, not_true_eq_false, or_self, if_false]

/-! ## What a read does to the state -/

/-- The state after a read and the transition that it fires. -/
def RunState.reads (state : RunState) (resolution : Resolution) : RunState :=
  match resolution.outcome with
  | .ok (.benchmarkFixture fixtureId) =>
    { state with resolutions := state.resolutions ++ [resolution] }.withTaint fixtureId
  | _ => { state with resolutions := state.resolutions ++ [resolution] }

@[simp] theorem RunState.withTaint_taint (state : RunState) (fixtureId : Str) :
    (state.withTaint fixtureId).taint = state.taint.tainted fixtureId := rfl

section Reads

variable (seam : Seam) (stage : Stage) (laneId : Str) (s : RunState)

/-- What the next read of the seam resolves to. -/
def nextOutcome : Except Raised ExecutionProvenance := resolveSelection laneId (seam s.resolutions.length laneId)

def nextResolution : Resolution := ⟨stage, laneId, nextOutcome seam laneId s⟩

theorem run_resolve : Action.run (resolveLaneProvenance seam stage laneId) s =
    (nextOutcome seam laneId s, { s with resolutions := s.resolutions ++ [nextResolution seam stage laneId s] }) := rfl

theorem run_apply (provenance : ExecutionProvenance) (t : RunState)
    (h : ∀ fixtureId, provenance = .benchmarkFixture fixtureId → fixtureId ∈ knownFixtureIds) :
    Action.run (applyFixtureProvenance provenance) t = (.ok (), match provenance with
      | .productionSubject => t
      | .benchmarkFixture fixtureId => t.withTaint fixtureId) := by
  unfold applyFixtureProvenance
  cases provenance with
  | productionSubject => rfl
  | benchmarkFixture fixtureId =>
    have hknown := (occurs_iff _ _).mpr (h fixtureId rfl)
    simp only [hknown, Bool.not_true, Bool.false_eq_true, if_false]
    rfl

/-- A resolution before the run, with the transition that it fires. -/
theorem run_resolveOne (resolved : Frozen) : Action.run (resolveOne seam resolved laneId) s =
    ((nextOutcome seam laneId s).map (setItem resolved laneId), s.reads (nextResolution seam .preRun laneId s)) := by
  unfold resolveOne
  rw [Action.run_bind, run_resolve]
  cases hout : nextOutcome seam laneId s with
  | error e => simp [RunState.reads, nextResolution, hout, Except.map]
  | ok provenance =>
    have hknown : ∀ fixtureId, provenance = .benchmarkFixture fixtureId → fixtureId ∈ knownFixtureIds := by
      rintro fixtureId rfl
      exact (resolveSelection_fixture _ _ _ hout).2
    simp only [Action.run_bind, run_apply _ _ hknown]
    cases provenance with
    | productionSubject => simp [RunState.reads, nextResolution, hout, Except.map]
    | benchmarkFixture fixtureId => simp [RunState.reads, nextResolution, hout, Except.map]

/-- A binding or a revalidation of one lane: it returns when the read is what was frozen. -/
theorem run_bindAndRevalidate (frozen : ExecutionProvenance) :
    (Action.run (bindAndRevalidateProvenance seam stage laneId frozen) s).2 =
        s.reads (nextResolution seam stage laneId s) ∧
      ((Action.run (bindAndRevalidateProvenance seam stage laneId frozen) s).1 = .ok () ↔
        nextOutcome seam laneId s = .ok frozen) := by
  unfold bindAndRevalidateProvenance
  rw [Action.run_bind, run_resolve]
  cases hout : nextOutcome seam laneId s with
  | error e => simp [RunState.reads, nextResolution, hout]
  | ok provenance =>
    have hknown : ∀ fixtureId, provenance = .benchmarkFixture fixtureId → fixtureId ∈ knownFixtureIds := by
      rintro fixtureId rfl
      exact (resolveSelection_fixture _ _ _ hout).2
    by_cases hsame : provenance = frozen
    · simp only [if_pos hsame, run_apply _ _ hknown]
      subst hsame
      cases provenance with
      | productionSubject => simp [RunState.reads, nextResolution, hout]
      | benchmarkFixture fixtureId => simp [RunState.reads, nextResolution, hout]
    · simp only [if_neg hsame]
      cases provenance with
      | productionSubject => simp [RunState.reads, nextResolution, hout, contractError, hsame]
      | benchmarkFixture fixtureId =>
        simp only [Action.run_bind, run_apply _ _ hknown]
        simp [RunState.reads, nextResolution, hout, contractError, hsame]

theorem reads_resolutions (resolution : Resolution) :
    (s.reads resolution).resolutions = s.resolutions ++ [resolution] := by
  unfold RunState.reads
  split <;> rfl

theorem reads_frozen (resolution : Resolution) : (s.reads resolution).frozenProvenance = s.frozenProvenance := by
  unfold RunState.reads
  split <;> rfl

theorem reads_revalidations (resolution : Resolution) : (s.reads resolution).revalidations = s.revalidations := by
  unfold RunState.reads
  split <;> rfl

end Reads

/-! ## A rule for whole runs -/

section Rule

variable (self : Controller) {R : RunState → RunState → Prop} (refl : ∀ s, R s s)
  (trans : ∀ s t u, R s t → R t u → R s u)
  (hread : ∀ stage laneId s, R s (s.reads (nextResolution self.seam stage laneId s)))

include hread in
theorem always_bindAndRevalidate (stage : Stage) (laneId : Str) (frozen : ExecutionProvenance) :
    Action.Always R (bindAndRevalidateProvenance self.seam stage laneId frozen) := by
  intro s
  rw [(run_bindAndRevalidate self.seam stage laneId s frozen).1]
  exact hread stage laneId s

include refl trans hread

theorem always_preRun (hfreeze : ∀ s frozen, R s { s with frozenProvenance := frozen }) (laneIds : List Str) :
    Action.Always R (resolveAndApplyPreRunProvenance self.seam laneIds) := by
  unfold resolveAndApplyPreRunProvenance
  refine Action.Always.bind trans (Action.Always.foldlM refl trans _ _ ?_ _) fun resolved => ?_
  · intro resolved laneId _ s
    rw [run_resolveOne]
    exact hread .preRun laneId s
  · exact Action.Always.bind trans (fun s => hfreeze s resolved) fun _ => Action.Always.pure refl resolved

variable (hstart : ∀ s lanes, R s { s with startedLanes := lanes })
  (hrevalidate : Action.Always R (revalidateFrozenProvenance self.seam))

include hstart hrevalidate

theorem always_converse (laneId : Str) (provenance : ExecutionProvenance) (world : LaneWorld) :
    Action.Always R (self.converse laneId provenance world) := by
  have hlift : ∀ {α : Type} (e : Except Raised α), Action.Always R (Action.lift e : Run α) :=
    fun e => Action.Always.lift refl e
  have hdispatch : Action.Always R (Controller.dispatch laneId world) := by
    refine Action.Always.bind trans (fun s => ?_) fun _ => hlift _
    rw [Action.run_modify]
    split
    · exact hstart s _
    · exact refl s
  have hbind : Action.Always R (self.bindAndDispatch laneId provenance world) := by
    refine Action.Always.bind trans (hlift _) fun _ => Action.Always.bind trans ?_ fun _ => ?_
    · exact always_bindAndRevalidate self hread .binding laneId provenance
    · exact Action.Always.onExit trans hdispatch hrevalidate
  unfold Controller.converse
  refine Action.Always.bind trans (hlift _) fun hello => Action.Always.bind trans (hlift _) fun _ =>
    Action.Always.bind trans ?_ fun result => Action.Always.bind trans (hlift _) fun _ => Action.Always.pure refl result
  unfold Controller.serve
  dsimp only
  split
  · exact Action.Always.pure refl _
  split
  · exact Action.Always.pure refl _
  · exact Action.Always.bind trans (hlift _) fun _ => Action.Always.bind trans (hlift _) fun _ => hbind

theorem always_runOneLane (laneId : Str) (provenance : ExecutionProvenance) (world : LaneWorld) :
    Action.Always R (self.runOneLane laneId provenance world) := by
  have hlift : ∀ {α : Type} (e : Except Raised α), Action.Always R (Action.lift e : Run α) :=
    fun e => Action.Always.lift refl e
  have hconverse := always_converse self refl trans hread hstart hrevalidate laneId provenance world
  unfold Controller.runOneLane
  split
  · exact Action.Always.pure refl _
  refine Action.Always.bind trans (hlift _) fun _ => Action.Always.rescue trans ?_ fun error => ?_
  · exact Action.Always.bind trans (hlift _) fun _ => Action.Always.onExit trans hconverse (hlift _)
  · unfold Controller.failure
    split
    · exact Action.Always.bind trans (hlift _) fun _ => Action.Always.pure refl _
    · exact Action.Always.bind trans (hlift _) fun _ => Action.Always.pure refl _
    · exact Action.Always.bind trans (hlift _) fun _ => Action.Always.pure refl _
    · exact Action.Always.throw refl _

/-- What every read, every started case and every revalidation keeps, the lanes of a run keep. -/
theorem always_lanes (resolved : Frozen) (lanes : List (Str × Nat)) :
    Action.Always R (lanes.mapM (self.runLane resolved)) := by
  refine Action.Always.mapM refl trans _ _ fun lane _ => ?_
  unfold Controller.runLane
  refine Action.Always.bind trans (Action.Always.lift refl _) fun _ => Action.Always.bind trans ?_ fun result =>
    Action.Always.bind trans (Action.Always.lift refl _) fun _ => Action.Always.pure refl result
  exact always_runOneLane self refl trans hread hstart hrevalidate lane.1 _ _

end Rule

end TurnVector.LaneController
