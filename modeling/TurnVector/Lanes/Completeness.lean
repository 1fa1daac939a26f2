import TurnVector.Lanes.EvidenceRunner
import TurnVector.Lanes.Expanders

/-! # What a passed evidence lane has done -/

namespace TurnVector.Lanes

open Python Json Effects
open LaneController (Raised contractError)

/-! ## Sessions that returned -/

namespace Session

variable {ρ α β : Type}

theorem lift_bind {e : Except Raised α} {f : α → Session ρ β} {s u : List Call} {b : β}
    (h : Action.run (Session.lift e >>= f) s = (.ok b, u)) : ∃ a, e = .ok a ∧ Action.run (f a) s = (.ok b, u) := by
  obtain ⟨a, ha, h⟩ := Action.lift_bind_returned h
  refine ⟨a, ?_, h⟩
  cases e with
  | error e => cases ha
  | ok a =>
    cases ha
    rfl

theorem request_returned {call : Call} {answer : Except Raised α} {s t : List Call} {a : α}
    (h : Action.run (request (ρ := ρ) call answer) s = (.ok a, t)) : answer = .ok a ∧ t = s ++ [call] := by
  unfold request at h
  obtain ⟨_, u, hmodify, h⟩ := Action.bind_returned h
  rw [Action.run_modify] at hmodify
  cases hmodify
  obtain ⟨ha, rfl⟩ := Action.lift_returned h
  cases answer with
  | error e => cases ha
  | ok a' =>
    cases ha
    exact ⟨rfl, rfl⟩

theorem request_bind {call : Call} {answer : Except Raised α} {f : α → Session ρ β} {s u : List Call} {b : β}
    (h : Action.run (request call answer >>= f) s = (.ok b, u)) :
    ∃ a, answer = .ok a ∧ Action.run (f a) (s ++ [call]) = (.ok b, u) := by
  obtain ⟨a, t, hrequest, h⟩ := Action.bind_returned h
  obtain ⟨ha, rfl⟩ := request_returned hrequest
  exact ⟨a, ha, h⟩

theorem mapM_requests {γ : Type} (call : γ → Call) (answer : γ → Except Raised α) (xs : List γ) (ys : List α)
    (s t : List Call) (h : Action.run (xs.mapM fun x => request (ρ := ρ) (call x) (answer x)) s = (.ok ys, t)) :
    List.Forall₂ (fun x y => answer x = .ok y) xs ys ∧ t = s ++ xs.map call := by
  induction xs generalizing s ys with
  | nil =>
    cases h
    exact ⟨.nil, by simp⟩
  | cons x xs ih =>
    rw [List.mapM_cons] at h
    obtain ⟨y, hy, h⟩ := request_bind h
    obtain ⟨rest, u, hrest, h⟩ := Action.bind_returned h
    cases h
    obtain ⟨hall, rfl⟩ := ih rest _ hrest
    exact ⟨.cons hy hall, by simp⟩

end Session

/-! ## Refused cases -/

/-- The only early result is one without metrics and gates that did not pass. -/
def Refuses {ρ : Type} (stop : Stop ρ) : Prop :=
  ∀ result, stop = .returned result → result.status ≠ .passed ∧ result.metrics = [] ∧ result.gates = []

theorem refuses_raised {ρ : Type} (error : Raised) : Refuses (.raised error : Stop ρ) := by
  intro result h
  cases h

theorem raises_lift {ρ α : Type} (e : Except Raised α) : Action.Raises Refuses (Session.lift e : Session ρ α) := by
  apply Action.Raises.lift
  intro stop h
  cases e with
  | error error =>
    cases h
    exact refuses_raised error
  | ok a => cases h

theorem raises_request {ρ α : Type} (call : Call) (answer : Except Raised α) :
    Action.Raises Refuses (Session.request call answer : Session ρ α) :=
  Action.Raises.bind (Action.Raises.modify _) fun _ => raises_lift answer

section Refusal

variable (context : LaneContext)

theorem stepsAndClose_refuses (world : CaseWorld) (case : PlannedCase) :
    Action.Raises Refuses (stepsAndClose world case) := by
  unfold stepsAndClose stepOnce
  refine Action.Raises.bind (Action.Raises.mapM _ _ fun _ _ => raises_request _ _) fun _ => ?_
  exact Action.Raises.bind (raises_request _ _) fun _ => Action.Raises.pure _

theorem endCollection_none {world : CaseWorld} {case : PlannedCase} {caseError : Option Raised}
    {collection : Option (Mapping Json)} (h : endCollection world case caseError = .ok collection) :
    world.collectionEnded = .ok collection := by
  unfold endCollection at h
  split at h
  · rename_i hended
    cases h
    exact hended
  · split at h
    · cases h
    · obtain ⟨_, -, h⟩ := bind_ok_iff.mp h
      split at h
      · cases h
      · cases h

theorem settleCase_ok {α : Type} {world : CaseWorld} {case : PlannedCase} {out : Except (Stop RawRecord) α}
    {done : α × Option (Mapping Json)} (h : settleCase world case out = .ok done) :
    out = .ok done.1 ∧ world.collectionEnded = .ok done.2 := by
  unfold settleCase at h
  split at h
  · rename_i a
    rcases hend : endCollection world case none with error | collection
    · rw [hend] at h
      cases h
    · rw [hend] at h
      cases h
      exact ⟨rfl, endCollection_none hend⟩
  · cases h
  · cases h

theorem settleCase_refuses {α : Type} {world : CaseWorld} {case : PlannedCase} {out : Except (Stop RawRecord) α}
    (hout : ∀ stop, out = .error stop → Refuses stop) (stop : Stop RawRecord)
    (h : settleCase world case out = .error stop) : Refuses stop := by
  unfold settleCase at h
  split at h
  · rcases hend : endCollection world case none with error | collection
    · rw [hend] at h
      cases h
      exact refuses_raised _
    · rw [hend] at h
      cases h
  · cases h
    exact refuses_raised _
  · cases h
    exact hout _ rfl

theorem collectCase_refuses (world : CaseWorld) (case : PlannedCase) :
    Action.Raises Refuses (collectCase world case) := by
  intro s stop t h
  have hout : settleCase world case (Action.run (stepsAndClose world case) s).1 = .error stop → Refuses stop :=
    settleCase_refuses (fun stop h => stepsAndClose_refuses world case s stop _ (Prod.ext h rfl)) stop
  exact hout (Prod.mk.inj h).1

theorem refuses_refused (progress : Progress) (case : PlannedCase) (status : LaneStatus) (name : String)
    (h : status ≠ .passed) : Refuses (.returned (refusedResult context progress case status name)) := by
  intro result hresult
  cases hresult
  exact ⟨h, rfl, rfl⟩

theorem runCase_refuses (world : CaseWorld) (case : PlannedCase) (progress : Progress) :
    Action.Raises Refuses (runCase context world case progress) := by
  unfold runCase
  refine Action.Raises.bind (raises_lift _) fun _ => Action.Raises.bind (raises_request _ _) fun status => ?_
  have hready : Action.Raises Refuses (runReadyCase context world case progress) := by
    unfold runReadyCase
    refine Action.Raises.bind (raises_lift _) fun _ => Action.Raises.bind (collectCase_refuses world case) fun _ => ?_
    refine Action.Raises.bind (raises_lift _) fun _ => Action.Raises.bind (raises_lift _) fun _ => ?_
    refine Action.Raises.bind (raises_lift _) fun _ => Action.Raises.bind (raises_lift _) fun _ => ?_
    exact Action.Raises.pure _
  cases status with
  | ready => exact hready
  | unsupported => exact Action.Raises.throw (refuses_refused context _ case _ _ (by decide))
  | environmentUnavailable => exact Action.Raises.throw (refuses_refused context _ case _ _ (by decide))

theorem runCases_refuses (world : World) (cases : List (PlannedCase × Nat)) (progress : Progress) :
    Action.Raises Refuses (runCases context world cases progress) := by
  induction cases generalizing progress with
  | nil => exact Action.Raises.pure _
  | cons case cases ih =>
    unfold runCases
    exact Action.Raises.bind (runCase_refuses context _ _ _) fun next => ih next

theorem evidenceRun_refuses (floats : Floats) (world : World) :
    Action.Raises Refuses (evidenceRun context floats world) := by
  unfold evidenceRun
  refine Action.Raises.bind (runCases_refuses context world _ _) fun _ => ?_
  refine Action.Raises.bind (raises_lift _) fun _ => Action.Raises.bind (raises_lift _) fun _ => ?_
  refine Action.Raises.bind (raises_lift _) fun _ => Action.Raises.bind (raises_lift _) fun _ => ?_
  exact Action.Raises.bind (raises_lift _) fun _ => Action.Raises.pure _

end Refusal

/-! ## One case -/

def callsOf (case : PlannedCase) : List Call :=
  .opened case.caseId :: (case.operations.zipIdx 1).map (fun operation => .stepped case.caseId operation.2 operation.1) ++
    [.closed case.caseId]

/-- The answers around a case that was analyzed to the end. -/
structure Analyzed (context : LaneContext) (world : CaseWorld) (case : PlannedCase) (reduced : Mapping Json)
    (descriptors : List (Mapping Json)) : Prop where
  opened : world.opened = .ok .ready
  begun : world.collectionBegun = .ok ()
  answers : ∃ evidence observations system collection,
    List.Forall₂ (fun operation answer => world.stepped operation.2 = .ok answer) (case.operations.zipIdx 1) evidence ∧
      world.closed = .ok (observations, descriptors) ∧ world.collectionEnded = .ok system ∧
      chooseCollection context.lane.laneId.val world.stepCollection system = .ok collection ∧
      world.analyzed evidence observations collection = .ok reduced
  sources : sameSet (reduced.val.map Prod.fst) (context.suite.metrics.map (·.source.val)) = true

theorem stepsAndClose_returned {world : CaseWorld} {case : PlannedCase} {s t : List Call}
    {evidence : List (Mapping Json)} {observations : Mapping Json} {descriptors : List (Mapping Json)}
    (h : Action.run (stepsAndClose world case) s = (.ok (evidence, observations, descriptors), t)) :
    List.Forall₂ (fun operation answer => world.stepped operation.2 = .ok answer) (case.operations.zipIdx 1) evidence ∧
      world.closed = .ok (observations, descriptors) ∧
      t = s ++ (case.operations.zipIdx 1).map (fun operation => .stepped case.caseId operation.2 operation.1) ++
        [.closed case.caseId] := by
  unfold stepsAndClose at h
  obtain ⟨found, u, hsteps, h⟩ := Action.bind_returned h
  obtain ⟨⟨closedObservations, closedArtifacts⟩, hclosed, h⟩ := Session.request_bind h
  cases h
  unfold stepOnce at hsteps
  obtain ⟨hall, rfl⟩ := Session.mapM_requests _ _ _ _ _ _ hsteps
  exact ⟨hall, hclosed, rfl⟩

theorem collectCase_returned {world : CaseWorld} {case : PlannedCase} {s t : List Call}
    {done : (List (Mapping Json) × Mapping Json × List (Mapping Json)) × Option (Mapping Json)}
    (h : Action.run (collectCase world case) s = (.ok done, t)) :
    Action.run (stepsAndClose world case) s = (.ok done.1, t) ∧ world.collectionEnded = .ok done.2 := by
  have hpair : (settleCase world case (Action.run (stepsAndClose world case) s).1,
      (Action.run (stepsAndClose world case) s).2) = (.ok done, t) := h
  obtain ⟨hsettle, hcalls⟩ := Prod.mk.inj hpair
  obtain ⟨hout, hended⟩ := settleCase_ok hsettle
  exact ⟨Prod.ext hout hcalls, hended⟩

theorem validateObservations_ok {suite : LaneSuite} {case : PlannedCase} {reduced : Mapping Json}
    (h : validateObservations suite case reduced = .ok ()) :
    sameSet (reduced.val.map Prod.fst) (suite.metrics.map (·.source.val)) = true := by
  unfold validateObservations at h
  dsimp only at h
  split at h
  · assumption
  · cases h

/-- A case that the loop went on from. -/
structure CaseRun (context : LaneContext) (world : CaseWorld) (case : PlannedCase) (before after : Progress)
    (reduced : Mapping Json) (descriptors : List (Mapping Json)) : Prop where
  analyzed : Analyzed context world case reduced descriptors
  observations : after.observations =
    reduced.val.foldl (fun observations p => appendTo observations p.1 p.2) before.observations
  artifacts : descriptors.foldlM (mergeArtifact " was reused with different evidence" world.probe) before.artifacts =
    .ok after.artifacts
  executed : after.executed = before.executed + 1

theorem runCase_returned {context : LaneContext} {world : CaseWorld} {case : PlannedCase} {before after : Progress}
    {s t : List Call} (h : Action.run (runCase context world case before) s = (.ok after, t)) :
    (∃ reduced descriptors, CaseRun context world case before after reduced descriptors) ∧ t = s ++ callsOf case := by
  unfold runCase at h
  obtain ⟨_, -, h⟩ := Session.lift_bind h
  obtain ⟨status, hopened, h⟩ := Session.request_bind h
  cases status with
  | unsupported => cases h
  | environmentUnavailable => cases h
  | ready =>
    unfold runReadyCase at h
    obtain ⟨_, hbegun, h⟩ := Session.lift_bind h
    obtain ⟨⟨⟨evidence, observations, descriptors⟩, system⟩, u, hcollect, h⟩ := Action.bind_returned h
    obtain ⟨collection, hcollection, h⟩ := Session.lift_bind h
    obtain ⟨reduced, hreduced, h⟩ := Session.lift_bind h
    obtain ⟨_, hvalid, h⟩ := Session.lift_bind h
    obtain ⟨artifacts, hartifacts, h⟩ := Session.lift_bind h
    cases h
    obtain ⟨hrun, hended⟩ := collectCase_returned hcollect
    obtain ⟨hsteps, hclosed, rfl⟩ := stepsAndClose_returned hrun
    refine ⟨⟨reduced, descriptors, ⟨⟨hopened, hbegun, ?_, validateObservations_ok hvalid⟩, rfl, hartifacts, rfl⟩⟩, ?_⟩
    · exact ⟨evidence, observations, system, collection, hsteps, hclosed, hended, hcollection, hreduced⟩
    · simp [callsOf]

/-! ## All cases -/

/-- The loop over a list of cases, with what each of them gave. -/
inductive CasesRun (context : LaneContext) (world : World) : List (PlannedCase × Nat) → Progress → Progress →
    List (Mapping Json) → List (List (Mapping Json)) → Prop where
  | done (progress : Progress) : CasesRun context world [] progress progress [] []
  | next {case : PlannedCase} {place : Nat} {cases : List (PlannedCase × Nat)} {before middle after : Progress}
      {reduced : Mapping Json} {descriptors : List (Mapping Json)} {rest : List (Mapping Json)}
      {others : List (List (Mapping Json))}
      (first : CaseRun context (world.atCase place) case before middle reduced descriptors)
      (run : CasesRun context world cases middle after rest others) :
      CasesRun context world ((case, place) :: cases) before after (reduced :: rest) (descriptors :: others)

theorem runCases_returned {context : LaneContext} {world : World} {cases : List (PlannedCase × Nat)}
    {before after : Progress} {s t : List Call}
    (h : Action.run (runCases context world cases before) s = (.ok after, t)) :
    (∃ reduced descriptors, CasesRun context world cases before after reduced descriptors) ∧
      t = s ++ cases.flatMap fun case => callsOf case.1 := by
  induction cases generalizing before s with
  | nil =>
    cases h
    exact ⟨⟨[], [], .done _⟩, by simp⟩
  | cons case cases ih =>
    unfold runCases at h
    obtain ⟨middle, u, hcase, h⟩ := Action.bind_returned h
    obtain ⟨⟨reduced, descriptors, hrun⟩, rfl⟩ := runCase_returned hcase
    obtain ⟨⟨rest, others, hrest⟩, rfl⟩ := ih h
    refine ⟨⟨reduced :: rest, descriptors :: others, .next hrun hrest⟩, ?_⟩
    rw [List.flatMap_cons, List.append_assoc]

/-! ## Observations -/

theorem lookup_appendTo (observations : List (Str × List Json)) (source key : Str) (value : Json) :
    (appendTo observations source value).lookup key =
      if key = source then (observations.lookup key).map (· ++ [value]) else observations.lookup key := by
  induction observations with
  | nil => simp [appendTo]
  | cons entry observations ih =>
    unfold appendTo at ih ⊢
    rw [List.map_cons, lookup_pair, lookup_pair, ih]
    by_cases hsource : entry.1 = source
    · rw [if_pos hsource]
      by_cases hkey : key = entry.1
      · rw [if_pos hkey, if_pos (hkey.trans hsource), if_pos hkey]
        rfl
      · rw [if_neg hkey, if_neg hkey]
    · rw [if_neg hsource]
      by_cases hkey : key = entry.1
      · rw [if_pos hkey, if_neg (hkey ▸ hsource), if_pos hkey]
      · rw [if_neg hkey, if_neg hkey]

/-- A dict adds one observation to the list of each of its keys. -/
theorem lookup_appended (members : List (Str × Json)) (hkeys : (members.map Prod.fst).Nodup)
    (observations : List (Str × List Json)) (key : Str) :
    (members.foldl (fun observations p => appendTo observations p.1 p.2) observations).lookup key =
      match members.lookup key with
      | some value => (observations.lookup key).map (· ++ [value])
      | none => observations.lookup key := by
  induction members generalizing observations with
  | nil => rfl
  | cons p members ih =>
    rw [List.map_cons, List.nodup_cons] at hkeys
    rw [List.foldl_cons, ih hkeys.2, lookup_pair, lookup_appendTo]
    by_cases hkey : key = p.1
    · have hnone : members.lookup key = none := by
        rw [List.lookup_eq_none_iff]
        intro q hq
        rw [bne_iff_ne, hkey]
        intro he
        exact hkeys.1 (he ▸ List.mem_map_of_mem hq)
      rw [hnone, if_pos hkey, if_pos hkey]
    · rw [if_neg hkey, if_neg hkey]

/-- The value that a case was reduced to under a source. -/
def observed (source : Str) (reduced : Mapping Json) : Json := (reduced.val.lookup source).getD .null

theorem sameSet_iff (left right : List Str) : sameSet left right = true ↔ ∀ name, name ∈ left ↔ name ∈ right := by
  unfold sameSet
  simp only [Bool.and_eq_true, List.all_eq_true, occurs_iff]
  constructor
  · rintro ⟨h, h'⟩ name
    exact ⟨h name, h' name⟩
  · intro h
    exact ⟨fun name => (h name).mp, fun name => (h name).mpr⟩

theorem lookup_of_mem_keys {α : Type} (members : List (Str × α)) (key : Str) (h : key ∈ members.map Prod.fst) :
    ∃ value, members.lookup key = some value := by
  cases hl : members.lookup key with
  | some value => exact ⟨value, rfl⟩
  | none =>
    obtain ⟨p, hp, rfl⟩ := List.mem_map.mp h
    have := List.lookup_eq_none_iff.mp hl p hp
    simp at this

theorem casesRun_observations {context : LaneContext} {world : World} {cases : List (PlannedCase × Nat)}
    {before after : Progress} {reduced : List (Mapping Json)} {descriptors : List (List (Mapping Json))}
    (h : CasesRun context world cases before after reduced descriptors) (recipe : MetricRecipe)
    (hrecipe : recipe ∈ context.suite.metrics) (values : List Json)
    (hbefore : before.observations.lookup recipe.source.val = some values) :
    after.observations.lookup recipe.source.val = some (values ++ reduced.map (observed recipe.source.val)) := by
  induction h generalizing values with
  | done progress => simpa using hbefore
  | @next case place cases before middle after reduced descriptors rest others first run ih =>
    have hmem : recipe.source.val ∈ reduced.val.map Prod.fst :=
      ((sameSet_iff _ _).mp first.analyzed.sources _).mpr (List.mem_map_of_mem hrecipe)
    obtain ⟨value, hvalue⟩ := lookup_of_mem_keys _ _ hmem
    have hmiddle : middle.observations.lookup recipe.source.val = some (values ++ [value]) := by
      rw [first.observations, lookup_appended _ reduced.property, hvalue, hbefore]
      rfl
    rw [ih _ hmiddle, List.map_cons, observed, hvalue]
    simp

theorem casesRun_executed {context : LaneContext} {world : World} {cases : List (PlannedCase × Nat)}
    {before after : Progress} {reduced : List (Mapping Json)} {descriptors : List (List (Mapping Json))}
    (h : CasesRun context world cases before after reduced descriptors) :
    after.executed = before.executed + cases.length := by
  induction h with
  | done progress => rfl
  | next first run ih =>
    rw [ih, first.executed, List.length_cons]
    omega

/-! ## Artifacts -/

/-- What the merge of descriptors keeps: every artifact listed before, and ids that name one artifact each. -/
structure Merged (before after : List Artifact) : Prop where
  kept : ∀ artifact ∈ before, artifact ∈ after
  distinct : (before.map (·.id)).Nodup → (after.map (·.id)).Nodup

theorem Merged.refl (artifacts : List Artifact) : Merged artifacts artifacts := ⟨fun _ h => h, fun h => h⟩

theorem Merged.trans {a b c : List Artifact} (h : Merged a b) (h' : Merged b c) : Merged a c :=
  ⟨fun x hx => h'.kept x (h.kept x hx), fun hn => h'.distinct (h.distinct hn)⟩

theorem mergeArtifact_ok {conflict : String} {probe : Str → Probe} {before after : List Artifact}
    {descriptor : Mapping Json} (h : mergeArtifact conflict probe before descriptor = .ok after) :
    Merged before after ∧ ∃ verified ∈ after, validateSubjectArtifact probe descriptor.val = .ok verified := by
  unfold mergeArtifact at h
  obtain ⟨verified, hverified, h⟩ := bind_ok_iff.mp h
  split at h
  · rename_i hnone
    cases h
    refine ⟨⟨fun artifact ha => List.mem_append_left _ ha, fun hn => ?_⟩, verified, by simp, hverified⟩
    have hnew : verified.id ∉ before.map (·.id) := by
      intro hmem
      obtain ⟨prior, hprior, hid⟩ := List.mem_map.mp hmem
      have := List.find?_eq_none.mp hnone prior hprior
      simp [hid] at this
    rw [List.map_append, List.nodup_append]
    refine ⟨hn, by simp, ?_⟩
    intro a ha b hb
    rw [List.map_singleton, List.mem_singleton] at hb
    rw [hb]
    rintro rfl
    exact hnew ha
  · rename_i prior hsome
    split at h
    · rename_i hsame
      cases h
      exact ⟨Merged.refl before, verified, hsame ▸ List.mem_of_find?_eq_some hsome, hverified⟩
    · cases h

theorem mergeArtifacts_ok {conflict : String} {probe : Str → Probe} {before after : List Artifact}
    {descriptors : List (Mapping Json)} (h : descriptors.foldlM (mergeArtifact conflict probe) before = .ok after) :
    Merged before after ∧ ∀ descriptor ∈ descriptors,
      ∃ verified ∈ after, validateSubjectArtifact probe descriptor.val = .ok verified := by
  induction descriptors generalizing before with
  | nil =>
    cases h
    exact ⟨Merged.refl _, by simp⟩
  | cons descriptor descriptors ih =>
    rw [List.foldlM_cons, bind_ok_iff] at h
    obtain ⟨middle, hfirst, hrest⟩ := h
    obtain ⟨hmerged, verified, hmem, hverified⟩ := mergeArtifact_ok hfirst
    obtain ⟨hmerged', hall⟩ := ih hrest
    exact ⟨hmerged.trans hmerged', List.forall_mem_cons.mpr ⟨⟨verified, hmerged'.kept _ hmem, hverified⟩, hall⟩⟩

theorem casesRun_artifacts {context : LaneContext} {world : World} {cases : List (PlannedCase × Nat)}
    {before after : Progress} {reduced : List (Mapping Json)} {descriptors : List (List (Mapping Json))}
    (h : CasesRun context world cases before after reduced descriptors) :
    Merged before.artifacts after.artifacts ∧
      List.Forall₂ (fun case found => ∀ descriptor ∈ found, ∃ verified ∈ after.artifacts,
        validateSubjectArtifact (world.atCase case.2).probe descriptor.val = .ok verified) cases descriptors := by
  induction h with
  | done progress => exact ⟨Merged.refl _, .nil⟩
  | next first run ih =>
    obtain ⟨hmerged, hall⟩ := mergeArtifacts_ok first.artifacts
    refine ⟨hmerged.trans ih.1, .cons ?_ ih.2⟩
    intro descriptor hd
    obtain ⟨verified, hmem, hverified⟩ := hall descriptor hd
    exact ⟨verified, ih.1.kept _ hmem, hverified⟩

theorem casesRun_analyzed {context : LaneContext} {world : World} {cases : List (PlannedCase × Nat)}
    {before after : Progress} {reduced : List (Mapping Json)} {descriptors : List (List (Mapping Json))}
    (h : CasesRun context world cases before after reduced descriptors) :
    List.Forall₂ (fun case done => Analyzed context (world.atCase case.2) case.1 done.1 done.2) cases
      (reduced.zip descriptors) := by
  induction h with
  | done progress => exact .nil
  | next first run ih => exact .cons first.analyzed ih

theorem casesRun_length {context : LaneContext} {world : World} {cases : List (PlannedCase × Nat)}
    {before after : Progress} {reduced : List (Mapping Json)} {descriptors : List (List (Mapping Json))}
    (h : CasesRun context world cases before after reduced descriptors) :
    reduced.length = cases.length ∧ descriptors.length = cases.length := by
  induction h with
  | done progress => exact ⟨rfl, rfl⟩
  | next first run ih => simp [ih.1, ih.2]

/-! ## Gates and metrics -/

theorem evaluateGate_ok {floats : Floats} {metrics : List (Str × Metric)} {thresholds : List (Str × Json)} {gate : Gate}
    {result : GateResult} (h : evaluateGate floats metrics thresholds gate = .ok result) :
    result.gateId = gate.gateId.val ∧ metrics.lookup gate.metric.val = some result.observed ∧
      thresholds.lookup gate.metric.val = some result.expected := by
  unfold evaluateGate at h
  split at h
  · rename_i hobserved hexpected
    obtain ⟨passed, -, h⟩ := bind_ok_iff.mp h
    cases h
    exact ⟨rfl, hobserved, hexpected⟩
  · cases h
  · cases h

theorem evaluateGates_ok {floats : Floats} {lane : ExpectationLane} {metrics : List (Str × Metric)}
    {thresholds : List (Str × Json)} {results : List GateResult}
    (h : evaluateGates floats lane metrics thresholds = .ok results) :
    List.Forall₂ (fun gate result => evaluateGate floats metrics thresholds gate = .ok result) lane.gates.items
      results := by
  unfold evaluateGates at h
  split at h
  · exact forall₂_of_mapM h
  · cases h

theorem start_observations (suite : LaneSuite) (recipe : MetricRecipe) (h : recipe ∈ suite.metrics) :
    (Progress.start suite).observations.lookup recipe.source.val = some [] := by
  unfold Progress.start
  dsimp only
  rw [lookup_dictOf, ← List.map_reverse]
  obtain ⟨value, hvalue⟩ := lookup_of_mem_keys (suite.metrics.reverse.map fun r => (r.source.val, ([] : List Json)))
    recipe.source.val (by
      rw [List.map_map]
      exact List.mem_map.mpr ⟨recipe, List.mem_reverse.mpr h, rfl⟩)
  obtain ⟨_, _, hsplit, -⟩ := List.lookup_eq_some_iff.mp hvalue
  have hmem : (recipe.source.val, value) ∈ suite.metrics.reverse.map fun r => (r.source.val, ([] : List Json)) := by
    rw [hsplit]
    simp
  obtain ⟨r, -, hr⟩ := List.mem_map.mp hmem
  rw [hvalue, ← (Prod.mk.inj hr).2]

/-- What a run that reached its gates computed. -/
structure Gated (context : LaneContext) (floats : Floats) (world : World) (result : LaneResult RawRecord)
    (reduced : List (Mapping Json)) (descriptors : List (List (Mapping Json))) : Prop where
  analyzed : List.Forall₂ (fun case done => Analyzed context (world.atCase case.2) case.1 done.1 done.2)
    context.plan.cases.zipIdx (reduced.zip descriptors)
  lengths : reduced.length = context.plan.cases.length ∧ descriptors.length = context.plan.cases.length
  count : result.caseCount = context.plan.cases.length
  executed : result.executedCaseCount = context.plan.cases.length
  metrics : ∃ values, List.Forall₂ (fun recipe value => reduceObservations floats recipe
      (reduced.map (observed recipe.source.val)) = .ok value) context.suite.metrics values ∧
    result.metrics = dictOf ((context.suite.metrics.map (·.metric.val)).zip values)
  artifacts : (result.artifacts.map (·.id)).Nodup ∧
    List.Forall₂ (fun case found => ∀ descriptor ∈ found, ∃ verified ∈ result.artifacts,
      validateSubjectArtifact (world.atCase case.2).probe descriptor.val = .ok verified) context.plan.cases.zipIdx
      descriptors
  required : ∀ id ∈ context.lane.requiredArtifacts.items, id ∉ controllerArtifactIds →
    id ∈ result.artifacts.map (·.id)
  gates : List.Forall₂ (fun gate gated => evaluateGate floats result.metrics context.frozenThresholds gate = .ok gated)
    context.lane.gates.items result.gates
  status : result.status = if result.gates.all (·.passed) then .passed else .gateFailed

theorem reduceMetrics_ok {floats : Floats} {observations : List (Str × List Json)} {recipes : List MetricRecipe}
    {metrics : List (Str × Metric)} (h : recipes.mapM (reduceMetric floats observations) = .ok metrics) :
    ∃ values, List.Forall₂ (fun recipe value => reduceObservations floats recipe
        ((observations.lookup recipe.source.val).getD []) = .ok value) recipes values ∧
      metrics = (recipes.map (·.metric.val)).zip values := by
  have hall := forall₂_of_mapM h
  clear h
  induction hall with
  | nil => exact ⟨[], .nil, rfl⟩
  | cons hr _ ih =>
    obtain ⟨values, hvalues, rfl⟩ := ih
    unfold reduceMetric at hr
    obtain ⟨value, hvalue, hr⟩ := bind_ok_iff.mp hr
    cases hr
    exact ⟨value :: values, .cons hvalue hvalues, rfl⟩

theorem evidenceRun_returned {context : LaneContext} {floats : Floats} {world : World} {result : LaneResult RawRecord}
    {s t : List Call} (h : Action.run (evidenceRun context floats world) s = (.ok result, t)) :
    (∃ reduced descriptors, Gated context floats world result reduced descriptors) ∧
      t = s ++ context.plan.cases.flatMap callsOf := by
  unfold evidenceRun at h
  obtain ⟨progress, u, hcases, h⟩ := Action.bind_returned h
  obtain ⟨benchmark, -, h⟩ := Session.lift_bind h
  obtain ⟨artifacts, hartifacts, h⟩ := Session.lift_bind h
  obtain ⟨_, hrequired, h⟩ := Session.lift_bind h
  obtain ⟨metrics, hmetrics, h⟩ := Session.lift_bind h
  obtain ⟨gates, hgates, h⟩ := Session.lift_bind h
  cases h
  obtain ⟨⟨reduced, descriptors, hrun⟩, rfl⟩ := runCases_returned hcases
  obtain ⟨hmerged, hverified⟩ := casesRun_artifacts hrun
  obtain ⟨hmerged', -⟩ := mergeArtifacts_ok hartifacts
  refine ⟨⟨reduced, descriptors, ?_⟩, ?_⟩
  · refine { analyzed := casesRun_analyzed hrun, lengths := ?_, count := rfl, executed := ?_, metrics := ?_,
             artifacts := ⟨?_, ?_⟩, required := ?_, gates := evaluateGates_ok hgates, status := rfl }
    · simpa using casesRun_length hrun
    · have := casesRun_executed hrun
      simpa [gatedResult, Progress.start] using this
    · obtain ⟨values, hvalues, rfl⟩ := reduceMetrics_ok hmetrics
      refine ⟨values, ?_, rfl⟩
      rw [List.forall₂_iff_get] at hvalues ⊢
      refine ⟨hvalues.1, fun i hi hj => ?_⟩
      have := hvalues.2 i hi hj
      rwa [casesRun_observations hrun _ (List.get_mem _ _) [] (start_observations _ _ (List.get_mem _ _))] at this
    · exact hmerged'.distinct (hmerged.distinct (by simp [Progress.start]))
    · refine hverified.imp fun case found hall descriptor hd => ?_
      obtain ⟨verified, hmem, hv⟩ := hall descriptor hd
      exact ⟨verified, hmerged'.kept _ hmem, hv⟩
    · intro id hid hnot
      unfold requireArtifacts at hrequired
      dsimp only at hrequired
      split at hrequired
      · rename_i hempty
        unfold missingArtifacts at hempty
        rw [List.isEmpty_iff, List.filter_eq_nil_iff] at hempty
        have := hempty id hid
        simp only [Bool.and_eq_true, Bool.not_eq_true', not_and, ← Bool.not_eq_true, occurs_iff,
          not_not] at this
        exact this hnot
      · cases hrequired
  · rw [← List.flatMap_map]
    simp

/-! ## Passed lanes -/

/-- Something around the case failed. -/
def Fails (context : LaneContext) (world : CaseWorld) (case : PlannedCase) : Prop :=
  world.opened ≠ .ok .ready ∨ (∃ error, world.collectionBegun = .error error) ∨
    (∃ operation ∈ case.operations.zipIdx 1, ∃ error, world.stepped operation.2 = .error error) ∨
    (∃ error, world.closed = .error error) ∨ (∃ error, world.collectionEnded = .error error) ∨
    ∃ evidence observations descriptors system collection error,
      List.Forall₂ (fun operation answer => world.stepped operation.2 = .ok answer) (case.operations.zipIdx 1) evidence ∧
        world.closed = .ok (observations, descriptors) ∧ world.collectionEnded = .ok system ∧
        chooseCollection context.lane.laneId.val world.stepCollection system = .ok collection ∧
        world.analyzed evidence observations collection = .error error

theorem analyzed_not_fails {context : LaneContext} {world : CaseWorld} {case : PlannedCase} {reduced : Mapping Json}
    {descriptors : List (Mapping Json)} (h : Analyzed context world case reduced descriptors) :
    ¬ Fails context world case := by
  obtain ⟨evidence, observations, system, collection, hsteps, hclosed, hended, hcollection, hreduced⟩ := h.answers
  rintro (hopen | ⟨error, hbegun⟩ | ⟨operation, hop, error, hstep⟩ | ⟨error, hclose⟩ | ⟨error, hend⟩ | hanalysis)
  · exact hopen h.opened
  · rw [h.begun] at hbegun
    cases hbegun
  · obtain ⟨i, hi, rfl⟩ := List.getElem_of_mem hop
    have := (List.forall₂_iff_get.mp hsteps).2 i hi (hsteps.length_eq ▸ hi)
    rw [List.get_eq_getElem, hstep] at this
    cases this
  · rw [hclosed] at hclose
    cases hclose
  · rw [hended] at hend
    cases hend
  · obtain ⟨evidence', observations', descriptors', system', collection', error, hsteps', hclosed', hended',
      hcollection', herror⟩ := hanalysis
    have hevidence : evidence' = evidence := by
      have hlength : evidence'.length = evidence.length := hsteps'.length_eq.symm.trans hsteps.length_eq
      refine List.ext_getElem hlength fun i hi hj => ?_
      have hk : i < (case.operations.zipIdx 1).length := hsteps'.length_eq ▸ hi
      have h₁ := (List.forall₂_iff_get.mp hsteps').2 i hk hi
      have h₂ := (List.forall₂_iff_get.mp hsteps).2 i hk hj
      rw [h₁] at h₂
      exact Except.ok.inj h₂
    rw [hclosed] at hclosed'
    rw [hended] at hended'
    cases hclosed'
    cases hended'
    rw [hcollection] at hcollection'
    cases hcollection'
    rw [hevidence, hreduced] at herror
    cases herror

/-- All that a passed lane stands for. -/
structure Complete (context : LaneContext) (floats : Floats) (world : World) (result : LaneResult RawRecord)
    (calls : List Call) : Prop where
  counts : result.executedCaseCount = result.caseCount ∧ result.caseCount = context.plan.cases.length
  requests : calls = context.plan.cases.flatMap callsOf
  metrics : ∃ reduced values, List.Forall₂ (fun case found => ∃ descriptors,
      Analyzed context (world.atCase case.2) case.1 found descriptors) context.plan.cases.zipIdx reduced ∧
    List.Forall₂ (fun recipe value => reduceObservations floats recipe
      (reduced.map (observed recipe.source.val)) = .ok value) context.suite.metrics values ∧
    result.metrics = dictOf ((context.suite.metrics.map (·.metric.val)).zip values)
  required : ∀ id ∈ context.lane.requiredArtifacts.items, id ∉ controllerArtifactIds →
    id ∈ result.artifacts.map (·.id)
  distinct : (result.artifacts.map (·.id)).Nodup
  verified : ∀ case ∈ context.plan.cases.zipIdx, ∀ observations descriptors,
    (world.atCase case.2).closed = .ok (observations, descriptors) → ∀ descriptor ∈ descriptors,
      ∃ verified, validateSubjectArtifact (world.atCase case.2).probe descriptor.val = .ok verified ∧
        ∀ artifact, artifact ∈ result.artifacts ∧ artifact.id = verified.id ↔ artifact = verified
  gates : List.Forall₂ (fun gate gated => gated.gateId = gate.gateId.val ∧ gated.passed = true)
    context.lane.gates.items result.gates

theorem forall₂_fst {α β γ : Type} {R : α → β × γ → Prop} {xs : List α} {ys : List β} {zs : List γ}
    (hlength : ys.length = zs.length) (h : List.Forall₂ R xs (ys.zip zs)) :
    List.Forall₂ (fun x y => ∃ z, R x (y, z)) xs ys := by
  have hfst : List.Forall₂ (fun x p => ∃ z, R x (p.1, z)) xs (ys.zip zs) := h.imp fun x p hp => ⟨p.2, hp⟩
  have hmap : List.Forall₂ (fun x y => ∃ z, R x (y, z)) xs ((ys.zip zs).map Prod.fst) :=
    List.forall₂_map_right_iff.mpr hfst
  rwa [List.map_fst_zip hlength.le] at hmap

theorem gated_complete {context : LaneContext} {floats : Floats} {world : World} {result : LaneResult RawRecord}
    {reduced : List (Mapping Json)} {descriptors : List (List (Mapping Json))}
    (h : Gated context floats world result reduced descriptors) (hpassed : result.status = .passed) :
    Complete context floats world result (context.plan.cases.flatMap callsOf) where
  counts := ⟨h.executed.trans h.count.symm, h.count⟩
  requests := rfl
  metrics := by
    obtain ⟨values, hvalues, hmetrics⟩ := h.metrics
    exact ⟨reduced, values, forall₂_fst (h.lengths.1.trans h.lengths.2.symm) h.analyzed, hvalues, hmetrics⟩
  required := h.required
  distinct := h.artifacts.1
  verified := by
    intro case hcase observations found hclosed descriptor hd
    obtain ⟨i, hi, rfl⟩ := List.getElem_of_mem hcase
    have hdone := (List.forall₂_iff_get.mp h.analyzed).2 i hi (h.analyzed.length_eq ▸ hi)
    have hlisted := (List.forall₂_iff_get.mp h.artifacts.2).2 i hi (h.artifacts.2.length_eq ▸ hi)
    obtain ⟨_, observations', _, _, -, hclosed', -⟩ := hdone.answers
    rw [List.get_eq_getElem, List.get_eq_getElem, List.getElem_zip] at hclosed'
    rw [hclosed] at hclosed'
    cases hclosed'
    obtain ⟨verified, hmem, hverified⟩ := hlisted descriptor hd
    refine ⟨verified, hverified, fun artifact => ⟨?_, ?_⟩⟩
    · rintro ⟨ha, hid⟩
      exact List.inj_on_of_nodup_map h.artifacts.1 ha hmem hid
    · rintro rfl
      exact ⟨hmem, rfl⟩
  gates := by
    have hall : ∀ gate ∈ result.gates, gate.passed = true := by
      have hstatus := h.status
      rw [hpassed] at hstatus
      split at hstatus
      · rename_i hall
        exact List.all_eq_true.mp hall
      · cases hstatus
    rw [List.forall₂_iff_get]
    refine ⟨h.gates.length_eq, fun i hi hj => ?_⟩
    exact ⟨(evaluateGate_ok ((List.forall₂_iff_get.mp h.gates).2 i hi hj)).1, hall _ (List.get_mem _ _)⟩

/-- A result with gates is one of a run that reached them. -/
theorem gated_of_gates {context : LaneContext} {floats : Floats} {world : World} {result : LaneResult RawRecord}
    {calls : List Call} (h : runEvidenceLane context floats world = (.ok result, calls)) (hgates : result.gates ≠ []) :
    ∃ reduced descriptors, Gated context floats world result reduced descriptors := by
  unfold runEvidenceLane at h
  rcases hrun : Action.run (evidenceRun context floats world) [] with ⟨(error | returned) | returned, t⟩
  all_goals
    rw [hrun] at h
    obtain ⟨hsettle, rfl⟩ := Prod.mk.inj h
    cases hsettle
  · exact absurd (evidenceRun_refuses context floats world _ _ _ hrun result rfl).2.2 hgates
  · exact (evidenceRun_returned hrun).1

/-- A passed evidence lane is complete, and a lane in which anything failed has neither passed nor measured. -/
theorem evidence_lane_complete (context : LaneContext) (floats : Floats) (world : World)
    (result : LaneResult RawRecord) (calls : List Call)
    (h : runEvidenceLane context floats world = (.ok result, calls)) :
    (result.status = .passed → Complete context floats world result calls) ∧
      ((∃ case ∈ context.plan.cases.zipIdx, Fails context (world.atCase case.2) case.1) →
        result.status ≠ .passed ∧ result.metrics = []) := by
  unfold runEvidenceLane at h
  rcases hrun : Action.run (evidenceRun context floats world) [] with ⟨(error | returned) | returned, t⟩
  all_goals
    rw [hrun] at h
    obtain ⟨hsettle, rfl⟩ := Prod.mk.inj h
    cases hsettle
  · obtain ⟨hstatus, hmetrics, -⟩ := evidenceRun_refuses context floats world _ _ _ hrun result rfl
    exact ⟨fun hpassed => absurd hpassed hstatus, fun _ => ⟨hstatus, hmetrics⟩⟩
  · obtain ⟨⟨reduced, descriptors, hgated⟩, rfl⟩ := evidenceRun_returned hrun
    rw [List.nil_append]
    refine ⟨gated_complete hgated, ?_⟩
    rintro ⟨case, hcase, hfails⟩
    obtain ⟨i, hi, rfl⟩ := List.getElem_of_mem hcase
    have hdone := (List.forall₂_iff_get.mp hgated.analyzed).2 i hi (hgated.analyzed.length_eq ▸ hi)
    exact absurd hfails (analyzed_not_fails hdone)

/-! ## A lane of two cases -/

def only {α : Type} (key : α → Str) (item : α) : Listed α key where
  items := [item]
  nonempty := by simp
  distinct := by simp

def exactFloats : Floats where
  ofInt n := some n
  ofToken _ := .nan
  ofText _ := none
  literal q := .finite q
  add _ _ := .nan
  sub _ _ := .nan
  mul _ _ := .nan
  div _ _ := .nan
  sum qs := .finite qs.sum

def countMetric : Canonical.Identifier := ⟨lit "m", by decide⟩
def countSource : Canonical.Identifier := ⟨lit "source", by decide⟩

def countGate (gateId : Canonical.Identifier) (expected : Int) : Gate where
  gateId := gateId
  metric := countMetric
  operator := .eq
  expected := .int expected
  unit := ⟨lit "count", by decide⟩
  thresholdSource := .benchmarkContract
  evidence := only id (lit "e")

def zeroGate : Gate := countGate ⟨lit "g", by decide⟩ 0

def twoValues : MatrixDimension where
  dimensionId := ⟨lit "d0", by decide⟩
  values := ⟨[.bool true, .int 1], by simp, by decide⟩

def matrixName : Canonical.Identifier := ⟨lit "b", by decide⟩

def twoCaseLane : ExpectationLane where
  laneId := sampleSuite.laneId
  layer := ⟨lit "core", by decide⟩
  description := lit "d"
  required := true
  implementationSources := only id (lit "s")
  harness :=
    { status := lit "executable", kind := lit "lane_suite", protocol := sampleSuite.protocol
      entrypoint := some (lit "suite.json"), runner := some sampleSuite.runner, legacyProtocol := none
      legacyEntrypoint := none }
  matrices := only _ ⟨matrixName, only _ twoValues⟩
  cases := only _ ⟨⟨lit "c", by decide⟩, lit "r"⟩
  gates := only _ zeroGate
  requiredArtifacts := only id (lit "a")
  claimScope := only id (lit "claim")

def countSuite : LaneSuite :=
  { sampleSuite with
    matrixIds := [lit "b"]
    gateIds := [lit "g"]
    operations := [lit "execute", lit "inspect"]
    metrics := [⟨countMetric, countSource, .sum⟩] }

def twoCaseContext : LaneContext where
  lane := twoCaseLane
  suite := countSuite
  plan := ⟨lit "a", lit "suite", plannedCases twoCaseLane countSuite 1 twoCaseLane.matrices.items⟩
  frozenThresholds := [(lit "m", .int 0)]

def sampleDigest : Str := List.replicate 64 (cp 97)

def sampleDescriptor : Mapping Json :=
  ⟨[(lit "id", .str (lit "a")), (lit "path", .str (lit "a.jsonl")), (lit "size", .int 3),
    (lit "sha256", .str sampleDigest)], by decide⟩

def noMembers {α : Type} : Mapping α := ⟨[], by simp⟩

def cleanCase : CaseWorld where
  prepared := .ok ()
  opened := .ok .ready
  collectionBegun := .ok ()
  stepped _ := .ok noMembers
  stepCollection := none
  closed := .ok (noMembers, [sampleDescriptor])
  collectionEnded := .ok none
  cleanupErrorWritten := .ok ()
  analyzed _ _ _ := .ok ⟨[(lit "source", .int 0)], by simp⟩
  probe _ := .file 3 sampleDigest

def cleanWorld : World where
  atCase _ := cleanCase
  benchmarkArtifacts _ := .ok []
  probe _ := .missing []

theorem evidence_lane_complete_sample : ∃ result calls,
    runEvidenceLane twoCaseContext exactFloats cleanWorld = (.ok result, calls) ∧ result.status = .passed ∧
      Complete twoCaseContext exactFloats cleanWorld result calls := by
  obtain ⟨result, hresult⟩ := ok_of_isSome (runEvidenceLane twoCaseContext exactFloats cleanWorld).1
    (by decide +kernel)
  have hpassed : ∀ r ∈ (runEvidenceLane twoCaseContext exactFloats cleanWorld).1.toOption, r.status = .passed := by
    decide +kernel
  have hstatus : result.status = .passed := hpassed result (by rw [hresult]; rfl)
  have hrun : runEvidenceLane twoCaseContext exactFloats cleanWorld =
      (.ok result, (runEvidenceLane twoCaseContext exactFloats cleanWorld).2) := Prod.ext hresult rfl
  exact ⟨result, _, hrun, hstatus, (evidence_lane_complete _ _ _ result _ hrun).1 hstatus⟩

end TurnVector.Lanes
