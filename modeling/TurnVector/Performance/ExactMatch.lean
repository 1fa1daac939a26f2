import TurnVector.CrossEngine.Manifest
import TurnVector.Performance.Publication

/-! # Frozen plans

An equal value passes for the planned one, and a boolean, an integer and a float can be equal. An accepted plan is the
frozen one exactly when its numbers also have the planned types.
-/

namespace TurnVector.Performance

open Python Json
open LaneController (Raised)
open CrossEngine (PyFloat)
open Lanes (demand_ok)

/-- The value has a member that is the same as the expected one. -/
def SameAt (library : Library) (value : Json) (name : String) (expected : Json) : Prop :=
  ∃ found, value.member? (lit name) = some found ∧ identical library.value found expected = true

/-- A case that is as its plan says. -/
structure FrozenCase (library : Library) (case : Json) (planned : PlannedPerformanceCase) : Prop where
  caseId : SameAt library case "case_id" (.str planned.caseId)
  matrixId : SameAt library case "matrix_id" (.str planned.matrixId)
  parameters : SameAt library case "parameters" (.obj planned.parameters)
  repetitions : ∀ trial ∈ (itemsOf (case.member? (lit "trials"))).zipIdx,
    SameAt library trial.1 "repetition" (.int trial.2)

/-- The numbers of a case have the types of its plan. -/
structure TypedCase (case : Json) (planned : PlannedPerformanceCase) : Prop where
  parameters : ∃ found, case.member? (lit "parameters") = some found ∧ sameKinds found (.obj planned.parameters) = true
  repetitions : ∀ trial ∈ itemsOf (case.member? (lit "trials")), ∃ n, trial.member? (lit "repetition") = some (.int n)

theorem sameAt_iff {library : Library} {value found expected : Json} {name : String}
    (hfound : value.member? (lit name) = some found) (h : pyEq library.value found expected = true) :
    SameAt library value name expected ↔ sameKinds found expected = true := by
  simp [SameAt, hfound, identical_eq, h]

theorem sameAt_text {library : Library} {value : Json} {name : String} {s : Str}
    (hfound : value.member? (lit name) = some (.str s)) : SameAt library value name (.str s) :=
  ⟨.str s, hfound, by simp [identical]⟩

/-! ## What a reading accepts -/

theorem readTrial_repetition {library : Library} {lane : PerformanceLane} {place : Str} {trial : Json × Nat}
    {read : List (Str × ℚ)} (h : readTrial library lane place trial = .ok read) :
    ∃ found, trial.1.member? (lit "repetition") = some found ∧ pyEq library.value found (.int trial.2) = true := by
  unfold readTrial at h
  obtain ⟨obj, hobj, h⟩ := bind_ok_iff.mp h
  obtain ⟨repetition, hrepetition, h⟩ := bind_ok_iff.mp h
  obtain ⟨_, hequal, -⟩ := bind_ok_iff.mp h
  rw [strictObject_ok hobj]
  exact ⟨repetition, item_ok_iff.mp hrepetition, demand_ok hequal⟩

/-- What an accepted case has, up to `==`. -/
structure EqualCase (library : Library) (case : Json) (planned : PlannedPerformanceCase) : Prop where
  caseId : case.member? (lit "case_id") = some (.str planned.caseId)
  matrixId : case.member? (lit "matrix_id") = some (.str planned.matrixId)
  parameters : ∃ found, case.member? (lit "parameters") = some found ∧
    pyEq library.value found (.obj planned.parameters) = true
  repetitions : ∀ trial ∈ (itemsOf (case.member? (lit "trials"))).zipIdx,
    ∃ found, trial.1.member? (lit "repetition") = some found ∧ pyEq library.value found (.int trial.2) = true

theorem readTrials_equal {library : Library} {lane : PerformanceLane} {obj : List (Str × Json)}
    {planned : PlannedPerformanceCase} {place : Str} {read : List (List (Str × ℚ))}
    (h : readTrials library lane obj planned place = .ok read) : EqualCase library (.obj obj) planned := by
  unfold readTrials at h
  obtain ⟨caseId, hcase, h⟩ := bind_ok_iff.mp h
  obtain ⟨matrixId, hmatrix, h⟩ := bind_ok_iff.mp h
  obtain ⟨parameters, hparameters, h⟩ := bind_ok_iff.mp h
  obtain ⟨_, hplan, h⟩ := bind_ok_iff.mp h
  obtain ⟨_, -, h⟩ := bind_ok_iff.mp h
  obtain ⟨_, -, h⟩ := bind_ok_iff.mp h
  obtain ⟨trials, htrials, h⟩ := bind_ok_iff.mp h
  obtain ⟨_, -, hrows⟩ := bind_ok_iff.mp h
  clear h
  have hplan := demand_ok hplan
  simp only [Bool.and_eq_true, decide_eq_true_eq] at hplan
  obtain ⟨⟨rfl, rfl⟩, hequal⟩ := hplan
  obtain ⟨value, hat, htrials⟩ := readAt_ok_iff.mp htrials
  obtain rfl := array_ok_iff.mp htrials
  refine ⟨item_ok_iff.mp hcase, item_ok_iff.mp hmatrix, ⟨parameters, item_ok_iff.mp hparameters, hequal⟩, ?_⟩
  intro trial htrial
  simp only [member?, hat, itemsOf] at htrial
  obtain ⟨row, hrow⟩ := mapM_all_ok _ _ _ hrows trial htrial
  exact readTrial_repetition hrow

theorem readCase_equal {library : Library} {lane : PerformanceLane} {case : (Json × PlannedPerformanceCase) × Nat}
    {read : Str × List (Str × PyFloat) × Nat} (h : readCase library lane case = .ok read) :
    EqualCase library case.1.1 case.1.2 := by
  unfold readCase at h
  obtain ⟨obj, hobj, h⟩ := bind_ok_iff.mp h
  obtain ⟨trials, htrials, -⟩ := bind_ok_iff.mp h
  rw [strictObject_ok hobj]
  exact readTrials_equal htrials

/-- The trials of an accepted case have their planned numbers exactly when their numbers are integers. -/
theorem repetitions_iff {library : Library} {trials : List Json}
    (h : ∀ trial ∈ trials.zipIdx,
      ∃ found, trial.1.member? (lit "repetition") = some found ∧ pyEq library.value found (.int trial.2) = true) :
    (∀ trial ∈ trials.zipIdx, SameAt library trial.1 "repetition" (.int trial.2)) ↔
      ∀ trial ∈ trials, ∃ n, trial.member? (lit "repetition") = some (.int n) := by
  constructor
  · intro hsame trial htrial
    obtain ⟨i, hi, rfl⟩ := List.mem_iff_getElem.mp htrial
    have hmem : (trials[i], i) ∈ trials.zipIdx := by rw [List.mem_zipIdx_iff_getElem?, List.getElem?_eq_getElem hi]
    obtain ⟨found, hfound, hidentical⟩ := hsame _ hmem
    cases found <;> simp [identical] at hidentical
    exact ⟨_, hfound⟩
  · rintro hint ⟨trial, i⟩ hmem
    obtain ⟨found, hfound, hequal⟩ := h _ hmem
    obtain ⟨n, hn⟩ := hint trial (List.fst_mem_of_mem_zipIdx hmem)
    rw [sameAt_iff hfound hequal]
    obtain rfl : found = .int n := Option.some_inj.mp (hfound.symm.trans hn)
    simp [sameKinds, numberKind]

theorem frozenCase_iff {library : Library} {case : Json} {planned : PlannedPerformanceCase}
    (h : EqualCase library case planned) : FrozenCase library case planned ↔ TypedCase case planned := by
  obtain ⟨found, hfound, hequal⟩ := h.parameters
  constructor
  · intro hfrozen
    exact ⟨⟨found, hfound, (sameAt_iff hfound hequal).mp hfrozen.parameters⟩,
      (repetitions_iff h.repetitions).mp hfrozen.repetitions⟩
  · rintro ⟨⟨found', hfound', hkinds⟩, hrepetitions⟩
    obtain rfl : found = found' := Option.some_inj.mp (hfound.symm.trans hfound')
    exact ⟨sameAt_text h.caseId, sameAt_text h.matrixId, (sameAt_iff hfound hequal).mpr hkinds,
      (repetitions_iff h.repetitions).mpr hrepetitions⟩

/-- An accepted list of cases: the plan, of which each case is equal to its own. -/
theorem validateCases_equal {library : Library} {contract : PerformanceContract} {lane : PerformanceLane} {value : Json}
    {read : List (Str × List (Str × PyFloat)) × Nat} (h : validateCases library contract lane value = .ok read) :
    ∃ cases plan, value = .arr cases ∧ contract.casePlan lane.laneId = .ok plan ∧
      List.Forall₂ (EqualCase library) cases plan := by
  unfold validateCases at h
  obtain ⟨cases, hcases, h⟩ := bind_ok_iff.mp h
  obtain ⟨plan, hplan, h⟩ := bind_ok_iff.mp h
  obtain ⟨_, hlength, h⟩ := bind_ok_iff.mp h
  obtain ⟨rows, hrows, h⟩ := bind_ok_iff.mp h
  have hlength : cases.length = plan.length := by simpa using demand_ok hlength
  refine ⟨cases, plan, array_ok_iff.mp hcases, hplan, ?_⟩
  rw [List.forall₂_iff_zip]
  refine ⟨hlength, fun {case planned} hmem => ?_⟩
  obtain ⟨i, hi, hget⟩ := List.mem_iff_getElem.mp hmem
  have hindexed : ((case, planned), i) ∈ (cases.zip plan).zipIdx := by
    rw [List.mem_zipIdx_iff_getElem?, List.getElem?_eq_getElem hi, hget]
  obtain ⟨row, hrow⟩ := mapM_all_ok _ _ _ hrows _ hindexed
  exact readCase_equal hrow

theorem forall₂_iff_of {α β : Type} {P Q R : α → β → Prop} {xs : List α} {ys : List β} (h : List.Forall₂ P xs ys)
    (hiff : ∀ x y, P x y → (Q x y ↔ R x y)) : List.Forall₂ Q xs ys ↔ List.Forall₂ R xs ys := by
  induction h with
  | nil => simp
  | cons hxy _ ih => rw [List.forall₂_cons, List.forall₂_cons, hiff _ _ hxy, ih]

/-! ## The frozen plans -/

/-- The cases are those of the lane's plan. -/
def FrozenCases (library : Library) (contract : PerformanceContract) (lane : PerformanceLane) (value : Json) : Prop :=
  ∃ plan, contract.casePlan lane.laneId = .ok plan ∧ List.Forall₂ (FrozenCase library) (itemsOf (some value)) plan

def TypedCases (contract : PerformanceContract) (lane : PerformanceLane) (value : Json) : Prop :=
  ∃ plan, contract.casePlan lane.laneId = .ok plan ∧ List.Forall₂ TypedCase (itemsOf (some value)) plan

/-- The ordinals of a manifest are integers. -/
def TypedOrdinals (manifest : Json) : Prop :=
  ∀ entry ∈ itemsOf (manifest.member? (lit "artifacts")), ∃ n, entry.member? (lit "ordinal") = some (.int n)

theorem validateProtocol_equal {library : Library} {lane : PerformanceLane} {value : Json}
    (h : validateProtocol library lane value = .ok ()) : pyEq library.value value lane.protocol.asDict = true := by
  unfold validateProtocol at h
  obtain ⟨protocol, hprotocol, h⟩ := bind_ok_iff.mp h
  rw [object_ok_iff.mp hprotocol]
  exact demand_ok h

/-- An accepted protocol, accepted cases and an accepted manifest are the planned ones exactly when their numbers have
the planned types. -/
theorem frozen_plans_iff (library : Library) (contract : PerformanceContract) (lane : PerformanceLane)
    (files : CrossEngine.ArtifactRoot) (floatValue : Str → Option ℚ) (rejectUndeclared : Bool) :
    (∀ protocol, validateProtocol library lane protocol = .ok () →
      (identical library.value protocol lane.protocol.asDict = true ↔ sameKinds protocol lane.protocol.asDict = true)) ∧
    (∀ cases read, validateCases library contract lane cases = .ok read →
      (FrozenCases library contract lane cases ↔ TypedCases contract lane cases)) ∧
    ∀ manifest recomputed,
      CrossEngine.validateArtifactManifest files floatValue manifest rejectUndeclared = .ok recomputed →
        (identical floatValue recomputed manifest = true ↔ TypedOrdinals manifest) := by
  refine ⟨?_, ?_, ?_⟩
  · intro protocol h
    rw [identical_eq, validateProtocol_equal h, Bool.true_and]
  · intro value read h
    obtain ⟨cases, plan, rfl, hplan, hequal⟩ := validateCases_equal h
    have hcases := forall₂_iff_of hequal fun _ _ hcase => frozenCase_iff hcase
    simp only [FrozenCases, TypedCases, hplan, itemsOf, Except.ok.injEq, exists_eq_left', hcases]
  · intro manifest recomputed h
    obtain ⟨entries, hentries, hiff⟩ := CrossEngine.manifest_identical_iff h
    rw [hiff, TypedOrdinals, hentries]
    rfl

/-! ## A plan and its documents -/

open Lanes (sampleDigest text fields)

def sampleCases (batch second : Json) : Json :=
  .arr [sampleCase "decode.batch.0001" batch second, sampleCase "decode.batch.0002" (.int 2) (.int 1)]

def sampleRoot : CrossEngine.ArtifactRoot where
  root := .ok ()
  inspect _ := .there
  read _ _ := .ok (3, sampleDigest, 0, 0)
  inventory := .ok [lit "trace"]

def sampleEntry (ordinal : Json) : Json := fields [("id", text "trace"), ("path", text "trace"),
  ("media_type", text "application/json"), ("schema_type", .null), ("custody", text "benchmark_measurement"),
  ("required", .bool true), ("ordinal", ordinal), ("present", .bool true), ("size_bytes", .int 3),
  ("sha256", .str sampleDigest)]

/-- A manifest of one file, with the ordinal of its entry. -/
def sampleManifest (ordinal : Json) : Json := fields [
  ("schema_version", .str CrossEngine.manifestSchemaVersion), ("campaign_id", text "campaign"),
  ("per_file_byte_limit", .int 10), ("total_byte_limit", .int 10), ("artifact_count", .int 1),
  ("present_artifact_count", .int 1), ("total_size_bytes", .int 3), ("artifacts", .arr [sampleEntry ordinal])]

theorem frozen_plans_sample :
    identical sampleLibrary.value sampleProtocol sampleLane.protocol.asDict = true ∧
      FrozenCases sampleLibrary sampleContract sampleLane (sampleCases (.int 1) (.int 1)) ∧
        ∃ recomputed, CrossEngine.validateArtifactManifest sampleRoot sampleLibrary.value (sampleManifest (.int 1)) true =
          .ok recomputed ∧ identical sampleLibrary.value recomputed (sampleManifest (.int 1)) = true := by
  obtain ⟨hprotocol, hcases, hmanifest⟩ :=
    frozen_plans_iff sampleLibrary sampleContract sampleLane sampleRoot sampleLibrary.value true
  obtain ⟨read, hread⟩ := ok_of_isSome
    (validateCases sampleLibrary sampleContract sampleLane (sampleCases (.int 1) (.int 1))) (by decide +kernel)
  obtain ⟨recomputed, hrecomputed⟩ := ok_of_isSome
    (CrossEngine.validateArtifactManifest sampleRoot sampleLibrary.value (sampleManifest (.int 1)) true)
    (by decide +kernel)
  have hplan : sampleContract.casePlan (lit "decode") = .ok sampleLane.cases := casePlan_ok rfl
  refine ⟨(hprotocol _ rfl).mpr (by decide +kernel), (hcases _ read hread).mpr ⟨_, hplan, ?_⟩, recomputed, hrecomputed,
    (hmanifest _ recomputed hrecomputed).mpr ?_⟩
  · refine .cons ⟨⟨_, rfl, by decide +kernel⟩, ?_⟩ (.cons ⟨⟨_, rfl, by decide +kernel⟩, ?_⟩ .nil)
    · exact List.forall_mem_cons.mpr ⟨⟨0, rfl⟩, List.forall_mem_singleton.mpr ⟨1, rfl⟩⟩
    · exact List.forall_mem_cons.mpr ⟨⟨0, rfl⟩, List.forall_mem_singleton.mpr ⟨1, rfl⟩⟩
  · exact List.forall_mem_singleton.mpr ⟨1, rfl⟩

/-- A batch size, a repetition number and an ordinal of `true` pass for the planned 1. -/
theorem boolean_plan_accepted :
    (∃ report, validateArtifact sampleLibrary sampleContract (sampleFiles (.bool true) (.bool true)) = .ok report) ∧
    (sampleEvidence (.bool true) (.bool true)).member? (lit "cases") = some (sampleCases (.bool true) (.bool true)) ∧
    ¬FrozenCases sampleLibrary sampleContract sampleLane (sampleCases (.bool true) (.bool true)) ∧
    ∃ recomputed, CrossEngine.validateArtifactManifest sampleRoot sampleLibrary.value (sampleManifest (.bool true)) true =
      .ok recomputed ∧ identical sampleLibrary.value recomputed (sampleManifest (.bool true)) = false := by
  refine ⟨ok_of_isSome _ (by decide +kernel), rfl, ?_, ⟨_, rfl, by decide +kernel⟩⟩
  rintro ⟨plan, hplan, hcases⟩
  obtain rfl : sampleLane.cases = plan := Except.ok.inj ((casePlan_ok rfl).symm.trans hplan)
  obtain ⟨planned, rest, hcase, -, hrest⟩ := List.forall₂_cons_left_iff.mp hcases
  have hparameters : planned.parameters = [(lit "batch_size", .int 1)] := by
    have hfirst := congrArg (fun cases => cases.head?.map (·.parameters)) hrest
    exact (Option.some_inj.mp hfirst).symm
  obtain ⟨found, hfound, hsame⟩ := hcase.parameters
  obtain rfl := Option.some_inj.mp hfound
  rw [hparameters] at hsame
  exact absurd hsame (by decide +kernel)

end TurnVector.Performance
