import TurnVector.Lanes.Document

/-! # The three expanders of a lane

`expand_case_plan`, `_case_ids` of the compiler and `_normalize` of its relation layer number the same cases.
-/

namespace TurnVector.Lanes

open Python Json Relations

/-! ## The compiler's case ids -/

/-- `record.get(name)` -/
def getOf (value : Json) (name : String) : Except Exc (Option Json) :=
  match value with
  | .obj fields => .ok (fields.lookup (lit name))
  | _ => .error .attributeError

/-- `tuple(record.get(name, ()))` -/
def itemsOf (value : Json) (name : String) : Except Exc (List Json) := do
  match ← getOf value name with
  | some items => items.tuple
  | none => return []

/-- `str(record.get("id"))` -/
def idOf (value : Json) : Except Exc Str := do return ((← getOf value "id").getD .null).strOf

def timesValues (count : Nat) (dimension : Json) : Except Exc Nat := do
  return count * (← itemsOf dimension "values").length

/-- The counter product of `_case_ids`. -/
def combinationCount (matrix : Json) : Except Exc Nat := do (← itemsOf matrix "dimensions").foldlM timesValues 1

/-- The case ids of the matrices of a lane from an ordinal on. -/
def matrixCaseIds (laneId : Str) (ordinal : Nat) : List Json → Except Exc (List Str)
  | [] => .ok []
  | matrix :: matrices => do
    let count ← combinationCount matrix
    let matrixId ← idOf matrix
    let rest ← matrixCaseIds laneId (ordinal + count) matrices
    return (List.range count).map (fun i => caseId laneId matrixId (ordinal + i)) ++ rest

def laneCaseIds (lane : Json) : Except Exc (List Str) := do
  matrixCaseIds (← idOf lane) 1 (← itemsOf lane "matrices")

/-- `_case_ids` -/
def caseIds (expectation : Json) : Except Exc (List Str) := do
  return (← (← itemsOf expectation "lanes").mapM laneCaseIds).flatten

/-! ## What a plan holds -/

def ids (cases : List PlannedCase) : List Str := cases.map (·.caseId)

/-- The ids of the cases of matrices from an ordinal on. -/
def idsFrom (laneId : Str) (ordinal : Nat) : List Matrix → List Str
  | [] => []
  | matrix :: matrices =>
    (List.range matrix.expandedCaseCount).map (fun i => caseId laneId matrix.matrixId.val (ordinal + i)) ++
      idsFrom laneId (ordinal + matrix.expandedCaseCount) matrices

theorem matrixCases_length (lane : ExpectationLane) (suite : LaneSuite) (ordinal : Nat) (matrix : Matrix) :
    (matrixCases lane suite ordinal matrix).length = matrix.expandedCaseCount := by
  unfold matrixCases
  rw [List.length_map, List.length_zipIdx, Table.product_length, List.map_map]
  rfl

theorem matrixCases_ids (lane : ExpectationLane) (suite : LaneSuite) (ordinal : Nat) (matrix : Matrix) :
    ids (matrixCases lane suite ordinal matrix) =
      (List.range matrix.expandedCaseCount).map fun i => caseId lane.laneId.val matrix.matrixId.val (ordinal + i) := by
  rw [← matrixCases_length lane suite ordinal, List.range_eq_range']
  unfold ids matrixCases
  rw [List.length_map, List.length_zipIdx, ← List.zipIdx_map_snd 0, List.map_map, List.map_map]
  rfl

theorem plannedCases_ids (lane : ExpectationLane) (suite : LaneSuite) (ordinal : Nat) (matrices : List Matrix) :
    ids (plannedCases lane suite ordinal matrices) = idsFrom lane.laneId.val ordinal matrices := by
  induction matrices generalizing ordinal with
  | nil => rfl
  | cons matrix matrices ih =>
    have happend : ∀ xs ys, ids (xs ++ ys) = ids xs ++ ids ys := fun xs ys => List.map_append
    unfold plannedCases idsFrom
    rw [happend, ih, matrixCases_ids, matrixCases_length]

theorem plannedCases_length (lane : ExpectationLane) (suite : LaneSuite) (ordinal : Nat) (matrices : List Matrix) :
    (plannedCases lane suite ordinal matrices).length = (matrices.map (·.expandedCaseCount)).sum := by
  induction matrices generalizing ordinal with
  | nil => rfl
  | cons matrix matrices ih =>
    unfold plannedCases
    rw [List.length_append, ih, matrixCases_length, List.map_cons, List.sum_cons]

/-- No lane loses a combination. -/
theorem expandCasePlan_ok (lane : ExpectationLane) (suite : LaneSuite) :
    expandCasePlan lane suite =
      .ok ⟨lane.laneId.val, suite.suiteId.val, plannedCases lane suite 1 lane.matrices.items⟩ := by
  unfold expandCasePlan
  dsimp only
  rw [plannedCases_length]
  simp [ExpectationLane.expandedMatrixCaseCount]

theorem idsFrom_ordinals (laneId : Str) (ordinal : Nat) (matrices : List Matrix) :
    (idsFrom laneId ordinal matrices).map ordinalOf = List.range' ordinal (idsFrom laneId ordinal matrices).length := by
  induction matrices generalizing ordinal with
  | nil => rfl
  | cons matrix matrices ih =>
    unfold idsFrom
    have hfirst : ((List.range matrix.expandedCaseCount).map
        fun i => caseId laneId matrix.matrixId.val (ordinal + i)).map ordinalOf =
          List.range' ordinal matrix.expandedCaseCount := by
      rw [List.map_map, List.range'_eq_map_range]
      apply List.map_congr_left
      intro i _
      exact ordinalOf_caseId _ _ _
    rw [List.map_append, hfirst, ih, List.length_append, List.length_map, List.length_range]
    simp

theorem idsFrom_nodup (laneId : Str) (ordinal : Nat) (matrices : List Matrix) :
    (idsFrom laneId ordinal matrices).Nodup := by
  apply List.Nodup.of_map ordinalOf
  rw [idsFrom_ordinals]
  exact List.nodup_range'

/-! ## The compiler's loop -/

theorem getOf_obj (fields : List (Str × Json)) (name : String) :
    getOf (.obj fields) name = .ok (fields.lookup (lit name)) := rfl

theorem itemsOf_arr (obj : List (Str × Json)) (name : String) (items : List Json)
    (h : obj.lookup (lit name) = some (.arr items)) : itemsOf (.obj obj) name = .ok items := by
  unfold itemsOf
  rw [getOf_obj, h]
  rfl

theorem idOf_str (obj : List (Str × Json)) (id : Str) (h : obj.lookup (lit "id") = some (.str id)) :
    idOf (.obj obj) = .ok id := by
  unfold idOf
  rw [getOf_obj, h]
  rfl

theorem timesValues_docs (docs : List Json) (dimensions : List MatrixDimension)
    (h : List.Forall₂ DimensionDoc docs dimensions) (count : Nat) :
    docs.foldlM timesValues count = .ok (count * (dimensions.map (·.values.items.length)).prod) := by
  induction h generalizing count with
  | nil => simp [pure, Except.pure]
  | cons hd _ ih =>
    obtain ⟨obj, values, rfl, hvalues, hlength⟩ := hd
    have hstep : timesValues count (.obj obj) = .ok (count * values.length) := by
      unfold timesValues
      rw [itemsOf_arr obj _ values hvalues]
      rfl
    rw [List.foldlM_cons, hstep, List.map_cons, List.prod_cons, ← hlength, ← Nat.mul_assoc]
    exact ih _

theorem combinationCount_doc (doc : Json) (matrix : Matrix) (h : MatrixDoc doc matrix) :
    combinationCount doc = .ok matrix.expandedCaseCount := by
  obtain ⟨obj, items, rfl, -, -, hitems, hdims⟩ := h
  unfold combinationCount
  rw [itemsOf_arr obj _ items hitems]
  have := timesValues_docs items _ hdims 1
  rw [Nat.one_mul] at this
  exact this

theorem matrixCaseIds_doc (laneId : Str) (ordinal : Nat) (docs : List Json) (matrices : List Matrix)
    (h : List.Forall₂ MatrixDoc docs matrices) :
    matrixCaseIds laneId ordinal docs = .ok (idsFrom laneId ordinal matrices) := by
  induction h generalizing ordinal with
  | nil => rfl
  | cons hd _ ih =>
    unfold matrixCaseIds idsFrom
    rw [combinationCount_doc _ _ hd]
    obtain ⟨obj, items, rfl, hid, -⟩ := hd
    rw [idOf_str obj _ hid]
    simp only [bind, Except.bind, pure, Except.pure, ih]

theorem laneCaseIds_doc (doc : Json) (lane : ExpectationLane) (h : LaneDoc doc lane) :
    laneCaseIds doc = .ok (idsFrom lane.laneId.val 1 lane.matrices.items) := by
  obtain ⟨obj, matrices, cases, gates, artifacts, rfl, hid, -, hmatrices, hdocs, -⟩ := h
  unfold laneCaseIds
  rw [idOf_str obj _ hid, itemsOf_arr obj _ matrices hmatrices]
  exact matrixCaseIds_doc _ _ _ _ hdocs

theorem mapM_docs {α β : Type} (f : Json → Except Exc β) (g : α → β) (R : Json → α → Prop)
    (hf : ∀ doc a, R doc a → f doc = .ok (g a)) (docs : List Json) (as : List α) (h : List.Forall₂ R docs as) :
    docs.mapM f = .ok (as.map g) := by
  induction h with
  | nil => rfl
  | cons hd _ ih =>
    rw [List.mapM_cons, hf _ _ hd, ih]
    rfl

theorem caseIds_doc (doc : Json) (expectation : ImplementationExpectation) (h : ExpectationDoc doc expectation) :
    caseIds doc = .ok (expectation.lanes.items.flatMap fun lane => idsFrom lane.laneId.val 1 lane.matrices.items) := by
  obtain ⟨obj, items, rfl, -, hitems, hdocs⟩ := h
  unfold caseIds
  rw [itemsOf_arr obj _ items hitems]
  simp only [bind, Except.bind]
  rw [mapM_docs laneCaseIds _ LaneDoc laneCaseIds_doc items _ hdocs]
  rfl

/-! ## The relation layer's loop -/

theorem get?_first (obj : List (Str × Json)) (name : String) (names : List String) (v : Json)
    (h : obj.lookup (lit name) = some v) : get? (.obj obj) (name :: names) = some v := by
  have hmember : member? (.obj obj) (lit name) = some v := h
  unfold get?
  rw [List.findSome?_cons, hmember]

theorem get?_next (obj : List (Str × Json)) (name : String) (names : List String)
    (h : obj.lookup (lit name) = none) : get? (.obj obj) (name :: names) = get? (.obj obj) names := by
  have hmember : member? (.obj obj) (lit name) = none := h
  unfold get?
  rw [List.findSome?_cons, hmember]

theorem field_of_get? (record : Json) (names : List String) (v : Json) (h : get? record names = some v) :
    field record names = .ok v.strOf := by
  unfold field Relations.get
  rw [h]
  rfl

theorem seq_arr (obj : List (Str × Json)) (name : String) (items : List Json)
    (h : obj.lookup (lit name) = some (.arr items)) : seq (.obj obj) [name] = .ok items := by
  unfold seq
  rw [get?_first obj name [] _ h]
  rfl

theorem field_named (doc : Json) (name : String) (h : Named doc) : ∃ id, field doc [name, "id"] = .ok id := by
  obtain ⟨obj, id, rfl, hid⟩ := h
  cases hn : obj.lookup (lit name) with
  | some v => exact ⟨_, field_of_get? _ _ v (get?_first obj name _ v hn)⟩
  | none => exact ⟨_, field_of_get? _ _ _ ((get?_next obj name _ hn).trans (get?_first obj "id" [] _ hid))⟩

/-- The checked product of dimensions that have values is their product, when a u64 holds it. -/
theorem checkedProduct_docs (docs : List Json) (dimensions : List MatrixDimension)
    (h : List.Forall₂ DimensionDoc docs dimensions) (count n : Nat) (hpos : 0 < count) (hcount : count ≤ u64Max) :
    docs.foldlM (fun product dimension => do
        checkedMul product (← dimensionValues dimension).length (lit "case-plan product")) count = .ok n ↔
      n = count * (dimensions.map (·.values.items.length)).prod ∧
        count * (dimensions.map (·.values.items.length)).prod ≤ u64Max := by
  induction h generalizing count with
  | nil => simp [pure, Except.pure, hcount, eq_comm]
  | @cons doc dimension docs dimensions hd _ ih =>
    obtain ⟨obj, values, rfl, hvalues, hlength⟩ := hd
    have hread : dimensionValues (.obj obj) = .ok values := by
      unfold dimensionValues
      simp only [hvalues]
      rfl
    have hsome : 0 < values.length := by
      rw [hlength]
      exact List.length_pos_iff.mpr dimension.values.nonempty
    have hrest : 0 < (dimensions.map (·.values.items.length)).prod := by
      apply List.prod_pos
      intro k hk
      obtain ⟨d, -, rfl⟩ := List.mem_map.mp hk
      exact List.length_pos_iff.mpr d.values.nonempty
    have hmul : 0 < count * values.length := Nat.mul_pos hpos hsome
    have hpart : count * values.length ≤ count * values.length * (dimensions.map (·.values.items.length)).prod :=
      Nat.le_mul_of_pos_right _ hrest
    have hlen : values.length ≤ count * values.length := Nat.le_mul_of_pos_left _ hpos
    rw [List.foldlM_cons, hread, List.map_cons, List.prod_cons, ← hlength, ← Nat.mul_assoc]
    simp only [bind_ok_iff, Except.ok.injEq, exists_eq_left', checkedMul_ok]
    constructor
    · rintro ⟨_, ⟨rfl, -, -, hle⟩, hfold⟩
      exact (ih _ hmul hle).mp hfold
    · rintro ⟨rfl, hle⟩
      have hfit : count * values.length ≤ u64Max := by omega
      exact ⟨_, ⟨rfl, hcount, by omega, hfit⟩, (ih _ hmul hfit).mpr ⟨rfl, hle⟩⟩

theorem matrixCount_doc (doc : Json) (matrix : Matrix) (h : MatrixDoc doc matrix) (n : Nat) :
    matrixCount doc = .ok n ↔ n = matrix.expandedCaseCount ∧ matrix.expandedCaseCount ≤ u64Max := by
  obtain ⟨obj, items, rfl, -, -, hitems, hdims⟩ := h
  unfold matrixCount
  rw [seq_arr obj _ items hitems]
  have := checkedProduct_docs items _ hdims 1 n (by omega) (by decide)
  simp only [Nat.one_mul] at this
  exact this

theorem expand_docs (laneId : Str) (ordinal : Nat) (docs : List Json) (matrices : List Matrix)
    (h : List.Forall₂ MatrixDoc docs matrices) (found : List Str) :
    expand laneId ordinal docs = .ok found ↔
      found = idsFrom laneId ordinal matrices ∧ ∀ matrix ∈ matrices, matrix.expandedCaseCount ≤ u64Max := by
  induction h generalizing ordinal found with
  | nil => simp [expand, idsFrom, eq_comm]
  | @cons doc matrix docs matrices hd _ ih =>
    have hcount := matrixCount_doc doc matrix hd
    obtain ⟨obj, items, rfl, hid, hno, -⟩ := hd
    have hfield : field (.obj obj) ["matrix_id", "id"] = .ok matrix.matrixId.val :=
      field_of_get? _ _ _ ((get?_next obj _ _ hno).trans (get?_first obj "id" [] _ hid))
    unfold expand idsFrom
    rw [hfield]
    simp only [bind_ok_iff, Except.ok.injEq, exists_eq_left', hcount, ih, pure, Except.pure, List.forall_mem_cons]
    constructor
    · rintro ⟨_, ⟨rfl, hfit⟩, _, ⟨rfl, hrest⟩, rfl⟩
      exact ⟨rfl, hfit, hrest⟩
    · rintro ⟨rfl, hfit, hrest⟩
      exact ⟨_, ⟨rfl, hfit⟩, _, ⟨rfl, hrest⟩, rfl⟩

/-- The lane that `_normalize` builds, apart from its ids. -/
theorem normalizeLane_doc (doc : Json) (lane : ExpectationLane) (h : LaneDoc doc lane) :
    ((∃ normal, normalizeLane doc = .ok normal) ↔
        ∀ matrix ∈ lane.matrices.items, matrix.expandedCaseCount ≤ u64Max) ∧
      ∀ normal, normalizeLane doc = .ok normal → normal.caseIds = idsFrom lane.laneId.val 1 lane.matrices.items := by
  obtain ⟨obj, matrices, cases, gates, artifacts, rfl, hid, hno, hmatrices, hdocs, hcases, hnamed, hgates, hgated,
    hartifacts⟩ := h
  have hfield : field (.obj obj) ["lane_id", "id"] = .ok lane.laneId.val :=
    field_of_get? _ _ _ ((get?_next obj _ _ hno).trans (get?_first obj "id" [] _ hid))
  obtain ⟨caseNames, hcaseNames⟩ := mapM_exists (field · ["case_id", "id"]) cases
    fun c hc => field_named c "case_id" (hnamed c hc)
  obtain ⟨gateNames, hgateNames⟩ := mapM_exists (field · ["gate_id", "id"]) gates
    fun g hg => field_named g "gate_id" (hgated g hg)
  have hnormal : ∀ normal, normalizeLane (.obj obj) = .ok normal ↔
      ∃ found, expand lane.laneId.val 1 matrices = .ok found ∧
        normal = ⟨lane.laneId.val, caseNames, found, gateNames, artifacts.map strOf⟩ := by
    intro normal
    unfold normalizeLane
    rw [hfield, seq_arr obj _ _ hmatrices, seq_arr obj _ _ hcases, seq_arr obj _ _ hgates, seq_arr obj _ _ hartifacts]
    simp only [bind_ok_iff, Except.ok.injEq, exists_eq_left', hcaseNames, hgateNames, pure, Except.pure]
    simp only [@eq_comm _ _ normal]
  simp only [hnormal, expand_docs _ _ _ _ hdocs]
  refine ⟨⟨?_, ?_⟩, ?_⟩
  · rintro ⟨_, _, ⟨-, hfit⟩, -⟩
    exact hfit
  · intro hfit
    exact ⟨_, _, ⟨rfl, hfit⟩, rfl⟩
  · rintro _ ⟨_, ⟨rfl, -⟩, rfl⟩
    rfl

theorem readLanes_doc (doc : Json) (expectation : ImplementationExpectation) (h : ExpectationDoc doc expectation) :
    ((∃ lanes, readLanes doc = .ok lanes) ↔ ∀ lane ∈ expectation.lanes.items, ∀ matrix ∈ lane.matrices.items,
        matrix.expandedCaseCount ≤ u64Max) ∧
      ∀ lanes, readLanes doc = .ok lanes → lanes.map (·.caseIds) =
        expectation.lanes.items.map fun lane => idsFrom lane.laneId.val 1 lane.matrices.items := by
  obtain ⟨obj, items, rfl, hvalue, hitems, hdocs⟩ := h
  have hread : readLanes (.obj obj) = items.mapM normalizeLane := by
    unfold readLanes valueOf
    rw [get?_next obj _ _ hvalue]
    simp only [get?, List.findSome?_nil, Option.getD_none]
    rw [seq_arr obj _ _ hitems]
    rfl
  rw [hread]
  clear hread hitems
  generalize expectation.lanes.items = lanes at hdocs
  induction hdocs with
  | nil => simp [pure, Except.pure]
  | @cons doc lane docs lanes hd _ ih =>
    obtain ⟨hexists, hids⟩ := normalizeLane_doc doc lane hd
    simp only [List.mapM_cons, bind_ok_iff, pure, Except.pure, Except.ok.injEq, List.forall_mem_cons]
    rw [← hexists, ← ih.1]
    refine ⟨⟨?_, ?_⟩, ?_⟩
    · rintro ⟨_, normal, hnormal, rest, hrest, -⟩
      exact ⟨⟨normal, hnormal⟩, rest, hrest⟩
    · rintro ⟨⟨normal, hnormal⟩, rest, hrest⟩
      exact ⟨_, normal, hnormal, rest, hrest, rfl⟩
    · rintro _ ⟨normal, hnormal, rest, hrest, rfl⟩
      rw [List.map_cons, List.map_cons, hids normal hnormal, ih.2 rest hrest]

/-! ## One case a combination -/

/-- `dict(zip(names, combination))` of a matrix. -/
def parametersOf (matrix : Matrix) (combination : List Json) : List (Str × Json) :=
  (matrix.dimensions.items.map (·.dimensionId.val)).zip combination

def combinations (matrix : Matrix) : List (List Json) := Table.product (matrix.dimensions.items.map (·.values.items))

theorem combinations_nodup (matrix : Matrix) : (combinations matrix).Nodup := by
  apply Table.product_nodup
  intro values hvalues
  obtain ⟨dimension, -, rfl⟩ := List.mem_map.mp hvalues
  exact dimension.values.distinct.of_map

theorem combination_length (matrix : Matrix) (combination : List Json) (h : combination ∈ combinations matrix) :
    (matrix.dimensions.items.map (·.dimensionId.val)).length = combination.length := by
  rw [Table.length_of_mem_product _ _ h, List.length_map, List.length_map]

theorem parameters_injective (matrix : Matrix) (c c' : List Json) (hc : c ∈ combinations matrix)
    (hc' : c' ∈ combinations matrix) (h : parametersOf matrix c = parametersOf matrix c') : c = c' := by
  have hsnd := congrArg (List.map Prod.snd) h
  unfold parametersOf at hsnd
  rwa [List.map_snd_zip (combination_length matrix c hc).ge, List.map_snd_zip (combination_length matrix c' hc').ge]
    at hsnd

theorem dictOf_parameters (matrix : Matrix) (c : List Json) (hc : c ∈ combinations matrix) :
    dictOf (parametersOf matrix c) = parametersOf matrix c := by
  apply dictOf_eq
  unfold parametersOf
  rw [List.map_fst_zip (combination_length matrix c hc).le]
  exact matrix.dimensions.distinct

/-- What a case of a matrix carries. -/
theorem mem_matrixCases (lane : ExpectationLane) (suite : LaneSuite) (ordinal : Nat) (matrix : Matrix)
    (case : PlannedCase) (h : case ∈ matrixCases lane suite ordinal matrix) :
    ∃ i c, (combinations matrix)[i]? = some c ∧ case.laneId = lane.laneId.val ∧ case.matrixId = matrix.matrixId.val ∧
      case.ordinal = ordinal + i ∧ case.caseId = caseId case.laneId case.matrixId case.ordinal ∧
      case.parameters = parametersOf matrix c := by
  unfold matrixCases at h
  obtain ⟨⟨c, i⟩, hmem, rfl⟩ := List.mem_map.mp h
  have hc : (combinations matrix)[i]? = some c := List.mk_mem_zipIdx_iff_getElem?.mp hmem
  exact ⟨i, c, hc, rfl, rfl, rfl, rfl, dictOf_parameters matrix c (List.mem_of_getElem? hc)⟩

theorem matrixCases_combination (lane : ExpectationLane) (suite : LaneSuite) (ordinal : Nat) (matrix : Matrix)
    (c : List Json) (hc : c ∈ combinations matrix) :
    ∃ case ∈ matrixCases lane suite ordinal matrix, case.parameters = parametersOf matrix c := by
  obtain ⟨i, hi⟩ := List.mem_iff_getElem?.mp hc
  refine ⟨_, List.mem_map_of_mem (List.mk_mem_zipIdx_iff_getElem?.mpr hi), ?_⟩
  exact dictOf_parameters matrix c hc

/-- Two cases of a matrix that have the same parameters are one. -/
theorem matrixCases_injective (lane : ExpectationLane) (suite : LaneSuite) (ordinal : Nat) (matrix : Matrix)
    (case case' : PlannedCase) (h : case ∈ matrixCases lane suite ordinal matrix)
    (h' : case' ∈ matrixCases lane suite ordinal matrix) (hsame : case.parameters = case'.parameters) :
    case = case' := by
  unfold matrixCases at h h'
  obtain ⟨⟨c, i⟩, hmem, rfl⟩ := List.mem_map.mp h
  obtain ⟨⟨c', i'⟩, hmem', rfl⟩ := List.mem_map.mp h'
  have hc : (combinations matrix)[i]? = some c := List.mk_mem_zipIdx_iff_getElem?.mp hmem
  have hc' : (combinations matrix)[i']? = some c' := List.mk_mem_zipIdx_iff_getElem?.mp hmem'
  have hin := List.mem_of_getElem? hc
  have hin' := List.mem_of_getElem? hc'
  have hpar : parametersOf matrix c = parametersOf matrix c' := by
    rw [← dictOf_parameters matrix c hin, ← dictOf_parameters matrix c' hin']
    exact hsame
  have heq := parameters_injective matrix c c' hin hin' hpar
  subst heq
  have hlt : i < (combinations matrix).length := (List.getElem?_eq_some_iff.mp hc).1
  have hi : i = i' := (List.getElem?_inj hlt (combinations_nodup matrix)).mp (hc.trans hc'.symm)
  rw [hi]

theorem mem_plannedCases (lane : ExpectationLane) (suite : LaneSuite) (ordinal : Nat) (matrices : List Matrix)
    (case : PlannedCase) (h : case ∈ plannedCases lane suite ordinal matrices) :
    ∃ matrix ∈ matrices, ∃ start, case ∈ matrixCases lane suite start matrix := by
  induction matrices generalizing ordinal with
  | nil => simp [plannedCases] at h
  | cons matrix matrices ih =>
    unfold plannedCases at h
    rcases List.mem_append.mp h with h | h
    · exact ⟨matrix, by simp, ordinal, h⟩
    · obtain ⟨m, hm, start, hstart⟩ := ih _ h
      exact ⟨m, by simp [hm], start, hstart⟩

theorem matrixId_of_mem (lane : ExpectationLane) (suite : LaneSuite) (ordinal : Nat) (matrices : List Matrix)
    (case : PlannedCase) (h : case ∈ plannedCases lane suite ordinal matrices) :
    case.matrixId ∈ matrices.map (·.matrixId.val) := by
  obtain ⟨m, hm, start, hcase⟩ := mem_plannedCases _ _ _ _ _ h
  obtain ⟨_, _, -, -, hid, -⟩ := mem_matrixCases _ _ _ _ _ hcase
  rw [hid]
  exact List.mem_map_of_mem hm

/-- The cases that bear the id of a matrix are the ones that were expanded from it. -/
theorem plannedCases_of_matrix (lane : ExpectationLane) (suite : LaneSuite) (ordinal : Nat) (matrices : List Matrix)
    (hdistinct : (matrices.map (·.matrixId.val)).Nodup) (matrix : Matrix) (h : matrix ∈ matrices) :
    ∃ start, ∀ case, case ∈ plannedCases lane suite ordinal matrices ∧ case.matrixId = matrix.matrixId.val ↔
      case ∈ matrixCases lane suite start matrix := by
  induction matrices generalizing ordinal with
  | nil => cases h
  | cons first matrices ih =>
    rw [List.map_cons, List.nodup_cons] at hdistinct
    have hown : ∀ case m, case ∈ matrixCases lane suite ordinal m → case.matrixId = m.matrixId.val := by
      intro case m hcase
      obtain ⟨_, _, -, -, hid, -⟩ := mem_matrixCases _ _ _ _ _ hcase
      exact hid
    unfold plannedCases
    rcases List.mem_cons.mp h with rfl | h
    · refine ⟨ordinal, fun case => ⟨?_, fun hcase => ⟨List.mem_append_left _ hcase, hown case _ hcase⟩⟩⟩
      rintro ⟨hcase, hid⟩
      rcases List.mem_append.mp hcase with hcase | hcase
      · exact hcase
      · exact absurd (hid ▸ matrixId_of_mem _ _ _ _ _ hcase) hdistinct.1
    · obtain ⟨start, hstart⟩ := ih (ordinal + (matrixCases lane suite ordinal first).length) hdistinct.2 h
      refine ⟨start, fun case => ⟨?_, fun hcase => ?_⟩⟩
      · rintro ⟨hcase, hid⟩
        rcases List.mem_append.mp hcase with hcase | hcase
        · have hsame : matrix.matrixId.val = first.matrixId.val := hid.symm.trans (hown case first hcase)
          exact absurd (hsame ▸ List.mem_map_of_mem h) hdistinct.1
        · exact (hstart case).mp ⟨hcase, hid⟩
      · obtain ⟨hcase, hid⟩ := (hstart case).mpr hcase
        exact ⟨List.mem_append_right _ hcase, hid⟩

/-- The plan of a lane: one case a combination, and ids that tell its cases apart. -/
structure PlanOf (lane : ExpectationLane) (plan : CasePlan) : Prop where
  laneId : plan.laneId = lane.laneId.val
  count : plan.cases.length =
    (lane.matrices.items.map fun m => (m.dimensions.items.map (·.values.items.length)).prod).sum
  once : ∀ matrix ∈ lane.matrices.items, ∀ combination,
    List.Forall₂ (· ∈ ·) combination (matrix.dimensions.items.map (·.values.items)) →
      ∃! case, case ∈ plan.cases ∧ case.matrixId = matrix.matrixId.val ∧
        case.parameters = (matrix.dimensions.items.map (·.dimensionId.val)).zip combination
  distinct : (ids plan.cases).Nodup

theorem planOf (lane : ExpectationLane) (suite : LaneSuite) :
    PlanOf lane ⟨lane.laneId.val, suite.suiteId.val, plannedCases lane suite 1 lane.matrices.items⟩ where
  laneId := rfl
  count := plannedCases_length _ _ _ _
  once := by
    intro matrix hmatrix combination hcombination
    have hc : combination ∈ combinations matrix := (Table.mem_product _ _).mpr hcombination
    obtain ⟨start, hstart⟩ := plannedCases_of_matrix lane suite 1 _ lane.matrices.distinct matrix hmatrix
    obtain ⟨case, hcase, hparameters⟩ := matrixCases_combination lane suite start matrix combination hc
    obtain ⟨hplanned, hid⟩ := (hstart case).mpr hcase
    refine ⟨case, ⟨hplanned, hid, hparameters⟩, ?_⟩
    rintro other ⟨hother, hotherId, hotherParameters⟩
    exact matrixCases_injective lane suite start matrix other case ((hstart other).mp ⟨hother, hotherId⟩) hcase
      (hotherParameters.trans hparameters.symm)
  distinct := by
    rw [plannedCases_ids]
    exact idsFrom_nodup _ _ _

theorem mapM_expandCasePlan (suites : ExpectationLane → LaneSuite) (lanes : List ExpectationLane) :
    lanes.mapM (fun lane => expandCasePlan lane (suites lane)) = .ok (lanes.map fun lane =>
      ⟨lane.laneId.val, (suites lane).suiteId.val, plannedCases lane (suites lane) 1 lane.matrices.items⟩) :=
  mapM_ok _ _ _ fun lane _ => expandCasePlan_ok lane (suites lane)

/-- An id names its ordinal, and the lane and the matrix as one text. -/
theorem caseId_eq (laneId matrixId laneId' matrixId' : Str) (n n' : Nat)
    (h : caseId laneId matrixId n = caseId laneId' matrixId' n') :
    n = n' ∧ laneId ++ lit "." ++ matrixId = laneId' ++ lit "." ++ matrixId' := by
  have hn := congrArg ordinalOf h
  rw [ordinalOf_caseId, ordinalOf_caseId] at hn
  subst hn
  unfold caseId at h
  exact ⟨rfl, List.append_cancel_right (List.append_cancel_right h)⟩

theorem plannedCases_caseId (lane : ExpectationLane) (suite : LaneSuite) (ordinal : Nat) (matrices : List Matrix)
    (case : PlannedCase) (h : case ∈ plannedCases lane suite ordinal matrices) :
    case.caseId = caseId case.laneId case.matrixId case.ordinal := by
  obtain ⟨_, -, _, hcase⟩ := mem_plannedCases _ _ _ _ _ h
  obtain ⟨_, _, -, -, -, -, hid, -⟩ := mem_matrixCases _ _ _ _ _ hcase
  exact hid

/-! ## The expanders of one document -/

/-- The three loops number the same cases. Two lanes share an id only where their lane and matrix ids join to one
text; the relation layer refuses a matrix whose product no u64 holds. -/
theorem expanders_agree (files : Files) (path : Str) (raw : Json) (expectation : ImplementationExpectation)
    (suites : ExpectationLane → LaneSuite) (h : loadExpectation files path raw = .ok expectation) :
    ∃ plans, expectation.lanes.items.mapM (fun lane => expandCasePlan lane (suites lane)) = .ok plans ∧
      caseIds raw = .ok (plans.flatMap fun plan => ids plan.cases) ∧
      (∀ catalog ledger tables, Relations.normalize catalog raw ledger = .ok tables →
        tables.lanes.map (·.caseIds) = plans.map fun plan => ids plan.cases) ∧
      ((∃ lanes, readLanes raw = .ok lanes) ↔ ∀ lane ∈ expectation.lanes.items, ∀ matrix ∈ lane.matrices.items,
        (matrix.dimensions.items.map (·.values.items.length)).prod ≤ u64Max) ∧
      List.Forall₂ PlanOf expectation.lanes.items plans ∧
      ∀ plan ∈ plans, ∀ plan' ∈ plans, ∀ case ∈ plan.cases, ∀ case' ∈ plan'.cases, case.caseId = case'.caseId →
        case.ordinal = case'.ordinal ∧
          case.laneId ++ lit "." ++ case.matrixId = case'.laneId ++ lit "." ++ case'.matrixId := by
  have hdoc := loadExpectation_doc files path raw expectation h
  obtain ⟨hexists, hlanes⟩ := readLanes_doc raw expectation hdoc
  refine ⟨_, mapM_expandCasePlan suites _, ?_, ?_, hexists, ?_, ?_⟩
  · rw [caseIds_doc raw expectation hdoc, List.flatMap_map]
    simp only [plannedCases_ids]
  · intro catalog ledger tables hnormal
    unfold Relations.normalize at hnormal
    obtain ⟨lanes, hread, hnormal⟩ := bind_ok_iff.mp hnormal
    have htables : tables.lanes = lanes := by
      simp only [bind_ok_iff, pure, Except.pure, Except.ok.injEq] at hnormal
      obtain ⟨_, -, _, -, _, -, _, -, _, -, _, -, _, -, _, -, _, -, _, -, _, -, _, -, _, -, _, -, rfl⟩ := hnormal
      rfl
    rw [htables, hlanes lanes hread, List.map_map]
    apply List.map_congr_left
    intro lane _
    exact (plannedCases_ids _ _ _ _).symm
  · rw [List.forall₂_map_right_iff, List.forall₂_same]
    exact fun lane _ => planOf lane (suites lane)
  · simp only [List.mem_map, forall_exists_index, and_imp, forall_apply_eq_imp_iff₂]
    intro lane _ lane' _ case hcase case' hcase' hid
    rw [plannedCases_caseId _ _ _ _ _ hcase, plannedCases_caseId _ _ _ _ _ hcase'] at hid
    exact caseId_eq _ _ _ _ _ _ hid

/-! ## Two documents -/

def text (s : String) : Json := .str (lit s)

def fields (members : List (String × Json)) : Json := .obj (members.map fun p => (lit p.1, p.2))

def sampleGate (gateId : String) (expected : Int) : Json := fields [("id", text gateId), ("metric", text "m"),
  ("operator", text "eq"), ("expected", .int expected), ("unit", text "count"),
  ("threshold_source", text "benchmark_contract"), ("evidence", .arr [text "e"])]

/-- A lane whose matrix has so many dimensions of two values. -/
def sampleLane (laneId matrixId : String) (dimensions : Nat) (gates : List Json) : Json := fields [("id", text laneId),
  ("layer", text "core"), ("description", text "d"), ("required", .bool true),
  ("implementation_sources", .arr [text "s"]),
  ("harness", fields [("protocol", text "p"), ("runner", text "r"), ("suite", text "suite.json")]),
  ("matrices", .arr [fields [("id", text matrixId), ("dimensions", .arr ((List.range dimensions).map fun n =>
    .obj [(lit "id", .str (lit "d" ++ natText n)), (lit "values", .arr [.bool true, .int 1])]))]]),
  ("cases", .arr [fields [("id", text "c"), ("requirement", text "r")]]), ("gates", .arr gates),
  ("required_artifacts", .arr [text "a"]), ("claim_scope", .arr [text "claim"])]

def sampleDocument (lanes : List Json) : Json := fields [("schema_version", .str schemaV2), ("id", text "x"),
  ("description", text "d"),
  ("source_contract", fields [("repository", text "r"), ("revision", .str (List.replicate 40 (cp 97))),
    ("clean_required", .bool true)]),
  ("certification_policy", .obj ((expectedPolicy schemaV2).map fun p => (lit p.1, .str p.2))), ("lanes", .arr lanes)]

def sampleFiles : Files where
  resolve name := name
  isFile _ := true
  reconciliation _ := .missing []

/-- Two lanes whose first cases are both `a.b.c.0001`. -/
def sharedDocument : Json := sampleDocument [sampleLane "a" "b.c" 1 [sampleGate "g" 0],
  sampleLane "a.b" "c" 1 [sampleGate "g" 0]]

/-- One lane of 2^64 cases. -/
def hugeDocument : Json := sampleDocument [sampleLane "a" "b" 64 [sampleGate "g" 0]]

def sampleSuite : LaneSuite where
  suiteId := ⟨lit "suite", by decide⟩
  laneId := ⟨lit "a", by decide⟩
  protocol := ⟨lit "p", by decide⟩
  runner := ⟨lit "r", by decide⟩
  adapterCategory := .core
  matrixIds := []
  behaviorCaseIds := [lit "c"]
  gateIds := []
  operations := [lit "execute"]
  metrics := []
  requirements := ⟨.coreAdapter, false, [], []⟩

/-- An accepted document whose ids repeat, and one whose cases the relation layer refuses to number. -/
theorem expanders_disagree :
    ((loadExpectation sampleFiles (lit "x.json") sharedDocument).toOption.isSome = true ∧
      ∃ found, caseIds sharedDocument = .ok found ∧ ¬ found.Nodup) ∧
    (loadExpectation sampleFiles (lit "x.json") hugeDocument).toOption.isSome = true ∧
      (readLanes hugeDocument).toOption.isSome = false := by
  refine ⟨⟨by decide +kernel, ?_⟩, by decide +kernel, by decide +kernel⟩
  obtain ⟨found, hfound⟩ := ok_of_isSome (caseIds sharedDocument) (by decide +kernel)
  refine ⟨found, hfound, ?_⟩
  have hrepeat : ∀ found ∈ (caseIds sharedDocument).toOption, ¬ found.Nodup := by decide +kernel
  exact hrepeat found (by rw [hfound]; rfl)

theorem expanders_agree_sample : ∃ expectation, loadExpectation sampleFiles (lit "x.json") sharedDocument = .ok expectation ∧
    ∃ plans, expectation.lanes.items.mapM (fun lane => expandCasePlan lane sampleSuite) = .ok plans ∧
      caseIds sharedDocument = .ok (plans.flatMap fun plan => ids plan.cases) := by
  obtain ⟨expectation, h⟩ := ok_of_isSome (loadExpectation sampleFiles (lit "x.json") sharedDocument)
    (by decide +kernel)
  obtain ⟨plans, hplans, hids, -⟩ := expanders_agree sampleFiles (lit "x.json") sharedDocument expectation
    (fun _ => sampleSuite) h
  exact ⟨expectation, h, plans, hplans, hids⟩

end TurnVector.Lanes
