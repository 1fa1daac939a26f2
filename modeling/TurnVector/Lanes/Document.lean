import TurnVector.Lanes.Suite

/-! # What an accepted expectation document holds -/

namespace TurnVector.Lanes

open Python Json Relations
open Canonical (Identifier readItem requireMembers requireArray requireString requireIdentifier itemAt)

/-! ## Readers that returned -/

theorem readItem_ok (obj : List (Str × Json)) (name : String) (v : Json) :
    readItem obj name = .ok v ↔ obj.lookup (lit name) = some v := by
  unfold readItem
  cases obj.lookup (lit name) with
  | none => simp
  | some w => simp

theorem requireMembers_ok (value : Json) (place : Str) (obj : List (Str × Json)) :
    requireMembers value place = .ok obj ↔ value = .obj obj := by
  unfold requireMembers
  cases value <;> simp [Canonical.reject]

theorem requireArray_ok (value : Json) (place : Str) (items : List Json) :
    requireArray value place = .ok items ↔ value = .arr items := by
  unfold requireArray
  cases value <;> simp [Canonical.reject]

theorem requireIdentifier_ok (value : Json) (place : Str) (id : Identifier)
    (h : requireIdentifier value place = .ok id) : value = .str id.val := by
  unfold requireIdentifier at h
  rw [bind_ok_iff] at h
  obtain ⟨text, htext, h⟩ := h
  have hvalue : value = .str text := by
    unfold requireString at htext
    split at htext
    · cases htext
      rfl
    · cases htext
  split at h
  · cases h
    exact hvalue
  · cases h

theorem readAt_ok {α : Type} (reader : Json → Str → Except Exc α) (obj : List (Str × Json)) (name : String)
    (place : Str) (a : α) (h : readAt reader obj name place = .ok a) :
    ∃ v, obj.lookup (lit name) = some v ∧ reader v (memberAt place name) = .ok a := by
  unfold readAt at h
  rw [bind_ok_iff] at h
  obtain ⟨v, hv, h⟩ := h
  exact ⟨v, (readItem_ok obj name v).mp hv, h⟩

/-- A strict record holds no field but its own. -/
theorem strictKeys_ok (obj : List (Str × Json)) (required optional : List String) (place name : Str)
    (h : strictKeys obj required optional place = .ok ()) (hname : name ∉ (required ++ optional).map lit) :
    obj.lookup name = none := by
  unfold strictKeys at h
  dsimp only at h
  split at h
  · cases h
  · split at h
    · cases h
    · rename_i hunknown
      simp only [Bool.not_eq_true', Bool.not_eq_false, List.isEmpty_iff, List.filter_eq_nil_iff] at hunknown
      rw [List.lookup_eq_none_iff]
      intro p hp
      have := hunknown p.1 (List.mem_map_of_mem hp)
      simp only [occurs_iff] at this
      rw [bne_iff_ne]
      rintro rfl
      exact hname this

theorem record_ok (value : Json) (required optional : List String) (place : Str) (obj : List (Str × Json))
    (h : record value required optional place = .ok obj) :
    value = .obj obj ∧ ∀ name, name ∉ (required ++ optional).map lit → obj.lookup name = none := by
  unfold record at h
  rw [bind_ok_iff] at h
  obtain ⟨found, hfound, h⟩ := h
  rw [then_ok_iff] at h
  obtain ⟨hkeys, h⟩ := h
  cases h
  exact ⟨(requireMembers_ok value place obj).mp hfound, fun name hname => strictKeys_ok _ _ _ _ _ hkeys hname⟩

theorem parseItems_ok {α : Type} {parser : Json → Str → Except Exc α} {items : List Json} {place : Str}
    {parsed : List α} (R : Json → α → Prop) (hR : ∀ v p a, parser v p = .ok a → R v a)
    (h : parseItems parser items place = .ok parsed) : List.Forall₂ R items parsed := by
  have hpairs := (forall₂_of_mapM h).imp fun item a ha => hR item.1 _ a ha
  have := List.forall₂_map_left_iff.mpr hpairs
  rwa [List.zipIdx_map_fst] at this

theorem listed_ok {α : Type} {key : α → Str} {items : List α} {place : Str} {repeated : String}
    {xs : Listed α key} (h : listed key items place repeated = .ok xs) : xs.items = items := by
  unfold listed at h
  split at h
  · cases h
  · split at h
    · cases h
      rfl
    · cases h

/-! ## The documents of the records -/

def DimensionDoc (doc : Json) (dimension : MatrixDimension) : Prop :=
  ∃ obj items, doc = .obj obj ∧ obj.lookup (lit "values") = some (.arr items) ∧
    items.length = dimension.values.items.length

def MatrixDoc (doc : Json) (matrix : Matrix) : Prop :=
  ∃ obj items, doc = .obj obj ∧ obj.lookup (lit "id") = some (.str matrix.matrixId.val) ∧
    obj.lookup (lit "matrix_id") = none ∧ obj.lookup (lit "dimensions") = some (.arr items) ∧
    List.Forall₂ DimensionDoc items matrix.dimensions.items

/-- A record that has an id. -/
def Named (doc : Json) : Prop := ∃ obj id, doc = .obj obj ∧ obj.lookup (lit "id") = some (.str id)

def LaneDoc (doc : Json) (lane : ExpectationLane) : Prop :=
  ∃ obj matrices cases gates artifacts, doc = .obj obj ∧ obj.lookup (lit "id") = some (.str lane.laneId.val) ∧
    obj.lookup (lit "lane_id") = none ∧ obj.lookup (lit "matrices") = some (.arr matrices) ∧
    List.Forall₂ MatrixDoc matrices lane.matrices.items ∧ obj.lookup (lit "cases") = some (.arr cases) ∧
    (∀ doc ∈ cases, Named doc) ∧ obj.lookup (lit "gates") = some (.arr gates) ∧ (∀ doc ∈ gates, Named doc) ∧
    obj.lookup (lit "required_artifacts") = some (.arr artifacts)

def ExpectationDoc (doc : Json) (expectation : ImplementationExpectation) : Prop :=
  ∃ obj items, doc = .obj obj ∧ obj.lookup (lit "value") = none ∧ obj.lookup (lit "lanes") = some (.arr items) ∧
    List.Forall₂ LaneDoc items expectation.lanes.items

theorem parseDimension_doc (value : Json) (place : Str) (dimension : MatrixDimension)
    (h : parseDimension value place = .ok dimension) : DimensionDoc value dimension := by
  unfold parseDimension at h
  simp only [bind_ok_iff] at h
  obtain ⟨obj, hobj, items, hitems, parsed, hparsed, values, hvalues, id, -, h⟩ := h
  cases h
  obtain ⟨v, hv, harr⟩ := readAt_ok _ _ _ _ _ hitems
  rw [requireArray_ok] at harr
  subst harr
  refine ⟨obj, items, (record_ok _ _ _ _ _ hobj).1, hv, ?_⟩
  rw [listed_ok hvalues]
  exact (parseItems_ok (fun _ _ => True) (fun _ _ _ _ => trivial) hparsed).length_eq

theorem parseMatrix_doc (value : Json) (place : Str) (matrix : Matrix) (h : parseMatrix value place = .ok matrix) :
    MatrixDoc value matrix := by
  unfold parseMatrix at h
  simp only [bind_ok_iff] at h
  obtain ⟨obj, hobj, items, hitems, parsed, hparsed, dimensions, hdimensions, id, hid, h⟩ := h
  cases h
  obtain ⟨v, hv, harr⟩ := readAt_ok _ _ _ _ _ hitems
  rw [requireArray_ok] at harr
  subst harr
  obtain ⟨w, hw, hidentifier⟩ := readAt_ok _ _ _ _ _ hid
  rw [requireIdentifier_ok _ _ _ hidentifier] at hw
  refine ⟨obj, items, (record_ok _ _ _ _ _ hobj).1, hw, ?_, hv, ?_⟩
  · exact (record_ok _ _ _ _ _ hobj).2 _ (by decide)
  · rw [listed_ok hdimensions]
    exact parseItems_ok DimensionDoc (fun v p d hd => parseDimension_doc v p d hd) hparsed

theorem parseCase_named (value : Json) (place : Str) (case : BehaviorCase) (h : parseCase value place = .ok case) :
    Named value := by
  unfold parseCase at h
  simp only [bind_ok_iff] at h
  obtain ⟨obj, hobj, id, hid, -⟩ := h
  obtain ⟨v, hv, hidentifier⟩ := readAt_ok _ _ _ _ _ hid
  rw [requireIdentifier_ok _ _ _ hidentifier] at hv
  exact ⟨obj, id.val, (record_ok _ _ _ _ _ hobj).1, hv⟩

theorem parseGate_named (value : Json) (place : Str) (gate : Gate) (h : parseGate value place = .ok gate) :
    Named value := by
  unfold parseGate at h
  simp only [bind_ok_iff] at h
  obtain ⟨obj, hobj, _, -, _, -, _, -, _, -, id, hid, -⟩ := h
  obtain ⟨v, hv, hidentifier⟩ := readAt_ok _ _ _ _ _ hid
  rw [requireIdentifier_ok _ _ _ hidentifier] at hv
  exact ⟨obj, id.val, (record_ok _ _ _ _ _ hobj).1, hv⟩

theorem named_of_parseItems {α : Type} (parser : Json → Str → Except Exc α)
    (hparser : ∀ v p a, parser v p = .ok a → Named v) (items : List Json) (place : Str) (parsed : List α)
    (h : parseItems parser items place = .ok parsed) : ∀ doc ∈ items, Named doc := by
  have hall := parseItems_ok (fun v _ => Named v) hparser h
  intro doc hdoc
  obtain ⟨i, hi, rfl⟩ := List.getElem_of_mem hdoc
  have hj : i < parsed.length := hall.length_eq ▸ hi
  exact List.forall₂_iff_get.mp hall |>.2 i hi hj

theorem parseLane_doc (files : Files) (schemaVersion : Str) (value : Json) (place : Str) (lane : ExpectationLane)
    (h : parseLane files schemaVersion value place = .ok lane) : LaneDoc value lane := by
  unfold parseLane at h
  simp only [bind_ok_iff] at h
  obtain ⟨obj, hobj, _, -, _, -, _, -, _, -, rawMatrices, hrawMatrices, matrices', hmatrices', rawCases, hrawCases,
    cases', hcases', rawGates, hrawGates, gates', hgates', _, -, _, -, _, -, matrices, hmatrices, cases, -, gates, -,
    laneId, hlaneId, layer, -, description, -, required, -, sources, -, artifacts, hartifacts, claimScope, -, h⟩ := h
  cases h
  have hrecord := record_ok _ _ _ _ _ hobj
  obtain ⟨m, hm, hmarr⟩ := readAt_ok _ _ _ _ _ hrawMatrices
  obtain ⟨c, hc, hcarr⟩ := readAt_ok _ _ _ _ _ hrawCases
  obtain ⟨g, hg, hgarr⟩ := readAt_ok _ _ _ _ _ hrawGates
  obtain ⟨i, hi, hidentifier⟩ := readAt_ok _ _ _ _ _ hlaneId
  obtain ⟨a, ha, haarr⟩ := readAt_ok _ _ _ _ _ hartifacts
  rw [requireArray_ok] at hmarr hcarr hgarr
  subst hmarr hcarr hgarr
  rw [requireIdentifier_ok _ _ _ hidentifier] at hi
  unfold stringArray at haarr
  rw [bind_ok_iff] at haarr
  obtain ⟨rawArtifacts, hraw, -⟩ := haarr
  rw [requireArray_ok] at hraw
  subst hraw
  refine ⟨obj, rawMatrices, rawCases, rawGates, rawArtifacts, hrecord.1, hi, hrecord.2 _ (by decide), hm, ?_, hc, ?_,
    hg, ?_, ha⟩
  · rw [listed_ok hmatrices]
    exact parseItems_ok MatrixDoc (fun v p m hm => parseMatrix_doc v p m hm) hmatrices'
  · exact named_of_parseItems parseCase parseCase_named _ _ _ hcases'
  · exact named_of_parseItems parseGate parseGate_named _ _ _ hgates'

theorem loadExpectation_doc (files : Files) (path : Str) (raw : Json) (expectation : ImplementationExpectation)
    (h : loadExpectation files path raw = .ok expectation) : ExpectationDoc raw expectation := by
  unfold loadExpectation at h
  simp only [bind_ok_iff] at h
  obtain ⟨obj, hobj, _, hkeys, _, -, _, -, _, -, _, -, _, -, items, hitems, parsed, hparsed,
    lanes, hlanes, _, -, _, -, _, -, _, -, _, -, h⟩ := h
  cases h
  obtain ⟨v, hv, harr⟩ := readAt_ok _ _ _ _ _ hitems
  rw [requireArray_ok] at harr
  subst harr
  rw [requireMembers_ok] at hobj
  refine ⟨obj, items, hobj, strictKeys_ok _ _ _ _ _ hkeys ?_, hv, ?_⟩
  · split <;> decide
  · rw [listed_ok hlanes]
    exact parseItems_ok LaneDoc (fun v p l hl => parseLane_doc files _ v p l hl) hparsed

end TurnVector.Lanes
