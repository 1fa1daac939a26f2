import TurnVector.Lanes.Completeness

/-! # Thresholds of gates

`resolve_gate_threshold` and `validate_certification_contract` of `lane_contract.py`, and the thresholds that the
controller freezes before a run. Thresholds and metrics are kept by the metric's name.
-/

namespace TurnVector.Lanes

open Python Json Effects
open LaneController (Raised contractError)

/-! ## Certification records -/

/-- The fields of a `CertificationRecord` that thresholds are read from. -/
structure CertificationRecord where
  recordId : Str
  protocolVersion : Str
  matrixApplicability : List (Str × List Json)
  thresholds : List (Str × List (Str × Json))

/-- `CertificationRecord.threshold` -/
def CertificationRecord.threshold (record : CertificationRecord) (laneId : Str) (gate : Gate) : Except Raised Json :=
  match (record.thresholds.lookup laneId).bind fun values => values.lookup gate.metric.val with
  | some value => .ok value
  | none => contractError (lit "certification record " ++ strRepr record.recordId ++
      lit " has no pre-run threshold for " ++ laneId ++ lit "." ++ gate.metric.val)

/-- `resolve_gate_threshold` -/
def resolveGateThreshold (laneId : Str) (gate : Gate) (record : Option CertificationRecord) : Except Raised Json :=
  match gate.thresholdSource, record with
  | .certificationRecord, none =>
    contractError (lit "lane " ++ strRepr laneId ++ lit " requires a candidate certification record before execution")
  | .certificationRecord, some record => record.threshold laneId gate
  | _, _ => .ok gate.expected

def certifiedMetrics (lane : ExpectationLane) : List Str :=
  (lane.gates.items.filter fun gate => gate.thresholdSource = .certificationRecord).map (·.metric.val)

/-- The values of a dimension over the whole expectation, as `json.dumps` writes them. -/
def dimensionDomain (expectation : ImplementationExpectation) (dimensionId : Str) : List Str :=
  expectation.lanes.items.flatMap fun lane => lane.matrices.items.flatMap fun matrix =>
    (matrix.dimensions.items.filter fun d => d.dimensionId.val = dimensionId).flatMap fun d =>
      d.values.items.map scalarText

def dimensionIds (expectation : ImplementationExpectation) : List Str :=
  (expectation.lanes.items.flatMap fun lane => lane.matrices.items.flatMap fun matrix =>
    matrix.dimensions.items.map (·.dimensionId.val)).eraseDups

def checkDomain (record : CertificationRecord) (expectation : ImplementationExpectation) (dimensionId : Str) :
    Except Raised Unit :=
  let observed := ((record.matrixApplicability.lookup dimensionId).getD []).map scalarText
  if sameSet observed (dimensionDomain expectation dimensionId) then .ok ()
  else contractError (lit "certification record applicability for " ++ strRepr dimensionId ++
    lit " must exactly cover the qualification domain")

def checkThresholdLane (record : CertificationRecord) (lane : ExpectationLane) : Except Raised Unit :=
  let observed := ((record.thresholds.lookup lane.laneId.val).getD []).map Prod.fst
  if sameSet observed (certifiedMetrics lane) then .ok ()
  else contractError (lit "certification record thresholds for " ++ strRepr lane.laneId.val ++
    lit " must exactly match certification-sourced gates")

/-- `validate_certification_contract` -/
def validateCertificationContract (record : CertificationRecord) (expectation : ImplementationExpectation) :
    Except Raised Unit := do
  let expected := dimensionIds expectation
  let observed := record.matrixApplicability.map Prod.fst
  let difference := fun left right => listRepr ((left.filter fun name => !occurs name right).insertionSort
    fun a b => a ≤ b)
  let certified := expectation.lanes.items.filter fun lane => !(certifiedMetrics lane).isEmpty
  if record.protocolVersion ≠ lit "turnvector.benchmark.subject.v1" then
    contractError (lit "certification record protocol does not match SubjectAdapter v1")
  else if !sameSet observed expected then
    contractError (lit "certification record matrix applicability must cover every qualification dimension exactly: " ++
      lit "missing=" ++ difference expected observed ++ lit ", unknown=" ++ difference observed expected)
  else do
    expected.forM (checkDomain record expectation)
    if sameSet (record.thresholds.map Prod.fst) (certified.map (·.laneId.val)) then
      certified.forM (checkThresholdLane record)
    else contractError (lit "certification record threshold lanes must exactly match the expectation")

/-! ## The frozen thresholds -/

structure ThresholdFailure where
  gateId : Str
  metric : Str
  message : Str
  deriving DecidableEq

/-- `_pre_run_threshold_manifest`, one gate. -/
def freezeGate (laneId : Str) (record : Option CertificationRecord) (frozen : List (Str × Json) × List ThresholdFailure)
    (gate : Gate) : List (Str × Json) × List ThresholdFailure :=
  match resolveGateThreshold laneId gate record with
  | .ok value => (setItem frozen.1 gate.metric.val value, frozen.2)
  | .error error => (frozen.1, frozen.2 ++ [⟨gate.gateId.val, gate.metric.val, error.text⟩])

/-- `_pre_run_threshold_manifest`, one lane: its values and its failures. -/
def preRunThresholds (lane : ExpectationLane) (record : Option CertificationRecord) :
    List (Str × Json) × List ThresholdFailure :=
  lane.gates.items.foldl (freezeGate lane.laneId.val record) ([], [])

theorem preRunThresholds_lookup (lane : ExpectationLane) (record : Option CertificationRecord) (metric : Str)
    (value : Json) (h : (preRunThresholds lane record).1.lookup metric = some value) :
    ∃ gate ∈ lane.gates.items, gate.metric.val = metric ∧
      resolveGateThreshold lane.laneId.val gate record = .ok value := by
  unfold preRunThresholds at h
  generalize lane.gates.items = gates at h
  induction gates using List.reverseRecOn with
  | nil => cases h
  | append_singleton gates gate ih =>
    rw [List.foldl_append, List.foldl_cons, List.foldl_nil] at h
    have hearlier : (gates.foldl (freezeGate lane.laneId.val record) ([], [])).1.lookup metric = some value →
        ∃ g ∈ gates ++ [gate], g.metric.val = metric ∧ resolveGateThreshold lane.laneId.val g record = .ok value := by
      intro hprior
      obtain ⟨g, hg, hrest⟩ := ih hprior
      exact ⟨g, by simp [hg], hrest⟩
    unfold freezeGate at h
    split at h
    · rename_i resolved hresolved
      rw [lookup_setItem] at h
      split at h
      · rename_i hmetric
        cases h
        exact ⟨gate, by simp, hmetric.symm, hresolved⟩
      · exact hearlier h
    · exact hearlier h

/-! ## Suites -/

theorem loadLaneSuite_recipes (files : SuiteFiles) (path : Str) (raw : Json) (lane : ExpectationLane)
    (suite : LaneSuite) (h : loadLaneSuite files path raw lane = .ok suite) :
    suite.metrics.map (·.metric) = lane.gates.items.map (·.metric) := by
  unfold loadLaneSuite at h
  simp only [bind_ok_iff, pure, Except.pure, Except.ok.injEq] at h
  obtain ⟨_, -, _, -, _, -, _, -, _, -, _, -, _, -, _, -, _, -, _, -, _, -, _, -, _, -, _, -, _, -, _, -, _, -, metrics, -,
    _, hmetrics, _, -, _, -, _, -, _, -, _, -, _, -, _, -, _, -, _, -, _, -, _, -, _, -, _, -, _, -, rfl⟩ := h
  unfold ensure at hmetrics
  split at hmetrics
  · rename_i hsame
    exact of_decide_eq_true hsame
  · cases hmetrics

/-! ## Gates and their own recipes -/

theorem lookup_dictOf_zip {α : Type} (keys : List Str) (values : List α) (key : Str) (value : α)
    (h : (dictOf (keys.zip values)).lookup key = some value) :
    ∃ (i : Nat) (hk : i < keys.length) (hv : i < values.length), keys[i] = key ∧ values[i] = value := by
  obtain ⟨l₁, l₂, hsplit, -⟩ := List.lookup_eq_some_iff.mp h
  have hmem : (key, value) ∈ keys.zip values := by
    apply mem_dictOf
    rw [hsplit]
    simp
  obtain ⟨i, hi, hget⟩ := List.getElem_of_mem hmem
  rw [List.length_zip] at hi
  rw [List.getElem_zip] at hget
  obtain ⟨hkey, hvalue⟩ := Prod.mk.inj hget
  exact ⟨i, by omega, by omega, hkey, hvalue⟩

/-- Gate `i` of the result is judged against its own threshold and by its own recipe. -/
def JudgedByItself (context : LaneContext) (floats : Floats) (record : Option CertificationRecord)
    (reduced : List (Mapping Json)) (result : LaneResult RawRecord) (i : Nat) : Prop :=
  ∃ (gate : Gate) (recipe : MetricRecipe) (gated : GateResult), context.lane.gates.items[i]? = some gate ∧ context.suite.metrics[i]? = some recipe ∧
    result.gates[i]? = some gated ∧ gated.gateId = gate.gateId.val ∧
    resolveGateThreshold context.lane.laneId.val gate record = .ok gated.expected ∧
    reduceObservations floats recipe (reduced.map (observed recipe.source.val)) = .ok gated.observed

/-- Two gates that name one metric resolve to one threshold, and their observations reduce to one value. -/
def MetricsAgree (context : LaneContext) (floats : Floats) (record : Option CertificationRecord)
    (reduced : List (Mapping Json)) : Prop :=
  ∀ (i j : Nat) (gate gate' : Gate) (recipe recipe' : MetricRecipe), context.lane.gates.items[i]? = some gate → context.lane.gates.items[j]? = some gate' →
    context.suite.metrics[i]? = some recipe → context.suite.metrics[j]? = some recipe' → gate.metric = gate'.metric →
      resolveGateThreshold context.lane.laneId.val gate record =
          resolveGateThreshold context.lane.laneId.val gate' record ∧
        reduceObservations floats recipe (reduced.map (observed recipe.source.val)) =
          reduceObservations floats recipe' (reduced.map (observed recipe'.source.val))

section Gates

variable {context : LaneContext} {floats : Floats} {world : World} {record : Option CertificationRecord}
  {reduced : List (Mapping Json)} {descriptors : List (List (Mapping Json))} {result : LaneResult RawRecord}

/-- A gate that was judged has a recipe at its place, and its entries in the two dicts. -/
theorem gate_at (hgated : Gated context floats world result reduced descriptors)
    (hrecipes : context.suite.metrics.map (·.metric) = context.lane.gates.items.map (·.metric)) (i : Nat) (gate : Gate)
    (hgate : context.lane.gates.items[i]? = some gate) :
    ∃ (recipe : MetricRecipe) (gated : GateResult), context.suite.metrics[i]? = some recipe ∧ result.gates[i]? = some gated ∧
      evaluateGate floats result.metrics context.frozenThresholds gate = .ok gated ∧ recipe.metric = gate.metric := by
  obtain ⟨hi, rfl⟩ := List.getElem?_eq_some_iff.mp hgate
  have hj : i < result.gates.length := hgated.gates.length_eq ▸ hi
  have hlength := congrArg List.length hrecipes
  rw [List.length_map, List.length_map] at hlength
  have hk : i < context.suite.metrics.length := hlength ▸ hi
  refine ⟨context.suite.metrics[i], result.gates[i], List.getElem?_eq_getElem hk, List.getElem?_eq_getElem hj,
    (List.forall₂_iff_get.mp hgated.gates).2 i hi hj, ?_⟩
  have := congrArg (fun names => names[i]?) hrecipes
  simpa [hi, hk] using this

theorem gates_of_agree (hgated : Gated context floats world result reduced descriptors)
    (hrecipes : context.suite.metrics.map (·.metric) = context.lane.gates.items.map (·.metric))
    (hfrozen : context.frozenThresholds = (preRunThresholds context.lane record).1)
    (hagree : MetricsAgree context floats record reduced) (i : Nat) (hi : i < context.lane.gates.items.length) :
    JudgedByItself context floats record reduced result i := by
  obtain ⟨recipe, gated, hrecipe, hresult, heval, hmetric⟩ :=
    gate_at hgated hrecipes i _ (List.getElem?_eq_getElem hi)
  obtain ⟨hid, hobserved, hexpected⟩ := evaluateGate_ok heval
  refine ⟨_, recipe, gated, List.getElem?_eq_getElem hi, hrecipe, hresult, hid, ?_, ?_⟩
  · rw [hfrozen] at hexpected
    obtain ⟨other, hmem, hsame, hresolved⟩ := preRunThresholds_lookup _ _ _ _ hexpected
    obtain ⟨j, hj, rfl⟩ := List.getElem_of_mem hmem
    obtain ⟨recipe', _, hrecipe', -⟩ := gate_at hgated hrecipes j _ (List.getElem?_eq_getElem hj)
    rw [← hresolved]
    exact (hagree i j _ _ _ _ (List.getElem?_eq_getElem hi) (List.getElem?_eq_getElem hj) hrecipe hrecipe'
      (Subtype.ext hsame).symm).1
  · obtain ⟨values, hvalues, hmetrics⟩ := hgated.metrics
    rw [hmetrics] at hobserved
    obtain ⟨j, hj, hv, hkey, hvalue⟩ := lookup_dictOf_zip _ _ _ _ hobserved
    rw [List.length_map] at hj
    rw [List.getElem_map] at hkey
    have hreduce := (List.forall₂_iff_get.mp hvalues).2 j hj hv
    rw [List.get_eq_getElem, List.get_eq_getElem, hvalue] at hreduce
    have hlength := congrArg List.length hrecipes
    rw [List.length_map, List.length_map] at hlength
    have hg : j < context.lane.gates.items.length := hlength ▸ hj
    have hmetricj : context.suite.metrics[j].metric = context.lane.gates.items[j].metric := by
      have := congrArg (fun names => names[j]?) hrecipes
      simpa [hj, hg] using this
    rw [← hreduce]
    exact (hagree i j _ _ _ _ (List.getElem?_eq_getElem hi) (List.getElem?_eq_getElem hg) hrecipe
      (List.getElem?_eq_getElem hj) (Subtype.ext (hkey.symm.trans (congrArg Subtype.val hmetricj)))).2

theorem agree_of_gates (hgated : Gated context floats world result reduced descriptors)
    (hrecipes : context.suite.metrics.map (·.metric) = context.lane.gates.items.map (·.metric))
    (hjudged : ∀ i < context.lane.gates.items.length, JudgedByItself context floats record reduced result i) :
    MetricsAgree context floats record reduced := by
  intro i j gate gate' recipe recipe' hgate hgate' hrecipe hrecipe' hsame
  have hview : ∀ (k : Nat) (g : Gate) (r : MetricRecipe), context.lane.gates.items[k]? = some g → context.suite.metrics[k]? = some r →
      ∃ gated, evaluateGate floats result.metrics context.frozenThresholds g = .ok gated ∧
        resolveGateThreshold context.lane.laneId.val g record = .ok gated.expected ∧
        reduceObservations floats r (reduced.map (observed r.source.val)) = .ok gated.observed := by
    intro k g r hg hr
    obtain ⟨_, gated, _, hat, heval, -⟩ := gate_at hgated hrecipes k g hg
    obtain ⟨g', r', gated', hg', hr', hat', -, hresolve, hreduce⟩ :=
      hjudged k (List.getElem?_eq_some_iff.mp hg).1
    rw [hg] at hg'
    rw [hr] at hr'
    rw [hat] at hat'
    cases hg'
    cases hr'
    cases hat'
    exact ⟨gated, heval, hresolve, hreduce⟩
  obtain ⟨gated, heval, hresolve, hreduce⟩ := hview i gate recipe hgate hrecipe
  obtain ⟨gated', heval', hresolve', hreduce'⟩ := hview j gate' recipe' hgate' hrecipe'
  obtain ⟨-, hobserved, hexpected⟩ := evaluateGate_ok heval
  obtain ⟨-, hobserved', hexpected'⟩ := evaluateGate_ok heval'
  rw [hsame] at hobserved hexpected
  have hsameObserved : gated.observed = gated'.observed := Option.some.inj (hobserved.symm.trans hobserved')
  have hsameExpected : gated.expected = gated'.expected := Option.some.inj (hexpected.symm.trans hexpected')
  rw [hresolve, hresolve', hreduce, hreduce', hsameObserved, hsameExpected]
  exact ⟨rfl, rfl⟩

end Gates

/-- In a run that judged its gates, every gate is judged by its own threshold and recipe exactly where the gates that
share a metric agree on both. -/
theorem gates_judged_iff (files : SuiteFiles) (path : Str) (raw : Json) (context : LaneContext) (floats : Floats)
    (world : World) (record : Option CertificationRecord) (result : LaneResult RawRecord) (calls : List Call)
    (hsuite : loadLaneSuite files path raw context.lane = .ok context.suite)
    (hfrozen : context.frozenThresholds = (preRunThresholds context.lane record).1)
    (h : runEvidenceLane context floats world = (.ok result, calls)) (hgates : result.gates ≠ []) :
    ∃ reduced, List.Forall₂ (fun case found => ∃ descriptors,
        Analyzed context (world.atCase case.2) case.1 found descriptors) context.plan.cases.zipIdx reduced ∧
      ((∀ i < context.lane.gates.items.length, JudgedByItself context floats record reduced result i) ↔
        MetricsAgree context floats record reduced) := by
  have hrecipes := loadLaneSuite_recipes files path raw context.lane context.suite hsuite
  obtain ⟨reduced, descriptors, hgated⟩ := gated_of_gates h hgates
  refine ⟨reduced, forall₂_fst (hgated.lengths.1.trans hgated.lengths.2.symm) hgated.analyzed, ?_, ?_⟩
  · exact agree_of_gates hgated hrecipes
  · exact gates_of_agree hgated hrecipes hfrozen

/-- Gates of distinct metrics agree. -/
theorem metricsAgree_of_nodup (context : LaneContext) (floats : Floats) (record : Option CertificationRecord)
    (reduced : List (Mapping Json)) (h : (context.lane.gates.items.map (·.metric)).Nodup) :
    MetricsAgree context floats record reduced := by
  intro i j gate gate' recipe recipe' hgate hgate' hrecipe hrecipe' hsame
  have hi : i < (context.lane.gates.items.map (·.metric)).length := by
    rw [List.length_map]
    exact (List.getElem?_eq_some_iff.mp hgate).1
  have hij : i = j := by
    refine (List.getElem?_inj hi h).mp ?_
    rw [List.getElem?_map, List.getElem?_map, hgate, hgate', Option.map_some, Option.map_some, hsame]
  subst hij
  rw [hgate] at hgate'
  rw [hrecipe] at hrecipe'
  cases hgate'
  cases hrecipe'
  exact ⟨rfl, rfl⟩

/-! ## Two gates of one metric -/

/-- The lane of two cases, with a gate that expects 0 and one that expects 1. -/
def twinLane : ExpectationLane :=
  { twoCaseLane with
    gates := ⟨[zeroGate, countGate ⟨lit "h", by decide⟩ 1], by simp, by decide⟩ }

def twinDocument : Json := sampleDocument [sampleLane "a" "b" 1 [sampleGate "g" 0, sampleGate "h" 1]]

def twinSuite : LaneSuite :=
  { countSuite with
    gateIds := [lit "g", lit "h"]
    metrics := [⟨countMetric, ⟨lit "first", by decide⟩, .max⟩, ⟨countMetric, ⟨lit "second", by decide⟩, .max⟩] }

def recipeDocument (source : String) : Json :=
  fields [("metric", text "m"), ("source", text source), ("reducer", text "max")]

def twinSuiteDocument : Json := fields [("schema_version", text "turnvector.benchmark.lane-suite.v1"),
  ("id", text "suite"), ("lane_id", text "a"), ("protocol", text "p"), ("runner", text "r"),
  ("adapter_category", text "core"), ("matrix_ids", .arr [text "b"]), ("behavior_case_ids", .arr [text "c"]),
  ("gate_ids", .arr [text "g", text "h"]), ("case_schema", text "schema.json"),
  ("operations", .arr [text "execute", text "inspect"]),
  ("metrics", .arr [recipeDocument "first", recipeDocument "second"]),
  ("requirements", fields [("execution_boundary", text "core_adapter"), ("real_subject_required", .bool false),
    ("external_inputs", .arr []), ("diagnostic_only_cases", .arr [])])]

def twinSchema : Json := fields [("schema_version", text "turnvector.benchmark.case-schema.v1"), ("lane_id", text "a"),
  ("matrices", fields [("b", fields [("required", .arr [text "d0"]),
    ("properties", fields [("d0", fields [("enum", .arr [.bool true, .int 1])])]),
    ("additional_properties", .bool false)])])]

def twinFiles : SuiteFiles where
  resolve name := name
  isFile _ := true
  readJson _ := .ok twinSchema
  floatValue _ := none

def twinRecord : CertificationRecord where
  recordId := lit "record"
  protocolVersion := lit "turnvector.benchmark.subject.v1"
  matrixApplicability := [(lit "d0", [.bool true, .int 1])]
  thresholds := []

def twinContext : LaneContext where
  lane := twinLane
  suite := twinSuite
  plan := ⟨lit "a", lit "suite", plannedCases twinLane twinSuite 1 twinLane.matrices.items⟩
  frozenThresholds := (preRunThresholds twinLane (some twinRecord)).1

/-- Every case reduces to 0 under the first source and to 1 under the second. -/
def twinWorld : World where
  atCase _ := { cleanCase with analyzed := fun _ _ _ => .ok ⟨[(lit "first", .int 0), (lit "second", .int 1)], by decide⟩ }
  benchmarkArtifacts _ := .ok []
  probe _ := .missing []

theorem twinSuite_loads : loadLaneSuite twinFiles (lit "suite.json") twinSuiteDocument twinLane = .ok twinSuite := by
  obtain ⟨suite, hsuite⟩ := ok_of_isSome (loadLaneSuite twinFiles (lit "suite.json") twinSuiteDocument twinLane)
    (by decide +kernel)
  have hsame : ∀ s ∈ (loadLaneSuite twinFiles (lit "suite.json") twinSuiteDocument twinLane).toOption, s = twinSuite := by
    decide +kernel
  rw [hsuite, hsame suite (by rw [hsuite]; rfl)]

/-- The first gate of an accepted lane and suite is judged by the threshold and the observations of the second. -/
theorem gates_share_metric :
    (loadExpectation sampleFiles (lit "x.json") twinDocument).toOption.map (·.lanes.items) = some [twinLane] ∧
      loadLaneSuite twinFiles (lit "suite.json") twinSuiteDocument twinLane = .ok twinSuite ∧
      (∀ expectation ∈ (loadExpectation sampleFiles (lit "x.json") twinDocument).toOption,
        (validateCertificationContract twinRecord expectation).toOption = some ()) ∧
      (runEvidenceLane twinContext exactFloats twinWorld).1.toOption.map (fun result =>
        result.gates.map fun gate => (gate.expected, gate.observed)) = some [(.int 1, .int 1), (.int 1, .int 1)] ∧
      (twinLane.gates.items.map fun gate => (resolveGateThreshold (lit "a") gate (some twinRecord)).toOption) =
        [some (.int 0), some (.int 1)] ∧
      (twinSuite.metrics.map fun recipe => (reduceObservations exactFloats recipe
        (if recipe.source.val = lit "first" then [.int 0, .int 0] else [.int 1, .int 1])).toOption) =
          [some (.int 0), some (.int 1)] :=
  ⟨by decide +kernel, twinSuite_loads, by decide +kernel, by decide +kernel, by decide +kernel, by decide +kernel⟩

theorem gates_judged_iff_sample : ∃ result calls,
    runEvidenceLane twinContext exactFloats twinWorld = (.ok result, calls) ∧ ∃ reduced,
      ((∀ i < twinLane.gates.items.length, JudgedByItself twinContext exactFloats (some twinRecord) reduced result i) ↔
        MetricsAgree twinContext exactFloats (some twinRecord) reduced) := by
  obtain ⟨result, hresult⟩ := ok_of_isSome (runEvidenceLane twinContext exactFloats twinWorld).1 (by decide +kernel)
  have hsome : ∀ r ∈ (runEvidenceLane twinContext exactFloats twinWorld).1.toOption, r.gates ≠ [] := by
    decide +kernel
  have hrun : runEvidenceLane twinContext exactFloats twinWorld =
      (.ok result, (runEvidenceLane twinContext exactFloats twinWorld).2) := Prod.ext hresult rfl
  obtain ⟨reduced, -, hiff⟩ := gates_judged_iff twinFiles (lit "suite.json") twinSuiteDocument twinContext exactFloats
    twinWorld (some twinRecord) result _ twinSuite_loads rfl hrun (hsome result (by rw [hresult]; rfl))
  exact ⟨result, _, hrun, reduced, hiff⟩

end TurnVector.Lanes
