import TurnVector.Lanes.Pairing
import TurnVector.Performance.Evidence

/-! # What validated evidence says

What each validator has accepted, in terms of the document.
-/

namespace TurnVector.Performance

open Python Json
open CrossEngine (PyFloat)
open LaneController (Raised contractError)
open Lanes (Floats Listed Artifact Probe demand demand_ok keyError raised isInteger)

/-! ## Readings -/

theorem item_ok_iff {members : List (Str × Json)} {name : Str} {value : Json} :
    item members name = .ok value ↔ members.lookup name = some value := by
  unfold item
  cases members.lookup name <;> simp [keyError]

theorem readAt_ok_iff {α : Type} {reader : Json → Str → Except Raised α} {members : List (Str × Json)} {name : String}
    {place : Str} {a : α} : readAt reader members name place = .ok a ↔
      ∃ value, members.lookup (lit name) = some value ∧ reader value (place ++ lit "." ++ lit name) = .ok a := by
  unfold readAt
  rw [bind_ok_iff]
  simp only [item_ok_iff]

theorem object_ok_iff {value : Json} {place : Str} {members : List (Str × Json)} :
    object value place = .ok members ↔ value = .obj members := by
  cases value <;> simp [object, contractError]

theorem array_ok_iff {value : Json} {place : Str} {items : List Json} :
    array value place = .ok items ↔ value = .arr items := by
  cases value <;> simp [array, contractError]

theorem boolean_ok_iff {value : Json} {place : Str} {b : Bool} : boolean value place = .ok b ↔ value = .bool b := by
  cases value <;> simp [boolean, contractError]

theorem string_ok {value : Json} {place text : Str} (h : string value place = .ok text) : value = .str text := by
  unfold string at h
  split at h
  · cases h
    rfl
  · cases h

theorem identifier_ok {value : Json} {place text : Str} (h : identifier value place = .ok text) :
    value = .str text := by
  unfold identifier at h
  obtain ⟨read, hread, h⟩ := bind_ok_iff.mp h
  split at h
  · cases h
    exact string_ok hread
  · cases h

theorem digest_ok {length : Nat} {value : Json} {place text : Str} (h : digest length value place = .ok text) :
    value = .str text := by
  unfold digest at h
  obtain ⟨read, hread, h⟩ := bind_ok_iff.mp h
  split at h
  · cases h
    exact string_ok hread
  · cases h

theorem strictObject_ok {value : Json} {required : List Str} {place : Str} {members : List (Str × Json)}
    (h : strictObject value required place = .ok members) : value = .obj members := by
  unfold strictObject at h
  obtain ⟨read, hread, h⟩ := bind_ok_iff.mp h
  obtain ⟨_, -, h⟩ := bind_ok_iff.mp h
  cases h
  exact object_ok_iff.mp hread

/-- The number that a value is. -/
def numberValue (library : Library) : Json → Option ℚ
  | .int n => library.floats.ofInt n
  | .float token => library.value token
  | _ => none

theorem number_ok {library : Library} {nonnegative : Bool} {value : Json} {place : Str} {q : ℚ}
    (h : number library.floats nonnegative value place = .ok q) : numberValue library value = some q := by
  unfold number at h
  obtain ⟨parsed, hparsed, h⟩ := bind_ok_iff.mp h
  have hfinite : parsed = .finite q := by
    split at h
    · split at h
      · cases h
      · cases h
        rfl
    · cases h
  subst hfinite
  unfold floatOf at hparsed
  split at hparsed
  · split at hparsed
    · rename_i hn
      cases hparsed
      exact hn
    · cases hparsed
  · simp only [Except.ok.injEq] at hparsed
    simp [numberValue, Library.value, hparsed]
  · cases hparsed

theorem reasonsOf_eq_nil_iff (checks : List (Bool × String)) :
    reasonsOf checks = [] ↔ ∀ check ∈ checks, check.1 = false := by
  simp [reasonsOf, List.filter_eq_nil_iff]

/-- Rows that are read one an item stand under their keys. -/
theorem lookup_of_mapM {α β : Type} {key : α → Str} {f : α → Except Raised (Str × β)} {xs : List α}
    {rows : List (Str × β)} (hkey : ∀ x row, f x = .ok row → row.1 = key x) (hdistinct : (xs.map key).Nodup)
    (h : xs.mapM f = .ok rows) {x : α} (hx : x ∈ xs) : ∃ b, f x = .ok (key x, b) ∧ rows.lookup (key x) = some b := by
  have hrows := forall₂_of_mapM h
  clear h
  induction hrows with
  | nil => simp at hx
  | @cons y row ys rest hrow hrest ih =>
    obtain ⟨k, b⟩ := row
    obtain rfl : k = key y := hkey y _ hrow
    simp only [List.map_cons, List.nodup_cons] at hdistinct
    rcases List.mem_cons.mp hx with rfl | hx
    · exact ⟨b, hrow, by simp⟩
    · obtain ⟨c, hc, hlookup⟩ := ih hdistinct.2 hx
      refine ⟨c, hc, ?_⟩
      have hne : key x ≠ key y := fun heq => hdistinct.1 (heq ▸ List.mem_map_of_mem hx)
      rw [List.lookup_cons, beq_false_of_ne hne]
      exact hlookup

/-! ## The session and the host -/

/-- The session that a publication needs. -/
structure Clean (contract : PerformanceContract) (session : Json) : Prop where
  revision : session.member? (lit "source_revision") = some (.str contract.sourceRevision)
  source : session.member? (lit "source_dirty") = some (.bool false)
  benchmark : session.member? (lit "benchmark_dirty") = some (.bool false)
  subject : session.member? (lit "subject_kind") = some (.str (lit "implementation"))

theorem validateSession_ok {library : Library} {contract : PerformanceContract} {lane : PerformanceLane} {value : Json}
    {session : Session} {reasons : List Str}
    (h : validateSession library contract lane value = .ok (session, reasons)) :
    (reasons = [] ↔ Clean contract value) ∧ value.member? (lit "started_at") = some session.startedAt := by
  unfold validateSession at h
  obtain ⟨obj, hobj, h⟩ := bind_ok_iff.mp h
  obtain ⟨_, -, h⟩ := bind_ok_iff.mp h
  obtain ⟨_, -, h⟩ := bind_ok_iff.mp h
  obtain ⟨_, -, h⟩ := bind_ok_iff.mp h
  obtain ⟨claimType, -, h⟩ := bind_ok_iff.mp h
  obtain ⟨_, -, h⟩ := bind_ok_iff.mp h
  obtain ⟨kind, hkind, h⟩ := bind_ok_iff.mp h
  obtain ⟨_, hknown, h⟩ := bind_ok_iff.mp h
  obtain ⟨_, -, h⟩ := bind_ok_iff.mp h
  obtain ⟨_, -, h⟩ := bind_ok_iff.mp h
  obtain ⟨_, -, h⟩ := bind_ok_iff.mp h
  obtain ⟨revision, hrevision, h⟩ := bind_ok_iff.mp h
  obtain ⟨_, -, h⟩ := bind_ok_iff.mp h
  obtain ⟨sourceDirty, hsource, h⟩ := bind_ok_iff.mp h
  obtain ⟨benchmarkDirty, hbenchmark, h⟩ := bind_ok_iff.mp h
  obtain ⟨_, -, h⟩ := bind_ok_iff.mp h
  obtain ⟨_, -, h⟩ := bind_ok_iff.mp h
  obtain ⟨startedAt, hstarted, h⟩ := bind_ok_iff.mp h
  cases h
  obtain rfl := strictObject_ok hobj
  obtain ⟨kindValue, hkindAt, hkind⟩ := readAt_ok_iff.mp hkind
  obtain rfl := identifier_ok hkind
  obtain ⟨revisionValue, hrevisionAt, hrevision⟩ := readAt_ok_iff.mp hrevision
  obtain rfl := digest_ok hrevision
  obtain ⟨_, hsourceAt, hsource⟩ := readAt_ok_iff.mp hsource
  obtain rfl := boolean_ok_iff.mp hsource
  obtain ⟨_, hbenchmarkAt, hbenchmark⟩ := readAt_ok_iff.mp hbenchmark
  obtain rfl := boolean_ok_iff.mp hbenchmark
  have hknown := demand_ok hknown
  simp only [Bool.or_eq_true, decide_eq_true_eq] at hknown
  refine ⟨?_, item_ok_iff.mp hstarted⟩
  simp only [reasonsOf_eq_nil_iff, List.mem_cons, List.not_mem_nil, or_false, forall_eq_or_imp, forall_eq,
    decide_eq_false_iff_not, not_not]
  constructor
  · rintro ⟨hr, hs, hb, hk⟩
    refine ⟨?_, ?_, ?_, ?_⟩
    · rw [← hr]
      exact hrevisionAt
    · rw [← hs]
      exact hsourceAt
    · rw [← hb]
      exact hbenchmarkAt
    · rw [← hknown.resolve_right hk]
      exact hkindAt
  · rintro ⟨hr, hs, hb, hk⟩
    simp only [member?, hrevisionAt, hsourceAt, hbenchmarkAt, hkindAt, Option.some.injEq, Json.str.injEq,
      Json.bool.injEq] at hr hs hb hk
    exact ⟨hr, hs, hb, by rw [hk]; decide⟩

/-- A number of the document is at most a limit. -/
def AtMost (library : Library) (value : Json) (name : String) (limit : ℚ) : Prop :=
  ∃ read q, value.member? (lit name) = some read ∧ numberValue library read = some q ∧ q ≤ limit

/-- The host conditions that a publication needs. -/
structure HostWithinLimits (library : Library) (contract : PerformanceContract) (environment : Json) : Prop where
  power : environment.member? (lit "power_source") = some (.str (lit "external"))
  thermalStart : environment.member? (lit "thermal_state_start") = some (.str (lit "nominal"))
  thermalEnd : environment.member? (lit "thermal_state_end") = some (.str (lit "nominal"))
  loadStart : AtMost library environment "load_average_1m_start" contract.hostAdmissionLimits.maxLoadAverage1m
  loadEnd : AtMost library environment "load_average_1m_end" contract.hostAdmissionLimits.maxLoadAverage1m
  cpuStart : AtMost library environment "top_process_cpu_percent_start"
    contract.hostAdmissionLimits.maxTopProcessCpuPercent
  cpuEnd : AtMost library environment "top_process_cpu_percent_end" contract.hostAdmissionLimits.maxTopProcessCpuPercent
  admission : environment.member? (lit "host_admission_passed") = some (.bool true)

theorem atMost_iff {library : Library} {nonnegative : Bool} {obj : List (Str × Json)} {name : String} {place : Str}
    {q limit : ℚ} (h : readAt (number library.floats nonnegative) obj name place = .ok q) :
    AtMost library (.obj obj) name limit ↔ q ≤ limit := by
  obtain ⟨value, hat, hread⟩ := readAt_ok_iff.mp h
  have hvalue := number_ok hread
  constructor
  · rintro ⟨read, r, hr, hnumber, hle⟩
    obtain rfl : value = read := Option.some.inj (hat.symm.trans hr)
    obtain rfl : q = r := Option.some.inj (hvalue.symm.trans hnumber)
    exact hle
  · exact fun hle => ⟨value, q, hat, hvalue, hle⟩

theorem validateEnvironment_ok {library : Library} {contract : PerformanceContract} {value : Json}
    {reasons : List Str} (h : validateEnvironment library contract value = .ok reasons) :
    reasons = [] ↔ HostWithinLimits library contract value := by
  unfold validateEnvironment at h
  obtain ⟨obj, hobj, h⟩ := bind_ok_iff.mp h
  obtain ⟨_, -, h⟩ := bind_ok_iff.mp h
  obtain ⟨_, -, h⟩ := bind_ok_iff.mp h
  obtain ⟨_, -, h⟩ := bind_ok_iff.mp h
  obtain ⟨_, -, h⟩ := bind_ok_iff.mp h
  obtain ⟨_, -, h⟩ := bind_ok_iff.mp h
  obtain ⟨_, -, h⟩ := bind_ok_iff.mp h
  obtain ⟨_, -, h⟩ := bind_ok_iff.mp h
  obtain ⟨_, -, h⟩ := bind_ok_iff.mp h
  obtain ⟨power, hpower, h⟩ := bind_ok_iff.mp h
  obtain ⟨thermalStart, hthermalStart, h⟩ := bind_ok_iff.mp h
  obtain ⟨thermalEnd, hthermalEnd, h⟩ := bind_ok_iff.mp h
  obtain ⟨loadStart, hloadStart, h⟩ := bind_ok_iff.mp h
  obtain ⟨loadEnd, hloadEnd, h⟩ := bind_ok_iff.mp h
  obtain ⟨cpuStart, hcpuStart, h⟩ := bind_ok_iff.mp h
  obtain ⟨cpuEnd, hcpuEnd, h⟩ := bind_ok_iff.mp h
  obtain ⟨admission, hadmission, h⟩ := bind_ok_iff.mp h
  cases h
  obtain rfl := strictObject_ok hobj
  obtain ⟨_, hpowerAt, hpower⟩ := readAt_ok_iff.mp hpower
  obtain rfl := identifier_ok hpower
  obtain ⟨_, hstartAt, hthermalStart⟩ := readAt_ok_iff.mp hthermalStart
  obtain rfl := identifier_ok hthermalStart
  obtain ⟨_, hendAt, hthermalEnd⟩ := readAt_ok_iff.mp hthermalEnd
  obtain rfl := identifier_ok hthermalEnd
  obtain ⟨_, hadmissionAt, hadmission⟩ := readAt_ok_iff.mp hadmission
  obtain rfl := boolean_ok_iff.mp hadmission
  simp only [reasonsOf_eq_nil_iff, List.mem_cons, List.not_mem_nil, or_false, forall_eq_or_imp, forall_eq,
    Bool.or_eq_false_iff, decide_eq_false_iff_not, not_not, not_lt, Bool.not_eq_false', max_le_iff]
  constructor
  · rintro ⟨rfl, ⟨rfl, rfl⟩, ⟨hls, hle⟩, ⟨hcs, hce⟩, rfl⟩
    exact ⟨hpowerAt, hstartAt, hendAt, (atMost_iff hloadStart).mpr hls, (atMost_iff hloadEnd).mpr hle,
      (atMost_iff hcpuStart).mpr hcs, (atMost_iff hcpuEnd).mpr hce, hadmissionAt⟩
  · rintro ⟨hp, hs, he, hls, hle, hcs, hce, ha⟩
    simp only [member?, hpowerAt, hstartAt, hendAt, hadmissionAt, Option.some.injEq, Json.str.injEq,
      Json.bool.injEq] at hp hs he ha
    exact ⟨hp, ⟨hs, he⟩, ⟨(atMost_iff hloadStart).mp hls, (atMost_iff hloadEnd).mp hle⟩,
      ⟨(atMost_iff hcpuStart).mp hcs, (atMost_iff hcpuEnd).mp hce⟩, ha⟩

theorem validateSupport_ok {lane : PerformanceLane} {value : Json} {support : Support}
    (h : validateSupport lane value = .ok support) :
    support = .supported ↔ value.member? (lit "status") = some (.str (lit "supported")) := by
  unfold validateSupport at h
  obtain ⟨obj, hobj, hread⟩ := bind_ok_iff.mp h
  obtain ⟨status, hstatus, hrest⟩ := bind_ok_iff.mp hread
  obtain rfl := strictObject_ok hobj
  obtain ⟨_, hat, hstatus⟩ := readAt_ok_iff.mp hstatus
  obtain rfl := identifier_ok hstatus
  have hmember : (Json.obj obj).member? (lit "status") = some (.str status) := hat
  rw [hmember, Option.some.injEq, Json.str.injEq]
  split at hrest
  · rename_i heq
    obtain ⟨_, -, hrest⟩ := bind_ok_iff.mp hrest
    obtain ⟨_, -, hrest⟩ := bind_ok_iff.mp hrest
    cases hrest
    simp [heq]
  · rename_i hne
    split at hrest
    · obtain ⟨_, -, hrest⟩ := bind_ok_iff.mp hrest
      obtain ⟨_, -, hrest⟩ := bind_ok_iff.mp hrest
      cases hrest
      simp [hne]
    · cases hrest

/-! ## The cases -/

/-- The items of an array of a document. -/
def itemsOf : Option Json → List Json
  | some (.arr items) => items
  | _ => []

/-- The values that the trials of a case have of a metric. -/
def caseSamples (library : Library) (case : Json) (metricId : Str) : List ℚ :=
  (itemsOf (case.member? (lit "trials"))).filterMap fun trial =>
    ((trial.member? (lit "metrics")).bind (·.member? metricId)).bind (numberValue library)

/-- What the trials of a case make of a metric. -/
def Recomputed (library : Library) (lane : PerformanceLane) (case : Json) (metricId : Str) (value : PyFloat) : Prop :=
  ∃ metric ∈ lane.metrics.items, metric.metricId = metricId ∧
    reduce library.floats (caseSamples library case metricId) metric.reducer = .ok value

theorem readMetric_ok {library : Library} {metrics : List (Str × Json)} {place : Str} {metric : PerformanceMetric}
    {row : Str × ℚ} (h : readMetric library metrics place metric = .ok row) :
    row.1 = metric.metricId ∧ (metrics.lookup metric.metricId).bind (numberValue library) = some row.2 := by
  unfold readMetric at h
  obtain ⟨value, hvalue, h⟩ := bind_ok_iff.mp h
  obtain ⟨observed, hobserved, h⟩ := bind_ok_iff.mp h
  obtain ⟨_, -, h⟩ := bind_ok_iff.mp h
  cases h
  refine ⟨rfl, ?_⟩
  rw [item_ok_iff.mp hvalue]
  exact number_ok hobserved

theorem readTrial_ok {library : Library} {lane : PerformanceLane} {place : Str} {trial : Json × Nat}
    {row : List (Str × ℚ)} (h : readTrial library lane place trial = .ok row) (metric : PerformanceMetric)
    (hmetric : metric ∈ lane.metrics.items) :
    row.lookup metric.metricId =
      ((trial.1.member? (lit "metrics")).bind (·.member? metric.metricId)).bind (numberValue library) := by
  unfold readTrial at h
  obtain ⟨obj, hobj, h⟩ := bind_ok_iff.mp h
  obtain ⟨_, -, h⟩ := bind_ok_iff.mp h
  obtain ⟨_, -, h⟩ := bind_ok_iff.mp h
  obtain ⟨metrics, hmetrics, h⟩ := bind_ok_iff.mp h
  obtain ⟨_, -, h⟩ := bind_ok_iff.mp h
  rw [strictObject_ok hobj]
  obtain ⟨value, hat, hmetrics⟩ := readAt_ok_iff.mp hmetrics
  obtain rfl := object_ok_iff.mp hmetrics
  obtain ⟨q, hq, hlookup⟩ := lookup_of_mapM (fun _ _ hx => (readMetric_ok hx).1) lane.metrics.distinct h hmetric
  rw [hlookup]
  simp only [member?, hat, Option.bind_some]
  exact (readMetric_ok hq).2.symm

theorem filterMap_of_forall₂ {α β : Type} {f : α → Option ℚ} {g : β → Option ℚ} {xs : List (α × Nat)} {ys : List β}
    (h : List.Forall₂ (fun x y => g y = f x.1) xs ys) : ys.filterMap g = (xs.map Prod.fst).filterMap f := by
  induction h with
  | nil => rfl
  | cons hxy _ ih => simp only [List.map_cons, List.filterMap_cons, hxy, ih]

theorem readTrials_ok {library : Library} {lane : PerformanceLane} {obj : List (Str × Json)}
    {planned : PlannedPerformanceCase} {place : Str} {trials : List (List (Str × ℚ))}
    (h : readTrials library lane obj planned place = .ok trials) (metric : PerformanceMetric)
    (hmetric : metric ∈ lane.metrics.items) :
    samplesOf trials metric.metricId = caseSamples library (.obj obj) metric.metricId := by
  unfold readTrials at h
  obtain ⟨_, -, h⟩ := bind_ok_iff.mp h
  obtain ⟨_, -, h⟩ := bind_ok_iff.mp h
  obtain ⟨_, -, h⟩ := bind_ok_iff.mp h
  obtain ⟨_, -, h⟩ := bind_ok_iff.mp h
  obtain ⟨_, -, h⟩ := bind_ok_iff.mp h
  obtain ⟨_, -, h⟩ := bind_ok_iff.mp h
  obtain ⟨raw, hraw, h⟩ := bind_ok_iff.mp h
  obtain ⟨_, -, h⟩ := bind_ok_iff.mp h
  obtain ⟨value, hat, hraw⟩ := readAt_ok_iff.mp hraw
  obtain rfl := array_ok_iff.mp hraw
  have hrows := (forall₂_of_mapM h).imp fun _ _ hrow => readTrial_ok hrow metric hmetric
  have hsamples := filterMap_of_forall₂ (f := fun trial : Json =>
    ((trial.member? (lit "metrics")).bind (·.member? metric.metricId)).bind (numberValue library)) hrows
  rw [List.zipIdx_map_fst] at hsamples
  simp only [caseSamples, member?, hat, itemsOf]
  exact hsamples

theorem readTrials_caseId {library : Library} {lane : PerformanceLane} {obj : List (Str × Json)}
    {planned : PlannedPerformanceCase} {place : Str} {trials : List (List (Str × ℚ))}
    (h : readTrials library lane obj planned place = .ok trials) :
    (Json.obj obj).member? (lit "case_id") = some (.str planned.caseId) := by
  unfold readTrials at h
  obtain ⟨caseId, hcaseId, h⟩ := bind_ok_iff.mp h
  obtain ⟨_, -, h⟩ := bind_ok_iff.mp h
  obtain ⟨_, -, h⟩ := bind_ok_iff.mp h
  obtain ⟨_, hplanned, h⟩ := bind_ok_iff.mp h
  have hplanned := demand_ok hplanned
  simp only [Bool.and_eq_true, decide_eq_true_eq] at hplanned
  rw [← hplanned.1.1]
  exact item_ok_iff.mp hcaseId

/-- The summary of a case has what its trials make of every metric, and the case declares about that. -/
structure Summarized (library : Library) (lane : PerformanceLane) (case : Json)
    (summary : Str × List (Str × PyFloat)) : Prop where
  caseId : case.member? (lit "case_id") = some (.str summary.1)
  keys : summary.2.map Prod.fst = lane.metricIds
  recomputed : ∀ metric ∈ lane.metrics.items, ∃ value, summary.2.lookup metric.metricId = some value ∧
    reduce library.floats (caseSamples library case metric.metricId) metric.reducer = .ok value
  declared : ∀ metric ∈ lane.metrics.items, ∃ value q,
    ((case.member? (lit "summary")).bind (·.member? metric.metricId)).bind (numberValue library) = some q ∧
      summary.2.lookup metric.metricId = some value ∧ isClose (.finite q) value = true

theorem readSummary_ok {library : Library} {trials : List (List (Str × ℚ))} {summary : List (Str × Json)} {place : Str}
    {metric : PerformanceMetric} {row : Str × PyFloat}
    (h : readSummary library trials summary place metric = .ok row) : row.1 = metric.metricId ∧
      reduce library.floats (samplesOf trials metric.metricId) metric.reducer = .ok row.2 ∧
      ∃ q, (summary.lookup metric.metricId).bind (numberValue library) = some q ∧ isClose (.finite q) row.2 = true := by
  unfold readSummary at h
  obtain ⟨expected, hexpected, h⟩ := bind_ok_iff.mp h
  obtain ⟨value, hvalue, h⟩ := bind_ok_iff.mp h
  obtain ⟨declared, hdeclared, h⟩ := bind_ok_iff.mp h
  obtain ⟨_, hclose, h⟩ := bind_ok_iff.mp h
  cases h
  refine ⟨rfl, hexpected, declared, ?_, demand_ok hclose⟩
  rw [item_ok_iff.mp hvalue]
  exact number_ok hdeclared

theorem readCase_ok {library : Library} {lane : PerformanceLane} {case : (Json × PlannedPerformanceCase) × Nat}
    {read : Str × List (Str × PyFloat) × Nat} (h : readCase library lane case = .ok read) :
    read.1 = case.1.2.caseId ∧ Summarized library lane case.1.1 (read.1, read.2.1) := by
  unfold readCase at h
  obtain ⟨obj, hobj, h⟩ := bind_ok_iff.mp h
  obtain ⟨trials, htrials, h⟩ := bind_ok_iff.mp h
  obtain ⟨summary, hsummary, h⟩ := bind_ok_iff.mp h
  obtain ⟨_, -, h⟩ := bind_ok_iff.mp h
  obtain ⟨recomputed, hrecomputed, h⟩ := bind_ok_iff.mp h
  cases h
  rw [strictObject_ok hobj]
  obtain ⟨value, hat, hsummary⟩ := readAt_ok_iff.mp hsummary
  obtain rfl := object_ok_iff.mp hsummary
  have hrow := fun metric (hmetric : metric ∈ lane.metrics.items) =>
    lookup_of_mapM (fun _ _ hx => (readSummary_ok hx).1) lane.metrics.distinct hrecomputed hmetric
  refine ⟨rfl, readTrials_caseId htrials, ?_, ?_, ?_⟩
  · have hkeys := (forall₂_of_mapM hrecomputed).imp fun _ _ hx => (readSummary_ok hx).1
    rw [PerformanceLane.metricIds, ← List.forall₂_eq_eq_eq, List.forall₂_map_left_iff, List.forall₂_map_right_iff]
    exact hkeys.flip
  · intro metric hmetric
    obtain ⟨b, hb, hlookup⟩ := hrow metric hmetric
    refine ⟨b, hlookup, ?_⟩
    rw [← readTrials_ok htrials metric hmetric]
    exact (readSummary_ok hb).2.1
  · intro metric hmetric
    obtain ⟨b, hb, hlookup⟩ := hrow metric hmetric
    obtain ⟨q, hq, hclose⟩ := (readSummary_ok hb).2.2
    exact ⟨b, q, by simpa only [member?, hat, Option.bind_some] using hq, hlookup, hclose⟩

theorem forall₂_zip {α β γ : Type} (P : α → γ → Prop) (Q : β → γ → Prop) {xs : List α} {ys : List β} {zs : List γ}
    (hlength : xs.length = ys.length) (n : Nat)
    (h : List.Forall₂ (fun (x : (α × β) × Nat) z => Q x.1.2 z ∧ P x.1.1 z) ((xs.zip ys).zipIdx n) zs) :
    List.Forall₂ Q ys zs ∧ List.Forall₂ P xs zs := by
  induction xs generalizing ys zs n with
  | nil =>
    obtain rfl : ys = [] := List.length_eq_zero_iff.mp hlength.symm
    simp only [List.zip_nil_left, List.zipIdx_nil, List.forall₂_nil_left_iff] at h
    simp [h]
  | cons x xs ih =>
    cases ys with
    | nil => simp at hlength
    | cons y ys =>
      rw [List.zip_cons_cons, List.zipIdx_cons, List.forall₂_cons_left_iff] at h
      obtain ⟨z, rest, hz, hrest, rfl⟩ := h
      obtain ⟨hys, hxs⟩ := ih (by simpa using hlength) (n + 1) hrest
      exact ⟨.cons hz.1 hys, .cons hz.2 hxs⟩

theorem validateCases_ok {library : Library} {contract : PerformanceContract} {lane : PerformanceLane} {value : Json}
    {summaries : List (Str × List (Str × PyFloat))} {trialCount : Nat} (hlane : contract.lane lane.laneId = .ok lane)
    (h : validateCases library contract lane value = .ok (summaries, trialCount)) :
    summaries.map Prod.fst = lane.cases.map (·.caseId) ∧
      List.Forall₂ (Summarized library lane) (itemsOf (some value)) summaries := by
  unfold validateCases at h
  obtain ⟨raw, hraw, h⟩ := bind_ok_iff.mp h
  obtain ⟨plan, hplan, h⟩ := bind_ok_iff.mp h
  obtain ⟨_, hlength, h⟩ := bind_ok_iff.mp h
  obtain ⟨read, hread, h⟩ := bind_ok_iff.mp h
  cases h
  obtain rfl := array_ok_iff.mp hraw
  obtain rfl : lane.cases = plan := Except.ok.inj ((casePlan_ok hlane).symm.trans hplan)
  have hlength : raw.length = lane.cases.length := by simpa using demand_ok hlength
  obtain ⟨hids, hsummaries⟩ := forall₂_zip
    (fun case (row : Str × List (Str × PyFloat) × Nat) => Summarized library lane case (row.1, row.2.1))
    (fun planned row => row.1 = planned.caseId) hlength 0
    ((forall₂_of_mapM hread).imp fun _ _ hrow => readCase_ok hrow)
  have hkeys : (read.map fun case => (case.1, case.2.1)).map Prod.fst = lane.cases.map (·.caseId) := by
    rw [List.map_map, ← List.forall₂_eq_eq_eq, List.forall₂_map_left_iff, List.forall₂_map_right_iff]
    exact hids.flip
  have hdict : dictOf (read.map fun case => (case.1, case.2.1)) = read.map fun case => (case.1, case.2.1) := by
    apply dictOf_eq
    rw [hkeys]
    exact cases_ids lane
  rw [hdict]
  refine ⟨hkeys, ?_⟩
  rw [List.forall₂_map_right_iff]
  exact hsummaries

/-! ## The gates -/

/-- The threshold of a gate: the contract's number, or the document's. -/
def gateThreshold (library : Library) (doc : Json) (gate : PerformanceGate) : Option ℚ :=
  match gate.thresholdSource with
  | .benchmarkContract expected => some expected
  | .certificationRecord =>
    ((doc.member? (lit "frozen_thresholds")).bind (·.member? gate.gateId)).bind (numberValue library)

/-- The gate holds for every case of the document. -/
def GateHolds (library : Library) (lane : PerformanceLane) (doc : Json) (gate : PerformanceGate) : Prop :=
  ∃ threshold, gateThreshold library doc gate = some threshold ∧
    ∀ case ∈ itemsOf (doc.member? (lit "cases")), ∃ value, Recomputed library lane case gate.metric value ∧
      compare value gate.operator threshold = true

def GatesHold (library : Library) (lane : PerformanceLane) (doc : Json) (decision : Decision) : Prop :=
  ∀ gate ∈ lane.gates.items, gate.decision = decision → GateHolds library lane doc gate

theorem readThresholds_ok {library : Library} {gates : List Str} {value : Json} {place : Str} {rows : List (Str × ℚ)}
    (hdistinct : gates.Nodup) (h : readThresholds library gates value place = .ok rows) :
    rows.map Prod.fst = gates ∧ ∀ gateId ∈ gates, ∃ q, rows.lookup gateId = some q ∧
      (value.member? gateId).bind (numberValue library) = some q := by
  unfold readThresholds at h
  obtain ⟨obj, hobj, hrows⟩ := bind_ok_iff.mp h
  obtain rfl := strictObject_ok hobj
  have hrow : ∀ (gateId : Str) (row : Str × ℚ),
      (do return (gateId, ← number library.floats true (← item obj gateId) (place ++ lit "." ++ gateId))) =
        Except.ok row → row.1 = gateId ∧ (obj.lookup gateId).bind (numberValue library) = some row.2 := by
    intro gateId row hrow
    obtain ⟨value, hvalue, hrow⟩ := bind_ok_iff.mp hrow
    obtain ⟨q, hq, hrow⟩ := bind_ok_iff.mp hrow
    cases hrow
    rw [item_ok_iff.mp hvalue]
    exact ⟨rfl, number_ok hq⟩
  constructor
  · have hkeys := (forall₂_of_mapM hrows).imp fun gateId row hread => (hrow gateId row hread).1
    rw [← List.forall₂_eq_eq_eq, List.forall₂_map_left_iff]
    exact hkeys.flip
  · intro gateId hgate
    obtain ⟨q, hq, hlookup⟩ := @lookup_of_mapM _ _ id _ _ _ (fun _ _ hx => (hrow _ _ hx).1) (by simpa using hdistinct)
      hrows _ hgate
    exact ⟨q, hlookup, (hrow gateId _ hq).2⟩

theorem certifiedGates_distinct (lane : PerformanceLane) : (certifiedGates lane).Nodup :=
  (List.filter_sublist.map _).nodup lane.gates.distinct

theorem mem_certifiedGates {lane : PerformanceLane} {gate : PerformanceGate} (hgate : gate ∈ lane.gates.items)
    (hsource : gate.thresholdSource = .certificationRecord) : gate.gateId ∈ certifiedGates lane :=
  List.mem_map_of_mem (List.mem_filter.mpr ⟨hgate, by rw [hsource]; rfl⟩)

theorem thresholdOf_ok {library : Library} {lane : PerformanceLane} {doc value : Json} {place : Str}
    {thresholds : List (Str × ℚ)} {gate : PerformanceGate} {threshold : ℚ} (hgate : gate ∈ lane.gates.items)
    (hdoc : doc.member? (lit "frozen_thresholds") = some value)
    (hread : readThresholds library (certifiedGates lane) value place = .ok thresholds)
    (h : thresholdOf thresholds gate = .ok threshold) : gateThreshold library doc gate = some threshold := by
  unfold thresholdOf at h
  unfold gateThreshold
  split at h
  · cases h
    simp [*]
  · rename_i hsource
    obtain ⟨q, hlookup, hvalue⟩ := (readThresholds_ok (certifiedGates_distinct lane) hread).2 _
      (mem_certifiedGates hgate hsource)
    rw [hlookup] at h
    cases h
    simpa [hsource, hdoc] using hvalue

theorem failsGate_ok {gate : PerformanceGate} {threshold : ℚ} {summary : Str × List (Str × PyFloat)}
    {failed : Option Str} (h : failsGate gate threshold summary = .ok failed) :
    failed = none ↔ ∃ value, summary.2.lookup gate.metric = some value ∧ compare value gate.operator threshold = true := by
  unfold failsGate at h
  split at h
  · rename_i observed hobserved
    cases h
    simp [hobserved]
  · cases h

theorem reduceOption_eq_nil_iff {α β : Type} {P : α → Prop} {xs : List α} {ys : List (Option β)}
    (h : List.Forall₂ (fun x y => y = none ↔ P x) xs ys) : ys.reduceOption = [] ↔ ∀ x ∈ xs, P x := by
  induction h with
  | nil => simp
  | @cons x y xs ys hxy _ ih =>
    rw [List.forall_mem_cons, ← ih, ← hxy]
    cases y <;> simp

theorem evaluateGate_ok {summaries : List (Str × List (Str × PyFloat))} {thresholds : List (Str × ℚ)}
    {gate : PerformanceGate} {result : GateResult} (h : evaluateGate summaries thresholds gate = .ok result) :
    result.gateId = gate.gateId ∧ result.decision = gate.decision ∧ thresholdOf thresholds gate = .ok result.threshold ∧
      (result.passed = true ↔ ∀ summary ∈ summaries, ∃ value, summary.2.lookup gate.metric = some value ∧
        compare value gate.operator result.threshold = true) := by
  unfold evaluateGate at h
  obtain ⟨threshold, hthreshold, h⟩ := bind_ok_iff.mp h
  obtain ⟨failed, hfailed, h⟩ := bind_ok_iff.mp h
  cases h
  refine ⟨rfl, rfl, hthreshold, ?_⟩
  rw [GateResult.passed, List.isEmpty_iff]
  exact reduceOption_eq_nil_iff ((forall₂_of_mapM hfailed).imp fun _ _ hrow => failsGate_ok hrow)

theorem gateReasons_eq_nil_iff (decision : Decision) (results : List GateResult) :
    gateReasons decision results = [] ↔ ∀ result ∈ results, result.decision = decision → result.passed = true := by
  simp only [gateReasons, List.map_eq_nil_iff, List.filter_eq_nil_iff, Bool.and_eq_true, Bool.not_eq_true',
    decide_eq_true_eq, not_and]
  refine forall₂_congr fun result _ => ⟨fun h hd => ?_, fun h hp hd => ?_⟩
  · cases hp : result.passed with
    | true => rfl
    | false => exact absurd hd (h hp)
  · rw [h hd] at hp
    cases hp

theorem recomputed_iff {library : Library} {lane : PerformanceLane} {case : Json}
    {summary : Str × List (Str × PyFloat)} (h : Summarized library lane case summary) (metricId : Str)
    (value : PyFloat) : summary.2.lookup metricId = some value ↔ Recomputed library lane case metricId value := by
  constructor
  · intro hlookup
    have hkey : metricId ∈ lane.metricIds := by
      rw [← h.keys]
      obtain ⟨l₁, l₂, hsplit, -⟩ := List.lookup_eq_some_iff.mp hlookup
      rw [hsplit]
      simp
    obtain ⟨metric, hmetric, rfl⟩ := List.mem_map.mp hkey
    obtain ⟨v, hv, hreduce⟩ := h.recomputed metric hmetric
    obtain rfl : v = value := Option.some.inj (hv.symm.trans hlookup)
    exact ⟨metric, hmetric, rfl, hreduce⟩
  · rintro ⟨metric, hmetric, rfl, hreduce⟩
    obtain ⟨v, hv, hreduced⟩ := h.recomputed metric hmetric
    obtain rfl : v = value := Except.ok.inj (hreduced.symm.trans hreduce)
    exact hv

/-- A result passed exactly when its gate holds. -/
theorem passed_iff {library : Library} {lane : PerformanceLane} {doc : Json}
    {summaries : List (Str × List (Str × PyFloat))} {thresholds : List (Str × ℚ)} {gate : PerformanceGate}
    {result : GateResult} (hthreshold : gateThreshold library doc gate = some result.threshold)
    (hcases : List.Forall₂ (Summarized library lane)
      (itemsOf (doc.member? (lit "cases"))) summaries)
    (h : evaluateGate summaries thresholds gate = .ok result) :
    result.passed = true ↔ GateHolds library lane doc gate := by
  have hall : (∀ summary ∈ summaries, ∃ value, summary.2.lookup gate.metric = some value ∧
      compare value gate.operator result.threshold = true) ↔
        ∀ case ∈ itemsOf (doc.member? (lit "cases")), ∃ value, Recomputed library lane case gate.metric value ∧
          compare value gate.operator result.threshold = true := by
    clear h hthreshold
    generalize itemsOf (doc.member? (lit "cases")) = cases at hcases ⊢
    induction hcases with
    | nil => simp
    | cons hcase _ ih => simp only [List.forall_mem_cons, ih, recomputed_iff hcase]
  rw [(evaluateGate_ok h).2.2.2, hall]
  constructor
  · exact fun h => ⟨result.threshold, hthreshold, h⟩
  · rintro ⟨threshold, hread, h⟩
    obtain rfl : result.threshold = threshold := Option.some.inj (hthreshold.symm.trans hread)
    exact h

/-- No reason comes from the gates of a decision exactly when they hold. -/
theorem gateReasons_iff {library : Library} {lane : PerformanceLane} {doc value : Json} {place : Str}
    {summaries : List (Str × List (Str × PyFloat))} {thresholds : List (Str × ℚ)} {results : List GateResult}
    (hdoc : doc.member? (lit "frozen_thresholds") = some value)
    (hread : readThresholds library (certifiedGates lane) value place = .ok thresholds)
    (hcases : List.Forall₂ (Summarized library lane)
      (itemsOf (doc.member? (lit "cases"))) summaries)
    (h : evaluateGates lane summaries thresholds = .ok results) (decision : Decision) :
    gateReasons decision results = [] ↔ GatesHold library lane doc decision := by
  rw [gateReasons_eq_nil_iff]
  have hgates := forall₂_of_mapM h
  have hone : ∀ gate ∈ lane.gates.items, ∀ result, evaluateGate summaries thresholds gate = .ok result →
      ((result.decision = decision → result.passed = true) ↔
        (gate.decision = decision → GateHolds library lane doc gate)) := by
    intro gate hgate result hresult
    have hthreshold := thresholdOf_ok hgate hdoc hread (evaluateGate_ok hresult).2.2.1
    rw [(evaluateGate_ok hresult).2.1, passed_iff hthreshold hcases hresult]
  unfold GatesHold
  clear h
  generalize lane.gates.items = gates at hgates hone
  induction hgates with
  | nil => simp
  | cons hresult _ ih =>
    rw [List.forall_mem_cons, List.forall_mem_cons]
    exact and_congr (hone _ List.mem_cons_self _ hresult)
      (ih fun gate hgate => hone gate (List.mem_cons_of_mem _ hgate))

/-! ## The decision -/

theorem derive_publishable (lane : PerformanceLane) (reasons promotions : List Str) :
    (derive lane reasons promotions).evidenceStatus = .publishable ↔ reasons = [] := by
  unfold derive
  split_ifs <;> simp_all

theorem derive_candidate (lane : PerformanceLane) (reasons promotions : List Str) :
    (derive lane reasons promotions).candidate = true ↔ reasons = [] := by
  unfold derive
  split_ifs <;> simp_all

theorem derive_passed (lane : PerformanceLane) (reasons promotions : List Str) :
    (derive lane reasons promotions).promotionStatus = .passed ↔
      reasons = [] ∧ (∃ gate ∈ lane.gates.items, gate.decision = .promotion) ∧ promotions = [] := by
  unfold derive
  split_ifs <;> simp_all

/-! ## The certification record -/

/-- The instant of a time with a timezone. -/
def instantOf (library : Library) : Json → Option Int
  | .str text => (library.fromIsoformat (replaceZulu text)).bind fun time => if time.aware then some time.instant else none
  | _ => none

theorem timestamp_ok {library : Library} {value : Json} {place : Str} {instant : Int}
    (h : timestamp library value place = .ok instant) : instantOf library value = some instant := by
  unfold timestamp at h
  obtain ⟨text, htext, hrest⟩ := bind_ok_iff.mp h
  obtain rfl := string_ok htext
  split at hrest
  · cases hrest
  · rename_i time htime
    split at hrest
    · rename_i haware
      cases hrest
      simp [instantOf, htime, haware]
    · cases hrest

/-- A record that was in force when the session started, and that has the thresholds of the certified gates. -/
structure Certified (library : Library) (lane : PerformanceLane) (files : Files) (doc record : Json) : Prop where
  file : ∃ artifact ∈ itemsOf (doc.member? (lit "artifacts")), ∃ path,
    artifact.member? (lit "id") = some (.str (lit "certification_record")) ∧
      artifact.member? (lit "path") = some (.str path) ∧ files.readJson (files.beside path) = .ok record
  applicable : ∃ issued started expires, (record.member? (lit "issued_at")).bind (instantOf library) = some issued ∧
    ((doc.member? (lit "session")).bind (·.member? (lit "started_at"))).bind (instantOf library) = some started ∧
    (record.member? (lit "expires_at")).bind (instantOf library) = some expires ∧ issued ≤ started ∧ started < expires
  thresholds : ∀ gate ∈ lane.gates.items, gate.thresholdSource = .certificationRecord →
    ∃ q, gateThreshold library doc gate = some q ∧
      ((record.member? (lit "thresholds")).bind (·.member? gate.gateId)).bind (numberValue library) = some q

theorem declaredPath_ok {descriptor : List (Str × Json)} {id path : Str}
    (h : Lanes.declaredPath descriptor = .ok (id, path)) : descriptor.lookup (lit "path") = some (.str path) := by
  unfold Lanes.declaredPath at h
  split at h
  · rename_i hpath
    split at h
    · cases h
    · cases h
      exact hpath
  · cases h
  · cases h

theorem validated_path {probe : Str → Probe} {descriptor : List (Str × Json)} {artifact : Artifact}
    (h : Lanes.validateSubjectArtifact probe descriptor = .ok artifact) :
    descriptor.lookup (lit "path") = some (.str artifact.path) := by
  unfold Lanes.validateSubjectArtifact at h
  obtain ⟨⟨id, path⟩, hpath, h⟩ := bind_ok_iff.mp h
  have hfile : artifact.path = path := by
    dsimp only at h
    split at h
    · cases h
    · cases h
    · cases h
    · cases h
    · unfold Lanes.checkFile at h
      split at h
      · split at h
        · cases h
        · split at h
          · split at h
            · cases h
            · split at h
              · cases h
              · cases h
                rfl
          · cases h
      · cases h
  rw [hfile]
  exact declaredPath_ok hpath

theorem readArtifact_ok {files : Files} {raw : Json × Nat} {row : Str × Artifact}
    (h : readArtifact files raw = .ok row) : raw.1.member? (lit "id") = some (.str row.1) ∧
      raw.1.member? (lit "path") = some (.str row.2.path) := by
  unfold readArtifact at h
  obtain ⟨descriptor, hdescriptor, h⟩ := bind_ok_iff.mp h
  obtain ⟨artifactId, hid, h⟩ := bind_ok_iff.mp h
  obtain ⟨_, -, h⟩ := bind_ok_iff.mp h
  obtain ⟨_, -, h⟩ := bind_ok_iff.mp h
  obtain ⟨path, hpath, h⟩ := bind_ok_iff.mp h
  obtain ⟨_, -, h⟩ := bind_ok_iff.mp h
  obtain ⟨_, -, h⟩ := bind_ok_iff.mp h
  obtain ⟨verified, hverified, h⟩ := bind_ok_iff.mp h
  cases h
  rw [strictObject_ok hdescriptor]
  obtain ⟨value, hat, hid⟩ := readAt_ok_iff.mp hid
  obtain rfl := identifier_ok hid
  refine ⟨hat, ?_⟩
  have hnamed : some path = some (Json.str verified.path) := validated_path hverified
  rw [← hnamed]
  exact item_ok_iff.mp hpath

theorem validateArtifacts_file {files : Files} {value : Json} {requiredIds : List Str}
    {artifacts : List (Str × Artifact)} {artifactId : Str} {artifact : Artifact}
    (h : validateArtifacts files value requiredIds = .ok artifacts)
    (hfound : artifactOf artifacts artifactId = .ok artifact) :
    ∃ raw ∈ itemsOf (some value), raw.member? (lit "id") = some (.str artifactId) ∧
      raw.member? (lit "path") = some (.str artifact.path) := by
  unfold validateArtifacts at h
  obtain ⟨raws, hraws, h⟩ := bind_ok_iff.mp h
  obtain ⟨_, -, h⟩ := bind_ok_iff.mp h
  obtain ⟨verified, hverified, h⟩ := bind_ok_iff.mp h
  obtain ⟨_, -, h⟩ := bind_ok_iff.mp h
  cases h
  have hmem : (artifactId, artifact) ∈ verified := by
    unfold artifactOf at hfound
    split at hfound
    · rename_i found hlookup
      cases hfound
      obtain ⟨l₁, l₂, hsplit, -⟩ := List.lookup_eq_some_iff.mp hlookup
      exact mem_dictOf verified _ (by rw [hsplit]; simp)
    · cases hfound
  obtain ⟨raw, hraw, hread⟩ := mem_of_mapM_ok _ _ _ hverified _ hmem
  rw [array_ok_iff.mp hraws]
  exact ⟨raw.1, List.fst_mem_of_mem_zipIdx hraw, readArtifact_ok hread⟩

theorem validateApplicability_ok {library : Library} {contract : PerformanceContract} {lane : PerformanceLane}
    {record : List (Str × Json)} {startedAt : Json} {path : Str}
    (h : validateApplicability library contract lane record startedAt path = .ok ()) :
    ∃ issued started expires, (record.lookup (lit "issued_at")).bind (instantOf library) = some issued ∧
      instantOf library startedAt = some started ∧
      (record.lookup (lit "expires_at")).bind (instantOf library) = some expires ∧ issued ≤ started ∧
      started < expires := by
  unfold validateApplicability at h
  obtain ⟨_, -, h⟩ := bind_ok_iff.mp h
  obtain ⟨_, -, h⟩ := bind_ok_iff.mp h
  obtain ⟨_, -, h⟩ := bind_ok_iff.mp h
  obtain ⟨_, -, h⟩ := bind_ok_iff.mp h
  obtain ⟨_, -, h⟩ := bind_ok_iff.mp h
  obtain ⟨_, -, h⟩ := bind_ok_iff.mp h
  obtain ⟨_, -, h⟩ := bind_ok_iff.mp h
  obtain ⟨_, -, h⟩ := bind_ok_iff.mp h
  obtain ⟨issued, hissued, h⟩ := bind_ok_iff.mp h
  obtain ⟨expires, hexpires, h⟩ := bind_ok_iff.mp h
  obtain ⟨started, hstarted, h⟩ := bind_ok_iff.mp h
  obtain ⟨issuedValue, hissuedAt, hissued⟩ := readAt_ok_iff.mp hissued
  obtain ⟨expiresValue, hexpiresAt, hexpires⟩ := readAt_ok_iff.mp hexpires
  have hforce := demand_ok h
  simp only [Bool.and_eq_true, decide_eq_true_eq] at hforce
  refine ⟨issued, started, expires, ?_, timestamp_ok hstarted, ?_, hforce⟩
  · rw [hissuedAt]
    exact timestamp_ok hissued
  · rw [hexpiresAt]
    exact timestamp_ok hexpires

/-- What an accepted record says. -/
theorem validateCertificationRecord_ok {library : Library} {contract : PerformanceContract} {lane : PerformanceLane}
    {files : Files} {artifacts : List (Str × Artifact)} {environment : Json} {session : Session}
    {thresholds : List (Str × ℚ)} (hdistinct : (thresholds.map Prod.fst).Nodup)
    (h : validateCertificationRecord library contract lane files artifacts environment session thresholds = .ok ()) :
    ∃ descriptor record, artifactOf artifacts (lit "certification_record") = .ok descriptor ∧
      files.readJson (files.beside descriptor.path) = .ok record ∧
      (∃ issued started expires, (record.member? (lit "issued_at")).bind (instantOf library) = some issued ∧
        instantOf library session.startedAt = some started ∧
        (record.member? (lit "expires_at")).bind (instantOf library) = some expires ∧ issued ≤ started ∧
        started < expires) ∧
      ∀ gateId q, thresholds.lookup gateId = some q →
        ((record.member? (lit "thresholds")).bind (·.member? gateId)).bind (numberValue library) = some q := by
  unfold validateCertificationRecord at h
  obtain ⟨descriptor, hdescriptor, h⟩ := bind_ok_iff.mp h
  obtain ⟨json, hjson, h⟩ := bind_ok_iff.mp h
  obtain ⟨record, hrecord, h⟩ := bind_ok_iff.mp h
  obtain ⟨_, happlicable, h⟩ := bind_ok_iff.mp h
  obtain ⟨_, -, h⟩ := bind_ok_iff.mp h
  obtain ⟨_, -, h⟩ := bind_ok_iff.mp h
  obtain ⟨_, -, h⟩ := bind_ok_iff.mp h
  obtain ⟨_, -, h⟩ := bind_ok_iff.mp h
  obtain ⟨value, hvalue, h⟩ := bind_ok_iff.mp h
  obtain ⟨certified, hcertified, hsame⟩ := bind_ok_iff.mp h
  obtain rfl := strictObject_ok hrecord
  obtain rfl : certified = thresholds := by simpa using demand_ok hsame
  refine ⟨descriptor, .obj record, hdescriptor, hjson, validateApplicability_ok happlicable, ?_⟩
  intro gateId q hlookup
  have hmem : gateId ∈ certified.map Prod.fst := by
    obtain ⟨l₁, l₂, hsplit, -⟩ := List.lookup_eq_some_iff.mp hlookup
    rw [hsplit]
    simp
  obtain ⟨r, hr, hread⟩ := (readThresholds_ok hdistinct hcertified).2 gateId hmem
  obtain rfl : q = r := Option.some.inj (hlookup.symm.trans hr)
  simpa [member?, item_ok_iff.mp hvalue] using hread

end TurnVector.Performance
