import TurnVector.Performance.Readings

/-! # What decides a publication

The decision follows from the evidence, and not from what the document says of itself.
-/

namespace TurnVector.Performance

open Python Json
open CrossEngine (PyFloat)
open LaneController (Raised)
open Lanes (Artifact demand_ok)

/-! ## One run -/

def Supported (doc : Json) : Prop :=
  (doc.member? (lit "support")).bind (·.member? (lit "status")) = some (.str (lit "supported"))

/-- What a publication needs. -/
structure Publishable (library : Library) (contract : PerformanceContract) (lane : PerformanceLane) (doc : Json) :
    Prop where
  supported : Supported doc
  session : ∃ session, doc.member? (lit "session") = some session ∧ Clean contract session
  environment : ∃ environment, doc.member? (lit "environment") = some environment ∧
    HostWithinLimits library contract environment
  gates : GatesHold library lane doc .evidence

/-- The document declares the decision that is reported. -/
structure Declares (doc : Json) (decision : Derived) : Prop where
  evidenceStatus : (doc.member? (lit "publication")).bind (·.member? (lit "evidence_status")) =
    some (.str decision.evidenceStatus.text)
  promotionStatus : (doc.member? (lit "publication")).bind (·.member? (lit "promotion_status")) =
    some (.str decision.promotionStatus.text)
  candidate : (doc.member? (lit "publication")).bind (·.member? (lit "candidate")) = some (.bool decision.candidate)
  evidenceReasons : (doc.member? (lit "publication")).bind (·.member? (lit "evidence_reasons")) =
    some (.arr (decision.evidenceReasons.map Json.str))
  promotionReasons : (doc.member? (lit "publication")).bind (·.member? (lit "promotion_reasons")) =
    some (.arr (decision.promotionReasons.map Json.str))

theorem strings_ok {allowEmpty : Bool} {value : Json} {place : Str} {texts : List Str}
    (h : strings string allowEmpty value place = .ok texts) : value = .arr (texts.map Json.str) := by
  unfold strings at h
  obtain ⟨items, hitems, hrest⟩ := bind_ok_iff.mp h
  obtain ⟨parsed, hparsed, hrest⟩ := bind_ok_iff.mp hrest
  obtain rfl := array_ok_iff.mp hitems
  have hsame : items = parsed.map Json.str := by
    have hrows := (forall₂_of_mapM hparsed).imp fun _ _ hrow => string_ok hrow
    rw [← List.zipIdx_map_fst 0 items, ← List.forall₂_eq_eq_eq, List.forall₂_map_left_iff, List.forall₂_map_right_iff]
    exact hrows
  split at hrest
  · cases hrest
  · split at hrest
    · cases hrest
    · cases hrest
      rw [hsame]

theorem validatePublication_ok {doc value : Json} {derived : Derived} {supersedes : List Str}
    (hdoc : doc.member? (lit "publication") = some value)
    (h : validatePublication value derived = .ok supersedes) : Declares doc derived := by
  unfold validatePublication at h
  obtain ⟨obj, hobj, h⟩ := bind_ok_iff.mp h
  obtain ⟨_, -, h⟩ := bind_ok_iff.mp h
  obtain ⟨evidenceStatus, hevidence, h⟩ := bind_ok_iff.mp h
  obtain ⟨promotionStatus, hpromotion, h⟩ := bind_ok_iff.mp h
  obtain ⟨_, -, h⟩ := bind_ok_iff.mp h
  obtain ⟨_, -, h⟩ := bind_ok_iff.mp h
  obtain ⟨evidenceReasons, hreasons, h⟩ := bind_ok_iff.mp h
  obtain ⟨promotionReasons, hpromotions, h⟩ := bind_ok_iff.mp h
  obtain ⟨candidate, hcandidate, h⟩ := bind_ok_iff.mp h
  obtain ⟨_, hsame, h⟩ := bind_ok_iff.mp h
  have hsame := demand_ok hsame
  simp only [Bool.and_eq_true, decide_eq_true_eq] at hsame
  obtain ⟨⟨⟨⟨rfl, rfl⟩, rfl⟩, rfl⟩, rfl⟩ := hsame
  obtain rfl := strictObject_ok hobj
  obtain ⟨_, hevidenceAt, hevidence⟩ := readAt_ok_iff.mp hevidence
  obtain rfl := identifier_ok hevidence
  obtain ⟨_, hpromotionAt, hpromotion⟩ := readAt_ok_iff.mp hpromotion
  obtain rfl := identifier_ok hpromotion
  obtain ⟨_, hreasonsAt, hreasons⟩ := readAt_ok_iff.mp hreasons
  obtain rfl := strings_ok hreasons
  obtain ⟨_, hpromotionsAt, hpromotions⟩ := readAt_ok_iff.mp hpromotions
  obtain rfl := strings_ok hpromotions
  obtain ⟨_, hcandidateAt, hcandidate⟩ := readAt_ok_iff.mp hcandidate
  obtain rfl := boolean_ok_iff.mp hcandidate
  refine ⟨?_, ?_, ?_, ?_, ?_⟩
  · rw [hdoc]
    exact hevidenceAt
  · rw [hdoc]
    exact hpromotionAt
  · rw [hdoc]
    exact hcandidateAt
  · rw [hdoc]
    exact hreasonsAt
  · rw [hdoc]
    exact hpromotionsAt

theorem reportOf_ok {contract : PerformanceContract} {lane : PerformanceLane} {files : Files} {session : Session}
    {caseCount trialCount artifactCount : Nat} {gates : List GateResult} {decision : Derived} {supersedes : List Str}
    {report : Report}
    (h : reportOf contract lane files session caseCount trialCount artifactCount gates decision supersedes =
      .ok report) : report.laneId = lane.laneId ∧ report.decision = decision ∧ report.gates = gates := by
  unfold reportOf at h
  obtain ⟨sha256, -, h⟩ := bind_ok_iff.mp h
  cases h
  exact ⟨rfl, rfl, rfl⟩

theorem lane_ok {contract : PerformanceContract} {laneId : Str} {lane : PerformanceLane}
    (h : contract.lane laneId = .ok lane) : lane ∈ contract.lanes.items ∧ lane.laneId = laneId := by
  unfold PerformanceContract.lane at h
  split at h
  · rename_i found hfind
    cases h
    exact ⟨List.mem_of_find?_eq_some hfind, by simpa using List.find?_some hfind⟩
  · cases h

/-- The cases of the document are those of the plan, each with a summary that its trials make. -/
def Measured (library : Library) (lane : PerformanceLane) (doc : Json) : Prop :=
  ∃ summaries : List (Str × List (Str × PyFloat)), summaries.map Prod.fst = lane.cases.map (·.caseId) ∧
    List.Forall₂ (Summarized library lane) (itemsOf (doc.member? (lit "cases"))) summaries

/-- A report of a supported lane. -/
structure Judged (library : Library) (lane : PerformanceLane) (files : Files) (doc : Json) (session : Session)
    (reasons : List Str) (report : Report) : Prop where
  laneId : report.laneId = lane.laneId
  decision : report.decision = derive lane (reasons ++ gateReasons .evidence report.gates)
    (gateReasons .promotion report.gates)
  gates : ∀ decision, gateReasons decision report.gates = [] ↔ GatesHold library lane doc decision
  declares : Declares doc report.decision
  measured : Measured library lane doc
  certified : (doc.member? (lit "session")).bind (·.member? (lit "started_at")) = some session.startedAt →
    ∃ record, Certified library lane files doc record
  thresholds : ∀ result ∈ report.gates, ∃ gate ∈ lane.gates.items, gate.gateId = result.gateId ∧
    gateThreshold library doc gate = some result.threshold

theorem validateSupported_ok {library : Library} {contract : PerformanceContract} {lane : PerformanceLane}
    {files : Files} {obj : List (Str × Json)} {session : Session} {reasons : List Str} {report : Report}
    (hlane : contract.lane lane.laneId = .ok lane)
    (h : validateSupported library contract lane files obj session reasons = .ok report) :
    Judged library lane files (.obj obj) session reasons report := by
  unfold validateSupported at h
  obtain ⟨frozen, hfrozen, h⟩ := bind_ok_iff.mp h
  obtain ⟨thresholds, hthresholds, h⟩ := bind_ok_iff.mp h
  obtain ⟨rawCases, hrawCases, h⟩ := bind_ok_iff.mp h
  obtain ⟨⟨summaries, trialCount⟩, hsummaries, h⟩ := bind_ok_iff.mp h
  obtain ⟨rawArtifacts, hrawArtifacts, h⟩ := bind_ok_iff.mp h
  obtain ⟨artifacts, hartifacts, h⟩ := bind_ok_iff.mp h
  obtain ⟨environment, -, h⟩ := bind_ok_iff.mp h
  obtain ⟨_, -, h⟩ := bind_ok_iff.mp h
  obtain ⟨_, hrecord, h⟩ := bind_ok_iff.mp h
  obtain ⟨gates, hgates, h⟩ := bind_ok_iff.mp h
  obtain ⟨publication, hpublication, h⟩ := bind_ok_iff.mp h
  obtain ⟨supersedes, hsupersedes, h⟩ := bind_ok_iff.mp h
  obtain ⟨hlaneId, hdecision, rfl⟩ := reportOf_ok h
  have hdoc : (Json.obj obj).member? (lit "frozen_thresholds") = some frozen := item_ok_iff.mp hfrozen
  have hcasesAt : (Json.obj obj).member? (lit "cases") = some rawCases := item_ok_iff.mp hrawCases
  have hartifactsAt : (Json.obj obj).member? (lit "artifacts") = some rawArtifacts := item_ok_iff.mp hrawArtifacts
  obtain ⟨hids, hcases⟩ := validateCases_ok hlane hsummaries
  rw [← hcasesAt] at hcases
  have hkeys := (readThresholds_ok (certifiedGates_distinct lane) hthresholds).1
  refine ⟨hlaneId, hdecision, gateReasons_iff hdoc hthresholds hcases hgates, ?_, ⟨summaries, hids, hcases⟩, ?_, ?_⟩
  · rw [hdecision]
    exact validatePublication_ok (item_ok_iff.mp hpublication) hsupersedes
  · intro hstarted
    obtain ⟨descriptor, record, hdescriptor, hjson, hforce, hvalues⟩ := validateCertificationRecord_ok
      (by rw [hkeys]; exact certifiedGates_distinct lane) hrecord
    obtain ⟨raw, hraw, hid, hpath⟩ := validateArtifacts_file hartifacts hdescriptor
    refine ⟨record, ⟨raw, by rw [hartifactsAt]; exact hraw, descriptor.path, hid, hpath, hjson⟩, ?_, ?_⟩
    · rw [hstarted]
      exact hforce
    · intro gate hgate hsource
      obtain ⟨q, hlookup, hvalue⟩ := (readThresholds_ok (certifiedGates_distinct lane) hthresholds).2 _
        (mem_certifiedGates hgate hsource)
      refine ⟨q, ?_, hvalues _ _ hlookup⟩
      simpa [gateThreshold, hsource, hdoc] using hvalue
  · intro result hresult
    obtain ⟨gate, hgate, hread⟩ := mem_of_mapM_ok _ _ _ hgates _ hresult
    obtain ⟨hid, -, hthreshold, -⟩ := evaluateGate_ok hread
    exact ⟨gate, hgate, hid.symm, thresholdOf_ok hgate hdoc hthresholds hthreshold⟩

/-! ## Two runs -/

/-- Two cases that differ in their summaries only. -/
def SameCase (case case' : Json) : Prop := ∀ name, name ≠ lit "summary" → case.member? name = case'.member? name

/-- Two documents that differ in their publications and summaries only. -/
structure SameEvidence (doc doc' : Json) : Prop where
  members : ∀ name, name ≠ lit "publication" → name ≠ lit "cases" → doc.member? name = doc'.member? name
  cases : List.Forall₂ SameCase (itemsOf (doc.member? (lit "cases"))) (itemsOf (doc'.member? (lit "cases")))

theorem mapM_agree {α α' β : Type} {f : α → Except Raised β} {f' : α' → Except Raised β} {xs : List α} {xs' : List α'}
    {ys ys' : List β} (hagree : List.Forall₂ (fun x x' => ∀ y y', f x = .ok y → f' x' = .ok y' → y = y') xs xs')
    (h : xs.mapM f = .ok ys) (h' : xs'.mapM f' = .ok ys') : ys = ys' := by
  have hrows := forall₂_of_mapM h
  have hrows' := forall₂_of_mapM h'
  clear h h'
  induction hagree generalizing ys ys' with
  | nil =>
    cases hrows
    cases hrows'
    rfl
  | cons hone _ ih =>
    cases hrows with
    | cons hrow hrest =>
      cases hrows' with
      | cons hrow' hrest' => rw [hone _ _ hrow hrow', ih hrest hrest']

theorem readTrials_same {library : Library} {lane : PerformanceLane} {obj obj' : List (Str × Json)}
    (h : SameCase (.obj obj) (.obj obj')) (planned : PlannedPerformanceCase) (place : Str) :
    readTrials library lane obj planned place = readTrials library lane obj' planned place := by
  have hcaseId : obj.lookup (lit "case_id") = obj'.lookup (lit "case_id") := h _ (by decide)
  have hmatrixId : obj.lookup (lit "matrix_id") = obj'.lookup (lit "matrix_id") := h _ (by decide)
  have hparameters : obj.lookup (lit "parameters") = obj'.lookup (lit "parameters") := h _ (by decide)
  have hstatus : obj.lookup (lit "status") = obj'.lookup (lit "status") := h _ (by decide)
  have htrials : obj.lookup (lit "trials") = obj'.lookup (lit "trials") := h _ (by decide)
  simp only [readTrials, readAt, item, hcaseId, hmatrixId, hparameters, hstatus, htrials]

theorem readCase_same {library : Library} {lane : PerformanceLane} {raw raw' : Json} {planned : PlannedPerformanceCase}
    {n : Nat} {read read' : Str × List (Str × PyFloat) × Nat} (hsame : SameCase raw raw')
    (h : readCase library lane ((raw, planned), n) = .ok read)
    (h' : readCase library lane ((raw', planned), n) = .ok read') : read = read' := by
  unfold readCase at h h'
  obtain ⟨obj, hobj, h⟩ := bind_ok_iff.mp h
  obtain ⟨trials, htrials, h⟩ := bind_ok_iff.mp h
  obtain ⟨summary, -, h⟩ := bind_ok_iff.mp h
  obtain ⟨_, -, h⟩ := bind_ok_iff.mp h
  obtain ⟨recomputed, hrecomputed, hend⟩ := bind_ok_iff.mp h
  obtain ⟨obj', hobj', h'⟩ := bind_ok_iff.mp h'
  obtain ⟨trials', htrials', h'⟩ := bind_ok_iff.mp h'
  obtain ⟨summary', -, h'⟩ := bind_ok_iff.mp h'
  obtain ⟨_, -, h'⟩ := bind_ok_iff.mp h'
  obtain ⟨recomputed', hrecomputed', hend'⟩ := bind_ok_iff.mp h'
  obtain rfl : raw = .obj obj := strictObject_ok hobj
  obtain rfl : raw' = .obj obj' := strictObject_ok hobj'
  rw [readTrials_same hsame] at htrials
  obtain rfl : trials = trials' := Except.ok.inj (htrials.symm.trans htrials')
  have hrows : recomputed = recomputed' := by
    refine mapM_agree (List.forall₂_same.mpr fun metric _ row row' hrow hrow' => ?_) hrecomputed hrecomputed'
    obtain ⟨hid, hvalue, -⟩ := readSummary_ok hrow
    obtain ⟨hid', hvalue', -⟩ := readSummary_ok hrow'
    exact Prod.ext (hid.trans hid'.symm) (Except.ok.inj (hvalue.symm.trans hvalue'))
  cases hend
  cases hend'
  rw [hrows]

theorem zip_same {α β : Type} {R : α → α → Prop} {S : (α × β) × Nat → (α × β) × Nat → Prop} {xs xs' : List α}
    (ys : List β) (n : Nat) (h : List.Forall₂ R xs xs')
    (hone : ∀ y n x x', R x x' → S ((x, y), n) ((x', y), n)) :
    List.Forall₂ S ((xs.zip ys).zipIdx n) ((xs'.zip ys).zipIdx n) := by
  induction h generalizing ys n with
  | nil => simp
  | cons hx _ ih =>
    cases ys with
    | nil => simp
    | cons y ys =>
      rw [List.zip_cons_cons, List.zip_cons_cons, List.zipIdx_cons, List.zipIdx_cons]
      exact .cons (hone _ _ _ _ hx) (ih ys (n + 1))

theorem validateCases_same {library : Library} {contract : PerformanceContract} {lane : PerformanceLane}
    {value value' : Json} {read read' : List (Str × List (Str × PyFloat)) × Nat}
    (hsame : List.Forall₂ SameCase (itemsOf (some value)) (itemsOf (some value')))
    (h : validateCases library contract lane value = .ok read)
    (h' : validateCases library contract lane value' = .ok read') : read = read' := by
  unfold validateCases at h h'
  obtain ⟨raws, hraws, h⟩ := bind_ok_iff.mp h
  obtain ⟨plan, hplan, h⟩ := bind_ok_iff.mp h
  obtain ⟨_, -, h⟩ := bind_ok_iff.mp h
  obtain ⟨rows, hrows, hend⟩ := bind_ok_iff.mp h
  obtain ⟨raws', hraws', h'⟩ := bind_ok_iff.mp h'
  obtain ⟨plan', hplan', h'⟩ := bind_ok_iff.mp h'
  obtain ⟨_, -, h'⟩ := bind_ok_iff.mp h'
  obtain ⟨rows', hrows', hend'⟩ := bind_ok_iff.mp h'
  obtain rfl : plan = plan' := Except.ok.inj (hplan.symm.trans hplan')
  rw [array_ok_iff.mp hraws, array_ok_iff.mp hraws', itemsOf, itemsOf] at hsame
  have hread : rows = rows' := mapM_agree (zip_same plan 0 hsame fun planned n case case' hcase y y' hy hy' =>
    readCase_same hcase hy hy') hrows hrows'
  cases hend
  cases hend'
  rw [hread]

theorem item_same {members members' : List (Str × Json)} {name : Str} {value value' : Json}
    (hsame : members.lookup name = members'.lookup name) (h : item members name = .ok value)
    (h' : item members' name = .ok value') : value = value' :=
  Option.some.inj ((item_ok_iff.mp h).symm.trans (hsame.trans (item_ok_iff.mp h')))

/-- Two reports that agree but for what the documents supersede and for their digests. -/
def SameReport (report report' : Report) : Prop :=
  report' = { report with supersedes := report'.supersedes, evidenceSha256 := report'.evidenceSha256 }

theorem reportOf_same {contract : PerformanceContract} {lane : PerformanceLane} {files files' : Files}
    {session : Session} {caseCount trialCount artifactCount : Nat} {gates : List GateResult} {decision : Derived}
    {supersedes supersedes' : List Str} {report report' : Report}
    (h : reportOf contract lane files session caseCount trialCount artifactCount gates decision supersedes = .ok report)
    (h' : reportOf contract lane files' session caseCount trialCount artifactCount gates decision supersedes' =
      .ok report') (hpath : files.evidencePath = files'.evidencePath) : SameReport report report' := by
  unfold reportOf at h h'
  obtain ⟨sha256, -, h⟩ := bind_ok_iff.mp h
  obtain ⟨sha256', -, h'⟩ := bind_ok_iff.mp h'
  cases h
  cases h'
  simp [SameReport, hpath]

theorem selectLane_same {contract : PerformanceContract} {obj obj' : List (Str × Json)} (path : Str)
    (h : ∀ name, name ≠ lit "publication" → name ≠ lit "cases" → obj.lookup name = obj'.lookup name) :
    selectLane contract obj path = selectLane contract obj' path := by
  have hschema := h (lit "schema_version") (by decide) (by decide)
  have hcontract := h (lit "contract") (by decide) (by decide)
  have hlane := h (lit "lane_id") (by decide) (by decide)
  simp only [selectLane, readAt, item, hschema, hcontract, hlane]

section
variable {library : Library} {contract : PerformanceContract} {lane : PerformanceLane} {files : Files}
  {obj obj' : List (Str × Json)} {digest : Except Raised Str} {doc : Except Raised Json} {session : Session}
  {report report' : Report}

theorem validateUnsupported_same
    (hsame : ∀ name, name ≠ lit "publication" → name ≠ lit "cases" → obj.lookup name = obj'.lookup name)
    (h : validateUnsupported contract lane files obj session = .ok report)
    (h' : validateUnsupported contract lane { files with document := doc, evidenceSha256 := digest } obj' session =
      .ok report') : SameReport report report' := by
  unfold validateUnsupported at h h'
  obtain ⟨_, -, h⟩ := bind_ok_iff.mp h
  obtain ⟨_, -, h⟩ := bind_ok_iff.mp h
  obtain ⟨_, -, h⟩ := bind_ok_iff.mp h
  obtain ⟨raw, hraw, h⟩ := bind_ok_iff.mp h
  obtain ⟨artifacts, hartifacts, h⟩ := bind_ok_iff.mp h
  obtain ⟨_, -, h⟩ := bind_ok_iff.mp h
  obtain ⟨supersedes, -, hreport⟩ := bind_ok_iff.mp h
  obtain ⟨_, -, h'⟩ := bind_ok_iff.mp h'
  obtain ⟨_, -, h'⟩ := bind_ok_iff.mp h'
  obtain ⟨_, -, h'⟩ := bind_ok_iff.mp h'
  obtain ⟨raw', hraw', h'⟩ := bind_ok_iff.mp h'
  obtain ⟨artifacts', hartifacts', h'⟩ := bind_ok_iff.mp h'
  obtain ⟨_, -, h'⟩ := bind_ok_iff.mp h'
  obtain ⟨supersedes', -, hreport'⟩ := bind_ok_iff.mp h'
  obtain rfl := item_same (hsame _ (by decide) (by decide)) hraw hraw'
  obtain rfl : artifacts = artifacts' := Except.ok.inj (hartifacts.symm.trans hartifacts')
  exact reportOf_same hreport hreport' rfl

theorem validateSupported_same {reasons : List Str} (hsame : SameEvidence (.obj obj) (.obj obj'))
    (h : validateSupported library contract lane files obj session reasons = .ok report)
    (h' : validateSupported library contract lane { files with document := doc, evidenceSha256 := digest } obj' session
      reasons = .ok report') : SameReport report report' := by
  unfold validateSupported at h h'
  obtain ⟨frozen, hfrozen, h⟩ := bind_ok_iff.mp h
  obtain ⟨thresholds, hthresholds, h⟩ := bind_ok_iff.mp h
  obtain ⟨rawCases, hrawCases, h⟩ := bind_ok_iff.mp h
  obtain ⟨⟨summaries, trialCount⟩, hsummaries, h⟩ := bind_ok_iff.mp h
  obtain ⟨rawArtifacts, hrawArtifacts, h⟩ := bind_ok_iff.mp h
  obtain ⟨artifacts, hartifacts, h⟩ := bind_ok_iff.mp h
  obtain ⟨_, -, h⟩ := bind_ok_iff.mp h
  obtain ⟨_, -, h⟩ := bind_ok_iff.mp h
  obtain ⟨_, -, h⟩ := bind_ok_iff.mp h
  obtain ⟨gates, hgates, h⟩ := bind_ok_iff.mp h
  obtain ⟨_, -, h⟩ := bind_ok_iff.mp h
  obtain ⟨supersedes, -, hreport⟩ := bind_ok_iff.mp h
  obtain ⟨frozen', hfrozen', h'⟩ := bind_ok_iff.mp h'
  obtain ⟨thresholds', hthresholds', h'⟩ := bind_ok_iff.mp h'
  obtain ⟨rawCases', hrawCases', h'⟩ := bind_ok_iff.mp h'
  obtain ⟨⟨summaries', trialCount'⟩, hsummaries', h'⟩ := bind_ok_iff.mp h'
  obtain ⟨rawArtifacts', hrawArtifacts', h'⟩ := bind_ok_iff.mp h'
  obtain ⟨artifacts', hartifacts', h'⟩ := bind_ok_iff.mp h'
  obtain ⟨_, -, h'⟩ := bind_ok_iff.mp h'
  obtain ⟨_, -, h'⟩ := bind_ok_iff.mp h'
  obtain ⟨_, -, h'⟩ := bind_ok_iff.mp h'
  obtain ⟨gates', hgates', h'⟩ := bind_ok_iff.mp h'
  obtain ⟨_, -, h'⟩ := bind_ok_iff.mp h'
  obtain ⟨supersedes', -, hreport'⟩ := bind_ok_iff.mp h'
  obtain rfl := item_same (hsame.members _ (by decide) (by decide)) hfrozen hfrozen'
  obtain rfl := item_same (hsame.members _ (by decide) (by decide)) hrawArtifacts hrawArtifacts'
  obtain rfl : thresholds = thresholds' := Except.ok.inj (hthresholds.symm.trans hthresholds')
  obtain rfl : artifacts = artifacts' := Except.ok.inj (hartifacts.symm.trans hartifacts')
  have hcases := hsame.cases
  simp only [member?, item_ok_iff.mp hrawCases, item_ok_iff.mp hrawCases'] at hcases
  have hread := validateCases_same hcases hsummaries hsummaries'
  obtain ⟨rfl, rfl⟩ := Prod.mk.inj hread
  obtain rfl : gates = gates' := Except.ok.inj (hgates.symm.trans hgates')
  exact reportOf_same hreport hreport' rfl

end

/-- A document that differs in its publication and its summaries only has the same report, when it has one. -/
theorem validateArtifact_same {library : Library} {contract : PerformanceContract} {files : Files} {doc doc' : Json}
    {digest : Except Raised Str} {report report' : Report} (hdoc : files.document = .ok doc)
    (hsame : SameEvidence doc doc') (h : validateArtifact library contract files = .ok report)
    (h' : validateArtifact library contract { files with document := .ok doc', evidenceSha256 := digest } = .ok report') :
    SameReport report report' := by
  unfold validateArtifact at h h'
  obtain ⟨json, hjson, h⟩ := bind_ok_iff.mp h
  obtain ⟨obj, hobj, h⟩ := bind_ok_iff.mp h
  obtain ⟨_, -, h⟩ := bind_ok_iff.mp h
  obtain ⟨lane, hlane, h⟩ := bind_ok_iff.mp h
  obtain ⟨support, hsupport, h⟩ := bind_ok_iff.mp h
  obtain ⟨status, hstatus, h⟩ := bind_ok_iff.mp h
  obtain ⟨rawSession, hrawSession, h⟩ := bind_ok_iff.mp h
  obtain ⟨⟨session, reasons⟩, hsession, h⟩ := bind_ok_iff.mp h
  obtain ⟨rawHost, hrawHost, h⟩ := bind_ok_iff.mp h
  obtain ⟨hostReasons, hhost, h⟩ := bind_ok_iff.mp h
  obtain ⟨_, -, h⟩ := bind_ok_iff.mp h
  obtain ⟨_, -, h⟩ := bind_ok_iff.mp h
  obtain ⟨_, -, hend⟩ := bind_ok_iff.mp h
  obtain ⟨json', hjson', h'⟩ := bind_ok_iff.mp h'
  obtain ⟨obj', hobj', h'⟩ := bind_ok_iff.mp h'
  obtain ⟨_, -, h'⟩ := bind_ok_iff.mp h'
  obtain ⟨lane', hlane', h'⟩ := bind_ok_iff.mp h'
  obtain ⟨support', hsupport', h'⟩ := bind_ok_iff.mp h'
  obtain ⟨status', hstatus', h'⟩ := bind_ok_iff.mp h'
  obtain ⟨rawSession', hrawSession', h'⟩ := bind_ok_iff.mp h'
  obtain ⟨⟨session', reasons'⟩, hsession', h'⟩ := bind_ok_iff.mp h'
  obtain ⟨rawHost', hrawHost', h'⟩ := bind_ok_iff.mp h'
  obtain ⟨hostReasons', hhost', h'⟩ := bind_ok_iff.mp h'
  obtain ⟨_, -, h'⟩ := bind_ok_iff.mp h'
  obtain ⟨_, -, h'⟩ := bind_ok_iff.mp h'
  obtain ⟨_, -, hend'⟩ := bind_ok_iff.mp h'
  obtain rfl : doc = json := Except.ok.inj (hdoc.symm.trans hjson)
  obtain rfl : doc' = json' := Except.ok.inj hjson'
  obtain rfl := object_ok_iff.mp hobj
  obtain rfl := object_ok_iff.mp hobj'
  have hmembers : ∀ name, name ≠ lit "publication" → name ≠ lit "cases" → obj.lookup name = obj'.lookup name :=
    hsame.members
  rw [selectLane_same _ hmembers] at hlane
  obtain rfl : lane = lane' := Except.ok.inj (hlane.symm.trans hlane')
  obtain rfl := item_same (hmembers _ (by decide) (by decide)) hsupport hsupport'
  obtain rfl : status = status' := Except.ok.inj (hstatus.symm.trans hstatus')
  obtain rfl := item_same (hmembers _ (by decide) (by decide)) hrawSession hrawSession'
  obtain ⟨rfl, rfl⟩ := Prod.mk.inj (Except.ok.inj (hsession.symm.trans hsession'))
  obtain rfl := item_same (hmembers _ (by decide) (by decide)) hrawHost hrawHost'
  obtain rfl : hostReasons = hostReasons' := Except.ok.inj (hhost.symm.trans hhost')
  cases status with
  | supported => exact validateSupported_same hsame hend hend'
  | unsupported => exact validateUnsupported_same hmembers hend hend'

/-! ## What is published -/

/-- What the evidence of a document decides about its report. -/
structure Decided (library : Library) (contract : PerformanceContract) (lane : PerformanceLane) (files : Files)
    (doc : Json) (report : Report) : Prop where
  named : lane ∈ contract.lanes.items ∧ doc.member? (lit "lane_id") = some (.str lane.laneId) ∧
    report.laneId = lane.laneId
  publishable : report.decision.evidenceStatus = .publishable ↔ Publishable library contract lane doc
  promoted : report.decision.promotionStatus = .passed ↔ Publishable library contract lane doc ∧
    (∃ gate ∈ lane.gates.items, gate.decision = .promotion) ∧ GatesHold library lane doc .promotion
  candidate : report.decision.candidate = true ↔ Publishable library contract lane doc
  declares : Declares doc report.decision
  measured : Supported doc → Measured library lane doc
  certified : Supported doc → (∃ record, Certified library lane files doc record) ∧
    ∀ result ∈ report.gates, ∃ gate ∈ lane.gates.items, gate.gateId = result.gateId ∧
      gateThreshold library doc gate = some result.threshold

theorem selectLane_ok {contract : PerformanceContract} {obj : List (Str × Json)} {path : Str} {lane : PerformanceLane}
    (h : selectLane contract obj path = .ok lane) : lane ∈ contract.lanes.items ∧
      contract.lane lane.laneId = .ok lane ∧ (Json.obj obj).member? (lit "lane_id") = some (.str lane.laneId) := by
  unfold selectLane at h
  obtain ⟨_, -, h⟩ := bind_ok_iff.mp h
  obtain ⟨_, -, h⟩ := bind_ok_iff.mp h
  obtain ⟨_, -, h⟩ := bind_ok_iff.mp h
  obtain ⟨_, -, h⟩ := bind_ok_iff.mp h
  obtain ⟨_, -, h⟩ := bind_ok_iff.mp h
  obtain ⟨laneId, hlaneId, hlane⟩ := bind_ok_iff.mp h
  obtain ⟨hmem, rfl⟩ := lane_ok hlane
  obtain ⟨_, hat, hread⟩ := readAt_ok_iff.mp hlaneId
  obtain rfl := identifier_ok hread
  exact ⟨hmem, hlane, hat⟩

theorem unsupported_decision {contract : PerformanceContract} {lane : PerformanceLane} {files : Files}
    {obj : List (Str × Json)} {session : Session} {report : Report}
    (h : validateUnsupported contract lane files obj session = .ok report) : report.laneId = lane.laneId ∧
      report.decision = unsupportedDecision ∧ Declares (.obj obj) report.decision := by
  unfold validateUnsupported at h
  obtain ⟨_, -, h⟩ := bind_ok_iff.mp h
  obtain ⟨_, -, h⟩ := bind_ok_iff.mp h
  obtain ⟨_, -, h⟩ := bind_ok_iff.mp h
  obtain ⟨_, -, h⟩ := bind_ok_iff.mp h
  obtain ⟨_, -, h⟩ := bind_ok_iff.mp h
  obtain ⟨publication, hpublication, h⟩ := bind_ok_iff.mp h
  obtain ⟨supersedes, hsupersedes, h⟩ := bind_ok_iff.mp h
  obtain ⟨hlaneId, hdecision, -⟩ := reportOf_ok h
  refine ⟨hlaneId, hdecision, ?_⟩
  rw [hdecision]
  exact validatePublication_ok (item_ok_iff.mp hpublication) hsupersedes

theorem validateArtifact_decided {library : Library} {contract : PerformanceContract} {files : Files} {report : Report}
    (h : validateArtifact library contract files = .ok report) :
    ∃ doc lane, files.document = .ok doc ∧ Decided library contract lane files doc report := by
  unfold validateArtifact at h
  obtain ⟨doc, hdoc, h⟩ := bind_ok_iff.mp h
  obtain ⟨obj, hobj, h⟩ := bind_ok_iff.mp h
  obtain ⟨_, -, h⟩ := bind_ok_iff.mp h
  obtain ⟨lane, hlane, h⟩ := bind_ok_iff.mp h
  obtain ⟨support, hsupport, h⟩ := bind_ok_iff.mp h
  obtain ⟨status, hstatus, h⟩ := bind_ok_iff.mp h
  obtain ⟨rawSession, hrawSession, h⟩ := bind_ok_iff.mp h
  obtain ⟨⟨session, sessionReasons⟩, hsession, h⟩ := bind_ok_iff.mp h
  obtain ⟨rawHost, hrawHost, h⟩ := bind_ok_iff.mp h
  obtain ⟨hostReasons, hhost, h⟩ := bind_ok_iff.mp h
  obtain ⟨_, -, h⟩ := bind_ok_iff.mp h
  obtain ⟨_, -, h⟩ := bind_ok_iff.mp h
  obtain ⟨_, -, hend⟩ := bind_ok_iff.mp h
  obtain rfl := object_ok_iff.mp hobj
  obtain ⟨hmem, hfound, hnamed⟩ := selectLane_ok hlane
  have hsupportAt : (Json.obj obj).member? (lit "support") = some support := item_ok_iff.mp hsupport
  have hsessionAt : (Json.obj obj).member? (lit "session") = some rawSession := item_ok_iff.mp hrawSession
  have hhostAt : (Json.obj obj).member? (lit "environment") = some rawHost := item_ok_iff.mp hrawHost
  have hsupported : status = .supported ↔ Supported (.obj obj) := by
    rw [validateSupport_ok hstatus, Supported, hsupportAt]
    rfl
  refine ⟨.obj obj, lane, hdoc, ?_⟩
  cases status with
  | supported =>
    have hyes := hsupported.mp rfl
    obtain ⟨hclean, hstarted⟩ := validateSession_ok hsession
    have hjudged := validateSupported_ok hfound hend
    have hpublishable : sessionReasons ++ hostReasons ++ gateReasons .evidence report.gates = [] ↔
        Publishable library contract lane (.obj obj) := by
      rw [List.append_eq_nil_iff, List.append_eq_nil_iff, hclean, validateEnvironment_ok hhost, hjudged.gates]
      constructor
      · rintro ⟨⟨hc, hh⟩, hg⟩
        exact ⟨hyes, ⟨_, hsessionAt, hc⟩, ⟨_, hhostAt, hh⟩, hg⟩
      · rintro ⟨-, ⟨s, hs, hc⟩, ⟨e, he, hh⟩, hg⟩
        obtain rfl : rawSession = s := Option.some.inj (hsessionAt.symm.trans hs)
        obtain rfl : rawHost = e := Option.some.inj (hhostAt.symm.trans he)
        exact ⟨⟨hc, hh⟩, hg⟩
    refine ⟨⟨hmem, hnamed, hjudged.laneId⟩, ?_, ?_, ?_, hjudged.declares, fun _ => hjudged.measured,
      fun _ => ⟨hjudged.certified ?_, hjudged.thresholds⟩⟩
    · rw [hjudged.decision, derive_publishable, hpublishable]
    · rw [hjudged.decision, derive_passed, hpublishable, hjudged.gates]
    · rw [hjudged.decision, derive_candidate, hpublishable]
    · rw [hsessionAt]
      exact hstarted
  | unsupported =>
    have hno : ¬ Supported (.obj obj) := fun hs => absurd (hsupported.mpr hs) (by decide)
    obtain ⟨hlaneId, hdecision, hdeclares⟩ := unsupported_decision hend
    have hnever : ¬ Publishable library contract lane (.obj obj) := fun hp => hno hp.supported
    refine ⟨⟨hmem, hnamed, hlaneId⟩, ?_, ?_, ?_, hdeclares, fun hs => absurd hs hno, fun hs => absurd hs hno⟩
    · simp [hdecision, unsupportedDecision, hnever]
    · simp [hdecision, unsupportedDecision, hnever]
    · simp [hdecision, unsupportedDecision, hnever]

/-- A publication is decided by the evidence: the two self-declared parts can only make the validation fail. -/
theorem publication_decided (library : Library) (contract : PerformanceContract) (files : Files) (report : Report)
    (h : validateArtifact library contract files = .ok report) :
    ∃ doc lane, files.document = .ok doc ∧ Decided library contract lane files doc report ∧
      ∀ doc' digest report', SameEvidence doc doc' →
        validateArtifact library contract { files with document := .ok doc', evidenceSha256 := digest } = .ok report' →
          SameReport report report' := by
  obtain ⟨doc, lane, hdoc, hdecided⟩ := validateArtifact_decided h
  exact ⟨doc, lane, hdoc, hdecided, fun doc' digest report' hsame h' => validateArtifact_same hdoc hsame h h'⟩

/-! ## A published lane -/

open Lanes (only sampleDigest text fields)

def sampleLane : PerformanceLane where
  laneId := lit "decode"
  activation := .core
  sessionMode := lit "benchmark"
  claimTypes := [lit "absolute"]
  matrices := only _ ⟨lit "batch", only _ ⟨lit "batch_size", [.int 1, .int 2]⟩⟩
  protocol := ⟨0, 2, lit "0.0", lit "fresh_per_cell", lit "fixed", lit "disabled", lit "greedy", []⟩
  metrics := only _ ⟨lit "tokens", lit "count", .min⟩
  gates := ⟨[⟨lit "floor", lit "tokens", .gte, .benchmarkContract 10, .evidence⟩,
    ⟨lit "target", lit "tokens", .gte, .certificationRecord, .promotion⟩], by simp, by decide⟩
  requiredArtifacts := [lit "trace"]
  claimBoundaries := [lit "sample"]

def sampleRevision : Str := List.replicate 40 (cp 97)

def sampleContract : PerformanceContract where
  contractId := lit "sample"
  sha256 := sampleDigest
  sourceRevision := sampleRevision
  hostAdmissionLimits := ⟨4, 50⟩
  lanes := only _ sampleLane

def sampleLibrary : Library where
  floats := { Lanes.exactFloats with ofToken := fun token => if token = lit "0.0" then .finite 0 else .nan }
  fromIsoformat time :=
    if time = lit "2026-08-17T00:00:00+00:00" then some ⟨true, 1786924800⟩
    else if time = lit "2026-08-18T00:00:00+00:00" then some ⟨true, 1787011200⟩
    else none

def named (name : Json) : Json := fields [("id", name), ("sha256", .str sampleDigest)]

def sampleSession : Json := fields [("id", text "session"), ("mode", text "benchmark"), ("claim_type", text "absolute"),
  ("subject_kind", text "implementation"), ("started_at", text "2026-08-17T00:00:00Z"),
  ("finished_at", text "2026-08-17T00:00:00Z"), ("source_revision", .str sampleRevision),
  ("source_dirty", .bool false), ("benchmark_revision", .str sampleRevision), ("benchmark_dirty", .bool false),
  ("comparison", .null)]

def sampleIdentity : List (String × Json) := [("resolved_runtime_sha256", .str sampleDigest),
  ("subject_binary_sha256", .str sampleDigest), ("model_manifest_sha256", .str sampleDigest),
  ("prompt_manifest_sha256", .str sampleDigest)]

def sampleEnvironment : Json := fields (sampleIdentity ++ [("certification_record_sha256", .str sampleDigest),
  ("device_class", text "device"), ("memory_bytes", .int 1), ("os_build", text "build"),
  ("power_source", text "external"), ("thermal_state_start", text "nominal"), ("thermal_state_end", text "nominal"),
  ("load_average_1m_start", .int 1), ("load_average_1m_end", .int 1), ("top_process_cpu_percent_start", .int 5),
  ("top_process_cpu_percent_end", .int 5), ("host_admission_passed", .bool true)])

def sampleProtocol : Json := fields [("warmup_repetitions", .int 0), ("measured_repetitions", .int 2),
  ("cooldown_seconds", .float (lit "0.0")), ("process_isolation", text "fresh_per_cell"), ("order_policy", text "fixed"),
  ("cache_policy", text "disabled"), ("sampling_policy", text "greedy"), ("fixed_parameters", .obj []),
  ("thresholds_frozen_before_run", .bool true)]

def sampleTrial (repetition : Json) (tokens : Int) : Json :=
  fields [("repetition", repetition), ("metrics", fields [("tokens", .int tokens)])]

def sampleCase (caseId : String) (batch second : Json) : Json := fields [("case_id", text caseId),
  ("matrix_id", text "batch"), ("parameters", fields [("batch_size", batch)]), ("status", text "measured"),
  ("trials", .arr [sampleTrial (.int 0) 20, sampleTrial second 30]), ("summary", fields [("tokens", .int 20)])]

def sampleArtifact (artifactId : Str) : Json := fields [("id", .str artifactId), ("path", .str artifactId),
  ("size", .int 3), ("sha256", .str sampleDigest), ("custody", text "benchmark")]

def samplePublication : Json := fields [("evidence_status", text "publishable"), ("promotion_status", text "passed"),
  ("candidate", .bool true), ("evidence_reasons", .arr []), ("promotion_reasons", .arr []), ("supersedes", .arr [])]

/-- The evidence, with the batch size of its first case and the number of that case's second trial. -/
def sampleEvidence (batch second : Json) : Json := fields [
  ("schema_version", text "turnvector.benchmark.performance-evidence.v1"), ("contract", named (text "sample")),
  ("lane_id", text "decode"), ("support", fields [("status", text "supported"), ("reason", .null)]),
  ("session", sampleSession), ("environment", sampleEnvironment),
  ("custody", .arr (benchmarkCustodyFields.map Json.str)), ("protocol", sampleProtocol),
  ("frozen_thresholds", fields [("target", .int 15)]),
  ("cases", .arr [sampleCase "decode.batch.0001" batch second, sampleCase "decode.batch.0002" (.int 2) (.int 1)]),
  ("artifacts", .arr ((commonRequiredArtifacts ++ [lit "trace"]).map sampleArtifact)),
  ("publication", samplePublication)]

def sampleRecord : Json := fields [("schema_version", text "turnvector.benchmark.performance-certification.v1"),
  ("id", text "record"), ("contract", named (text "sample")), ("lane_id", text "decode"),
  ("issued_at", text "2026-08-17T00:00:00Z"), ("expires_at", text "2026-08-18T00:00:00Z"),
  ("identity", fields sampleIdentity), ("thresholds", fields [("target", .int 15)])]

def sampleFiles (batch second : Json) : Files where
  evidencePath := lit "evidence.json"
  document := .ok (sampleEvidence batch second)
  evidenceSha256 := .ok sampleDigest
  probe _ := .file 3 sampleDigest
  beside path := path
  readJson _ := .ok sampleRecord

theorem publication_decided_sample :
    ∃ report, validateArtifact sampleLibrary sampleContract (sampleFiles (.int 1) (.int 1)) = .ok report ∧
      ∃ doc lane, (sampleFiles (.int 1) (.int 1)).document = .ok doc ∧
        Decided sampleLibrary sampleContract lane (sampleFiles (.int 1) (.int 1)) doc report ∧
          ∀ doc' digest report', SameEvidence doc doc' → validateArtifact sampleLibrary sampleContract
            { sampleFiles (.int 1) (.int 1) with document := .ok doc', evidenceSha256 := digest } = .ok report' →
              SameReport report report' := by
  obtain ⟨report, hreport⟩ := ok_of_isSome
    (validateArtifact sampleLibrary sampleContract (sampleFiles (.int 1) (.int 1))) (by decide +kernel)
  exact ⟨report, hreport, publication_decided _ _ _ report hreport⟩

end TurnVector.Performance
