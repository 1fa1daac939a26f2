import TurnVector.Authority.PhaseA
import TurnVector.Authority.Retention
import TurnVector.Canonical.RoundTrip

/-! # The canonical streams of the relation layer

`digest_relations` of `authority/compiler_relations.py`, and the constants that it and the plan's counts are written
with.
-/

namespace TurnVector.Relations

open Python Json Canonical Table TraceabilityLedger

/-! ## Streams -/

/-- The members of a record, which are all texts. -/
abbrev Record := List (String × Str)

def jsonLine (record : Record) : Str := dumps .compact 0 (.obj (record.map fun f => (lit f.1, .str f.2))) ++ [cp 10]

/-- `len(value.encode("utf-8"))` -/
def utf8Length (text : Str) : Except Exc Nat :=
  match encodeUtf8 text with
  | some raw => .ok raw.length
  | none => .error .unicodeEncodeError

/-- `_json_line`, and the bytes of the values. -/
def encodeRecord (record : Record) : Except Exc (Bytes × Nat) := do
  match encodeAscii (jsonLine record) with
  | some encoded => return (encoded, (← record.mapM fun f => utf8Length f.2).sum)
  | none => throw .unicodeEncodeError

structure DigestStreams where
  entitySha256 : List (String × Str)
  relationSha256 : List (String × Str)
  byteCount : Nat
  valueByteCount : Nat

section
variable (v : PhaseBResult) (d : DerivedRelations)

def sortedLanes : List Lane := sortedBy (fun lane => [lane.laneId]) v.lanes

def sortedObligations : List Obligation := sortedBy (fun x => [x.laneId, x.behaviorCaseId, x.obligationId]) v.obligations

def sortedPairs : List Pair := sortedBy (fun p => [p.laneId, p.obligationId, p.gateId]) v.pairs

def sortedPaths : List EnforcementPath :=
  sortedBy (fun p => [p.pathId, p.obligationId, p.caseId, p.judgeId, p.bundleId, p.gateId]) d.enforcementPaths

/-- One record a pair, under the names of its two fields. -/
def pairRecords (first second : String) (records : List (Str × Str)) : List Record :=
  (sortedBy (fun r => [r.1, r.2]) records).map fun r => [(first, r.1), (second, r.2)]

def idRecords (name : String) (ids : List Str) : List Record := (sortedBy (fun x => [x]) ids).map fun x => [(name, x)]

def templateRecords (templates : List (Str × Str)) : List Record :=
  (sortedBy (fun x => [x.2]) templates).map fun x => [("template_id", x.2)]

def obligationRecords : List Record := (sortedObligations v).map fun x =>
  [("lane_id", x.laneId), ("behavior_case_id", x.behaviorCaseId), ("obligation_id", x.obligationId)]

/-- The entity streams, in table order. -/
def entityStreams : List (String × List Record) :=
  [("lane", (sortedLanes v).map fun lane => [("lane_id", lane.laneId)]),
   ("behavior_case", (sortedLanes v).flatMap fun lane =>
      (sortedBy (fun c => [c]) lane.cases).map fun case => [("lane_id", lane.laneId), ("behavior_case_id", case)]),
   ("case_plan", (sortedLanes v).flatMap fun lane =>
      (sortedBy (fun c => [c]) lane.caseIds).map fun case => [("lane_id", lane.laneId), ("case_id", case)]),
   ("obligation", obligationRecords v), ("judge", idRecords "judge_id" v.judges),
   ("evidence_bundle", pairRecords "lane_id" "bundle_id" v.bundles),
   ("evidence_source", idRecords "evidence_source_id" v.evidenceSources),
   ("lane_context_contract", idRecords "artifact_type" (distinct (v.laneContexts.map (·.2)))),
   ("post_gate_output_contract", idRecords "artifact_type" (distinct (v.laneOutputs.map (·.2)))),
   ("gate", pairRecords "lane_id" "gate_id" v.gates), ("judge_negative_template", templateRecords v.judgeTemplates),
   ("aggregate_negative_template", templateRecords v.aggregateTemplates),
   ("plumbing_negative_template", templateRecords v.plumbingTemplates),
   ("enforcement_path", (sortedPaths d).map fun p =>
      [("path_id", p.pathId), ("obligation_id", p.obligationId), ("case_id", p.caseId), ("judge_id", p.judgeId),
       ("bundle_id", p.bundleId), ("gate_id", p.gateId)])]

/-- The relation streams, in table order. -/
def relationStreams : List (String × List Record) :=
  [("behavior_obligation", obligationRecords v),
   ("obligation_judge", pairRecords "obligation_id" "judge_id" v.obligationJudges),
   ("lane_bundle", pairRecords "lane_id" "bundle_id" v.bundles),
   ("obligation_gate", (sortedPairs v).map fun p =>
      [("lane_id", p.laneId), ("obligation_id", p.obligationId), ("gate_id", p.gateId)]),
   ("bundle_evidence", pairRecords "bundle_id" "evidence_source_id" v.bundleEvidence),
   ("lane_context", pairRecords "lane_id" "artifact_type" v.laneContexts),
   ("lane_output", pairRecords "lane_id" "artifact_type" v.laneOutputs),
   ("path_case", pairRecords "path_id" "case_id" d.pathCase), ("path_gate", pairRecords "path_id" "gate_id" d.pathGate),
   ("path_evidence", pairRecords "path_id" "evidence_source_id" d.pathEvidence),
   ("path_judge_negative", pairRecords "path_id" "template_id" d.pathJudgeNegative),
   ("gate_aggregate_negative", pairRecords "gate_id" "template_id" d.gateAggregateNegative),
   ("gate_plumbing_negative", pairRecords "gate_id" "template_id" d.gatePlumbingNegative)]

end

section
variable (sha256 : Bytes → Str) {σ : Type} (hook : String → Nat → Method σ Unit)

/-- `_stream`: the digest, the bytes and the bytes of the values. -/
def stream (table : String × List Record) : Method σ (Str × Nat × Nat) := do
  hook table.1 256
  let lines ← liftM (table.2.mapM encodeRecord)
  return (sha256 (lines.flatMap (·.1)), (lines.map (·.1.length)).sum, (lines.map (·.2)).sum)

/-- `digest_relations` -/
def digestRelations (v : PhaseBResult) (d : DerivedRelations) : Method σ DigestStreams := do
  let entities ← (entityStreams v d).mapM (stream sha256 hook)
  let relations ← (relationStreams v d).mapM (stream sha256 hook)
  let total := ((entities ++ relations).map (·.2.1)).sum
  let values := ((entities ++ relations).map (·.2.2)).sum
  if total ≠ 35158 + 177 * v.h + 47 * v.m + 39 * v.rHe + values then
    throw (.compilerInternalError (lit "U_digest formula diverged from canonical streams"))
  return {
    entitySha256 := (entityStreams v d).zipWith (fun table s => (table.1 ++ "_sha256", s.1)) entities
    relationSha256 := (relationStreams v d).zipWith (fun table s => (table.1 ++ "_sha256", s.1)) relations
    byteCount := total
    valueByteCount := values }

end

/-! ## The bytes of a line -/

/-- The characters of a text between its quotes. -/
def escapedLength (text : Str) : Nat := (text.flatMap escapeChar).length

/-- What a line holds besides its values. -/
def overhead (record : Record) : Nat :=
  (record.map fun f => escapedLength (lit f.1) + 5).sum + record.length + 2

theorem length_quote (s : Str) : (quote s).length = escapedLength s + 2 := by
  unfold quote escapedLength
  simp

theorem length_join (sep t : Str) (ts : List Str) :
    (join sep (t :: ts)).length = ((t :: ts).map List.length).sum + ts.length * sep.length := by
  unfold join
  rw [List.length_append, List.length_flatMap]
  induction ts with
  | nil => simp
  | cons u ts ih =>
    simp only [List.map_cons, List.sum_cons, List.length_append, List.length_cons, Nat.add_mul] at ih ⊢
    omega

theorem length_jsonLine (record : Record) (hne : record ≠ []) :
    (jsonLine record).length = overhead record + (record.map fun f => escapedLength f.2).sum := by
  unfold jsonLine
  rw [dumps_obj, Nat.zero_add]
  have hperm := (sortByKey_perm (record.map fun f => (lit f.1, Json.str f.2))).map (memberText .compact 1)
  rcases ht : (sortByKey (record.map fun f => (lit f.1, Json.str f.2))).map (memberText .compact 1) with _ | ⟨t, ts⟩
  · rw [ht, List.map_map] at hperm
    exact absurd (List.map_eq_nil_iff.mp hperm.symm.eq_nil) hne
  · rw [ht, List.map_map] at hperm
    rw [ht]
    have hlen : ts.length + 1 = record.length := by simpa using hperm.length_eq
    have hsum : ((t :: ts).map List.length).sum =
        (record.map fun f => escapedLength (lit f.1) + escapedLength f.2 + 5).sum := by
      rw [(hperm.map List.length).sum_eq, List.map_map]
      congr 1
      apply List.map_congr_left
      intro f _
      simp only [Function.comp_apply, memberText, Layout.colon, dumps, List.length_append, length_quote,
        List.length_singleton]
      omega
    have hsplit : (record.map fun f => escapedLength (lit f.1) + escapedLength f.2 + 5).sum =
        (record.map fun f => escapedLength (lit f.1) + 5).sum + (record.map fun f => escapedLength f.2).sum := by
      rw [← List.sum_map_add]
      congr 1
      apply List.map_congr_left
      intro f _
      omega
    unfold enclose
    rw [if_neg (by simp)]
    simp only [Layout.newline, List.append_nil, List.length_append, List.length_cons, List.length_nil, length_join]
    rw [hsum, hsplit]
    unfold overhead
    omega

/-! ## Bytes and escapes -/

/-- A character that stands for itself between quotes. -/
def isPlainChar (c : CodePoint) : Bool := 32 ≤ c.val && c.val ≤ 126 && c.val != 34 && c.val != 92

def isPlainText (text : Str) : Bool := text.all isPlainChar

def utf8Bytes (text : Str) : Nat := (text.flatMap utf8Char).length

theorem length_char (c : CodePoint) : (utf8Char c).length ≤ (escapeChar c).length ∧
    ((utf8Char c).length = (escapeChar c).length ↔ isPlainChar c = true) := by
  have hu : (utf8Char c).length =
      if c.val < 0x80 then 1 else if c.val < 0x800 then 2 else if c.val < 0x10000 then 3 else 4 := by
    unfold utf8Char
    simp only
    split_ifs <;> rfl
  have he : (escapeChar c).length = if c.val = 92 ∨ c.val = 34 ∨ c.val = 8 ∨ c.val = 12 ∨ c.val = 10 ∨ c.val = 13 ∨
      c.val = 9 then 2 else if 32 ≤ c.val ∧ c.val ≤ 126 then 1 else if c.val < 0x10000 then 6 else 12 := by
    unfold escapeChar
    split_ifs <;> first | rfl | omega
  rw [hu, he]
  simp only [isPlainChar, Bool.and_eq_true, decide_eq_true_eq, bne_iff_ne]
  split_ifs <;> omega

theorem length_text (text : Str) : utf8Bytes text ≤ escapedLength text ∧
    (utf8Bytes text = escapedLength text ↔ isPlainText text = true) := by
  unfold utf8Bytes escapedLength isPlainText
  induction text with
  | nil => simp
  | cons c text ih =>
    obtain ⟨hle, hiff⟩ := length_char c
    simp only [List.flatMap_cons, List.length_append, List.all_cons, Bool.and_eq_true, ← hiff, ← ih.2]
    omega

theorem length_texts (texts : List Str) : (texts.map utf8Bytes).sum ≤ (texts.map escapedLength).sum ∧
    ((texts.map utf8Bytes).sum = (texts.map escapedLength).sum ↔ ∀ t ∈ texts, isPlainText t = true) := by
  induction texts with
  | nil => simp
  | cons t texts ih =>
    obtain ⟨hle, hiff⟩ := length_text t
    simp only [List.map_cons, List.sum_cons, List.forall_mem_cons, ← hiff, ← ih.2]
    omega

theorem hasSurrogate_of_plain (text : Str) (h : isPlainText text = true) : hasSurrogate text = false := by
  simp only [isPlainText, List.all_eq_true, isPlainChar, Bool.and_eq_true, decide_eq_true_eq] at h
  simp only [hasSurrogate, List.any_eq_false, isSurrogate, Bool.and_eq_true, decide_eq_true_eq]
  intro c hc
  have := h c hc
  omega

theorem isPlainText_identifier (s : Str) (h : isIdentifier s = true) : isPlainText s = true := by
  simp only [isPlainText, List.all_eq_true, isPlainChar, Bool.and_eq_true, decide_eq_true_eq, bne_iff_ne]
  intro c hc
  have := identifierChar_bounds c (identifier_chars s h c hc)
  omega

theorem utf8Length_ok (text : Str) (n : Nat) :
    utf8Length text = .ok n ↔ hasSurrogate text = false ∧ n = utf8Bytes text := by
  unfold utf8Length encodeUtf8 utf8Bytes
  cases hasSurrogate text <;> simp [eq_comm]

/-- The values of the record. -/
def values (record : Record) : List Str := record.map Prod.snd

theorem encodeRecord_inv (record : Record) (hne : record ≠ []) (b : Bytes) (n : Nat)
    (h : encodeRecord record = .ok (b, n)) :
    b.length = overhead record + ((values record).map escapedLength).sum ∧ n = ((values record).map utf8Bytes).sum := by
  unfold encodeRecord at h
  rcases ha : encodeAscii (jsonLine record) with _ | encoded
  · simp [ha] at h
  · simp only [ha] at h
    obtain ⟨lengths, hl, h⟩ := bind_ok_iff.mp h
    cases h
    refine ⟨?_, ?_⟩
    · have hlen : b.length = (jsonLine record).length := by
        rw [← (encodeAscii_eq _ _ ha).1, ofBytes, List.length_map]
      rw [hlen, length_jsonLine record hne, values, List.map_map]
      rfl
    · congr 1
      rw [values, List.map_map]
      have hall : ∀ f ∈ record, utf8Length f.2 = .ok (utf8Bytes f.2) := by
        intro f hf
        obtain ⟨n, hn⟩ := mapM_all_ok _ _ _ hl f hf
        rw [hn, ((utf8Length_ok _ _).mp hn).2]
      rw [mapM_ok _ (fun f : String × Str => utf8Bytes f.2) record hall] at hl
      exact (Except.ok.inj hl).symm

theorem encodeRecord_plain (record : Record) (hkeys : (record.map fun f => lit f.1).Nodup)
    (hplain : ∀ f ∈ record, hasSurrogate (lit f.1) = false) (h : ∀ t ∈ values record, isPlainText t = true) :
    ∃ b n, encodeRecord record = .ok (b, n) := by
  have hv : (Json.obj (record.map fun f => (lit f.1, .str f.2))).Plain := by
    refine .obj _ (by simpa [List.map_map, Function.comp_def] using hkeys) ?_ ?_
    · intro p hp
      obtain ⟨f, hf, rfl⟩ := List.mem_map.mp hp
      exact hplain f hf
    · intro p hp
      obtain ⟨f, hf, rfl⟩ := List.mem_map.mp hp
      exact .str _ (hasSurrogate_of_plain _ (h _ (List.mem_map_of_mem hf)))
  obtain ⟨b, hb, -⟩ := encode_plain _ hv
  have hline : ∃ encoded, encodeAscii (jsonLine record) = some encoded := by
    unfold jsonLine
    unfold encodeAscii at hb ⊢
    split at hb
    case isFalse => cases hb
    case isTrue ha =>
      refine ⟨_, if_pos ?_⟩
      simp only [isAscii, List.all_append, Bool.and_eq_true] at ha ⊢
      exact ⟨ha, by decide⟩
  obtain ⟨encoded, he⟩ := hline
  have hl : record.mapM (fun f => utf8Length f.2) = .ok (record.map fun f => utf8Bytes f.2) := by
    apply mapM_ok
    intro f hf
    exact (utf8Length_ok _ _).mpr ⟨hasSurrogate_of_plain _ (h _ (List.mem_map_of_mem hf)), rfl⟩
  refine ⟨encoded, (record.map fun f => utf8Bytes f.2).sum, ?_⟩
  unfold encodeRecord
  simp only [he, hl]
  rfl

/-! ## The columns of the tables -/

/-- The columns of the 27 tables. -/
def columns : List (List String) :=
  [["lane_id"], ["lane_id", "behavior_case_id"], ["lane_id", "case_id"],
   ["lane_id", "behavior_case_id", "obligation_id"], ["judge_id"], ["lane_id", "bundle_id"], ["evidence_source_id"],
   ["artifact_type"], ["artifact_type"], ["lane_id", "gate_id"], ["template_id"], ["template_id"], ["template_id"],
   ["path_id", "obligation_id", "case_id", "judge_id", "bundle_id", "gate_id"],
   ["lane_id", "behavior_case_id", "obligation_id"], ["obligation_id", "judge_id"], ["lane_id", "bundle_id"],
   ["lane_id", "obligation_id", "gate_id"], ["bundle_id", "evidence_source_id"], ["lane_id", "artifact_type"],
   ["lane_id", "artifact_type"], ["path_id", "case_id"], ["path_id", "gate_id"], ["path_id", "evidence_source_id"],
   ["path_id", "template_id"], ["gate_id", "template_id"], ["gate_id", "template_id"]]

/-- The bytes of a line of these columns, without its values. -/
def cost (keys : List String) : Nat := (keys.map fun k => escapedLength (lit k) + 5).sum + keys.length + 2

theorem columns_regular : ∀ keys ∈ columns, keys ≠ [] ∧ (keys.map lit).Nodup ∧ ∀ k ∈ keys, hasSurrogate (lit k) = false := by
  decide +kernel

theorem columns_cost : columns.map cost = [15, 37, 28, 56, 16, 30, 26, 21, 21, 28, 19, 19, 19, 89, 56, 35, 30, 47, 41, 34,
    34, 28, 28, 39, 32, 32, 32] := by
  decide +kernel

section
variable (v : PhaseBResult) (d : DerivedRelations)

def tables : List (String × List Record) := entityStreams v d ++ relationStreams v d

theorem keys_pairRecords (first second : String) (records : List (Str × Str)) :
    ∀ r ∈ pairRecords first second records, r.map Prod.fst = [first, second] := by
  intro r hr
  obtain ⟨x, -, rfl⟩ := List.mem_map.mp hr
  rfl

theorem keys_idRecords (name : String) (ids : List Str) : ∀ r ∈ idRecords name ids, r.map Prod.fst = [name] := by
  intro r hr
  obtain ⟨x, -, rfl⟩ := List.mem_map.mp hr
  rfl

theorem keys_templateRecords (templates : List (Str × Str)) :
    ∀ r ∈ templateRecords templates, r.map Prod.fst = ["template_id"] := by
  intro r hr
  obtain ⟨x, -, rfl⟩ := List.mem_map.mp hr
  rfl

theorem keys_obligationRecords :
    ∀ r ∈ obligationRecords v, r.map Prod.fst = ["lane_id", "behavior_case_id", "obligation_id"] := by
  intro r hr
  obtain ⟨x, -, rfl⟩ := List.mem_map.mp hr
  rfl

theorem tables_columns : List.Forall₂ (fun keys (table : String × List Record) => ∀ r ∈ table.2, r.map Prod.fst = keys)
    columns (tables v d) := by
  unfold tables entityStreams relationStreams columns
  simp only [List.cons_append, List.nil_append, List.forall₂_cons, List.forall₂_nil_left_iff]
  refine ⟨by simp, ?_, ?_, keys_obligationRecords v, keys_idRecords _ _, keys_pairRecords _ _ _, keys_idRecords _ _,
    keys_idRecords _ _, keys_idRecords _ _, keys_pairRecords _ _ _, keys_templateRecords _, keys_templateRecords _,
    keys_templateRecords _, by simp, keys_obligationRecords v, keys_pairRecords _ _ _, keys_pairRecords _ _ _, by simp,
    keys_pairRecords _ _ _, keys_pairRecords _ _ _, keys_pairRecords _ _ _, keys_pairRecords _ _ _,
    keys_pairRecords _ _ _, keys_pairRecords _ _ _, keys_pairRecords _ _ _, keys_pairRecords _ _ _,
    keys_pairRecords _ _ _, trivial⟩
  · intro r hr
    obtain ⟨lane, -, hr⟩ := List.mem_flatMap.mp hr
    obtain ⟨c, -, rfl⟩ := List.mem_map.mp hr
    rfl
  · intro r hr
    obtain ⟨lane, -, hr⟩ := List.mem_flatMap.mp hr
    obtain ⟨c, -, rfl⟩ := List.mem_map.mp hr
    rfl

@[simp] theorem length_sortedBy {α : Type} (key : α → List Str) (xs : List α) : (sortedBy key xs).length = xs.length :=
  (sortedBy_perm key xs).length_eq

/-- One record for each item of each lane, in whatever order. -/
theorem length_laneRecords (items : Lane → List Str) (build : Lane → Str → Record) :
    ((sortedLanes v).flatMap fun lane => (sortedBy (fun c => [c]) (items lane)).map (build lane)).length =
      (v.lanes.map fun lane => (items lane).length).sum := by
  rw [List.length_flatMap]
  simp only [List.length_map, length_sortedBy]
  exact ((sortedBy_perm _ v.lanes).map _).sum_eq

theorem tables_lengths : (tables v d).map (·.2.length) =
    [v.lanes.length, (v.lanes.map (·.cases.length)).sum, (laneCaseCounts v.toTables).sum, v.obligations.length,
     v.judges.length, v.bundles.length, v.evidenceSources.length, (distinct (v.laneContexts.map (·.2))).length,
     (distinct (v.laneOutputs.map (·.2))).length, v.gates.length, v.judgeTemplates.length, v.aggregateTemplates.length,
     v.plumbingTemplates.length, d.enforcementPaths.length, v.obligations.length, v.obligationJudges.length,
     v.bundles.length, v.pairs.length, v.bundleEvidence.length, v.laneContexts.length, v.laneOutputs.length,
     d.pathCase.length, d.pathGate.length, d.pathEvidence.length, d.pathJudgeNegative.length,
     d.gateAggregateNegative.length, d.gatePlumbingNegative.length] := by
  unfold tables entityStreams relationStreams
  simp only [List.cons_append, List.nil_append, List.map_cons, List.map_nil,
    length_laneRecords v Lane.cases, length_laneRecords v Lane.caseIds]
  simp only [pairRecords, idRecords, templateRecords, obligationRecords, sortedLanes, sortedObligations, sortedPairs,
    sortedPaths, List.length_map, length_sortedBy]
  rfl

theorem overhead_eq (r : Record) : overhead r = cost (r.map Prod.fst) := by
  unfold overhead cost
  rw [List.map_map, List.length_map]
  rfl

theorem sum_overhead (cols : List (List String)) (ts : List (String × List Record))
    (h : List.Forall₂ (fun keys (table : String × List Record) => ∀ r ∈ table.2, r.map Prod.fst = keys) cols ts) :
    ((ts.flatMap (·.2)).map overhead).sum = (List.zipWith (· * ·) (ts.map (·.2.length)) (cols.map cost)).sum := by
  induction h with
  | nil => rfl
  | @cons keys table cols ts hk _ ih =>
    rw [List.flatMap_cons, List.map_append, List.sum_append, ih, List.map_cons, List.map_cons, List.zipWith_cons_cons,
      List.sum_cons]
    congr 1
    have hcost : table.2.map overhead = table.2.map fun _ => cost keys :=
      List.map_congr_left fun r hr => by rw [overhead_eq, hk r hr]
    rw [hcost]
    simp

end

/-! ## What the streams add up to -/

section
variable (v : PhaseBResult) (d : DerivedRelations)

def allRecords : List Record := (tables v d).flatMap (·.2)

/-- Every value of every stream. -/
def allValues : List Str := (allRecords v d).flatMap values

theorem allRecords_columns (r : Record) (hr : r ∈ allRecords v d) : r.map Prod.fst ∈ columns := by
  obtain ⟨table, ht, hr⟩ := List.mem_flatMap.mp hr
  obtain ⟨i, hi, rfl⟩ := List.getElem_of_mem ht
  have hcol := tables_columns v d
  have hi' : i < columns.length := hcol.length_eq ▸ hi
  rw [(List.forall₂_iff_get.mp hcol).2 i hi' hi r hr]
  exact List.getElem_mem _

theorem allRecords_ne_nil (r : Record) (hr : r ∈ allRecords v d) : r ≠ [] := by
  have := (columns_regular _ (allRecords_columns v d r hr)).1
  simpa using this

theorem encodeRecord_plainValues (hplain : ∀ t ∈ allValues v d, isPlainText t = true) (r : Record)
    (hr : r ∈ allRecords v d) : ∃ b n, encodeRecord r = .ok (b, n) := by
  obtain ⟨-, hnodup, hsur⟩ := columns_regular _ (allRecords_columns v d r hr)
  apply encodeRecord_plain
  · simpa [List.map_map, Function.comp_def] using hnodup
  · intro f hf
    exact hsur _ (List.mem_map_of_mem hf)
  · intro t ht
    exact hplain t (List.mem_flatMap.mpr ⟨r, hr, ht⟩)

/-- The two sums over the lines that some records encode to. -/
theorem sum_lines (records : List Record) (hne : ∀ r ∈ records, r ≠ []) (lines : List (Bytes × Nat))
    (h : records.mapM encodeRecord = .ok lines) :
    (lines.map (·.1.length)).sum =
      (records.map overhead).sum + ((records.flatMap values).map escapedLength).sum ∧
    (lines.map (·.2)).sum = ((records.flatMap values).map utf8Bytes).sum := by
  induction records generalizing lines with
  | nil =>
    cases h
    simp
  | cons r records ih =>
    rw [List.mapM_cons, bind_ok_iff] at h
    obtain ⟨⟨b, n⟩, hr, h⟩ := h
    obtain ⟨rest, hrest, h⟩ := bind_ok_iff.mp h
    cases h
    obtain ⟨hb, hn⟩ := encodeRecord_inv r (hne r (by simp)) b n hr
    obtain ⟨h1, h2⟩ := ih (fun q hq => hne q (by simp [hq])) rest hrest
    simp only [List.map_cons, List.sum_cons, List.flatMap_cons, List.map_append, List.sum_append, h1, h2, hb, hn]
    exact ⟨by omega, trivial⟩

section
variable (sha256 : Bytes → Str) {σ : Type} (hook : String → Nat → Method σ Unit)

theorem stream_inv (table : String × List Record) (x : Str × Nat × Nat) (s s' : σ)
    (hne : ∀ r ∈ table.2, r ≠ []) (h : Method.call (stream sha256 hook table) s = (.ok x, s')) :
    x.2.1 = (table.2.map overhead).sum + ((table.2.flatMap values).map escapedLength).sum ∧
      x.2.2 = ((table.2.flatMap values).map utf8Bytes).sum := by
  unfold stream at h
  obtain ⟨-, t, -, h⟩ := Method.bind_inv h
  obtain ⟨lines, t', hl, h⟩ := Method.bind_inv h
  cases h
  exact sum_lines table.2 hne lines (Method.lift_inv hl).1

theorem streams_inv (ts : List (String × List Record)) (xs : List (Str × Nat × Nat)) (s s' : σ)
    (hne : ∀ table ∈ ts, ∀ r ∈ table.2, r ≠ []) (h : Method.call (ts.mapM (stream sha256 hook)) s = (.ok xs, s')) :
    (xs.map (·.2.1)).sum =
      ((ts.flatMap (·.2)).map overhead).sum + (((ts.flatMap (·.2)).flatMap values).map escapedLength).sum ∧
    (xs.map (·.2.2)).sum = (((ts.flatMap (·.2)).flatMap values).map utf8Bytes).sum := by
  have hall := Method.mapM_inv h
  clear h
  induction hall with
  | nil => simp
  | @cons table x ts xs hx _ ih =>
    obtain ⟨t, t', hx⟩ := hx
    obtain ⟨hb, hn⟩ := stream_inv sha256 hook table x t t' (hne table (by simp)) hx
    obtain ⟨h1, h2⟩ := ih fun u hu => hne u (by simp [hu])
    simp only [List.map_cons, List.sum_cons, List.flatMap_cons, List.map_append, List.sum_append, List.flatMap_append,
      h1, h2, hb, hn]
    exact ⟨by omega, trivial⟩

end

end

/-! ## The frozen counts -/

/-- The records of the sets that the plan counts. -/
def setCounts (v : PhaseBResult) (d : DerivedRelations) : List (String × Nat) :=
  let sizes := (tables v d).map (·.2.length)
  let relations := (sizes.drop 14).sum
  [("lane_count", v.lanes.length), ("behavior_case_count", (v.lanes.map (·.cases.length)).sum),
   ("case_plan_count", (laneCaseCounts v.toTables).sum), ("obligation_count", v.obligations.length),
   ("judge_count", v.judges.length), ("evidence_bundle_count", v.bundles.length),
   ("evidence_source_count", v.evidenceSources.length),
   ("lane_context_contract_count", (distinct (v.laneContexts.map (·.2))).length),
   ("post_gate_output_contract_count", (distinct (v.laneOutputs.map (·.2))).length), ("gate_count", v.gates.length),
   ("judge_negative_template_count", v.judgeTemplates.length),
   ("aggregate_negative_template_count", v.aggregateTemplates.length),
   ("plumbing_negative_template_count", v.plumbingTemplates.length), ("obligation_gate_pair_count", v.pairs.length),
   ("enforcement_path_count", d.enforcementPaths.length), ("bundle_evidence_record_count", v.bundleEvidence.length),
   ("path_case_record_count", d.pathCase.length), ("path_gate_record_count", d.pathGate.length),
   ("path_evidence_record_count", d.pathEvidence.length),
   ("path_judge_negative_record_count", d.pathJudgeNegative.length),
   ("gate_aggregate_negative_record_count", d.gateAggregateNegative.length),
   ("gate_plumbing_negative_record_count", d.gatePlumbingNegative.length),
   ("lane_context_record_count", v.laneContexts.length), ("lane_output_record_count", v.laneOutputs.length),
   ("artifact_membership_total", v.bundleEvidence.length + v.laneContexts.length + v.laneOutputs.length),
   ("entity_record_count", (sizes.take 14).sum), ("relation_only_record_count", relations),
   ("relation_total_record_count", relations + d.enforcementPaths.length),
   ("endpoint_total_reference_count", 2 * relations + 5 * d.enforcementPaths.length)]

/-- The constants describe the input: of the canonical streams, and of every set that the plan counts. -/
structure CountsDescribe (v : PhaseBResult) (d : DerivedRelations) : Prop where
  bytes : ∀ (sha256 : Bytes → Str) (σ : Type) (hook : String → Nat → Method σ Unit),
    (∀ label charge, (hook label charge).Returns ()) → ∀ start, ∃ streams last,
      Method.call (digestRelations sha256 hook v d) start = (.ok streams, last) ∧
      streams.byteCount = 35158 + 177 * v.h + 47 * v.m + 39 * v.rHe + streams.valueByteCount
  counts : ∀ entry ∈ setCounts v d, ∀ source high, (planCounts v source high).lookup entry.1 = some entry.2

/-- What no stage compares with a constant. -/
structure FrozenSets (v : PhaseBResult) : Prop where
  cases : (v.lanes.map (·.cases.length)).sum = 46
  sources : v.evidenceSources.length = 41
  memberships : v.bundleEvidence.length = 52
  contextTypes : (distinct (v.laneContexts.map (·.2))).length = 2
  outputTypes : (distinct (v.laneOutputs.map (·.2))).length = 2
  plainCases : ∀ lane ∈ v.lanes, ∀ c ∈ lane.cases, isPlainText c = true

/-- What the stages do pin. -/
structure PinnedSets (v : PhaseBResult) : Prop where
  lanes : v.lanes.length = 12
  casePlans : (laneCaseCounts v.toTables).sum = 425
  obligations : v.obligations.length = 46
  judges : v.judges.length = 46
  obligationJudges : v.obligationJudges.length = 46
  bundles : v.bundles.length = 12
  gates : v.gates.length = 58
  judgeTemplates : v.judgeTemplates.length = 46
  aggregateTemplates : v.aggregateTemplates.length = 58
  plumbingTemplates : v.plumbingTemplates.length = 58
  contexts : v.laneContexts.length = 21
  outputs : v.laneOutputs.length = 22
  pairs : v.pairs.length = v.m

/-- The sizes of what Phase C derived. -/
structure DerivedSizes (v : PhaseBResult) (d : DerivedRelations) : Prop where
  paths : d.enforcementPaths.length = v.h
  pathCase : d.pathCase.length = v.h
  pathGate : d.pathGate.length = v.h
  pathJudgeNegative : d.pathJudgeNegative.length = v.h
  pathEvidence : d.pathEvidence.length = v.rHe
  gateAggregateNegative : d.gateAggregateNegative.length = v.gates.length
  gatePlumbingNegative : d.gatePlumbingNegative.length = v.gates.length

theorem Passed.pinned {limits : CompileLimits} {v : PhaseBResult} (h : Passed limits v.toTables v) : PinnedSets v := by
  obtain ⟨hoj, hj, ho, -, -⟩ := h.shape
  obtain ⟨-, hcases, -, -, hcontexts, houtputs⟩ := h.frozen_counts
  obtain ⟨⟨hjt, hat, hpt⟩, -, -⟩ := (issue40_none v.toTables).mp h.issue40
  have hlanes : v.lanes.length = 12 := by
    have := congrArg List.length h.reconciled.lanes
    simpa [laneIds, laneOrder] using this
  refine ⟨hlanes, ?_, ho, hj, hoj, ?_, h.gates_length, hjt, hat, hpt, ?_, ?_, ?_⟩
  · rw [hcases]
    decide
  · rw [← h.sum_lanes Prod.fst v.bundles h.known.bundle, List.map_congr_left fun lane hl => h.lane_bundle lane hl]
    simpa using hlanes
  · rw [← h.sum_lanes Prod.fst v.laneContexts h.known.context]
    exact (congrArg List.sum hcontexts).trans (by decide)
  · rw [← h.sum_lanes Prod.fst v.laneOutputs h.known.output]
    exact (congrArg List.sum houtputs).trans (by decide)
  · exact h.coherent.m.symm

/-! ## What a completed derivation says -/

theorem Script.mapM_each {α β : Type} (f : α → Script β) (xs : List α) (bs : List β) (h : (xs.mapM f).result = .ok bs) :
    ∀ x ∈ xs, ∃ b, (f x).result = .ok b := by
  induction xs generalizing bs with
  | nil => simp
  | cons x xs ih =>
    rw [List.mapM_cons] at h
    obtain ⟨b, hb, h, -⟩ := bind_ok h
    obtain ⟨rest, hrest, -, -⟩ := bind_ok h
    exact List.forall_mem_cons.mpr ⟨⟨b, hb⟩, ih rest hrest⟩

/-- A path that was derived has identifiers for its fields. -/
theorem retaining_identifiers (v : PhaseBResult) (d : DerivedRelations) (h : (retaining v).result = .ok d)
    (lane : Lane) (hl : lane ∈ v.lanes) (p : Pair) (hp : p ∈ v.pairs) (hid : p.laneId = lane.laneId) (c : Str)
    (hc : c ∈ lane.caseIds) : isIdentifier c = true := by
  unfold retaining at h
  obtain ⟨gates, -, h, -⟩ := Script.bind_ok h
  obtain ⟨groups, hg, -, -⟩ := Script.bind_ok h
  obtain ⟨records, hlane⟩ := Script.mapM_each _ _ _ hg lane hl
  unfold retainLane at hlane
  obtain ⟨bundle, -, hlane, -⟩ := Script.bind_ok hlane
  obtain ⟨groups, hpairs, -, -⟩ := Script.bind_ok hlane
  have hmem : p ∈ sortedBy (fun p => [p.laneId, p.obligationId, p.gateId]) (v.pairs.filter fun p => p.laneId = lane.laneId) :=
    (mem_sortedBy _ _ _).mpr (List.mem_filter.mpr ⟨hp, by simpa using hid⟩)
  obtain ⟨records, hpair⟩ := Script.mapM_each _ _ _ hpairs p hmem
  unfold retainPair at hpair
  obtain ⟨judge, -, hpair, -⟩ := Script.bind_ok hpair
  obtain ⟨record, hpath⟩ := Script.mapM_each _ _ _ hpair c ((mem_sortedBy _ _ _).mpr hc)
  unfold retainPath at hpath
  obtain ⟨pathId, hencode, -, -⟩ := Script.bind_ok hpath
  have he := (Script.lift_ok hencode).1
  unfold encodeEnforcementPath at he
  dsimp only at he
  split at he
  · cases he
  · rename_i hany
    simp only [List.any_cons, List.any_nil, Bool.or_false, Bool.not_eq_true, Bool.or_eq_false_iff,
      Bool.not_eq_false'] at hany
    exact hany.2.1

/-- Every lane has a pair, so every case id was encoded. -/
theorem Passed.caseIds_of_retaining {limits : CompileLimits} {v : PhaseBResult} (h : Passed limits v.toTables v)
    (d : DerivedRelations) (hd : (retaining v).result = .ok d) :
    ∀ lane ∈ v.lanes, ∀ c ∈ lane.caseIds, isIdentifier c = true := by
  intro lane hl c hc
  have hcounts := h.frozen_counts.2.2.1
  have hpos : 0 < v.gates.countP fun g => g.1 = lane.laneId := by
    have hall : ∀ n ∈ frozenGateCounts, 0 < n := by decide
    apply hall
    rw [← hcounts]
    exact List.mem_map.mpr ⟨lane, hl, rfl⟩
  obtain ⟨⟨laneId, gateId⟩, hg, hlane⟩ := List.countP_pos_iff.mp hpos
  simp only [decide_eq_true_eq] at hlane
  subst hlane
  have hgid : gateId ∈ gateIds v.toTables := List.mem_map.mpr ⟨_, hg, rfl⟩
  obtain ⟨p, hp, rfl⟩ := h.gate_paired gateId hgid
  have hpl : p.laneId = lane.laneId := (h.gate_record _ hgid).unique (h.coherent.pairGate p hp) hg
  exact retaining_identifiers v d hd lane hl p hp hpl c hc

theorem retaining_of_returns (v : PhaseBResult) (d : DerivedRelations)
    (h : (deriveRelations (σ := Unit) (fun _ _ => pure ()) v).Returns d) : (retaining v).result = .ok d := by
  rw [deriveRelations_eq] at h
  obtain ⟨s', hs⟩ := h ()
  rcases hr : (retaining v).result with ⟨calls, e⟩ | d'
  · rw [Script.perform_of_error _ hr, ← bind_assoc] at hs
    exact absurd hs (Method.call_then_throw _ _ _ _ _)
  · rw [Script.perform_of_ok _ hr] at hs
    obtain ⟨-, t, -, hs⟩ := Method.bind_inv hs
    cases hs
    rfl

theorem retaining_derived (v : PhaseBResult) (hv : Derivable v) : (retaining v).result = .ok (derived v) :=
  retaining_of_returns v _ (deriveRelations_returns (fun _ _ => Method.returns_pure _) hv)

theorem derivedSizes (v : PhaseBResult) (hv : Derivable v) : DerivedSizes v (derived v) := by
  have hh := hv.h
  refine ⟨?_, ?_, ?_, ?_, hv.rHe, ?_, ?_⟩
  · simpa [derived] using hh
  · simpa [derived] using hh
  · simpa [derived] using hh
  · simpa [derived] using hh
  · simp [derived, sortedGates]
  · simp [derived, sortedGates]

/-! ## Which values need an escape -/

def PlainValues (records : List Record) : Prop := ∀ r ∈ records, ∀ t ∈ values r, isPlainText t = true

theorem plain_pairRecords (first second : String) (records : List (Str × Str))
    (h : ∀ p ∈ records, isPlainText p.1 = true ∧ isPlainText p.2 = true) : PlainValues (pairRecords first second records) := by
  intro r hr
  obtain ⟨p, hp, rfl⟩ := List.mem_map.mp hr
  simpa [values] using h p ((mem_sortedBy _ _ _).mp hp)

theorem plain_idRecords (name : String) (ids : List Str) (h : ∀ x ∈ ids, isPlainText x = true) :
    PlainValues (idRecords name ids) := by
  intro r hr
  obtain ⟨x, hx, rfl⟩ := List.mem_map.mp hr
  simpa [values] using h x ((mem_sortedBy _ _ _).mp hx)

theorem plain_templateRecords (templates : List (Str × Str)) (h : ∀ p ∈ templates, isPlainText p.2 = true) :
    PlainValues (templateRecords templates) := by
  intro r hr
  obtain ⟨p, hp, rfl⟩ := List.mem_map.mp hr
  simpa [values] using h p ((mem_sortedBy _ _ _).mp hp)

theorem plain_laneRecords (v : PhaseBResult) (name : String) (items : Lane → List Str)
    (hlane : ∀ lane ∈ v.lanes, isPlainText lane.laneId = true) (h : ∀ lane ∈ v.lanes, ∀ c ∈ items lane, isPlainText c = true) :
    PlainValues ((sortedLanes v).flatMap fun lane =>
      (sortedBy (fun c => [c]) (items lane)).map fun c => [("lane_id", lane.laneId), (name, c)]) := by
  intro r hr
  obtain ⟨lane, hl, hr⟩ := List.mem_flatMap.mp hr
  obtain ⟨c, hc, rfl⟩ := List.mem_map.mp hr
  have hl := (mem_sortedBy _ _ _).mp hl
  simpa [values] using ⟨hlane lane hl, h lane hl c ((mem_sortedBy _ _ _).mp hc)⟩

theorem plain_of_identifiers {records : List (Str × Str)}
    (h : ∀ p ∈ records, isIdentifier p.1 = true ∧ isIdentifier p.2 = true) :
    ∀ p ∈ records, isPlainText p.1 = true ∧ isPlainText p.2 = true :=
  fun p hp => ⟨isPlainText_identifier _ (h p hp).1, isPlainText_identifier _ (h p hp).2⟩

theorem isPlainText_path (o c j b g : Str) (h : Fields o c j b g) : isPlainText (joinTilde [o, c, j, b, g]) = true := by
  have htilde : isPlainChar (cp 126) = true := by decide
  have ho := isPlainText_identifier o h.obligation
  have hc := isPlainText_identifier c h.case
  have hj := isPlainText_identifier j h.judge
  have hb := isPlainText_identifier b h.bundle
  have hg := isPlainText_identifier g h.gate
  unfold isPlainText at *
  simp [joinTilde, List.intercalate, List.intersperse, htilde, ho, hc, hj, hb, hg]

section
variable {limits : CompileLimits} {v : PhaseBResult} (h : Passed limits v.toTables v) (hids : TypedIds v.toTables)
include h

theorem Passed.lane_plain (laneId : Str) (hl : laneId ∈ laneIds v.toTables) : isPlainText laneId = true := by
  rw [h.reconciled.lanes] at hl
  have hall : ∀ l ∈ laneOrder, isPlainText l = true := by decide +kernel
  exact hall laneId hl

include hids

theorem Passed.obligation_identifier (x : Obligation) (hx : x ∈ v.obligations) : isIdentifier x.obligationId = true := by
  obtain ⟨j, hj, -⟩ := h.coherent.judges.first x.obligationId (List.mem_map_of_mem hx)
  exact (hids.obligationJudges _ hj).1

theorem Passed.pair_plain (p : Pair) (hp : p ∈ v.pairs) :
    isPlainText p.laneId = true ∧ isPlainText p.obligationId = true ∧ isPlainText p.gateId = true := by
  obtain ⟨hl, ho, hg⟩ := h.known.pair p hp
  obtain ⟨x, hx, he⟩ := List.mem_map.mp ho
  obtain ⟨gate, hgate, he'⟩ := List.mem_map.mp hg
  refine ⟨h.lane_plain _ hl, ?_, ?_⟩
  · rw [← he]
    exact isPlainText_identifier _ (h.obligation_identifier hids x hx)
  · rw [← he']
    exact isPlainText_identifier _ (hids.gates gate hgate).2

theorem Passed.obligations_plain (hplain : ∀ lane ∈ v.lanes, ∀ c ∈ lane.cases, isPlainText c = true) :
    PlainValues (obligationRecords v) := by
  intro r hr
  obtain ⟨x, hx, rfl⟩ := List.mem_map.mp hr
  have hx := (mem_sortedBy _ _ _).mp hx
  have hall := List.mem_of_mem_filter hx
  obtain ⟨lane, hl, -, hc⟩ := h.case_known x hall
  simpa [values] using ⟨h.lane_plain _ (h.known.case x hall).1, hplain lane hl _ hc,
    isPlainText_identifier _ (h.obligation_identifier hids x hx)⟩

theorem Passed.pairs_plain : PlainValues ((sortedPairs v).map fun p =>
    [("lane_id", p.laneId), ("obligation_id", p.obligationId), ("gate_id", p.gateId)]) := by
  intro r hr
  obtain ⟨p, hp, rfl⟩ := List.mem_map.mp hr
  simpa [values] using h.pair_plain hids p ((mem_sortedBy _ _ _).mp hp)

end

theorem isPlainText_pathId (id : Str) (h : IsPathId id) : isPlainText id = true := by
  obtain ⟨o, c, j, b, g, hf, rfl⟩ := h
  exact isPlainText_path o c j b g hf

theorem plain_of_pathIds {records : List (Str × Str)} (h : ∀ r ∈ records, IsPathId r.1 ∧ isIdentifier r.2 = true) :
    ∀ r ∈ records, isPlainText r.1 = true ∧ isPlainText r.2 = true :=
  fun r hr => ⟨isPlainText_pathId _ (h r hr).1, isPlainText_identifier _ (h r hr).2⟩

theorem plain_sortedPaths (d : DerivedRelations) (hd : DerivedIds d) : PlainValues ((sortedPaths d).map fun p =>
    [("path_id", p.pathId), ("obligation_id", p.obligationId), ("case_id", p.caseId), ("judge_id", p.judgeId),
      ("bundle_id", p.bundleId), ("gate_id", p.gateId)]) := by
  intro r hr
  obtain ⟨p, hp, rfl⟩ := List.mem_map.mp hr
  obtain ⟨hf, hid⟩ := hd.path p ((mem_sortedBy _ _ _).mp hp)
  have hplain : isPlainText p.pathId = true := hid ▸ isPlainText_path _ _ _ _ _ hf
  simpa [values, hplain] using ⟨isPlainText_identifier _ hf.obligation, isPlainText_identifier _ hf.case,
    isPlainText_identifier _ hf.judge, isPlainText_identifier _ hf.bundle, isPlainText_identifier _ hf.gate⟩

theorem plain_distinct {records : List (Str × Str)} (h : ∀ p ∈ records, isIdentifier p.1 = true ∧ isIdentifier p.2 = true) :
    ∀ a ∈ distinct (records.map (·.2)), isPlainText a = true := by
  intro a ha
  unfold distinct at ha
  obtain ⟨p, hp, rfl⟩ := List.mem_map.mp (List.mem_eraseDups.mp ha)
  exact isPlainText_identifier _ (h p hp).2

/-- Only the ids of behaviour cases can need an escape. -/
theorem Passed.plain_values {limits : CompileLimits} {v : PhaseBResult} (h : Passed limits v.toTables v)
    (hids : TypedIds v.toTables) (d : DerivedRelations) (hd : DerivedIds d)
    (hcases : ∀ lane ∈ v.lanes, ∀ c ∈ lane.caseIds, isIdentifier c = true)
    (hplain : ∀ lane ∈ v.lanes, ∀ c ∈ lane.cases, isPlainText c = true) :
    ∀ table ∈ tables v d, PlainValues table.2 := by
  have hlane : ∀ lane ∈ v.lanes, isPlainText lane.laneId = true := fun lane hl =>
    h.lane_plain _ (List.mem_map_of_mem hl)
  have hobligations := h.obligations_plain hids hplain
  have hcontexts := plain_of_identifiers hids.laneContexts
  have houtputs := plain_of_identifiers hids.laneOutputs
  have hbundles := plain_pairRecords "lane_id" "bundle_id" _ (plain_of_identifiers hids.bundles)
  unfold tables entityStreams relationStreams
  simp only [List.cons_append, List.nil_append, List.forall_mem_cons, List.not_mem_nil, false_implies, implies_true,
    and_true]
  refine ⟨?_, plain_laneRecords v _ Lane.cases hlane hplain,
    plain_laneRecords v _ Lane.caseIds hlane fun lane hl c hc => isPlainText_identifier c (hcases lane hl c hc),
    hobligations, plain_idRecords _ _ fun j hj => isPlainText_identifier j (hids.judges j hj), hbundles,
    plain_idRecords _ _ fun s hs => isPlainText_identifier s (hids.evidenceSources s hs),
    plain_idRecords _ _ (plain_distinct hids.laneContexts), plain_idRecords _ _ (plain_distinct hids.laneOutputs),
    plain_pairRecords _ _ _ (plain_of_identifiers hids.gates),
    plain_templateRecords _ fun p hp => isPlainText_identifier _ (hids.judgeTemplates p hp).2,
    plain_templateRecords _ fun p hp => isPlainText_identifier _ (hids.aggregateTemplates p hp).2,
    plain_templateRecords _ fun p hp => isPlainText_identifier _ (hids.plumbingTemplates p hp).2,
    plain_sortedPaths d hd, hobligations, plain_pairRecords _ _ _ (plain_of_identifiers hids.obligationJudges), hbundles,
    h.pairs_plain hids, plain_pairRecords _ _ _ (plain_of_identifiers hids.bundleEvidence),
    plain_pairRecords _ _ _ hcontexts, plain_pairRecords _ _ _ houtputs,
    plain_pairRecords _ _ _ (plain_of_pathIds hd.pathCase), plain_pairRecords _ _ _ (plain_of_pathIds hd.pathGate),
    plain_pairRecords _ _ _ (plain_of_pathIds hd.pathEvidence),
    plain_pairRecords _ _ _ (plain_of_pathIds hd.pathJudgeNegative),
    plain_pairRecords _ _ _ (plain_of_identifiers hd.gateAggregateNegative),
    plain_pairRecords _ _ _ (plain_of_identifiers hd.gatePlumbingNegative)⟩
  intro r hr
  obtain ⟨lane, hl, rfl⟩ := List.mem_map.mp hr
  simpa [values] using hlane lane ((mem_sortedBy _ _ _).mp hl)

/-! ## The formula of the streams -/

section
variable (v : PhaseBResult) (d : DerivedRelations)

theorem tables_ne_nil : ∀ table ∈ tables v d, ∀ r ∈ table.2, r ≠ [] :=
  fun table ht r hr => allRecords_ne_nil v d r (List.mem_flatMap.mpr ⟨table, ht, hr⟩)

theorem allRecords_append : allRecords v d =
    (entityStreams v d).flatMap (·.2) ++ (relationStreams v d).flatMap (·.2) := by
  unfold allRecords tables
  rw [List.flatMap_append]

/-- What the lines hold besides their values, from the sizes of the sets. -/
theorem overhead_total (hp : PinnedSets v) (hs : DerivedSizes v d) : ((allRecords v d).map overhead).sum =
    30174 + 37 * (v.lanes.map (·.cases.length)).sum + 26 * v.evidenceSources.length +
      21 * (distinct (v.laneContexts.map (·.2))).length + 21 * (distinct (v.laneOutputs.map (·.2))).length +
      41 * v.bundleEvidence.length + 177 * v.h + 47 * v.m + 39 * v.rHe := by
  unfold allRecords
  rw [sum_overhead _ _ (tables_columns v d), tables_lengths, columns_cost]
  simp only [List.zipWith_cons_cons, List.zipWith_nil_left, List.sum_cons, List.sum_nil, hp.lanes, hp.casePlans,
    hp.obligations, hp.judges, hp.obligationJudges, hp.bundles, hp.gates, hp.judgeTemplates, hp.aggregateTemplates,
    hp.plumbingTemplates, hp.contexts, hp.outputs, hp.pairs, hs.paths, hs.pathCase, hs.pathGate, hs.pathJudgeNegative,
    hs.pathEvidence, hs.gateAggregateNegative, hs.gatePlumbingNegative]
  omega

section
variable (sha256 : Bytes → Str) {σ : Type} (hook : String → Nat → Method σ Unit)

theorem streams_totals (entities relations : List (Str × Nat × Nat)) (s t t' : σ)
    (he : Method.call ((entityStreams v d).mapM (stream sha256 hook)) s = (.ok entities, t))
    (hr : Method.call ((relationStreams v d).mapM (stream sha256 hook)) t = (.ok relations, t')) :
    ((entities ++ relations).map (·.2.1)).sum =
      ((allRecords v d).map overhead).sum + ((allValues v d).map escapedLength).sum ∧
    ((entities ++ relations).map (·.2.2)).sum = ((allValues v d).map utf8Bytes).sum := by
  have hne := tables_ne_nil v d
  unfold tables at hne
  rw [List.forall_mem_append] at hne
  obtain ⟨h1, h2⟩ := streams_inv sha256 hook _ _ _ _ hne.1 he
  obtain ⟨h3, h4⟩ := streams_inv sha256 hook _ _ _ _ hne.2 hr
  unfold allValues
  rw [allRecords_append]
  simp only [List.map_append, List.sum_append, List.flatMap_append, h1, h2, h3, h4]
  exact ⟨by omega, trivial⟩

/-- The streams that were hashed have the bytes of the formula. -/
theorem digestRelations_inv (streams : DigestStreams) (s s' : σ)
    (h : Method.call (digestRelations sha256 hook v d) s = (.ok streams, s')) :
    ((allRecords v d).map overhead).sum + ((allValues v d).map escapedLength).sum =
      35158 + 177 * v.h + 47 * v.m + 39 * v.rHe + ((allValues v d).map utf8Bytes).sum := by
  unfold digestRelations at h
  obtain ⟨entities, t, he, h⟩ := Method.bind_inv h
  obtain ⟨relations, t', hr, h⟩ := Method.bind_inv h
  obtain ⟨htotal, hvalues⟩ := streams_totals v d sha256 hook entities relations s t t' he hr
  dsimp only at h
  rw [htotal, hvalues] at h
  by_contra hne
  rw [if_pos hne] at h
  exact Method.call_then_throw (pure ()) _ _ _ _ h

theorem stream_returns (hgrant : ∀ label charge, (hook label charge).Returns ())
    (hplain : ∀ t ∈ allValues v d, isPlainText t = true) (table : String × List Record) (ht : table ∈ tables v d) :
    ∃ x, (stream sha256 hook table).Returns x := by
  obtain ⟨lines, hl⟩ := mapM_exists encodeRecord table.2 fun r hr => by
    obtain ⟨b, n, h⟩ := encodeRecord_plainValues v d hplain r (List.mem_flatMap.mpr ⟨table, ht, hr⟩)
    exact ⟨(b, n), h⟩
  unfold stream
  exact ⟨_, (hgrant _ _).bind ((Method.returns_lift hl).bind (Method.returns_pure _))⟩

theorem digestRelations_returns (hgrant : ∀ label charge, (hook label charge).Returns ())
    (hplain : ∀ t ∈ allValues v d, isPlainText t = true)
    (hformula : ((allRecords v d).map overhead).sum = 35158 + 177 * v.h + 47 * v.m + 39 * v.rHe) (start : σ) :
    ∃ streams last, Method.call (digestRelations sha256 hook v d) start = (.ok streams, last) ∧
      streams.byteCount = 35158 + 177 * v.h + 47 * v.m + 39 * v.rHe + streams.valueByteCount := by
  have hstreams := stream_returns v d sha256 hook hgrant hplain
  unfold tables at hstreams
  rw [List.forall_mem_append] at hstreams
  obtain ⟨entities, he⟩ := Method.returns_mapM_exists _ _ hstreams.1
  obtain ⟨relations, hr⟩ := Method.returns_mapM_exists _ _ hstreams.2
  obtain ⟨t, ht⟩ := he start
  obtain ⟨last, hlast⟩ := hr t
  have htotal : ((entities ++ relations).map (·.2.1)).sum =
      35158 + 177 * v.h + 47 * v.m + 39 * v.rHe + ((entities ++ relations).map (·.2.2)).sum := by
    obtain ⟨h1, h2⟩ := streams_totals v d sha256 hook entities relations _ _ _ ht hlast
    rw [h1, h2, hformula, (length_texts _).2.mpr hplain]
  unfold digestRelations
  rw [Method.call_bind_ok ht, Method.call_bind_ok hlast]
  dsimp only
  rw [if_neg (not_not.mpr htotal)]
  exact ⟨_, last, rfl, htotal⟩

end

end

/-! ## Which inputs the constants describe -/

theorem planned (v : PhaseBResult) (name : String) (k n : Nat)
    (h : ∀ source high, (planCounts v source high).lookup name = some k) (hk : n = k) :
    ∀ source high, (planCounts v source high).lookup name = some n := by
  intro source high
  rw [h, hk]

theorem lookup_setCounts (v : PhaseBResult) (d : DerivedRelations) (hp : PinnedSets v) (hs : DerivedSizes v d)
    (hf : FrozenSets v) : ∀ entry ∈ setCounts v d, ∀ source high,
    (planCounts v source high).lookup entry.1 = some entry.2 := by
  unfold setCounts
  rw [tables_lengths]
  simp only [List.forall_mem_cons, List.not_mem_nil, false_implies, implies_true, and_true, List.take_succ_cons,
    List.take_zero, List.drop_succ_cons, List.drop_zero, List.sum_cons, List.sum_nil, hp.lanes, hp.casePlans,
    hp.obligations, hp.judges, hp.obligationJudges, hp.bundles, hp.gates, hp.judgeTemplates, hp.aggregateTemplates,
    hp.plumbingTemplates, hp.contexts, hp.outputs, hp.pairs, hs.paths, hs.pathCase, hs.pathGate, hs.pathJudgeNegative,
    hs.pathEvidence, hs.gateAggregateNegative, hs.gatePlumbingNegative, hf.cases, hf.sources, hf.memberships,
    hf.contextTypes, hf.outputTypes]
  refine ⟨?_, ?_, ?_, ?_, ?_, ?_, ?_, ?_, ?_, ?_, ?_, ?_, ?_, ?_, ?_, ?_, ?_, ?_, ?_, ?_, ?_, ?_, ?_, ?_, ?_, ?_, ?_, ?_, ?_⟩
  all_goals exact planned v _ _ _ (fun _ _ => rfl) (by omega)

theorem behaviorCase_mem_allValues (v : PhaseBResult) (d : DerivedRelations) (lane : Lane) (hl : lane ∈ v.lanes) (c : Str)
    (hc : c ∈ lane.cases) : c ∈ allValues v d := by
  have htable : ("behavior_case", (sortedLanes v).flatMap fun lane => (sortedBy (fun c => [c]) lane.cases).map fun case =>
      [("lane_id", lane.laneId), ("behavior_case_id", case)]) ∈ tables v d := by
    unfold tables entityStreams
    simp
  have hrecord : [("lane_id", lane.laneId), ("behavior_case_id", c)] ∈ allRecords v d :=
    List.mem_flatMap.mpr ⟨_, htable, List.mem_flatMap.mpr ⟨lane, (mem_sortedBy _ _ _).mpr hl,
      List.mem_map.mpr ⟨c, (mem_sortedBy _ _ _).mpr hc, rfl⟩⟩⟩
  exact List.mem_flatMap.mpr ⟨_, hrecord, by simp [values]⟩

/-- The constants describe a validated input exactly when it has the sets that they were computed for, and no behaviour
case needs an escape. -/
theorem counts_describe (catalog expectation : Json) (ledger : Value) (limits : CompileLimits) (v : PhaseBResult)
    (h : validateRelations catalog expectation ledger.record limits = .ok v) (d : DerivedRelations)
    (hd : (deriveRelations (σ := Unit) (fun _ _ => pure ()) v).Returns d) : CountsDescribe v d ↔ FrozenSets v := by
  have hpassed := validateRelations_ok catalog expectation ledger.record limits v h
  have hret := retaining_of_returns v d hd
  have hcases := hpassed.caseIds_of_retaining d hret
  obtain ⟨hderivable, hids, -⟩ := validateRelations_derivable catalog expectation ledger limits v h hcases
  have hderived : d = derived v := Except.ok.inj (hret.symm.trans (retaining_derived v hderivable))
  subst hderived
  have hpin := hpassed.pinned
  have hsizes := derivedSizes v hderivable
  have htotal := overhead_total v (derived v) hpin hsizes
  constructor
  · intro hc
    have hlookup := fun entry he => hc.counts entry he ⟨0, 0, 0, 0, 0⟩ 0
    have hcount : ∀ name n k, (name, n) ∈ setCounts v (derived v) →
        (planCounts v ⟨0, 0, 0, 0, 0⟩ 0).lookup name = some k → n = k := by
      intro name n k hmem hk
      have := hlookup _ hmem
      rw [hk] at this
      exact (Option.some.inj this).symm
    have h1 : (v.lanes.map (·.cases.length)).sum = 46 := hcount "behavior_case_count" _ _ (by simp [setCounts]) rfl
    have h2 : v.evidenceSources.length = 41 := hcount "evidence_source_count" _ _ (by simp [setCounts]) rfl
    have h3 : v.bundleEvidence.length = 52 := hcount "bundle_evidence_record_count" _ _ (by simp [setCounts]) rfl
    have h4 : (distinct (v.laneContexts.map (·.2))).length = 2 :=
      hcount "lane_context_contract_count" _ _ (by simp [setCounts]) rfl
    have h5 : (distinct (v.laneOutputs.map (·.2))).length = 2 :=
      hcount "post_gate_output_contract_count" _ _ (by simp [setCounts]) rfl
    refine ⟨h1, h2, h3, h4, h5, ?_⟩
    obtain ⟨streams, last, hcall, -⟩ := hc.bytes (fun _ => []) Unit (fun _ _ => pure ())
      (fun _ _ => Method.returns_pure _) ()
    have hformula := digestRelations_inv v (derived v) _ _ streams _ _ hcall
    rw [htotal, h1, h2, h3, h4, h5] at hformula
    have hplain := (length_texts (allValues v (derived v))).2.mp (by omega)
    intro lane hl c hc'
    exact hplain c (behaviorCase_mem_allValues v _ lane hl c hc')
  · intro hf
    have hplain : ∀ t ∈ allValues v (derived v), isPlainText t = true := by
      intro t ht
      obtain ⟨r, hr, ht⟩ := List.mem_flatMap.mp ht
      obtain ⟨table, htable, hr⟩ := List.mem_flatMap.mp hr
      exact hpassed.plain_values hids _ (derived_ids v hderivable hids) hcases hf.plainCases table htable r hr t ht
    refine ⟨?_, lookup_setCounts v _ hpin hsizes hf⟩
    intro sha256 σ hook hgrant start
    apply digestRelations_returns v _ sha256 hook hgrant hplain
    rw [htotal, hf.cases, hf.sources, hf.memberships, hf.contextTypes, hf.outputTypes]

theorem derive_sample : (deriveRelations (σ := Unit) (fun _ _ => pure ()) sampleResult).Returns (derived sampleResult) :=
  deriveRelations_returns (fun _ _ => Method.returns_pure _) derivable_sample

theorem counts_describe_sample_iff :
    validateRelations sampleCatalog sampleExpectation sampleLedger.record CompileLimits.frozen = .ok sampleResult ∧
    (CountsDescribe sampleResult (derived sampleResult) ↔ FrozenSets sampleResult) :=
  ⟨validateRelations_sample, counts_describe _ _ _ _ _ validateRelations_sample _ derive_sample⟩

/-- No identifier is declared twice and Phase B and C pass, yet 52 sources are counted as 41. -/
theorem counts_describe_sample :
    PhaseA.duplicateIds (.obj [(lit "source_files", .arr [])]) sampleExpectation sampleLedger.record
      (.obj [(lit "id", .str (lit "catalog"))]) (sampleObligations.map Obligation.document) = .ok [] ∧
    validateRelations sampleCatalog sampleExpectation sampleLedger.record CompileLimits.frozen = .ok sampleResult ∧
    (deriveRelations (σ := Unit) (fun _ _ => pure ()) sampleResult).Returns (derived sampleResult) ∧
    ¬ CountsDescribe sampleResult (derived sampleResult) := by
  refine ⟨by decide +kernel, validateRelations_sample, derive_sample, ?_⟩
  intro h
  have hlookup := h.counts ("evidence_source_count", sampleResult.evidenceSources.length) (by simp [setCounts])
    ⟨0, 0, 0, 0, 0⟩ 0
  have hplan : (planCounts sampleResult ⟨0, 0, 0, 0, 0⟩ 0).lookup "evidence_source_count" = some 41 := rfl
  rw [hplan] at hlookup
  have hlen : sampleResult.evidenceSources.length = 52 := by decide +kernel
  rw [hlen] at hlookup
  simp at hlookup

end TurnVector.Relations
