import TurnVector.Canonical
import TurnVector.Python.JsonRoundTrip

/-! # Canonical JSONL is read back as it was written -/

namespace TurnVector.Canonical

open Python Json

/-! ## Duplicate keys -/

theorem firstDuplicate_none {α : Type} (seen : List Str) (pairs : List (Str × α)) :
    firstDuplicate seen pairs = none ↔ (pairs.map Prod.fst).Nodup ∧ ∀ p ∈ pairs, p.1 ∉ seen := by
  induction pairs generalizing seen with
  | nil => simp [firstDuplicate]
  | cons p pairs ih =>
    obtain ⟨key, v⟩ := p
    rw [firstDuplicate]
    by_cases hk : key ∈ seen
    · simp [hk]
    · rw [if_neg (by simpa using hk), ih, List.map_cons, List.nodup_cons]
      constructor
      · rintro ⟨hn, hs⟩
        refine ⟨⟨?_, hn⟩, ?_⟩
        · intro hm
          obtain ⟨q, hq, hqk⟩ := List.mem_map.mp hm
          exact hs q hq (by rw [hqk]; simp)
        · intro q hq
          rw [List.mem_cons] at hq
          rcases hq with rfl | hq
          · exact hk
          · exact fun hm => hs q hq (List.mem_cons_of_mem _ hm)
      · rintro ⟨⟨hkn, hn⟩, hs⟩
        refine ⟨hn, ?_⟩
        intro q hq hm
        rw [List.mem_cons] at hm
        rcases hm with hm | hm
        · exact hkn (List.mem_map.mpr ⟨q, hq, hm⟩)
        · exact hs q (List.mem_cons_of_mem _ hq) hm

theorem hooks_keepsPairs : KeepsPairs hooks := by
  intro kvs hn
  have : firstDuplicate [] kvs = none := (firstDuplicate_none [] kvs).mpr ⟨hn, by simp⟩
  simp only [hooks, rejectDuplicateKeys, this, dictOf_eq kvs hn]

theorem hooks_distinct : hooks.Preserve Distinct where
  null := .null
  bool := .bool
  int := .int
  str := .str
  float t v h := by
    cases h
    exact .float t
  constant t v h := by cases h
  arr := .arr
  pairs kvs v hkvs h := by
    simp only [hooks, rejectDuplicateKeys] at h
    split at h
    · cases h
    · rename_i hnone
      cases h
      have hn := ((firstDuplicate_none [] kvs).mp hnone).1
      rw [dictOf_eq kvs hn]
      exact .obj kvs hn hkvs

/-! ## The walk -/

theorem walkKeys_ok (location : Str) (kvs : List (Str × Json)) :
    walkKeys location kvs = .ok () ↔ ∀ p ∈ kvs, hasSurrogate p.1 = false := by
  induction kvs with
  | nil => simp [walkKeys]
  | cons p kvs ih =>
    obtain ⟨key, v⟩ := p
    rw [walkKeys]
    cases hk : hasSurrogate key
    · simp [ih, hk]
    · simp [hk]

theorem walkItems_ok (location : Str) (index : Nat) (xs : List Json) :
    walkItems location index xs = .ok () ↔ ∀ (i : Nat) x, xs[i]? = some x → walk (itemAt location (index + i)) x = .ok () := by
  induction xs generalizing index with
  | nil => simp [walkItems]
  | cons x xs ih =>
    rw [walkItems, then_ok_iff, ih]
    constructor
    · rintro ⟨hxs, hx⟩ i y hy
      cases i with
      | zero =>
        cases hy
        exact hx
      | succ i =>
        rw [show index + (i + 1) = index + 1 + i by omega]
        exact hxs i y hy
    · intro h
      refine ⟨?_, h 0 x rfl⟩
      intro i y hy
      rw [show index + 1 + i = index + (i + 1) by omega]
      exact h (i + 1) y hy

theorem walkMembers_ok (location : Str) (kvs : List (Str × Json)) :
    walkMembers location kvs = .ok () ↔ ∀ p ∈ kvs, walk (location ++ lit "." ++ p.1) p.2 = .ok () := by
  induction kvs with
  | nil => simp [walkMembers]
  | cons p kvs ih =>
    obtain ⟨key, v⟩ := p
    rw [walkMembers, then_ok_iff, ih]
    simp [and_comm]

theorem walk_of_plain (v : Json) (hv : v.Plain) : ∀ location, walk location v = .ok () := by
  induction v with
  | str s =>
    cases hv with
    | str _ hs =>
      intro location
      rw [walk, if_neg (by simp [hs])]
  | float t => cases hv
  | arr xs ih =>
    cases hv with
    | arr _ hx =>
      intro location
      rw [walk, walkItems_ok]
      intro i x hi
      have hm := List.mem_of_getElem? hi
      exact ih x hm (hx x hm) _
  | obj kvs ih =>
    cases hv with
    | obj _ _ hk hx =>
      intro location
      rw [walk, then_ok_iff, walkKeys_ok, walkMembers_ok]
      exact ⟨hk, fun p hp => ih p hp (hx p hp) _⟩
  | _ => intro location; rfl

theorem plain_of_walk (v : Json) (hd : v.Distinct) : ∀ location, walk location v = .ok () → v.Plain := by
  induction v with
  | null => exact fun _ _ => .null
  | bool b => exact fun _ _ => .bool b
  | int n => exact fun _ _ => .int n
  | float t =>
    intro location h
    cases h
  | str s =>
    intro location h
    rw [walk] at h
    cases hs : hasSurrogate s
    · exact .str s hs
    · rw [if_pos hs] at h
      cases h
  | arr xs ih =>
    cases hd with
    | arr _ hx =>
      intro location h
      rw [walk, walkItems_ok] at h
      refine .arr xs ?_
      intro x hm
      obtain ⟨i, hi⟩ := List.mem_iff_getElem?.mp hm
      exact ih x hm (hx x hm) _ (h i x hi)
  | obj kvs ih =>
    cases hd with
    | obj _ hn hx =>
      intro location h
      rw [walk, then_ok_iff, walkKeys_ok, walkMembers_ok] at h
      exact .obj kvs hn h.1 fun p hp => ih p hp (hx p hp) _ (h.2 p hp)

/-! ## One line -/

/-- An object. -/
def IsObject : Json → Prop
  | .obj _ => True
  | _ => False

theorem isObject_iff (v : Json) : IsObject v ↔ ∃ kvs, v = .obj kvs := by
  cases v <;> simp [IsObject]

theorem isObject_sortKeys (v : Json) (hv : IsObject v) : IsObject v.sortKeys := by
  cases v with
  | obj kvs => trivial
  | _ => cases hv

/-- The bytes of a plain value: printable, and its text when read back. -/
theorem encode_plain (v : Json) (hv : v.Plain) :
    ∃ b, encodeAscii (dumps .compact 0 v) = some b ∧ decodeUtf8 b = some (dumps .compact 0 v) ∧ b ≠ [] ∧
      ∀ x ∈ b, 32 ≤ x.val ∧ x.val ≤ 126 := by
  have htext : ∀ c ∈ dumps .compact 0 v, 32 ≤ c.val ∧ c.val ≤ 126 := by
    intro c hc
    rcases dumps_textChar .compact v hv 0 c hc with h | ⟨h, -⟩
    · exact h
    · cases h
  have hascii : isAscii (dumps .compact 0 v) = true := by
    simp only [isAscii, List.all_eq_true, decide_eq_true_eq]
    intro c hc
    have := htext c hc
    omega
  have hsome : encodeAscii (dumps .compact 0 v) = some ((dumps .compact 0 v).map fun c => Fin.ofNat 256 c.val) :=
    if_pos hascii
  refine ⟨_, hsome, ?_, ?_, ?_⟩
  · obtain ⟨htext', hlt⟩ := encodeAscii_eq _ _ hsome
    rw [decodeUtf8_ascii _ hlt, htext']
  · obtain ⟨c, s, hcs, -⟩ := dumps_head .compact 0 v hv
    rw [hcs]
    simp
  · intro x hx
    obtain ⟨c, hc, rfl⟩ := List.mem_map.mp hx
    have := htext c hc
    simp only [Fin.val_ofNat]
    omega

theorem requireObject_ok (v : Json) (location : Str) : requireObject v location = .ok () ↔ IsObject v := by
  cases v <;> simp [requireObject, IsObject]

theorem canonicalJsonlLine_ok (v : Json) (ho : IsObject v) (hv : v.Plain) (b : Bytes)
    (hb : encodeAscii (dumps .compact 0 v) = some b) : canonicalJsonlLine v = .ok (b ++ [lf]) := by
  rw [canonicalJsonlLine, (requireObject_ok v _).mpr ho, validateSerializableObject, walk_of_plain v hv, hb]
  rfl

theorem parseLine_encode (v : Json) (ho : IsObject v) (hv : v.Plain) (b : Bytes)
    (hb : encodeAscii (dumps .compact 0 v) = some b) (what : Str) (index : Nat) :
    parseCanonicalJsonLine b what index = .ok v.sortKeys := by
  obtain ⟨b', hb', hdecode, -, hprint⟩ := encode_plain v hv
  rw [hb] at hb'
  cases hb'
  have hbom : (dumps .compact 0 v).head? ≠ some (cp 0xFEFF) := by
    intro h
    have hmem := List.mem_of_mem_head? h
    rcases dumps_textChar .compact v hv 0 _ hmem with h | ⟨h, -⟩
    · rw [cp_val _ (by omega)] at h
      omega
    · cases h
  obtain ⟨kvs, hkvs⟩ := (isObject_iff _).mp (isObject_sortKeys v ho)
  have hwalk := walk_of_plain _ (plain_sortKeys v hv) (lineName what index)
  have htext : encodeAscii (dumps .compact 0 v.sortKeys) = some b := by rw [dumps_sortKeys, hb]
  simp only [parseCanonicalJsonLine, hdecode, loads_dumps hooks hooks_keepsPairs .compact v hv hbom]
  rw [hkvs] at hwalk htext ⊢
  simp only [rejectNoncanonicalValues, hwalk, htext, if_true]
  rfl

/-- A line without its LF is the canonical text of a plain object. -/
structure Encodes (v : Json) (line : Bytes) : Prop where
  isObject : IsObject v
  plain : v.Plain
  text : encodeAscii (dumps .compact 0 v) = some line

/-- What the writer writes for a dict is the canonical text of a plain object. -/
theorem canonicalJsonlLine_inv (v : Json) (hd : v.Distinct) (b : Bytes) (h : canonicalJsonlLine v = .ok b) :
    ∃ line, Encodes v line ∧ b = line ++ [lf] := by
  unfold canonicalJsonlLine at h
  cases ho : requireObject v (lit "canonical JSONL record") with
  | error e =>
    rw [ho] at h
    cases h
  | ok u =>
    cases hwalk : validateSerializableObject v (lit "canonical JSONL record") with
    | error e =>
      rw [ho, hwalk] at h
      cases h
    | ok u =>
      rw [ho, hwalk] at h
      simp only [bind, Except.bind] at h
      split at h
      · cases h
      · rename_i line hline
        cases h
        exact ⟨line, ⟨(requireObject_ok v _).mp ho, plain_of_walk v hd _ hwalk, hline⟩, rfl⟩

/-- An accepted line is the text of the plain object that was read. -/
theorem parseLine_plain (line : Bytes) (what : Str) (index : Nat) (v : Json)
    (h : parseCanonicalJsonLine line what index = .ok v) :
    Encodes v line := by
  unfold parseCanonicalJsonLine at h
  simp only at h
  split at h
  · cases h
  split at h
  · cases h
  · cases h
  · cases h
  · rename_i kvs hloads
    cases hwalk : rejectNoncanonicalValues (.obj kvs) (lineName what index) with
    | error e =>
      rw [hwalk] at h
      cases h
    | ok u =>
      rw [hwalk] at h
      simp only [bind, Except.bind] at h
      split at h
      · cases h
      · split at h
        · rename_i canonical hcanonical heq
          cases h
          subst heq
          have hd : (Json.obj kvs).Distinct := loads_keeps hooks Distinct hooks_distinct _ _ hloads
          exact ⟨trivial, plain_of_walk _ hd _ hwalk, hcanonical⟩
        · cases h
  · cases h

/-! ## Lines -/

theorem splitLF_append (line rest : Bytes) (h : ∀ x ∈ line, x.val ≠ 10) :
    splitLF (line ++ lf :: rest) = (line :: (splitLF rest).1, (splitLF rest).2) := by
  induction line with
  | nil => simp [splitLF]
  | cons b line ih =>
    rw [List.cons_append, splitLF, ih fun x hx => h x (by simp [hx])]
    simp only [if_neg (h b (by simp))]

theorem splitLF_flatten (lines : List Bytes) (h : ∀ line ∈ lines, ∀ x ∈ line, x.val ≠ 10) :
    splitLF (lines.map (· ++ [lf])).flatten = (lines, []) := by
  induction lines with
  | nil => rfl
  | cons line lines ih =>
    rw [List.map_cons, List.flatten_cons, List.append_assoc, List.singleton_append,
      splitLF_append line _ (h line (by simp)), ih fun l hl => h l (by simp [hl])]

theorem flatten_splitLF (raw : Bytes) : ((splitLF raw).1.map (· ++ [lf])).flatten ++ (splitLF raw).2 = raw := by
  induction raw with
  | nil => rfl
  | cons b raw ih =>
    rw [splitLF]
    rcases hs : splitLF raw with ⟨lines, rest⟩
    rw [hs] at ih
    simp only at ih ⊢
    split
    · rename_i hb
      have : b = lf := Fin.ext hb
      subst this
      simp [ih]
    · cases lines with
      | nil => simpa using ih
      | cons line lines => simpa using ih

/-! ## Records -/

theorem parseLines_encode (vs : List Json) (lines : List Bytes) (what : Str) (index : Nat)
    (hvs : List.Forall₂ Encodes vs lines) :
    parseLines what none index lines = .ok (vs.map sortKeys) := by
  induction hvs generalizing index with
  | nil => rfl
  | cons h hvs ih =>
    rename_i v line vs lines
    obtain ⟨ho, hv, hb⟩ := h
    obtain ⟨b, hb', -, hne, -⟩ := encode_plain v hv
    rw [hb] at hb'
    cases hb'
    rw [parseLines, if_neg hne, parseLine_encode v ho hv line hb, ih]
    rfl

theorem parseLines_plain (lines : List Bytes) (what : Str) (index : Nat) (vs : List Json)
    (h : parseLines what none index lines = .ok vs) :
    List.Forall₂ Encodes vs lines := by
  induction lines generalizing index vs with
  | nil =>
    cases h
    exact .nil
  | cons line lines ih =>
    rw [parseLines] at h
    split at h
    · cases h
    · cases hline : parseCanonicalJsonLine line what index with
      | error e =>
        rw [hline] at h
        cases h
      | ok v =>
        cases hlines : parseLines what none (index + 1) lines with
        | error e =>
          rw [hline, hlines] at h
          cases h
        | ok vs' =>
          rw [hline, hlines] at h
          cases h
          exact .cons (parseLine_plain line what index v hline) (ih _ _ hlines)

theorem mapM_canonicalJsonlLine (vs : List Json) (lines : List Bytes)
    (h : List.Forall₂ Encodes vs lines) :
    vs.mapM canonicalJsonlLine = .ok (lines.map (· ++ [lf])) := by
  induction h with
  | nil => rfl
  | cons h _ ih =>
    obtain ⟨ho, hv, hb⟩ := h
    rw [List.mapM_cons, canonicalJsonlLine_ok _ ho hv _ hb, ih]
    rfl

theorem encodes_lines (vs : List Json) (hvs : ∀ v ∈ vs, IsObject v ∧ v.Plain) :
    ∃ lines, List.Forall₂ Encodes vs lines := by
  induction vs with
  | nil => exact ⟨[], .nil⟩
  | cons v vs ih =>
    obtain ⟨lines, hlines⟩ := ih fun w hw => hvs w (by simp [hw])
    obtain ⟨ho, hv⟩ := hvs v (by simp)
    obtain ⟨b, hb, -⟩ := encode_plain v hv
    exact ⟨b :: lines, .cons ⟨ho, hv, hb⟩ hlines⟩

theorem encodes_printable (vs : List Json) (lines : List Bytes) (h : List.Forall₂ Encodes vs lines) :
    ∀ line ∈ lines, ∀ x ∈ line, 32 ≤ x.val ∧ x.val ≤ 126 := by
  induction h with
  | nil => simp
  | @cons v line vs lines hv _ ih =>
    obtain ⟨b, hb, -, -, hprint⟩ := encode_plain v hv.plain
    rw [hv.text] at hb
    cases hb
    intro l hl
    rw [List.mem_cons] at hl
    rcases hl with rfl | hl
    · exact hprint
    · exact ih l hl

theorem encodes_ne_nil (vs : List Json) (lines : List Bytes) (h : List.Forall₂ Encodes vs lines) :
    ∀ line ∈ lines, line ≠ [] := by
  induction h with
  | nil => simp
  | @cons v line vs lines hv _ ih =>
    obtain ⟨b, hb, -, hne, -⟩ := encode_plain v hv.plain
    rw [hv.text] at hb
    cases hb
    intro l hl
    rw [List.mem_cons] at hl
    rcases hl with rfl | hl
    · exact hne
    · exact ih l hl

theorem flatten_getLast (lines : List Bytes) (hne : lines ≠ []) :
    (lines.map (· ++ [lf])).flatten.getLast? = some lf := by
  rw [← List.dropLast_append_getLast hne, List.map_append, List.flatten_append]
  simp

/-- Bytes of printable lines pass every check on the whole buffer. -/
theorem parseRecords_lines (lines : List Bytes) (hne : lines ≠ [])
    (hprint : ∀ line ∈ lines, ∀ x ∈ line, 32 ≤ x.val ∧ x.val ≤ 126) (what : Str) :
    parseCanonicalJsonlRecords (lines.map (· ++ [lf])).flatten what none = parseLines what none 0 lines := by
  have hbytes : ∀ x ∈ (lines.map (· ++ [lf])).flatten, x.val ≤ 126 ∧ x.val ≠ 13 := by
    intro x hx
    simp only [List.mem_flatten, List.mem_map, exists_exists_and_eq_and, List.mem_append, List.mem_singleton] at hx
    obtain ⟨line, hline, hx | rfl⟩ := hx
    · have := hprint line hline x hx
      omega
    · decide
  have hbom : ¬ bom <+: (lines.map (· ++ [lf])).flatten := by
    intro h
    have := (hbytes (byte 0xEF) (h.subset (by simp [bom]))).1
    revert this
    decide
  have hcr : ¬ occurs (byte 13) (lines.map (· ++ [lf])).flatten = true := by
    rw [occurs_iff]
    exact fun h => (hbytes (byte 13) h).2 rfl
  have hlast := flatten_getLast lines hne
  have hsplit := splitLF_flatten lines fun line hl x hx => by
    have := hprint line hl x hx
    omega
  simp only [parseCanonicalJsonlRecords, Option.any_none, Bool.false_eq_true, if_false, if_neg hbom, if_neg hcr, hlast,
    ne_eq, not_true, hsplit, if_true]
  cases parseLines what none 0 lines <;> rfl

theorem parseRecords_split (raw : Bytes) (what : Str) (vs : List Json)
    (h : parseCanonicalJsonlRecords raw what none = .ok vs) :
    List.Forall₂ Encodes vs (splitLF raw).1 ∧ (splitLF raw).2 = [] := by
  simp only [parseCanonicalJsonlRecords, Option.any_none, Bool.false_eq_true, if_false] at h
  split at h
  · cases h
  split at h
  · cases h
  split at h
  · cases h
  cases hlines : parseLines what none 0 (splitLF raw).1 with
  | error e =>
    rw [hlines] at h
    cases h
  | ok records =>
    rw [hlines] at h
    change (if (splitLF raw).2 = [] then _ else _) = _ at h
    split at h
    · cases h
      exact ⟨parseLines_plain _ what 0 _ hlines, by assumption⟩
    · cases h

theorem parseRecords_ne_nil (raw : Bytes) (what : Str) (vs : List Json)
    (h : parseCanonicalJsonlRecords raw what none = .ok vs) : vs ≠ [] := by
  obtain ⟨hlines, hrest⟩ := parseRecords_split raw what vs h
  rintro rfl
  have hnil : (splitLF raw).1 = [] := by
    cases hl : (splitLF raw).1 with
    | nil => rfl
    | cons line lines =>
      rw [hl] at hlines
      cases hlines
  have hraw := flatten_splitLF raw
  rw [hnil, hrest] at hraw
  subst hraw
  cases h

/-- The canonical text of plain objects is read as these objects. -/
theorem parseRecords_encodes (vs : List Json) (lines : List Bytes) (h : List.Forall₂ Encodes vs lines) (hne : vs ≠ [])
    (what : Str) :
    parseCanonicalJsonlRecords (lines.map (· ++ [lf])).flatten what none = .ok (vs.map sortKeys) := by
  have hlne : lines ≠ [] := by
    rintro rfl
    cases h
    exact hne rfl
  rw [parseRecords_lines lines hlne (encodes_printable vs lines h)]
  exact parseLines_encode vs lines what 0 h

/-- Canonical JSONL and lists of objects are two forms of one thing: what is written is read back, and what is
read is written back byte for byte. -/
theorem canonical_jsonl_bijective (what : Str) :
    (∀ vs : List Json, vs ≠ [] → (∀ v ∈ vs, IsObject v ∧ v.Plain) →
      ∃ lines records, vs.mapM canonicalJsonlLine = .ok lines ∧
        parseCanonicalJsonlRecords lines.flatten what none = .ok records ∧ List.Forall₂ Same records vs) ∧
    (∀ (raw : Bytes) (records : List Json), parseCanonicalJsonlRecords raw what none = .ok records →
      ∃ lines, records.mapM canonicalJsonlLine = .ok lines ∧ lines.flatten = raw) := by
  constructor
  · intro vs hne hvs
    obtain ⟨lines, hlines⟩ := encodes_lines vs hvs
    refine ⟨_, vs.map sortKeys, mapM_canonicalJsonlLine vs lines hlines, parseRecords_encodes vs lines hlines hne what, ?_⟩
    · rw [List.forall₂_map_left_iff, List.forall₂_same]
      intro v _
      exact sortKeys_idem v
  · intro raw records h
    obtain ⟨hlines, hrest⟩ := parseRecords_split raw what records h
    refine ⟨_, mapM_canonicalJsonlLine records _ hlines, ?_⟩
    have := flatten_splitLF raw
    rwa [hrest, List.append_nil] at this

/-- The record `{"id":"a"}`. -/
def sampleRecord : Json := .obj [(lit "id", .str (lit "a"))]

theorem sampleRecord_plain : sampleRecord.Plain := by
  refine .obj _ (by simp) ?_ ?_
  · intro p hp
    rw [List.mem_singleton] at hp
    subst hp
    decide
  · intro p hp
    rw [List.mem_singleton] at hp
    subst hp
    exact .str _ (by decide)

theorem canonical_jsonl_bijective_at_record :
    ∃ lines records, [sampleRecord].mapM canonicalJsonlLine = .ok lines ∧
      parseCanonicalJsonlRecords lines.flatten (lit "records") none = .ok records ∧
      List.Forall₂ Same records [sampleRecord] :=
  (canonical_jsonl_bijective (lit "records")).1 [sampleRecord] (by simp) (by
    intro v hv
    rw [List.mem_singleton] at hv
    subst hv
    exact ⟨trivial, sampleRecord_plain⟩)

end TurnVector.Canonical
