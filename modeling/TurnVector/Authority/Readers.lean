import TurnVector.Authority.ContractJson
import TurnVector.Canonical.RoundTrip

/-! # The staged reader and the strict reader accept one language -/

namespace TurnVector.ContractJson

open Python Json Canonical

/-! ## Canonical text has canonical string tokens -/

/-- The token scan passes over a text without a complaint. -/
def Passes (what : Str) (t : Str) : Prop :=
  ∀ rest, validateStringTokens what 0 (t ++ rest) = validateStringTokens what 0 rest

theorem validate_skip (what t rest : Str) :
    validateStringTokens what t.length (t ++ rest) = validateStringTokens what 0 rest := by
  induction t with
  | nil => rfl
  | cons c t ih =>
    rw [List.cons_append, validateStringTokens, if_pos (by simp)]
    exact ih

theorem passes_nil (what : Str) : Passes what [] := fun _ => rfl

theorem passes_append (what s t : Str) (hs : Passes what s) (ht : Passes what t) : Passes what (s ++ t) := by
  intro rest
  rw [List.append_assoc, hs, ht]

theorem passes_cons (what : Str) (c : CodePoint) (t : Str) (hc : c.val ≠ 34) (ht : Passes what t) :
    Passes what (c :: t) := by
  intro rest
  rw [List.cons_append, validateStringTokens, if_neg (by simp), if_pos hc]
  exact ht rest

theorem passes_of_no_quote (what t : Str) (h : ∀ c ∈ t, c.val ≠ 34) : Passes what t := by
  induction t with
  | nil => exact passes_nil what
  | cons c t ih => exact passes_cons what c t (h c (by simp)) (ih fun x hx => h x (by simp [hx]))

theorem passes_flatten (what : Str) (ts : List Str) (h : ∀ t ∈ ts, Passes what t) : Passes what ts.flatten := by
  induction ts with
  | nil => exact passes_nil what
  | cons t ts ih =>
    rw [List.flatten_cons]
    exact passes_append what t _ (h t (by simp)) (ih fun u hu => h u (by simp [hu]))

theorem passes_quote (what s : Str) (hs : hasSurrogate s = false) : Passes what (quote s) := by
  intro rest
  have htail : quote s = cp 34 :: (s.flatMap escapeChar ++ [cp 34]) := rfl
  have hscan : (scanString (s.flatMap escapeChar ++ [cp 34] ++ rest) : Except (LoadError Exc) _) = .ok (s, rest) := by
    rw [List.append_assoc]
    exact scanString_quote s rest hs
  have htoken : (quote s ++ rest).take ((quote s ++ rest).length - rest.length) = quote s := by
    rw [List.length_append, Nat.add_sub_cancel, List.take_left]
  rw [htail, List.cons_append] at htoken
  rw [htail, List.cons_append, validateStringTokens, if_neg (by simp), if_neg (by decide), hscan]
  simp only
  rw [htoken, if_neg (by simp [htail])]
  exact validate_skip what _ rest

theorem passes_newline (what : Str) (l : Layout) (level : Nat) : Passes what (l.newline level) := by
  apply passes_of_no_quote
  intro c hc
  cases l with
  | compact => simp [Layout.newline] at hc
  | indented =>
    simp only [Layout.newline, List.mem_cons, List.mem_replicate] at hc
    rcases hc with rfl | ⟨-, rfl⟩
    · decide
    · decide

theorem passes_join (what sep : Str) (ts : List Str) (hsep : Passes what sep) (h : ∀ t ∈ ts, Passes what t) :
    Passes what (join sep ts) := by
  cases ts with
  | nil => exact passes_nil what
  | cons t ts =>
    rw [join]
    apply passes_append what t _ (h t (by simp))
    rw [List.flatMap_def]
    apply passes_flatten
    intro u hu
    obtain ⟨w, hw, rfl⟩ := List.mem_map.mp hu
    exact passes_append what sep w hsep (h w (by simp [hw]))

theorem passes_enclose (what : Str) (l : Layout) (level : Nat) (left right : CodePoint) (ts : List Str)
    (hl : left.val ≠ 34) (hr : right.val ≠ 34) (h : ∀ t ∈ ts, Passes what t) :
    Passes what (enclose l level left right ts) := by
  have hright : Passes what [right] := passes_cons what right [] hr (passes_nil what)
  cases ts with
  | nil =>
    rw [enclose_nil]
    exact passes_cons what left _ hl hright
  | cons t ts =>
    rw [enclose_cons]
    have hsep : Passes what (cp 44 :: l.newline (level + 1)) :=
      passes_cons what _ _ (by decide) (passes_newline what l _)
    apply passes_cons what left _ hl
    apply passes_append
    · exact passes_append what _ _ (passes_newline what l _) (passes_join what _ _ hsep h)
    · exact passes_append what _ _ (passes_newline what l _) hright

theorem passes_digits (what : Str) (n : Nat) : Passes what (natText n) := by
  apply passes_of_no_quote
  intro c hc
  have := (isDigit_iff c).mp (natText_digit n c hc)
  omega

theorem passes_colon (what : Str) (l : Layout) : Passes what l.colon := by
  have hspace : Passes what [cp 32] := passes_cons what _ _ (by decide) (passes_nil what)
  cases l with
  | compact => exact passes_cons what _ _ (by decide) (passes_nil what)
  | indented => exact passes_cons what _ _ (by decide) hspace

theorem passes_lit (what : Str) (s : String) (h : s.toList.all (fun c => c.toNat ≠ 34)) : Passes what (lit s) := by
  apply passes_of_no_quote
  intro c hc
  obtain ⟨x, hx, rfl⟩ := List.mem_map.mp hc
  have := List.all_eq_true.mp h x hx
  rw [decide_eq_true_eq] at this
  exact this

theorem passes_dumps (what : Str) (l : Layout) (v : Json) (hv : v.Plain) : ∀ level, Passes what (dumps l level v) := by
  induction v with
  | null => exact fun _ => passes_lit what "null" (by decide)
  | bool b =>
    cases b with
    | true => exact fun _ => passes_lit what "true" (by decide)
    | false => exact fun _ => passes_lit what "false" (by decide)
  | int n =>
    intro level
    cases n with
    | ofNat k => exact passes_digits what k
    | negSucc k => exact passes_cons what _ _ (by decide) (passes_digits what (k + 1))
  | float t => cases hv
  | str s =>
    cases hv with
    | str _ hs => exact fun _ => passes_quote what s hs
  | arr xs ih =>
    cases hv with
    | arr _ hx =>
      intro level
      rw [dumps_arr]
      apply passes_enclose what l level _ _ _ (by decide) (by decide)
      intro t ht
      obtain ⟨x, hm, rfl⟩ := List.mem_map.mp ht
      exact ih x hm (hx x hm) _
  | obj kvs ih =>
    cases hv with
    | obj _ _ hk hx =>
      intro level
      rw [dumps_obj]
      apply passes_enclose what l level _ _ _ (by decide) (by decide)
      intro t ht
      obtain ⟨p, hp, rfl⟩ := List.mem_map.mp ht
      have hm : p ∈ kvs := (sortByKey_perm kvs).mem_iff.mp hp
      have hkey := passes_append what _ _ (passes_quote what p.1 (hk p hm)) (passes_colon what l)
      exact passes_append what _ _ hkey (ih p hm (hx p hm) _)

/-! ## Values without a duplicate key -/

theorem toPlainItems_eq (xs : List Json) : toPlainItems xs = xs.map toPlain := by
  induction xs with
  | nil => rfl
  | cons x xs ih => rw [toPlainItems, ih, List.map_cons]

theorem toPlainMembers_eq (kvs : List (Str × Json)) : toPlainMembers kvs = kvs.map fun p => (p.1, toPlain p.2) := by
  induction kvs with
  | nil => rfl
  | cons p kvs ih => rw [toPlainMembers, ih, List.map_cons]

/-- The value view is a dict at every level. -/
theorem toPlain_distinct (v : Json) : (toPlain v).Distinct := by
  induction v with
  | null => exact .null
  | bool b => exact .bool b
  | int n => exact .int n
  | float t => exact .float t
  | str s => exact .str s
  | arr xs ih =>
    rw [toPlain, toPlainItems_eq]
    refine .arr _ ?_
    intro y hy
    obtain ⟨x, hx, rfl⟩ := List.mem_map.mp hy
    exact ih x hx
  | obj kvs ih =>
    rw [toPlain, toPlainMembers_eq]
    refine .obj _ (dictOf_nodup _) ?_
    intro q hq
    obtain ⟨p, hp, rfl⟩ := List.mem_map.mp (mem_dictOf _ q hq)
    exact ih p hp

theorem toPlain_of_distinct (v : Json) (hv : v.Distinct) : toPlain v = v := by
  induction v with
  | arr xs ih =>
    cases hv with
    | arr _ hx =>
      rw [toPlain, toPlainItems_eq]
      congr 1
      conv_rhs => rw [← List.map_id xs]
      apply List.map_congr_left
      intro x hm
      exact ih x hm (hx x hm)
  | obj kvs ih =>
    cases hv with
    | obj _ hn hx =>
      have hmap : toPlainMembers kvs = kvs := by
        rw [toPlainMembers_eq]
        conv_rhs => rw [← List.map_id kvs]
        apply List.map_congr_left
        intro p hm
        rw [ih p hm (hx p hm)]
        rfl
      rw [toPlain, hmap, dictOf_eq kvs hn]
  | _ => rfl

theorem collectItems_nil (path : List PathToken) (index : Nat) (xs : List Json)
    (h : ∀ x ∈ xs, ∀ path, collectDuplicates path x = []) : collectItems path index xs = [] := by
  induction xs generalizing index with
  | nil => rfl
  | cons x xs ih => rw [collectItems, h x (by simp), ih _ fun y hy => h y (by simp [hy]), List.nil_append]

theorem collectMembers_nil (path : List PathToken) (seen : List Str) (index : Nat) (kvs : List (Str × Json))
    (hn : (kvs.map Prod.fst).Nodup) (hs : ∀ p ∈ kvs, p.1 ∉ seen)
    (h : ∀ p ∈ kvs, ∀ path, collectDuplicates path p.2 = []) : collectMembers path seen index kvs = [] := by
  induction kvs generalizing seen index with
  | nil => rfl
  | cons p kvs ih =>
    obtain ⟨key, v⟩ := p
    rw [List.map_cons, List.nodup_cons] at hn
    rw [collectMembers, if_neg (by simpa using hs (key, v) (by simp)), h (key, v) (by simp), List.nil_append, List.nil_append]
    apply ih _ _ hn.2
    · intro q hq hm
      rw [List.mem_cons] at hm
      rcases hm with hm | hm
      · exact hn.1 (List.mem_map.mpr ⟨q, hq, hm⟩)
      · exact hs q (List.mem_cons_of_mem _ hq) hm
    · exact fun q hq => h q (List.mem_cons_of_mem _ hq)

theorem collectDuplicates_nil (v : Json) (hv : v.Distinct) : ∀ path, collectDuplicates path v = [] := by
  induction v with
  | arr xs ih =>
    cases hv with
    | arr _ hx => exact fun path => collectItems_nil path 0 xs fun x hm => ih x hm (hx x hm)
  | obj kvs ih =>
    cases hv with
    | obj _ hn hx => exact fun path => collectMembers_nil path [] 0 kvs hn (by simp) fun p hm => ih p hm (hx p hm)
  | _ => intro path; rfl

theorem plain_distinct (v : Json) (hv : v.Plain) : v.Distinct := by
  induction hv with
  | null => exact .null
  | bool b => exact .bool b
  | int n => exact .int n
  | str s h => exact .str s
  | arr xs h ih => exact .arr xs ih
  | obj kvs hn hk hv ih => exact .obj kvs hn ih

theorem anySurrogateItems_eq (xs : List Json) : anySurrogateItems xs = xs.any anySurrogate := by
  induction xs with
  | nil => rfl
  | cons x xs ih => rw [anySurrogateItems, ih, List.any_cons]

theorem anySurrogateMembers_eq (kvs : List (Str × Json)) :
    anySurrogateMembers kvs = kvs.any fun p => hasSurrogate p.1 || anySurrogate p.2 := by
  induction kvs with
  | nil => rfl
  | cons p kvs ih => rw [anySurrogateMembers, ih, List.any_cons]

theorem anySurrogate_plain (v : Json) (hv : v.Plain) : anySurrogate v = false := by
  induction hv with
  | null => rfl
  | bool b => rfl
  | int n => rfl
  | str s h => exact h
  | arr xs h ih =>
    rw [anySurrogate, anySurrogateItems_eq, List.any_eq_false]
    intro x hx
    simp [ih x hx]
  | obj kvs hn hk hv ih =>
    rw [anySurrogate, anySurrogateMembers_eq, List.any_eq_false]
    intro p hp
    simp [ih p hp, hk p hp]

/-! ## One object -/

theorem hooks_keepsPairs : KeepsPairs hooks := fun _ _ => rfl

theorem dumps_object_last (l : Layout) (v : Json) (ho : IsObject v) : (dumps l 0 v).getLast? = some (cp 125) := by
  obtain ⟨kvs, rfl⟩ := (isObject_iff v).mp ho
  rw [dumps_obj]
  cases (sortByKey kvs).map (memberText l 1) with
  | nil => rfl
  | cons t ts => rw [enclose_cons, ← List.append_assoc, ← List.cons_append, List.getLast?_concat]

/-- Text that the staged reader takes for an object, whatever its layout. -/
theorem parseJsonObject_dumps (l : Layout) (v : Json) (ho : IsObject v) (hv : v.Plain) (raw : Bytes)
    (hraw : decodeUtf8 raw = some (dumps l 0 v ++ [cp 10])) (what : Str) :
    ∃ parsed, parseJsonObject raw what = .ok parsed ∧ parsed.duplicateKeys = [] ∧ parsed.value = v.sortKeys := by
  have hsorted := plain_sortKeys v hv
  obtain ⟨kvs, hkvs⟩ := (isObject_iff _).mp (isObject_sortKeys v ho)
  have hchars : ∀ c ∈ dumps l 0 v ++ [cp 10], c.val = 10 ∨ (32 ≤ c.val ∧ c.val ≤ 126) := by
    intro c hc
    rw [List.mem_append, List.mem_singleton] at hc
    rcases hc with hc | rfl
    · rcases dumps_textChar l v hv 0 c hc with h | ⟨-, h⟩
      · exact Or.inr h
      · exact Or.inl h
    · exact Or.inl rfl
  have hbom : (dumps l 0 v ++ [cp 10]).head? ≠ some (cp 0xFEFF) := by
    intro h
    have := hchars _ (List.mem_of_mem_head? h)
    rw [cp_val _ (by omega)] at this
    omega
  have hcr : ¬ occurs (cp 13) (dumps l 0 v ++ [cp 10]) = true := by
    rw [occurs_iff]
    intro h
    have := hchars _ h
    rw [cp_val _ (by omega)] at this
    omega
  have hlast : (dumps l 0 v ++ [cp 10]).getLast? = some (cp 10) := by simp
  have hblank : (dumps l 0 v).getLast? ≠ some (cp 10) := by
    rw [dumps_object_last l v ho]
    decide
  have hvalidate : validateStringTokens what 0 (dumps l 0 v) = .ok () := by
    have := passes_dumps what l v hv 0 []
    rwa [List.append_nil] at this
  have hsurrogate : anySurrogate (.obj kvs) = false := hkvs ▸ anySurrogate_plain _ hsorted
  have hdup : collectDuplicates [] (.obj kvs) = [] :=
    hkvs ▸ collectDuplicates_nil _ (plain_distinct _ hsorted) []
  refine ⟨⟨kvs, []⟩, ?_, rfl, ?_⟩
  · simp only [parseJsonObject, hraw, if_neg hbom, if_neg hcr, hlast, ne_eq, not_true, if_false,
      List.dropLast_concat, if_neg hblank, hvalidate, rawDecode_dumps hooks hooks_keepsPairs l v hv, hkvs]
    simp [hsurrogate, hdup, bind, Except.bind]
  · rw [ParsedJson.value, ← hkvs]
    exact toPlain_of_distinct _ (plain_distinct _ hsorted)

/-! ## Lines -/

theorem splitlines_append (line rest : Bytes) (h : ∀ x ∈ line, x.val ≠ 10 ∧ x.val ≠ 13) :
    splitlines (line ++ lf :: rest) = (line ++ [lf]) :: splitlines rest := by
  induction line with
  | nil =>
    rw [List.nil_append, splitlines.eq_def]
    rfl
  | cons b line ih =>
    obtain ⟨hlf, hcr⟩ := h b (by simp)
    rw [List.cons_append, splitlines.eq_def]
    simp only [if_neg hlf, if_neg hcr, ih fun x hx => h x (by simp [hx])]
    rfl

theorem splitlines_flatten (lines : List Bytes) (h : ∀ line ∈ lines, ∀ x ∈ line, x.val ≠ 10 ∧ x.val ≠ 13) :
    splitlines (lines.map (· ++ [lf])).flatten = lines.map (· ++ [lf]) := by
  induction lines with
  | nil => rfl
  | cons line lines ih =>
    rw [List.map_cons, List.flatten_cons, List.append_assoc, List.singleton_append,
      splitlines_append line _ (h line (by simp)), ih fun l hl => h l (by simp [hl])]

theorem decodeUtf8_text (text : Str) (b : Bytes) (h : encodeAscii text = some b) :
    decodeUtf8 (b ++ [lf]) = some (text ++ [cp 10]) := by
  obtain ⟨htext, hlt⟩ := encodeAscii_eq text b h
  rw [decodeUtf8_ascii, ofBytes, List.map_append]
  · rw [← htext]
    rfl
  · intro x hx
    rw [List.mem_append, List.mem_singleton] at hx
    rcases hx with hx | rfl
    · exact hlt x hx
    · decide

/-- What the staged reader makes of canonical lines. -/
theorem parseLines_encodes (vs : List Json) (lines : List Bytes) (what : Str) (index : Nat)
    (h : List.Forall₂ Encodes vs lines) :
    ∃ records, parseLines what index (lines.map (· ++ [lf])) = .ok records ∧
      (∀ r ∈ records, r.duplicateKeys = []) ∧ records.map (·.value) = vs.map sortKeys := by
  induction h generalizing index with
  | nil => exact ⟨[], rfl, by simp, rfl⟩
  | @cons v line vs lines hv _ ih =>
    obtain ⟨records, hrecords, hdup, hvalues⟩ := ih (index + 1)
    obtain ⟨parsed, hparsed, hpdup, hvalue⟩ := parseJsonObject_dumps .compact v hv.isObject hv.plain (line ++ [lf])
      (decodeUtf8_text _ _ hv.text) (recordName what index)
    refine ⟨parsed :: records, ?_, ?_, ?_⟩
    · rw [List.map_cons, parseLines, hparsed, hrecords]
      rfl
    · intro r hr
      rw [List.mem_cons] at hr
      rcases hr with rfl | hr
      · exact hpdup
      · exact hdup r hr
    · rw [List.map_cons, List.map_cons, hvalue, hvalues]

/-! ## The two readers -/

theorem canonicalJsonBytes_compact (v : Json) (b : Bytes) :
    canonicalJsonBytes .compact v = .ok b ↔ canonicalJsonlLine v = .ok b := by
  cases v with
  | obj kvs =>
    simp only [canonicalJsonBytes]
    cases canonicalJsonlLine (.obj kvs) <;> simp
  | _ =>
    constructor
    · intro h
      cases h
    · intro h
      cases h

theorem canonicalBytes_inv (r : ParsedJson) (b : Bytes) (h : r.canonicalBytes .compact = .ok b) :
    ∃ line, Encodes r.value line ∧ b = line ++ [lf] := by
  unfold ParsedJson.canonicalBytes at h
  split at h
  · cases h
  · exact canonicalJsonlLine_inv r.value (toPlain_distinct _) b ((canonicalJsonBytes_compact _ b).mp h)

theorem canonicalBytes_ok (r : ParsedJson) (hdup : r.duplicateKeys = []) (line : Bytes) (h : Encodes r.value line) :
    r.canonicalBytes .compact = .ok (line ++ [lf]) := by
  rw [ParsedJson.canonicalBytes, if_neg (by simp [hdup]), canonicalJsonBytes_compact]
  exact canonicalJsonlLine_ok r.value h.isObject h.plain line h.text

theorem mapM_canonicalBytes (records : List ParsedJson) (encoded : List Bytes)
    (h : records.mapM (·.canonicalBytes .compact) = .ok encoded) :
    ∃ lines, List.Forall₂ Encodes (records.map (·.value)) lines ∧ encoded = lines.map (· ++ [lf]) := by
  induction records generalizing encoded with
  | nil =>
    cases h
    exact ⟨[], .nil, rfl⟩
  | cons r records ih =>
    rw [List.mapM_cons] at h
    cases hr : r.canonicalBytes .compact with
    | error e =>
      rw [hr] at h
      cases h
    | ok b =>
      cases hrs : records.mapM (·.canonicalBytes .compact) with
      | error e =>
        rw [hr, hrs] at h
        cases h
      | ok bs =>
        rw [hr, hrs] at h
        cases h
        obtain ⟨lines, hlines, rfl⟩ := ih bs hrs
        obtain ⟨line, hline, rfl⟩ := canonicalBytes_inv r b hr
        exact ⟨line :: lines, .cons hline hlines, rfl⟩

theorem isCanonicalJsonl_encodes (records : List ParsedJson) (lines : List Bytes)
    (hdup : ∀ r ∈ records, r.duplicateKeys = []) (h : List.Forall₂ Encodes (records.map (·.value)) lines) :
    isCanonicalJsonl (lines.map (· ++ [lf])).flatten records = true := by
  have hmap : records.mapM (·.canonicalBytes .compact) = .ok (lines.map (· ++ [lf])) := by
    induction records generalizing lines with
    | nil =>
      cases h
      rfl
    | cons r records ih =>
      cases h with
      | @cons _ line _ lines hr hrs =>
        rw [List.mapM_cons, canonicalBytes_ok r (hdup r (by simp)) line hr,
          ih lines (fun q hq => hdup q (by simp [hq])) hrs]
        rfl
  simp [isCanonicalJsonl, hmap]

theorem parseJsonlRecords_ne_nil (raw : Bytes) (what : Str) (records : List ParsedJson)
    (h : parseJsonlRecords raw what = .ok records) : records ≠ [] := by
  unfold parseJsonlRecords at h
  split at h
  · cases h
  · split at h
    · cases h
    · rename_i hlines
      push Not at hlines
      cases hs : splitlines raw with
      | nil => exact absurd hs hlines.1
      | cons line lines =>
        rw [hs, parseLines] at h
        rintro rfl
        cases hl : parseJsonObject line (recordName what 0) with
        | error e =>
          rw [hl] at h
          cases h
        | ok parsed =>
          cases hls : parseLines what (0 + 1) lines with
          | error e =>
            rw [hl, hls] at h
            cases h
          | ok rs =>
            rw [hl, hls] at h
            cases h

/-- The staged reader takes canonical text for the objects that it was written from. -/
theorem parseJsonlRecords_encodes (vs : List Json) (lines : List Bytes) (h : List.Forall₂ Encodes vs lines)
    (hne : vs ≠ []) (what : Str) :
    ∃ records, parseJsonlRecords (lines.map (· ++ [lf])).flatten what = .ok records ∧
      (∀ r ∈ records, r.duplicateKeys = []) ∧ records.map (·.value) = vs.map sortKeys := by
  have hprint := encodes_printable vs lines h
  have hlne : lines ≠ [] := by
    rintro rfl
    cases h
    exact hne rfl
  have hlast : (lines.map (· ++ [lf])).flatten.getLast? = some lf := flatten_getLast lines hlne
  have hsplit := splitlines_flatten lines fun line hl x hx => by
    have := hprint line hl x hx
    omega
  have hblank : [lf] ∉ lines.map (· ++ [lf]) := by
    intro hm
    obtain ⟨line, hl, he⟩ := List.mem_map.mp hm
    have hnil : line = [] := by simpa using he
    exact encodes_ne_nil vs lines h line hl hnil
  obtain ⟨records, hrecords, hdup, hvalues⟩ := parseLines_encodes vs lines what 0 h
  refine ⟨records, ?_, hdup, hvalues⟩
  rw [parseJsonlRecords, if_neg (by simp [hlast]), hsplit, if_neg (by simp [hlne, hblank]), hrecords]

end TurnVector.ContractJson
