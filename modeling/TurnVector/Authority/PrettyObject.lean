import TurnVector.Authority.Readers

/-! # Pretty authority objects

`parse_pretty_object` of `authority/contract_json.py`: an authority object has one spelling, with an indent of two.
-/

namespace TurnVector.ContractJson

open Python Json Canonical

/-- `parse_pretty_object` of a reference to a byte buffer. -/
def parsePrettyObject (buffer : Bytes) (logicalName : Str) : Except Exc Json := do
  let parsed ← parseJsonObject buffer logicalName
  if isCanonicalJson buffer parsed .indented then return parsed.value
  else throw (.invalidCanonicalJson logicalName (lit "noncanonical two-space encoding"))

/-! ## Equal values -/

theorem plain_of_sortKeys (v : Json) (hv : v.sortKeys.Plain) : v.Plain := by
  induction v with
  | arr xs ih =>
    rw [sortKeys_arr] at hv
    cases hv with
    | arr _ hx => exact .arr xs fun x hm => ih x hm (hx x.sortKeys (List.mem_map_of_mem hm))
  | obj kvs ih =>
    rw [sortKeys_obj] at hv
    cases hv with
    | obj _ hn hk hx =>
      have hmem : ∀ p ∈ kvs, (p.1, p.2.sortKeys) ∈ (sortByKey kvs).map fun p => (p.1, p.2.sortKeys) := fun p hp =>
        List.mem_map_of_mem ((sortByKey_perm kvs).mem_iff.mpr hp)
      rw [List.map_map] at hn
      refine .obj kvs ?_ ?_ ?_
      · exact (((sortByKey_perm kvs).map Prod.fst).nodup_iff).mp hn
      · exact fun p hp => hk (p.1, p.2.sortKeys) (hmem p hp)
      · exact fun p hp => ih p hp (hx _ (hmem p hp))
  | _ => exact hv

/-- Equal values are plain objects together. -/
theorem plainObject_of_same (v w : Json) (h : v.Same w) (hv : IsObject v ∧ v.Plain) : IsObject w ∧ w.Plain := by
  have hplain := plain_sortKeys v hv.2
  have hobject := isObject_sortKeys v hv.1
  rw [h] at hplain hobject
  refine ⟨?_, plain_of_sortKeys w hplain⟩
  cases w with
  | obj kvs => trivial
  | _ => cases hobject

/-! ## The writer -/

theorem isAscii_dumps (l : Layout) (v : Json) (hv : v.Plain) : isAscii (dumps l 0 v) = true := by
  simp only [isAscii, List.all_eq_true, decide_eq_true_eq]
  intro c hc
  rcases dumps_textChar l v hv 0 c hc with h | ⟨-, h⟩
  · omega
  · omega

/-- What the writer writes for a plain object. -/
theorem canonicalJsonBytes_indented (v : Json) (ho : IsObject v) (hv : v.Plain) :
    ∃ text, encodeAscii (dumps .indented 0 v) = some text ∧ canonicalJsonBytes .indented v = .ok (text ++ [lf]) := by
  obtain ⟨compact, hcompact, -⟩ := encode_plain v hv
  obtain ⟨kvs, rfl⟩ := (isObject_iff v).mp ho
  have hline := canonicalJsonlLine_ok _ ho hv compact hcompact
  have htext : encodeAscii (dumps .indented 0 (.obj kvs)) = some _ := if_pos (isAscii_dumps .indented _ hv)
  refine ⟨_, htext, ?_⟩
  simp only [canonicalJsonBytes, hline, htext]

/-- The writer takes a dict only when it is a plain object. -/
theorem canonicalJsonBytes_plain (l : Layout) (v : Json) (hd : v.Distinct) (raw : Bytes)
    (h : canonicalJsonBytes l v = .ok raw) : IsObject v ∧ v.Plain := by
  unfold canonicalJsonBytes at h
  split at h
  case h_2 => cases h
  case h_1 kvs =>
    refine ⟨trivial, ?_⟩
    cases hline : canonicalJsonlLine (.obj kvs) with
    | error e =>
      rw [hline] at h
      cases h
    | ok compact =>
      obtain ⟨line, hencodes, -⟩ := canonicalJsonlLine_inv _ hd compact hline
      exact hencodes.plain

/-- The order in which a dict holds its items is not written. -/
theorem canonicalJsonBytes_same (v w : Json) (hv : IsObject v ∧ v.Plain) (hw : IsObject w ∧ w.Plain)
    (h : v.Same w) : canonicalJsonBytes .indented v = canonicalJsonBytes .indented w := by
  obtain ⟨text, htext, hbytes⟩ := canonicalJsonBytes_indented v hv.1 hv.2
  obtain ⟨text', htext', hbytes'⟩ := canonicalJsonBytes_indented w hw.1 hw.2
  have hdumps : dumps .indented 0 v = dumps .indented 0 w := by
    rw [← dumps_sortKeys .indented v, ← dumps_sortKeys .indented w]
    exact congrArg _ h
  rw [hdumps, htext'] at htext
  cases htext
  rw [hbytes, hbytes']

/-! ## The reader -/

/-- What the reader returns is a dict, and its text is the buffer. -/
theorem parsePrettyObject_inv (raw : Bytes) (name : Str) (w : Json) (h : parsePrettyObject raw name = .ok w) :
    w.Distinct ∧ canonicalJsonBytes .indented w = .ok raw := by
  unfold parsePrettyObject at h
  obtain ⟨parsed, -, h⟩ := bind_ok_iff.mp h
  split at h
  case isFalse => cases h
  case isTrue hcanonical =>
    cases h
    refine ⟨toPlain_distinct _, ?_⟩
    unfold isCanonicalJson ParsedJson.canonicalBytes at hcanonical
    split at hcanonical
    · cases hcanonical
    · rename_i encoded hencoded
      split at hencoded
      · cases hencoded
      · rw [decide_eq_true_eq] at hcanonical
        rw [hencoded, hcanonical]

/-- What the writer writes is read back, with the keys in order. -/
theorem parsePrettyObject_bytes (v : Json) (ho : IsObject v) (hv : v.Plain) (raw : Bytes) (name : Str)
    (h : canonicalJsonBytes .indented v = .ok raw) : parsePrettyObject raw name = .ok v.sortKeys := by
  obtain ⟨text, htext, hbytes⟩ := canonicalJsonBytes_indented v ho hv
  rw [h] at hbytes
  cases hbytes
  obtain ⟨parsed, hparsed, hdup, hvalue⟩ := parseJsonObject_dumps .indented v ho hv (text ++ [lf])
    (decodeUtf8_text _ _ htext) name
  have hsorted : canonicalJsonBytes .indented v.sortKeys = .ok (text ++ [lf]) := by
    rw [← h]
    exact canonicalJsonBytes_same _ _ ⟨isObject_sortKeys v ho, plain_sortKeys v hv⟩ ⟨ho, hv⟩ (sortKeys_idem v)
  have hcanonical : isCanonicalJson (text ++ [lf]) parsed .indented = true := by
    rw [isCanonicalJson, ParsedJson.canonicalBytes, if_neg (by simp [hdup]), hvalue, hsorted]
    simp
  rw [parsePrettyObject, hparsed]
  simp only [bind, Except.bind, hcanonical, if_true, hvalue]
  rfl

/-- The bytes of the object `{"id": "a"}`. -/
def prettySample : Bytes := (encodeUtf8 (lit "\x7b\n  \"id\": \"a\"\n\x7d\n")).getD []

theorem prettySample_read :
    canonicalJsonBytes .indented sampleRecord = .ok prettySample ∧
      parsePrettyObject prettySample (lit "ledger") = .ok sampleRecord := by
  decide +kernel

end TurnVector.ContractJson
