import TurnVector.CrossEngine.Sse.Parser

/-! # A response does not depend on how it is cut -/

namespace TurnVector.CrossEngine.Sse

open Python Contracts

/-- A byte string in consecutive pieces. -/
structure Split (s : Bytes) where
  chunks : List Bytes
  nonempty : ∀ chunk ∈ chunks, chunk ≠ []
  joined : chunks.flatten = s

/-! ## The lines of pieces -/

theorem takeLines_append (text next : Str) :
    takeLines (text ++ next) = ((takeLines text).1 ++ (takeLines ((takeLines text).2 ++ next)).1,
      (takeLines ((takeLines text).2 ++ next)).2) := by
  induction text with
  | nil => simp [takeLines]
  | cons c text ih =>
    rw [List.cons_append, takeLines, takeLines]
    by_cases hc : c = cp 10
    · rw [if_pos hc, if_pos hc, ih]
      rfl
    · rw [if_neg hc, if_neg hc, ih]
      cases htext : takeLines text with
      | mk lines rest =>
        cases lines with
        | nil => simp [takeLines, hc]
        | cons line lines => rfl

/-- Something is left of a text without a line. -/
theorem takeLines_left (text : Str) (htext : text ≠ []) (hlines : (takeLines text).1 = []) :
    (takeLines text).2 ≠ [] := by
  unfold takeLines at hlines ⊢
  cases text with
  | nil => exact absurd rfl htext
  | cons c text =>
    simp only at hlines ⊢
    split at hlines
    · simp at hlines
    · rename_i hc
      rw [if_neg hc]
      split
      · simp
      · rename_i line lines rest heq
        rw [heq] at hlines
        simp at hlines

/-- Bytes that hold no character are kept. -/
theorem kept_of_no_text (data kept : Bytes) (h : decodeStateful data = some ([], kept)) : kept = data := by
  have hfirst : ∀ (c : CodePoint) (r : Option (Str × Bytes)), decodedFirst c r ≠ some ([], kept) := by
    intro c r hr
    cases r <;> simp [decodedFirst] at hr
  revert h
  fun_cases decodeStateful data
  all_goals intro h
  all_goals first
    | exact absurd h (hfirst _ _)
    | simp_all

section Chunking

variable (settings : Settings)

/-! ## One piece -/

/-- The parser after a piece. -/
theorem feedMore_ok_iff (parser next : SSEParser) (data : Bytes) :
    feedMore settings parser data = .ok next ↔
      parser.responseBytes + data.length ≤ settings.maxResponseBytes ∧
      next.responseBytes = parser.responseBytes + data.length ∧
      ∃ decoded, decodeStateful (parser.buffer ++ data) = some (decoded, next.buffer) ∧ cp 13 ∉ decoded ∧
        next.text = (takeLines (parser.text ++ decoded)).2 ∧
        (takeLines (parser.text ++ decoded)).1.foldlM (acceptLine settings) parser.transcript =
          .ok next.transcript := by
  unfold feedMore
  rw [then_ok_iff, demand_ok_iff]
  cases hdecode : decodeStateful (parser.buffer ++ data) with
  | none => simp [protocolError]
  | some r =>
    obtain ⟨decoded, buffer⟩ := r
    simp only [demand_ok_iff, bind_ok_iff, ← Bool.not_eq_true, occurs_iff]
    constructor
    · rintro ⟨hbytes, -, hcr, t, ht, hnext⟩
      cases hnext
      exact ⟨hbytes, rfl, decoded, rfl, hcr, rfl, ht⟩
    · rintro ⟨hbytes, hresponse, decoded', hdecoded, hcr, htext, ht⟩
      obtain ⟨rfl, rfl⟩ := Prod.mk.inj (Option.some.inj hdecoded)
      refine ⟨hbytes, (), hcr, next.transcript, ht, ?_⟩
      rw [← htext, ← hresponse]
      rfl

/-- Two pieces are one. -/
theorem feedMore_append (parser last : SSEParser) (data more : Bytes) :
    feedMore settings parser (data ++ more) = .ok last ↔
      ∃ next, feedMore settings parser data = .ok next ∧ feedMore settings next more = .ok last := by
  simp only [feedMore_ok_iff]
  rw [← List.append_assoc, decodeStateful_append, List.length_append]
  constructor
  · rintro ⟨hbytes, hresponse, decoded, hdecoded, hcr, htext, ht⟩
    unfold resume continued at hdecoded
    obtain ⟨⟨first, kept⟩, hfirst, hdecoded⟩ := Option.bind_eq_some_iff.mp hdecoded
    obtain ⟨⟨second, buffer⟩, hsecond, hdecoded⟩ := Option.map_eq_some_iff.mp hdecoded
    obtain ⟨rfl, rfl⟩ := Prod.mk.inj hdecoded
    rw [List.mem_append, not_or] at hcr
    rw [← List.append_assoc, takeLines_append] at htext ht
    rw [List.foldlM_append] at ht
    obtain ⟨t, hlines, hmore⟩ := bind_ok_iff.mp ht
    refine ⟨⟨kept, (takeLines (parser.text ++ first)).2, parser.responseBytes + data.length, t⟩, ?_, ?_⟩
    · exact ⟨by omega, rfl, first, hfirst, hcr.1, rfl, hlines⟩
    · refine ⟨?_, ?_, second, hsecond, hcr.2, htext, hmore⟩
      · show parser.responseBytes + data.length + more.length ≤ settings.maxResponseBytes
        omega
      · show last.responseBytes = parser.responseBytes + data.length + more.length
        omega
  · rintro ⟨next, ⟨hbytes, hresponse, first, hfirst, hcr, htext, hlines⟩, hbytes', hresponse', second, hsecond,
      hcr', htext', hmore⟩
    refine ⟨by omega, by omega, first ++ second, ?_, ?_, ?_, ?_⟩
    · rw [hfirst]
      simp [resume, continued, hsecond]
    · simp [hcr, hcr']
    · rw [← List.append_assoc, takeLines_append, ← htext]
      exact htext'
    · rw [← List.append_assoc, takeLines_append, ← htext, List.foldlM_append, hlines]
      exact hmore

/-! ## All pieces -/

/-- The pieces are one. -/
theorem foldlM_feedMore (parser last : SSEParser) (chunk : Bytes) (chunks : List Bytes) :
    (chunk :: chunks).foldlM (feedMore settings) parser = .ok last ↔
      feedMore settings parser (chunk :: chunks).flatten = .ok last := by
  induction chunks generalizing parser chunk with
  | nil => simp
  | cons next chunks ih =>
    rw [List.foldlM_cons, bind_ok_iff, List.flatten_cons, feedMore_append]
    exact exists_congr fun mid => and_congr_right fun _ => ih mid next

/-- A parser that is done, and holds bytes that came after. -/
def Overrun (parser : SSEParser) : Prop := parser.transcript.done = true ∧ (parser.buffer ≠ [] ∨ parser.text ≠ [])

theorem finish_overrun (parser : SSEParser) (h : Overrun parser) (r : ParsedChatCompletion) :
    finish settings parser ≠ .ok r := by
  obtain ⟨-, hleft⟩ := h
  intro hfinish
  unfold finish at hfinish
  simp only [then_ok_iff, demand_ok_iff] at hfinish
  obtain ⟨hbuffer, ⟨htext, -⟩, -⟩ := hfinish
  exact hleft.elim (absurd hbuffer) (absurd htext)

/-- A line after `[DONE]` is refused. -/
theorem acceptLines_done (t next : Transcript) (lines : List Str) (hdone : t.done = true)
    (h : lines.foldlM (acceptLine settings) t = .ok next) : lines = [] ∧ next = t := by
  cases lines with
  | nil =>
    cases h
    exact ⟨rfl, rfl⟩
  | cons line lines =>
    rw [List.foldlM_cons, bind_ok_iff] at h
    obtain ⟨mid, hmid, -⟩ := h
    unfold acceptLine at hmid
    rw [if_pos hdone] at hmid
    cases hmid

theorem feedMore_done (parser next : SSEParser) (data : Bytes) (hdata : data ≠ [])
    (hdone : parser.transcript.done = true) (h : feedMore settings parser data = .ok next) : Overrun next := by
  obtain ⟨-, -, decoded, hdecoded, -, htext, hlines⟩ := (feedMore_ok_iff settings parser next data).mp h
  obtain ⟨hnone, hkept⟩ := acceptLines_done settings _ _ _ hdone hlines
  refine ⟨hkept ▸ hdone, ?_⟩
  by_cases hempty : decoded = []
  · subst hempty
    have hbuffer := kept_of_no_text _ _ hdecoded
    left
    rw [hbuffer]
    simp [hdata]
  · right
    rw [htext]
    exact takeLines_left _ (by simp [hempty]) hnone

theorem foldlM_overrun (parser last : SSEParser) (chunks : List Bytes) (hchunks : ∀ chunk ∈ chunks, chunk ≠ [])
    (hover : Overrun parser) (h : chunks.foldlM (feedMore settings) parser = .ok last) : Overrun last := by
  induction chunks generalizing parser with
  | nil =>
    cases h
    exact hover
  | cons chunk chunks ih =>
    obtain ⟨hchunk, hchunks⟩ := List.forall_mem_cons.mp hchunks
    rw [List.foldlM_cons, bind_ok_iff] at h
    obtain ⟨next, hnext, h⟩ := h
    exact ih next hchunks (feedMore_done settings parser next chunk hchunk hover.1 hnext) h

/-- Where `feed` refuses what comes after `[DONE]`, `finish` refuses it. -/
theorem foldlM_feed (parser : SSEParser) (chunks : List Bytes) (hchunks : ∀ chunk ∈ chunks, chunk ≠ [])
    (r : ParsedChatCompletion) :
    (∃ last, chunks.foldlM (feed settings) parser = .ok last ∧ finish settings last = .ok r) ↔
      ∃ last, chunks.foldlM (feedMore settings) parser = .ok last ∧ finish settings last = .ok r := by
  induction chunks generalizing parser with
  | nil => simp
  | cons chunk chunks ih =>
    obtain ⟨hchunk, hchunks⟩ := List.forall_mem_cons.mp hchunks
    simp only [List.foldlM_cons]
    unfold feed
    rw [if_neg hchunk]
    by_cases hdone : parser.transcript.done = true
    · rw [if_pos hdone]
      constructor
      · rintro ⟨last, hlast, -⟩
        obtain ⟨next, hnext, -⟩ := bind_ok_iff.mp hlast
        cases hnext
      · rintro ⟨last, hlast, hfinish⟩
        obtain ⟨next, hnext, hlast⟩ := bind_ok_iff.mp hlast
        have hover := feedMore_done settings parser next chunk hchunk hdone hnext
        have hlast := foldlM_overrun settings next last chunks hchunks hover hlast
        exact absurd hfinish (finish_overrun settings last hlast r)
    · rw [if_neg hdone]
      cases hnext : feedMore settings parser chunk with
      | error e => simp [bind, Except.bind]
      | ok next => exact ih next hchunks

theorem parse_feedMore (chunk : Bytes) (chunks : List Bytes) (hchunks : ∀ c ∈ chunk :: chunks, c ≠ [])
    (r : ParsedChatCompletion) :
    parse settings (chunk :: chunks) = .ok r ↔
      ∃ last, feedMore settings .new (chunk :: chunks).flatten = .ok last ∧ finish settings last = .ok r := by
  unfold parse
  rw [bind_ok_iff, foldlM_feed settings .new (chunk :: chunks) hchunks r]
  exact exists_congr fun last => and_congr_left fun _ => foldlM_feedMore settings .new last chunk chunks

/-- The pieces parse to what the bytes in one parse to. -/
theorem parse_split (s : Bytes) (split : Split s) (r : ParsedChatCompletion) :
    parse settings split.chunks = .ok r ↔ parse settings [s] = .ok r := by
  obtain ⟨chunks, hchunks, rfl⟩ := split
  cases chunks with
  | nil => rfl
  | cons chunk chunks =>
    have hjoined : (chunk :: chunks).flatten ≠ [] := by
      simpa using fun hchunk => absurd hchunk (hchunks chunk (by simp))
    rw [parse_feedMore settings chunk chunks hchunks r, parse_feedMore settings _ [] (by simpa using hjoined) r]
    simp

/-- All the ways to cut a response raise, or all parse to what it parses to in one piece. -/
theorem parse_chunking_free (s : Bytes) :
    (∀ split : Split s, ∃ e, parse settings split.chunks = .error e) ∧ (∃ e, parse settings [s] = .error e) ∨
      ∃ r, (∀ split : Split s, parse settings split.chunks = .ok r) ∧ parse settings [s] = .ok r := by
  cases hone : parse settings [s] with
  | error e =>
    refine .inl ⟨fun split => ?_, e, rfl⟩
    cases hsplit : parse settings split.chunks with
    | error e => exact ⟨e, rfl⟩
    | ok r =>
      have hr := (parse_split settings s split r).mp hsplit
      rw [hone] at hr
      cases hr
  | ok r => exact .inr ⟨r, fun split => (parse_split settings s split r).mpr hone, rfl⟩

end Chunking

end TurnVector.CrossEngine.Sse
