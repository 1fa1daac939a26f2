import TurnVector.Authority.StagedGrammar

/-! # What the staged object parser accepts

The documented language is that of the grammar, with JSON whitespace around the object. The parser takes no whitespace
before the object, and after it whatever `str.strip` strips.
-/

namespace TurnVector.ContractJson

open Python Json Canonical

/-! ## The language -/

/-- The bytes are the lines of a text that holds an object, with the text before and after the object. -/
def Staged (raw : Bytes) (before : Str) (kvs : List (Str × Json)) (after : Str) : Prop :=
  ∃ body s, decodeUtf8 raw = some (body ++ [cp 10]) ∧ (body ++ [cp 10]).head? ≠ some (cp 0xFEFF) ∧ cp 13 ∉ body ∧
    body.getLast? ≠ some (cp 10) ∧ body = before ++ s ∧ Opens (.value (.obj kvs)) s after

/-- The documented language: an object with JSON whitespace around it. -/
def InLanguage (raw : Bytes) (kvs : List (Str × Json)) : Prop :=
  ∃ before after, Staged raw before kvs after ∧ (∀ c ∈ before, isWs c = true) ∧ ∀ c ∈ after, isWs c = true

/-- Whitespace where the parser is too strict, or a space that it takes and JSON has not. -/
inductive Misplaced (raw : Bytes) : Prop
  | before (w : Str) (kvs : List (Str × Json)) (after : Str) (h : Staged raw w kvs after) (hne : w ≠ [])
      (hw : ∀ c ∈ w, isWs c = true) (hafter : ∀ c ∈ after, isWs c = true)
  | after (kvs : List (Str × Json)) (after : Str) (h : Staged raw [] kvs after) (hafter : ∀ c ∈ after, isSpace c = true)
      (hother : ∃ c ∈ after, isWs c = false)

/-! ## Acceptance -/

theorem isSpace_of_isWs (c : CodePoint) (h : isWs c = true) : isSpace c = true := by
  simp only [isWs, isSpace, Bool.or_eq_true, Bool.and_eq_true, beq_iff_eq, decide_eq_true_eq] at h ⊢
  omega

theorem ends_of_spaces {s : Str} (h : ∀ c ∈ s, isSpace c = true) : Ends s := by
  cases s with
  | nil => exact ends_nil
  | cons c s =>
    have hc := h c (by simp)
    simp only [isSpace, Bool.or_eq_true, Bool.and_eq_true, beq_iff_eq, decide_eq_true_eq] at hc
    refine ends_cons c s ?_ (by omega)
    simp only [isDigit, Bool.and_eq_false_iff, decide_eq_false_iff_not]
    omega

theorem scanned_spaces {what s : Str} (h : ∀ c ∈ s, isSpace c = true) : Scanned what s := by
  have hno : ∀ c ∈ s, c.val ≠ 34 := by
    intro c hc
    have hc := h c hc
    simp only [isSpace, Bool.or_eq_true, Bool.and_eq_true, beq_iff_eq, decide_eq_true_eq] at hc
    omega
  have hnil := (@scanned_append what s [] hno).mpr rfl
  rwa [List.append_nil] at hnil

/-- The decoder reads a text of the grammar. -/
theorem rawDecode_opens {v : Json} {s rest : Str} (h : Opens (.value v) s rest) (hr : Ends rest) :
    rawDecode hooks s = .ok (v, rest) := reading_of_opens h hr _ (by omega)

/-- The parser accepts exactly an object at the start, and only spaces after it. -/
theorem parse_ok_iff (raw : Bytes) (what : Str) (parsed : ParsedJson) : parseJsonObject raw what = .ok parsed ↔
    (∃ after, Staged raw [] parsed.root after ∧ ∀ c ∈ after, isSpace c = true) ∧
      parsed.duplicateKeys = collectDuplicates [] (.obj parsed.root) := by
  constructor
  · intro h
    unfold parseJsonObject at h
    dsimp only at h
    split at h
    · cases h
    rename_i text htext
    split at h
    · cases h
    rename_i hbom
    split at h
    · cases h
    rename_i hcr
    split at h
    · cases h
    rename_i hlast
    split at h
    · cases h
    rename_i hblank
    rw [not_not] at hlast
    obtain ⟨body, rfl⟩ := List.getLast?_eq_some_iff.mp hlast
    rw [List.dropLast_concat] at h hblank
    obtain ⟨_, hscanned, h⟩ := bind_ok_iff.mp h
    split at h
    · cases h
    · cases h
    rename_i root rest hdecode
    split at h
    · cases h
    rename_i hspaces
    split at h
    · split at h
      · cases h
      · rename_i hpaired
        cases h
        rw [not_not, List.all_eq_true] at hspaces
        rw [occurs_iff, List.mem_append, not_or] at hcr
        obtain ⟨hopens, -⟩ := (scan_opens _).1 body _ rest hdecode hscanned (Bool.eq_false_iff.mpr hpaired)
        exact ⟨⟨rest, ⟨body, body, htext, hbom, hcr.1, hblank, rfl, hopens⟩, hspaces⟩, rfl⟩
    · cases h
  · rintro ⟨⟨after, ⟨body, s, htext, hbom, hcr, hblank, rfl, hopens⟩, hspaces⟩, hduplicates⟩
    have hcr' : ¬occurs (cp 13) (body ++ [cp 10]) = true := by
      rw [occurs_iff, List.mem_append, not_or]
      exact ⟨hcr, by decide⟩
    have hscanned : validateStringTokens what 0 body = .ok () := (scanned_of_opens hopens).mpr (scanned_spaces hspaces)
    have hdecode := rawDecode_opens hopens (ends_of_spaces hspaces)
    have hpaired : anySurrogate (.obj parsed.root) = false := paired_of_opens hopens
    obtain ⟨root, duplicates⟩ := parsed
    obtain rfl : duplicates = collectDuplicates [] (.obj root) := hduplicates
    simp only [parseJsonObject, htext, if_neg hbom, if_neg hcr', List.getLast?_concat, List.dropLast_concat, ne_eq,
      not_true, if_false, if_neg hblank, hscanned, hdecode, List.all_eq_true.mpr hspaces, bind, Except.bind, hpaired]
    simp

theorem accepts_staged {raw : Bytes} {kvs : List (Str × Json)} {after : Str} (h : Staged raw [] kvs after)
    (hafter : ∀ c ∈ after, isSpace c = true) (what : Str) : ∃ parsed, parseJsonObject raw what = .ok parsed :=
  ⟨⟨kvs, collectDuplicates [] (.obj kvs)⟩, (parse_ok_iff raw what _).mpr ⟨⟨after, h, hafter⟩, rfl⟩⟩

/-! ## The documented language -/

/-- Two readings of an object at the start of a text are the same. -/
theorem opens_unique {v v' : Json} {s rest rest' : Str} (h : Opens (.value v) s rest) (hr : Ends rest)
    (h' : Opens (.value v') s rest') (hr' : Ends rest') : v = v' ∧ rest = rest' := by
  have := (rawDecode_opens h hr).symm.trans (rawDecode_opens h' hr')
  simpa using this

theorem spaces_of_ws {s : Str} (h : ∀ c ∈ s, isWs c = true) : ∀ c ∈ s, isSpace c = true :=
  fun c hc => isSpace_of_isWs c (h c hc)

/-- An object at the start of a text leaves no room for whitespace before it. -/
theorem staged_before {raw : Bytes} {kvs kvs' : List (Str × Json)} {before after after' : Str}
    (h : Staged raw [] kvs after) (h' : Staged raw before kvs' after') (hbefore : ∀ c ∈ before, isWs c = true) :
    before = [] := by
  obtain ⟨body, s, htext, -, -, -, rfl, hopens⟩ := h
  obtain ⟨body', s', htext', -, -, -, rfl, -⟩ := h'
  have hbody := List.append_cancel_right (Option.some_inj.mp (htext.symm.trans htext'))
  obtain ⟨c, t, rfl, hhead⟩ := opens_head hopens
  cases before with
  | nil => rfl
  | cons d before =>
    obtain rfl : c = d := (List.cons.inj hbody).1
    exact absurd (hbefore c (by simp)) (by simp [hhead.1])

/-- What follows an object at the start of a text, and its members, are determined. -/
theorem staged_unique {raw : Bytes} {kvs kvs' : List (Str × Json)} {after after' : Str} (h : Staged raw [] kvs after)
    (hafter : ∀ c ∈ after, isSpace c = true) (h' : Staged raw [] kvs' after') (hafter' : ∀ c ∈ after', isSpace c = true) :
    kvs = kvs' ∧ after = after' := by
  obtain ⟨body, s, htext, -, -, -, rfl, hopens⟩ := h
  obtain ⟨body', s', htext', -, -, -, rfl, hopens'⟩ := h'
  obtain rfl := List.append_cancel_right (Option.some_inj.mp (htext.symm.trans htext'))
  obtain ⟨hvalue, hrest⟩ := opens_unique hopens (ends_of_spaces hafter) hopens' (ends_of_spaces hafter')
  exact ⟨Json.obj.inj hvalue, hrest⟩

/-- The parser agrees with the documented language on a text exactly when no whitespace is misplaced in it, and what it
returns is what the text holds. -/
theorem staged_language_iff (raw : Bytes) (what : Str) :
    (((∃ parsed, parseJsonObject raw what = .ok parsed) ↔ ∃ kvs, InLanguage raw kvs) ↔ ¬Misplaced raw) ∧
    ∀ parsed, parseJsonObject raw what = .ok parsed →
      (∃ after, Staged raw [] parsed.root after) ∧ ∀ kvs, InLanguage raw kvs → kvs = parsed.root := by
  constructor
  · constructor
    · rintro hiff hmisplaced
      cases hmisplaced with
      | before w kvs after h hne hw hafter =>
        obtain ⟨parsed, hparsed⟩ := hiff.mpr ⟨kvs, w, after, h, hw, hafter⟩
        obtain ⟨⟨after', hstaged, -⟩, -⟩ := (parse_ok_iff raw what parsed).mp hparsed
        exact hne (staged_before hstaged h hw)
      | after kvs after h hafter hother =>
        obtain ⟨kvs', before, after', h', hbefore, hafter'⟩ := hiff.mp (accepts_staged h hafter what)
        obtain rfl := staged_before h h' hbefore
        obtain ⟨-, rfl⟩ := staged_unique h hafter h' (spaces_of_ws hafter')
        obtain ⟨c, hc, hspace⟩ := hother
        exact absurd (hafter' c hc) (by simp [hspace])
    · intro hmisplaced
      constructor
      · rintro ⟨parsed, hparsed⟩
        obtain ⟨⟨after, hstaged, hafter⟩, -⟩ := (parse_ok_iff raw what parsed).mp hparsed
        refine ⟨parsed.root, [], after, hstaged, by simp, fun c hc => ?_⟩
        by_contra hspace
        exact hmisplaced (.after _ after hstaged hafter ⟨c, hc, Bool.eq_false_iff.mpr hspace⟩)
      · rintro ⟨kvs, before, after, hstaged, hbefore, hafter⟩
        by_cases hempty : before = []
        · subst hempty
          exact accepts_staged hstaged (spaces_of_ws hafter) what
        · exact absurd (.before before kvs after hstaged hempty hbefore hafter) hmisplaced
  · intro parsed hparsed
    obtain ⟨⟨after, hstaged, hafter⟩, -⟩ := (parse_ok_iff raw what parsed).mp hparsed
    refine ⟨⟨after, hstaged⟩, ?_⟩
    rintro kvs ⟨before, after', hstaged', hbefore, hafter'⟩
    obtain rfl := staged_before hstaged hstaged' hbefore
    exact (staged_unique hstaged' (spaces_of_ws hafter') hstaged hafter).1

/-- An object that names a key twice, and holds an array. -/
def sampleObject : Bytes := [123, 34, 97, 34, 58, 49, 44, 34, 97, 34, 58, 91, 110, 117, 108, 108, 93, 125, 10].map byte

theorem staged_language_sample : ∃ parsed, parseJsonObject sampleObject (lit "sample") = .ok parsed ∧
    (∃ after, Staged sampleObject [] parsed.root after) ∧ ∀ kvs, InLanguage sampleObject kvs → kvs = parsed.root := by
  obtain ⟨parsed, hparsed⟩ := ok_of_isSome (parseJsonObject sampleObject (lit "sample")) (by decide +kernel)
  exact ⟨parsed, hparsed, (staged_language_iff sampleObject (lit "sample")).2 parsed hparsed⟩

/-- A space and an empty object. -/
def spaceBefore : Bytes := [32, 123, 125, 10].map byte

/-- An empty object and a no-break space. -/
def spaceAfter : Bytes := [123, 125, 0xC2, 0xA0, 10].map byte

theorem spaceAfter_staged : Staged spaceAfter [] [] [cp 0xA0] :=
  ⟨[cp 123, cp 125, cp 0xA0], _, by decide +kernel, by decide, by decide, by decide, rfl, .emptyObj ⟨[], by simp, rfl⟩⟩

/-- The parser refuses whitespace before an object, and takes a space that JSON has not after it. -/
theorem misplaced_spaces :
    ((∃ kvs, InLanguage spaceBefore kvs) ∧ ∀ what, ¬∃ parsed, parseJsonObject spaceBefore what = .ok parsed) ∧
    (∀ what, ∃ parsed, parseJsonObject spaceAfter what = .ok parsed) ∧ ¬∃ kvs, InLanguage spaceAfter kvs := by
  have hbefore : Staged spaceBefore [cp 32] [] [] :=
    ⟨[cp 32, cp 123, cp 125], _, by decide +kernel, by decide, by decide, by decide, rfl, .emptyObj ⟨[], by simp, rfl⟩⟩
  have hafter : ∀ c ∈ [cp 0xA0], isSpace c = true := List.forall_mem_singleton.mpr (by decide)
  have hspace : ∀ c ∈ [cp 32], isWs c = true := List.forall_mem_singleton.mpr (by decide)
  refine ⟨⟨⟨[], [cp 32], [], hbefore, hspace, by simp⟩, ?_⟩, accepts_staged spaceAfter_staged hafter, ?_⟩
  · rintro what ⟨parsed, hparsed⟩
    obtain ⟨⟨after, hstaged, -⟩, -⟩ := (parse_ok_iff spaceBefore what parsed).mp hparsed
    exact absurd (staged_before hstaged hbefore hspace) (by simp)
  · rintro ⟨kvs, before, after, hstaged, hbefore', hafter'⟩
    obtain rfl := staged_before spaceAfter_staged hstaged hbefore'
    obtain ⟨-, rfl⟩ := staged_unique spaceAfter_staged hafter hstaged (spaces_of_ws hafter')
    exact absurd (hafter' (cp 0xA0) (by simp)) (by decide)

end TurnVector.ContractJson
