import TurnVector.Authority.Readers
import TurnVector.Python.JsonScan

/-! # The grammar of staged objects

JSON texts with integers only, whose string tokens are spelled as `json.dumps` spells them. The scanner of the staged
reader, on a text whose tokens have passed, reads exactly these.
-/

namespace TurnVector.ContractJson

open Python Json Canonical

/-! ## The grammar -/

/-- The text opens with a run of JSON whitespace. -/
def Ws (s rest : Str) : Prop := ∃ w, (∀ c ∈ w, isWs c = true) ∧ s = w ++ rest

/-- The digits of a number, without leading zeros. -/
inductive Whole : Str → Prop
  | zero : Whole [cp 48]
  | digits (d : CodePoint) (ds : Str) (hd : d.val ≠ 48) (hds : ∀ c ∈ d :: ds, isDigit c = true) : Whole (d :: ds)

inductive Integer : Str → Int → Prop
  | plain (ds : Str) (h : Whole ds) : Integer ds (natOf ds)
  | minus (ds : Str) (h : Whole ds) : Integer (cp 45 :: ds) (-(natOf ds : Int))

/-- What a piece of a text stands for. Items and members are those up to the closing bracket, which they take. -/
inductive Phrase where
  | value (v : Json)
  | items (xs : List Json)
  | members (kvs : List (Str × Json))

/-- The text opens with the phrase, and what is left of it. -/
inductive Opens : Phrase → Str → Str → Prop
  | null (rest : Str) : Opens (.value .null) (lit "null" ++ rest) rest
  | true (rest : Str) : Opens (.value (.bool true)) (lit "true" ++ rest) rest
  | false (rest : Str) : Opens (.value (.bool false)) (lit "false" ++ rest) rest
  | int {t : Str} {n : Int} (rest : Str) (h : Integer t n) : Opens (.value (.int n)) (t ++ rest) rest
  | str (s rest : Str) (h : hasSurrogate s = false) : Opens (.value (.str s)) (quote s ++ rest) rest
  | emptyArr {s rest : Str} (h : Ws s (cp 93 :: rest)) : Opens (.value (.arr [])) (cp 91 :: s) rest
  | arr {xs : List Json} {s t rest : Str} (h : Ws s t) (hxs : Opens (.items xs) t rest) :
      Opens (.value (.arr xs)) (cp 91 :: s) rest
  | emptyObj {s rest : Str} (h : Ws s (cp 125 :: rest)) : Opens (.value (.obj [])) (cp 123 :: s) rest
  | obj {kvs : List (Str × Json)} {s t rest : Str} (h : Ws s t) (hkvs : Opens (.members kvs) t rest) :
      Opens (.value (.obj kvs)) (cp 123 :: s) rest
  | lastItem {v : Json} {s t rest : Str} (hv : Opens (.value v) s t) (h : Ws t (cp 93 :: rest)) :
      Opens (.items [v]) s rest
  | item {v : Json} {vs : List Json} {s t u u' rest : Str} (hv : Opens (.value v) s t) (h : Ws t (cp 44 :: u))
      (hu : Ws u u') (hvs : Opens (.items vs) u' rest) : Opens (.items (v :: vs)) s rest
  | lastMember {k : Str} {v : Json} {s t t' u rest : Str} (hk : hasSurrogate k = false) (h : Ws s (cp 58 :: t))
      (ht : Ws t t') (hv : Opens (.value v) t' u) (hu : Ws u (cp 125 :: rest)) :
      Opens (.members [(k, v)]) (quote k ++ s) rest
  | member {k : Str} {v : Json} {kvs : List (Str × Json)} {s t t' u w w' rest : Str} (hk : hasSurrogate k = false)
      (h : Ws s (cp 58 :: t)) (ht : Ws t t') (hv : Opens (.value v) t' u) (hu : Ws u (cp 44 :: w)) (hw : Ws w w')
      (hkvs : Opens (.members kvs) w' rest) : Opens (.members ((k, v) :: kvs)) (quote k ++ s) rest

/-! ## Whitespace -/

theorem ws_skipWs (s : Str) : Ws s (skipWs s) :=
  ⟨s.takeWhile isWs, fun _ hc => List.mem_takeWhile_imp hc, (List.takeWhile_append_dropWhile).symm⟩

theorem ws_of_skipWs {s rest : Str} (h : skipWs s = rest) : Ws s rest := h ▸ ws_skipWs s

/-- The scanner takes the whole run. -/
theorem skipWs_of_ws {s rest : Str} {c : CodePoint} (h : Ws s (c :: rest)) (hc : isWs c = false) :
    skipWs s = c :: rest := by
  obtain ⟨w, hw, rfl⟩ := h
  rw [skipWs, List.dropWhile_append_of_pos hw, List.dropWhile_cons_of_neg (by simp [hc])]

theorem length_of_ws {s rest : Str} (h : Ws s rest) : rest.length ≤ s.length := by
  obtain ⟨w, -, rfl⟩ := h
  rw [List.length_append]
  omega

theorem quote_ne_ws (c : CodePoint) (h : isWs c = true) : c.val ≠ 34 := by
  simp only [isWs, Bool.or_eq_true, beq_iff_eq] at h
  omega

/-! ## The token scan -/

variable {what : Str}

/-- The token scan accepts the text. -/
def Scanned (what s : Str) : Prop := validateStringTokens what 0 s = .ok ()

theorem scanned_append {t rest : Str} (ht : ∀ c ∈ t, c.val ≠ 34) : Scanned what (t ++ rest) ↔ Scanned what rest := by
  rw [Scanned, passes_of_no_quote what t ht rest, Scanned]

theorem no_quote {t : Str} (h : t.all (·.val ≠ 34) = true) : ∀ c ∈ t, c.val ≠ 34 := by
  simpa only [List.all_eq_true, decide_eq_true_eq] using h

theorem scanned_cons {c : CodePoint} {s : Str} (hc : c.val ≠ 34) : Scanned what (c :: s) ↔ Scanned what s := by
  rw [Scanned, validateStringTokens, if_neg (by simp), if_pos hc, Scanned]

theorem scanned_quote {s rest : Str} (hs : hasSurrogate s = false) :
    Scanned what (quote s ++ rest) ↔ Scanned what rest := by rw [Scanned, passes_quote what s hs rest, Scanned]

theorem scanned_ws {s rest : Str} (h : Ws s rest) : Scanned what s ↔ Scanned what rest := by
  obtain ⟨w, hw, rfl⟩ := h
  exact scanned_append fun c hc => quote_ne_ws c (hw c hc)

/-- A string token that the scan accepts is spelled as `json.dumps` spells it. -/
theorem scanned_string {s decoded rest : Str} (h : Scanned what (cp 34 :: s))
    (hs : scanString (ε := Str) s = .ok (decoded, rest)) : cp 34 :: s = quote decoded ++ rest ∧ Scanned what rest := by
  obtain ⟨hsuffix, hread⟩ := scanString_suffix (δ := Exc) hs
  rw [Scanned, validateStringTokens, if_neg (by simp), if_neg (by decide), hread] at h
  dsimp only at h
  split at h
  · cases h
  · rename_i htoken
    rw [not_not] at htoken
    have htext : cp 34 :: s = quote decoded ++ rest := by
      obtain ⟨token, htext⟩ := hsuffix.trans (List.suffix_cons (cp 34) s)
      rw [← htext, List.length_append, Nat.add_sub_cancel, List.take_left] at htoken
      rw [← htext, htoken]
    have htail : s = decoded.flatMap escapeChar ++ [cp 34] ++ rest := (List.cons.inj htext).2
    refine ⟨htext, ?_⟩
    rw [htoken, quote, List.cons_append, List.length_cons, Nat.add_sub_cancel, htail, validate_skip] at h
    exact h

/-! ## Scalars -/

/-- The hooks refuse every float and every constant. -/
theorem onFloat_error (token : Str) : ∃ e, hooks.onFloat token = .error e := ⟨_, rfl⟩

theorem scanFraction_nil {s rest : Str} (h : scanFraction s = ([], rest)) : rest = s := by
  unfold scanFraction at h
  split at h
  · split at h
    · simp at h
    · cases h
      rfl
  · cases h
    rfl

theorem scanExponent_nil {s rest : Str} (h : scanExponent s = ([], rest)) : rest = s := by
  unfold scanExponent at h
  split at h
  · split at h
    · dsimp only at h
      split at h
      · cases h
        rfl
      · simp at h
    · cases h
      rfl
  · cases h
    rfl

/-- A number without a fraction and an exponent. -/
theorem scanNumber_integer {negative : Bool} {s rest : Str} {v : Json}
    (h : scanNumber hooks negative s = .ok (v, rest)) :
    ∃ ds, Whole ds ∧ s = ds ++ rest ∧ v = .int (if negative then -(natOf ds : Int) else natOf ds) := by
  cases s with
  | nil => cases h
  | cons d s =>
    rw [scanNumber] at h
    by_cases hd : isDigit d = true
    case neg =>
      rw [if_neg hd] at h
      cases h
    rw [if_pos hd] at h
    generalize hwhole : (if d.val = 48 then [d] else (d :: s).takeWhile isDigit) = whole at h
    generalize hleft : (if d.val = 48 then s else (d :: s).dropWhile isDigit) = left at h
    obtain ⟨fraction, left', hfraction⟩ : ∃ a b, scanFraction left = (a, b) := ⟨_, _, rfl⟩
    obtain ⟨exponent, left'', hexponent⟩ : ∃ a b, scanExponent left' = (a, b) := ⟨_, _, rfl⟩
    simp only [hfraction, hexponent] at h
    split at h
    · rename_i hplain
      simp only [Bool.and_eq_true, List.isEmpty_iff] at hplain
      obtain ⟨rfl, rfl⟩ := hplain
      obtain rfl := scanFraction_nil hfraction
      obtain rfl := scanExponent_nil hexponent
      cases h
      refine ⟨whole, ?_, ?_, rfl⟩
      · by_cases hzero : d.val = 48
        · rw [← hwhole, if_pos hzero, ← cp_eq d, hzero]
          exact .zero
        · rw [← hwhole, if_neg hzero, List.takeWhile_cons_of_pos hd]
          exact .digits d _ hzero (List.forall_mem_cons.mpr ⟨hd, fun _ hc => List.mem_takeWhile_imp hc⟩)
      · by_cases hzero : d.val = 48
        · rw [← hwhole, ← hleft, if_pos hzero, if_pos hzero, List.singleton_append]
        · rw [← hwhole, ← hleft, if_neg hzero, if_neg hzero, List.takeWhile_append_dropWhile]
    · cases h

theorem whole_no_quote {ds : Str} (h : Whole ds) : ∀ c ∈ ds, c.val ≠ 34 := by
  cases h with
  | zero => exact no_quote (by decide)
  | digits d ds _ hds =>
    intro c hc
    have := (isDigit_iff c).mp (hds c hc)
    omega

theorem scanScalar_opens {s rest : Str} {v : Json} (h : scanScalar hooks s = .ok (v, rest))
    (hs : Scanned what s) : Opens (.value v) s rest ∧ Scanned what rest := by
  rw [scanScalar.eq_def] at h
  split at h
  · rename_i hstart
    obtain ⟨left, rfl⟩ := hstart
    rw [List.drop_left' (by decide)] at h
    cases h
    exact ⟨.null _, (scanned_append (no_quote (by decide))).mp hs⟩
  split at h
  · rename_i hstart
    obtain ⟨left, rfl⟩ := hstart
    rw [List.drop_left' (by decide)] at h
    cases h
    exact ⟨.true _, (scanned_append (no_quote (by decide))).mp hs⟩
  split at h
  · rename_i hstart
    obtain ⟨left, rfl⟩ := hstart
    rw [List.drop_left' (by decide)] at h
    cases h
    exact ⟨.false _, (scanned_append (no_quote (by decide))).mp hs⟩
  split at h
  · cases h
  split at h
  · cases h
  split at h
  · cases h
  cases s with
  | nil => cases h
  | cons c s =>
    simp only at h
    split at h
    · rename_i hminus
      obtain ⟨ds, hwhole, rfl, rfl⟩ := scanNumber_integer h
      obtain rfl : c = cp 45 := by rw [← hminus, cp_eq]
      have hno : ∀ x ∈ cp 45 :: ds, x.val ≠ 34 := List.forall_mem_cons.mpr ⟨by decide, whole_no_quote hwhole⟩
      exact ⟨.int rest (.minus ds hwhole), (scanned_append hno).mp hs⟩
    · obtain ⟨ds, hwhole, hds, rfl⟩ := scanNumber_integer h
      rw [hds] at hs ⊢
      exact ⟨.int rest (.plain ds hwhole), (scanned_append (whole_no_quote hwhole)).mp hs⟩

/-! ## What the scanner reads is of the grammar -/

theorem skipWs_cons_ws {s t : Str} {c : CodePoint} (h : skipWs s = c :: t) {n : Nat} (hc : c.val = n)
    (hn : n < 0x110000) : Ws s (cp n :: t) := by
  obtain rfl : c = cp n := by rw [← hc, cp_eq]
  exact ws_of_skipWs h

theorem scan_opens (n : Nat) :
    (∀ s v rest, scanOnce hooks n s = .ok (v, rest) → Scanned what s → anySurrogate v = false →
      Opens (.value v) s rest ∧ Scanned what rest) ∧
    (∀ s xs rest, scanItems hooks n s = .ok (xs, rest) → Scanned what s → anySurrogateItems xs = false →
      Opens (.items xs) s rest ∧ Scanned what rest) ∧
    (∀ s kvs rest, scanMembers hooks n s = .ok (kvs, rest) → Scanned what s → anySurrogateMembers kvs = false →
      Opens (.members kvs) s rest ∧ Scanned what rest) := by
  induction n with
  | zero => exact ⟨by simp [scanOnce], by simp [scanItems], by simp [scanMembers]⟩
  | succ n ih =>
    obtain ⟨ihOnce, ihItems, ihMembers⟩ := ih
    refine ⟨?_, ?_, ?_⟩
    · intro s v rest h hs hv
      cases s with
      | nil => cases h
      | cons c s =>
        rw [scanOnce] at h
        split at h
        · rename_i hquote
          obtain rfl : c = cp 34 := by rw [← hquote, cp_eq]
          obtain ⟨⟨decoded, rest'⟩, hdecoded, hr⟩ := map_ok h
          cases hr
          obtain ⟨htext, hrest⟩ := scanned_string hs hdecoded
          rw [htext]
          exact ⟨.str decoded _ hv, hrest⟩
        split at h
        · rename_i hopen
          obtain rfl : c = cp 91 := by rw [← hopen, cp_eq]
          have hscanned := (scanned_cons (by decide)).mp hs
          split at h
          · cases h
          rename_i d s' hskip
          split at h
          · rename_i hclose
            cases h
            have hws := skipWs_cons_ws hskip hclose (by decide)
            exact ⟨.emptyArr hws, (scanned_cons (by decide)).mp ((scanned_ws hws).mp hscanned)⟩
          · obtain ⟨⟨xs, rest'⟩, hxs, hr⟩ := map_ok h
            cases hr
            have hws := ws_of_skipWs hskip
            obtain ⟨hitems, hrest⟩ := ihItems _ _ _ hxs ((scanned_ws hws).mp hscanned) hv
            exact ⟨.arr hws hitems, hrest⟩
        split at h
        · rename_i hopen
          obtain rfl : c = cp 123 := by rw [← hopen, cp_eq]
          have hscanned := (scanned_cons (by decide)).mp hs
          split at h
          · cases h
          rename_i d s' hskip
          split at h
          · rename_i hclose
            cases h
            have hws := skipWs_cons_ws hskip hclose (by decide)
            exact ⟨.emptyObj hws, (scanned_cons (by decide)).mp ((scanned_ws hws).mp hscanned)⟩
          · obtain ⟨⟨kvs, rest'⟩, hkvs, hr⟩ := bind_ok h
            cases hr
            have hws := ws_of_skipWs hskip
            obtain ⟨hmembers, hrest⟩ := ihMembers _ _ _ hkvs ((scanned_ws hws).mp hscanned) hv
            exact ⟨.obj hws hmembers, hrest⟩
        · exact scanScalar_opens h hs
    · intro s xs rest h hs hxs
      rw [scanItems] at h
      obtain ⟨⟨v, t⟩, hv, h⟩ := bind_ok h
      dsimp only at h
      split at h
      · cases h
      rename_i c u hskip
      split at h
      · rename_i hclose
        cases h
        have hws := skipWs_cons_ws hskip hclose (by decide)
        simp only [anySurrogateItems, Bool.or_false] at hxs
        obtain ⟨hvalue, ht⟩ := ihOnce _ _ _ hv hs hxs
        exact ⟨.lastItem hvalue hws, (scanned_cons (by decide)).mp ((scanned_ws hws).mp ht)⟩
      split at h
      · rename_i hcomma
        obtain ⟨⟨vs, rest'⟩, hvs, hr⟩ := map_ok h
        cases hr
        simp only [anySurrogateItems, Bool.or_eq_false_iff] at hxs
        have hws := skipWs_cons_ws hskip hcomma (by decide)
        obtain ⟨hvalue, ht⟩ := ihOnce _ _ _ hv hs hxs.1
        have hu := (scanned_cons (by decide)).mp ((scanned_ws hws).mp ht)
        obtain ⟨hitems, hrest⟩ := ihItems _ _ _ hvs ((scanned_ws (ws_skipWs u)).mp hu) hxs.2
        exact ⟨.item hvalue hws (ws_skipWs u) hitems, hrest⟩
      · cases h
    · intro s kvs rest h hs hkvs
      cases s with
      | nil => cases h
      | cons q s =>
        rw [scanMembers] at h
        split at h
        case isFalse => cases h
        rename_i hquote
        obtain rfl : q = cp 34 := by rw [← hquote, cp_eq]
        obtain ⟨⟨k, t⟩, hk, h⟩ := bind_ok h
        obtain ⟨htext, ht⟩ := scanned_string hs hk
        rw [htext]
        dsimp only at h
        split at h
        · cases h
        rename_i c u hskip
        split at h
        case isFalse => cases h
        rename_i hcolon
        have hws := skipWs_cons_ws hskip hcolon (by decide)
        have hu := (scanned_cons (by decide)).mp ((scanned_ws hws).mp ht)
        obtain ⟨⟨v, w⟩, hv, h⟩ := bind_ok h
        have hscan := (scanned_ws (ws_skipWs u)).mp hu
        dsimp only at h
        split at h
        · cases h
        rename_i d w' hskip'
        split at h
        · rename_i hclose
          cases h
          simp only [anySurrogateMembers, Bool.or_false, Bool.or_eq_false_iff] at hkvs
          have hend := skipWs_cons_ws hskip' hclose (by decide)
          obtain ⟨hvalue, hw⟩ := ihOnce _ _ _ hv hscan hkvs.2
          exact ⟨.lastMember hkvs.1 hws (ws_skipWs u) hvalue hend,
            (scanned_cons (by decide)).mp ((scanned_ws hend).mp hw)⟩
        split at h
        · rename_i hcomma
          obtain ⟨⟨kvs', rest'⟩, hkvs', hr⟩ := map_ok h
          cases hr
          simp only [anySurrogateMembers, Bool.or_eq_false_iff] at hkvs
          have hend := skipWs_cons_ws hskip' hcomma (by decide)
          obtain ⟨hvalue, hw⟩ := ihOnce _ _ _ hv hscan hkvs.1.2
          have hnext := (scanned_cons (by decide)).mp ((scanned_ws hend).mp hw)
          obtain ⟨hmembers, hrest⟩ := ihMembers _ _ _ hkvs' ((scanned_ws (ws_skipWs w')).mp hnext) hkvs.2
          exact ⟨.member hkvs.1.1 hws (ws_skipWs u) hvalue hend (ws_skipWs w') hmembers, hrest⟩
        · cases h

/-! ## What is of the grammar is read -/

theorem whole_ne_nil {ds : Str} (h : Whole ds) : ∃ d ds', ds = d :: ds' ∧ isDigit d = true := by
  cases h with
  | zero => exact ⟨cp 48, [], rfl, by decide⟩
  | digits d ds _ hds => exact ⟨d, ds, rfl, hds d (by simp)⟩

theorem scanNumber_whole {negative : Bool} {ds rest : Str} (h : Whole ds) (hr : Ends rest) :
    scanNumber hooks negative (ds ++ rest) = .ok (.int (if negative then -(natOf ds : Int) else natOf ds), rest) := by
  cases h with
  | zero =>
    rw [List.singleton_append, scanNumber, if_pos (by decide)]
    simp [cp_val 48 (by decide), scanFraction_ends rest hr, scanExponent_ends rest hr]
  | digits d ds hd hds =>
    obtain ⟨htake, hdrop⟩ := takeWhile_digits (d :: ds) rest hds hr
    rw [List.cons_append] at htake hdrop ⊢
    rw [scanNumber, if_pos (hds d (by simp))]
    simp [hd, htake, hdrop, scanFraction_ends rest hr, scanExponent_ends rest hr]

theorem scanScalar_integer {t rest : Str} {n : Int} (h : Integer t n) (hr : Ends rest) :
    scanScalar hooks (t ++ rest) = .ok (.int n, rest) := by
  cases h with
  | plain ds hds =>
    obtain ⟨d, ds', rfl, hd⟩ := whole_ne_nil hds
    rw [List.cons_append, scanScalar_digit hooks d _ hd, ← List.cons_append, scanNumber_whole hds hr]
    rfl
  | minus ds hds =>
    obtain ⟨d, ds', rfl, hd⟩ := whole_ne_nil hds
    rw [List.cons_append, List.cons_append, scanScalar_minus hooks d _ hd, ← List.cons_append, scanNumber_whole hds hr]
    rfl

/-- What can follow a value of an object or an array. -/
theorem ends_of_ws {s rest : Str} {c : CodePoint} (h : Ws s (c :: rest)) (hc : Ends (c :: rest)) : Ends s := by
  obtain ⟨w, hw, rfl⟩ := h
  cases w with
  | nil => exact hc
  | cons d w =>
    have hd := hw d (by simp)
    simp only [isWs, Bool.or_eq_true, beq_iff_eq] at hd
    refine ends_cons d _ ?_ (by omega)
    simp only [isDigit, Bool.and_eq_false_iff, decide_eq_false_iff_not]
    omega

/-- The first character of a phrase. -/
def PhraseHead : Phrase → CodePoint → Prop
  | .value _, c => valueHead c
  | .items _, c => valueHead c
  | .members _, c => c.val = 34

theorem opens_head {p : Phrase} {s rest : Str} (h : Opens p s rest) : ∃ c t, s = c :: t ∧ PhraseHead p c := by
  have head : ∀ (a : CodePoint) (u : Str), isWs a = false ∧ a.val ≠ 93 → ∃ c t, a :: u = c :: t ∧ valueHead c :=
    fun a u ha => ⟨a, u, rfl, ha⟩
  induction h with
  | null rest => rw [lit_null]; exact head _ _ (by decide)
  | true rest => rw [lit_true]; exact head _ _ (by decide)
  | false rest => rw [lit_false]; exact head _ _ (by decide)
  | int rest h =>
    cases h with
    | plain ds hds =>
      obtain ⟨d, ds', rfl, hd⟩ := whole_ne_nil hds
      have := (isDigit_iff d).mp hd
      refine head _ _ ⟨?_, by omega⟩
      simp only [isWs, Bool.or_eq_false_iff, beq_eq_false_iff_ne]
      omega
    | minus ds hds => exact head _ _ (by decide)
  | str s rest h => exact head _ _ (by decide)
  | emptyArr h => exact head _ _ (by decide)
  | arr h hxs => exact head _ _ (by decide)
  | emptyObj h => exact head _ _ (by decide)
  | obj h hkvs => exact head _ _ (by decide)
  | lastItem hv h ih => exact ih
  | item hv h hu hvs ih => exact ih
  | lastMember hk h ht hv hu => exact ⟨cp 34, _, rfl, cp_val 34 (by decide)⟩
  | member hk h ht hv hu hw hkvs => exact ⟨cp 34, _, rfl, cp_val 34 (by decide)⟩

theorem opens_length {p : Phrase} {s rest : Str} (h : Opens p s rest) : rest.length ≤ s.length := by
  induction h with
  | null rest | true rest | false rest | int rest h | str s rest h =>
    rw [List.length_append]
    omega
  | emptyArr h | emptyObj h =>
    have := length_of_ws h
    simp only [List.length_cons] at this ⊢
    omega
  | arr h _ ih | obj h _ ih =>
    have := length_of_ws h
    rw [List.length_cons]
    omega
  | lastItem hv h ih =>
    have := length_of_ws h
    simp only [List.length_cons] at this
    omega
  | item hv h hu hvs ihv ih =>
    have ht := length_of_ws h
    have hu' := length_of_ws hu
    simp only [List.length_cons] at ht
    omega
  | lastMember hk h ht hv hu ih =>
    have hcolon := length_of_ws h
    have hvalue := length_of_ws ht
    have hclose := length_of_ws hu
    simp only [List.length_cons] at hcolon hclose
    rw [List.length_append]
    omega
  | member hk h ht hv hu hw hkvs ihv ih =>
    have hcolon := length_of_ws h
    have hvalue := length_of_ws ht
    have hcomma := length_of_ws hu
    have hnext := length_of_ws hw
    simp only [List.length_cons] at hcolon hcomma
    rw [List.length_append]
    omega

theorem opens_noWs {p : Phrase} {s t rest : Str} (h : Ws s t) (ht : Opens p t rest) : skipWs s = t := by
  obtain ⟨c, u, rfl, hc⟩ := opens_head ht
  refine skipWs_of_ws h ?_
  cases p with
  | value v => exact hc.1
  | items xs => exact hc.1
  | members kvs =>
    have hc : c.val = 34 := hc
    simp [isWs, hc]

/-- The scanner reads the phrase, of any fuel that the text's length needs. -/
def Reading : Phrase → Str → Str → Prop
  | .value v, s, rest => Ends rest → ∀ n, 2 * s.length + 1 ≤ n → scanOnce hooks n s = .ok (v, rest)
  | .items xs, s, rest => ∀ n, 2 * s.length + 2 ≤ n → scanItems hooks n s = .ok (xs, rest)
  | .members kvs, s, rest => ∀ n, 2 * s.length + 2 ≤ n → scanMembers hooks n s = .ok (kvs, rest)

theorem reading_scalar {v : Json} {s rest : Str} (h : Ends rest → scanScalar hooks s = .ok (v, rest))
    (hs : ∃ c t, s = c :: t ∧ scalarHead c) : Reading (.value v) s rest := by
  intro hr n hn
  obtain ⟨m, rfl⟩ : ∃ m, n = m + 1 := ⟨n - 1, by omega⟩
  obtain ⟨c, t, rfl, hc⟩ := hs
  rw [scanOnce_scalar hooks m c t hc, h hr]

theorem scalarHead_of {c : CodePoint} (h : c.val ≠ 34 ∧ c.val ≠ 91 ∧ c.val ≠ 123) : scalarHead c := h

theorem quote_text (s rest : Str) : quote s ++ rest = cp 34 :: (s.flatMap escapeChar ++ cp 34 :: rest) := by
  simp [quote]

theorem scanOnce_quote (n : Nat) (s rest : Str) (h : hasSurrogate s = false) :
    scanOnce hooks (n + 1) (quote s ++ rest) = .ok (.str s, rest) := by
  rw [quote_text, scanOnce, if_pos (cp_val 34 (by decide)), scanString_quote s rest h]
  rfl

theorem reading_of_opens {p : Phrase} {s rest : Str} (h : Opens p s rest) : Reading p s rest := by
  induction h with
  | null rest => exact reading_scalar (fun _ => scanScalar_null hooks rest) ⟨cp 110, _, rfl, scalarHead_of (by decide)⟩
  | true rest => exact reading_scalar (fun _ => scanScalar_true hooks rest) ⟨cp 116, _, rfl, scalarHead_of (by decide)⟩
  | false rest => exact reading_scalar (fun _ => scanScalar_false hooks rest) ⟨cp 102, _, rfl, scalarHead_of (by decide)⟩
  | int rest h =>
    refine reading_scalar (scanScalar_integer h) ?_
    cases h with
    | plain ds hds =>
      obtain ⟨d, ds', rfl, hd⟩ := whole_ne_nil hds
      have := (isDigit_iff d).mp hd
      exact ⟨d, _, rfl, by omega, by omega, by omega⟩
    | minus ds hds => exact ⟨cp 45, _, rfl, scalarHead_of (by decide)⟩
  | str s rest h =>
    intro _ n hn
    obtain ⟨m, rfl⟩ : ∃ m, n = m + 1 := ⟨n - 1, by omega⟩
    exact scanOnce_quote m s rest h
  | emptyArr h =>
    intro _ n hn
    obtain ⟨m, rfl⟩ : ∃ m, n = m + 1 := ⟨n - 1, by omega⟩
    rw [scanOnce, if_neg (by decide), if_pos (by decide), skipWs_of_ws h (by decide)]
    simp [cp_val 93 (by decide)]
  | @arr xs s t rest h hxs ih =>
    intro _ n hn
    obtain ⟨m, rfl⟩ : ∃ m, n = m + 1 := ⟨n - 1, by omega⟩
    have hskip := opens_noWs h hxs
    have hlength := length_of_ws h
    obtain ⟨c, u, rfl, hc⟩ := opens_head hxs
    rw [List.length_cons] at hn
    rw [scanOnce, if_neg (by decide), if_pos (by decide), hskip]
    dsimp only
    rw [if_neg hc.2, ih m (by omega)]
    rfl
  | emptyObj h =>
    intro _ n hn
    obtain ⟨m, rfl⟩ : ∃ m, n = m + 1 := ⟨n - 1, by omega⟩
    rw [scanOnce, if_neg (by decide), if_neg (by decide), if_pos (by decide), skipWs_of_ws h (by decide)]
    simp [cp_val 125 (by decide), closeObject, hooks]
  | @obj kvs s t rest h hkvs ih =>
    intro _ n hn
    obtain ⟨m, rfl⟩ : ∃ m, n = m + 1 := ⟨n - 1, by omega⟩
    have hskip := opens_noWs h hkvs
    have hlength := length_of_ws h
    obtain ⟨c, u, rfl, hc⟩ := opens_head hkvs
    have hc : c.val = 34 := hc
    rw [List.length_cons] at hn
    rw [scanOnce, if_neg (by decide), if_neg (by decide), if_pos (by decide), hskip]
    dsimp only
    rw [if_neg (by omega), ih m (by omega)]
    rfl
  | @lastItem v s t rest hv h ih =>
    intro n hn
    obtain ⟨m, rfl⟩ : ∃ m, n = m + 1 := ⟨n - 1, by omega⟩
    have hends : Ends t := ends_of_ws h (ends_cons _ _ (by decide) (by decide))
    rw [scanItems, ih hends m (by omega)]
    simp [bind, Except.bind, skipWs_of_ws h (by decide), cp_val 93 (by decide)]
  | @item v vs s t u u' rest hv h hu hvs ihv ih =>
    intro n hn
    obtain ⟨m, rfl⟩ : ∃ m, n = m + 1 := ⟨n - 1, by omega⟩
    have hends : Ends t := ends_of_ws h (ends_cons _ _ (by decide) (by decide))
    have hlength := opens_length hv
    have hcomma := length_of_ws h
    have hnext := length_of_ws hu
    rw [List.length_cons] at hcomma
    rw [scanItems, ihv hends m (by omega)]
    simp [bind, Except.bind, skipWs_of_ws h (by decide), cp_val 44 (by decide), opens_noWs hu hvs, ih m (by omega),
      Except.map]
  | @lastMember k v s t t' u rest hk h ht hv hu ih =>
    intro n hn
    obtain ⟨m, rfl⟩ : ∃ m, n = m + 1 := ⟨n - 1, by omega⟩
    have hends : Ends u := ends_of_ws hu (ends_cons _ _ (by decide) (by decide))
    have hcolon := length_of_ws h
    have hvalue := length_of_ws ht
    rw [List.length_append] at hn
    rw [List.length_cons] at hcolon
    rw [quote_text, scanMembers, if_pos (cp_val 34 (by decide)), scanString_quote k s hk]
    simp [bind, Except.bind, skipWs_of_ws h (by decide), cp_val 58 (by decide), opens_noWs ht hv,
      ih hends m (by omega), skipWs_of_ws hu (by decide), cp_val 125 (by decide)]
  | @member k v kvs s t t' u w w' rest hk h ht hv hu hw hkvs ihv ih =>
    intro n hn
    obtain ⟨m, rfl⟩ : ∃ m, n = m + 1 := ⟨n - 1, by omega⟩
    have hends : Ends u := ends_of_ws hu (ends_cons _ _ (by decide) (by decide))
    have hcolon := length_of_ws h
    have hvalue := length_of_ws ht
    have hlength := opens_length hv
    have hcomma := length_of_ws hu
    have hnext := length_of_ws hw
    rw [List.length_append] at hn
    rw [List.length_cons] at hcolon hcomma
    rw [quote_text, scanMembers, if_pos (cp_val 34 (by decide)), scanString_quote k s hk]
    simp [bind, Except.bind, skipWs_of_ws h (by decide), cp_val 58 (by decide), opens_noWs ht hv,
      ihv hends m (by omega), skipWs_of_ws hu (by decide), cp_val 44 (by decide), opens_noWs hw hkvs, ih m (by omega),
      Except.map]

/-! ## The token scan and the sweep -/

/-- The string tokens of a phrase pass. -/
theorem scanned_of_opens {p : Phrase} {s rest : Str} (h : Opens p s rest) : Scanned what s ↔ Scanned what rest := by
  induction h with
  | null rest => exact scanned_append (no_quote (by decide))
  | true rest => exact scanned_append (no_quote (by decide))
  | false rest => exact scanned_append (no_quote (by decide))
  | int rest h =>
    cases h with
    | plain ds hds => exact scanned_append (whole_no_quote hds)
    | minus ds hds =>
      exact scanned_append (List.forall_mem_cons.mpr ⟨by decide, whole_no_quote hds⟩)
  | str s rest h => exact scanned_quote h
  | emptyArr h => rw [scanned_cons (by decide), scanned_ws h, scanned_cons (by decide)]
  | arr h hxs ih => rw [scanned_cons (by decide), scanned_ws h, ih]
  | emptyObj h => rw [scanned_cons (by decide), scanned_ws h, scanned_cons (by decide)]
  | obj h hkvs ih => rw [scanned_cons (by decide), scanned_ws h, ih]
  | lastItem hv h ih => rw [ih, scanned_ws h, scanned_cons (by decide)]
  | item hv h hu hvs ihv ih => rw [ihv, scanned_ws h, scanned_cons (by decide), scanned_ws hu, ih]
  | lastMember hk h ht hv hu ih =>
    rw [scanned_quote hk, scanned_ws h, scanned_cons (by decide), scanned_ws ht, ih, scanned_ws hu,
      scanned_cons (by decide)]
  | member hk h ht hv hu hw hkvs ihv ih =>
    rw [scanned_quote hk, scanned_ws h, scanned_cons (by decide), scanned_ws ht, ihv, scanned_ws hu,
      scanned_cons (by decide), scanned_ws hw, ih]

/-- No text of the phrase holds a surrogate. -/
def Paired : Phrase → Prop
  | .value v => anySurrogate v = false
  | .items xs => anySurrogateItems xs = false
  | .members kvs => anySurrogateMembers kvs = false

theorem paired_of_opens {p : Phrase} {s rest : Str} (h : Opens p s rest) : Paired p := by
  induction h with
  | null | true | false | int | emptyArr | emptyObj => rfl
  | str s rest h => exact h
  | arr h hxs ih => exact ih
  | obj h hkvs ih => exact ih
  | lastItem hv h ih =>
    have ih : anySurrogate _ = false := ih
    simp [Paired, anySurrogateItems, ih]
  | item hv h hu hvs ihv ih =>
    have ihv : anySurrogate _ = false := ihv
    have ih : anySurrogateItems _ = false := ih
    simp [Paired, anySurrogateItems, ihv, ih]
  | lastMember hk h ht hv hu ih =>
    have ih : anySurrogate _ = false := ih
    simp [Paired, anySurrogateMembers, hk, ih]
  | member hk h ht hv hu hw hkvs ihv ih =>
    have ihv : anySurrogate _ = false := ihv
    have ih : anySurrogateMembers _ = false := ih
    simp [Paired, anySurrogateMembers, hk, ihv, ih]

end TurnVector.ContractJson
