import TurnVector.Python.JsonRoundTrip

/-! # What a scan consumes -/

namespace TurnVector.Python.Json

/-! ## Suffixes -/

/-- What follows a string token is the end of the text. Any hooks read the same token. -/
theorem scanUnits_suffix {ε δ : Type} (s rest : Str) (us : List CharUnit) (h : scanUnits (ε := ε) s = .ok (us, rest)) :
    rest <:+ s ∧ scanUnits (ε := δ) s = .ok (us, rest) := by
  fun_induction scanUnits (ε := ε) s generalizing us with
  | case1 => cases h
  | case2 c s' hc =>
    cases h
    rw [scanUnits.eq_def]
    exact ⟨List.suffix_cons c _, by simp [hc]⟩
  | case3 => cases h
  | case4 c hc hb e he h1 h2 h3 h4 s' n hn ih =>
    obtain ⟨⟨us', rest'⟩, hr, hus⟩ := map_ok h
    cases hus
    obtain ⟨hsuffix, hread⟩ := ih us' hr
    rw [scanUnits.eq_def]
    exact ⟨hsuffix.trans ⟨[c, e, h1, h2, h3, h4], rfl⟩, by simp [hb, he, hn, hread, Except.map]⟩
  | case5 => cases h
  | case6 => cases h
  | case7 c hc hb e s' he d hd ih =>
    obtain ⟨⟨us', rest'⟩, hr, hus⟩ := map_ok h
    cases hus
    obtain ⟨hsuffix, hread⟩ := ih us' hr
    rw [scanUnits.eq_def]
    exact ⟨hsuffix.trans ⟨[c, e], rfl⟩, by simp [hb, he, hd, hread, Except.map]⟩
  | case8 => cases h
  | case9 => cases h
  | case10 c s' hc hb hlow ih =>
    obtain ⟨⟨us', rest'⟩, hr, hus⟩ := map_ok h
    cases hus
    obtain ⟨hsuffix, hread⟩ := ih us' hr
    rw [scanUnits.eq_def]
    exact ⟨hsuffix.trans (List.suffix_cons c s'), by simp [hc, hb, hlow, hread, Except.map]⟩

theorem scanString_suffix {ε δ : Type} {s rest decoded : Str} (h : scanString (ε := ε) s = .ok (decoded, rest)) :
    rest <:+ s ∧ scanString (ε := δ) s = .ok (decoded, rest) := by
  obtain ⟨⟨us, rest'⟩, hus, hr⟩ := map_ok h
  cases hr
  obtain ⟨hsuffix, hread⟩ := scanUnits_suffix (δ := δ) s rest' us hus
  exact ⟨hsuffix, by rw [scanString, hread, Except.map]⟩

theorem skipWs_length (s : Str) : (skipWs s).length ≤ s.length := (List.dropWhile_sublist _).length_le

section
variable {ε : Type}

theorem scanString_length {s rest decoded : Str} (h : scanString (ε := ε) s = .ok (decoded, rest)) :
    rest.length ≤ s.length := (scanString_suffix (δ := ε) h).1.length_le

/-! ## The fuel of a scan is enough -/

/-- A scan does not run out of fuel, and what it leaves is shorter than the bound. -/
def Shortens {α : Type} (bound : Nat) (r : Except (LoadError ε) (α × Str)) : Prop :=
  match r with
  | .ok p => p.2.length < bound
  | .error e => e ≠ .fuel

theorem shortens_map {α β : Type} {bound : Nat} {r : Except (LoadError ε) (α × Str)} (f : α × Str → β × Str)
    (hf : ∀ p, (f p).2 = p.2) (h : Shortens bound r) : Shortens bound (r.map f) := by
  cases r with
  | error e => exact h
  | ok p =>
    unfold Shortens at h ⊢
    simpa only [Except.map, hf] using h

theorem shortens_bind {α β : Type} {bound bound' : Nat} {r : Except (LoadError ε) (α × Str)}
    {f : α × Str → Except (LoadError ε) (β × Str)} (h : Shortens bound r)
    (hf : ∀ p, p.2.length < bound → Shortens bound' (f p)) : Shortens bound' (r >>= f) := by
  cases r with
  | error e => exact h
  | ok p => exact hf p h

theorem shortens_mono {α : Type} {bound bound' : Nat} {r : Except (LoadError ε) (α × Str)} (h : Shortens bound r)
    (hle : bound ≤ bound') : Shortens bound' r := by
  cases r with
  | error e => exact h
  | ok p => exact lt_of_lt_of_le h hle

theorem scanUnits_shortens (s : Str) : Shortens (s.length + 1) (scanUnits (ε := ε) s) := by
  fun_induction scanUnits (ε := ε) s with
  | case2 c s' hc => simp [Shortens]
  | case4 c hc hb e he h1 h2 h3 h4 s' n hn ih =>
    exact shortens_mono (shortens_map _ (fun p => rfl) ih) (by simp)
  | case7 c hc hb e s' he d hd ih => exact shortens_mono (shortens_map _ (fun p => rfl) ih) (by simp)
  | case10 c s' hc hb hlow ih => exact shortens_mono (shortens_map _ (fun p => rfl) ih) (by simp)
  | _ => simp [Shortens]

theorem scanString_shortens (s : Str) : Shortens (s.length + 1) (scanString (ε := ε) s) :=
  shortens_map _ (fun _ => rfl) (scanUnits_shortens s)

theorem scanFraction_length (s : Str) : (scanFraction s).2.length ≤ s.length := by
  unfold scanFraction
  split
  · split
    · exact (List.dropWhile_sublist _).length_le.trans (by simp)
    · rfl
  · rfl

theorem scanExponent_length (s : Str) : (scanExponent s).2.length ≤ s.length := by
  cases s with
  | nil => rfl
  | cons e s =>
    rw [scanExponent]
    split
    · simp only
      split
      · rfl
      · have hdrop := (List.dropWhile_sublist (l := s.drop ((s.takeWhile fun c => c.val == 43 || c.val == 45).take
          1).length) isDigit).length_le
        simp only [List.length_drop, List.length_cons] at hdrop ⊢
        omega
    · rfl

theorem scanNumber_shortens (h : Hooks ε) (negative : Bool) (s : Str) :
    Shortens s.length (scanNumber h negative s) := by
  cases s with
  | nil => simp [scanNumber, Shortens]
  | cons d s =>
    rw [scanNumber]
    by_cases hd : isDigit d = true
    case neg => simp [hd, Shortens]
    rw [if_pos hd]
    have hwhole : (if d.val = 48 then s else (d :: s).dropWhile isDigit).length ≤ s.length := by
      split
      · rfl
      · rw [List.dropWhile_cons_of_pos hd]
        exact (List.dropWhile_sublist _).length_le
    generalize (if d.val = 48 then s else (d :: s).dropWhile isDigit) = left at hwhole ⊢
    have hrest : (scanExponent (scanFraction left).2).2.length < s.length + 1 := by
      have := scanExponent_length (scanFraction left).2
      have := scanFraction_length left
      omega
    simp only
    split
    · exact hrest
    · split
      · exact hrest
      · simp [Shortens]

theorem scanConstant_shortens (h : Hooks ε) (token rest : Str) :
    Shortens (rest.length + 1) (scanConstant h token rest) := by
  unfold scanConstant
  split <;> simp [Shortens]

theorem drop_length_lt {t s : Str} (h : t <+: s) (ht : 0 < t.length) : (s.drop t.length).length < s.length := by
  have := h.length_le
  rw [List.length_drop]
  omega

theorem scanScalar_shortens (h : Hooks ε) (s : Str) : Shortens s.length (scanScalar h s) := by
  rw [scanScalar.eq_def]
  split_ifs with h1 h2 h3 h4 h5 h6
  · exact drop_length_lt h1 (by decide)
  · exact drop_length_lt h2 (by decide)
  · exact drop_length_lt h3 (by decide)
  · exact shortens_mono (scanConstant_shortens h _ _) (drop_length_lt h4 (by decide))
  · exact shortens_mono (scanConstant_shortens h _ _) (drop_length_lt h5 (by decide))
  · exact shortens_mono (scanConstant_shortens h _ _) (drop_length_lt h6 (by decide))
  · cases s with
    | nil => simp [Shortens]
    | cons c s =>
      simp only
      split
      · exact shortens_mono (scanNumber_shortens h true s) (by simp)
      · exact scanNumber_shortens h false (c :: s)

theorem closeObject_shortens (h : Hooks ε) (pairs : List (Str × Json)) (rest : Str) :
    Shortens (rest.length + 1) (closeObject h pairs rest) := by
  unfold closeObject
  split <;> simp [Shortens]

theorem skipWs_cons_length {s s' : Str} {c : CodePoint} (h : skipWs s = c :: s') : s'.length + 1 ≤ s.length := by
  have := skipWs_length s
  rw [h] at this
  simpa using this

/-- Two units of fuel a character are enough. -/
theorem scan_shortens (h : Hooks ε) (n : Nat) :
    (∀ s, 2 * s.length + 1 ≤ n → Shortens s.length (scanOnce h n s)) ∧
    (∀ s, 2 * s.length + 2 ≤ n → Shortens s.length (scanItems h n s)) ∧
    (∀ s, 2 * s.length + 2 ≤ n → Shortens s.length (scanMembers h n s)) := by
  induction n with
  | zero => exact ⟨fun s hn => by omega, fun s hn => by omega, fun s hn => by omega⟩
  | succ n ih =>
    obtain ⟨ihOnce, ihItems, ihMembers⟩ := ih
    refine ⟨?_, ?_, ?_⟩
    · intro s hn
      cases s with
      | nil => simp [scanOnce, Shortens]
      | cons c s =>
        rw [List.length_cons] at hn ⊢
        rw [scanOnce]
        split_ifs with hquote harray hobject
        · exact shortens_map _ (fun _ => rfl) (scanString_shortens s)
        · split
          · simp [Shortens]
          · rename_i d s' hskip
            have hlength := skipWs_cons_length hskip
            split_ifs
            · simp only [Shortens]
              omega
            · have hitems := shortens_mono (ihItems (d :: s') (by simp; omega))
                (by simp; omega : (d :: s').length ≤ s.length + 1)
              exact shortens_map _ (fun _ => rfl) hitems
        · split
          · simp [Shortens]
          · rename_i d s' hskip
            have hlength := skipWs_cons_length hskip
            split_ifs
            · exact shortens_mono (closeObject_shortens h _ s') (by omega)
            · apply shortens_bind (ihMembers (d :: s') (by simp; omega))
              intro p hp
              rw [List.length_cons] at hp
              exact shortens_mono (closeObject_shortens h p.1 p.2) (by omega)
        · exact scanScalar_shortens h (c :: s)
    · intro s hn
      rw [scanItems]
      apply shortens_bind (ihOnce s (by omega))
      intro p hp
      simp only
      split
      · simp [Shortens]
      · rename_i c s' hskip
        have hlength := skipWs_cons_length hskip
        have hnext := skipWs_length s'
        split_ifs
        · simp only [Shortens]
          omega
        · have hitems := shortens_mono (ihItems (skipWs s') (by omega)) (by omega : _ ≤ s.length)
          exact shortens_map _ (fun _ => rfl) hitems
        · simp [Shortens]
    · intro s hn
      cases s with
      | nil => simp [scanMembers, Shortens]
      | cons q s =>
        rw [List.length_cons] at hn ⊢
        rw [scanMembers]
        split_ifs
        case neg => simp [Shortens]
        apply shortens_bind (scanString_shortens s)
        intro key hkey
        simp only
        split
        · simp [Shortens]
        · rename_i c s' hskip
          have hcolon := skipWs_cons_length hskip
          have hvalue := skipWs_length s'
          split_ifs
          case neg => simp [Shortens]
          apply shortens_bind (ihOnce (skipWs s') (by omega))
          intro p hp
          split
          · simp [Shortens]
          · rename_i d s'' hrest
            have hlength := skipWs_cons_length hrest
            have hnext := skipWs_length s''
            split_ifs
            · simp only [Shortens]
              omega
            · have hmembers := shortens_mono (ihMembers (skipWs s'') (by omega)) (by omega : _ ≤ s.length + 1)
              exact shortens_map _ (fun _ => rfl) hmembers
            · simp [Shortens]

/-- A load never ends for want of fuel. -/
theorem loads_fuel (h : Hooks ε) (s : Str) : loads h s ≠ .error .fuel := by
  have hscan := (scan_shortens h (2 * (skipWs s).length + 2)).1 (skipWs s) (by omega)
  unfold loads rawDecode
  intro hfuel
  split at hfuel
  · cases hfuel
  · cases hr : scanOnce h (2 * (skipWs s).length + 2) (skipWs s) with
    | error e =>
      rw [hr] at hscan hfuel
      cases hfuel
      exact hscan rfl
    | ok p =>
      rw [hr] at hfuel
      simp only [bind, Except.bind] at hfuel
      split at hfuel <;> cases hfuel

/-! ## White space after a value -/

theorem takeWhile_snoc {w : CodePoint} (p : CodePoint → Bool) (hp : p w = false) (s : Str) :
    (s ++ [w]).takeWhile p = s.takeWhile p ∧ (s ++ [w]).dropWhile p = s.dropWhile p ++ [w] := by
  induction s with
  | nil => simp [hp]
  | cons c s ih =>
    by_cases hc : p c = true
    · simp [hc, ih]
    · simp [hc]

theorem prefix_snoc {w : CodePoint} {t : Str} (ht : w ∉ t) (s : Str) : t <+: s ++ [w] ↔ t <+: s := by
  constructor
  · rintro ⟨u, hu⟩
    rcases List.eq_nil_or_concat u with rfl | ⟨u', x, rfl⟩
    · rw [List.append_nil] at hu
      exact absurd (by rw [hu]; simp) ht
    · rw [List.concat_eq_append, ← List.append_assoc] at hu
      exact ⟨u', (List.append_inj' hu rfl).1⟩
  · exact fun h => h.trans (List.prefix_append _ _)

theorem scanConstant_snoc {w : CodePoint} (h : Hooks ε) (token rest : Str) :
    scanConstant h token (rest ++ [w]) = (scanConstant h token rest).map fun r => (r.1, r.2 ++ [w]) := by
  unfold scanConstant
  cases h.onConstant token <;> rfl

theorem closeObject_ok (h : Hooks ε) (pairs : List (Str × Json)) (rest : Str) (v : Json) (r : Str) :
    closeObject h pairs rest = .ok (v, r) ↔ h.onPairs pairs = .ok v ∧ rest = r := by
  unfold closeObject
  cases h.onPairs pairs <;> simp

theorem scanOnce_nil (h : Hooks ε) (n : Nat) (p : Json × Str) : scanOnce h n [] ≠ .ok p := by
  cases n <;> simp [scanOnce]

theorem scanItems_nil (h : Hooks ε) (n : Nat) (p : List Json × Str) : scanItems h n [] ≠ .ok p := by
  intro hs
  cases n with
  | zero => simp [scanItems] at hs
  | succ n =>
    rw [scanItems] at hs
    obtain ⟨v, hv, -⟩ := bind_ok hs
    exact scanOnce_nil h n v hv

theorem scanMembers_nil (h : Hooks ε) (n : Nat) (p : List (Str × Json) × Str) : scanMembers h n [] ≠ .ok p := by
  cases n <;> simp [scanMembers]

/-- What a scan reads before a white space it reads of the text itself, with any fuel that is enough. -/
def Trims {α : Type} (w : CodePoint) (scan : Nat → Str → Except (LoadError ε) (α × Str)) (spare n : Nat) : Prop :=
  ∀ s v r, scan n (s ++ [w]) = .ok (v, r) →
    ∃ r', r = r' ++ [w] ∧ ∀ m, 2 * s.length + spare ≤ m → scan m s = .ok (v, r')

theorem scanOnce_shorter (h : Hooks ε) {m : Nat} {s r : Str} {v : Json} (hm : 2 * s.length + 1 ≤ m)
    (hread : scanOnce h m s = .ok (v, r)) : r.length < s.length := by
  have hscan := (scan_shortens h m).1 s hm
  rw [hread] at hscan
  exact hscan

section Trailing

variable {w : CodePoint} (hw : isWs w = true)
include hw

theorem ws_val : w.val = 32 ∨ w.val = 9 ∨ w.val = 10 ∨ w.val = 13 := by
  simpa [isWs, or_assoc] using hw

theorem not_digit_ws : isDigit w = false := by
  have := ws_val hw
  simp only [isDigit, Bool.and_eq_false_iff, decide_eq_false_iff_not]
  omega

theorem skipWs_snoc (s : Str) : skipWs (s ++ [w]) = if skipWs s = [] then [] else skipWs s ++ [w] := by
  unfold skipWs
  induction s with
  | nil => simp [hw]
  | cons c s ih =>
    by_cases hc : isWs c = true
    · simp [hc, ih]
    · simp [hc]

/-- What comes first after the white space is found in the text itself. -/
theorem skipWs_snoc_cons {s s' : Str} {c : CodePoint} (h : skipWs (s ++ [w]) = c :: s') :
    ∃ t, s' = t ++ [w] ∧ skipWs s = c :: t := by
  rw [skipWs_snoc hw] at h
  split at h
  · cases h
  · rename_i hne
    obtain ⟨d, t, hdt⟩ := List.exists_cons_of_ne_nil hne
    rw [hdt, List.cons_append] at h
    cases h
    exact ⟨t, rfl, hdt⟩

theorem scanFraction_snoc (s : Str) :
    scanFraction (s ++ [w]) = ((scanFraction s).1, (scanFraction s).2 ++ [w]) := by
  have hdigit := not_digit_ws hw
  match s with
  | [] => rfl
  | [dot] => simp [scanFraction, hdigit]
  | dot :: d :: s =>
    have hrun := takeWhile_snoc isDigit hdigit (d :: s)
    simp only [List.cons_append] at hrun ⊢
    rw [scanFraction, scanFraction]
    split_ifs
    · rw [hrun.1, hrun.2]
    · rfl

theorem scanExponent_snoc (s : Str) :
    scanExponent (s ++ [w]) = ((scanExponent s).1, (scanExponent s).2 ++ [w]) := by
  have hval := ws_val hw
  have hdigit := not_digit_ws hw
  have hsign : (w.val == 43 || w.val == 45) = false := by
    simp only [Bool.or_eq_false_iff, beq_eq_false_iff_ne]
    omega
  cases s with
  | nil =>
    rw [List.nil_append, scanExponent, if_neg (by omega)]
    rfl
  | cons e s =>
    rw [List.cons_append, scanExponent, scanExponent]
    split_ifs with he
    · simp only [(takeWhile_snoc (fun c => c.val == 43 || c.val == 45) hsign s).1]
      have hle : ((s.takeWhile fun c => c.val == 43 || c.val == 45).take 1).length ≤ s.length :=
        (List.take_sublist _ _).length_le.trans (List.takeWhile_sublist _).length_le
      generalize ((s.takeWhile fun c => c.val == 43 || c.val == 45).take 1) = sign at hle ⊢
      have hrun := takeWhile_snoc isDigit hdigit (s.drop sign.length)
      rw [List.drop_append_of_le_length hle, hrun.1, hrun.2]
      split <;> rfl
    · rfl

theorem scanNumber_snoc (h : Hooks ε) (negative : Bool) (s : Str) :
    scanNumber h negative (s ++ [w]) = (scanNumber h negative s).map fun r => (r.1, r.2 ++ [w]) := by
  have hdigit := not_digit_ws hw
  cases s with
  | nil => simp [scanNumber, hdigit, Except.map]
  | cons d s =>
    have hrun := takeWhile_snoc isDigit hdigit (d :: s)
    rw [List.cons_append] at hrun
    rw [List.cons_append, scanNumber, scanNumber]
    by_cases hd : isDigit d = true
    case neg => simp [hd, Except.map]
    rw [if_pos hd, if_pos hd, hrun.1, hrun.2]
    have hleft : (if d.val = 48 then s ++ [w] else (d :: s).dropWhile isDigit ++ [w]) =
        (if d.val = 48 then s else (d :: s).dropWhile isDigit) ++ [w] := by split <;> rfl
    simp only [hleft, scanFraction_snoc hw, scanExponent_snoc hw]
    generalize (if d.val = 48 then s else (d :: s).dropWhile isDigit) = left
    generalize (if d.val = 48 then [d] else (d :: s).takeWhile isDigit) = whole
    split
    · rfl
    · split <;> rfl

theorem scanScalar_snoc (h : Hooks ε) (s : Str) :
    scanScalar h (s ++ [w]) = (scanScalar h s).map fun r => (r.1, r.2 ++ [w]) := by
  have hword : ∀ t : String, (lit t).any isWs = false → (lit t <+: s ++ [w] ↔ lit t <+: s) := by
    intro t ht
    apply prefix_snoc
    intro hmem
    exact List.any_eq_false.mp ht w hmem hw
  have hdrop : ∀ {t : Str}, t <+: s → (s ++ [w]).drop t.length = s.drop t.length ++ [w] :=
    fun ht => List.drop_append_of_le_length ht.length_le
  rw [scanScalar.eq_def, scanScalar.eq_def]
  simp only [hword "null" (by decide), hword "true" (by decide), hword "false" (by decide), hword "NaN" (by decide),
    hword "Infinity" (by decide), hword "-Infinity" (by decide)]
  split_ifs with h1 h2 h3 h4 h5 h6
  · exact congrArg (fun r => Except.ok (Json.null, r)) (hdrop h1)
  · exact congrArg (fun r => Except.ok (Json.bool true, r)) (hdrop h2)
  · exact congrArg (fun r => Except.ok (Json.bool false, r)) (hdrop h3)
  · exact (congrArg (scanConstant h _) (hdrop h4)).trans (scanConstant_snoc h _ _)
  · exact (congrArg (scanConstant h _) (hdrop h5)).trans (scanConstant_snoc h _ _)
  · exact (congrArg (scanConstant h _) (hdrop h6)).trans (scanConstant_snoc h _ _)
  · have hval := ws_val hw
    cases s with
    | nil =>
      simp only [List.nil_append]
      rw [if_neg (by omega)]
      exact scanNumber_snoc hw h false []
    | cons c s =>
      simp only [List.cons_append]
      split
      · exact scanNumber_snoc hw h true s
      · exact scanNumber_snoc hw h false (c :: s)

theorem hex4_ws (a b c : CodePoint) : hex4 a b c w = none := by
  have hnone : hexVal w = none := by
    have hval := ws_val hw
    unfold hexVal
    rw [if_neg (by omega), if_neg (by omega), if_neg (by omega)]
  unfold hex4
  cases hexVal a <;> cases hexVal b <;> cases hexVal c <;> simp [hnone]

theorem shortEscape_ws : shortEscape w = none := by
  have hval := ws_val hw
  unfold shortEscape
  repeat rw [if_neg (by omega)]

theorem scanUnits_ws (us : List CharUnit) (r : Str) : scanUnits (ε := ε) [w] ≠ .ok (us, r) := by
  have hval := ws_val hw
  rw [scanUnits.eq_def]
  simp only
  rw [if_neg (by omega), if_neg (by omega)]
  split
  · simp
  · simp [scanUnits, Except.map]

/-- A string token that closes before the white space closes in the text itself. -/
theorem scanUnits_snoc (s r : Str) (us : List CharUnit) (h : scanUnits (ε := ε) (s ++ [w]) = .ok (us, r)) :
    ∃ r', r = r' ++ [w] ∧ scanUnits (ε := ε) s = .ok (us, r') := by
  have hval := ws_val hw
  fun_induction scanUnits (ε := ε) s generalizing us r with
  | case1 => exact absurd h (scanUnits_ws hw us r)
  | case2 c s' hc =>
    rw [List.cons_append, scanUnits.eq_def] at h
    simp only [if_pos hc] at h
    cases h
    exact ⟨s', rfl, rfl⟩
  | case3 c hc hb =>
    rw [List.cons_append, List.nil_append, scanUnits.eq_def] at h
    simp only [if_neg hc, if_pos hb, shortEscape_ws hw] at h
    rw [if_neg (by omega)] at h
    cases h
  | case4 c hc hb e he h1 h2 h3 h4 s' n hn ih =>
    simp only [List.cons_append] at h
    rw [scanUnits.eq_def] at h
    simp only [if_neg hc, if_pos hb, if_pos he, hn] at h
    obtain ⟨⟨us', rest⟩, hr, hus⟩ := map_ok h
    cases hus
    obtain ⟨r', rfl, hread⟩ := ih _ _ hr
    exact ⟨r', rfl, by rw [hread]; rfl⟩
  | case5 c hc hb e he h1 h2 h3 h4 s' hn =>
    simp only [List.cons_append] at h
    rw [scanUnits.eq_def] at h
    simp only [if_neg hc, if_pos hb, if_pos he, hn] at h
    cases h
  | case6 c hc hb e s' he hshort =>
    rw [List.cons_append, List.cons_append, scanUnits.eq_def] at h
    simp only [if_neg hc, if_pos hb, if_pos he] at h
    split at h
    · rename_i h1 h2 h3 h4 rest hlist
      have hrest : rest = [] := by
        rcases List.eq_nil_or_concat rest with hnil | ⟨front, x, rfl⟩
        · exact hnil
        · rw [List.concat_eq_append, ← List.cons_append, ← List.cons_append, ← List.cons_append,
            ← List.cons_append] at hlist
          exact absurd (List.append_inj' hlist rfl).1 (hshort h1 h2 h3 h4 front)
      rw [hrest] at hlist
      have hlast : w = h4 := by
        have := congrArg List.getLast? hlist
        simpa using this
      rw [← hlast, hex4_ws hw] at h
      cases h
    · cases h
  | case7 c hc hb e s' he d hd ih =>
    rw [List.cons_append, List.cons_append, scanUnits.eq_def] at h
    simp only [if_neg hc, if_pos hb, if_neg he, hd] at h
    obtain ⟨⟨us', rest⟩, hr, hus⟩ := map_ok h
    cases hus
    obtain ⟨r', rfl, hread⟩ := ih _ _ hr
    exact ⟨r', rfl, by rw [hread]; rfl⟩
  | case8 c hc hb e s' he hd =>
    rw [List.cons_append, List.cons_append, scanUnits.eq_def] at h
    simp only [if_neg hc, if_pos hb, if_neg he, hd] at h
    cases h
  | case9 c s' hc hb hlow =>
    rw [List.cons_append, scanUnits.eq_def] at h
    simp only [if_neg hc, if_neg hb, if_pos hlow] at h
    cases h
  | case10 c s' hc hb hlow ih =>
    rw [List.cons_append, scanUnits.eq_def] at h
    simp only [if_neg hc, if_neg hb, if_neg hlow] at h
    obtain ⟨⟨us', rest⟩, hr, hus⟩ := map_ok h
    cases hus
    obtain ⟨r', rfl, hread⟩ := ih _ _ hr
    exact ⟨r', rfl, by rw [hread]; rfl⟩

theorem scanString_snoc {s r decoded : Str} (h : scanString (ε := ε) (s ++ [w]) = .ok (decoded, r)) :
    ∃ r', r = r' ++ [w] ∧ scanString (ε := ε) s = .ok (decoded, r') := by
  obtain ⟨⟨us, rest⟩, hr, hus⟩ := map_ok h
  cases hus
  obtain ⟨r', rfl, hread⟩ := scanUnits_snoc hw s _ us hr
  exact ⟨r', rfl, by rw [scanString, hread]; rfl⟩

/-- A scan that skips white space first reads something else than the white space at the end. -/
theorem trims_skipWs {α : Type} {scan : Nat → Str → Except (LoadError ε) (α × Str)} {spare n : Nat}
    (htrims : Trims w scan spare n) (hnil : ∀ p, scan n [] ≠ .ok p) {s : Str} {v : α} {r : Str}
    (hs : scan n (skipWs (s ++ [w])) = .ok (v, r)) :
    ∃ r', r = r' ++ [w] ∧ ∀ m, 2 * (skipWs s).length + spare ≤ m → scan m (skipWs s) = .ok (v, r') := by
  rw [skipWs_snoc hw] at hs
  split at hs
  · exact absurd hs (hnil _)
  · exact htrims (skipWs s) v r hs

variable (h : Hooks ε) (n : Nat)

theorem scanOnce_trims (ihItems : Trims w (scanItems h) 2 n) (ihMembers : Trims w (scanMembers h) 2 n) :
    Trims w (scanOnce h) 1 (n + 1) := by
  have hval := ws_val hw
  intro s v r hs
  cases s with
  | nil =>
    rw [List.nil_append, scanOnce, if_neg (by omega), if_neg (by omega), if_neg (by omega)] at hs
    have hempty := scanScalar_snoc hw h []
    rw [List.nil_append, hs] at hempty
    exact absurd hempty (by simp [scanScalar, lit_null, lit_true, lit_false, lit_nan, lit_infinity,
      lit_minus_infinity, Except.map])
  | cons c s =>
    rw [List.cons_append, scanOnce] at hs
    by_cases hquote : c.val = 34
    · rw [if_pos hquote] at hs
      obtain ⟨⟨text, rest⟩, hstring, hr⟩ := map_ok hs
      cases hr
      obtain ⟨r', rfl, hread⟩ := scanString_snoc hw hstring
      refine ⟨r', rfl, fun m hm => ?_⟩
      obtain ⟨m, rfl⟩ : ∃ k, m = k + 1 := ⟨m - 1, by omega⟩
      rw [scanOnce, if_pos hquote, hread]
      rfl
    by_cases harray : c.val = 91
    · rw [if_neg hquote, if_pos harray] at hs
      split at hs
      · cases hs
      · rename_i d s' hskip
        obtain ⟨t, rfl, htext⟩ := skipWs_snoc_cons hw hskip
        have hlength := skipWs_cons_length htext
        by_cases hclose : d.val = 93
        · rw [if_pos hclose] at hs
          cases hs
          refine ⟨t, rfl, fun m hm => ?_⟩
          obtain ⟨m, rfl⟩ : ∃ k, m = k + 1 := ⟨m - 1, by omega⟩
          rw [scanOnce, if_neg hquote, if_pos harray, htext]
          exact if_pos hclose
        · rw [if_neg hclose] at hs
          obtain ⟨⟨xs, rest⟩, hitems, hr⟩ := map_ok hs
          cases hr
          obtain ⟨r', rfl, hread⟩ := ihItems (d :: t) _ _ hitems
          refine ⟨r', rfl, fun m hm => ?_⟩
          rw [List.length_cons] at hm
          obtain ⟨m, rfl⟩ : ∃ k, m = k + 1 := ⟨m - 1, by omega⟩
          rw [scanOnce, if_neg hquote, if_pos harray, htext]
          simp only [if_neg hclose, hread m (by simp; omega), Except.map]
    by_cases hobject : c.val = 123
    · rw [if_neg hquote, if_neg harray, if_pos hobject] at hs
      split at hs
      · cases hs
      · rename_i d s' hskip
        obtain ⟨t, rfl, htext⟩ := skipWs_snoc_cons hw hskip
        have hlength := skipWs_cons_length htext
        by_cases hclose : d.val = 125
        · rw [if_pos hclose] at hs
          obtain ⟨hpairs, rfl⟩ := (closeObject_ok h _ _ _ _).mp hs
          refine ⟨t, rfl, fun m hm => ?_⟩
          obtain ⟨m, rfl⟩ : ∃ k, m = k + 1 := ⟨m - 1, by omega⟩
          rw [scanOnce, if_neg hquote, if_neg harray, if_pos hobject, htext]
          simp only [if_pos hclose, closeObject_ok, hpairs, true_and]
        · rw [if_neg hclose] at hs
          obtain ⟨⟨pairs, rest⟩, hmembers, hs⟩ := bind_ok hs
          obtain ⟨hpairs, rfl⟩ := (closeObject_ok h _ _ _ _).mp hs
          obtain ⟨r', rfl, hread⟩ := ihMembers (d :: t) _ _ hmembers
          refine ⟨r', rfl, fun m hm => ?_⟩
          rw [List.length_cons] at hm
          obtain ⟨m, rfl⟩ : ∃ k, m = k + 1 := ⟨m - 1, by omega⟩
          rw [scanOnce, if_neg hquote, if_neg harray, if_pos hobject, htext]
          simp only [if_neg hclose, hread m (by simp; omega), bind, Except.bind, closeObject_ok, hpairs, true_and]
    · rw [if_neg hquote, if_neg harray, if_neg hobject, ← List.cons_append, scanScalar_snoc hw] at hs
      obtain ⟨⟨value, rest⟩, hscalar, hr⟩ := map_ok hs
      cases hr
      refine ⟨rest, rfl, fun m hm => ?_⟩
      obtain ⟨m, rfl⟩ : ∃ k, m = k + 1 := ⟨m - 1, by omega⟩
      rw [scanOnce, if_neg hquote, if_neg harray, if_neg hobject, hscalar]

theorem scanItems_trims (ihOnce : Trims w (scanOnce h) 1 n) (ihItems : Trims w (scanItems h) 2 n) :
    Trims w (scanItems h) 2 (n + 1) := by
  intro s xs r hs
  rw [scanItems] at hs
  obtain ⟨⟨v, rest⟩, hv, hs⟩ := bind_ok hs
  obtain ⟨r', rfl, hread⟩ := ihOnce _ _ _ hv
  have hshort := scanOnce_shorter h (le_refl _) (hread _ (le_refl _))
  simp only at hs
  split at hs
  · cases hs
  · rename_i c s' hskip
    obtain ⟨t, rfl, htext⟩ := skipWs_snoc_cons hw hskip
    have hlength := skipWs_cons_length htext
    by_cases hclose : c.val = 93
    · rw [if_pos hclose] at hs
      cases hs
      refine ⟨t, rfl, fun m hm => ?_⟩
      obtain ⟨m, rfl⟩ : ∃ k, m = k + 1 := ⟨m - 1, by omega⟩
      rw [scanItems, hread m (by omega)]
      simp only [bind, Except.bind, htext, if_pos hclose]
    by_cases hcomma : c.val = 44
    · rw [if_neg hclose, if_pos hcomma] at hs
      obtain ⟨⟨vs, rest⟩, hitems, hr⟩ := map_ok hs
      cases hr
      obtain ⟨r', rfl, hrest⟩ := trims_skipWs hw ihItems (scanItems_nil h n) hitems
      have hnextLength := skipWs_length t
      refine ⟨r', rfl, fun m hm => ?_⟩
      obtain ⟨m, rfl⟩ : ∃ k, m = k + 1 := ⟨m - 1, by omega⟩
      rw [scanItems, hread m (by omega)]
      simp only [bind, Except.bind, htext, if_neg hclose, if_pos hcomma, hrest m (by omega), Except.map]
    · rw [if_neg hclose, if_neg hcomma] at hs
      cases hs

theorem scanMembers_trims (ihOnce : Trims w (scanOnce h) 1 n) (ihMembers : Trims w (scanMembers h) 2 n) :
    Trims w (scanMembers h) 2 (n + 1) := by
  have hval := ws_val hw
  intro s kvs r hs
  cases s with
  | nil =>
    rw [List.nil_append, scanMembers, if_neg (by omega)] at hs
    cases hs
  | cons q s =>
    rw [List.cons_append, scanMembers] at hs
    by_cases hquote : q.val = 34
    case neg =>
      rw [if_neg hquote] at hs
      cases hs
    rw [if_pos hquote] at hs
    obtain ⟨⟨key, rest⟩, hkey, hs⟩ := bind_ok hs
    obtain ⟨left, rfl, hstring⟩ := scanString_snoc hw hkey
    have hstringLength := scanString_length hstring
    simp only at hs
    split at hs
    · cases hs
    rename_i c s' hskip
    obtain ⟨t, rfl, htext⟩ := skipWs_snoc_cons hw hskip
    have hcolonLength := skipWs_cons_length htext
    by_cases hcolon : c.val = 58
    case neg =>
      rw [if_neg hcolon] at hs
      cases hs
    rw [if_pos hcolon] at hs
    obtain ⟨⟨v, rest⟩, hv, hs⟩ := bind_ok hs
    obtain ⟨r', rfl, hread⟩ := trims_skipWs hw ihOnce (scanOnce_nil h n) hv
    have hskipLength := skipWs_length t
    have hshort := scanOnce_shorter h (le_refl _) (hread _ (le_refl _))
    simp only at hs
    split at hs
    · cases hs
    rename_i d s'' hrest
    obtain ⟨u, rfl, htail⟩ := skipWs_snoc_cons hw hrest
    have hlength := skipWs_cons_length htail
    by_cases hclose : d.val = 125
    · rw [if_pos hclose] at hs
      cases hs
      refine ⟨u, rfl, fun m hm => ?_⟩
      rw [List.length_cons] at hm
      obtain ⟨m, rfl⟩ : ∃ k, m = k + 1 := ⟨m - 1, by omega⟩
      rw [scanMembers, if_pos hquote, hstring]
      simp only [bind, Except.bind, htext, if_pos hcolon, hread m (by omega), htail, if_pos hclose]
    by_cases hcomma : d.val = 44
    · rw [if_neg hclose, if_pos hcomma] at hs
      obtain ⟨⟨members, rest⟩, hmembers, hr⟩ := map_ok hs
      cases hr
      obtain ⟨r'', rfl, hnext⟩ := trims_skipWs hw ihMembers (scanMembers_nil h n) hmembers
      have hnextLength := skipWs_length u
      refine ⟨r'', rfl, fun m hm => ?_⟩
      rw [List.length_cons] at hm
      obtain ⟨m, rfl⟩ : ∃ k, m = k + 1 := ⟨m - 1, by omega⟩
      rw [scanMembers, if_pos hquote, hstring]
      simp only [bind, Except.bind, htext, if_pos hcolon, hread m (by omega), htail, if_neg hclose, if_pos hcomma,
        hnext m (by omega), Except.map]
    · rw [if_neg hclose, if_neg hcomma] at hs
      cases hs

theorem scan_trims :
    Trims w (scanOnce h) 1 n ∧ Trims w (scanItems h) 2 n ∧ Trims w (scanMembers h) 2 n := by
  induction n with
  | zero =>
    refine ⟨?_, ?_, ?_⟩
    · intro s v r hs
      simp [scanOnce] at hs
    · intro s v r hs
      simp [scanItems] at hs
    · intro s v r hs
      simp [scanMembers] at hs
  | succ n ih =>
    obtain ⟨ihOnce, ihItems, ihMembers⟩ := ih
    exact ⟨scanOnce_trims hw h n ihItems ihMembers, scanItems_trims hw h n ihOnce ihItems,
      scanMembers_trims hw h n ihOnce ihMembers⟩

/-- A text with white space after its value is read as the text without it. -/
theorem loads_snoc {s : Str} {v : Json} (hs : loads h (s ++ [w]) = .ok v) : loads h s = .ok v := by
  have hbom : (s ++ [w]).head? ≠ some (cp 0xFEFF) := by
    intro hhead
    rw [loads, if_pos hhead] at hs
    cases hs
  rw [loads, if_neg hbom] at hs
  obtain ⟨⟨value, rest⟩, hread, hs⟩ := bind_ok hs
  obtain ⟨r', rfl, htext⟩ := trims_skipWs hw (scan_trims hw h _).1 (scanOnce_nil h _) hread
  simp only at hs
  split at hs
  · rename_i hend
    cases hs
    have hrest : skipWs r' = [] := by
      rw [skipWs_snoc hw] at hend
      split at hend
      · assumption
      · simp at hend
    have hhead : s.head? ≠ some (cp 0xFEFF) := by
      intro hhead
      apply hbom
      cases s with
      | nil => cases hhead
      | cons c s => exact hhead
    have htext' := htext (2 * (skipWs s).length + 2) (by omega)
    simp only [loads, if_neg hhead, rawDecode, htext', bind, Except.bind, hrest]
    rfl
  · cases hs

end Trailing

end

end TurnVector.Python.Json
