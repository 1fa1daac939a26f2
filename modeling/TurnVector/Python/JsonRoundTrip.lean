import TurnVector.Python.Json

/-! # `json.loads` undoes `json.dumps` -/

namespace TurnVector.Python.Json

/-! ## String literals -/

theorem hexVal_hexDigit (n : Nat) (h : n < 16) : hexVal (hexDigit n) = some n := by
  have : ∀ k < 16, hexVal (hexDigit k) = some k := by decide
  exact this n h

theorem hex4_digits (n : Nat) (h : n < 0x10000) :
    hex4 (hexDigit (n / 4096 % 16)) (hexDigit (n / 256 % 16)) (hexDigit (n / 16 % 16)) (hexDigit (n % 16)) =
      some n := by
  simp only [hex4, hexVal_hexDigit _ (Nat.mod_lt _ (by omega : 0 < 16)), Option.pure_def, Option.bind_eq_bind,
    Option.bind_some, Option.some.injEq]
  omega

section
variable {ε : Type}

theorem scanUnits_unicodeEscape (n : Nat) (h : n < 0x10000) (rest : Str) :
    scanUnits (ε := ε) (unicodeEscape n ++ rest) = (scanUnits rest).map fun r => (.escaped n :: r.1, r.2) := by
  simp only [unicodeEscape, List.cons_append, List.nil_append]
  rw [scanUnits.eq_def]
  simp only [hex4_digits n h, cp_val 92 (by omega), cp_val 117 (by omega)]
  rfl

/-- What `scanUnits` reads back of one escaped character. -/
def unitsOf (c : CodePoint) : List CharUnit :=
  if c.val < 0x10000 then
    if c.val = 8 ∨ c.val = 9 ∨ c.val = 10 ∨ c.val = 12 ∨ c.val = 13 ∨ (32 ≤ c.val ∧ c.val ≤ 126) then [.plain c]
    else [.escaped c.val]
  else [.escaped (0xD800 + (c.val - 0x10000) / 1024), .escaped (0xDC00 + (c.val - 0x10000) % 1024)]

theorem scanUnits_short (e c : CodePoint) (rest : Str) (hu : e.val ≠ 117) (h : shortEscape e = some c) :
    scanUnits (ε := ε) (cp 92 :: e :: rest) = (scanUnits rest).map fun r => (.plain c :: r.1, r.2) := by
  rw [scanUnits.eq_def]
  simp [cp_val 92 (by omega), hu, h]

theorem scanUnits_plain (c : CodePoint) (rest : Str) (hq : c.val ≠ 34) (hb : c.val ≠ 92) (h : 32 ≤ c.val) :
    scanUnits (ε := ε) (c :: rest) = (scanUnits rest).map fun r => (.plain c :: r.1, r.2) := by
  rw [scanUnits.eq_def]
  simp only [hq, hb, if_false]
  rw [if_neg (by omega)]

theorem scanUnits_escapeChar (c : CodePoint) (rest : Str) :
    scanUnits (ε := ε) (escapeChar c ++ rest) = (scanUnits rest).map fun r => (unitsOf c ++ r.1, r.2) := by
  unfold escapeChar
  -- The seven one-letter escapes come first, in the order that `escapeChar` tries them.
  have short : ∀ (n : Nat) (e d : CodePoint), c.val = n → e.val ≠ 117 → shortEscape e = some d → d.val = n →
      (n = 8 ∨ n = 9 ∨ n = 10 ∨ n = 12 ∨ n = 13 ∨ (32 ≤ n ∧ n ≤ 126)) →
      scanUnits (ε := ε) ([cp 92, e] ++ rest) = (scanUnits rest).map fun r => (unitsOf c ++ r.1, r.2) := by
    intro n e d hc hu hd hn hr
    obtain rfl : d = c := Fin.ext (hn.trans hc.symm)
    rw [List.cons_append, List.cons_append, List.nil_append, scanUnits_short e d rest hu hd]
    rw [unitsOf, if_pos (by omega), if_pos (by rw [hc]; exact hr)]
    rfl
  split_ifs with h1 h2 h3 h4 h5 h6 h7 h8 h9
  · exact short 92 (cp 92) (cp 92) h1 (by decide) (by decide) (by decide) (by omega)
  · exact short 34 (cp 34) (cp 34) h2 (by decide) (by decide) (by decide) (by omega)
  · exact short 8 (cp 98) (cp 8) h3 (by decide) (by decide) (by decide) (by omega)
  · exact short 12 (cp 102) (cp 12) h4 (by decide) (by decide) (by decide) (by omega)
  · exact short 10 (cp 110) (cp 10) h5 (by decide) (by decide) (by decide) (by omega)
  · exact short 13 (cp 114) (cp 13) h6 (by decide) (by decide) (by decide) (by omega)
  · exact short 9 (cp 116) (cp 9) h7 (by decide) (by decide) (by decide) (by omega)
  · rw [List.cons_append, List.nil_append, scanUnits_plain c rest h2 h1 h8.1]
    rw [unitsOf, if_pos (by omega), if_pos (by omega)]
    rfl
  · rw [scanUnits_unicodeEscape c.val h9, unitsOf, if_pos h9, if_neg (by omega)]
    rfl
  · have hc := c.isLt
    rw [List.append_assoc, scanUnits_unicodeEscape _ (by omega), scanUnits_unicodeEscape _ (by omega),
      unitsOf, if_neg h9]
    cases scanUnits (ε := ε) rest <;> rfl

theorem scanUnits_escaped (s rest : Str) :
    scanUnits (ε := ε) (s.flatMap escapeChar ++ cp 34 :: rest) = .ok (s.flatMap unitsOf, rest) := by
  induction s with
  | nil =>
    rw [List.flatMap_nil, List.nil_append, scanUnits.eq_def]
    rfl
  | cons c s ih =>
    rw [List.flatMap_cons, List.append_assoc, scanUnits_escapeChar, ih]
    rfl

theorem joinUnits_escaped (n : Nat) (us : List CharUnit) (h : ¬ (0xD800 ≤ n ∧ n ≤ 0xDBFF)) :
    joinUnits (.escaped n :: us) = cp n :: joinUnits us := by
  match us with
  | [] => simp [joinUnits]
  | .plain c :: us => simp [joinUnits]
  | .escaped m :: us => rw [joinUnits, if_neg (by omega)]

theorem joinUnits_unitsOf (c : CodePoint) (us : List CharUnit) (h : isSurrogate c = false) :
    joinUnits (unitsOf c ++ us) = c :: joinUnits us := by
  simp only [isSurrogate, Bool.and_eq_false_iff, decide_eq_false_iff_not] at h
  have hc := c.isLt
  unfold unitsOf
  split_ifs with h1 h2
  · rw [List.singleton_append, joinUnits]
  · rw [List.singleton_append, joinUnits_escaped _ _ (by omega), cp_eq]
  · have he : 0x10000 + (0xD800 + (c.val - 0x10000) / 1024 - 0xD800) * 1024 +
        (0xDC00 + (c.val - 0x10000) % 1024 - 0xDC00) = c.val := by omega
    rw [List.cons_append, List.cons_append, List.nil_append, joinUnits, if_pos (by omega), he, cp_eq]

theorem joinUnits_flatMap (s : Str) (h : hasSurrogate s = false) : joinUnits (s.flatMap unitsOf) = s := by
  induction s with
  | nil => rfl
  | cons c s ih =>
    simp only [hasSurrogate, List.any_cons, Bool.or_eq_false_iff] at h
    rw [List.flatMap_cons, joinUnits_unitsOf c _ h.1, ih h.2]

/-- A literal without surrogates is read back, up to its closing quote. -/
theorem scanString_quote (s rest : Str) (h : hasSurrogate s = false) :
    scanString (ε := ε) (s.flatMap escapeChar ++ cp 34 :: rest) = .ok (s, rest) := by
  rw [scanString, scanUnits_escaped]
  simp only [Except.map, joinUnits_flatMap s h]

/-! ## Numbers -/

/-- A number ends here: no digit, dot or exponent follows. -/
def Ends (rest : Str) : Prop :=
  ∀ c ∈ rest.head?, isDigit c = false ∧ c.val ≠ 46 ∧ c.val ≠ 101 ∧ c.val ≠ 69

theorem takeWhile_digits (ds rest : Str) (hd : ∀ c ∈ ds, isDigit c = true) (hr : Ends rest) :
    (ds ++ rest).takeWhile isDigit = ds ∧ (ds ++ rest).dropWhile isDigit = rest := by
  rw [List.takeWhile_append_of_pos hd, List.dropWhile_append_of_pos hd]
  cases rest with
  | nil => simp
  | cons c rest =>
    have := (hr c (by simp)).1
    simp [this]

theorem scanFraction_ends (rest : Str) (hr : Ends rest) : scanFraction rest = ([], rest) := by
  match rest with
  | [] => rfl
  | [_] => rfl
  | c :: d :: rest =>
    have := (hr c (by simp)).2.1
    simp [scanFraction, this]

theorem scanExponent_ends (rest : Str) (hr : Ends rest) : scanExponent rest = ([], rest) := by
  cases rest with
  | nil => rfl
  | cons c rest =>
    have := (hr c (by simp)).2.2
    simp [scanExponent, this.1, this.2]

theorem scanNumber_natText (h : Hooks ε) (negative : Bool) (n : Nat) (rest : Str) (hr : Ends rest) :
    scanNumber h negative (natText n ++ rest) =
      .ok (.int (if negative then -(n : Int) else n), rest) := by
  obtain ⟨d, ds, hds⟩ := List.exists_cons_of_ne_nil (natText_ne_nil n)
  have hd : ∀ c ∈ natText n, isDigit c = true := natText_digit n
  have htake := takeWhile_digits (natText n) rest hd hr
  have hval := natOf_natText n
  have hzero : d.val = 48 → ds = [] ∧ natOf [d] = n := by
    intro h48
    rcases Nat.eq_zero_or_pos n with rfl | hn
    · rw [natText_zero] at hds
      cases hds
      exact ⟨rfl, by decide⟩
    · obtain ⟨c, cs, hc, hlo, -⟩ := natText_head n hn
      rw [hds] at hc
      cases hc
      omega
  rw [hds] at hd htake hval ⊢
  rw [List.cons_append] at htake ⊢
  rw [scanNumber, if_pos (hd d (by simp))]
  simp only
  by_cases h48 : d.val = 48
  · obtain ⟨rfl, hn⟩ := hzero h48
    simp [h48, scanFraction_ends rest hr, scanExponent_ends rest hr, hn]
  · simp [h48, htake.1, htake.2, scanFraction_ends rest hr, scanExponent_ends rest hr, hval]

/-! ## Scalars -/

theorem not_prefix_of_head (a b : CodePoint) (s t : Str) (h : a ≠ b) : ¬ (a :: s) <+: (b :: t) := by
  rintro ⟨u, hu⟩
  cases hu
  exact h rfl

theorem lit_null : lit "null" = [cp 110, cp 117, cp 108, cp 108] := by decide
theorem lit_true : lit "true" = [cp 116, cp 114, cp 117, cp 101] := by decide
theorem lit_false : lit "false" = [cp 102, cp 97, cp 108, cp 115, cp 101] := by decide
theorem lit_nan : lit "NaN" = [cp 78, cp 97, cp 78] := by decide
theorem lit_infinity : lit "Infinity" = cp 73 :: lit "nfinity" := by decide
theorem lit_minus_infinity : lit "-Infinity" = cp 45 :: cp 73 :: lit "nfinity" := by decide

theorem scanScalar_null (h : Hooks ε) (rest : Str) : scanScalar h (lit "null" ++ rest) = .ok (.null, rest) := by
  rw [scanScalar.eq_def, if_pos (List.prefix_append _ _), lit_null]
  rfl

theorem scanScalar_true (h : Hooks ε) (rest : Str) : scanScalar h (lit "true" ++ rest) = .ok (.bool true, rest) := by
  have h1 : ¬ lit "null" <+: lit "true" ++ rest := by
    rw [lit_null, lit_true]; exact not_prefix_of_head _ _ _ _ (by decide)
  rw [scanScalar.eq_def, if_neg h1, if_pos (List.prefix_append _ _), lit_true]
  rfl

theorem scanScalar_false (h : Hooks ε) (rest : Str) :
    scanScalar h (lit "false" ++ rest) = .ok (.bool false, rest) := by
  have h1 : ¬ lit "null" <+: lit "false" ++ rest := by
    rw [lit_null, lit_false]; exact not_prefix_of_head _ _ _ _ (by decide)
  have h2 : ¬ lit "true" <+: lit "false" ++ rest := by
    rw [lit_true, lit_false]; exact not_prefix_of_head _ _ _ _ (by decide)
  rw [scanScalar.eq_def, if_neg h1, if_neg h2, if_pos (List.prefix_append _ _), lit_false]
  rfl

theorem isDigit_iff (c : CodePoint) : isDigit c = true ↔ 48 ≤ c.val ∧ c.val ≤ 57 := by simp [isDigit]

theorem cp_ne (n : Nat) (c : CodePoint) (hn : n < 0x110000) (h : c.val ≠ n) : cp n ≠ c := by
  rintro rfl
  exact h (cp_val n hn)

theorem scanScalar_digit (h : Hooks ε) (c : CodePoint) (s : Str) (hc : isDigit c = true) :
    scanScalar h (c :: s) = scanNumber h false (c :: s) := by
  rw [isDigit_iff] at hc
  have head : ∀ n t, n < 0x110000 → c.val ≠ n → ¬ (cp n :: t) <+: (c :: s) := fun n t hn hne =>
    not_prefix_of_head _ _ _ _ (cp_ne n c hn hne)
  unfold scanScalar
  rw [lit_null, lit_true, lit_false, lit_nan, lit_infinity, lit_minus_infinity,
    if_neg (head 110 _ (by omega) (by omega)), if_neg (head 116 _ (by omega) (by omega)),
    if_neg (head 102 _ (by omega) (by omega)), if_neg (head 78 _ (by omega) (by omega)),
    if_neg (head 73 _ (by omega) (by omega)), if_neg (head 45 _ (by omega) (by omega))]
  simp only
  rw [if_neg (by omega)]

theorem scanScalar_minus (h : Hooks ε) (c : CodePoint) (s : Str) (hc : isDigit c = true) :
    scanScalar h (cp 45 :: c :: s) = scanNumber h true (c :: s) := by
  rw [isDigit_iff] at hc
  have hi : ¬ (cp 45 :: cp 73 :: lit "nfinity") <+: (cp 45 :: c :: s) := by
    rw [List.cons_prefix_cons]
    rintro ⟨-, hp⟩
    exact not_prefix_of_head _ _ _ _ (cp_ne 73 c (by omega) (by omega)) hp
  unfold scanScalar
  rw [lit_null, lit_true, lit_false, lit_nan, lit_infinity, lit_minus_infinity, if_neg hi,
    if_neg (not_prefix_of_head _ _ _ _ (by decide)), if_neg (not_prefix_of_head _ _ _ _ (by decide)),
    if_neg (not_prefix_of_head _ _ _ _ (by decide)), if_neg (not_prefix_of_head _ _ _ _ (by decide)),
    if_neg (not_prefix_of_head _ _ _ _ (by decide))]
  simp only
  rw [if_pos (by decide)]

theorem scanScalar_intText (h : Hooks ε) (n : Int) (rest : Str) (hr : Ends rest) :
    scanScalar h (intText n ++ rest) = .ok (.int n, rest) := by
  have digit : ∀ k : Nat, ∃ d ds, natText k = d :: ds ∧ isDigit d = true := by
    intro k
    obtain ⟨d, ds, hds⟩ := List.exists_cons_of_ne_nil (natText_ne_nil k)
    exact ⟨d, ds, hds, natText_digit k d (by simp [hds])⟩
  cases n with
  | ofNat k =>
    obtain ⟨d, ds, hds, hd⟩ := digit k
    have := scanNumber_natText h false k rest hr
    rw [hds, List.cons_append] at this
    rw [intText, hds, List.cons_append, scanScalar_digit h d _ hd, this]
    rfl
  | negSucc k =>
    obtain ⟨d, ds, hds, hd⟩ := digit (k + 1)
    have := scanNumber_natText h true (k + 1) rest hr
    rw [hds, List.cons_append] at this
    rw [intText, hds, List.cons_append, List.cons_append, scanScalar_minus h d _ hd, this]
    rfl

/-- The first character of a value that is neither a string nor in brackets. -/
def scalarHead (c : CodePoint) : Prop := c.val ≠ 34 ∧ c.val ≠ 91 ∧ c.val ≠ 123

theorem scanOnce_scalar (h : Hooks ε) (n : Nat) (c : CodePoint) (s : Str) (hc : scalarHead c) :
    scanOnce h (n + 1) (c :: s) = scanScalar h (c :: s) := by
  rw [scanOnce, if_neg hc.1, if_neg hc.2.1, if_neg hc.2.2]

/-! ## Objects in the order of their keys -/

theorem sortKeysItems_eq (xs : List Json) : sortKeysItems xs = xs.map sortKeys := by
  induction xs with
  | nil => rfl
  | cons x xs ih => rw [sortKeysItems, ih, List.map_cons]

theorem sortKeysMembers_eq (kvs : List (Str × Json)) :
    sortKeysMembers kvs = kvs.map fun p => (p.1, sortKeys p.2) := by
  induction kvs with
  | nil => rfl
  | cons p kvs ih => rw [sortKeysMembers, ih, List.map_cons]

theorem dumpsItems_eq (l : Layout) (level : Nat) (xs : List Json) :
    dumpsItems l level xs = xs.map (dumps l level) := by
  induction xs with
  | nil => rfl
  | cons x xs ih => rw [dumpsItems, ih, List.map_cons]

def memberText (l : Layout) (level : Nat) (p : Str × Json) : Str := quote p.1 ++ l.colon ++ dumps l level p.2

theorem dumpsMembers_eq (l : Layout) (level : Nat) (kvs : List (Str × Json)) :
    dumpsMembers l level kvs = kvs.map fun p => (p.1, memberText l level p) := by
  induction kvs with
  | nil => rfl
  | cons p kvs ih => rw [dumpsMembers, ih, List.map_cons, memberText]

theorem sortByKey_map {α β : Type} (f : Str × α → β) (kvs : List (Str × α)) :
    sortByKey (kvs.map fun p => (p.1, f p)) = (sortByKey kvs).map fun p => (p.1, f p) := by
  unfold sortByKey
  rw [List.map_insertionSort (fun a b : Str × α => a.1 ≤ b.1) (fun a b : Str × β => a.1 ≤ b.1)
    (fun p => (p.1, f p))]
  intro a _ b _
  exact Iff.rfl

theorem sortByKey_perm {α : Type} (kvs : List (Str × α)) : (sortByKey kvs).Perm kvs := List.perm_insertionSort _ _

theorem sortKeys_obj (kvs : List (Str × Json)) :
    sortKeys (.obj kvs) = .obj ((sortByKey kvs).map fun p => (p.1, sortKeys p.2)) := by
  rw [sortKeys, sortKeysMembers_eq, sortByKey_map]

theorem sortKeys_arr (xs : List Json) : sortKeys (.arr xs) = .arr (xs.map sortKeys) := by
  rw [sortKeys, sortKeysItems_eq]

theorem dumps_arr (l : Layout) (level : Nat) (xs : List Json) :
    dumps l level (.arr xs) = enclose l level (cp 91) (cp 93) (xs.map (dumps l (level + 1))) := by
  rw [dumps, dumpsItems_eq]

theorem dumps_obj (l : Layout) (level : Nat) (kvs : List (Str × Json)) :
    dumps l level (.obj kvs) =
      enclose l level (cp 123) (cp 125) ((sortByKey kvs).map (memberText l (level + 1))) := by
  rw [dumps, dumpsMembers_eq, sortByKey_map, List.map_map]
  rfl

/-! ## Whitespace between tokens -/

theorem skipWs_cons (c : CodePoint) (s : Str) (h : isWs c = false) : skipWs (c :: s) = c :: s := by
  simp [skipWs, h]

theorem skipWs_newline (l : Layout) (level : Nat) (c : CodePoint) (s : Str) (h : isWs c = false) :
    skipWs (l.newline level ++ c :: s) = c :: s := by
  have hws : ∀ x ∈ l.newline level, isWs x = true := by
    cases l with
    | compact => simp [Layout.newline]
    | indented =>
      intro x hx
      simp only [Layout.newline, List.mem_cons, List.mem_replicate] at hx
      rcases hx with rfl | ⟨-, rfl⟩ <;> decide
  rw [skipWs, List.dropWhile_append_of_pos hws]
  exact skipWs_cons c s h

theorem ends_cons (c : CodePoint) (s : Str) (hd : isDigit c = false) (h : c.val ≠ 46 ∧ c.val ≠ 101 ∧ c.val ≠ 69) :
    Ends (c :: s) := by
  intro x hx
  simp only [List.head?_cons, Option.mem_def, Option.some.injEq] at hx
  subst hx
  exact ⟨hd, h⟩

theorem ends_newline (l : Layout) (level : Nat) (c : CodePoint) (s : Str) (h : Ends (c :: s)) :
    Ends (l.newline level ++ c :: s) := by
  cases l with
  | compact => exact h
  | indented => exact ends_cons _ _ (by decide) (by decide)

theorem ends_nil : Ends [] := by simp [Ends]

/-- The first character of a value is no space and closes no bracket. -/
def valueHead (c : CodePoint) : Prop := isWs c = false ∧ c.val ≠ 93

theorem dumps_head (l : Layout) (level : Nat) (v : Json) (hv : v.Plain) :
    ∃ c s, dumps l level v = c :: s ∧ valueHead c := by
  have enclosed : ∀ a b texts, valueHead a → ∃ c s, enclose l level a b texts = c :: s ∧ valueHead c := by
    intro a b texts ha
    unfold enclose
    split
    · exact ⟨a, _, rfl, ha⟩
    · exact ⟨a, _, by simp only [List.cons_append]; rfl, ha⟩
  cases hv with
  | null => exact ⟨_, _, lit_null, by decide, by decide⟩
  | bool b => cases b <;> exact ⟨_, _, by rw [dumps]; first | exact lit_true | exact lit_false, by decide, by decide⟩
  | int n =>
    cases n with
    | ofNat k =>
      obtain ⟨d, ds, hds⟩ := List.exists_cons_of_ne_nil (natText_ne_nil k)
      have hd := (isDigit_iff d).mp (natText_digit k d (by simp [hds]))
      refine ⟨d, ds, hds, ?_, by omega⟩
      simp only [isWs, Bool.or_eq_false_iff, beq_eq_false_iff_ne]
      omega
    | negSucc k => exact ⟨cp 45, natText (k + 1), rfl, by decide, by decide⟩
  | str s h => exact ⟨cp 34, _, rfl, by decide, by decide⟩
  | arr xs h => rw [dumps_arr]; exact enclosed _ _ _ ⟨by decide, by decide⟩
  | obj kvs hn hk hv => rw [dumps_obj]; exact enclosed _ _ _ ⟨by decide, by decide⟩

/-! ## Values -/

/-- `scanOnce` reads a value off its text. -/
def Reads (h : Hooks ε) (l : Layout) (level : Nat) (v : Json) : Prop :=
  ∀ n rest, (dumps l level v).length ≤ n → Ends rest →
    scanOnce h n (dumps l level v ++ rest) = .ok (v.sortKeys, rest)

theorem join_cons_cons (sep t u : Str) (ts : List Str) :
    join sep (t :: u :: ts) = t ++ (sep ++ join sep (u :: ts)) := by
  simp [join]

theorem scanItems_join (h : Hooks ε) (l : Layout) (level : Nat) (x : Json) (xs : List Json)
    (hread : ∀ y ∈ x :: xs, Reads h l (level + 1) y) (hplain : ∀ y ∈ x :: xs, y.Plain) (n : Nat) (rest : Str)
    (hn : (join (cp 44 :: l.newline (level + 1)) ((x :: xs).map (dumps l (level + 1)))).length < n) :
    scanItems h n (join (cp 44 :: l.newline (level + 1)) ((x :: xs).map (dumps l (level + 1))) ++
      (l.newline level ++ cp 93 :: rest)) = .ok ((x :: xs).map sortKeys, rest) := by
  induction xs generalizing x n with
  | nil =>
    obtain ⟨m, rfl⟩ : ∃ m, n = m + 1 := ⟨n - 1, by omega⟩
    have hends : Ends (l.newline level ++ cp 93 :: rest) :=
      ends_newline l level _ _ (ends_cons _ _ (by decide) (by decide))
    simp only [List.map_cons, List.map_nil, join, List.flatMap_nil, List.append_nil] at hn ⊢
    rw [scanItems, hread x (by simp) m _ (by omega) hends]
    simp only [bind, Except.bind, skipWs_newline l level (cp 93) rest (by decide)]
    rfl
  | cons y ys ih =>
    obtain ⟨m, rfl⟩ : ∃ m, n = m + 1 := ⟨n - 1, by omega⟩
    obtain ⟨c, s, hcs, hc⟩ := dumps_head l (level + 1) y (hplain y (by simp))
    rw [List.map_cons, List.map_cons, join_cons_cons] at hn ⊢
    simp only [List.length_append, List.length_cons] at hn
    have hjoin : ∃ t, join (cp 44 :: l.newline (level + 1)) (dumps l (level + 1) y :: ys.map (dumps l (level + 1))) =
        c :: t := ⟨_, by rw [join, hcs, List.cons_append]⟩
    obtain ⟨t, ht⟩ := hjoin
    have hnext := ih y (fun z hz => hread z (by simp [hz])) (fun z hz => hplain z (by simp [hz])) m
      (by rw [List.map_cons]; omega)
    rw [List.map_cons, ht, List.cons_append] at hnext
    have hends : Ends (cp 44 :: l.newline (level + 1) ++ c :: t ++ (l.newline level ++ cp 93 :: rest)) := by
      simp only [List.cons_append]
      exact ends_cons _ _ (by decide) (by decide)
    rw [ht, List.append_assoc, scanItems, hread x (by simp) m _ (by omega) hends]
    simp only [bind, Except.bind, List.cons_append, List.append_assoc, skipWs_cons (cp 44) _ (by decide)]
    rw [if_neg (by decide), if_pos (by decide), skipWs_newline l (level + 1) c _ hc.1, hnext]
    rfl

theorem scanMembers_join (h : Hooks ε) (l : Layout) (level : Nat) (p : Str × Json) (ps : List (Str × Json))
    (hread : ∀ q ∈ p :: ps, Reads h l (level + 1) q.2) (hplain : ∀ q ∈ p :: ps, q.2.Plain)
    (hkey : ∀ q ∈ p :: ps, hasSurrogate q.1 = false) (n : Nat) (rest : Str)
    (hn : (join (cp 44 :: l.newline (level + 1)) ((p :: ps).map (memberText l (level + 1)))).length < n) :
    scanMembers h n (join (cp 44 :: l.newline (level + 1)) ((p :: ps).map (memberText l (level + 1))) ++
      (l.newline level ++ cp 125 :: rest)) = .ok ((p :: ps).map fun q => (q.1, sortKeys q.2), rest) := by
  -- One member: its key, the colon, its value, and the text `tail` that comes after it.
  have member : ∀ q ∈ p :: ps, ∀ m tail, (memberText l (level + 1) q).length ≤ m → Ends tail →
      ∃ s, memberText l (level + 1) q ++ tail = cp 34 :: s ∧
        scanString (ε := ε) s = .ok (q.1, l.colon ++ (dumps l (level + 1) q.2 ++ tail)) ∧
        scanOnce h m (dumps l (level + 1) q.2 ++ tail) = .ok (q.2.sortKeys, tail) := by
    intro q hq m tail hm ht
    refine ⟨q.1.flatMap escapeChar ++ cp 34 :: (l.colon ++ (dumps l (level + 1) q.2 ++ tail)), ?_, ?_, ?_⟩
    · simp [memberText, quote]
    · exact scanString_quote q.1 _ (hkey q hq)
    · exact hread q hq m tail (by simp only [memberText, List.length_append] at hm; omega) ht
  have colon : ∀ q ∈ p :: ps, ∀ tail, ∃ s, l.colon ++ (dumps l (level + 1) q.2 ++ tail) = cp 58 :: s ∧
      skipWs s = dumps l (level + 1) q.2 ++ tail := by
    intro q hq tail
    obtain ⟨c, s, hcs, hc⟩ := dumps_head l (level + 1) q.2 (hplain q hq)
    rw [hcs, List.cons_append]
    cases l with
    | compact => exact ⟨_, rfl, skipWs_cons _ _ hc.1⟩
    | indented =>
      refine ⟨cp 32 :: c :: (s ++ tail), rfl, ?_⟩
      have hsp : isWs (cp 32) = true := by decide
      rw [skipWs, List.dropWhile_cons_of_pos hsp]
      exact skipWs_cons _ _ hc.1
  induction ps generalizing p n with
  | nil =>
    obtain ⟨m, rfl⟩ : ∃ m, n = m + 1 := ⟨n - 1, by omega⟩
    simp only [List.map_cons, List.map_nil, join, List.flatMap_nil, List.append_nil] at hn ⊢
    obtain ⟨s, hs, hstr, hval⟩ := member p (by simp) m (l.newline level ++ cp 125 :: rest) (by omega)
      (ends_newline l level _ _ (ends_cons _ _ (by decide) (by decide)))
    obtain ⟨u, hu, hskip⟩ := colon p (by simp) (l.newline level ++ cp 125 :: rest)
    rw [hu] at hstr
    rw [hs, scanMembers, if_pos (by decide), hstr]
    simp only [bind, Except.bind, skipWs_cons (cp 58) u (by decide)]
    rw [if_pos (by decide), hskip, hval]
    simp only [skipWs_newline l level (cp 125) rest (by decide)]
    rfl
  | cons q qs ih =>
    obtain ⟨m, rfl⟩ : ∃ m, n = m + 1 := ⟨n - 1, by omega⟩
    rw [List.map_cons, List.map_cons, join_cons_cons] at hn ⊢
    simp only [List.length_append, List.length_cons] at hn
    obtain ⟨t, ht⟩ : ∃ t, join (cp 44 :: l.newline (level + 1)) (memberText l (level + 1) q ::
        qs.map (memberText l (level + 1))) = cp 34 :: t :=
      ⟨_, by rw [join, memberText, quote]; simp only [List.cons_append]; rfl⟩
    have hnext := ih q (fun z hz => hread z (by simp [hz])) (fun z hz => hplain z (by simp [hz]))
      (fun z hz => hkey z (by simp [hz])) m (by rw [List.map_cons]; omega)
      (fun z hz => member z (by simp [hz])) (fun z hz => colon z (by simp [hz]))
    rw [List.map_cons, ht, List.cons_append] at hnext
    rw [ht, List.append_assoc]
    obtain ⟨s, hs, hstr, hval⟩ := member p (by simp) m
      (cp 44 :: l.newline (level + 1) ++ cp 34 :: t ++ (l.newline level ++ cp 125 :: rest)) (by omega)
      (by simp only [List.cons_append]; exact ends_cons _ _ (by decide) (by decide))
    obtain ⟨u, hu, hskip⟩ := colon p (by simp)
      (cp 44 :: l.newline (level + 1) ++ cp 34 :: t ++ (l.newline level ++ cp 125 :: rest))
    rw [hu] at hstr
    rw [hs, scanMembers, if_pos (by decide), hstr]
    simp only [bind, Except.bind, skipWs_cons (cp 58) u (by decide)]
    rw [if_pos (by decide), hskip, hval]
    simp only [List.cons_append, List.append_assoc, skipWs_cons (cp 44) _ (by decide)]
    rw [if_neg (by decide), if_pos (by decide), skipWs_newline l (level + 1) (cp 34) _ (by decide), hnext]
    rfl

/-- A hook that keeps the pairs of an object whose keys are distinct. -/
def KeepsPairs (h : Hooks ε) : Prop :=
  ∀ kvs : List (Str × Json), (kvs.map Prod.fst).Nodup → h.onPairs kvs = .ok (.obj kvs)

theorem enclose_nil (l : Layout) (level : Nat) (left right : CodePoint) :
    enclose l level left right [] = [left, right] := rfl

theorem enclose_cons (l : Layout) (level : Nat) (left right : CodePoint) (t : Str) (ts : List Str) :
    enclose l level left right (t :: ts) =
      left :: (l.newline (level + 1) ++ join (cp 44 :: l.newline (level + 1)) (t :: ts) ++
        (l.newline level ++ [right])) := by
  simp [enclose]

theorem reads_scalar (h : Hooks ε) (l : Layout) (level : Nat) (v : Json) (c : CodePoint) (s : Str)
    (hd : dumps l level v = c :: s) (hc : scalarHead c) (hk : v.sortKeys = v)
    (hs : ∀ rest, Ends rest → scanScalar h (dumps l level v ++ rest) = .ok (v, rest)) : Reads h l level v := by
  intro n rest hn hr
  have hscan := hs rest hr
  rw [hd] at hn hscan ⊢
  obtain ⟨m, rfl⟩ : ∃ m, n = m + 1 := ⟨n - 1, by simp at hn; omega⟩
  rw [List.cons_append] at hscan ⊢
  rw [scanOnce_scalar h m c _ hc, hscan, hk]

theorem reads_int (h : Hooks ε) (l : Layout) (level : Nat) (n : Int) : Reads h l level (.int n) := by
  have hs : ∀ rest, Ends rest → scanScalar h (dumps l level (.int n) ++ rest) = .ok (.int n, rest) :=
    fun rest hr => scanScalar_intText h n rest hr
  cases n with
  | ofNat k =>
    obtain ⟨d, ds, hds⟩ := List.exists_cons_of_ne_nil (natText_ne_nil k)
    have hd := (isDigit_iff d).mp (natText_digit k d (by simp [hds]))
    exact reads_scalar h l level _ d ds hds ⟨by omega, by omega, by omega⟩ rfl hs
  | negSucc k => exact reads_scalar h l level _ (cp 45) _ rfl ⟨by decide, by decide, by decide⟩ rfl hs

theorem reads_str (h : Hooks ε) (l : Layout) (level : Nat) (s : Str) (hs : hasSurrogate s = false) :
    Reads h l level (.str s) := by
  intro n rest hn _
  obtain ⟨m, rfl⟩ : ∃ m, n = m + 1 := ⟨n - 1, by simp [dumps, quote] at hn; omega⟩
  have htext : dumps l level (.str s) ++ rest = cp 34 :: (s.flatMap escapeChar ++ cp 34 :: rest) := by
    simp [dumps, quote]
  rw [htext, scanOnce, if_pos (by decide), scanString_quote s rest hs]
  rfl

theorem reads_arr (h : Hooks ε) (l : Layout) (level : Nat) (xs : List Json)
    (hread : ∀ x ∈ xs, Reads h l (level + 1) x) (hplain : ∀ x ∈ xs, x.Plain) : Reads h l level (.arr xs) := by
  intro n rest hn _
  rw [dumps_arr] at hn ⊢
  rw [sortKeys_arr]
  cases xs with
  | nil =>
    obtain ⟨m, rfl⟩ : ∃ m, n = m + 1 := ⟨n - 1, by simp [enclose] at hn; omega⟩
    rw [List.map_nil, enclose_nil, List.cons_append, List.singleton_append, scanOnce,
      if_neg (by decide), if_pos (by decide), skipWs_cons _ _ (by decide)]
    rfl
  | cons x xs =>
    obtain ⟨c, s, hcs, hc⟩ := dumps_head l (level + 1) x (hplain x (by simp))
    rw [List.map_cons, enclose_cons] at hn ⊢
    simp only [List.length_append, List.length_cons, List.length_nil] at hn
    obtain ⟨m, rfl⟩ : ∃ m, n = m + 1 := ⟨n - 1, by omega⟩
    have hitems := scanItems_join h l level x xs hread hplain m rest (by rw [List.map_cons]; omega)
    rw [List.map_cons, join, hcs, List.cons_append, List.cons_append] at hitems
    rw [join, hcs]
    simp only [List.cons_append, List.append_assoc, List.nil_append] at hitems ⊢
    rw [scanOnce, if_neg (by decide), if_pos (by decide), skipWs_newline l (level + 1) c _ hc.1]
    simp only [if_neg hc.2, hitems, Except.map]

theorem reads_obj (h : Hooks ε) (hp : KeepsPairs h) (l : Layout) (level : Nat) (kvs : List (Str × Json))
    (hn : (kvs.map Prod.fst).Nodup) (hread : ∀ p ∈ kvs, Reads h l (level + 1) p.2)
    (hplain : ∀ p ∈ kvs, p.2.Plain) (hkey : ∀ p ∈ kvs, hasSurrogate p.1 = false) :
    Reads h l level (.obj kvs) := by
  intro n rest hlen _
  have hperm := sortByKey_perm kvs
  have hmem : ∀ p ∈ sortByKey kvs, p ∈ kvs := fun p hmp => hperm.mem_iff.mp hmp
  have hpairs : h.onPairs ((sortByKey kvs).map fun p => (p.1, sortKeys p.2)) =
      .ok (.obj ((sortByKey kvs).map fun p => (p.1, sortKeys p.2))) := by
    apply hp
    rw [List.map_map]
    exact ((hperm.map Prod.fst).nodup_iff).mpr hn
  rw [dumps_obj] at hlen ⊢
  rw [sortKeys_obj]
  generalize sortByKey kvs = ms at hlen hmem hpairs ⊢
  cases ms with
  | nil =>
    obtain ⟨m, rfl⟩ : ∃ m, n = m + 1 := ⟨n - 1, by simp [enclose] at hlen; omega⟩
    rw [List.map_nil] at hpairs
    rw [List.map_nil, enclose_nil, List.cons_append, List.singleton_append, scanOnce,
      if_neg (by decide), if_neg (by decide), if_pos (by decide), skipWs_cons _ _ (by decide)]
    simp only
    rw [if_pos (by decide)]
    simp only [List.map_nil, closeObject, hpairs]
  | cons p ps =>
    rw [List.map_cons, enclose_cons] at hlen ⊢
    simp only [List.length_append, List.length_cons, List.length_nil] at hlen
    obtain ⟨m, rfl⟩ : ∃ m, n = m + 1 := ⟨n - 1, by omega⟩
    have hmembers := scanMembers_join h l level p ps (fun q hq => hread q (hmem q hq))
      (fun q hq => hplain q (hmem q hq)) (fun q hq => hkey q (hmem q hq)) m rest
      (by rw [List.map_cons]; omega)
    rw [List.map_cons, join, memberText, quote] at hmembers
    rw [join, memberText, quote]
    simp only [List.cons_append, List.append_assoc, List.nil_append] at hmembers ⊢
    rw [scanOnce, if_neg (by decide), if_neg (by decide), if_pos (by decide),
      skipWs_newline l (level + 1) (cp 34) _ (by decide)]
    simp only [bind, Except.bind]
    rw [if_neg (by decide), hmembers]
    simp only [closeObject, hpairs]

/-- The scanner reads a plain value off its text, in either layout. -/
theorem reads_dumps (h : Hooks ε) (hp : KeepsPairs h) (l : Layout) (v : Json) (hv : v.Plain) :
    ∀ level, Reads h l level v := by
  induction v with
  | null =>
    intro level
    exact reads_scalar h l level _ _ _ lit_null ⟨by decide, by decide, by decide⟩ rfl
      fun rest _ => scanScalar_null h rest
  | bool b =>
    intro level
    cases b with
    | true =>
      exact reads_scalar h l level _ _ _ (by rw [dumps]; exact lit_true) ⟨by decide, by decide, by decide⟩ rfl
        fun rest _ => by rw [dumps]; exact scanScalar_true h rest
    | false =>
      exact reads_scalar h l level _ _ _ (by rw [dumps]; exact lit_false) ⟨by decide, by decide, by decide⟩ rfl
        fun rest _ => by rw [dumps]; exact scanScalar_false h rest
  | int k => exact fun level => reads_int h l level k
  | float t => cases hv
  | str s =>
    cases hv with
    | str _ hs => exact fun level => reads_str h l level s hs
  | arr xs ih =>
    cases hv with
    | arr _ hx => exact fun level => reads_arr h l level xs (fun x hm => ih x hm (hx x hm) _) hx
  | obj kvs ih =>
    cases hv with
    | obj _ hn hk hx => exact fun level => reads_obj h hp l level kvs hn (fun p hm => ih p hm (hx p hm) _) hx hk

/-- `raw_decode` reads the text of a plain value to its end. -/
theorem rawDecode_dumps (h : Hooks ε) (hp : KeepsPairs h) (l : Layout) (v : Json) (hv : v.Plain) :
    rawDecode h (dumps l 0 v) = .ok (v.sortKeys, []) := by
  have := reads_dumps h hp l v hv 0 (2 * (dumps l 0 v).length + 2) [] (by omega) ends_nil
  rwa [List.append_nil] at this

/-- `json.loads(json.dumps(v))` is `v`, with its keys in order. -/
theorem loads_dumps (h : Hooks ε) (hp : KeepsPairs h) (l : Layout) (v : Json) (hv : v.Plain)
    (hbom : (dumps l 0 v).head? ≠ some (cp 0xFEFF)) : loads h (dumps l 0 v) = .ok v.sortKeys := by
  obtain ⟨c, s, hcs, hc⟩ := dumps_head l 0 v hv
  have hskip : skipWs (dumps l 0 v) = dumps l 0 v := by rw [hcs]; exact skipWs_cons c s hc.1
  simp only [loads, if_neg hbom, hskip, rawDecode_dumps h hp l v hv]
  rfl

/-! ## What the hooks keep, the scanner keeps -/

/-- A property of values that the hooks pass on from an object's members to the object. -/
structure Hooks.Preserve (h : Hooks ε) (Q : Json → Prop) : Prop where
  null : Q .null
  bool : ∀ b, Q (.bool b)
  int : ∀ n, Q (.int n)
  str : ∀ s, Q (.str s)
  float : ∀ t v, h.onFloat t = .ok v → Q v
  constant : ∀ t v, h.onConstant t = .ok v → Q v
  arr : ∀ xs, (∀ x ∈ xs, Q x) → Q (.arr xs)
  pairs : ∀ kvs v, (∀ p ∈ kvs, Q p.2) → h.onPairs kvs = .ok v → Q v

theorem map_ok {α β : Type} {e : Except (LoadError ε) α} {f : α → β} {b : β} (h : e.map f = .ok b) :
    ∃ a, e = .ok a ∧ f a = b := by
  cases e with
  | error e => cases h
  | ok a => exact ⟨a, rfl, by simpa [Except.map] using h⟩

theorem bind_ok {α β : Type} {e : Except (LoadError ε) α} {f : α → Except (LoadError ε) β} {b : β}
    (h : (e >>= f) = .ok b) : ∃ a, e = .ok a ∧ f a = .ok b := by
  cases e with
  | error e => cases h
  | ok a => exact ⟨a, rfl, h⟩

theorem scanNumber_keeps (h : Hooks ε) (Q : Json → Prop) (hQ : h.Preserve Q) (negative : Bool) (s : Str) (v : Json)
    (rest : Str) (hs : scanNumber h negative s = .ok (v, rest)) : Q v := by
  cases s with
  | nil => cases hs
  | cons d s =>
    rw [scanNumber] at hs
    by_cases hd : isDigit d = true
    case neg =>
      rw [if_neg hd] at hs
      cases hs
    rw [if_pos hd] at hs
    simp only at hs
    generalize (if d.val = 48 then [d] else (d :: s).takeWhile isDigit) = whole at hs
    generalize (if d.val = 48 then s else (d :: s).dropWhile isDigit) = left at hs
    split at hs
    · cases hs
      exact hQ.int _
    · split at hs
      · rename_i w hw
        cases hs
        exact hQ.float _ _ hw
      · cases hs

theorem scanConstant_keeps (h : Hooks ε) (Q : Json → Prop) (hQ : h.Preserve Q) (t s : Str) (v : Json) (rest : Str)
    (hs : scanConstant h t s = .ok (v, rest)) : Q v := by
  unfold scanConstant at hs
  split at hs
  · rename_i w hw
    cases hs
    exact hQ.constant _ _ hw
  · cases hs

theorem scanScalar_keeps (h : Hooks ε) (Q : Json → Prop) (hQ : h.Preserve Q) (s : Str) (v : Json) (rest : Str)
    (hs : scanScalar h s = .ok (v, rest)) : Q v := by
  rw [scanScalar.eq_def] at hs
  split at hs
  · cases hs; exact hQ.null
  split at hs
  · cases hs; exact hQ.bool _
  split at hs
  · cases hs; exact hQ.bool _
  split at hs
  · exact scanConstant_keeps h Q hQ _ _ _ _ hs
  split at hs
  · exact scanConstant_keeps h Q hQ _ _ _ _ hs
  split at hs
  · exact scanConstant_keeps h Q hQ _ _ _ _ hs
  cases s with
  | nil => cases hs
  | cons c s =>
    simp only at hs
    split at hs
    · exact scanNumber_keeps h Q hQ _ _ _ _ hs
    · exact scanNumber_keeps h Q hQ _ _ _ _ hs

theorem closeObject_keeps (h : Hooks ε) (Q : Json → Prop) (hQ : h.Preserve Q) (kvs : List (Str × Json)) (s : Str)
    (v : Json) (rest : Str) (hkvs : ∀ p ∈ kvs, Q p.2) (hs : closeObject h kvs s = .ok (v, rest)) : Q v := by
  unfold closeObject at hs
  split at hs
  · rename_i w hw
    cases hs
    exact hQ.pairs _ _ hkvs hw
  · cases hs

theorem scan_keeps (h : Hooks ε) (Q : Json → Prop) (hQ : h.Preserve Q) (n : Nat) :
    (∀ s v rest, scanOnce h n s = .ok (v, rest) → Q v) ∧
    (∀ s xs rest, scanItems h n s = .ok (xs, rest) → ∀ x ∈ xs, Q x) ∧
    (∀ s kvs rest, scanMembers h n s = .ok (kvs, rest) → ∀ p ∈ kvs, Q p.2) := by
  induction n with
  | zero => exact ⟨by simp [scanOnce], by simp [scanItems], by simp [scanMembers]⟩
  | succ n ih =>
    obtain ⟨ihOnce, ihItems, ihMembers⟩ := ih
    refine ⟨?_, ?_, ?_⟩
    · intro s v rest hs
      cases s with
      | nil => cases hs
      | cons c s =>
        rw [scanOnce] at hs
        split at hs
        · obtain ⟨r, -, hr⟩ := map_ok hs
          cases hr
          exact hQ.str _
        split at hs
        · split at hs
          · cases hs
          · split at hs
            · cases hs
              exact hQ.arr [] (by simp)
            · obtain ⟨r, hitems, hr⟩ := map_ok hs
              cases hr
              exact hQ.arr _ (ihItems _ _ _ hitems)
        split at hs
        · split at hs
          · cases hs
          · split at hs
            · exact closeObject_keeps h Q hQ [] _ _ _ (by simp) hs
            · obtain ⟨⟨kvs, rest'⟩, hkvs, hs⟩ := bind_ok hs
              exact closeObject_keeps h Q hQ kvs rest' _ _ (ihMembers _ _ _ hkvs) hs
        · exact scanScalar_keeps h Q hQ _ _ _ hs
    · intro s xs rest hs
      rw [scanItems] at hs
      obtain ⟨⟨v, rest'⟩, hv, hs⟩ := bind_ok hs
      have hQv := ihOnce _ _ _ hv
      simp only at hs
      split at hs
      · cases hs
      · split at hs
        · cases hs
          simpa using hQv
        · split at hs
          · obtain ⟨r, hitems, hr⟩ := map_ok hs
            cases hr
            intro x hx
            rw [List.mem_cons] at hx
            rcases hx with rfl | hx
            · exact hQv
            · exact ihItems _ _ _ hitems x hx
          · cases hs
    · intro s kvs rest hs
      cases s with
      | nil => cases hs
      | cons q s =>
        rw [scanMembers] at hs
        split at hs
        case isFalse => cases hs
        obtain ⟨⟨key, rest'⟩, -, hs⟩ := bind_ok hs
        simp only at hs
        split at hs
        · cases hs
        · split at hs
          case isFalse => cases hs
          obtain ⟨⟨v, rest''⟩, hv, hs⟩ := bind_ok hs
          have hQv := ihOnce _ _ _ hv
          simp only at hs
          split at hs
          · cases hs
          · split at hs
            · cases hs
              simpa using hQv
            · split at hs
              · obtain ⟨r, hitems, hr⟩ := map_ok hs
                cases hr
                intro p hp
                rw [List.mem_cons] at hp
                rcases hp with rfl | hp
                · exact hQv
                · exact ihMembers _ _ _ hitems p hp
              · cases hs

theorem loads_keeps (h : Hooks ε) (Q : Json → Prop) (hQ : h.Preserve Q) (s : Str) (v : Json)
    (hs : loads h s = .ok v) : Q v := by
  unfold loads at hs
  split at hs
  · cases hs
  · obtain ⟨⟨w, rest⟩, hw, hs⟩ := bind_ok hs
    simp only at hs
    split at hs
    · cases hs
      exact (scan_keeps h Q hQ _).1 _ _ _ hw
    · cases hs

end

/-! ## Plain values and their text -/

theorem plain_sortKeys (v : Json) (hv : v.Plain) : v.sortKeys.Plain := by
  induction v with
  | arr xs ih =>
    cases hv with
    | arr _ hx =>
      rw [sortKeys_arr]
      refine .arr _ ?_
      intro y hy
      obtain ⟨x, hm, rfl⟩ := List.mem_map.mp hy
      exact ih x hm (hx x hm)
  | obj kvs ih =>
    cases hv with
    | obj _ hn hk hx =>
      rw [sortKeys_obj]
      have hmem : ∀ p ∈ sortByKey kvs, p ∈ kvs := fun p hp => (sortByKey_perm kvs).mem_iff.mp hp
      refine .obj _ ?_ ?_ ?_
      · rw [List.map_map]
        exact (((sortByKey_perm kvs).map Prod.fst).nodup_iff).mpr hn
      · intro q hq
        obtain ⟨p, hp, rfl⟩ := List.mem_map.mp hq
        exact hk p (hmem p hp)
      · intro q hq
        obtain ⟨p, hp, rfl⟩ := List.mem_map.mp hq
        exact ih p (hmem p hp) (hx p (hmem p hp))
  | _ => exact hv

theorem sortByKey_idem {α : Type} (kvs : List (Str × α)) : sortByKey (sortByKey kvs) = sortByKey kvs := by
  unfold sortByKey
  apply List.Pairwise.insertionSort_eq
  apply List.pairwise_insertionSort

theorem sortKeys_idem (v : Json) : v.sortKeys.sortKeys = v.sortKeys := by
  induction v with
  | arr xs ih =>
    rw [sortKeys_arr, sortKeys_arr, List.map_map]
    congr 1
    apply List.map_congr_left
    intro x hx
    exact ih x hx
  | obj kvs ih =>
    rw [sortKeys_obj, sortKeys_obj, sortByKey_map, sortByKey_idem, List.map_map]
    congr 1
    apply List.map_congr_left
    intro p hp
    simp only [Function.comp_apply]
    rw [ih p ((sortByKey_perm kvs).mem_iff.mp hp)]
  | _ => rfl

/-- The text does not depend on the order in which the dicts hold their items. -/
theorem dumps_sortKeys (l : Layout) (v : Json) : ∀ level, dumps l level v.sortKeys = dumps l level v := by
  induction v with
  | arr xs ih =>
    intro level
    rw [sortKeys_arr, dumps_arr, dumps_arr, List.map_map]
    congr 1
    apply List.map_congr_left
    intro x hx
    exact ih x hx _
  | obj kvs ih =>
    intro level
    rw [sortKeys_obj, dumps_obj, dumps_obj, sortByKey_map, sortByKey_idem, List.map_map]
    congr 1
    apply List.map_congr_left
    intro p hp
    simp only [Function.comp_apply, memberText]
    rw [ih p ((sortByKey_perm kvs).mem_iff.mp hp)]
  | _ => intro level; rfl

/-- The characters of a text: printable ASCII, and line feeds when it is indented. -/
def textChar (l : Layout) (c : CodePoint) : Prop := (32 ≤ c.val ∧ c.val ≤ 126) ∨ (l = .indented ∧ c.val = 10)

theorem hexDigit_textChar (l : Layout) (n : Nat) (h : n < 16) : textChar l (hexDigit n) := by
  have : ∀ k < 16, 32 ≤ (hexDigit k).val ∧ (hexDigit k).val ≤ 126 := by decide
  exact Or.inl (this n h)

theorem unicodeEscape_textChar (l : Layout) (n : Nat) : ∀ c ∈ unicodeEscape n, textChar l c := by
  have hx : ∀ k, textChar l (hexDigit (k % 16)) := fun k => hexDigit_textChar l _ (Nat.mod_lt _ (by omega))
  intro c hc
  simp only [unicodeEscape, List.mem_cons, List.not_mem_nil, or_false] at hc
  rcases hc with rfl | rfl | rfl | rfl | rfl | rfl
  · exact Or.inl (by decide)
  · exact Or.inl (by decide)
  · exact hx _
  · exact hx _
  · exact hx _
  · exact hx _

theorem escapeChar_textChar (l : Layout) (c : CodePoint) : ∀ x ∈ escapeChar c, textChar l x := by
  have two : ∀ e : CodePoint, (32 ≤ e.val ∧ e.val ≤ 126) → ∀ x ∈ [cp 92, e], textChar l x := by
    intro e he x hx
    simp only [List.mem_cons, List.not_mem_nil, or_false] at hx
    rcases hx with rfl | rfl
    · exact Or.inl (by decide)
    · exact Or.inl he
  unfold escapeChar
  split_ifs with h1 h2 h3 h4 h5 h6 h7 h8 h9
  · exact two _ (by decide)
  · exact two _ (by decide)
  · exact two _ (by decide)
  · exact two _ (by decide)
  · exact two _ (by decide)
  · exact two _ (by decide)
  · exact two _ (by decide)
  · intro x hx
    rw [List.mem_singleton] at hx
    subst hx
    exact Or.inl h8
  · exact unicodeEscape_textChar l _
  · intro x hx
    rw [List.mem_append] at hx
    rcases hx with hx | hx
    · exact unicodeEscape_textChar l _ x hx
    · exact unicodeEscape_textChar l _ x hx

theorem quote_textChar (l : Layout) (s : Str) : ∀ x ∈ quote s, textChar l x := by
  intro x hx
  simp only [quote, List.cons_append, List.mem_cons, List.mem_append, List.mem_flatMap, List.not_mem_nil,
    or_false] at hx
  rcases hx with rfl | ⟨c, -, hx⟩ | rfl
  · exact Or.inl (by decide)
  · exact escapeChar_textChar l c x hx
  · exact Or.inl (by decide)

theorem newline_textChar (l : Layout) (level : Nat) : ∀ x ∈ l.newline level, textChar l x := by
  cases l with
  | compact => simp [Layout.newline]
  | indented =>
    intro x hx
    simp only [Layout.newline, List.mem_cons, List.mem_replicate] at hx
    rcases hx with rfl | ⟨-, rfl⟩
    · exact Or.inr ⟨rfl, by decide⟩
    · exact Or.inl (by decide)

theorem colon_textChar (l : Layout) : ∀ x ∈ l.colon, textChar l x := by
  cases l with
  | compact =>
    intro x hx
    rw [Layout.colon, List.mem_singleton] at hx
    subst hx
    exact Or.inl (by decide)
  | indented =>
    intro x hx
    simp only [Layout.colon, List.mem_cons, List.not_mem_nil, or_false] at hx
    rcases hx with rfl | rfl
    · exact Or.inl (by decide)
    · exact Or.inl (by decide)

theorem mem_join (sep : Str) (ts : List Str) (c : CodePoint) (h : c ∈ join sep ts) :
    c ∈ sep ∨ ∃ t ∈ ts, c ∈ t := by
  cases ts with
  | nil => simp [join] at h
  | cons t ts =>
    simp only [join, List.mem_append, List.mem_flatMap] at h
    rcases h with h | ⟨u, hu, h | h⟩
    · exact Or.inr ⟨t, by simp, h⟩
    · exact Or.inl h
    · exact Or.inr ⟨u, by simp [hu], h⟩

theorem enclose_textChar (l : Layout) (level : Nat) (left right : CodePoint) (ts : List Str)
    (hl : textChar l left) (hr : textChar l right) (ht : ∀ t ∈ ts, ∀ x ∈ t, textChar l x) :
    ∀ x ∈ enclose l level left right ts, textChar l x := by
  cases ts with
  | nil =>
    intro x hx
    simp only [enclose_nil, List.mem_cons, List.not_mem_nil, or_false] at hx
    rcases hx with rfl | rfl
    · exact hl
    · exact hr
  | cons t ts =>
    intro x hx
    simp only [enclose_cons, List.mem_cons, List.mem_append, List.not_mem_nil, or_false] at hx
    rcases hx with rfl | (hx | hx) | hx | rfl
    · exact hl
    · exact newline_textChar l _ x hx
    · rcases mem_join _ _ x hx with hx | ⟨u, hu, hx⟩
      · rw [List.mem_cons] at hx
        rcases hx with rfl | hx
        · exact Or.inl (by decide)
        · exact newline_textChar l _ x hx
      · exact ht u hu x hx
    · exact newline_textChar l _ x hx
    · exact hr

theorem lit_textChar (l : Layout) (s : String) (hs : s.toList.all (fun c => 32 ≤ c.toNat && c.toNat ≤ 126)) :
    ∀ x ∈ lit s, textChar l x := by
  intro x hx
  obtain ⟨c, hc, rfl⟩ := List.mem_map.mp hx
  have := List.all_eq_true.mp hs c hc
  simp only [Bool.and_eq_true, decide_eq_true_eq] at this
  exact Or.inl this

theorem natText_textChar (l : Layout) (n : Nat) : ∀ x ∈ natText n, textChar l x := by
  intro x hx
  have := (isDigit_iff x).mp (natText_digit n x hx)
  exact Or.inl ⟨by omega, by omega⟩

theorem dumps_textChar (l : Layout) (v : Json) (hv : v.Plain) :
    ∀ level, ∀ x ∈ dumps l level v, textChar l x := by
  induction v with
  | null => exact fun _ => lit_textChar l "null" (by decide)
  | bool b =>
    cases b with
    | true => exact fun _ => lit_textChar l "true" (by decide)
    | false => exact fun _ => lit_textChar l "false" (by decide)
  | int n =>
    intro _ x hx
    cases n with
    | ofNat k => exact natText_textChar l k x hx
    | negSucc k =>
      rw [dumps, intText, List.mem_cons] at hx
      rcases hx with rfl | hx
      · exact Or.inl (by decide)
      · exact natText_textChar l _ x hx
  | float t => cases hv
  | str s => exact fun _ x hx => quote_textChar l s x hx
  | arr xs ih =>
    cases hv with
    | arr _ hx =>
      intro level
      rw [dumps_arr]
      apply enclose_textChar l level _ _ _ (Or.inl (by decide)) (Or.inl (by decide))
      intro t ht
      obtain ⟨y, hy, rfl⟩ := List.mem_map.mp ht
      exact ih y hy (hx y hy) _
  | obj kvs ih =>
    cases hv with
    | obj _ hn hk hx =>
      intro level
      rw [dumps_obj]
      apply enclose_textChar l level _ _ _ (Or.inl (by decide)) (Or.inl (by decide))
      intro t ht
      obtain ⟨p, hp, rfl⟩ := List.mem_map.mp ht
      have hm := (sortByKey_perm kvs).mem_iff.mp hp
      intro x hxt
      simp only [memberText, List.mem_append] at hxt
      rcases hxt with (hxt | hxt) | hxt
      · exact quote_textChar l _ x hxt
      · exact colon_textChar l x hxt
      · exact ih p hm (hx p hm) _ x hxt

end TurnVector.Python.Json
