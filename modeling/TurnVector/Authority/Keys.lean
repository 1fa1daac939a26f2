import TurnVector.Authority.PercentCodec
import TurnVector.Python.Digits

/-! # Compile keys and run keys -/

namespace TurnVector.Relations

open Python Json Canonical

/-! ## The code -/

/-- `_KEY_ARITIES` -/
def keyArities : List (Str × Nat) :=
  [(lit "case", 1), (lit "lane-context", 2), (lit "evidence", 2), (lit "bundle", 1), (lit "judge", 1),
   (lit "gate-input", 1), (lit "gate-result", 1), (lit "judge-negative", 2), (lit "gate-negative", 2),
   (lit "plumbing-negative", 2), (lit "lane-output", 2), (lit "compile-attempt", 1), (lit "compile-output", 1)]

/-- `_LITERAL_KEYS` -/
def literalKeys : List Str :=
  [lit "compile-history", lit "run-environment", lit "attempt-chronology", lit "run-manifest", lit "report",
   lit "run-seal"]

/-- `_H_FAMILIES` -/
def hFamilies : List Str := [lit "evidence", lit "bundle", lit "judge", lit "judge-negative"]

/-- The families whose one component is the number of an attempt. -/
def attemptFamilies : List Str := [lit "compile-attempt", lit "compile-output"]

/-- What `validate_key` adds for one component. -/
def decodeComponent (family : Str) (index : Nat) (component : Str) : Except Exc (List Str) :=
  if occurs family hFamilies && index == 0 then do
    let (o, c, j, b, g) ← decodeEnforcementPath component
    return [o, c, j, b, g]
  else do return [← decodeIdentifier component]

/-- The loop of `validate_key` over the components of a family. -/
def decodeComponents (family : Str) (index : Nat) : List Str → Except Exc (List Str)
  | [] => return []
  | component :: components => do
    let decoded ← decodeComponent family index component
    return decoded ++ (← decodeComponents family (index + 1) components)

/-- `validate_key` -/
def validateKey (key : Str) : Except Exc (Str × List Str) :=
  if occurs key literalKeys then .ok (key, [])
  else match key.splitOn (cp 47) with
    | [] => .error (.valueError (lit "unknown key family or wrong arity"))
    | family :: components =>
      if keyArities.lookup family ≠ some components.length then
        .error (.valueError (lit "unknown key family or wrong arity"))
      else if occurs family attemptFamilies then
        let attempt := components.headD []
        if !strIsDigit attempt || attempt.head? = some (cp 48) then
          .error (.valueError (lit "attempt is not canonical decimal"))
        else .ok (family, [attempt])
      else do return (family, ← decodeComponents family 0 components)

/-! ## The keys there are -/

/-- `"/".join(parts)` -/
def joinSlash (parts : List Str) : Str := [cp 47].intercalate parts

/-- The component that stands for an identifier. -/
def Encodes (value component : Str) : Prop := isIdentifier value = true ∧ pctEncode value = .ok component

/-- A key with its family and its values, when `numeral` says how the number of an attempt is written. -/
inductive KeyOf (numeral : Str → Prop) (key : Str) : Str → List Str → Prop
  | literal (hliteral : key ∈ literalKeys) : KeyOf numeral key key []
  | attempt (family ds : Str) (hfamily : family ∈ attemptFamilies) (hds : numeral ds)
      (hkey : key = joinSlash [family, ds]) : KeyOf numeral key family [ds]
  | named (family : Str) (values components : List Str) (hattempt : family ∉ attemptFamilies)
      (hplain : family ∉ hFamilies) (harity : keyArities.lookup family = some components.length)
      (hvalues : List.Forall₂ Encodes values components) (hkey : key = joinSlash (family :: components)) :
      KeyOf numeral key family values
  | path (family o c j b g h : Str) (values components : List Str) (hfamily : family ∈ hFamilies)
      (harity : keyArities.lookup family = some (components.length + 1))
      (hpath : encodeEnforcementPath o c j b g = .ok h) (hvalues : List.Forall₂ Encodes values components)
      (hkey : key = joinSlash (family :: h :: components)) :
      KeyOf numeral key family (o :: c :: j :: b :: g :: values)

/-- The numbers that `validate_key` lets through. -/
def Attempt (ds : Str) : Prop := strIsDigit ds = true ∧ ds.head? ≠ some (cp 48)

/-- The decimal text of a positive number. -/
def PositiveDecimal (ds : Str) : Prop := ∃ n, 0 < n ∧ ds = natText n

/-- A key with its family and its values. -/
def CanonicalKey (key family : Str) (values : List Str) : Prop := KeyOf PositiveDecimal key family values

/-- The key that a family and its values spell. -/
def rebuildKey (family : Str) (values : List Str) : Except Exc Str :=
  if occurs family literalKeys then return family
  else if occurs family attemptFamilies then return joinSlash (family :: values)
  else if occurs family hFamilies then
    match values with
    | o :: c :: j :: b :: g :: rest => do
      return joinSlash (family :: (← encodeEnforcementPath o c j b g) :: (← rest.mapM pctEncode))
    | _ => .error (.valueError (lit "enforcement path must contain exactly five fields"))
  else return joinSlash (family :: (← values.mapM pctEncode))

/-! ## Splitting -/

theorem slash_not_identifier (s : Str) (h : isIdentifier s = true) : cp 47 ∉ s := by
  intro hm
  have := identifierChar_bounds _ (identifier_chars s h _ hm)
  rw [cp_val 47 (by omega)] at this
  omega

theorem slash_not_tilde (pieces : List Str) (h : ∀ piece ∈ pieces, cp 47 ∉ piece) : cp 47 ∉ joinTilde pieces := by
  unfold joinTilde
  have hne : cp 47 ≠ cp 126 := by decide
  induction pieces with
  | nil => simp
  | cons piece pieces ih =>
    have hpiece := h piece (by simp)
    have hrest := ih fun p hp => h p (by simp [hp])
    cases pieces with
    | nil => simpa using hpiece
    | cons next pieces =>
      rw [List.intercalate_cons_cons]
      simp only [List.mem_append, List.mem_singleton, not_or]
      exact ⟨⟨hpiece, hne⟩, hrest⟩

theorem encodes_iff (component value : Str) : decodeIdentifier component = .ok value ↔ Encodes value component := by
  rw [decodeIdentifier_iff, Encodes]
  constructor
  · rintro ⟨rfl, hid⟩
    exact ⟨hid, pctEncode_identifier component hid⟩
  · rintro ⟨hid, henc⟩
    rw [pctEncode_identifier value hid] at henc
    exact ⟨(Except.ok.inj henc).symm, hid⟩

theorem encodes_no_slash (values components : List Str) (h : List.Forall₂ Encodes values components) :
    ∀ component ∈ components, cp 47 ∉ component := by
  induction h with
  | nil => simp
  | cons hhead _ ih =>
    obtain ⟨rfl, hid⟩ := (decodeIdentifier_iff _ _).mp ((encodes_iff _ _).mpr hhead)
    simp only [List.mem_cons, forall_eq_or_imp]
    exact ⟨slash_not_identifier _ hid, ih⟩

theorem path_no_slash (o c j b g h : Str) (hpath : encodeEnforcementPath o c j b g = .ok h) : cp 47 ∉ h := by
  obtain ⟨hf, rfl⟩ := (encodeEnforcementPath_iff o c j b g h).mp hpath
  apply slash_not_tilde
  simp only [List.mem_cons, List.not_mem_nil, or_false, forall_eq_or_imp, forall_eq]
  exact ⟨slash_not_identifier o hf.obligation, slash_not_identifier c hf.case, slash_not_identifier j hf.judge,
    slash_not_identifier b hf.bundle, slash_not_identifier g hf.gate⟩

theorem slash_not_digit (ds : Str) (h : strIsDigit ds = true) : cp 47 ∉ ds := by
  simp only [strIsDigit, Bool.and_eq_true, List.all_eq_true] at h
  intro hm
  have := h.2 _ hm
  revert this
  decide

/-- A family is found only with an arity of one or more, and its name holds no slash. -/
theorem arity_family (family : Str) (n : Nat) (h : keyArities.lookup family = some n) :
    0 < n ∧ cp 47 ∉ family := by
  have hall : ∀ entry ∈ keyArities, 0 < entry.2 ∧ cp 47 ∉ entry.1 := by decide
  obtain ⟨l₁, l₂, hsplit, -⟩ := List.lookup_eq_some_iff.mp h
  exact hall (family, n) (by rw [hsplit]; simp)

/-! ## What is accepted -/

/-- The parts of a key that is no literal are read back from the key. -/
theorem validateKey_join (family : Str) (components : List Str)
    (harity : keyArities.lookup family = some components.length) (hc : ∀ component ∈ components, cp 47 ∉ component) :
    joinSlash (family :: components) ∉ literalKeys ∧
      (joinSlash (family :: components)).splitOn (cp 47) = family :: components := by
  obtain ⟨hpos, hslash⟩ := arity_family family _ harity
  constructor
  · have hliteral : ∀ key ∈ literalKeys, cp 47 ∉ key := by decide
    intro hm
    apply hliteral _ hm
    obtain ⟨component, rest, rfl⟩ := List.exists_cons_of_length_pos hpos
    rw [joinSlash, List.intercalate_cons_cons]
    simp
  · apply List.splitOn_intercalate
    · simp only [List.mem_cons, forall_eq_or_imp]
      exact ⟨hslash, hc⟩
    · simp

/-- After the first component, and in a family without paths, every component is an identifier. -/
theorem decodeComponents_plain (family : Str) (index : Nat) (components values : List Str)
    (h : (occurs family hFamilies && index == 0) = false) :
    decodeComponents family index components = .ok values ↔ List.Forall₂ Encodes values components := by
  induction components generalizing index values with
  | nil =>
    simp only [decodeComponents, pure, Except.pure, Except.ok.injEq, List.forall₂_nil_right_iff]
    exact eq_comm
  | cons component components ih =>
    have hrest : (occurs family hFamilies && (index + 1) == 0) = false := by simp
    rw [List.forall₂_cons_right_iff]
    simp only [decodeComponents, decodeComponent, h, Bool.false_eq_true, if_false, bind_ok_iff, pure, Except.pure,
      Except.ok.injEq]
    constructor
    · rintro ⟨_, ⟨value, hvalue, rfl⟩, rest, htail, rfl⟩
      exact ⟨value, rest, (encodes_iff _ _).mp hvalue, (ih (index + 1) rest hrest).mp htail, rfl⟩
    · rintro ⟨value, rest, hvalue, htail, rfl⟩
      exact ⟨_, ⟨value, (encodes_iff _ _).mpr hvalue, rfl⟩, rest, (ih (index + 1) rest hrest).mpr htail, rfl⟩

theorem decodeComponents_path (family component : Str) (components values : List Str) (h : family ∈ hFamilies) :
    decodeComponents family 0 (component :: components) = .ok values ↔
      ∃ o c j b g rest, encodeEnforcementPath o c j b g = .ok component ∧ List.Forall₂ Encodes rest components ∧
        values = o :: c :: j :: b :: g :: rest := by
  have hfirst : (occurs family hFamilies && (0 : Nat) == 0) = true := by simpa using h
  have hrest : (occurs family hFamilies && (0 + 1 : Nat) == 0) = false := by simp
  simp only [decodeComponents, decodeComponent, hfirst, if_true, bind_ok_iff, pure, Except.pure, Except.ok.injEq]
  constructor
  · rintro ⟨_, ⟨⟨o, c, j, b, g⟩, hpath, rfl⟩, rest, htail, rfl⟩
    exact ⟨o, c, j, b, g, rest, (decodeEnforcementPath_iff _ _ _ _ _ _).mp hpath,
      (decodeComponents_plain family _ components rest hrest).mp htail, rfl⟩
  · rintro ⟨o, c, j, b, g, rest, hpath, htail, rfl⟩
    exact ⟨_, ⟨(o, c, j, b, g), (decodeEnforcementPath_iff _ _ _ _ _ _).mpr hpath, rfl⟩, rest,
      (decodeComponents_plain family _ components rest hrest).mpr htail, rfl⟩

/-- A key is accepted with the family and the values it spells, the number of an attempt in any digits. -/
theorem validateKey_iff (key family : Str) (values : List Str) :
    validateKey key = .ok (family, values) ↔ KeyOf Attempt key family values := by
  constructor
  · intro h
    unfold validateKey at h
    split at h
    case isTrue hliteral =>
      cases h
      exact .literal ((occurs_iff _ _).mp hliteral)
    case isFalse =>
      have hjoin : joinSlash (key.splitOn (cp 47)) = key := List.intercalate_splitOn (cp 47)
      split at h
      · cases h
      · rename_i family' components hsplit
        rw [hsplit] at hjoin
        split at h
        · cases h
        · rename_i harity
          rw [ne_eq, not_not] at harity
          split at h
          case isTrue hattempt =>
            rw [occurs_iff] at hattempt
            simp only at h
            split at h
            · cases h
            · rename_i hds
              simp only [Bool.or_eq_true, Bool.not_eq_true', decide_eq_true_eq, not_or, Bool.not_eq_false] at hds
              have hone : keyArities.lookup family' = some 1 := by
                have : ∀ f ∈ attemptFamilies, keyArities.lookup f = some 1 := by decide
                exact this _ hattempt
              obtain ⟨attempt, rfl⟩ : ∃ attempt, components = [attempt] :=
                List.length_eq_one_iff.mp (Option.some.inj (harity.symm.trans hone))
              cases h
              exact .attempt family attempt hattempt hds hjoin.symm
          case isFalse hattempt =>
            rw [occurs_iff] at hattempt
            simp only [bind_ok_iff, pure, Except.pure, Except.ok.injEq, Prod.mk.injEq] at h
            obtain ⟨values', hvalues, rfl, rfl⟩ := h
            by_cases hpath : family' ∈ hFamilies
            · obtain ⟨component, rest, rfl⟩ :=
                List.exists_cons_of_length_pos (arity_family family' _ harity).1
              obtain ⟨o, c, j, b, g, tail, henc, htail, rfl⟩ :=
                (decodeComponents_path family' component rest values' hpath).mp hvalues
              exact .path family' o c j b g component tail rest hpath harity henc htail hjoin.symm
            · have hplain : (occurs family' hFamilies && (0 : Nat) == 0) = false := by
                rw [Bool.and_eq_false_iff, ← Bool.not_eq_true, occurs_iff]
                exact .inl hpath
              exact .named family' values' components hattempt hpath harity
                ((decodeComponents_plain family' 0 components values' hplain).mp hvalues) hjoin.symm
  · intro h
    cases h with
    | literal hliteral => exact if_pos ((occurs_iff _ _).mpr hliteral)
    | attempt _ ds hfamily hds hkey =>
      have harity : keyArities.lookup family = some [ds].length := by
        have : ∀ f ∈ attemptFamilies, keyArities.lookup f = some 1 := by decide
        exact this _ hfamily
      obtain ⟨hliteral, hsplit⟩ := validateKey_join family [ds] harity (by simpa using slash_not_digit ds hds.1)
      subst hkey
      unfold validateKey
      rw [if_neg (by rwa [occurs_iff]), hsplit]
      simp only [harity, ne_eq, not_true, if_false, (occurs_iff _ _).mpr hfamily, if_true, List.headD_cons, hds.1,
        Bool.not_true, Bool.false_or, decide_eq_true_eq, hds.2]
    | named _ _ components hattempt hplain harity hvalues hkey =>
      obtain ⟨hliteral, hsplit⟩ := validateKey_join family components harity (encodes_no_slash values components hvalues)
      have hfirst : (occurs family hFamilies && (0 : Nat) == 0) = false := by
        rw [Bool.and_eq_false_iff, ← Bool.not_eq_true, occurs_iff]
        exact .inl hplain
      have hdecoded := (decodeComponents_plain family 0 components values hfirst).mpr hvalues
      subst hkey
      unfold validateKey
      rw [if_neg (by rwa [occurs_iff]), hsplit]
      simp only [harity, ne_eq, not_true, if_false, if_neg (show ¬ occurs family attemptFamilies = true by
        rwa [occurs_iff]), hdecoded]
      rfl
    | path _ o c j b g h values components hfamily harity hpath hvalues hkey =>
      have hslash : ∀ component ∈ h :: components, cp 47 ∉ component := by
        simp only [List.mem_cons, forall_eq_or_imp]
        exact ⟨path_no_slash o c j b g h hpath, encodes_no_slash values components hvalues⟩
      obtain ⟨hliteral, hsplit⟩ := validateKey_join family (h :: components) harity hslash
      have hattempt : ¬ occurs family attemptFamilies = true := by
        have : ∀ f ∈ hFamilies, ¬ occurs f attemptFamilies = true := by decide
        exact this _ hfamily
      have hdecoded := (decodeComponents_path family h components _ hfamily).mpr
        ⟨o, c, j, b, g, values, hpath, hvalues, rfl⟩
      subst hkey
      unfold validateKey
      rw [if_neg (by rwa [occurs_iff]), hsplit]
      simp only [List.length_cons, harity, ne_eq, not_true, if_false, if_neg hattempt, hdecoded]
      rfl

/-! ## What is spelled -/

theorem mapM_encodes (values components : List Str) (h : List.Forall₂ Encodes values components) :
    values.mapM pctEncode = .ok components := by
  induction h with
  | nil => rfl
  | cons hhead _ ih =>
    rw [List.mapM_cons, hhead.2, ih]
    rfl

/-- A key is rebuilt from its family and its values. -/
theorem rebuildKey_key (numeral : Str → Prop) (key family : Str) (values : List Str)
    (h : KeyOf numeral key family values) : rebuildKey family values = .ok key := by
  have harities : ∀ f ∈ literalKeys, keyArities.lookup f = none := by decide
  have hliteral (n : Nat) (harity : keyArities.lookup family = some n) : ¬ occurs family literalKeys = true := by
    rw [occurs_iff]
    intro hm
    rw [harities family hm] at harity
    cases harity
  unfold rebuildKey
  cases h with
  | literal h => rw [if_pos ((occurs_iff _ _).mpr h)]; rfl
  | attempt _ ds hfamily hds hkey =>
    have harity : ∀ f ∈ attemptFamilies, keyArities.lookup f = some 1 := by decide
    rw [if_neg (hliteral 1 (harity family hfamily)), if_pos ((occurs_iff _ _).mpr hfamily), hkey]
    rfl
  | named _ _ components hattempt hplain harity hvalues hkey =>
    rw [if_neg (hliteral _ harity), if_neg (by rwa [occurs_iff]), if_neg (by rwa [occurs_iff]),
      mapM_encodes values components hvalues, hkey]
    rfl
  | path _ o c j b g h values components hfamily harity hpath hvalues hkey =>
    have hattempt : ∀ f ∈ hFamilies, ¬ occurs f attemptFamilies = true := by decide
    rw [if_neg (hliteral _ harity), if_neg (hattempt family hfamily), if_pos ((occurs_iff _ _).mpr hfamily)]
    simp only [hpath, mapM_encodes values components hvalues, hkey]
    rfl

/-- A key is accepted exactly when it is canonical, and is rebuilt from what is returned. -/
structure ExactlyCanonical (key : Str) : Prop where
  accepted : ∀ family values, validateKey key = .ok (family, values) ↔ CanonicalKey key family values
  rebuilt : ∀ family values, validateKey key = .ok (family, values) → rebuildKey family values = .ok key

/-- The key of an attempt whose number holds a digit that is not ASCII. -/
def ForeignAttempt (key : Str) : Prop :=
  ∃ family ∈ attemptFamilies, ∃ ds, Attempt ds ∧ (∃ c ∈ ds, 128 ≤ c.val) ∧ key = joinSlash [family, ds]

theorem attempt_natText (n : Nat) (hn : 0 < n) : Attempt (natText n) := by
  obtain ⟨c, ds, htext, hc, -⟩ := natText_head n hn
  constructor
  · simp only [strIsDigit, Bool.and_eq_true, List.all_eq_true, Bool.not_eq_true', List.isEmpty_eq_false_iff]
    refine ⟨natText_ne_nil n, fun d hd => ?_⟩
    have hdigit := natText_digit n d hd
    have hascii : d.val < 128 := by
      simp only [isDigit, Bool.and_eq_true, decide_eq_true_eq] at hdigit
      omega
    rw [isUnicodeDigit_ascii d hascii, hdigit]
  · rw [htext, List.head?_cons]
    intro hzero
    have := congrArg Fin.val (Option.some.inj hzero)
    rw [cp_val 48 (by omega)] at this
    omega

/-- An attempt in ASCII digits is the text of a positive number. -/
theorem positiveDecimal_of_attempt (ds : Str) (h : Attempt ds) (hascii : ∀ c ∈ ds, c.val < 128) :
    PositiveDecimal ds := by
  obtain ⟨hdigits, hzero⟩ := h
  simp only [strIsDigit, Bool.and_eq_true, List.all_eq_true, Bool.not_eq_true', List.isEmpty_eq_false_iff] at hdigits
  have hd : ∀ c ∈ ds, isDigit c = true := by
    intro c hc
    rw [← isUnicodeDigit_ascii c (hascii c hc)]
    exact hdigits.2 c hc
  obtain ⟨hpos, htext⟩ := natText_natOf ds hd hdigits.1 hzero
  exact ⟨natOf ds, hpos, htext.symm⟩

theorem attempt_of_positiveDecimal (ds : Str) (h : PositiveDecimal ds) : Attempt ds ∧ ∀ c ∈ ds, c.val < 128 := by
  obtain ⟨n, hn, rfl⟩ := h
  refine ⟨attempt_natText n hn, fun c hc => ?_⟩
  have := natText_digit n c hc
  simp only [isDigit, Bool.and_eq_true, decide_eq_true_eq] at this
  omega

/-- Another rule for the number of an attempt gives the same keys where the numbers are the same. -/
theorem KeyOf.mono (numeral numeral' : Str → Prop) (key family : Str) (values : List Str)
    (h : KeyOf numeral key family values)
    (hnumeral : ∀ f ∈ attemptFamilies, ∀ ds, key = joinSlash [f, ds] → numeral ds → numeral' ds) :
    KeyOf numeral' key family values := by
  cases h with
  | literal h => exact .literal h
  | attempt _ ds hfamily hds hkey => exact .attempt family ds hfamily (hnumeral family hfamily ds hkey hds) hkey
  | named _ _ components hattempt hplain harity hvalues hkey =>
    exact .named family values components hattempt hplain harity hvalues hkey
  | path _ o c j b g h values components hfamily harity hpath hvalues hkey =>
    exact .path family o c j b g h values components hfamily harity hpath hvalues hkey

/-- In the family of an attempt, the one value is its number. -/
theorem KeyOf.numeral (numeral : Str → Prop) (key family ds : Str) (h : KeyOf numeral key family [ds])
    (hfamily : family ∈ attemptFamilies) : numeral ds := by
  cases h with
  | attempt _ _ _ hds _ => exact hds
  | named _ _ _ hattempt => exact absurd hfamily hattempt

theorem ForeignAttempt.not_exact (key : Str) (h : ForeignAttempt key) : ¬ ExactlyCanonical key := by
  rintro ⟨haccepted, -⟩
  obtain ⟨family, hfamily, ds, hds, ⟨c, hc, hforeign⟩, hkey⟩ := h
  have hcode := (validateKey_iff key family [ds]).mpr (.attempt family ds hfamily hds hkey)
  have hnumeral := ((haccepted family [ds]).mp hcode).numeral _ _ _ _ hfamily
  have := (attempt_of_positiveDecimal ds hnumeral).2 c hc
  omega

/-- The keys that are not canonical, and accepted, are those of an attempt in digits of another script. -/
theorem validateKey_exact (key : Str) : ExactlyCanonical key ↔ ¬ ForeignAttempt key := by
  constructor
  · intro hexact hforeign
    exact hforeign.not_exact key hexact
  · intro hforeign
    refine ⟨fun family values => ?_, fun family values h => ?_⟩
    · rw [validateKey_iff]
      constructor
      · intro h
        apply KeyOf.mono Attempt PositiveDecimal key family values h
        intro f hf ds hkey hds
        apply positiveDecimal_of_attempt ds hds
        intro c hc
        by_contra hge
        exact hforeign ⟨f, hf, ds, hds, ⟨c, hc, by omega⟩, hkey⟩
      · intro h
        exact KeyOf.mono PositiveDecimal Attempt key family values h
          fun _ _ ds _ hds => (attempt_of_positiveDecimal ds hds).1
    · exact rebuildKey_key Attempt key family values ((validateKey_iff key family values).mp h)

/-- A superscript two is accepted as the number of an attempt. -/
theorem validateKey_superscript :
    validateKey (lit "compile-attempt/" ++ [cp 0xB2]) = .ok (lit "compile-attempt", [[cp 0xB2]]) ∧
      ¬ ExactlyCanonical (lit "compile-attempt/" ++ [cp 0xB2]) := by
  refine ⟨by decide +kernel, ForeignAttempt.not_exact _ ?_⟩
  exact ⟨lit "compile-attempt", by decide, [cp 0xB2], ⟨by decide, by decide⟩, ⟨cp 0xB2, by simp, by decide⟩,
    by decide⟩

end TurnVector.Relations
