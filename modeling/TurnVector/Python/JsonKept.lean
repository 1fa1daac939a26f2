import TurnVector.Python.JsonLimits
import TurnVector.Python.JsonText

/-! # `json.loads` undoes `json.dumps` with `ensure_ascii=False` -/

namespace TurnVector.Python.Json

/-- A value of dicts, lists, strings, integers, booleans and `None`. -/
inductive Floatless : Json → Prop
  | null : Floatless .null
  | bool (b : Bool) : Floatless (.bool b)
  | int (n : Int) : Floatless (.int n)
  | str (s : Str) : Floatless (.str s)
  | arr (xs : List Json) (h : ∀ x ∈ xs, Floatless x) : Floatless (.arr xs)
  | obj (kvs : List (Str × Json)) (hn : (kvs.map Prod.fst).Nodup) (hv : ∀ p ∈ kvs, Floatless p.2) :
      Floatless (.obj kvs)

mutual

/-- `json.dumps` reaches neither limit. -/
def dumpable (limits : Limits) (level : Nat) : Json → Bool
  | .int n => !exceeds limits.digits (digitCount n)
  | .arr xs => !exceeds limits.depth (level + 1) && dumpableItems limits (level + 1) xs
  | .obj kvs => !exceeds limits.depth (level + 1) && dumpableMembers limits (level + 1) kvs
  | _ => true

def dumpableItems (limits : Limits) (level : Nat) : List Json → Bool
  | [] => true
  | x :: xs => dumpable limits level x && dumpableItems limits level xs

def dumpableMembers (limits : Limits) (level : Nat) : List (Str × Json) → Bool
  | [] => true
  | (_, v) :: kvs => dumpable limits level v && dumpableMembers limits level kvs

end

theorem dumpableItems_iff (limits : Limits) (level : Nat) (xs : List Json) :
    dumpableItems limits level xs = true ↔ ∀ x ∈ xs, dumpable limits level x = true := by
  induction xs with
  | nil => simp [dumpableItems]
  | cons x xs ih => simp [dumpableItems, ih]

theorem dumpableMembers_iff (limits : Limits) (level : Nat) (kvs : List (Str × Json)) :
    dumpableMembers limits level kvs = true ↔ ∀ p ∈ kvs, dumpable limits level p.2 = true := by
  induction kvs with
  | nil => simp [dumpableMembers]
  | cons p kvs ih => simp [dumpableMembers, ih]

section
variable {ε : Type}

/-! ## String literals -/

/-- What `scanUnits` reads back of one character. -/
def keptUnit (c : CodePoint) : CharUnit :=
  if c.val = 8 ∨ c.val = 9 ∨ c.val = 10 ∨ c.val = 12 ∨ c.val = 13 ∨ 32 ≤ c.val then .plain c else .escaped c.val

theorem scanUnits_keepChar (c : CodePoint) (rest : Str) :
    scanUnits (ε := ε) (keepChar c ++ rest) = (scanUnits rest).map fun r => (keptUnit c :: r.1, r.2) := by
  unfold keepChar
  -- The seven one-letter escapes come first, in the order that `keepChar` tries them.
  have short : ∀ (n : Nat) (e d : CodePoint), c.val = n → e.val ≠ 117 → shortEscape e = some d → d.val = n →
      (n = 8 ∨ n = 9 ∨ n = 10 ∨ n = 12 ∨ n = 13 ∨ 32 ≤ n) →
      scanUnits (ε := ε) ([cp 92, e] ++ rest) = (scanUnits rest).map fun r => (keptUnit c :: r.1, r.2) := by
    intro n e d hc hu hd hn hr
    obtain rfl : d = c := Fin.ext (hn.trans hc.symm)
    rw [List.cons_append, List.cons_append, List.nil_append, scanUnits_short e d rest hu hd]
    rw [keptUnit, if_pos (by rw [hc]; exact hr)]
  split_ifs with h1 h2 h3 h4 h5 h6 h7 h8
  · exact short 92 (cp 92) (cp 92) h1 (by decide) (by decide) (by decide) (by omega)
  · exact short 34 (cp 34) (cp 34) h2 (by decide) (by decide) (by decide) (by omega)
  · exact short 8 (cp 98) (cp 8) h3 (by decide) (by decide) (by decide) (by omega)
  · exact short 12 (cp 102) (cp 12) h4 (by decide) (by decide) (by decide) (by omega)
  · exact short 10 (cp 110) (cp 10) h5 (by decide) (by decide) (by decide) (by omega)
  · exact short 13 (cp 114) (cp 13) h6 (by decide) (by decide) (by decide) (by omega)
  · exact short 9 (cp 116) (cp 9) h7 (by decide) (by decide) (by decide) (by omega)
  · rw [scanUnits_unicodeEscape c.val (by omega), keptUnit, if_neg (by omega)]
  · rw [List.cons_append, List.nil_append, scanUnits_plain c rest h2 h1 (by omega), keptUnit, if_pos (by omega)]

theorem scanUnits_kept (s rest : Str) :
    scanUnits (ε := ε) (s.flatMap keepChar ++ cp 34 :: rest) = .ok (s.map keptUnit, rest) := by
  induction s with
  | nil =>
    rw [List.flatMap_nil, List.nil_append, scanUnits.eq_def]
    rfl
  | cons c s ih =>
    rw [List.flatMap_cons, List.append_assoc, scanUnits_keepChar, ih]
    rfl

theorem joinUnits_kept (s : Str) : joinUnits (s.map keptUnit) = s := by
  induction s with
  | nil => rfl
  | cons c s ih =>
    rw [List.map_cons, keptUnit]
    split_ifs with h
    · rw [joinUnits, ih]
    · rw [joinUnits_escaped _ _ (by omega), ih, cp_eq]

/-- A literal is read back, up to its closing quote. -/
theorem scanString_kept (s rest : Str) :
    scanString (ε := ε) (s.flatMap keepChar ++ cp 34 :: rest) = .ok (s, rest) := by
  rw [scanString, scanUnits_kept]
  simp only [Except.map, joinUnits_kept]

/-! ## Values -/

def keptMember (p : Str × Json) : Str := keepQuote p.1 ++ [cp 58] ++ dumpsKept p.2

theorem dumpsKept_arr (xs : List Json) :
    dumpsKept (.arr xs) = cp 91 :: join [cp 44] (xs.map dumpsKept) ++ [cp 93] := by
  rw [dumpsKept, keptItems_eq]

theorem dumpsKept_obj (kvs : List (Str × Json)) :
    dumpsKept (.obj kvs) = cp 123 :: join [cp 44] ((sortByKey kvs).map keptMember) ++ [cp 125] := by
  rw [dumpsKept, keptMembers_eq, sortByKey_map, List.map_map]
  rfl

theorem dumpsKept_head (v : Json) (hv : v.Floatless) : ∃ c s, dumpsKept v = c :: s ∧ valueHead c ∧ c.val < 128 := by
  cases hv with
  | null => exact ⟨_, _, lit_null, ⟨by decide, by decide⟩, by decide⟩
  | bool b =>
    cases b with
    | true => exact ⟨_, _, lit_true, ⟨by decide, by decide⟩, by decide⟩
    | false => exact ⟨_, _, lit_false, ⟨by decide, by decide⟩, by decide⟩
  | int n =>
    cases n with
    | ofNat k =>
      obtain ⟨d, ds, hds⟩ := List.exists_cons_of_ne_nil (natText_ne_nil k)
      have hd := (isDigit_iff d).mp (natText_digit k d (by simp [hds]))
      refine ⟨d, ds, hds, ⟨?_, by omega⟩, by omega⟩
      simp only [isWs, Bool.or_eq_false_iff, beq_eq_false_iff_ne]
      omega
    | negSucc k => exact ⟨cp 45, natText (k + 1), rfl, ⟨by decide, by decide⟩, by decide⟩
  | str s => exact ⟨cp 34, _, rfl, ⟨by decide, by decide⟩, by decide⟩
  | arr xs h => exact ⟨cp 91, _, rfl, ⟨by decide, by decide⟩, by decide⟩
  | obj kvs hn hv => exact ⟨cp 123, _, rfl, ⟨by decide, by decide⟩, by decide⟩

variable (limits : Limits) (h : Hooks ε)

/-- The limited scan reads a value off its text. -/
def KeptReads (level : Nat) (v : Json) : Prop :=
  ∀ n rest, (dumpsKept v).length ≤ n → Ends rest →
    limitedOnce limits h level n (dumpsKept v ++ rest) = .ok (v.sortKeys, rest)

theorem keptReads_scalar (level : Nat) (v : Json) (c : CodePoint) (s : Str) (hd : dumpsKept v = c :: s)
    (hc : scalarHead c) (hk : v.sortKeys = v) (hchecked : ∀ rest, checkDigits (ε := ε) limits (v, rest) = .ok (v, rest))
    (hs : ∀ rest, Ends rest → scanScalar h (dumpsKept v ++ rest) = .ok (v, rest)) : KeptReads limits h level v := by
  intro n rest hn hr
  have hscan := hs rest hr
  rw [hd] at hn hscan ⊢
  obtain ⟨m, rfl⟩ : ∃ m, n = m + 1 := ⟨n - 1, by simp at hn; omega⟩
  rw [List.cons_append] at hscan ⊢
  rw [limitedOnce, if_neg hc.1, if_neg hc.2.1, if_neg hc.2.2, hscan, hk]
  exact hchecked rest

theorem keptReads_int (level : Nat) (n : Int) (hn : exceeds limits.digits (digitCount n) = false) :
    KeptReads limits h level (.int n) := by
  have hs : ∀ rest, Ends rest → scanScalar h (dumpsKept (.int n) ++ rest) = .ok (.int n, rest) :=
    fun rest hr => scanScalar_intText h n rest hr
  have hchecked : ∀ rest, checkDigits (ε := ε) limits (.int n, rest) = .ok (.int n, rest) := by
    intro rest
    simp only [checkDigits, hn, Bool.false_eq_true, if_false]
  cases n with
  | ofNat k =>
    obtain ⟨d, ds, hds⟩ := List.exists_cons_of_ne_nil (natText_ne_nil k)
    have hd := (isDigit_iff d).mp (natText_digit k d (by simp [hds]))
    exact keptReads_scalar limits h level _ d ds hds ⟨by omega, by omega, by omega⟩ rfl hchecked hs
  | negSucc k =>
    exact keptReads_scalar limits h level _ (cp 45) _ rfl ⟨by decide, by decide, by decide⟩ rfl hchecked hs

theorem keptReads_str (level : Nat) (s : Str) : KeptReads limits h level (.str s) := by
  intro n rest hn _
  obtain ⟨m, rfl⟩ : ∃ m, n = m + 1 := ⟨n - 1, by simp [dumpsKept, keepQuote] at hn; omega⟩
  have htext : dumpsKept (.str s) ++ rest = cp 34 :: (s.flatMap keepChar ++ cp 34 :: rest) := by
    simp [dumpsKept, keepQuote]
  rw [htext, limitedOnce, if_pos (by decide), scanString_kept s rest]
  rfl

theorem limitedItems_join (level : Nat) (x : Json) (xs : List Json)
    (hread : ∀ y ∈ x :: xs, KeptReads limits h level y) (hv : ∀ y ∈ x :: xs, y.Floatless) (n : Nat) (rest : Str)
    (hn : (join [cp 44] ((x :: xs).map dumpsKept)).length < n) :
    limitedItems limits h level n (join [cp 44] ((x :: xs).map dumpsKept) ++ cp 93 :: rest) =
      .ok ((x :: xs).map sortKeys, rest) := by
  induction xs generalizing x n with
  | nil =>
    obtain ⟨m, rfl⟩ : ∃ m, n = m + 1 := ⟨n - 1, by omega⟩
    have hends : Ends (cp 93 :: rest) := ends_cons _ _ (by decide) (by decide)
    simp only [List.map_cons, List.map_nil, join, List.flatMap_nil, List.append_nil] at hn ⊢
    rw [limitedItems, hread x (by simp) m _ (by omega) hends]
    simp only [bind, Except.bind, skipWs_cons (cp 93) rest (by decide)]
    rfl
  | cons y ys ih =>
    obtain ⟨m, rfl⟩ : ∃ m, n = m + 1 := ⟨n - 1, by omega⟩
    obtain ⟨c, s, hcs, hc, -⟩ := dumpsKept_head y (hv y (by simp))
    rw [List.map_cons, List.map_cons, join_cons_cons] at hn ⊢
    simp only [List.length_append, List.length_cons] at hn
    obtain ⟨t, ht⟩ : ∃ t, join [cp 44] (dumpsKept y :: ys.map dumpsKept) = c :: t :=
      ⟨_, by rw [join, hcs, List.cons_append]⟩
    have hnext := ih y (fun z hz => hread z (by simp [hz])) (fun z hz => hv z (by simp [hz])) m
      (by rw [List.map_cons]; omega)
    rw [List.map_cons, ht, List.cons_append] at hnext
    have hends : Ends ([cp 44] ++ c :: t ++ cp 93 :: rest) := ends_cons _ _ (by decide) (by decide)
    rw [ht, List.append_assoc, limitedItems, hread x (by simp) m _ (by omega) hends]
    simp only [bind, Except.bind, List.cons_append, List.nil_append, skipWs_cons (cp 44) _ (by decide)]
    rw [if_neg (by decide), if_pos (by decide), skipWs_cons c _ hc.1, hnext]
    rfl

theorem keptReads_arr (level : Nat) (xs : List Json) (hdepth : exceeds limits.depth (level + 1) = false)
    (hread : ∀ x ∈ xs, KeptReads limits h (level + 1) x) (hv : ∀ x ∈ xs, x.Floatless) :
    KeptReads limits h level (.arr xs) := by
  intro n rest hn _
  rw [dumpsKept_arr] at hn ⊢
  rw [sortKeys_arr]
  simp only [List.length_append, List.length_cons, List.length_nil] at hn
  obtain ⟨m, rfl⟩ : ∃ m, n = m + 1 := ⟨n - 1, by omega⟩
  rw [List.cons_append, List.cons_append, limitedOnce, if_neg (by decide), if_pos (by decide), hdepth]
  simp only [Bool.false_eq_true, if_false]
  cases xs with
  | nil =>
    simp only [List.map_nil, join, List.nil_append, List.cons_append, skipWs_cons (cp 93) rest (by decide)]
    rfl
  | cons x xs =>
    obtain ⟨c, s, hcs, hc, -⟩ := dumpsKept_head x (hv x (by simp))
    have hitems := limitedItems_join limits h (level + 1) x xs hread hv m rest (by omega)
    rw [List.map_cons, join, hcs, List.cons_append, List.cons_append] at hitems
    rw [List.map_cons, join, hcs]
    simp only [List.cons_append, List.append_assoc, List.nil_append] at hitems ⊢
    rw [skipWs_cons c _ hc.1]
    simp only [if_neg hc.2, hitems, Except.map]

theorem limitedMembers_join (level : Nat) (p : Str × Json) (ps : List (Str × Json))
    (hread : ∀ q ∈ p :: ps, KeptReads limits h level q.2) (hv : ∀ q ∈ p :: ps, q.2.Floatless) (n : Nat) (rest : Str)
    (hn : (join [cp 44] ((p :: ps).map keptMember)).length < n) :
    limitedMembers limits h level n (join [cp 44] ((p :: ps).map keptMember) ++ cp 125 :: rest) =
      .ok ((p :: ps).map fun q => (q.1, sortKeys q.2), rest) := by
  -- One member: its key, the colon, its value, and the text `tail` that comes after it.
  have member : ∀ q ∈ p :: ps, ∀ m tail, (keptMember q).length ≤ m → Ends tail →
      ∃ s, keptMember q ++ tail = cp 34 :: s ∧
        lift (scanString (ε := ε) s) = .ok (q.1, cp 58 :: (dumpsKept q.2 ++ tail)) ∧
        skipWs (dumpsKept q.2 ++ tail) = dumpsKept q.2 ++ tail ∧
        limitedOnce limits h level m (dumpsKept q.2 ++ tail) = .ok (q.2.sortKeys, tail) := by
    intro q hq m tail hm ht
    obtain ⟨c, s, hcs, hc, -⟩ := dumpsKept_head q.2 (hv q hq)
    refine ⟨q.1.flatMap keepChar ++ cp 34 :: cp 58 :: (dumpsKept q.2 ++ tail), ?_, ?_, ?_, ?_⟩
    · simp [keptMember, keepQuote]
    · rw [scanString_kept]
      rfl
    · rw [hcs, List.cons_append]
      exact skipWs_cons c _ hc.1
    · exact hread q hq m tail (by simp only [keptMember, List.length_append] at hm; omega) ht
  induction ps generalizing p n with
  | nil =>
    obtain ⟨m, rfl⟩ : ∃ m, n = m + 1 := ⟨n - 1, by omega⟩
    simp only [List.map_cons, List.map_nil, join, List.flatMap_nil, List.append_nil] at hn ⊢
    obtain ⟨s, hs, hstr, hskip, hval⟩ := member p (by simp) m (cp 125 :: rest) (by omega)
      (ends_cons _ _ (by decide) (by decide))
    rw [hs, limitedMembers, if_pos (by decide), hstr]
    simp only [bind, Except.bind, skipWs_cons (cp 58) _ (by decide)]
    rw [if_pos (by decide), hskip, hval]
    simp only [skipWs_cons (cp 125) rest (by decide)]
    rfl
  | cons q qs ih =>
    obtain ⟨m, rfl⟩ : ∃ m, n = m + 1 := ⟨n - 1, by omega⟩
    rw [List.map_cons, List.map_cons, join_cons_cons] at hn ⊢
    simp only [List.length_append, List.length_cons] at hn
    obtain ⟨t, ht⟩ : ∃ t, join [cp 44] (keptMember q :: qs.map keptMember) = cp 34 :: t :=
      ⟨_, by rw [join, keptMember, keepQuote]; simp only [List.cons_append]; rfl⟩
    have hnext := ih q (fun z hz => hread z (by simp [hz])) (fun z hz => hv z (by simp [hz])) m
      (by rw [List.map_cons]; omega) (fun z hz => member z (by simp [hz]))
    rw [List.map_cons, ht, List.cons_append] at hnext
    rw [ht, List.append_assoc]
    obtain ⟨s, hs, hstr, hskip, hval⟩ := member p (by simp) m ([cp 44] ++ cp 34 :: t ++ cp 125 :: rest) (by omega)
      (ends_cons _ _ (by decide) (by decide))
    rw [hs, limitedMembers, if_pos (by decide), hstr]
    simp only [bind, Except.bind, skipWs_cons (cp 58) _ (by decide)]
    rw [if_pos (by decide), hskip, hval]
    simp only [List.cons_append, List.nil_append, skipWs_cons (cp 44) _ (by decide)]
    rw [if_neg (by decide), if_pos (by decide), skipWs_cons (cp 34) _ (by decide), hnext]
    rfl

theorem keptReads_obj (hp : KeepsPairs h) (level : Nat) (kvs : List (Str × Json))
    (hdepth : exceeds limits.depth (level + 1) = false) (hn : (kvs.map Prod.fst).Nodup)
    (hread : ∀ p ∈ kvs, KeptReads limits h (level + 1) p.2) (hv : ∀ p ∈ kvs, p.2.Floatless) :
    KeptReads limits h level (.obj kvs) := by
  intro n rest hlen _
  have hperm := sortByKey_perm kvs
  have hmem : ∀ p ∈ sortByKey kvs, p ∈ kvs := fun p hmp => hperm.mem_iff.mp hmp
  have hpairs : h.onPairs ((sortByKey kvs).map fun p => (p.1, sortKeys p.2)) =
      .ok (.obj ((sortByKey kvs).map fun p => (p.1, sortKeys p.2))) := by
    apply hp
    rw [List.map_map]
    exact ((hperm.map Prod.fst).nodup_iff).mpr hn
  rw [dumpsKept_obj] at hlen ⊢
  rw [sortKeys_obj]
  generalize sortByKey kvs = ms at hlen hmem hpairs ⊢
  simp only [List.length_append, List.length_cons, List.length_nil] at hlen
  obtain ⟨m, rfl⟩ : ∃ m, n = m + 1 := ⟨n - 1, by omega⟩
  rw [List.cons_append, List.cons_append, limitedOnce, if_neg (by decide), if_neg (by decide), if_pos (by decide),
    hdepth]
  simp only [Bool.false_eq_true, if_false]
  cases ms with
  | nil =>
    simp only [List.map_nil] at hpairs
    simp only [List.map_nil, join, List.nil_append, List.cons_append, skipWs_cons (cp 125) rest (by decide)]
    rw [if_pos (by decide)]
    simp only [closeObject, hpairs]
    rfl
  | cons p ps =>
    have hmembers := limitedMembers_join limits h (level + 1) p ps (fun q hq => hread q (hmem q hq))
      (fun q hq => hv q (hmem q hq)) m rest (by omega)
    rw [List.map_cons, join, keptMember, keepQuote] at hmembers
    rw [List.map_cons, join, keptMember, keepQuote]
    simp only [List.cons_append, List.append_assoc, List.nil_append] at hmembers ⊢
    rw [skipWs_cons (cp 34) _ (by decide)]
    simp only [bind, Except.bind]
    rw [if_neg (by decide), hmembers]
    simp only [closeObject, hpairs]
    rfl

/-- The limited scan reads what can be dumped within the same limits. -/
theorem keptReads_dumpable (hp : KeepsPairs h) (v : Json) (hv : v.Floatless) :
    ∀ level, dumpable limits level v = true → KeptReads limits h level v := by
  induction v with
  | null =>
    intro level _
    exact keptReads_scalar limits h level _ _ _ lit_null ⟨by decide, by decide, by decide⟩ rfl (fun _ => rfl)
      fun rest _ => scanScalar_null h rest
  | bool b =>
    intro level _
    cases b with
    | true =>
      exact keptReads_scalar limits h level _ _ _ lit_true ⟨by decide, by decide, by decide⟩ rfl (fun _ => rfl)
        fun rest _ => scanScalar_true h rest
    | false =>
      exact keptReads_scalar limits h level _ _ _ lit_false ⟨by decide, by decide, by decide⟩ rfl (fun _ => rfl)
        fun rest _ => scanScalar_false h rest
  | int k =>
    intro level hk
    simp only [dumpable, Bool.not_eq_true'] at hk
    exact keptReads_int limits h level k hk
  | float t => cases hv
  | str s => exact fun level _ => keptReads_str limits h level s
  | arr xs ih =>
    intro level hk
    cases hv with
    | arr _ hx =>
      simp only [dumpable, Bool.and_eq_true, Bool.not_eq_true', dumpableItems_iff] at hk
      exact keptReads_arr limits h level xs hk.1 (fun x hm => ih x hm (hx x hm) _ (hk.2 x hm)) hx
  | obj kvs ih =>
    intro level hk
    cases hv with
    | obj _ hn hx =>
      simp only [dumpable, Bool.and_eq_true, Bool.not_eq_true', dumpableMembers_iff] at hk
      exact keptReads_obj limits h hp level kvs hk.1 hn (fun p hm => ih p hm (hx p hm) _ (hk.2 p hm)) hx

/-- `json.loads(json.dumps(v))` is `v`, with its keys in order. -/
theorem limitedLoads_kept (hp : KeepsPairs h) (v : Json) (hv : v.Floatless) (hk : dumpable limits 0 v = true) :
    limitedLoads limits h (dumpsKept v) = .ok v.sortKeys := by
  have hread := keptReads_dumpable limits h hp v hv 0 hk (2 * (dumpsKept v).length + 2) [] (by omega) ends_nil
  rw [List.append_nil] at hread
  obtain ⟨c, s, hcs, hc, hascii⟩ := dumpsKept_head v hv
  have hskip : skipWs (dumpsKept v) = dumpsKept v := by rw [hcs]; exact skipWs_cons c s hc.1
  have hbom : (dumpsKept v).head? ≠ some (cp 0xFEFF) := by
    rw [hcs, List.head?_cons]
    intro hhead
    rw [Option.some.inj hhead] at hascii
    exact absurd hascii (by decide)
  simp only [limitedLoads, if_neg hbom, hskip, hread]
  rfl

end

/-! ## Control characters -/

theorem unicodeEscape_printable (n : Nat) : ∀ c ∈ unicodeEscape n, 32 ≤ c.val := by
  intro c hc
  rcases unicodeEscape_textChar .compact n c hc with h | h
  · exact h.1
  · exact absurd h.1 (by decide)

theorem keepChar_printable (c : CodePoint) : ∀ x ∈ keepChar c, 32 ≤ x.val := by
  have two : ∀ e : CodePoint, 32 ≤ e.val → ∀ x ∈ [cp 92, e], 32 ≤ x.val := by
    intro e he x hx
    simp only [List.mem_cons, List.not_mem_nil, or_false] at hx
    rcases hx with rfl | rfl
    · decide
    · exact he
  unfold keepChar
  split_ifs with h1 h2 h3 h4 h5 h6 h7 h8
  · exact two _ (by decide)
  · exact two _ (by decide)
  · exact two _ (by decide)
  · exact two _ (by decide)
  · exact two _ (by decide)
  · exact two _ (by decide)
  · exact two _ (by decide)
  · exact unicodeEscape_printable c.val
  · intro x hx
    rw [List.mem_singleton] at hx
    subst hx
    omega

theorem keepQuote_printable (s : Str) : ∀ x ∈ keepQuote s, 32 ≤ x.val := by
  intro x hx
  simp only [keepQuote, List.cons_append, List.mem_cons, List.mem_append, List.mem_flatMap, List.not_mem_nil,
    or_false] at hx
  rcases hx with rfl | ⟨c, -, hx⟩ | rfl
  · decide
  · exact keepChar_printable c x hx
  · decide

theorem join_printable (ts : List Str) (ht : ∀ t ∈ ts, ∀ x ∈ t, 32 ≤ x.val) : ∀ x ∈ join [cp 44] ts, 32 ≤ x.val := by
  intro x hx
  rcases mem_join _ _ x hx with hx | ⟨t, htmem, hx⟩
  · rw [List.mem_singleton] at hx
    subst hx
    decide
  · exact ht t htmem x hx

/-- Every control character of the text is escaped. -/
theorem dumpsKept_printable (v : Json) (hv : v.Floatless) : ∀ x ∈ dumpsKept v, 32 ≤ x.val := by
  have enclosed : ∀ (left right : CodePoint) (s : Str), 32 ≤ left.val → 32 ≤ right.val → (∀ x ∈ s, 32 ≤ x.val) →
      ∀ x ∈ left :: s ++ [right], 32 ≤ x.val := by
    intro left right s hleft hright hs x hx
    simp only [List.cons_append, List.mem_cons, List.mem_append, List.not_mem_nil, or_false] at hx
    rcases hx with rfl | hx | rfl
    · exact hleft
    · exact hs x hx
    · exact hright
  have word : ∀ s : String, (lit s).all (fun x => 32 ≤ x.val) = true → ∀ x ∈ lit s, 32 ≤ x.val := by
    intro s hs x hx
    exact decide_eq_true_eq.mp (List.all_eq_true.mp hs x hx)
  have digits : ∀ k, ∀ x ∈ natText k, 32 ≤ x.val := by
    intro k x hx
    have := (isDigit_iff x).mp (natText_digit k x hx)
    omega
  induction v with
  | null => exact word "null" (by decide)
  | bool b =>
    cases b with
    | true => exact word "true" (by decide)
    | false => exact word "false" (by decide)
  | int n =>
    intro x hx
    cases n with
    | ofNat k => exact digits k x hx
    | negSucc k =>
      rw [dumpsKept, intText, List.mem_cons] at hx
      rcases hx with rfl | hx
      · decide
      · exact digits (k + 1) x hx
  | float t => cases hv
  | str s => exact keepQuote_printable s
  | arr xs ih =>
    cases hv with
    | arr _ hx =>
      rw [dumpsKept_arr]
      apply enclosed _ _ _ (by decide) (by decide)
      apply join_printable
      intro t ht
      obtain ⟨y, hy, rfl⟩ := List.mem_map.mp ht
      exact ih y hy (hx y hy)
  | obj kvs ih =>
    cases hv with
    | obj _ hn hx =>
      rw [dumpsKept_obj]
      apply enclosed _ _ _ (by decide) (by decide)
      apply join_printable
      intro t ht x hxt
      obtain ⟨p, hp, rfl⟩ := List.mem_map.mp ht
      have hm := (sortByKey_perm kvs).mem_iff.mp hp
      simp only [keptMember, List.mem_append, List.mem_singleton] at hxt
      rcases hxt with (hxt | rfl) | hxt
      · exact keepQuote_printable _ x hxt
      · decide
      · exact ih p hm (hx p hm) x hxt

end TurnVector.Python.Json
