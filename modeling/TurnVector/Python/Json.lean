import TurnVector.Python.Text

/-! # The `json` module of the standard library

Values, `json.dumps(sort_keys=True, ensure_ascii=True)`, and the scanner that `json.loads` runs.
-/

namespace TurnVector.Python

/-- A JSON value as Python holds it. An object keeps its pairs in the order they were put in; a float
is kept as the text of its literal. -/
inductive Json where
  | null
  | bool (b : Bool)
  | int (n : Int)
  | float (token : Str)
  | str (s : Str)
  | arr (items : List Json)
  | obj (members : List (Str × Json))
  deriving Inhabited

namespace Json

/-- Induction over a value, through the lists that it holds. -/
@[elab_as_elim, induction_eliminator]
theorem ind {P : Json → Prop} (null : P .null) (bool : ∀ b, P (.bool b)) (int : ∀ n, P (.int n))
    (float : ∀ t, P (.float t)) (str : ∀ s, P (.str s)) (arr : ∀ xs, (∀ x ∈ xs, P x) → P (.arr xs))
    (obj : ∀ kvs, (∀ p ∈ kvs, P p.2) → P (.obj kvs)) : ∀ v, P v
  | .null => null
  | .bool b => bool b
  | .int n => int n
  | .float t => float t
  | .str s => str s
  | .arr xs => arr xs fun x _ => ind null bool int float str arr obj x
  | .obj kvs => obj kvs fun p _ => ind null bool int float str arr obj p.2
termination_by v => sizeOf v
decreasing_by
  · have := List.sizeOf_lt_of_mem ‹x ∈ xs›
    simp; omega
  · have h1 := List.sizeOf_lt_of_mem ‹p ∈ kvs›
    have h2 : sizeOf p.2 < sizeOf p := by cases p; simp
    simp; omega

mutual

def beq : Json → Json → Bool
  | .null, .null => true
  | .bool a, .bool b => a == b
  | .int a, .int b => a == b
  | .float a, .float b => a == b
  | .str a, .str b => a == b
  | .arr xs, .arr ys => beqItems xs ys
  | .obj xs, .obj ys => beqMembers xs ys
  | _, _ => false

def beqItems : List Json → List Json → Bool
  | [], [] => true
  | x :: xs, y :: ys => beq x y && beqItems xs ys
  | _, _ => false

def beqMembers : List (Str × Json) → List (Str × Json) → Bool
  | [], [] => true
  | (k, v) :: xs, (k', v') :: ys => k == k' && beq v v' && beqMembers xs ys
  | _, _ => false

end

theorem beqItems_iff (xs ys : List Json) (ih : ∀ x ∈ xs, ∀ y, beq x y = true ↔ x = y) :
    beqItems xs ys = true ↔ xs = ys := by
  induction xs generalizing ys with
  | nil => cases ys <;> simp [beqItems]
  | cons x xs hx =>
    cases ys with
    | nil => simp [beqItems]
    | cons y ys =>
      simp only [beqItems, Bool.and_eq_true, List.cons.injEq]
      rw [ih x (by simp), hx ys fun z hz => ih z (by simp [hz])]

theorem beqMembers_iff (xs ys : List (Str × Json)) (ih : ∀ p ∈ xs, ∀ y, beq p.2 y = true ↔ p.2 = y) :
    beqMembers xs ys = true ↔ xs = ys := by
  induction xs generalizing ys with
  | nil => cases ys <;> simp [beqMembers]
  | cons x xs hx =>
    cases ys with
    | nil => simp [beqMembers]
    | cons y ys =>
      obtain ⟨k, v⟩ := x
      obtain ⟨k', v'⟩ := y
      simp only [beqMembers, Bool.and_eq_true, beq_iff_eq, List.cons.injEq, Prod.mk.injEq]
      rw [ih (k, v) (by simp), hx ys fun z hz => ih z (by simp [hz])]

theorem beq_iff (a b : Json) : beq a b = true ↔ a = b := by
  induction a generalizing b with
  | arr xs ih => cases b <;> simp [beq, beqItems_iff xs _ ih]
  | obj xs ih => cases b <;> simp [beq, beqMembers_iff xs _ ih]
  | _ => cases b <;> simp [beq]

instance : DecidableEq Json := fun a b => decidable_of_iff _ (beq_iff a b)

/-! ## Dicts -/

/-- `d[k] = v`. A key that is there already keeps its place. -/
def setItem {α : Type} : List (Str × α) → Str → α → List (Str × α)
  | [], k, v => [(k, v)]
  | p :: d, k, v => if p.1 = k then (k, v) :: d else p :: setItem d k v

/-- `dict(pairs)` -/
def dictOf {α : Type} (pairs : List (Str × α)) : List (Str × α) :=
  pairs.foldl (fun d p => setItem d p.1 p.2) []

theorem setItem_keys {α : Type} (d : List (Str × α)) (k : Str) (v : α) :
    (setItem d k v).map Prod.fst = if k ∈ d.map Prod.fst then d.map Prod.fst else d.map Prod.fst ++ [k] := by
  induction d with
  | nil => simp [setItem]
  | cons p d ih =>
    rw [setItem]
    by_cases h : p.1 = k
    · simp [h]
    · rw [if_neg h, List.map_cons, ih]
      have hk : k ≠ p.1 := fun he => h he.symm
      by_cases hm : k ∈ d.map Prod.fst
      · rw [if_pos hm, if_pos (by simp [hm])]
        rfl
      · rw [if_neg hm, if_neg (by simp only [List.map_cons, List.mem_cons, not_or]; exact ⟨hk, hm⟩)]
        rfl

theorem setItem_new {α : Type} (d : List (Str × α)) (k : Str) (v : α) (h : k ∉ d.map Prod.fst) :
    setItem d k v = d ++ [(k, v)] := by
  induction d with
  | nil => rfl
  | cons p d ih =>
    simp only [List.map_cons, List.mem_cons, not_or] at h
    rw [setItem, if_neg fun he => h.1 he.symm, ih h.2]
    rfl

theorem setItem_nodup {α : Type} (d : List (Str × α)) (k : Str) (v : α) (h : (d.map Prod.fst).Nodup) :
    ((setItem d k v).map Prod.fst).Nodup := by
  rw [setItem_keys]
  split
  · exact h
  · rename_i hk
    rw [List.nodup_append]
    refine ⟨h, List.nodup_singleton k, ?_⟩
    intro a ha b hb
    rw [List.mem_singleton] at hb
    rintro rfl
    exact hk (hb ▸ ha)

theorem mem_setItem {α : Type} (d : List (Str × α)) (k : Str) (v : α) :
    ∀ p ∈ setItem d k v, p = (k, v) ∨ p ∈ d := by
  induction d with
  | nil => simp [setItem]
  | cons q d ih =>
    rw [setItem]
    split
    · intro p hp
      rw [List.mem_cons] at hp
      rcases hp with hp | hp
      · exact Or.inl hp
      · exact Or.inr (List.mem_cons_of_mem _ hp)
    · intro p hp
      rw [List.mem_cons] at hp
      rcases hp with rfl | hp
      · exact Or.inr (List.mem_cons_self)
      · rcases ih p hp with h | h
        · exact Or.inl h
        · exact Or.inr (List.mem_cons_of_mem _ h)

theorem foldl_setItem_nodup {α : Type} (pairs d : List (Str × α)) (h : (d.map Prod.fst).Nodup) :
    ((pairs.foldl (fun d p => setItem d p.1 p.2) d).map Prod.fst).Nodup := by
  induction pairs generalizing d with
  | nil => exact h
  | cons p pairs ih => exact ih _ (setItem_nodup d p.1 p.2 h)

theorem mem_foldl_setItem {α : Type} (pairs d : List (Str × α)) :
    ∀ p ∈ pairs.foldl (fun d p => setItem d p.1 p.2) d, p ∈ pairs ∨ p ∈ d := by
  induction pairs generalizing d with
  | nil => intro p hp; exact Or.inr hp
  | cons q pairs ih =>
    intro p hp
    rcases ih _ p hp with h | h
    · exact Or.inl (List.mem_cons_of_mem _ h)
    · rcases mem_setItem d q.1 q.2 p h with h | h
      · exact Or.inl (by rw [h]; exact List.mem_cons_self)
      · exact Or.inr h

theorem foldl_setItem_new {α : Type} (pairs d : List (Str × α)) (h : ((d ++ pairs).map Prod.fst).Nodup) :
    pairs.foldl (fun d p => setItem d p.1 p.2) d = d ++ pairs := by
  induction pairs generalizing d with
  | nil => simp
  | cons p pairs ih =>
    have hp : p.1 ∉ d.map Prod.fst := by
      rw [List.map_append, List.nodup_append] at h
      intro hm
      exact h.2.2 _ hm p.1 (by simp) rfl
    rw [List.foldl_cons, setItem_new d p.1 p.2 hp, ih]
    · simp
    · simpa using h

theorem dictOf_nodup {α : Type} (pairs : List (Str × α)) : ((dictOf pairs).map Prod.fst).Nodup :=
  foldl_setItem_nodup pairs [] (by simp)

theorem mem_dictOf {α : Type} (pairs : List (Str × α)) : ∀ p ∈ dictOf pairs, p ∈ pairs := by
  intro p hp
  rcases mem_foldl_setItem pairs [] p hp with h | h
  · exact h
  · simp at h

theorem lookup_pair {α : Type} (p : Str × α) (d : List (Str × α)) (key : Str) :
    (p :: d).lookup key = if key = p.1 then some p.2 else d.lookup key := by
  rw [List.lookup_cons]
  by_cases h : key = p.1
  · rw [if_pos h, beq_iff_eq.mpr h]
  · rw [if_neg h, beq_eq_false_iff_ne.mpr h]

theorem lookup_setItem {α : Type} (d : List (Str × α)) (k key : Str) (v : α) :
    (setItem d k v).lookup key = if key = k then some v else d.lookup key := by
  induction d with
  | nil =>
    rw [setItem, lookup_pair]
  | cons p d ih =>
    rw [setItem]
    by_cases hp : p.1 = k
    · rw [if_pos hp, lookup_pair, lookup_pair, hp]
      split <;> rfl
    · rw [if_neg hp, lookup_pair, lookup_pair, ih]
      by_cases h : key = p.1
      · rw [if_pos h, if_pos h, if_neg (h ▸ hp)]
      · rw [if_neg h, if_neg h]

/-- The last of the pairs that have a key is the one a dict keeps. -/
theorem lookup_dictOf {α : Type} (pairs : List (Str × α)) (key : Str) :
    (dictOf pairs).lookup key = pairs.reverse.lookup key := by
  unfold dictOf
  rw [← List.foldr_reverse]
  induction pairs.reverse with
  | nil => rfl
  | cons p rest ih =>
    rw [List.foldr_cons, lookup_setItem, ih, lookup_pair]

/-- Pairs whose keys are distinct are a dict as they stand. -/
theorem dictOf_eq {α : Type} (pairs : List (Str × α)) (h : (pairs.map Prod.fst).Nodup) : dictOf pairs = pairs := by
  have := foldl_setItem_new pairs [] (by simpa using h)
  simpa [dictOf] using this

/-! ## `json.dumps` -/

/-- How a text is laid out: `separators=(",", ":")`, or `indent=2`. -/
inductive Layout where
  | compact
  | indented
  deriving DecidableEq

def Layout.newline : Layout → Nat → Str
  | .compact, _ => []
  | .indented, level => cp 10 :: List.replicate (2 * level) (cp 32)

def Layout.colon : Layout → Str
  | .compact => [cp 58]
  | .indented => [cp 58, cp 32]

def hexDigit (n : Nat) : CodePoint := if n < 10 then cp (48 + n) else cp (87 + n)

/-- `"\\u{0:04x}".format(n)` -/
def unicodeEscape (n : Nat) : Str :=
  [cp 92, cp 117, hexDigit (n / 4096 % 16), hexDigit (n / 256 % 16), hexDigit (n / 16 % 16), hexDigit (n % 16)]

/-- `json.encoder.py_encode_basestring_ascii`, for one character. -/
def escapeChar (c : CodePoint) : Str :=
  if c.val = 92 then [cp 92, cp 92]
  else if c.val = 34 then [cp 92, cp 34]
  else if c.val = 8 then [cp 92, cp 98]
  else if c.val = 12 then [cp 92, cp 102]
  else if c.val = 10 then [cp 92, cp 110]
  else if c.val = 13 then [cp 92, cp 114]
  else if c.val = 9 then [cp 92, cp 116]
  else if 32 ≤ c.val ∧ c.val ≤ 126 then [c]
  else if c.val < 0x10000 then unicodeEscape c.val
  else unicodeEscape (0xD800 + (c.val - 0x10000) / 1024) ++ unicodeEscape (0xDC00 + (c.val - 0x10000) % 1024)

def quote (s : Str) : Str := cp 34 :: s.flatMap escapeChar ++ [cp 34]

/-- `sep.join(texts)` -/
def join (sep : Str) : List Str → Str
  | [] => []
  | t :: ts => t ++ ts.flatMap (sep ++ ·)

/-- The texts of the items between two brackets. -/
def enclose (l : Layout) (level : Nat) (left right : CodePoint) (texts : List Str) : Str :=
  if texts.isEmpty then [left, right]
  else left :: l.newline (level + 1) ++ join (cp 44 :: l.newline (level + 1)) texts ++ l.newline level ++ [right]

/-- `sorted(dct.items())`: keys of a dict are distinct, so only keys are compared. -/
def sortByKey {α : Type} (kvs : List (Str × α)) : List (Str × α) := kvs.insertionSort fun a b => a.1 ≤ b.1

mutual

/-- `json.dumps(v, sort_keys=True, ensure_ascii=True, ...)`. Every caller rejects floats first. -/
def dumps (l : Layout) (level : Nat) : Json → Str
  | .null => lit "null"
  | .bool true => lit "true"
  | .bool false => lit "false"
  | .int n => intText n
  | .float t => t
  | .str s => quote s
  | .arr xs => enclose l level (cp 91) (cp 93) (dumpsItems l (level + 1) xs)
  | .obj kvs => enclose l level (cp 123) (cp 125) ((sortByKey (dumpsMembers l (level + 1) kvs)).map (·.2))

def dumpsItems (l : Layout) (level : Nat) : List Json → List Str
  | [] => []
  | x :: xs => dumps l level x :: dumpsItems l level xs

/-- Each key with the text of its member. -/
def dumpsMembers (l : Layout) (level : Nat) : List (Str × Json) → List (Str × Str)
  | [] => []
  | (k, v) :: kvs => (k, quote k ++ l.colon ++ dumps l level v) :: dumpsMembers l level kvs

end

/-! ## Equality of values -/

mutual

/-- The value with every object in the order of its keys. -/
def sortKeys : Json → Json
  | .arr xs => .arr (sortKeysItems xs)
  | .obj kvs => .obj (sortByKey (sortKeysMembers kvs))
  | v => v

def sortKeysItems : List Json → List Json
  | [] => []
  | x :: xs => sortKeys x :: sortKeysItems xs

def sortKeysMembers : List (Str × Json) → List (Str × Json)
  | [] => []
  | (k, v) :: kvs => (k, sortKeys v) :: sortKeysMembers kvs

end

/-- Python's `==` on values of the same types: two dicts are equal in whatever order they hold their items. -/
def Same (v w : Json) : Prop := sortKeys v = sortKeys w

/-- A value of dicts, lists, strings without surrogates, integers, booleans and `None`. -/
inductive Plain : Json → Prop
  | null : Plain .null
  | bool (b : Bool) : Plain (.bool b)
  | int (n : Int) : Plain (.int n)
  | str (s : Str) (h : hasSurrogate s = false) : Plain (.str s)
  | arr (xs : List Json) (h : ∀ x ∈ xs, Plain x) : Plain (.arr xs)
  | obj (kvs : List (Str × Json)) (hn : (kvs.map Prod.fst).Nodup) (hk : ∀ p ∈ kvs, hasSurrogate p.1 = false)
      (hv : ∀ p ∈ kvs, Plain p.2) : Plain (.obj kvs)

/-- A value in which no object names a key twice. -/
inductive Distinct : Json → Prop
  | null : Distinct .null
  | bool (b : Bool) : Distinct (.bool b)
  | int (n : Int) : Distinct (.int n)
  | float (t : Str) : Distinct (.float t)
  | str (s : Str) : Distinct (.str s)
  | arr (xs : List Json) (h : ∀ x ∈ xs, Distinct x) : Distinct (.arr xs)
  | obj (kvs : List (Str × Json)) (hn : (kvs.map Prod.fst).Nodup) (hv : ∀ p ∈ kvs, Distinct p.2) : Distinct (.obj kvs)

/-! ## The scanner -/

/-- What a load raises: a `JSONDecodeError`, or what a hook raised. -/
inductive LoadError (ε : Type) where
  | decode (msg : String)
  | hook (e : ε)
  | fuel
  deriving DecidableEq

/-- `parse_float`, `parse_constant` and `object_pairs_hook`. -/
structure Hooks (ε : Type) where
  onFloat : Str → Except ε Json
  onConstant : Str → Except ε Json
  onPairs : List (Str × Json) → Except ε Json

def isWs (c : CodePoint) : Bool := c.val == 32 || c.val == 9 || c.val == 10 || c.val == 13

def skipWs (s : Str) : Str := s.dropWhile isWs

def hexVal (c : CodePoint) : Option Nat :=
  if 48 ≤ c.val ∧ c.val ≤ 57 then some (c.val - 48)
  else if 97 ≤ c.val ∧ c.val ≤ 102 then some (c.val - 87)
  else if 65 ≤ c.val ∧ c.val ≤ 70 then some (c.val - 55)
  else none

def hex4 (a b c d : CodePoint) : Option Nat := do
  let a ← hexVal a
  let b ← hexVal b
  let c ← hexVal c
  let d ← hexVal d
  return a * 4096 + b * 256 + c * 16 + d

/-- A character of a string literal: itself, or the number of a `\u` escape. -/
inductive CharUnit where
  | plain (c : CodePoint)
  | escaped (n : Nat)

/-- The character that a one-letter escape stands for. -/
def shortEscape (c : CodePoint) : Option CodePoint :=
  if c.val = 34 ∨ c.val = 92 ∨ c.val = 47 then some c
  else if c.val = 98 then some (cp 8)
  else if c.val = 102 then some (cp 12)
  else if c.val = 110 then some (cp 10)
  else if c.val = 114 then some (cp 13)
  else if c.val = 116 then some (cp 9)
  else none

section
variable {ε : Type}

/-- `scanstring` with `strict`, from after the opening quote to after the closing one. -/
def scanUnits : Str → Except (LoadError ε) (List CharUnit × Str)
  | [] => .error (.decode "Unterminated string starting at")
  | c :: s =>
    if c.val = 34 then .ok ([], s)
    else if c.val = 92 then
      match s with
      | [] => .error (.decode "Unterminated string starting at")
      | e :: s =>
        if e.val = 117 then
          match s with
          | h1 :: h2 :: h3 :: h4 :: s =>
            match hex4 h1 h2 h3 h4 with
            | some n => (scanUnits s).map fun r => (.escaped n :: r.1, r.2)
            | none => .error (.decode "Invalid \\uXXXX escape")
          | _ => .error (.decode "Invalid \\uXXXX escape")
        else match shortEscape e with
          | some c => (scanUnits s).map fun r => (.plain c :: r.1, r.2)
          | none => .error (.decode "Invalid \\escape")
    else if c.val < 32 then .error (.decode "Invalid control character at")
    else (scanUnits s).map fun r => (.plain c :: r.1, r.2)

/-- A high surrogate escape and a low one right after it make one character. -/
def joinUnits : List CharUnit → Str
  | [] => []
  | .plain c :: us => c :: joinUnits us
  | [.escaped n] => [cp n]
  | .escaped n :: .plain c :: us => cp n :: c :: joinUnits us
  | .escaped n :: .escaped m :: us =>
    if 0xD800 ≤ n ∧ n ≤ 0xDBFF ∧ 0xDC00 ≤ m ∧ m ≤ 0xDFFF then
      cp (0x10000 + (n - 0xD800) * 1024 + (m - 0xDC00)) :: joinUnits us
    else cp n :: joinUnits (.escaped m :: us)

def scanString (s : Str) : Except (LoadError ε) (Str × Str) :=
  (scanUnits s).map fun r => (joinUnits r.1, r.2)

/-- The fraction of a number, with its dot: a dot with no digit after it is not taken. -/
def scanFraction : Str → Str × Str
  | dot :: d :: s =>
    if dot.val = 46 ∧ isDigit d = true then (dot :: (d :: s).takeWhile isDigit, (d :: s).dropWhile isDigit)
    else ([], dot :: d :: s)
  | s => ([], s)

/-- The exponent of a number. Without a digit it is not taken. -/
def scanExponent : Str → Str × Str
  | e :: s =>
    if e.val = 101 ∨ e.val = 69 then
      let sign := s.takeWhile fun c => c.val == 43 || c.val == 45
      let sign := sign.take 1
      let ds := (s.drop sign.length).takeWhile isDigit
      if ds.isEmpty then ([], e :: s) else (e :: sign ++ ds, (s.drop sign.length).dropWhile isDigit)
    else ([], e :: s)
  | [] => ([], [])

/-- `_match_number`, after the sign. -/
def scanNumber (h : Hooks ε) (negative : Bool) (s : Str) : Except (LoadError ε) (Json × Str) :=
  match s with
  | [] => .error (.decode "Expecting value")
  | d :: s' =>
    if isDigit d = true then
      let whole := if d.val = 48 then [d] else s.takeWhile isDigit
      let rest := if d.val = 48 then s' else s.dropWhile isDigit
      let (fraction, rest) := scanFraction rest
      let (exponent, rest) := scanExponent rest
      if fraction.isEmpty && exponent.isEmpty then
        .ok (.int (if negative then -(natOf whole : Int) else natOf whole), rest)
      else match h.onFloat ((if negative then [cp 45] else []) ++ whole ++ fraction ++ exponent) with
        | .ok v => .ok (v, rest)
        | .error e => .error (.hook e)
    else .error (.decode "Expecting value")

/-- A constant that `parse_constant` decides. -/
def scanConstant (h : Hooks ε) (token : Str) (rest : Str) : Except (LoadError ε) (Json × Str) :=
  match h.onConstant token with
  | .ok v => .ok (v, rest)
  | .error e => .error (.hook e)

/-- A value that opens with neither a quote nor a bracket. -/
def scanScalar (h : Hooks ε) (s : Str) : Except (LoadError ε) (Json × Str) :=
  if lit "null" <+: s then .ok (.null, s.drop 4)
  else if lit "true" <+: s then .ok (.bool true, s.drop 4)
  else if lit "false" <+: s then .ok (.bool false, s.drop 5)
  else if lit "NaN" <+: s then scanConstant h (lit "NaN") (s.drop 3)
  else if lit "Infinity" <+: s then scanConstant h (lit "Infinity") (s.drop 8)
  else if lit "-Infinity" <+: s then scanConstant h (lit "-Infinity") (s.drop 9)
  else match s with
    | c :: s' => if c.val = 45 then scanNumber h true s' else scanNumber h false (c :: s')
    | [] => .error (.decode "Expecting value")

/-- The pairs of an object go to `object_pairs_hook`. -/
def closeObject (h : Hooks ε) (pairs : List (Str × Json)) (rest : Str) : Except (LoadError ε) (Json × Str) :=
  match h.onPairs pairs with
  | .ok v => .ok (v, rest)
  | .error e => .error (.hook e)

mutual

/-- `scan_once`. A bracket that is opened takes two units of fuel and one character. -/
def scanOnce (h : Hooks ε) : Nat → Str → Except (LoadError ε) (Json × Str)
  | 0, _ => .error .fuel
  | _ + 1, [] => .error (.decode "Expecting value")
  | n + 1, c :: s =>
    if c.val = 34 then (scanString s).map fun r => (.str r.1, r.2)
    else if c.val = 91 then
      match skipWs s with
      | [] => .error (.decode "Expecting value")
      | d :: s' => if d.val = 93 then .ok (.arr [], s') else (scanItems h n (d :: s')).map fun r => (.arr r.1, r.2)
    else if c.val = 123 then
      match skipWs s with
      | [] => .error (.decode "Expecting property name enclosed in double quotes")
      | d :: s' =>
        if d.val = 125 then closeObject h [] s'
        else do
          let (pairs, rest) ← scanMembers h n (d :: s')
          closeObject h pairs rest
    else scanScalar h (c :: s)

/-- The items of an array and its closing bracket, from the first character of an item. -/
def scanItems (h : Hooks ε) : Nat → Str → Except (LoadError ε) (List Json × Str)
  | 0, _ => .error .fuel
  | n + 1, s => do
    let (v, rest) ← scanOnce h n s
    match skipWs rest with
    | [] => .error (.decode "Expecting ',' delimiter")
    | c :: s =>
      if c.val = 93 then .ok ([v], s)
      else if c.val = 44 then (scanItems h n (skipWs s)).map fun r => (v :: r.1, r.2)
      else .error (.decode "Expecting ',' delimiter")

/-- The members of an object and its closing brace, from the first character of a key. -/
def scanMembers (h : Hooks ε) : Nat → Str → Except (LoadError ε) (List (Str × Json) × Str)
  | 0, _ => .error .fuel
  | _ + 1, [] => .error (.decode "Expecting property name enclosed in double quotes")
  | n + 1, q :: s =>
    if q.val = 34 then do
      let (key, rest) ← scanString s
      match skipWs rest with
      | [] => .error (.decode "Expecting ':' delimiter")
      | c :: s =>
        if c.val = 58 then do
          let (v, rest) ← scanOnce h n (skipWs s)
          match skipWs rest with
          | [] => .error (.decode "Expecting ',' delimiter")
          | c :: s =>
            if c.val = 125 then .ok ([(key, v)], s)
            else if c.val = 44 then (scanMembers h n (skipWs s)).map fun r => ((key, v) :: r.1, r.2)
            else .error (.decode "Expecting ',' delimiter")
        else .error (.decode "Expecting ':' delimiter")
    else .error (.decode "Expecting property name enclosed in double quotes")

end

/-- `JSONDecoder.raw_decode`: one value at the start of the text, and what is left. -/
def rawDecode (h : Hooks ε) (s : Str) : Except (LoadError ε) (Json × Str) := scanOnce h (2 * s.length + 2) s

/-- `json.loads` of a `str`. -/
def loads (h : Hooks ε) (s : Str) : Except (LoadError ε) Json := do
  if s.head? = some (cp 0xFEFF) then
    throw (.decode "Unexpected UTF-8 BOM (decode using utf-8-sig)")
  let (v, rest) ← rawDecode h (skipWs s)
  if skipWs rest = [] then return v
  throw (.decode "Extra data")

end

end Json

end TurnVector.Python
