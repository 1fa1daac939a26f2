import TurnVector.Authority.Variant

/-! # What the code raises -/

namespace TurnVector

open Python

/-- The exceptions that the modelled functions raise themselves or let through. -/
inductive Exc where
  | keyError (key : Str)
  | typeError
  | valueError (text : Str)
  | zeroDivisionError
  | attributeError
  | unicodeEncodeError
  | memoryError (text : Str)
  | contractError (text : Str)
  | invalidCanonicalJson (what detail : Str)
  | relationValidationError (variant : Variant) (pointers : List Str)
  | compilerInternalError (text : Str)
  | stopIteration (failure : StageFailure)
  | dataPlaneEnvironmentError (text : Str)
  | dataPlaneDisconnected (text : Str)
  | osError (text : Str)
  deriving DecidableEq

/-- `repr(s)`. A character above ASCII is taken to be printable. -/
def strRepr (s : Str) : Str :=
  let quote := if cp 39 ∈ s ∧ cp 34 ∉ s then cp 34 else cp 39
  let hex := fun n => if n < 10 then cp (48 + n) else cp (87 + n)
  let escape := fun c : CodePoint =>
    if c = quote ∨ c.val = 92 then [cp 92, c]
    else if c.val = 10 then [cp 92, cp 110]
    else if c.val = 13 then [cp 92, cp 114]
    else if c.val = 9 then [cp 92, cp 116]
    else if c.val < 32 ∨ c.val = 127 then [cp 92, cp 120, hex (c.val / 16), hex (c.val % 16)]
    else [c]
  quote :: s.flatMap escape ++ [quote]

/-- A block that returned took each of its steps. -/
theorem bind_ok_iff {ε α β : Type} {e : Except ε α} {f : α → Except ε β} {b : β} :
    (e >>= f) = .ok b ↔ ∃ a, e = .ok a ∧ f a = .ok b := by
  cases e with
  | error e => simp [bind, Except.bind]
  | ok a => simp [bind, Except.bind]

theorem ok_of_isSome {ε α : Type} (e : Except ε α) (h : e.toOption.isSome) : ∃ a, e = .ok a := by
  cases e with
  | error e => cases h
  | ok a => exact ⟨a, rfl⟩

theorem then_ok_iff {ε β : Type} {e : Except ε Unit} {f : Except ε β} {b : β} :
    (do e; f) = .ok b ↔ e = .ok () ∧ f = .ok b := by
  cases e with
  | error e => simp [bind, Except.bind]
  | ok u => simp [bind, Except.bind]

theorem mapM_ok {ε α β : Type} (f : α → Except ε β) (g : α → β) (xs : List α) (h : ∀ x ∈ xs, f x = .ok (g x)) :
    xs.mapM f = .ok (xs.map g) := by
  induction xs with
  | nil => rfl
  | cons x xs ih =>
    rw [List.mapM_cons, h x (by simp), ih fun y hy => h y (by simp [hy])]
    rfl

theorem mapM_map {ε α β γ : Type} (f : α → Except ε β) (g : β → γ) (k : α → γ) (hk : ∀ x y, f x = .ok y → g y = k x)
    (xs : List α) (ys : List β) (h : xs.mapM f = .ok ys) : ys.map g = xs.map k := by
  induction xs generalizing ys with
  | nil =>
    cases h
    rfl
  | cons x xs ih =>
    rw [List.mapM_cons] at h
    obtain ⟨y, hy, h⟩ := bind_ok_iff.mp h
    obtain ⟨rest, hrest, h⟩ := bind_ok_iff.mp h
    cases h
    rw [List.map_cons, List.map_cons, hk x y hy, ih rest hrest]

/-- Each result of a list comes from one of its items. -/
theorem mem_of_mapM_ok {ε α β : Type} (f : α → Except ε β) (xs : List α) (ys : List β) (h : xs.mapM f = .ok ys) :
    ∀ y ∈ ys, ∃ x ∈ xs, f x = .ok y := by
  induction xs generalizing ys with
  | nil =>
    cases h
    simp
  | cons x xs ih =>
    rw [List.mapM_cons, bind_ok_iff] at h
    obtain ⟨z, hz, h⟩ := h
    rw [bind_ok_iff] at h
    obtain ⟨zs, hzs, h⟩ := h
    cases h
    intro y hy
    rcases List.mem_cons.mp hy with rfl | hy
    · exact ⟨x, by simp, hz⟩
    · obtain ⟨w, hw, he⟩ := ih zs hzs y hy
      exact ⟨w, by simp [hw], he⟩

theorem mapM_all_ok {ε α β : Type} (f : α → Except ε β) (xs : List α) (ys : List β) (h : xs.mapM f = .ok ys) :
    ∀ x ∈ xs, ∃ y, f x = .ok y := by
  induction xs generalizing ys with
  | nil => simp
  | cons x xs ih =>
    rw [List.mapM_cons, bind_ok_iff] at h
    obtain ⟨y, hy, h⟩ := h
    obtain ⟨rest, hrest, -⟩ := bind_ok_iff.mp h
    exact List.forall_mem_cons.mpr ⟨⟨y, hy⟩, ih rest hrest⟩

theorem forall₂_of_mapM {ε α β : Type} {f : α → Except ε β} {xs : List α} {ys : List β} (h : xs.mapM f = .ok ys) :
    List.Forall₂ (fun x y => f x = .ok y) xs ys := by
  induction xs generalizing ys with
  | nil =>
    cases h
    exact .nil
  | cons x xs ih =>
    rw [List.mapM_cons, bind_ok_iff] at h
    obtain ⟨y, hy, h⟩ := h
    obtain ⟨rest, hrest, h⟩ := bind_ok_iff.mp h
    cases h
    exact .cons hy (ih hrest)

theorem mapM_exists {ε α β : Type} (f : α → Except ε β) (xs : List α) (h : ∀ x ∈ xs, ∃ y, f x = .ok y) :
    ∃ ys, xs.mapM f = .ok ys := by
  induction xs with
  | nil => exact ⟨[], rfl⟩
  | cons x xs ih =>
    obtain ⟨⟨y, hy⟩, hrest⟩ := List.forall_mem_cons.mp h
    obtain ⟨ys, hys⟩ := ih hrest
    refine ⟨y :: ys, ?_⟩
    rw [List.mapM_cons, hy, hys]
    rfl

theorem forM_ok_iff {ε α : Type} (f : α → Except ε Unit) (xs : List α) :
    xs.forM f = .ok () ↔ ∀ x ∈ xs, f x = .ok () := by
  induction xs with
  | nil => simp [pure, Except.pure]
  | cons x xs ih =>
    rw [List.forM, then_ok_iff, ih]
    simp

/-- `[x for x in xs if keep(x)]` -/
def filterE {α : Type} (keep : α → Except Exc Bool) : List α → Except Exc (List α)
  | [] => .ok []
  | x :: xs => do
    let kept ← keep x
    let rest ← filterE keep xs
    return if kept then x :: rest else rest

theorem filterE_map {α β : Type} (keep : β → Except Exc Bool) (f : α → β) (p : α → Bool) (xs : List α)
    (h : ∀ x, keep (f x) = .ok (p x)) : filterE keep (xs.map f) = .ok ((xs.filter p).map f) := by
  induction xs with
  | nil => rfl
  | cons x xs ih =>
    rw [List.map_cons, filterE, h, ih, List.filter_cons]
    cases p x <;> rfl

/-! ## Dicts whose order nothing reads -/

abbrev Dict (α : Type) := Finmap fun _ : Str => α

/-- `d[key]` -/
def getItem {α : Type} (d : Dict α) (key : Str) : Except Exc α :=
  match d.lookup key with
  | some v => .ok v
  | none => .error (.keyError key)

theorem getItem_of_lookup {α : Type} (d : Dict α) (key : Str) (v : α) (h : d.lookup key = some v) :
    getItem d key = .ok v := by
  rw [getItem, h]

/-- `for key in keys: d[key] = v` -/
def fill {α : Type} (d : Dict α) (v : α) (keys : List Str) : Dict α := keys.foldl (fun d k => d.insert k v) d

theorem fill_lookup {α : Type} (d : Dict α) (v : α) (keys : List Str) (k : Str) :
    (fill d v keys).lookup k = if k ∈ keys then some v else d.lookup k := by
  induction keys generalizing d with
  | nil => simp [fill]
  | cons key keys ih =>
    have := ih (d.insert key v)
    rw [fill, List.foldl_cons]
    rw [fill] at this
    rw [this]
    by_cases hk : k = key
    · subst hk
      simp
    · by_cases hm : k ∈ keys
      · simp [hm]
      · simp [hm, hk, Finmap.lookup_insert_of_ne d hk]

/-- `sorted(keys)` -/
def sorted (keys : Finset Str) : List Str := keys.sort

@[simp] theorem mem_sorted (keys : Finset Str) (k : Str) : k ∈ sorted keys ↔ k ∈ keys := Finset.mem_sort _

/-- `min(d[key] for key in keys)`. A set is walked in the order of its members: nothing depends on it. -/
def minItem (d : Dict ℚ) (keys : Finset Str) : Except Exc ℚ := do
  match ← (sorted keys).mapM (getItem d) with
  | [] => throw (.valueError (lit "min() iterable argument is empty"))
  | q :: qs => return qs.foldl min q

theorem foldl_min_isLeast (qs : List ℚ) (q : ℚ) : IsLeast {x | x ∈ q :: qs} (qs.foldl min q) := by
  induction qs generalizing q with
  | nil => simp [IsLeast, lowerBounds]
  | cons r qs ih =>
    obtain ⟨hmem, hle⟩ := ih (min q r)
    refine ⟨?_, ?_⟩
    · simp only [Set.mem_ofPred_eq, List.mem_cons, List.foldl_cons] at hmem ⊢
      rcases hmem with h | h
      · rcases min_choice q r with hq | hq
        · exact Or.inl (h.trans hq)
        · exact Or.inr (Or.inl (h.trans hq))
      · exact Or.inr (Or.inr h)
    · intro x hx
      have hmin : qs.foldl min (min q r) ≤ min q r := hle (by simp)
      simp only [Set.mem_ofPred_eq, List.mem_cons] at hx
      rcases hx with rfl | rfl | hx
      · exact hmin.trans (min_le_left _ _)
      · exact hmin.trans (min_le_right _ _)
      · exact hle (by simp [hx])

theorem minItem_ok (d : Dict ℚ) (keys : Finset Str) (value : Str → ℚ) (hne : keys.Nonempty)
    (h : ∀ k ∈ keys, d.lookup k = some (value k)) : ∃ q, minItem d keys = .ok q ∧ IsLeast (value '' keys) q := by
  have hmap : (sorted keys).mapM (getItem d) = .ok ((sorted keys).map value) :=
    mapM_ok _ _ _ fun k hk => getItem_of_lookup d k _ (h k ((mem_sorted _ _).mp hk))
  have hset : value '' keys = {x | x ∈ (sorted keys).map value} := by
    ext x
    simp
  rw [hset, minItem, hmap]
  cases hl : (sorted keys).map value with
  | nil =>
    obtain ⟨k, hk⟩ := hne
    have : value k ∈ (sorted keys).map value := List.mem_map_of_mem ((mem_sorted _ _).mpr hk)
    simp [hl] at this
  | cons q qs => exact ⟨_, rfl, foldl_min_isLeast qs q⟩

/-- `{key: d[key] for key in sorted(keys)}` -/
def pick {α : Type} (d : Dict α) (keys : Finset Str) : Except Exc (Dict α) := do
  let values ← (sorted keys).mapM fun key => do return (key, ← getItem d key)
  return values.foldl (fun picked p => picked.insert p.1 p.2) ∅

theorem foldl_insert_lookup {α β : Type} (key : β → Str) (value : β → α) (xs : List β) (d : Dict α) (k : Str) :
    (xs.foldl (fun d x => d.insert (key x) (value x)) d).lookup k =
      ((xs.reverse.find? fun x => key x = k).map value).or (d.lookup k) := by
  induction xs generalizing d with
  | nil => simp
  | cons x xs ih =>
    rw [List.foldl_cons, ih, List.reverse_cons, List.find?_append]
    cases hf : xs.reverse.find? (fun x => key x = k) with
    | some y => simp
    | none =>
      by_cases hk : key x = k
      · subst hk
        simp
      · simp [hk, Finmap.lookup_insert_of_ne d fun h => hk h.symm]

theorem find_key (keys : List Str) (k : Str) : (keys.find? fun x => x = k) = if k ∈ keys then some k else none := by
  induction keys with
  | nil => rfl
  | cons key keys ih =>
    by_cases hk : key = k
    · simp [hk]
    · have hk' : k ≠ key := fun h => hk h.symm
      simp [hk, hk', ih]

theorem pick_ok {α : Type} (d : Dict α) (keys : Finset Str) (value : Str → α)
    (h : ∀ k ∈ keys, d.lookup k = some (value k)) :
    ∃ r, pick d keys = .ok r ∧ ∀ k, r.lookup k = if k ∈ keys then some (value k) else none := by
  have hmap : (sorted keys).mapM (fun key => do return (key, ← getItem d key)) =
      (.ok ((sorted keys).map fun k => (k, value k)) : Except Exc _) := by
    apply mapM_ok
    intro k hk
    rw [getItem_of_lookup d k _ (h k ((mem_sorted _ _).mp hk))]
    rfl
  rw [pick, hmap]
  refine ⟨_, rfl, ?_⟩
  intro k
  have hfind : (sorted keys).reverse.find? (fun x => x = k) = if k ∈ keys then some k else none := by
    rw [find_key]
    simp
  rw [foldl_insert_lookup, Finmap.lookup_empty, Option.or_none, ← List.map_reverse, List.find?_map, Option.map_map]
  have hcomp : ((fun p : Str × α => decide (p.1 = k)) ∘ fun j => (j, value j)) = fun x => decide (x = k) := rfl
  rw [hcomp, hfind]
  split <;> rfl

/-! ## `min` with a key -/

/-- The first of the least, and `none` for no item at all. -/
def leastBy {κ α : Type} [LinearOrder κ] (key : α → κ) (xs : List α) : Option α := xs.argmin key

/-- `min(xs, key=key)` -/
def minBy {κ α : Type} [LinearOrder κ] (key : α → Except Exc κ) (xs : List α) : Except Exc (Option α) := do
  let keyed ← xs.mapM fun x => do return (← key x, x)
  return (leastBy Prod.fst keyed).map Prod.snd

theorem foldl_argAux_map {α β : Type} (r : β → β → Prop) [DecidableRel r] (f : α → β) (xs : List α) (o : Option α) :
    (xs.map f).foldl (List.argAux r) (o.map f) = (xs.foldl (List.argAux fun a b => r (f a) (f b)) o).map f := by
  induction xs generalizing o with
  | nil => rfl
  | cons x xs ih =>
    rw [List.map_cons, List.foldl_cons, List.foldl_cons, ← ih]
    congr 1
    cases o with
    | none => rfl
    | some c =>
      simp only [List.argAux, Option.map_some]
      split <;> rfl

theorem leastBy_map {κ α β : Type} [LinearOrder κ] (f : α → β) (k : β → κ) (xs : List α) :
    leastBy k (xs.map f) = (leastBy (fun x => k (f x)) xs).map f :=
  foldl_argAux_map (fun a b => k a < k b) f xs none

theorem minBy_map {κ α β : Type} [LinearOrder κ] (key : β → Except Exc κ) (f : α → β) (k : α → κ) (xs : List α)
    (h : ∀ x ∈ xs, key (f x) = .ok (k x)) : minBy key (xs.map f) = .ok ((leastBy k xs).map f) := by
  have hmap : (xs.map f).mapM (fun y => do return (← key y, y)) = .ok (xs.map fun x => (k x, f x)) := by
    rw [List.mapM_map]
    apply mapM_ok
    intro x hx
    rw [Function.comp_apply, h x hx]
    rfl
  rw [minBy, hmap]
  show Except.ok ((leastBy Prod.fst (xs.map fun x => (k x, f x))).map Prod.snd) = _
  rw [leastBy_map, Option.map_map]
  rfl

theorem minBy_ok {κ α : Type} [LinearOrder κ] (key : α → Except Exc κ) (k : α → κ) (xs : List α)
    (h : ∀ x ∈ xs, key x = .ok (k x)) : minBy key xs = .ok (leastBy k xs) := by
  have := minBy_map key id k xs h
  rwa [List.map_id, Option.map_id] at this

/-! ## Methods -/

/-- A method of an object whose fields are `σ`. What it wrote before it raised stays written. -/
abbrev Method (σ α : Type) := ExceptT Exc (StateM σ) α

/-- One call of a method: what it returns or raises, and the object after it. -/
def Method.call {σ α : Type} (m : Method σ α) (s : σ) : Except Exc α × σ := m s

section
variable {σ α β : Type}

theorem Method.ext {m m' : Method σ α} (h : ∀ s, Method.call m s = Method.call m' s) : m = m' := funext h

@[simp] theorem Method.call_pure (a : α) (s : σ) : Method.call (pure a) s = (.ok a, s) := rfl

@[simp] theorem Method.call_throw (e : Exc) (s : σ) : Method.call (throw e : Method σ α) s = (.error e, s) := rfl

@[simp] theorem Method.call_get (s : σ) : Method.call get s = (.ok s, s) := rfl

@[simp] theorem Method.call_set (s' s : σ) : Method.call (set s') s = (.ok (), s') := rfl

@[simp] theorem Method.call_modify (f : σ → σ) (s : σ) : Method.call (modify f) s = (.ok (), f s) := rfl

theorem Method.call_bind (m : Method σ α) (f : α → Method σ β) (s : σ) :
    Method.call (m >>= f) s = match Method.call m s with
      | (.ok a, s') => Method.call (f a) s'
      | (.error e, s') => (.error e, s') := by
  simp only [Method.call, bind, ExceptT.bind, ExceptT.mk, StateT.bind]
  rcases m s with ⟨r, s'⟩
  cases r <;> rfl

theorem Method.call_bind_ok {m : Method σ α} {s s' : σ} {a : α} (h : Method.call m s = (.ok a, s'))
    (f : α → Method σ β) : Method.call (m >>= f) s = Method.call (f a) s' := by
  rw [Method.call_bind, h]

@[simp] theorem Method.call_liftM (e : Except Exc α) (s : σ) : Method.call (liftM e : Method σ α) s = (e, s) := by
  cases e <;> rfl

@[simp] theorem Method.call_ite (c : Prop) [Decidable c] (m m' : Method σ α) (s : σ) :
    Method.call (if c then m else m') s = if c then Method.call m s else Method.call m' s := by
  split <;> rfl

theorem Method.call_then_throw (m : Method σ β) (e : Exc) (s s' : σ) (a : α) :
    Method.call (m >>= fun _ => throw e) s ≠ (.ok a, s') := by
  rw [Method.call_bind]
  rcases Method.call m s with ⟨e' | b, s''⟩ <;> simp

theorem Method.liftM_pure (a : α) : (liftM (pure a : Except Exc α) : Method σ α) = pure a := rfl

theorem Method.liftM_ok (a : α) : (liftM (Except.ok a : Except Exc α) : Method σ α) = pure a := rfl

theorem Method.liftM_bind (e : Except Exc α) (f : α → Except Exc β) :
    (liftM (e >>= f) : Method σ β) = (liftM e >>= fun a => liftM (f a)) := by
  cases e <;> rfl

/-- A block that returned took each of its steps. -/
theorem Method.bind_inv {m : Method σ α} {f : α → Method σ β} {s s' : σ} {b : β}
    (h : Method.call (m >>= f) s = (.ok b, s')) :
    ∃ a t, Method.call m s = (.ok a, t) ∧ Method.call (f a) t = (.ok b, s') := by
  rw [Method.call_bind] at h
  rcases hm : Method.call m s with ⟨e | a, t⟩
  · rw [hm] at h
    simp at h
  · rw [hm] at h
    exact ⟨a, t, rfl, h⟩

theorem Method.lift_inv {e : Except Exc α} {s s' : σ} {a : α} (h : Method.call (liftM e : Method σ α) s = (.ok a, s')) :
    e = .ok a ∧ s' = s := by
  rw [Method.call_liftM, Prod.mk.injEq] at h
  exact ⟨h.1, h.2.symm⟩

theorem Method.mapM_inv {f : α → Method σ β} {xs : List α} {s s' : σ} {ys : List β}
    (h : Method.call (xs.mapM f) s = (.ok ys, s')) :
    List.Forall₂ (fun x y => ∃ t t', Method.call (f x) t = (.ok y, t')) xs ys := by
  induction xs generalizing s s' ys with
  | nil =>
    cases h
    exact .nil
  | cons x xs ih =>
    rw [List.mapM_cons] at h
    obtain ⟨y, t, hy, h⟩ := Method.bind_inv h
    obtain ⟨rest, t', hrest, h⟩ := Method.bind_inv h
    cases h
    exact .cons ⟨s, t, hy⟩ (ih hrest)

/-- Whether it returns or raises, the method leaves the object in that relation to what it was. -/
def Method.Always (R : σ → σ → Prop) (m : Method σ α) : Prop := ∀ s, R s (Method.call m s).2

theorem Method.always_bind {R : σ → σ → Prop} {m : Method σ α} {f : α → Method σ β}
    (trans : ∀ s t u, R s t → R t u → R s u) (hm : Method.Always R m) (hf : ∀ a, Method.Always R (f a)) :
    Method.Always R (m >>= f) := by
  intro s
  have h := hm s
  rw [Method.call_bind]
  rcases hc : Method.call m s with ⟨e | a, t⟩
  · rwa [hc] at h
  · rw [hc] at h
    exact trans s t _ h (hf a t)

/-- The method returns the value, whatever the object holds. -/
def Method.Returns (m : Method σ α) (a : α) : Prop := ∀ s, ∃ s', Method.call m s = (.ok a, s')

theorem Method.returns_pure (a : α) : Method.Returns (pure a : Method σ α) a := fun s => ⟨s, rfl⟩

theorem Method.returns_lift {e : Except Exc α} {a : α} (h : e = .ok a) : Method.Returns (liftM e : Method σ α) a := by
  intro s
  exact ⟨s, by rw [Method.call_liftM, h]⟩

theorem Method.Returns.bind {m : Method σ α} {a : α} {f : α → Method σ β} {b : β} (h : Method.Returns m a)
    (hf : Method.Returns (f a) b) : Method.Returns (m >>= f) b := by
  intro s
  obtain ⟨s', hs⟩ := h s
  obtain ⟨s'', hs'⟩ := hf s'
  exact ⟨s'', by rw [Method.call_bind_ok hs, hs']⟩

theorem Method.returns_mapM (f : α → Method σ β) (g : α → β) (xs : List α)
    (h : ∀ x ∈ xs, Method.Returns (f x) (g x)) : Method.Returns (xs.mapM f) (xs.map g) := by
  induction xs with
  | nil => exact Method.returns_pure []
  | cons x xs ih =>
    rw [List.mapM_cons, List.map_cons]
    exact (h x (by simp)).bind ((ih fun y hy => h y (by simp [hy])).bind (Method.returns_pure _))

theorem Method.returns_mapM_exists (f : α → Method σ β) (xs : List α) (h : ∀ x ∈ xs, ∃ y, Method.Returns (f x) y) :
    ∃ ys, Method.Returns (xs.mapM f) ys := by
  induction xs with
  | nil => exact ⟨[], Method.returns_pure []⟩
  | cons x xs ih =>
    obtain ⟨⟨y, hy⟩, hrest⟩ := List.forall_mem_cons.mp h
    obtain ⟨ys, hys⟩ := ih hrest
    refine ⟨y :: ys, ?_⟩
    rw [List.mapM_cons]
    exact hy.bind (hys.bind (Method.returns_pure _))

theorem Method.returns_forM (f : α → Method σ Unit) (xs : List α) (h : ∀ x ∈ xs, Method.Returns (f x) ()) :
    Method.Returns (xs.forM f) () := by
  induction xs with
  | nil => exact Method.returns_pure ()
  | cons x xs ih => exact (h x (by simp)).bind (ih fun y hy => h y (by simp [hy]))

end

end TurnVector
