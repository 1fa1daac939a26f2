import TurnVector.Authority.ContractJson
import TurnVector.Errors

/-! # Where keys are repeated

The stack of `_collect_duplicates` in `authority/contract_json.py` finds what the recursion finds, and that is one fact
for each repeated key, in document order.
-/

namespace TurnVector.ContractJson

open Python Json

/-! ## The stack -/

/-- An entry of the stack. A pair carries the fact about its key, if there is one. -/
inductive Entry where
  | value (current : Json) (path : List PathToken)
  | pair (current : Json) (path : List PathToken) (duplicate : Option DuplicateKey)

/-- The entries for the pairs of an object. `seen` counts the keys that came before. -/
def pairEntries (path : List PathToken) (seen : Dict Nat) (index : Nat) : List (Str × Json) → List Entry
  | [] => []
  | (key, child) :: pairs =>
    let occurrence := (seen.lookup key).getD 0 + 1
    let fact := if 1 < occurrence then some ⟨path, key, index, occurrence⟩ else none
    .pair child (path ++ [.key key]) fact :: pairEntries path (seen.insert key occurrence) (index + 1) pairs

/-- The entries for the items of an array. -/
def itemEntries (path : List PathToken) (index : Nat) : List Json → List Entry
  | [] => []
  | child :: items => .value child (path ++ [.index index]) :: itemEntries path (index + 1) items

/-- `stack.extend(entries)`. The top of the stack is the head of the list. -/
def extend (stack entries : List Entry) : List Entry := entries.reverse ++ stack

/-- Twice the size of the value, and one more for a pair that is still to become a value. -/
noncomputable def Entry.weight : Entry → Nat
  | .value current _ => 2 * sizeOf current
  | .pair current _ _ => 2 * sizeOf current + 1

noncomputable def stackWeight (stack : List Entry) : Nat := (stack.map Entry.weight).sum

@[simp] theorem stackWeight_cons (entry : Entry) (stack : List Entry) :
    stackWeight (entry :: stack) = entry.weight + stackWeight stack := rfl

@[simp] theorem extend_reverse (stack entries : List Entry) : extend stack entries.reverse = entries ++ stack := by
  rw [extend, List.reverse_reverse]

theorem stackWeight_append (stack stack' : List Entry) :
    stackWeight (stack ++ stack') = stackWeight stack + stackWeight stack' := by
  simp [stackWeight]

theorem pairEntries_weight (path : List PathToken) (seen : Dict Nat) (index : Nat) (pairs : List (Str × Json)) :
    stackWeight (pairEntries path seen index pairs) < 2 * sizeOf pairs := by
  induction pairs generalizing seen index with
  | nil => simp [pairEntries, stackWeight]
  | cons p pairs ih =>
    obtain ⟨key, child⟩ := p
    have := ih (seen.insert key ((seen.lookup key).getD 0 + 1)) (index + 1)
    simp only [pairEntries, stackWeight_cons, Entry.weight, List.cons.sizeOf_spec, Prod.mk.sizeOf_spec]
    omega

theorem itemEntries_weight (path : List PathToken) (index : Nat) (items : List Json) :
    stackWeight (itemEntries path index items) < 2 * sizeOf items := by
  induction items generalizing index with
  | nil => simp [itemEntries, stackWeight]
  | cons child items ih =>
    have := ih (index + 1)
    simp only [itemEntries, stackWeight_cons, Entry.weight, List.cons.sizeOf_spec]
    omega

/-- The loop of `_collect_duplicates`. -/
def sweepStack (facts : List DuplicateKey) : List Entry → List DuplicateKey
  | [] => facts
  | .pair current path duplicate :: stack => sweepStack (facts ++ duplicate.toList) (.value current path :: stack)
  | .value (.obj pairs) path :: stack => sweepStack facts (extend stack (pairEntries path ∅ 0 pairs).reverse)
  | .value (.arr items) path :: stack => sweepStack facts (extend stack (itemEntries path 0 items).reverse)
  | .value .null _ :: stack => sweepStack facts stack
  | .value (.bool _) _ :: stack => sweepStack facts stack
  | .value (.int _) _ :: stack => sweepStack facts stack
  | .value (.float _) _ :: stack => sweepStack facts stack
  | .value (.str _) _ :: stack => sweepStack facts stack
termination_by stack => stackWeight stack
decreasing_by
  all_goals simp only [extend_reverse, stackWeight_append, stackWeight_cons, Entry.weight]
  · omega
  · have := pairEntries_weight path ∅ 0 pairs
    simp only [Json.obj.sizeOf_spec]
    omega
  · have := itemEntries_weight path 0 items
    simp only [Json.arr.sizeOf_spec]
    omega
  all_goals simp

/-- `_collect_duplicates` of a value. -/
def duplicatesOf (value : Json) : List DuplicateKey := sweepStack [] [.value value []]

/-! ## The stack and the recursion -/

/-- What an entry adds before anything below it. -/
def Entry.facts : Entry → List DuplicateKey
  | .value current path => collectDuplicates path current
  | .pair current path duplicate => duplicate.toList ++ collectDuplicates path current

theorem itemEntries_facts (path : List PathToken) (index : Nat) (items : List Json) :
    (itemEntries path index items).flatMap Entry.facts = collectItems path index items := by
  induction items generalizing index with
  | nil => rfl
  | cons child items ih => rw [itemEntries, List.flatMap_cons, ih, collectItems, Entry.facts]

theorem pairEntries_facts (path : List PathToken) (seen : Dict Nat) (before : List Str) (index : Nat)
    (pairs : List (Str × Json)) (hseen : ∀ key, (seen.lookup key).getD 0 = before.count key) :
    (pairEntries path seen index pairs).flatMap Entry.facts = collectMembers path before index pairs := by
  induction pairs generalizing seen before index with
  | nil => rfl
  | cons p pairs ih =>
    obtain ⟨key, child⟩ := p
    have hnext : ∀ k, ((seen.insert key (before.count key + 1)).lookup k).getD 0 = (key :: before).count k := by
      intro k
      by_cases hk : k = key
      · subst hk
        simp
      · rw [Finmap.lookup_insert_of_ne seen hk, hseen k, List.count_cons_of_ne (Ne.symm hk)]
    have hoccurs : (1 < before.count key + 1) ↔ occurs key before = true := by
      rw [occurs_iff, ← List.count_pos_iff]
      omega
    simp only [pairEntries, List.flatMap_cons, Entry.facts, hseen key, ih _ (key :: before) _ hnext, collectMembers,
      hoccurs]
    split <;> simp

theorem sweepStack_eq (facts : List DuplicateKey) (stack : List Entry) :
    sweepStack facts stack = facts ++ stack.flatMap Entry.facts := by
  induction facts, stack using sweepStack.induct with
  | case1 facts => simp [sweepStack]
  | case2 facts current path duplicate stack ih =>
    rw [sweepStack, ih]
    simp [Entry.facts]
  | case3 facts pairs path stack ih =>
    rw [sweepStack, ih, extend_reverse, List.flatMap_append, pairEntries_facts path ∅ [] 0 pairs (by simp)]
    rfl
  | case4 facts items path stack ih =>
    rw [sweepStack, ih, extend_reverse, List.flatMap_append, itemEntries_facts]
    rfl
  | _ => simp_all [sweepStack, Entry.facts, collectDuplicates]

/-- The stack finds what the recursion finds. -/
theorem duplicatesOf_eq (value : Json) : duplicatesOf value = collectDuplicates [] value := by
  rw [duplicatesOf, sweepStack_eq]
  simp [Entry.facts]

/-! ## Repeated keys -/

/-- A pair whose key stands earlier in its object. The address is the way to the pair, by positions: in the order of
lists, it comes after all of the pairs before it and before all that its value holds. -/
inductive Repeated : List PathToken → Json → List Nat → DuplicateKey → Prop
  | here (path : List PathToken) (pairs : List (Str × Json)) (i : Nat) (key : Str) (child : Json)
      (hpair : pairs[i]? = some (key, child)) (hbefore : key ∈ (pairs.take i).map Prod.fst) :
      Repeated path (.obj pairs) [i] ⟨path, key, i, ((pairs.take i).map Prod.fst).count key + 1⟩
  | pair (path : List PathToken) (pairs : List (Str × Json)) (i : Nat) (key : Str) (child : Json) (address : List Nat)
      (fact : DuplicateKey) (hpair : pairs[i]? = some (key, child))
      (hinner : Repeated (path ++ [.key key]) child address fact) : Repeated path (.obj pairs) (i :: address) fact
  | item (path : List PathToken) (items : List Json) (i : Nat) (child : Json) (address : List Nat)
      (fact : DuplicateKey) (hitem : items[i]? = some child)
      (hinner : Repeated (path ++ [.index i]) child address fact) : Repeated path (.arr items) (i :: address) fact

/-- The facts are those of the repeated keys, one each, in document order. -/
def Located (facts : List DuplicateKey) (repeated : List Nat → DuplicateKey → Prop) : Prop :=
  ∃ found : List (List Nat × DuplicateKey), found.map Prod.snd = facts ∧ (found.map Prod.fst).Pairwise (· < ·) ∧
    ∀ address fact, (address, fact) ∈ found ↔ repeated address fact

theorem repeated_cons (path : List PathToken) (value : Json) (address : List Nat) (fact : DuplicateKey)
    (h : Repeated path value address fact) : ∃ i rest, address = i :: rest := by
  cases h with
  | here => exact ⟨_, _, rfl⟩
  | pair => exact ⟨_, _, rfl⟩
  | item => exact ⟨_, _, rfl⟩

/-- Facts of one child, and then those of the later ones. -/
theorem Located.append (facts facts' : List DuplicateKey) (inner later : List Nat → DuplicateKey → Prop) (i : Nat)
    (h : Located facts inner) (h' : Located facts' later)
    (hlater : ∀ address fact, later address fact → ∃ j rest, address = j :: rest ∧ i < j) :
    Located (facts ++ facts') fun address fact =>
      (∃ rest, address = i :: rest ∧ inner rest fact) ∨ later address fact := by
  obtain ⟨found, rfl, hsorted, hfound⟩ := h
  obtain ⟨found', rfl, hsorted', hfound'⟩ := h'
  refine ⟨found.map (fun entry => (i :: entry.1, entry.2)) ++ found', ?_, ?_, ?_⟩
  · simp [Function.comp_def]
  · rw [List.map_append, List.map_map, List.pairwise_append]
    refine ⟨?_, hsorted', ?_⟩
    · rw [List.pairwise_map] at hsorted ⊢
      exact hsorted.imp fun hlt => List.cons_lt_cons_iff.mpr (.inr ⟨rfl, hlt⟩)
    · intro a ha b hb
      obtain ⟨entry, -, rfl⟩ := List.mem_map.mp ha
      obtain ⟨⟨_, fact⟩, hmem, rfl⟩ := List.mem_map.mp hb
      obtain ⟨j, rest, hj, hlt⟩ := hlater _ _ ((hfound' _ fact).mp hmem)
      rw [hj]
      exact List.cons_lt_cons_iff.mpr (.inl hlt)
  · intro address fact
    rw [List.mem_append, hfound']
    apply or_congr_left
    constructor
    · intro hm
      obtain ⟨⟨rest, fact'⟩, hentry, heq⟩ := List.mem_map.mp hm
      cases heq
      exact ⟨rest, rfl, (hfound rest fact').mp hentry⟩
    · rintro ⟨rest, rfl, hinner⟩
      exact List.mem_map.mpr ⟨(rest, fact), (hfound rest fact).mpr hinner, rfl⟩

/-- The fact of a pair, and then those of its value. -/
theorem Located.cons (fact : DuplicateKey) (facts : List DuplicateKey) (inner : List Nat → DuplicateKey → Prop)
    (h : Located facts inner) (hne : ∀ address fact, inner address fact → address ≠ []) :
    Located (fact :: facts) fun address fact' => (address = [] ∧ fact' = fact) ∨ inner address fact' := by
  obtain ⟨found, rfl, hsorted, hfound⟩ := h
  refine ⟨([], fact) :: found, rfl, ?_, ?_⟩
  · rw [List.map_cons, List.pairwise_cons]
    refine ⟨?_, hsorted⟩
    intro address ha
    obtain ⟨⟨address', fact'⟩, hmem, rfl⟩ := List.mem_map.mp ha
    obtain ⟨i, rest, hi⟩ := List.exists_cons_of_ne_nil (hne _ _ ((hfound address' fact').mp hmem))
    simp only
    rw [hi]
    exact List.nil_lt_cons i rest
  · intro address fact'
    rw [List.mem_cons, hfound, Prod.mk.injEq]

theorem Located.congr (facts : List DuplicateKey) (repeated repeated' : List Nat → DuplicateKey → Prop)
    (h : Located facts repeated) (heq : ∀ address fact, repeated address fact ↔ repeated' address fact) :
    Located facts repeated' := by
  obtain ⟨found, hfacts, hsorted, hfound⟩ := h
  exact ⟨found, hfacts, hsorted, fun address fact => (hfound address fact).trans (heq address fact)⟩

theorem Located.nil (repeated : List Nat → DuplicateKey → Prop) (h : ∀ address fact, ¬ repeated address fact) :
    Located [] repeated := ⟨[], rfl, .nil, fun address fact => by simp [h address fact]⟩

/-- What is repeated at a pair of an object: its key, or a key in its value. -/
def RepeatedPair (path : List PathToken) (seen : List Str) (index : Nat) (pair : Str × Json) (rest : List Nat)
    (fact : DuplicateKey) : Prop :=
  (pair.1 ∈ seen ∧ rest = [] ∧ fact = ⟨path, pair.1, index, seen.count pair.1 + 1⟩) ∨
    Repeated (path ++ [.key pair.1]) pair.2 rest fact

/-- What is repeated in the rest of an object, after the keys that are seen. -/
def RepeatedIn (path : List PathToken) (seen : List Str) (index : Nat) (pairs : List (Str × Json))
    (address : List Nat) (fact : DuplicateKey) : Prop :=
  ∃ k pair rest, pairs[k]? = some pair ∧ address = (index + k) :: rest ∧
    RepeatedPair path (seen ++ (pairs.take k).map Prod.fst) (index + k) pair rest fact

theorem repeatedPair_perm (path : List PathToken) (seen seen' : List Str) (index : Nat) (pair : Str × Json)
    (rest : List Nat) (fact : DuplicateKey) (hperm : seen.Perm seen') :
    RepeatedPair path seen index pair rest fact ↔ RepeatedPair path seen' index pair rest fact := by
  rw [RepeatedPair, RepeatedPair, hperm.mem_iff, hperm.count_eq]

/-- The first pair that is left, or a later one. -/
theorem repeatedIn_cons (path : List PathToken) (seen : List Str) (index : Nat) (pair : Str × Json)
    (pairs : List (Str × Json)) (address : List Nat) (fact : DuplicateKey) :
    RepeatedIn path seen index (pair :: pairs) address fact ↔
      (∃ rest, address = index :: rest ∧ RepeatedPair path seen index pair rest fact) ∨
        RepeatedIn path (pair.1 :: seen) (index + 1) pairs address fact := by
  have hmove (ks : List Str) : (seen ++ pair.1 :: ks).Perm (pair.1 :: seen ++ ks) := List.perm_middle
  constructor
  · rintro ⟨k, p, rest, hpair, haddress, hfact⟩
    cases k with
    | zero =>
      rw [List.getElem?_cons_zero, Option.some.injEq] at hpair
      subst hpair
      rw [List.take_zero, List.map_nil, List.append_nil] at hfact
      exact .inl ⟨rest, haddress, hfact⟩
    | succ k =>
      rw [List.getElem?_cons_succ] at hpair
      rw [List.take_succ_cons, List.map_cons, repeatedPair_perm _ _ _ _ _ _ _ (hmove _)] at hfact
      rw [show index + (k + 1) = index + 1 + k by omega] at haddress hfact
      exact .inr ⟨k, p, rest, hpair, haddress, hfact⟩
  · rintro (⟨rest, haddress, hfact⟩ | ⟨k, p, rest, hpair, haddress, hfact⟩)
    · refine ⟨0, pair, rest, rfl, haddress, ?_⟩
      rwa [List.take_zero, List.map_nil, List.append_nil]
    · refine ⟨k + 1, p, rest, hpair, ?_, ?_⟩
      · rw [haddress, show index + (k + 1) = index + 1 + k by omega]
      · rw [List.take_succ_cons, List.map_cons, repeatedPair_perm _ _ _ _ _ _ _ (hmove _),
          show index + (k + 1) = index + 1 + k by omega]
        exact hfact

theorem repeatedIn_all (path : List PathToken) (pairs : List (Str × Json)) (address : List Nat) (fact : DuplicateKey) :
    RepeatedIn path [] 0 pairs address fact ↔ Repeated path (.obj pairs) address fact := by
  constructor
  · rintro ⟨k, ⟨key, child⟩, rest, hpair, rfl, hfact⟩
    rw [List.nil_append, Nat.zero_add] at hfact
    rw [Nat.zero_add]
    rcases hfact with ⟨hbefore, rfl, rfl⟩ | hinner
    · exact .here path pairs k key child hpair hbefore
    · exact .pair path pairs k key child rest fact hpair hinner
  · intro h
    cases h with
    | here _ _ i key child hpair hbefore =>
      refine ⟨i, (key, child), [], hpair, by rw [Nat.zero_add], ?_⟩
      rw [List.nil_append, Nat.zero_add]
      exact .inl ⟨hbefore, rfl, rfl⟩
    | pair _ _ i key child rest _ hpair hinner =>
      exact ⟨i, (key, child), rest, hpair, by rw [Nat.zero_add], .inr hinner⟩

theorem located_pairs (path : List PathToken) (seen : List Str) (index : Nat) (pairs : List (Str × Json))
    (hinner : ∀ p ∈ pairs, ∀ path, Located (collectDuplicates path p.2) (Repeated path p.2)) :
    Located (collectMembers path seen index pairs) (RepeatedIn path seen index pairs) := by
  induction pairs generalizing seen index with
  | nil => exact Located.nil _ fun address fact ⟨k, p, rest, hpair, _⟩ => by cases hpair
  | cons p pairs ih =>
    obtain ⟨key, child⟩ := p
    have hchild := hinner (key, child) (by simp) (path ++ [.key key])
    have hrest := ih (key :: seen) (index + 1) fun q hq => hinner q (by simp [hq])
    have hpair : Located ((if occurs key seen then [⟨path, key, index, seen.count key + 1⟩] else []) ++
        collectDuplicates (path ++ [.key key]) child) (RepeatedPair path seen index (key, child)) := by
      by_cases hseen : key ∈ seen
      · rw [if_pos ((occurs_iff _ _).mpr hseen), List.singleton_append]
        refine Located.congr _ _ _ (hchild.cons _ _ _ fun address fact h => ?_) fun address fact => ?_
        · obtain ⟨i, rest, rfl⟩ := repeated_cons _ _ _ _ h
          simp
        · simp only [RepeatedPair, hseen, true_and]
      · rw [if_neg (by rwa [occurs_iff]), List.nil_append]
        refine Located.congr _ _ _ hchild fun address fact => ?_
        simp only [RepeatedPair, hseen, false_and, false_or]
    rw [collectMembers]
    refine Located.congr _ _ _ (hpair.append _ _ _ _ index hrest ?_) fun address fact =>
      (repeatedIn_cons path seen index (key, child) pairs address fact).symm
    rintro address fact ⟨k, _, rest, -, rfl, -⟩
    exact ⟨_, rest, rfl, by omega⟩

/-- What is repeated in the rest of an array. -/
theorem located_items (path : List PathToken) (index : Nat) (items : List Json)
    (hinner : ∀ x ∈ items, ∀ path, Located (collectDuplicates path x) (Repeated path x)) :
    Located (collectItems path index items) fun address fact =>
      ∃ k child rest, items[k]? = some child ∧ address = (index + k) :: rest ∧
        Repeated (path ++ [.index (index + k)]) child rest fact := by
  induction items generalizing index with
  | nil => exact Located.nil _ fun address fact ⟨k, p, rest, hitem, _⟩ => by cases hitem
  | cons child items ih =>
    have hchild := hinner child (by simp) (path ++ [.index index])
    have hrest := ih (index + 1) fun x hx => hinner x (by simp [hx])
    rw [collectItems]
    refine Located.congr _ _ _ (hchild.append _ _ _ _ index hrest ?_) fun address fact => ?_
    · rintro address fact ⟨k, _, rest, -, rfl, -⟩
      exact ⟨_, rest, rfl, by omega⟩
    · constructor
      · rintro (⟨rest, haddress, hfact⟩ | ⟨k, x, rest, hitem, haddress, hfact⟩)
        · exact ⟨0, child, rest, rfl, haddress, hfact⟩
        · rw [show index + 1 + k = index + (k + 1) by omega] at haddress hfact
          exact ⟨k + 1, x, rest, hitem, haddress, hfact⟩
      · rintro ⟨k, x, rest, hitem, haddress, hfact⟩
        cases k with
        | zero =>
          rw [List.getElem?_cons_zero, Option.some.injEq] at hitem
          subst hitem
          exact .inl ⟨rest, haddress, hfact⟩
        | succ k =>
          rw [List.getElem?_cons_succ] at hitem
          rw [show index + (k + 1) = index + 1 + k by omega] at haddress hfact
          exact .inr ⟨k, x, rest, hitem, haddress, hfact⟩

/-- There is one fact for each repeated key of a value, in document order. -/
theorem collectDuplicates_located (value : Json) :
    ∀ path, Located (collectDuplicates path value) (Repeated path value) := by
  induction value with
  | arr items ih =>
    intro path
    refine Located.congr _ _ _ (located_items path 0 items ih) fun address fact => ?_
    simp only [Nat.zero_add]
    constructor
    · rintro ⟨k, child, rest, hitem, rfl, hfact⟩
      exact .item path items k child rest fact hitem hfact
    · intro h
      cases h with
      | item _ _ i child rest _ hitem hinner => exact ⟨i, child, rest, hitem, rfl, hinner⟩
  | obj pairs ih =>
    intro path
    exact Located.congr _ _ _ (located_pairs path [] 0 pairs ih) (repeatedIn_all path pairs)
  | _ => exact fun path => Located.nil _ fun address fact h => by cases h

end TurnVector.ContractJson
