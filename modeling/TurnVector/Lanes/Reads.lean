import TurnVector.Lanes.OracleReadings

/-! # The order of the places

An oracle goes through its places one after the other: what each reader does at its place, and how a computation is
put together from its readers.
-/

namespace TurnVector.Lanes

open Python Json Effects
open CrossEngine (PyFloat)
open LaneController (Raised contractError)
open Canonical (itemAt Sha256)

def isContractError (e : Raised) : Prop := e.kind = .contractError

section
variable {floats : OracleFloats} {α β : Type} {rest : List Reading}

variable (floats) in
/-- The code looks at these places, in this order. -/
def Reads (places : List Reading) (x : Except Raised α) : Prop :=
  Follows isContractError (places.map (Reading.gate floats)) x

/-! ## Rules -/

theorem Reads.pure (a : α) : Reads floats [] (.ok a) := Follows.pure a

theorem Reads.bind {places : List Reading} {x : Except Raised α} {f : α → Except Raised β} (h : Reads floats places x)
    (hf : ∀ a, x = .ok a → Reads floats rest (f a)) : Reads floats (places ++ rest) (x >>= f) := by
  rw [Reads, List.map_append]
  exact Follows.bind h hf

theorem Reads.step {place : Reading} {x : Except Raised α} {f : α → Except Raised β} (h : Reads floats [place] x)
    (hf : ∀ a, x = .ok a → Reads floats rest (f a)) : Reads floats (place :: rest) (x >>= f) :=
  Reads.bind h hf

theorem Reads.map {places : List Reading} {x : Except Raised α} (f : α → β) (h : Reads floats places x) :
    Reads floats places (f <$> x) := Follows.map f h

theorem reads_passes {place : Reading} (a : α) (h : place.gate floats = .passes) : Reads floats [place] (.ok a) :=
  .returns a (by simp [h, firstStop])

theorem reads_refuses {place : Reading} (text : Str) (h : place.gate floats = .refuses) :
    Reads floats [place] (contractError text : Except Raised α) :=
  .rejects _ (by simp [h, firstStop]) rfl

theorem reads_breaks {place : Reading} (text : Str) (h : place.gate floats = .breaks) :
    Reads floats [place] (.error ⟨.exception, text⟩ : Except Raised α) :=
  .breaks _ (by simp [h, firstStop]) (by simp [isContractError])

theorem reads_met {condition : Bool} {x : Except Raised α} (h : condition = true) (hx : Reads floats rest x) :
    Reads floats (.met condition :: rest) x :=
  Follows.congr hx (by simp [h, Reading.gate, firstStop])

theorem reads_unmet {condition : Bool} {text : Str} (h : condition = false) :
    Reads floats (.met condition :: rest) (contractError text : Except Raised α) :=
  .rejects _ (by simp [h, Reading.gate, firstStop]) rfl

/-! ## Readers -/

theorem oracleFields_ok {names : List String} {value : Json} {place : Str} {fields : Fields names}
    (h : oracleFields value names place = .ok fields) : value = .obj fields.members := by
  cases value with
  | obj members =>
    by_cases hkeys : hasKeys (.obj members) names = true
    · simp only [oracleFields, hkeys, dite_true, Except.ok.injEq] at h
      rw [← h]
    · simp [oracleFields, hkeys, contractError] at h
  | _ => simp [oracleFields, contractError] at h

theorem reads_fields {names : List String} {value : Json} {place : Str} {f : Fields names → Except Raised α}
    (h : ∀ fields, value = .obj fields.members → Reads floats rest (f fields)) :
    Reads floats (.keys value names :: rest) (oracleFields value names place >>= f) := by
  refine Reads.step ?_ fun fields hfields => h fields (oracleFields_ok hfields)
  cases value with
  | obj members =>
    by_cases hkeys : hasKeys (.obj members) names = true
    · simp only [oracleFields, hkeys, dite_true]
      exact reads_passes _ (by simp [Reading.gate, hkeys])
    · simp only [oracleFields, hkeys, Bool.false_eq_true, dite_false]
      exact reads_refuses _ (by simp [Reading.gate, hkeys])
  | _ => exact reads_refuses _ rfl

theorem reads_list {value : Json} {place : Str} {f : List Json → Except Raised α}
    (h : ∀ xs, value = .arr xs → Reads floats rest (f xs)) :
    Reads floats (.list value :: rest) (oracleList value place >>= f) := by
  cases value with
  | arr xs => exact Reads.step (reads_passes xs rfl) fun a ha => h a (by cases ha; rfl)
  | _ => exact Reads.step (reads_refuses _ rfl) fun a ha => nomatch ha

theorem Reads.boolean {value : Json} {place : Str} : Reads floats [.boolean value] (oracleBoolean value place) := by
  cases value with
  | bool b => exact reads_passes b rfl
  | _ => exact reads_refuses _ rfl

theorem oracleBoolean_ok {value : Json} {place : Str} {b : Bool} (h : oracleBoolean value place = .ok b) :
    value = .bool b := by
  cases value with
  | bool b =>
    cases h
    rfl
  | _ => simp [oracleBoolean, contractError] at h

theorem reads_boolean {value : Json} {place : Str} {f : Bool → Except Raised α}
    (h : ∀ b, value = .bool b → Reads floats rest (f b)) :
    Reads floats (.boolean value :: rest) (oracleBoolean value place >>= f) :=
  Reads.step .boolean fun b hb => h b (oracleBoolean_ok hb)

theorem number_ok {value : Json} {place : Str} {q : ℚ} (h : number floats.toFloats value place = .ok q) :
    numeric floats value = q := by
  cases value with
  | int n => cases hn : floats.ofInt n <;> simp_all [number, numeric, overflow]
  | float token => cases htoken : floats.ofToken token <;> simp_all [number, numeric, contractError, finiteOf]
  | _ => simp [number, contractError] at h

theorem Reads.number {value : Json} {place : Str} :
    Reads floats [.number value] (number floats.toFloats value place) := by
  cases value with
  | int n =>
    cases hn : floats.ofInt n with
    | some q => simpa [Lanes.number, hn] using reads_passes q (by simp [Reading.gate, numberGate, hn])
    | none => simpa [Lanes.number, hn, overflow] using reads_breaks _ (by simp [Reading.gate, numberGate, hn])
  | float token =>
    cases htoken : floats.ofToken token with
    | finite q =>
      simpa [Lanes.number, htoken] using reads_passes q (by simp [Reading.gate, numberGate, htoken, finiteOf])
    | infinite b =>
      simpa [Lanes.number, htoken] using reads_refuses _ (by simp [Reading.gate, numberGate, htoken, finiteOf])
    | nan => simpa [Lanes.number, htoken] using reads_refuses _ (by simp [Reading.gate, numberGate, htoken, finiteOf])
  | _ => exact reads_refuses _ rfl

theorem reads_number {value : Json} {place : Str} {f : ℚ → Except Raised α}
    (h : Reads floats rest (f (numeric floats value))) :
    Reads floats (.number value :: rest) (number floats.toFloats value place >>= f) :=
  Reads.step .number fun _ hq => number_ok hq ▸ h

theorem reads_demand {condition : Bool} {text : Str} {f : Unit → Except Raised α}
    (h : condition = true → Reads floats rest (f ())) :
    Reads floats (.met condition :: rest) (demand condition text >>= f) := by
  cases condition with
  | true => exact Reads.step (reads_passes () rfl) fun _ _ => h rfl
  | false => exact Reads.step (reads_refuses text rfl) fun a ha => nomatch ha

theorem Reads.hashed {value : Json} : Reads floats [.hashed value] (hashed value) := by
  cases value with
  | arr xs => exact reads_breaks _ rfl
  | obj members => exact reads_breaks _ rfl
  | _ => exact reads_passes () rfl

theorem reads_hashed {value : Json} {f : Unit → Except Raised α} (h : Reads floats rest (f ())) :
    Reads floats (.hashed value :: rest) (hashed value >>= f) :=
  Reads.step .hashed fun _ _ => h

theorem Reads.named {γ : Type} {names : List (Str × γ)} {value : Json} :
    Reads floats [.hashed value] (namedBy names value) := by
  cases value with
  | arr xs => exact reads_breaks _ rfl
  | obj members => exact reads_breaks _ rfl
  | _ => exact reads_passes _ rfl

theorem namedBy_ok {γ : Type} {names : List (Str × γ)} {value : Json} {found : Option γ}
    (h : namedBy names value = .ok found) : found.isSome = names.any fun name => value = .str name.1 := by
  cases value with
  | str text =>
    cases h
    induction names with
    | nil => rfl
    | cons name names ih =>
      obtain ⟨key, result⟩ := name
      by_cases htext : text = key
      · simp [htext]
      · have hne : (text == key) = false := by simpa using htext
        simpa [List.lookup, hne, htext] using ih
  | arr xs => simp [namedBy, raised] at h
  | obj members => simp [namedBy, raised] at h
  | _ =>
    cases h
    simp

theorem reads_named {γ : Type} {names : List (Str × γ)} {value : Json} {f : Option γ → Except Raised α}
    (h : ∀ found : Option γ, (found.isSome = names.any fun name => value = .str name.1) → Reads floats rest (f found)) :
    Reads floats (.hashed value :: rest) (namedBy names value >>= f) :=
  Reads.step .named fun found hfound => h found (namedBy_ok hfound)

theorem textOf_ok {value : Json} {text : Str} (h : textOf value = .ok text) : value.strOf = text := by
  by_cases hlong : longInt value = true
  · simp [textOf, hlong, raised] at h
  · simpa [textOf, hlong] using h

theorem reads_text {value : Json} {f : Str → Except Raised α} (h : Reads floats rest (f value.strOf)) :
    Reads floats (.text value :: rest) (textOf value >>= f) := by
  by_cases hlong : longInt value = true
  · rw [textOf, if_pos hlong]
    exact Reads.step (reads_breaks _ (by simp [Reading.gate, hlong])) fun a ha => nomatch ha
  · rw [textOf, if_neg hlong]
    refine Reads.step (reads_passes value.strOf (by simp [Reading.gate, hlong])) fun a ha => ?_
    cases ha
    exact h

/-! ## Loops -/

theorem Reads.mapM {γ : Type} {places : γ → List Reading} {f : γ → Except Raised α} (xs : List γ)
    (h : ∀ x ∈ xs, Reads floats (places x) (f x)) : Reads floats (xs.flatMap places) (xs.mapM f) := by
  rw [Reads, List.map_flatMap]
  exact Follows.mapM xs h

theorem Reads.mapM_indexed {γ : Type} {places : γ → List Reading} {f : γ × Nat → Except Raised α} (xs : List γ)
    (h : ∀ x, Reads floats (places x.1) (f x)) : Reads floats (xs.flatMap places) (xs.zipIdx.mapM f) := by
  have hplaces : xs.flatMap places = xs.zipIdx.flatMap fun x => places x.1 := by
    conv_lhs => rw [← List.zipIdx_map_fst 0 xs, List.flatMap_map]
  rw [hplaces]
  exact Reads.mapM xs.zipIdx fun x _ => h x

theorem mapM_kept {γ δ : Type} {f : γ × Nat → Except Raised α} {kept : α → δ} {known : γ → δ} {xs : List γ} {k : Nat}
    {results : List α} (hf : ∀ x a, f x = .ok a → kept a = known x.1) (h : (xs.zipIdx k).mapM f = .ok results) :
    results.map kept = xs.map known := by
  induction xs generalizing k results with
  | nil =>
    cases h
    rfl
  | cons x xs ih =>
    rw [List.zipIdx_cons, List.mapM_cons] at h
    cases hx : f (x, k) with
    | error e => simp [hx, bind, Except.bind] at h
    | ok a =>
      cases hxs : (xs.zipIdx (k + 1)).mapM f with
      | error e => simp [hx, hxs, bind, Except.bind] at h
      | ok rest =>
        simp only [hx, hxs, bind, Except.bind, Pure.pure, Except.pure, Except.ok.injEq] at h
        rw [← h, List.map_cons, ih hxs, hf _ a hx, List.map_cons]

/-- A loop, of whose results some part is known. -/
theorem reads_each_kept {δ : Type} {value : Json} {place : Str} {places : Json → List Reading}
    {read : Json → Nat → Except Raised β} {f : List β → Except Raised α} (kept : β → δ) (known : Json → δ)
    (hread : ∀ x i, Reads floats (places x) (read x i)) (hkept : ∀ x i a, read x i = .ok a → kept a = known x)
    (h : ∀ xs results, value = .arr xs → results.map kept = xs.map known → Reads floats rest (f results)) :
    Reads floats (each value places ++ rest) (eachItem value place read >>= f) := by
  rw [eachItem, bind_assoc]
  refine reads_list fun xs hxs => ?_
  subst hxs
  refine Reads.bind (Reads.mapM_indexed xs fun x => hread x.1 x.2) fun results hresults => ?_
  exact h xs results rfl (mapM_kept (fun x a hx => hkept x.1 x.2 a hx) hresults)

theorem reads_each {value : Json} {place : Str} {places : Json → List Reading}
    {read : Json → Nat → Except Raised β} {f : List β → Except Raised α}
    (hread : ∀ x i, Reads floats (places x) (read x i))
    (h : ∀ xs results, value = .arr xs → results.isEmpty = xs.isEmpty → Reads floats rest (f results)) :
    Reads floats (each value places ++ rest) (eachItem value place read >>= f) := by
  refine reads_each_kept (fun _ => ()) (fun _ => ()) hread (fun _ _ _ _ => rfl) fun xs results hxs hresults => ?_
  have hlength := congrArg List.length hresults
  simp only [List.length_map] at hlength
  exact h xs results hxs (by rw [Bool.eq_iff_iff, List.isEmpty_iff_length_eq_zero, hlength,
    List.isEmpty_iff_length_eq_zero])

theorem reads_numbers {value : Json} {place : Str} {text : Nat → Str} {f : List ℚ → Except Raised α}
    (h : ∀ xs, value = .arr xs → Reads floats rest (f (xs.map (numeric floats)))) :
    Reads floats (numbersOf value ++ rest)
      (eachItem value place (fun item index => number floats.toFloats item (text index)) >>= f) := by
  refine reads_each_kept id (numeric floats) (fun _ _ => .number) (fun _ _ _ hq => (number_ok hq).symm) ?_
  intro xs results hxs hresults
  rw [List.map_id] at hresults
  exact hresults ▸ h xs hxs

/-- A loop over a list that is used again. -/
theorem reads_items {value : Json} {place : Str} {places : Json → List Reading} {read : Json → Except Raised β}
    {f : List Json → List β → Except Raised α} (hread : ∀ x, Reads floats (places x) (read x))
    (h : ∀ xs results, value = .arr xs → Reads floats rest (f xs results)) :
    Reads floats (each value places ++ rest)
      (oracleList value place >>= fun xs => xs.mapM read >>= fun results => f xs results) := by
  refine reads_list fun xs hxs => ?_
  subst hxs
  exact Reads.bind (Reads.mapM xs fun x _ => hread x) fun results _ => h xs results rfl

/-! ## Records -/

theorem reads_differ {left right : String} {raw : Json} {place : Str} :
    Reads floats (pairPlaces left right raw) (differ floats left right raw place) :=
  reads_fields fun _ _ => .pure _

theorem oracleRecord_eq (evidence : Evidence) (lane : String) : oracleRecord evidence lane =
    match loneRecord evidence with
    | some value => .ok value
    | none => contractError
      (lit lane ++ lit " must emit exactly one normalized raw record across its case steps") := by
  rw [oracleRecord, loneRecord]
  generalize List.filterMap _ _ = records
  rcases records with _ | ⟨value, _ | ⟨other, others⟩⟩
  · rfl
  · cases value <;> rfl
  · cases value <;> rfl

theorem reads_record {evidence : Evidence} {close : List (Str × Json)} {lane : String} {places : Json → List Reading}
    {f : Json → Except Raised α} (h : ∀ value, Reads floats (places value) (f value)) :
    Reads floats (recordPlaces places evidence close)
      (emptyClose close lane >>= fun _ => oracleRecord evidence lane >>= f) := by
  refine reads_demand fun _ => ?_
  rw [oracleRecord_eq]
  cases loneRecord evidence with
  | some value => exact Reads.step (reads_passes value rfl) fun _ hvalue => by cases hvalue; exact h _
  | none => exact Reads.step (reads_refuses _ rfl) fun _ hvalue => nomatch hvalue

end

end TurnVector.Lanes
