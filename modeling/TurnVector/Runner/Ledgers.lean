import TurnVector.Lanes.SchedulerPolicy
import TurnVector.Python.FractionText

/-! # Ledgers as text

`_ledger_response` of `runner.py` keeps the texts of a ledger, and `_parse_fraction_map` of `lane_runner.py` their
values. Both take only the text that `fraction_text` writes.
-/

namespace TurnVector.Runner

open Python Json Lanes
open LaneController (Raised contractError)

/-! ## The code -/

/-- The `repr` of the sorted names. -/
def namesRepr (names : List Str) : Str := Json.repr (.arr ((names.insertionSort (· ≤ ·)).map .str))

def ledgerText (fraction : Str → Option ℚ) (place : Str) (member : Str × Json) : Except Raised (Str × Str) :=
  let named := place ++ lit "." ++ member.1
  match member.2 with
  | .str ledger =>
    match fraction ledger with
    | none => contractError (named ++ lit " is not a fraction: " ++ strRepr ledger)
    | some parsed =>
      if ledger ≠ fractionText parsed then contractError (named ++ lit " is not canonical: " ++ strRepr ledger)
      else .ok (member.1, ledger)
  | _ => contractError (named ++ lit " must be a canonical fraction string")

/-- `_ledger_response` -/
def ledgerResponse (fraction : Str → Option ℚ) (value : Json) (expectedModels : List Str) (place : Str) :
    Except Raised (List (Str × Str)) :=
  match value with
  | .obj members =>
    if sameSet (members.map Prod.fst) expectedModels then members.mapM (ledgerText fraction place)
    else contractError (place ++ lit " model keys differ: expected=" ++ namesRepr expectedModels ++ lit ", observed=" ++
      namesRepr (members.map Prod.fst))
  | _ => contractError (place ++ lit " must be an object")

/-! ## What they take -/

/-- A map of ledgers as JSON, and as texts. -/
def ledgerObject (ledger : List (Str × ℚ)) : Json := .obj (ledger.map fun entry => (entry.1, .str (fractionText entry.2)))

def ledgerTexts (ledger : List (Str × ℚ)) : List (Str × Str) := ledger.map fun entry => (entry.1, fractionText entry.2)

variable (g : FractionGrammar)

theorem ledgerText_ok (place : Str) (member : Str × Json) (entry : Str × Str) :
    ledgerText (fractionOf g) place member = .ok entry ↔
      ∃ q, member = (member.1, .str (fractionText q)) ∧ entry = (member.1, fractionText q) := by
  obtain ⟨model, value⟩ := member
  unfold ledgerText
  constructor
  · intro h
    dsimp only at h
    split at h
    · split at h
      · cases h
      · rename_i q _
        split at h
        · cases h
        · rename_i hcanonical
          rw [not_not] at hcanonical
          cases h
          exact ⟨q, by rw [← hcanonical], by rw [← hcanonical]⟩
    · cases h
  · rintro ⟨q, hmember, rfl⟩
    cases hmember
    simp [fractionOf_fractionText]

theorem parseFraction_ok (place : Str) (member : Str × Json) (entry : Str × ℚ) :
    parseFraction (fractionOf g) place member = .ok entry ↔
      ∃ q, member = (member.1, .str (fractionText q)) ∧ entry = (member.1, q) := by
  obtain ⟨model, value⟩ := member
  unfold parseFraction
  constructor
  · intro h
    dsimp only at h
    split at h
    · split at h
      · cases h
      · rename_i q _
        split at h
        · rename_i hcanonical
          cases h
          exact ⟨q, by rw [hcanonical], rfl⟩
        · cases h
    · cases h
  · rintro ⟨q, hmember, rfl⟩
    cases hmember
    simp [fractionOf_fractionText]

/-- A reader of single entries that takes canonical texts only takes canonical maps only. -/
theorem mapM_ledger {β : Type} (read : Str × Json → Except Raised (Str × β)) (value : ℚ → β)
    (hread : ∀ member entry, read member = .ok entry ↔
      ∃ q, member = (member.1, .str (fractionText q)) ∧ entry = (member.1, value q))
    (members : List (Str × Json)) (entries : List (Str × β)) :
    members.mapM read = .ok entries ↔
      ∃ ledger, Json.obj members = ledgerObject ledger ∧ entries = ledger.map fun entry => (entry.1, value entry.2) := by
  simp only [ledgerObject, Json.obj.injEq]
  induction members generalizing entries with
  | nil =>
    simp only [List.mapM_nil, pure, Except.pure, Except.ok.injEq, List.nil_eq, List.map_eq_nil_iff]
    constructor
    · rintro rfl
      exact ⟨[], rfl, rfl⟩
    · rintro ⟨ledger, rfl, rfl⟩
      rfl
  | cons member members ih =>
    rw [List.mapM_cons]
    constructor
    · intro h
      obtain ⟨entry, hentry, h⟩ := bind_ok_iff.mp h
      obtain ⟨rest, hrest, h⟩ := bind_ok_iff.mp h
      cases h
      obtain ⟨q, hmember, rfl⟩ := (hread member entry).mp hentry
      obtain ⟨ledger, rfl, rfl⟩ := (ih rest).mp hrest
      exact ⟨(member.1, q) :: ledger, by rw [List.map_cons, ← hmember], rfl⟩
    · rintro ⟨ledger, hmembers, rfl⟩
      cases ledger with
      | nil => cases hmembers
      | cons entry ledger =>
        rw [List.map_cons] at hmembers
        obtain ⟨rfl, rfl⟩ := List.cons.inj hmembers
        rw [(hread _ (entry.1, value entry.2)).mpr ⟨entry.2, rfl, rfl⟩, (ih _).mpr ⟨ledger, rfl, rfl⟩]
        rfl

/-- What both readers take: the exact models, and for each of them the text of a rational number. -/
def IsLedger (expectedModels : List Str) (value : Json) (ledger : List (Str × ℚ)) : Prop :=
  value = ledgerObject ledger ∧ sameSet (ledger.map Prod.fst) expectedModels = true

theorem names_ledgerObject (members : List (Str × Json)) (ledger : List (Str × ℚ))
    (h : Json.obj members = ledgerObject ledger) : members.map Prod.fst = ledger.map Prod.fst := by
  cases h
  rw [List.map_map]
  rfl

theorem ledgerResponse_ok (expectedModels : List Str) (place : Str) (value : Json) (texts : List (Str × Str)) :
    ledgerResponse (fractionOf g) value expectedModels place = .ok texts ↔
      ∃ ledger, IsLedger expectedModels value ledger ∧ texts = ledgerTexts ledger := by
  unfold ledgerResponse IsLedger
  constructor
  · intro h
    split at h
    · rename_i members
      split at h
      · rename_i hnames
        obtain ⟨ledger, hmembers, rfl⟩ := (mapM_ledger _ _ (ledgerText_ok g place) members texts).mp h
        exact ⟨ledger, ⟨hmembers, names_ledgerObject members ledger hmembers ▸ hnames⟩, rfl⟩
      · cases h
    · cases h
  · rintro ⟨ledger, ⟨rfl, hnames⟩, rfl⟩
    have hmembers := names_ledgerObject _ ledger rfl
    simp only [ledgerObject]
    rw [hmembers, if_pos hnames]
    exact (mapM_ledger _ _ (ledgerText_ok g place) _ _).mpr ⟨ledger, rfl, rfl⟩

theorem parseFractionMap_ok (expectedModels : List Str) (place : Str) (value : Json) (ledger : List (Str × ℚ)) :
    parseFractionMap (fractionOf g) (some value) expectedModels place = .ok ledger ↔
      IsLedger expectedModels value ledger := by
  unfold parseFractionMap IsLedger
  constructor
  · intro h
    split at h
    · rename_i members hvalue
      cases hvalue
      split at h
      · rename_i hnames
        obtain ⟨ledger', hmembers, rfl⟩ := (mapM_ledger _ id (parseFraction_ok g place) members ledger).mp h
        have hsame : (ledger'.map fun entry => (entry.1, id entry.2)) = ledger' := List.map_id _
        rw [hsame]
        exact ⟨hmembers, names_ledgerObject members ledger' hmembers ▸ hnames⟩
      · cases h
    · cases h
  · rintro ⟨rfl, hnames⟩
    have hmembers := names_ledgerObject _ ledger rfl
    simp only [ledgerObject]
    rw [hmembers, if_pos hnames]
    exact (mapM_ledger _ id (parseFraction_ok g place) _ _).mpr ⟨ledger, rfl, (List.map_id _).symm⟩

/-! ## One text for one value -/

theorem lookup_ledgerTexts (ledger : List (Str × ℚ)) (model : Str) :
    (ledgerTexts ledger).lookup model = (ledger.lookup model).map fractionText := by
  induction ledger with
  | nil => rfl
  | cons entry ledger ih =>
    rw [ledgerTexts, List.map_cons, List.lookup_cons, List.lookup_cons, ← ledgerTexts, ih]
    split <;> rfl

/-- As dicts, two maps of texts are equal exactly when their values are. -/
theorem ledgerTexts_agree (ledger ledger' : List (Str × ℚ)) :
    (∀ model, (ledgerTexts ledger).lookup model = (ledgerTexts ledger').lookup model) ↔
      ∀ model, ledger.lookup model = ledger'.lookup model := by
  simp only [lookup_ledgerTexts]
  constructor
  · intro h model
    exact Option.map_injective (fun q r => fractionText_injective q r) (h model)
  · intro h model
    rw [h model]

theorem ledgerObject_injective (ledger ledger' : List (Str × ℚ)) (h : ledgerObject ledger = ledgerObject ledger') :
    ledger = ledger' := by
  have hinjective : Function.Injective fun entry : Str × ℚ => (entry.1, Json.str (fractionText entry.2)) := by
    rintro ⟨model, q⟩ ⟨model', q'⟩ heq
    simp only [Prod.mk.injEq, Json.str.injEq] at heq
    obtain ⟨rfl, htext⟩ := heq
    rw [fractionText_injective q q' htext]
  exact List.map_injective_iff.mpr hinjective (Json.obj.inj h)

/-- The texts that the runner keeps are those of the values that the lane runner reads. -/
theorem ledgerResponse_texts (expectedModels : List Str) (place place' : Str) (value : Json)
    (texts : List (Str × Str)) (ledger : List (Str × ℚ))
    (htexts : ledgerResponse (fractionOf g) value expectedModels place = .ok texts)
    (hledger : parseFractionMap (fractionOf g) (some value) expectedModels place' = .ok ledger) :
    texts = ledgerTexts ledger := by
  obtain ⟨ledger', ⟨hvalue, -⟩, rfl⟩ := (ledgerResponse_ok g expectedModels place value texts).mp htexts
  obtain ⟨hvalue', -⟩ := (parseFractionMap_ok g expectedModels place' value ledger).mp hledger
  rw [ledgerObject_injective ledger' ledger (hvalue.symm.trans hvalue')]

/-- Both readers take the text of a rational number for that number and nothing else for a number, so they take the
same maps, and two maps that they take are equal as texts exactly when they are equal as values. -/
theorem ledger_text_canonical (expectedModels : List Str) (place place' : Str) :
    (∀ (model text entry : Str), ledgerText (fractionOf g) place (model, .str text) = .ok (model, entry) ↔
      entry = text ∧ ∃ q, text = fractionText q) ∧
    (∀ (model text : Str) (q : ℚ), parseFraction (fractionOf g) place' (model, .str text) = .ok (model, q) ↔
      text = fractionText q) ∧
    (∀ value, (∃ texts, ledgerResponse (fractionOf g) value expectedModels place = .ok texts) ↔
      ∃ ledger, parseFractionMap (fractionOf g) (some value) expectedModels place' = .ok ledger) ∧
    ∀ value value' texts texts' ledger ledger',
      ledgerResponse (fractionOf g) value expectedModels place = .ok texts →
      ledgerResponse (fractionOf g) value' expectedModels place = .ok texts' →
      parseFractionMap (fractionOf g) (some value) expectedModels place' = .ok ledger →
      parseFractionMap (fractionOf g) (some value') expectedModels place' = .ok ledger' →
      texts = ledgerTexts ledger ∧
      ((∀ model, texts.lookup model = texts'.lookup model) ↔ ∀ model, ledger.lookup model = ledger'.lookup model) := by
  refine ⟨?_, ?_, ?_, ?_⟩
  · intro model text entry
    rw [ledgerText_ok]
    simp only [Prod.mk.injEq, true_and, Json.str.injEq]
    constructor
    · rintro ⟨q, rfl, rfl⟩
      exact ⟨rfl, q, rfl⟩
    · rintro ⟨rfl, q, rfl⟩
      exact ⟨q, rfl, rfl⟩
  · intro model text q
    rw [parseFraction_ok]
    simp only [Prod.mk.injEq, true_and, Json.str.injEq]
    constructor
    · rintro ⟨q', rfl, rfl⟩
      rfl
    · rintro rfl
      exact ⟨q, rfl, rfl⟩
  · intro value
    simp only [ledgerResponse_ok, parseFractionMap_ok]
    constructor
    · rintro ⟨texts, ledger, hledger, -⟩
      exact ⟨ledger, hledger⟩
    · rintro ⟨ledger, hledger⟩
      exact ⟨ledgerTexts ledger, ledger, hledger, rfl⟩
  · intro value value' texts texts' ledger ledger' htexts htexts' hledger hledger'
    obtain rfl := ledgerResponse_texts g expectedModels place place' value texts ledger htexts hledger
    obtain rfl := ledgerResponse_texts g expectedModels place place' value' texts' ledger' htexts' hledger'
    exact ⟨rfl, ledgerTexts_agree ledger ledger'⟩

/-- A ledger of one half, as both readers take it. -/
def sampleLedger : List (Str × ℚ) := [(lit "a", 1 / 2)]

theorem ledger_text_canonical_sample :
    ledgerTexts sampleLedger = [(lit "a", lit "1/2")] ∧
      ∀ model, (ledgerTexts sampleLedger).lookup model = (ledgerTexts sampleLedger).lookup model := by
  have hledger : IsLedger [lit "a"] (ledgerObject sampleLedger) sampleLedger := ⟨rfl, by decide⟩
  have htexts := (ledgerResponse_ok ⟨false, false⟩ [lit "a"] (lit "runnable") _ _).mpr ⟨sampleLedger, hledger, rfl⟩
  have hvalues := (parseFractionMap_ok ⟨false, false⟩ [lit "a"] (lit "receipt") _ _).mpr hledger
  obtain ⟨-, -, -, hsame⟩ := ledger_text_canonical ⟨false, false⟩ [lit "a"] (lit "runnable") (lit "receipt")
  obtain ⟨-, hagree⟩ := hsame _ _ _ _ _ _ htexts htexts hvalues hvalues
  exact ⟨by decide +kernel, hagree.mpr fun _ => rfl⟩

end TurnVector.Runner
