import TurnVector.Python.JsonLimits
import TurnVector.Python.Lines
import TurnVector.Python.Utf8

/-! # JSONL evidence

`read_jsonl` of `gateway_validation/common.py`, within the limits of the interpreter.
-/

namespace TurnVector.GatewayValidation

open Python Json

/-! ## The reader -/

/-- What `read_jsonl` raises, or lets through. -/
inductive ReadFailure where
  | contractError (text : Str)
  | unicodeDecodeError
  | valueError
  | recursionError
  deriving DecidableEq

/-- `json.loads` without hooks. -/
def plainHooks : Hooks Empty where
  onFloat token := .ok (.float token)
  onConstant token := .ok (.float token)
  onPairs pairs := .ok (.obj (dictOf pairs))

/-- `f"{path}:{line_number}"` -/
def lineAt (path : Str) (lineNumber : Nat) : Str := path ++ lit ":" ++ natText lineNumber

/-- One round of the loop of `read_jsonl`. A `JSONDecodeError` is given without its position. -/
def readRow (limits : Limits) (kind path : Str) (lineNumber : Nat) (line : Str) :
    Except ReadFailure (List (Str × Json)) :=
  if line.isEmpty then
    .error (.contractError (kind ++ lit " " ++ lineAt path lineNumber ++ lit " contains a blank line"))
  else match limitedLoads limits plainHooks line with
    | .ok (.obj members) => .ok members
    | .ok _ => .error (.contractError (lineAt path lineNumber ++ lit " must be an object"))
    | .error (.decode msg) =>
      .error (.contractError (lit "cannot parse " ++ kind ++ lit " " ++ lineAt path lineNumber ++ lit ": " ++ lit msg))
    | .error (.hook .digits) => .error .valueError
    | .error (.hook .depth) => .error .recursionError
    | .error (.hook (.own never)) => never.elim
    -- A load does not run out of fuel (`limitedLoads_fuel`).
    | .error .fuel => .error .recursionError

def readRows (limits : Limits) (kind path : Str) :
    Nat → List Str → Except ReadFailure (List (List (Str × Json)))
  | _, [] => .ok []
  | lineNumber, line :: lines => do
    let row ← readRow limits kind path lineNumber line
    let rows ← readRows limits kind path (lineNumber + 1) lines
    return row :: rows

/-- `read_jsonl`. The file is its bytes, or the text of the `OSError` that reading it raises. -/
def readJsonl (limits : Limits) (file : Except Str Bytes) (path kind : Str) :
    Except ReadFailure (List (List (Str × Json))) :=
  match file with
  | .error error => .error (.contractError (lit "cannot read " ++ kind ++ lit " " ++ path ++ lit ": " ++ error))
  | .ok raw =>
    match decodeUtf8 raw with
    | none => .error .unicodeDecodeError
    | some text => do
      let rows ← readRows limits kind path 1 (readLines text)
      if rows.isEmpty then .error (.contractError (kind ++ lit " " ++ path ++ lit " must not be empty"))
      else return rows

/-! ## What reading promises -/

/-- A JSON text of an object, on one line. -/
structure Record where
  text : Str
  members : List (Str × Json)
  valid : loads plainHooks text = .ok (.obj members)
  oneLine : cp 10 ∉ text

def Rejected {α : Type} (r : Except ReadFailure α) : Prop := ∃ text, r = .error (.contractError text)

/-- The line is the text of an object. -/
def IsObject (line : Str) : Prop := ∃ members, loads plainHooks line = .ok (.obj members)

/-- Records are read back in their order, and a file that is not lines of objects is rejected. -/
structure ReadsExactly (limits : Limits) (raw : Bytes) (path kind : Str) : Prop where
  lossless : ∀ records : List Record, records ≠ [] → decodeUtf8 raw = some (lfJoin (records.map (·.text))) →
    readJsonl limits (.ok raw) path kind = .ok (records.map (·.members))
  rejects : ∀ text, decodeUtf8 raw = some text →
    (lfLines text = [] ∨ ∃ line ∈ lfLines text, line = [] ∨ ¬ IsObject line) →
    Rejected (readJsonl limits (.ok raw) path kind)
  decodes : decodeUtf8 raw = none → Rejected (readJsonl limits (.ok raw) path kind)

/-- Nothing in the line is over a limit of the interpreter. -/
def WithinLimits (limits : Limits) (line : Str) : Prop :=
  ∀ event ∈ loadEvents plainHooks line, event.refused limits = false

/-- The file is records, each followed by LF. -/
structure Records (text : Str) : Prop where
  terminated : text.getLast? = some (cp 10)
  objects : ∀ line ∈ lfLines text, IsObject line

/-- There is no line, or one that is no object comes before any that is over a limit. -/
def Refuses (limits : Limits) (lines : List Str) : Prop :=
  lines = [] ∨ ∃ front line back, lines = front ++ line :: back ∧ (∀ l ∈ front, WithinLimits limits l) ∧
    WithinLimits limits line ∧ ¬ IsObject line

/-- What a file must be for `read_jsonl` to keep its promise on it. -/
structure Readable (limits : Limits) (text : Str) : Prop where
  records : Records text →
    (∀ line ∈ lfLines text, Clean line) ∧ ∀ line ∈ readLines text, WithinLimits limits line
  others : (lfLines text = [] ∨ ∃ line ∈ lfLines text, ¬ IsObject line) → Refuses limits (readLines text)

/-! ## One line -/

theorem withinLimits_iff (limits : Limits) (line : Str) :
    WithinLimits limits line ↔ (loadEvents plainHooks line).find? (Event.refused limits) = none := by
  simp [WithinLimits, List.find?_eq_none]

theorem limitedLoads_within {limits : Limits} {line : Str} (h : WithinLimits limits line) :
    limitedLoads limits plainHooks line = lift (loads plainHooks line) := by
  rw [limitedLoads_eq, within, (withinLimits_iff limits line).mp h]

theorem loads_nil : loads plainHooks [] = .error (.decode "Expecting value") := rfl

theorem not_isObject_nil : ¬ IsObject [] := by
  rintro ⟨members, hmembers⟩
  cases hmembers

variable (limits : Limits) (kind path : Str)

/-- A line over a limit raises what the limit raises. -/
theorem readRow_over {line : Str} (lineNumber : Nat) (h : ¬ WithinLimits limits line) :
    readRow limits kind path lineNumber line = .error .valueError ∨
      readRow limits kind path lineNumber line = .error .recursionError := by
  rw [withinLimits_iff] at h
  obtain ⟨event, hevent⟩ := Option.ne_none_iff_exists'.mp h
  have hload : limitedLoads limits plainHooks line = .error (.hook event.refusal) := by
    rw [limitedLoads_eq, within, hevent]
  have hne : line.isEmpty = false := by
    cases line with
    | nil => cases hevent
    | cons c line => rfl
  unfold readRow
  rw [hne, hload]
  cases event with
  | integer n => exact Or.inl rfl
  | bracket level => exact Or.inr rfl

/-- A line within the limits is read when it is an object, and rejected when it is none. -/
theorem readRow_within {line : Str} (lineNumber : Nat) (h : WithinLimits limits line) :
    (∃ members, loads plainHooks line = .ok (.obj members) ∧
        readRow limits kind path lineNumber line = .ok members) ∨
      ¬ IsObject line ∧ Rejected (readRow limits kind path lineNumber line) := by
  have hload := limitedLoads_within h
  have hfuel := loads_fuel plainHooks line
  unfold readRow
  cases line with
  | nil => exact Or.inr ⟨not_isObject_nil, _, rfl⟩
  | cons c line =>
    rw [hload, List.isEmpty_cons]
    simp only [Bool.false_eq_true, if_false]
    unfold IsObject
    cases hread : loads plainHooks (c :: line) with
    | ok value =>
      cases value with
      | obj members => exact Or.inl ⟨members, rfl, rfl⟩
      | _ => exact Or.inr ⟨by simp, _, rfl⟩
    | error error =>
      cases error with
      | decode msg => exact Or.inr ⟨by simp, _, rfl⟩
      | hook never => exact never.elim
      | fuel => exact absurd hread hfuel

/-- A line is read when it is an object within the limits. -/
theorem readRow_ok_iff (lineNumber : Nat) (line : Str) (members : List (Str × Json)) :
    readRow limits kind path lineNumber line = .ok members ↔
      WithinLimits limits line ∧ loads plainHooks line = .ok (.obj members) := by
  by_cases h : WithinLimits limits line
  · rcases readRow_within limits kind path lineNumber h with ⟨read, hload, hrow⟩ | ⟨hnot, text, hrow⟩
    · rw [hrow, hload]
      simp [h]
    · rw [hrow]
      exact iff_of_false (by simp) fun hread => hnot ⟨members, hread.2⟩
  · rcases readRow_over limits kind path lineNumber h with hrow | hrow
    · rw [hrow]
      exact iff_of_false (by simp) fun hread => h hread.1
    · rw [hrow]
      exact iff_of_false (by simp) fun hread => h hread.1

/-- A line is rejected when it is no object, within the limits. -/
theorem readRow_rejected_iff (lineNumber : Nat) (line : Str) :
    Rejected (readRow limits kind path lineNumber line) ↔ WithinLimits limits line ∧ ¬ IsObject line := by
  by_cases h : WithinLimits limits line
  · rcases readRow_within limits kind path lineNumber h with ⟨read, hload, hrow⟩ | ⟨hnot, hrow⟩
    · rw [hrow]
      refine iff_of_false ?_ fun hread => hread.2 ⟨read, hload⟩
      rintro ⟨text, htext⟩
      cases htext
    · exact iff_of_true hrow ⟨h, hnot⟩
  · refine iff_of_false ?_ fun hread => h hread.1
    rintro ⟨text, htext⟩
    rcases readRow_over limits kind path lineNumber h with hrow | hrow
    · rw [hrow] at htext
      cases htext
    · rw [hrow] at htext
      cases htext

/-! ## The loop -/

/-- The rows are those of the lines, each an object within the limits. -/
theorem readRows_ok_iff (lineNumber : Nat) (lines : List Str) (rows : List (List (Str × Json))) :
    readRows limits kind path lineNumber lines = .ok rows ↔
      List.Forall₂ (fun line row => WithinLimits limits line ∧ loads plainHooks line = .ok (.obj row)) lines rows := by
  induction lines generalizing lineNumber rows with
  | nil => simp [readRows, eq_comm]
  | cons line lines ih =>
    rw [readRows, List.forall₂_cons_left_iff]
    simp only [← readRow_ok_iff limits kind path lineNumber line, ← ih (lineNumber + 1)]
    cases readRow limits kind path lineNumber line with
    | error e => simp [bind, Except.bind]
    | ok row =>
      cases readRows limits kind path (lineNumber + 1) lines with
      | error e => simp [bind, Except.bind]
      | ok rest => simp [bind, Except.bind, pure, Except.pure, eq_comm]

/-- The lines are rejected at one that is no object, when all before it are within the limits. -/
theorem readRows_rejected_iff (lineNumber : Nat) (lines : List Str) :
    Rejected (readRows limits kind path lineNumber lines) ↔
      ∃ front line back, lines = front ++ line :: back ∧ (∀ l ∈ front, WithinLimits limits l) ∧
        WithinLimits limits line ∧ ¬ IsObject line := by
  induction lines generalizing lineNumber with
  | nil => simp [readRows, Rejected]
  | cons line lines ih =>
    have hrest := ih (lineNumber + 1)
    by_cases h : WithinLimits limits line
    case neg =>
      refine iff_of_false ?_ ?_
      · rintro ⟨text, htext⟩
        rw [readRows] at htext
        rcases readRow_over limits kind path lineNumber h with hrow | hrow
        · rw [hrow] at htext
          cases htext
        · rw [hrow] at htext
          cases htext
      · rintro ⟨front, bad, back, hsplit, hfront, hbad, -⟩
        cases front with
        | nil =>
          cases hsplit
          exact h hbad
        | cons first front =>
          cases hsplit
          exact h (hfront _ (by simp))
    rcases readRow_within limits kind path lineNumber h with ⟨row, hload, hrow⟩ | ⟨hnot, text, hrow⟩
    · have hsame : Rejected (readRows limits kind path lineNumber (line :: lines)) ↔
          Rejected (readRows limits kind path (lineNumber + 1) lines) := by
        rw [readRows, hrow]
        simp only [bind, Except.bind, Rejected]
        cases readRows limits kind path (lineNumber + 1) lines <;> simp [pure, Except.pure]
      rw [hsame, hrest]
      constructor
      · rintro ⟨front, bad, back, rfl, hfront, hbad⟩
        exact ⟨line :: front, bad, back, rfl, List.forall_mem_cons.mpr ⟨h, hfront⟩, hbad⟩
      · rintro ⟨front, bad, back, hsplit, hfront, hbad, hobject⟩
        cases front with
        | nil =>
          cases hsplit
          exact absurd ⟨row, hload⟩ hobject
        | cons first front =>
          cases hsplit
          exact ⟨front, bad, back, rfl, fun l hl => hfront l (by simp [hl]), hbad, hobject⟩
    · refine iff_of_true ⟨text, ?_⟩ ⟨[], line, lines, rfl, by simp, h, hnot⟩
      rw [readRows, hrow]
      rfl

/-! ## The file -/

variable {raw : Bytes} {text : Str} (htext : decodeUtf8 raw = some text)
include htext

theorem readJsonl_ok_iff (rows : List (List (Str × Json))) (hrows : rows ≠ []) :
    readJsonl limits (.ok raw) path kind = .ok rows ↔
      List.Forall₂ (fun line row => WithinLimits limits line ∧ loads plainHooks line = .ok (.obj row))
        (readLines text) rows := by
  rw [← readRows_ok_iff limits kind path 1]
  unfold readJsonl
  simp only [htext]
  cases readRows limits kind path 1 (readLines text) with
  | error e => simp [bind, Except.bind]
  | ok read =>
    simp only [bind, Except.bind, Except.ok.injEq]
    split
    · rename_i hempty
      rw [List.isEmpty_iff] at hempty
      rw [hempty]
      exact iff_of_false (by simp) hrows.symm
    · simp [pure, Except.pure]

theorem readJsonl_rejected_iff :
    Rejected (readJsonl limits (.ok raw) path kind) ↔ Refuses limits (readLines text) := by
  have hloop := readRows_rejected_iff limits kind path 1 (readLines text)
  unfold Refuses
  rw [← hloop]
  unfold readJsonl
  simp only [htext]
  cases hrows : readRows limits kind path 1 (readLines text) with
  | error e =>
    have hne : readLines text ≠ [] := by
      intro hnil
      rw [hnil] at hrows
      cases hrows
    simp [bind, Except.bind, Rejected, hne]
  | ok rows =>
    have hread := (readRows_ok_iff limits kind path 1 _ _).mp hrows
    have hempty : rows.isEmpty = true ↔ readLines text = [] := by
      rw [List.isEmpty_iff]
      constructor
      · rintro rfl
        exact List.forall₂_nil_right_iff.mp hread
      · intro hnil
        rw [hnil] at hread
        exact List.forall₂_nil_left_iff.mp hread
    simp only [bind, Except.bind]
    split
    · rename_i hnone
      exact iff_of_true ⟨_, rfl⟩ (Or.inl (hempty.mp hnone))
    · rename_i hsome
      rw [hempty] at hsome
      simp [Rejected, pure, Except.pure, hsome]

omit htext

/-! ## The promise -/

/-- Every line of the file stands for an object: its texts are records. -/
theorem records_of_objects (lines : List Str) (h : ∀ line ∈ lines, IsObject line ∧ cp 10 ∉ line) :
    ∃ records : List Record, records.map (·.text) = lines := by
  induction lines with
  | nil => exact ⟨[], rfl⟩
  | cons line lines ih =>
    obtain ⟨⟨⟨members, hmembers⟩, hline⟩, hlines⟩ := List.forall_mem_cons.mp h
    obtain ⟨records, hrecords⟩ := ih hlines
    exact ⟨⟨line, members, hmembers, hline⟩ :: records, by rw [List.map_cons, hrecords]⟩

/-- A text without its last CR is the text of the same object. -/
theorem loads_stripCr {line : Str} {members : List (Str × Json)} (h : loads plainHooks line = .ok (.obj members)) :
    loads plainHooks (stripCr line) = .ok (.obj members) := by
  unfold stripCr
  split
  · rename_i hlast
    have hsplit : line.dropLast ++ [cp 13] = line := by
      have hne : line ≠ [] := by
        rintro rfl
        cases hlast
      have hget := List.getLast?_eq_some_getLast hne
      rw [hlast] at hget
      rw [Option.some.inj hget]
      exact List.dropLast_append_getLast hne
    rw [← hsplit] at h
    exact loads_snoc (by decide) plainHooks h
  · exact h

/-- Records are read back exactly when their texts are clean and within the limits. -/
theorem lossless_iff (records : List Record) (hrecords : records ≠ [])
    (htext : decodeUtf8 raw = some (lfJoin (records.map (·.text)))) :
    readJsonl limits (.ok raw) path kind = .ok (records.map (·.members)) ↔
      (∀ record ∈ records, Clean record.text) ∧
        ∀ line ∈ readLines (lfJoin (records.map (·.text))), WithinLimits limits line := by
  have hlf : ∀ text ∈ records.map (·.text), cp 10 ∉ text := by
    intro text hmem
    obtain ⟨record, -, rfl⟩ := List.mem_map.mp hmem
    exact record.oneLine
  have hclean : (∀ record ∈ records, Clean record.text) ↔ ∀ text ∈ records.map (·.text), Clean text := by simp
  have hne : records.map (·.members) ≠ [] := by simpa using hrecords
  rw [readJsonl_ok_iff limits kind path htext _ hne, hclean]
  constructor
  · intro hread
    refine ⟨(readLines_length_iff _ hlf).mp ?_, ?_⟩
    · rw [hread.length_eq, List.length_map, List.length_map]
    · exact ((List.forall₂_and_left _ _).mp hread).1
  · rintro ⟨hcleaned, hwithin⟩
    rw [readLines_clean _ hlf hcleaned] at hwithin ⊢
    rw [List.map_map] at hwithin ⊢
    rw [List.forall₂_map_left_iff, List.forall₂_map_right_iff, List.forall₂_same]
    intro record hrecord
    exact ⟨hwithin _ (List.mem_map_of_mem hrecord), loads_stripCr record.valid⟩

/-- `read_jsonl` keeps its promise on a file exactly when the file decodes to a text that it can read. -/
theorem reads_exactly_iff (limits : Limits) (raw : Bytes) (path kind : Str) :
    ReadsExactly limits raw path kind ↔ ∃ text, decodeUtf8 raw = some text ∧ Readable limits text := by
  constructor
  · intro h
    cases htext : decodeUtf8 raw with
    | none =>
      obtain ⟨text, hrejected⟩ := h.decodes htext
      rw [readJsonl] at hrejected
      simp only [htext] at hrejected
      cases hrejected
    | some text =>
      refine ⟨text, rfl, ?_, ?_⟩
      · intro hrecords
        obtain ⟨records, hlines⟩ := records_of_objects (lfLines text) fun line hline =>
          ⟨hrecords.objects line hline, mem_lfLines text line hline⟩
        have hjoin : lfJoin (records.map (·.text)) = text := by
          rw [hlines]
          exact lfJoin_lfLines text hrecords.terminated
        have hne : records ≠ [] := by
          rintro rfl
          rw [← hjoin] at hrecords
          cases hrecords.terminated
        have hdecoded : decodeUtf8 raw = some (lfJoin (records.map (·.text))) := by rw [hjoin, htext]
        have hread := (lossless_iff limits kind path records hne hdecoded).mp (h.lossless records hne hdecoded)
        rw [hjoin] at hread
        refine ⟨?_, hread.2⟩
        intro line hline
        rw [← hlines] at hline
        obtain ⟨record, hrecord, rfl⟩ := List.mem_map.mp hline
        exact hread.1 record hrecord
      · intro hothers
        apply (readJsonl_rejected_iff limits kind path htext).mp
        apply h.rejects text htext
        rcases hothers with hnone | ⟨line, hline, hobject⟩
        · exact Or.inl hnone
        · exact Or.inr ⟨line, hline, Or.inr hobject⟩
  · rintro ⟨text, htext, hreadable⟩
    refine ⟨?_, ?_, ?_⟩
    · intro records hne hdecoded
      obtain rfl : text = lfJoin (records.map (·.text)) := Option.some.inj (htext.symm.trans hdecoded)
      have hlf : ∀ line ∈ records.map (·.text), cp 10 ∉ line := by
        intro line hline
        obtain ⟨record, -, rfl⟩ := List.mem_map.mp hline
        exact record.oneLine
      have hlines := lfLines_lfJoin _ hlf
      have hrecords : Records (lfJoin (records.map (·.text))) := by
        refine ⟨lfJoin_getLast _ (by simpa using hne), ?_⟩
        rw [hlines]
        intro line hline
        obtain ⟨record, -, rfl⟩ := List.mem_map.mp hline
        exact ⟨record.members, record.valid⟩
      obtain ⟨hclean, hwithin⟩ := hreadable.records hrecords
      rw [hlines] at hclean
      apply (lossless_iff limits kind path records hne hdecoded).mpr
      exact ⟨fun record hrecord => hclean _ (List.mem_map_of_mem hrecord), hwithin⟩
    · intro other hother hlines
      obtain rfl : text = other := Option.some.inj (htext.symm.trans hother)
      apply (readJsonl_rejected_iff limits kind path htext).mpr
      apply hreadable.others
      rcases hlines with hnone | ⟨line, hline, rfl | hobject⟩
      · exact Or.inl hnone
      · exact Or.inr ⟨[], hline, not_isObject_nil⟩
      · exact Or.inr ⟨line, hline, hobject⟩
    · intro hnone
      rw [htext] at hnone
      cases hnone

/-! ## A record that is lost -/

/-- An object whose one string is a line separator, left unescaped. -/
def separatorText : Str := lit "\x7b\"a\":\"" ++ cp 0x2028 :: lit "\"\x7d"

theorem separatorText_valid :
    loads plainHooks separatorText = .ok (.obj [(lit "a", .str [cp 0x2028])]) := by decide +kernel

theorem separatorText_line : cp 10 ∉ separatorText := by decide

def separatorFile : Bytes := (lfJoin [separatorText]).flatMap utf8Char

theorem separatorFile_decoded : decodeUtf8 separatorFile = some (lfJoin [separatorText]) := by
  apply decodeUtf8_encodeUtf8
  unfold encodeUtf8
  exact if_neg (by decide)

/-- The separator cuts its record in two, and a byte that is not UTF-8 is not rejected with `ContractError`. -/
theorem line_separator_splits :
    ¬ (∀ (limits : Limits) (raw : Bytes) (path kind : Str), ReadsExactly limits raw path kind) ∧
      ∀ (limits : Limits) (path kind : Str), ¬ Rejected (readJsonl limits (.ok [byte 255]) path kind) := by
  refine ⟨?_, ?_⟩
  · intro hall
    let record : Record := ⟨separatorText, _, separatorText_valid, separatorText_line⟩
    have hread := (hall ⟨none, none⟩ separatorFile [] []).lossless [record] (by simp) separatorFile_decoded
    have hclean := ((lossless_iff _ _ _ [record] (by simp) separatorFile_decoded).mp hread).1 record (by simp)
    exact absurd (hclean (cp 0x2028) (by decide +kernel)) (by decide)
  · rintro limits path kind ⟨text, htext⟩
    cases htext

end TurnVector.GatewayValidation
