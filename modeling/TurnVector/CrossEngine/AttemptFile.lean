import TurnVector.CrossEngine.Custody

/-! # The attempt file

When `attempts.jsonl` says what the ledger holds in memory.
-/

namespace TurnVector.CrossEngine

open Python

namespace AttemptLedger

/-- The file is the lines of the records. -/
def Agrees (ledger : AttemptLedger) : Prop :=
  ∃ lines, ledger.records.mapM AttemptRecord.encoded = .ok lines ∧ ledger.file = lines.flatten

/-- A call that gets to the file puts nothing there, or its whole line, synced and closed. -/
def CleanCall (arguments : AttemptArguments) (disk : Disk) (ledger : AttemptLedger) : Prop :=
  ∀ record line, ledger.prepare arguments = .ok (record, line) →
    disk.openError.isSome ∨ disk.count line.length = 0 ∨ disk.succeeds line.length = true

/-- Every call of the run is clean in the state that it finds. -/
def CleanRun : List (AttemptArguments × Disk) → AttemptLedger → Prop
  | [], _ => True
  | (arguments, disk) :: calls, ledger =>
    CleanCall arguments disk ledger ∧ CleanRun calls (Method.call (append disk arguments) ledger).2

/-! ## One call -/

theorem mapM_append_one {α β : Type} (f : α → Except Exc β) (xs : List α) (ys : List β) (x : α) (y : β)
    (hxs : xs.mapM f = .ok ys) (hx : f x = .ok y) : (xs ++ [x]).mapM f = .ok (ys ++ [y]) := by
  rw [List.mapM_append, hxs]
  simp [hx]
  rfl

theorem part_eq_nil (disk : Disk) (line : Bytes) (hline : line ≠ []) :
    disk.part line = [] ↔ disk.openError.isSome ∨ disk.count line.length = 0 := by
  unfold Disk.part
  cases disk.openError with
  | some text => simp
  | none => simp [List.take_eq_nil_iff, hline]

theorem part_of_succeeds (disk : Disk) (line : Bytes) (h : disk.succeeds line.length = true) :
    disk.part line = line := by
  unfold Disk.succeeds at h
  simp only [Bool.and_eq_true] at h
  obtain ⟨⟨hopen, -⟩, hwrite⟩ := h
  unfold Disk.part
  rw [if_pos hopen]
  apply List.take_of_length_le
  unfold Disk.writeAll at hwrite
  split at hwrite
  · cases hwrite
  · split at hwrite
    · cases hwrite
    case isFalse hcount => exact (not_not.mp hcount).ge

theorem encoded_ne_nil (record : AttemptRecord) (line : Bytes) (h : record.encoded = .ok line) : line ≠ [] := by
  unfold AttemptRecord.encoded at h
  obtain ⟨bytes, -, h⟩ := bind_ok_iff.mp h
  cases h
  simp

theorem agrees_call (arguments : AttemptArguments) (disk : Disk) (ledger : AttemptLedger) (h : Agrees ledger) :
    Agrees (Method.call (append disk arguments) ledger).2 ↔ CleanCall arguments disk ledger := by
  obtain ⟨lines, hlines, hfile⟩ := h
  cases hp : ledger.prepare arguments with
  | error e =>
    rw [append_refused disk arguments ledger e hp]
    constructor
    · intro _ record line h
      rw [hp] at h
      cases h
    · intro _
      exact ⟨lines, hlines, hfile⟩
  | ok prepared =>
    obtain ⟨record, line⟩ := prepared
    obtain ⟨-, -, -, hencoded, -⟩ := prepare_ok arguments ledger record line hp
    have hne := encoded_ne_nil record line hencoded
    have hclean : CleanCall arguments disk ledger ↔ disk.part line = [] ∨ disk.succeeds line.length = true := by
      rw [part_eq_nil disk line hne, or_assoc]
      constructor
      · intro h
        exact h record line hp
      · intro h record' line' hp'
        rw [hp] at hp'
        cases hp'
        exact h
    rw [hclean]
    rcases append_prepared disk arguments ledger record line hp with ⟨hok, hcall⟩ | ⟨hfailed, e, hcall⟩
    · rw [hcall]
      refine ⟨fun _ => Or.inr hok, fun _ => ⟨lines ++ [line], mapM_append_one _ _ _ _ _ hlines hencoded, ?_⟩⟩
      simp [hfile, part_of_succeeds disk line hok]
    · rw [hcall]
      constructor
      · rintro ⟨lines', hlines', hfile'⟩
        left
        have hsame : lines' = lines := by
          have hlines' : ledger.records.mapM AttemptRecord.encoded = .ok lines' := hlines'
          rw [hlines] at hlines'
          cases hlines'
          rfl
        have hfile' : ledger.file ++ disk.part line = lines'.flatten := hfile'
        rw [hsame, ← hfile] at hfile'
        simpa using hfile'
      · rintro (hnil | hok)
        · refine ⟨lines, hlines, ?_⟩
          simp [hnil, hfile]
        · rw [hfailed] at hok
          cases hok

/-! ## A run -/

theorem agrees_run (calls : List (AttemptArguments × Disk)) (ledger : AttemptLedger) (h : Agrees ledger) :
    (∀ k, Agrees (run (calls.take k) ledger)) ↔ CleanRun calls ledger := by
  induction calls generalizing ledger with
  | nil => simp [run, CleanRun, h]
  | cons call calls ih =>
    obtain ⟨arguments, disk⟩ := call
    have hstep := agrees_call arguments disk ledger h
    constructor
    · intro hall
      have hnext : Agrees (Method.call (append disk arguments) ledger).2 := hall 1
      exact ⟨hstep.mp hnext, (ih _ hnext).mp fun k => hall (k + 1)⟩
    · rintro ⟨hclean, hrest⟩ k
      have hnext := hstep.mpr hclean
      cases k with
      | zero => exact h
      | succ k => exact (ih _ hnext).mpr hrest k

/-- The file and the ledger agree after every call exactly when every call that gets to the file is clean. -/
theorem file_agrees (codes : List Str) (maxAttemptsPerCell : Int) (ledger : AttemptLedger)
    (h : init codes maxAttemptsPerCell = .ok ledger) (calls : List (AttemptArguments × Disk)) :
    (∀ k, Agrees (run (calls.take k) ledger)) ↔ CleanRun calls ledger := by
  obtain ⟨-, -, hrecords, hfile⟩ := custody_init codes maxAttemptsPerCell ledger h
  apply agrees_run
  exact ⟨[], by rw [hrecords]; rfl, by rw [hfile]; rfl⟩

theorem file_agrees_sample : (∀ k, Agrees (run (sampleCalls.take k) sampleLedger)) ↔ CleanRun sampleCalls sampleLedger :=
  file_agrees [lit "host_load_transient"] 2 sampleLedger init_sample sampleCalls

/-- The line is written and its sync fails. -/
def unsynced : Disk := ⟨none, .whole, some (lit "fsync failed"), none⟩

/-- The line stays in the file, and the next attempt takes the same ordinal. -/
theorem file_diverges : ¬ Agrees (run [(sampleArguments (lit "completed") none none, unsynced)] sampleLedger) := by
  rintro ⟨lines, hlines, hfile⟩
  have hrecords : (run [(sampleArguments (lit "completed") none none, unsynced)] sampleLedger).records = [] := by
    decide +kernel
  have hwritten : (run [(sampleArguments (lit "completed") none none, unsynced)] sampleLedger).file.isEmpty = false := by
    decide +kernel
  rw [hrecords] at hlines
  cases hlines
  rw [hfile] at hwritten
  cases hwritten

end AttemptLedger

end TurnVector.CrossEngine
