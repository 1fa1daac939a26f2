import TurnVector.CrossEngine.Passes

/-! # Every cell of a run

When a run gives every cell of its campaign one result that its attempts account for.
-/

namespace TurnVector.CrossEngine

open Python Json

/-! ## One cell -/

section
variable (env : Surroundings) (codes : List Str) (cell : CampaignCell) (n : Nat)

/-- Whether the attempt of this ordinal, a first one, is followed by another. -/
def Surroundings.repeats : Bool := (env.attempts n).retries codes

/-- The ordinal of the last attempt of a cell whose first attempt has this one. -/
def Surroundings.lastOrdinal : Nat := if env.repeats codes n then n + 1 else n

/-- The attempts of a cell can be written down. -/
def Surroundings.Recordable : Prop :=
  (env.attempts n).Recordable ∧ (env.repeats codes n = true → (env.attempts (n + 1)).Recordable)

/-- Cell, ordinal and status of the attempts of a cell. -/
def Surroundings.made : List (Str × Nat × Str) :=
  if env.repeats codes n then
    [(cell.cellId, n, (env.attempts n).status), (cell.cellId, n + 1, (env.attempts (n + 1)).status)]
  else [(cell.cellId, n, (env.attempts n).status)]

/-- The locals when the loop ends. -/
def Surroundings.locals : CellLocals :=
  if env.repeats codes n then
    (env.attempts (n + 1)).ended
      { CellLocals.start with reason := (env.attempts n).reasonCode, retryOf := some (n : Int) }
  else (env.attempts n).ended CellLocals.start

end

def AttemptRecord.outline (record : AttemptRecord) : Str × Nat × Str :=
  (record.cellId, record.attemptOrdinal, record.status)

/-- Every retryable attempt has a reason code that the ledger takes. -/
def Surroundings.Coded (env : Surroundings) : Prop := ∀ n, (env.attempts n).Coded

section
variable {env : Surroundings} {codes : List Str} {cell : CampaignCell} {state : RunState}

theorem Adds.outline {outcome : AttemptOutcome} {before after : AttemptLedger} {record : AttemptRecord}
    (h : Adds codes cell outcome.status outcome.reasonCode before after record) :
    record.outline = (cell.cellId, before.records.length, outcome.status) := by
  unfold AttemptRecord.outline
  rw [h.cell, h.ordinal, h.status]

/-- A cell is attempted once or twice. -/
theorem passes_spec (hclock : Monotonic env.clock) (hcoded : env.Coded) (hkept : Kept codes state.ledger)
    (hfresh : state.ledger.recordsOf cell.cellId = []) :
    (env.Recordable codes state.ledger.records.length ∧ ∃ after records reads,
      after.records = state.ledger.records ++ records ∧
      records.map (·.outline) = env.made codes cell state.ledger.records.length ∧ Kept codes after ∧
      ∀ fuel, env.passes cell (fuel + 2) CellLocals.start state =
        some (.ok (env.locals codes state.ledger.records.length, ⟨after, reads⟩))) ∨
    (¬ env.Recordable codes state.ledger.records.length ∧
      ∃ e, ∀ fuel, env.passes cell (fuel + 2) CellLocals.start state = some (.error e)) := by
  have hallowed : Allowed cell CellLocals.start.retryOf state.ledger := Or.inl ⟨hfresh, rfl⟩
  unfold Surroundings.Recordable Surroundings.made Surroundings.locals Surroundings.repeats
  rcases pass_spec env CellLocals.start state hclock hkept hallowed (hcoded _) with
    ⟨hfirst, after, record, hadds, hpass⟩ | ⟨hfirst, e, hpass⟩
  · by_cases hretry : (env.attempts state.ledger.records.length).retries codes = true
    · have hone := recordsOf_adds hadds cell.cellId
      have hlength : after.records.length = state.ledger.records.length + 1 := by simp [hadds.records]
      have hcan : after.canRetry record = true := by
        rw [canRetry_adds hadds (by simp [hfresh]), (env.attempts _).isRetryReason_eq, hadds.kept.codes, hretry, hfresh]
        rfl
      have hagain : Allowed cell (some (state.ledger.records.length : Int)) after := by
        right
        refine ⟨record, ?_, hcan, ?_⟩
        · simpa [hfresh] using hone
        · rw [hadds.ordinal]
      rcases pass_spec env
        { CellLocals.start with
          reason := (env.attempts state.ledger.records.length).reasonCode
          retryOf := some (state.ledger.records.length : Int) }
        ⟨after, state.reads + 2⟩ hclock hadds.kept hagain (hcoded _) with
        ⟨hsecond, after', record', hadds', hpass'⟩ | ⟨hsecond, e, hpass'⟩
      · left
        refine ⟨⟨hfirst, fun _ => by simpa [hlength] using hsecond⟩, after', [record, record'], state.reads + 4, ?_, ?_,
          hadds'.kept, ?_⟩
        · simp [hadds'.records, hadds.records]
        · simp only [hretry, if_true, List.map_cons, List.map_nil, hadds.outline, hadds'.outline, hlength]
        · intro fuel
          simp only [hlength] at hpass'
          rw [Surroundings.passes, hpass, if_pos ⟨hretry, hfresh⟩]
          dsimp only
          rw [Surroundings.passes, hpass']
          simp [hretry, hone]
      · right
        refine ⟨fun h => hsecond (by simpa [hlength] using h.2 hretry), e, ?_⟩
        intro fuel
        rw [Surroundings.passes, hpass, if_pos ⟨hretry, hfresh⟩]
        dsimp only
        rw [Surroundings.passes, hpass']
    · left
      refine ⟨⟨hfirst, fun h => absurd h hretry⟩, after, [record], state.reads + 2, hadds.records, ?_, hadds.kept, ?_⟩
      · simp [hretry, hadds.outline]
      · intro fuel
        rw [Surroundings.passes, hpass, if_neg (fun h => hretry h.1), if_neg hretry]
  · right
    refine ⟨fun h => hfirst h.1, e, ?_⟩
    intro fuel
    rw [Surroundings.passes, hpass]

/-- What a cell that has a result left behind. -/
structure Ran (env : Surroundings) (codes : List Str) (cell : CampaignCell) (result : CellResult)
    (before after : RunState) : Prop where
  kept : Kept codes after.ledger
  decided : ∃ decision, env.preflight cell = .ok decision ∧
    ((decision.admits = false ∧ result = declined cell decision ∧ after = before) ∨
     (decision.admits = true ∧ env.Recordable codes before.ledger.records.length ∧ ∃ records,
        after.ledger.records = before.ledger.records ++ records ∧
        records.map (·.outline) = env.made codes cell before.ledger.records.length ∧
        result = attempted cell (env.locals codes before.ledger.records.length) after.ledger))

/-- What a cell needs to have a result, when it is to have its first attempt at this ordinal. -/
def Surroundings.Runs (env : Surroundings) (codes : List Str) (cell : CampaignCell) (n : Nat) : Prop :=
  ∃ decision, env.preflight cell = .ok decision ∧ (decision.admits = true → env.Recordable codes n)

theorem runCell_ran (hclock : Monotonic env.clock) (hcoded : env.Coded) (hkept : Kept codes state.ledger)
    (hfresh : state.ledger.recordsOf cell.cellId = []) (fuel : Nat) (result : CellResult) (after : RunState)
    (h : env.runCell (fuel + 2) cell state = some (.ok (result, after))) : Ran env codes cell result state after := by
  unfold Surroundings.runCell at h
  cases hpre : env.preflight cell with
  | error e =>
    rw [hpre] at h
    cases h
  | ok decision =>
    rw [hpre] at h
    dsimp only at h
    by_cases hadmits : decision.admits = false
    · rw [if_pos hadmits] at h
      cases h
      exact ⟨hkept, decision, hpre, Or.inl ⟨hadmits, rfl, rfl⟩⟩
    · rw [if_neg hadmits] at h
      rcases passes_spec hclock hcoded hkept hfresh with
        ⟨hrec, ledger, records, reads, hrecords, hmade, hkept', hpasses⟩ | ⟨-, e, hpasses⟩
      · rw [hpasses] at h
        cases h
        exact ⟨hkept', decision, hpre, Or.inr ⟨by simpa using hadmits, hrec, records, hrecords, hmade, rfl⟩⟩
      · rw [hpasses] at h
        cases h

theorem runCell_returns (hclock : Monotonic env.clock) (hcoded : env.Coded) (hkept : Kept codes state.ledger)
    (hfresh : state.ledger.recordsOf cell.cellId = []) (hruns : env.Runs codes cell state.ledger.records.length) :
    ∃ result after, ∀ fuel, env.runCell (fuel + 2) cell state = some (.ok (result, after)) := by
  obtain ⟨decision, hpre, hneeds⟩ := hruns
  unfold Surroundings.runCell
  rw [hpre]
  dsimp only
  by_cases hadmits : decision.admits = false
  · exact ⟨_, _, fun _ => if_pos hadmits⟩
  · rcases passes_spec hclock hcoded hkept hfresh with ⟨-, ledger, records, reads, -, -, -, hpasses⟩ | ⟨hrec, -⟩
    · refine ⟨attempted cell (env.locals codes state.ledger.records.length) ledger, ⟨ledger, reads⟩, fun fuel => ?_⟩
      rw [if_neg hadmits, hpasses]
    · exact absurd (hneeds (by simpa using hadmits)) hrec

end

theorem Ran.runs {env : Surroundings} {codes : List Str} {cell : CampaignCell} {result : CellResult}
    {before after : RunState} (h : Ran env codes cell result before after) :
    env.Runs codes cell before.ledger.records.length := by
  obtain ⟨decision, hpre, hdecided⟩ := h.decided
  refine ⟨decision, hpre, fun hadmits => ?_⟩
  rcases hdecided with ⟨hdeclined, -⟩ | ⟨-, hrec, -⟩
  · rw [hadmits] at hdeclined
    cases hdeclined
  · exact hrec

/-- The attempts of the cell after it ran, all of them its own. -/
theorem Ran.records {env : Surroundings} {codes : List Str} {cell : CampaignCell} {result : CellResult}
    {before after : RunState} (h : Ran env codes cell result before after) :
    ∃ records, after.ledger.records = before.ledger.records ++ records ∧
      ∀ record ∈ records, record.cellId = cell.cellId := by
  obtain ⟨decision, -, ⟨-, -, rfl⟩ | ⟨-, -, records, hrecords, hmade, -⟩⟩ := h.decided
  · exact ⟨[], by simp, by simp⟩
  · refine ⟨records, hrecords, fun record hmem => ?_⟩
    have houtline : record.outline ∈ env.made codes cell before.ledger.records.length := by
      rw [← hmade]
      exact List.mem_map_of_mem hmem
    unfold Surroundings.made at houtline
    have hcell : record.outline.1 = cell.cellId := by
      split at houtline
      · simp only [List.mem_cons, List.not_mem_nil, or_false] at houtline
        rcases houtline with h | h <;> rw [h]
      · rw [List.mem_singleton.mp houtline]
    exact hcell

theorem recordsOf_append_records (before after : AttemptLedger) (records : List AttemptRecord) (cellId : Str)
    (h : after.records = before.records ++ records) :
    after.recordsOf cellId = before.recordsOf cellId ++ records.filter fun record => record.cellId = cellId := by
  unfold AttemptLedger.recordsOf
  rw [h, List.filter_append]

theorem Ran.others {env : Surroundings} {codes : List Str} {cell : CampaignCell} {result : CellResult}
    {before after : RunState} (h : Ran env codes cell result before after) (cellId : Str) (hne : cellId ≠ cell.cellId) :
    after.ledger.recordsOf cellId = before.ledger.recordsOf cellId := by
  obtain ⟨records, hrecords, hcell⟩ := h.records
  rw [recordsOf_append_records _ _ records cellId hrecords, List.filter_eq_nil_iff.mpr, List.append_nil]
  intro record hmem
  simpa [hcell record hmem] using fun he => hne he.symm

/-! ## The cells of a run -/

section
variable {env : Surroundings} {codes : List Str}

theorem runCells_cons_ok (fuel : Nat) (cell : CampaignCell) (cells : List CampaignCell) (state after : RunState)
    (results : List CellResult) :
    env.runCells fuel (cell :: cells) state = some (.ok (results, after)) ↔
      ∃ result middle rest, env.runCell fuel cell state = some (.ok (result, middle)) ∧
        env.runCells fuel cells middle = some (.ok (rest, after)) ∧ results = result :: rest := by
  rw [Surroundings.runCells]
  rcases env.runCell fuel cell state with _ | (e | ⟨result, middle⟩)
  · simp
  · simp
  · dsimp only
    rcases hrest : env.runCells fuel cells middle with _ | (e | ⟨rest, last⟩)
    · simp [hrest]
    · simp [hrest]
    · constructor
      · intro h
        cases h
        exact ⟨result, middle, rest, rfl, hrest, rfl⟩
      · rintro ⟨result', middle', rest', hcell, hrest', rfl⟩
        cases hcell
        rw [hrest] at hrest'
        cases hrest'
        rfl

theorem runCells_append_ok (fuel : Nat) (front back : List CampaignCell) (state after : RunState)
    (results : List CellResult) :
    env.runCells fuel (front ++ back) state = some (.ok (results, after)) ↔
      ∃ first middle rest, env.runCells fuel front state = some (.ok (first, middle)) ∧
        env.runCells fuel back middle = some (.ok (rest, after)) ∧ results = first ++ rest := by
  induction front generalizing state results with
  | nil =>
    constructor
    · intro h
      exact ⟨[], state, results, rfl, h, rfl⟩
    · rintro ⟨first, middle, rest, hfirst, hrest, rfl⟩
      cases hfirst
      exact hrest
  | cons cell front ih =>
    rw [List.cons_append, runCells_cons_ok]
    constructor
    · rintro ⟨result, middle, rest, hcell, hrest, rfl⟩
      obtain ⟨first, last, back', hfront, hback, rfl⟩ := (ih _ _).mp hrest
      exact ⟨result :: first, last, back', (runCells_cons_ok _ _ _ _ _ _).mpr ⟨_, _, _, hcell, hfront, rfl⟩, hback, rfl⟩
    · rintro ⟨first, middle, rest, hfirst, hrest, rfl⟩
      obtain ⟨result, next, front', hcell, hfront, rfl⟩ := (runCells_cons_ok _ _ _ _ _ _).mp hfirst
      exact ⟨result, next, front' ++ rest, hcell, (ih _ _).mpr ⟨_, _, _, hfront, hrest, rfl⟩, rfl⟩

end

end TurnVector.CrossEngine
