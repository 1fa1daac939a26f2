import TurnVector.CrossEngine.Cells

/-! # A run that accounts for its cells -/

namespace TurnVector.CrossEngine

open Python Json

/-! ## What a run owes -/

/-- The outcomes with the attempts of a cell before its last left out. -/
def withoutRetries (attempts : Nat → AttemptOutcome) (first last : Nat) : Nat → AttemptOutcome := fun ordinal =>
  if ordinal < first then attempts ordinal else attempts (ordinal + (last - first))

def Surroundings.without (env : Surroundings) (first last : Nat) : Surroundings :=
  { env with attempts := withoutRetries env.attempts first last }

def CellResult.unnumbered (result : CellResult) : CellResult := { result with primaryAttemptOrdinal := none }

/-- The result of a cell tells what its attempts in the ledger were. -/
structure CellAccounted (env : Surroundings) (campaign : CampaignPlan) (ledger : AttemptLedger) (cell : CampaignCell)
    (result : CellResult) : Prop where
  named : result.cellId = cell.cellId ∧ result.targetId = cell.targetId
  attempts : ∃ decision, env.preflight cell = .ok decision ∧
    if decision.admits then
      (ledger.recordsOf cell.cellId).length = 1 ∨ (ledger.recordsOf cell.cellId).length = 2
    else ledger.recordsOf cell.cellId = []
  completed : result.executionStatus = lit "completed" ↔
    ∃ last ∈ (ledger.recordsOf cell.cellId).getLast?, last.status = lit "completed"
  primary : ∀ last ∈ (ledger.recordsOf cell.cellId).getLast?, last.status = lit "completed" →
    result.primaryAttemptOrdinal = some last.attemptOrdinal ∧
      ∃ diagnostics, env.attempts last.attemptOrdinal = .returned result.observations diagnostics
  empty : result.executionStatus ≠ lit "completed" → result.observations = []
  /-- A completed cell would have the same result had its last attempt been its first. -/
  independent : result.executionStatus = lit "completed" → ∀ first ∈ (ledger.recordsOf cell.cellId).head?,
    ∀ last ∈ (ledger.recordsOf cell.cellId).getLast?, ∃ results' ledger',
      (∀ fuel, (env.without first.attemptOrdinal last.attemptOrdinal).run (fuel + 2) campaign =
        some (.ok (results', ledger'))) ∧
      ∃ result' ∈ results', result'.cellId = cell.cellId ∧ result'.unnumbered = result.unnumbered

/-- The run ends, with one result for every cell, in the order of the plan. -/
def RunAccounted (env : Surroundings) (campaign : CampaignPlan) : Prop :=
  ∃ results ledger, (∀ fuel, env.run (fuel + 2) campaign = some (.ok (results, ledger))) ∧
    List.Forall₂ (CellAccounted env campaign ledger) campaign.cells results

/-- No attempt completes a cell after one that was retried. -/
def Surroundings.Fresh (env : Surroundings) (codes : List Str) (n : Nat) : Prop :=
  env.repeats codes n = true → ∀ observations diagnostics, env.attempts (n + 1) ≠ .returned observations diagnostics

/-- From this ordinal on every preflight decides, every attempt that is made can be written down, and no cell is
completed by a retry. -/
def Surroundings.Smooth (env : Surroundings) (codes : List Str) : List CampaignCell → Nat → Prop
  | [], _ => True
  | cell :: cells, n =>
    ∃ decision, env.preflight cell = .ok decision ∧
      if decision.admits then
        env.Recordable codes n ∧ env.Fresh codes n ∧ env.Smooth codes cells (env.lastOrdinal codes n + 1)
      else env.Smooth codes cells n

/-! ## The result of one cell -/

section
variable {env : Surroundings} {codes : List Str} {cell : CampaignCell}

theorem status_completed (outcome : AttemptOutcome) : outcome.status = lit "completed" ↔
    ∃ observations diagnostics, outcome = .returned observations diagnostics := by
  cases outcome with
  | returned observations diagnostics => simp [AttemptOutcome.status]
  | raised message =>
    have hne : lit "runtime_error" ≠ lit "completed" := by decide
    simp [AttemptOutcome.status, hne]
  | retryable error =>
    have hall : ∀ status ∈ retryableStatuses, status ≠ lit "completed" := by decide
    simp [AttemptOutcome.status, hall _ error.registered]

/-- The locals are those of the last attempt, over what a retried one left. -/
theorem locals_eq (env : Surroundings) (codes : List Str) (n : Nat) :
    ∃ retryOf reason, env.locals codes n =
        (env.attempts (env.lastOrdinal codes n)).ended { CellLocals.start with retryOf, reason } ∧
      (env.repeats codes n = false → reason = none) ∧
      (env.repeats codes n = true → reason = (env.attempts n).reasonCode) := by
  unfold Surroundings.locals Surroundings.lastOrdinal
  by_cases h : env.repeats codes n = true
  · rw [if_pos h, if_pos h]
    exact ⟨_, _, rfl, by simp [h], fun _ => rfl⟩
  · rw [if_neg h, if_neg h]
    exact ⟨none, none, rfl, fun _ => rfl, fun h' => absurd h' h⟩

theorem locals_status (n : Nat) : (env.locals codes n).executionStatus = lit "completed" ↔
    (env.attempts (env.lastOrdinal codes n)).status = lit "completed" := by
  have hne : lit "infrastructure_failed" ≠ lit "completed" := by decide
  obtain ⟨retryOf, reason, hlocals, -⟩ := locals_eq env codes n
  rw [hlocals, status_completed]
  cases env.attempts (env.lastOrdinal codes n) with
  | returned observations diagnostics => simp [AttemptOutcome.ended]
  | retryable error => simp [AttemptOutcome.ended, CellLocals.start, hne]
  | raised message => simp [AttemptOutcome.ended, CellLocals.start, hne]

theorem locals_observations (n : Nat) :
    ((env.attempts (env.lastOrdinal codes n)).status = lit "completed" →
      ∃ diagnostics, env.attempts (env.lastOrdinal codes n) =
        .returned (env.locals codes n).observations diagnostics) ∧
    ((env.attempts (env.lastOrdinal codes n)).status ≠ lit "completed" → (env.locals codes n).observations = []) := by
  obtain ⟨retryOf, reason, hlocals, -⟩ := locals_eq env codes n
  rw [hlocals, ne_eq, status_completed]
  cases env.attempts (env.lastOrdinal codes n) with
  | returned observations diagnostics => simp [AttemptOutcome.ended]
  | retryable error => simp [AttemptOutcome.ended, CellLocals.start]
  | raised message => simp [AttemptOutcome.ended, CellLocals.start]

theorem made_ends (env : Surroundings) (codes : List Str) (cell : CampaignCell) (n : Nat) :
    (env.made codes cell n).head? = some (cell.cellId, n, (env.attempts n).status) ∧
    (env.made codes cell n).getLast? =
      some (cell.cellId, env.lastOrdinal codes n, (env.attempts (env.lastOrdinal codes n)).status) ∧
    (env.made codes cell n).length = env.lastOrdinal codes n - n + 1 ∧
    (env.lastOrdinal codes n = n ∨ env.lastOrdinal codes n = n + 1) := by
  unfold Surroundings.made Surroundings.lastOrdinal
  split <;> simp

/-- The attempt that completes a cell is its primary attempt. -/
theorem primary_of_completed {ledger : AttemptLedger} (hkept : Kept codes ledger) (last : AttemptRecord)
    (hlast : (ledger.recordsOf cell.cellId).getLast? = some last) (hstatus : last.status = lit "completed") :
    ledger.primaryAttempt cell.cellId = some last := by
  have hmem : last ∈ ledger.recordsOf cell.cellId := List.mem_of_getLast? hlast
  have hnot : occurs (lit "completed") retryableStatuses = false := by decide
  have heligible : last.eligibleForPrimary = true := by
    rw [hkept.custody.eligible last (List.mem_filter.mp hmem).1]
    simp [AttemptLedger.isRetryReason, hstatus, hnot]
  exact (AttemptLedger.eligible_last (hkept.custody.chain cell.cellId) last hmem heligible).2

/-- What the ledger holds of a cell that ran. -/
theorem Ran.recordsOf {result : CellResult} {before after : RunState} (h : Ran env codes cell result before after)
    (hfresh : before.ledger.recordsOf cell.cellId = []) :
    (∃ decision, env.preflight cell = .ok decision ∧
      ((decision.admits = false ∧ result = declined cell decision ∧ after = before) ∨
       (decision.admits = true ∧ env.Recordable codes before.ledger.records.length ∧
        (after.ledger.recordsOf cell.cellId).map (·.outline) = env.made codes cell before.ledger.records.length ∧
        after.ledger.records.length = env.lastOrdinal codes before.ledger.records.length + 1 ∧
        result = attempted cell (env.locals codes before.ledger.records.length) after.ledger))) := by
  obtain ⟨decision, hpre, hdecided⟩ := h.decided
  refine ⟨decision, hpre, ?_⟩
  rcases hdecided with hdeclined | ⟨hadmits, hrec, records, hrecords, hmade, hresult⟩
  · exact Or.inl hdeclined
  · right
    have hown : ∀ record ∈ records, record.cellId = cell.cellId := by
      obtain ⟨records', hrecords', hown⟩ := h.records
      rw [hrecords] at hrecords'
      rwa [List.append_cancel_left hrecords']
    have hall : after.ledger.recordsOf cell.cellId = records := by
      rw [recordsOf_append_records _ _ records cell.cellId hrecords, hfresh, List.nil_append, List.filter_eq_self]
      simpa using hown
    have hlength := congrArg List.length hmade
    obtain ⟨-, -, hcount, hlast⟩ := made_ends env codes cell before.ledger.records.length
    rw [List.length_map, hcount] at hlength
    refine ⟨hadmits, hrec, by rw [hall, hmade], ?_, hresult⟩
    rw [hrecords, List.length_append, hlength]
    omega

end

theorem preflight_not_started (env : Surroundings) (cell : CampaignCell) (decision : PreflightDecision)
    (h : env.preflight cell = .ok decision) : decision.executionStatus = lit "not_started" := by
  have hdecide : ∀ required declared probed profile environment applicable,
      (decidePreflight required declared probed profile environment applicable).executionStatus = lit "not_started" := by
    intro required declared probed profile environment applicable
    unfold decidePreflight
    split
    · rfl
    split
    · rfl
    split
    · rfl
    rcases hfirst : (mandatoryCommonCapabilities ++ required).eraseDups.findSome? (capabilityDecision declared probed) with
      _ | decision
    · rfl
    · obtain ⟨capability, -, hcapability⟩ := List.exists_of_findSome?_eq_some hfirst
      unfold capabilityDecision at hcapability
      rw [Option.getD_some]
      split at hcapability
      · split at hcapability <;> cases hcapability <;> rfl
      · split at hcapability <;> cases hcapability <;> rfl
  unfold Surroundings.preflight at h
  obtain ⟨observed, -, h⟩ := bind_ok_iff.mp h
  split at h
  · obtain ⟨declared, -, h⟩ := bind_ok_iff.mp h
    obtain ⟨probed, -, h⟩ := bind_ok_iff.mp h
    cases h
    exact hdecide _ _ _ _ _ _
  · cases h

/-- All that a cell owes but the comparison of two runs. -/
theorem accounted_of_ran {env : Surroundings} {campaign : CampaignPlan} {codes : List Str} {cell : CampaignCell}
    {result : CellResult} {before after : RunState} (hran : Ran env codes cell result before after)
    (hfresh : before.ledger.recordsOf cell.cellId = []) (ledger : AttemptLedger)
    (hfinal : ledger.recordsOf cell.cellId = after.ledger.recordsOf cell.cellId)
    (hindependent : result.executionStatus = lit "completed" → ∀ first ∈ (ledger.recordsOf cell.cellId).head?,
      ∀ last ∈ (ledger.recordsOf cell.cellId).getLast?, ∃ results' ledger',
        (∀ fuel, (env.without first.attemptOrdinal last.attemptOrdinal).run (fuel + 2) campaign =
          some (.ok (results', ledger'))) ∧
        ∃ result' ∈ results', result'.cellId = cell.cellId ∧ result'.unnumbered = result.unnumbered) :
    CellAccounted env campaign ledger cell result := by
  obtain ⟨decision, hpre, ⟨hdeclines, rfl, rfl⟩ | ⟨hadmits, -, hmade, -, rfl⟩⟩ := hran.recordsOf hfresh
  · have hstatus := preflight_not_started env cell decision hpre
    have hne : lit "not_started" ≠ lit "completed" := by decide
    have hnone : ledger.recordsOf cell.cellId = [] := hfinal.trans hfresh
    refine ⟨⟨rfl, rfl⟩, ⟨decision, hpre, by simp [hdeclines, hnone]⟩, ?_, ?_, fun _ => rfl, hindependent⟩
    · simp [declined, hstatus, hne, hnone]
    · simp [hnone]
  · obtain ⟨-, hlast, hcount, hordinal⟩ := made_ends env codes cell before.ledger.records.length
    rw [← hfinal] at hmade
    have hlength := congrArg List.length hmade
    rw [List.length_map, hcount] at hlength
    have hends : ∀ last ∈ (ledger.recordsOf cell.cellId).getLast?, last.outline = (cell.cellId,
        env.lastOrdinal codes before.ledger.records.length,
        (env.attempts (env.lastOrdinal codes before.ledger.records.length)).status) := by
      intro last hmem
      have hmap := congrArg List.getLast? hmade
      rw [List.getLast?_map, hlast, show (ledger.recordsOf cell.cellId).getLast? = some last from hmem] at hmap
      exact Option.some.inj hmap
    have hexists : ∃ last, (ledger.recordsOf cell.cellId).getLast? = some last := by
      rw [← Option.isSome_iff_exists, List.getLast?_isSome, ← List.length_pos_iff]
      omega
    have hstatus : ∀ last ∈ (ledger.recordsOf cell.cellId).getLast?, (last.status = lit "completed" ↔
        (env.attempts (env.lastOrdinal codes before.ledger.records.length)).status = lit "completed") := by
      intro last hmem
      have houtline := hends last hmem
      simp only [AttemptRecord.outline, Prod.mk.injEq] at houtline
      rw [houtline.2.2]
    refine ⟨⟨rfl, rfl⟩, ⟨decision, hpre, ?_⟩, ?_, ?_, ?_, hindependent⟩
    · rw [if_pos hadmits]
      omega
    · have hlocals : (attempted cell (env.locals codes before.ledger.records.length) after.ledger).executionStatus =
          (env.locals codes before.ledger.records.length).executionStatus := rfl
      rw [hlocals, locals_status]
      constructor
      · intro h
        obtain ⟨last, hmem⟩ := hexists
        exact ⟨last, hmem, (hstatus last hmem).mpr h⟩
      · rintro ⟨last, hmem, h⟩
        exact (hstatus last hmem).mp h
    · intro last hmem hcompleted
      have houtline := hends last hmem
      simp only [AttemptRecord.outline, Prod.mk.injEq] at houtline
      have hprimary := primary_of_completed hran.kept last (hfinal ▸ hmem) hcompleted
      obtain ⟨diagnostics, hreturned⟩ := (locals_observations before.ledger.records.length).1 ((hstatus last hmem).mp hcompleted)
      refine ⟨?_, diagnostics, ?_⟩
      · simp [attempted, hprimary]
      · rw [houtline.2.1, hreturned]
        rfl
    · intro hnot
      have hlocals : (env.locals codes before.ledger.records.length).executionStatus ≠ lit "completed" := hnot
      rw [ne_eq, locals_status] at hlocals
      exact (locals_observations before.ledger.records.length).2 hlocals

/-! ## Runs that agree on the attempts they make -/

section
variable (env : Surroundings) (cell : CampaignCell) (locals : CellLocals) (state : RunState)

theorem append_length (startedNs : Int) (status : Str) (reasonCode : Option Str) (details : Option (List (Str × Json))) :
    ((env.append cell locals startedNs status reasonCode details state).2.ledger.records.length =
      state.ledger.records.length +
        if (env.append cell locals startedNs status reasonCode details state).1.toOption.isSome then 1 else 0) := by
  unfold Surroundings.append
  dsimp only
  rcases AttemptLedger.append_records Disk.fine
    { cellId := cell.cellId, status, reasonCode, startedMonotonicNs := startedNs,
      finishedMonotonicNs := env.clock state.reads, retryOf := locals.retryOf, details } state.ledger with
    ⟨e, file, hcall⟩ | ⟨file, -, hcall⟩
  · rw [hcall]
    simp [Except.toOption]
  · rw [hcall]
    simp [Except.toOption]

theorem failed_length (startedNs : Int) (message : Str) (again : Bool) (locals' : CellLocals) (after : RunState)
    (h : env.failed cell locals startedNs message state = .ok (again, locals', after)) :
    after.ledger.records.length = state.ledger.records.length + 1 := by
  have hlength := append_length env cell locals state startedNs (lit "runtime_error") (some cellExecutionFailed)
    (some (details message))
  unfold Surroundings.failed at h
  dsimp only at h
  split at h
  · cases h
  · rename_i happend
    cases h
    rw [hlength, happend]
    rfl

theorem pass_length (again : Bool) (locals' : CellLocals) (after : RunState)
    (h : env.pass cell locals state = .ok (again, locals', after)) :
    after.ledger.records.length = state.ledger.records.length + 1 := by
  unfold Surroundings.pass at h
  dsimp only at h
  split at h
  case h_1 observations diagnostics _ =>
    have hlength := append_length env cell { locals with observations, diagnostics } ⟨state.ledger, state.reads + 1⟩
      (env.clock state.reads) (lit "completed") none none
    split at h
    · rename_i happend
      rw [failed_length env cell _ _ _ _ _ _ _ h, hlength, happend]
      rfl
    · rename_i happend
      cases h
      rw [hlength, happend]
      rfl
  case h_2 error _ =>
    have hlength := append_length env cell locals ⟨state.ledger, state.reads + 1⟩ (env.clock state.reads) error.status
      (some error.reasonCode) (some (details error.message))
    split at h
    · cases h
    · rename_i happend
      rw [happend] at hlength
      split at h
      · cases h
        exact hlength
      · cases h
        exact hlength
  case h_3 message _ => exact failed_length env cell locals ⟨state.ledger, state.reads + 1⟩ _ _ _ _ _ h

theorem passes_length (fuel : Nat) (locals' : CellLocals) (after : RunState)
    (h : env.passes cell fuel locals state = some (.ok (locals', after))) :
    state.ledger.records.length < after.ledger.records.length := by
  induction fuel generalizing locals state with
  | zero => cases h
  | succ fuel ih =>
    rw [Surroundings.passes] at h
    rcases hpass : env.pass cell locals state with e | ⟨again, next, middle⟩
    · rw [hpass] at h
      cases h
    · have hlength := pass_length env cell locals state again next middle hpass
      rw [hpass] at h
      cases again with
      | true =>
        have := ih next middle h
        omega
      | false =>
        cases h
        omega

variable (attempts' : Nat → AttemptOutcome)

theorem pass_congr (h : attempts' state.ledger.records.length = env.attempts state.ledger.records.length) :
    ({ env with attempts := attempts' } : Surroundings).pass cell locals state = env.pass cell locals state := by
  unfold Surroundings.pass
  dsimp only
  rw [h]
  rfl

theorem passes_congr (fuel : Nat) (locals' : CellLocals) (after : RunState)
    (hsame : ∀ k < after.ledger.records.length, attempts' k = env.attempts k)
    (h : env.passes cell fuel locals state = some (.ok (locals', after))) :
    ({ env with attempts := attempts' } : Surroundings).passes cell fuel locals state = some (.ok (locals', after)) := by
  induction fuel generalizing locals state with
  | zero => cases h
  | succ fuel ih =>
    have hlength := passes_length env cell locals state (fuel + 1) locals' after h
    rw [Surroundings.passes] at h ⊢
    rw [pass_congr env cell locals state attempts' (hsame _ hlength)]
    rcases hpass : env.pass cell locals state with e | ⟨again, next, middle⟩
    · rw [hpass] at h
      cases h
    · rw [hpass] at h
      cases again with
      | true => exact ih next middle h
      | false => exact h

end

theorem runCell_congr (env : Surroundings) (attempts' : Nat → AttemptOutcome) (fuel : Nat) (cell : CampaignCell)
    (state after : RunState) (result : CellResult)
    (hsame : ∀ k < after.ledger.records.length, attempts' k = env.attempts k)
    (h : env.runCell fuel cell state = some (.ok (result, after))) :
    ({ env with attempts := attempts' } : Surroundings).runCell fuel cell state = some (.ok (result, after)) := by
  have hpreflight : ({ env with attempts := attempts' } : Surroundings).preflight cell = env.preflight cell := rfl
  unfold Surroundings.runCell at h ⊢
  rw [hpreflight]
  rcases hpre : env.preflight cell with e | decision
  · rw [hpre] at h
    cases h
  · rw [hpre] at h
    dsimp only at h ⊢
    split
    · rename_i hdeclines
      rwa [if_pos hdeclines] at h
    · rename_i hadmits
      rw [if_neg hadmits] at h
      rcases hpasses : env.passes cell fuel CellLocals.start state with _ | (e | ⟨locals', last⟩)
      · rw [hpasses] at h
        cases h
      · rw [hpasses] at h
        cases h
      · rw [hpasses] at h
        cases h
        rw [passes_congr env cell CellLocals.start state attempts' fuel locals' _ hsame hpasses]

theorem runCell_length (env : Surroundings) (fuel : Nat) (cell : CampaignCell) (state after : RunState)
    (result : CellResult) (h : env.runCell fuel cell state = some (.ok (result, after))) :
    state.ledger.records.length ≤ after.ledger.records.length ∧ result.cellId = cell.cellId := by
  unfold Surroundings.runCell at h
  rcases hpre : env.preflight cell with e | decision
  · rw [hpre] at h
    cases h
  · rw [hpre] at h
    dsimp only at h
    split at h
    · cases h
      exact ⟨le_rfl, rfl⟩
    · rcases hpasses : env.passes cell fuel CellLocals.start state with _ | (e | ⟨locals', last⟩)
      · rw [hpasses] at h
        cases h
      · rw [hpasses] at h
        cases h
      · rw [hpasses] at h
        cases h
        exact ⟨(passes_length env cell _ _ _ _ _ hpasses).le, rfl⟩

theorem runCells_length (env : Surroundings) (fuel : Nat) (cells : List CampaignCell) (state after : RunState)
    (results : List CellResult) (h : env.runCells fuel cells state = some (.ok (results, after))) :
    state.ledger.records.length ≤ after.ledger.records.length ∧ results.map (·.cellId) = cells.map (·.cellId) := by
  induction cells generalizing state results with
  | nil =>
    cases h
    exact ⟨le_rfl, rfl⟩
  | cons cell cells ih =>
    obtain ⟨result, middle, rest, hcell, hrest, rfl⟩ := (runCells_cons_ok _ _ _ _ _ _).mp h
    obtain ⟨hle, hname⟩ := runCell_length env fuel cell state middle result hcell
    obtain ⟨hle', hnames⟩ := ih middle rest hrest
    exact ⟨hle.trans hle', by rw [List.map_cons, List.map_cons, hname, hnames]⟩

/-- A run reads no outcome from the ordinal on where it ends. -/
theorem runCells_congr (env : Surroundings) (attempts' : Nat → AttemptOutcome) (fuel : Nat) (cells : List CampaignCell)
    (state after : RunState) (results : List CellResult)
    (hsame : ∀ k < after.ledger.records.length, attempts' k = env.attempts k)
    (h : env.runCells fuel cells state = some (.ok (results, after))) :
    ({ env with attempts := attempts' } : Surroundings).runCells fuel cells state = some (.ok (results, after)) := by
  induction cells generalizing state results with
  | nil =>
    cases h
    rfl
  | cons cell cells ih =>
    obtain ⟨result, middle, rest, hcell, hrest, rfl⟩ := (runCells_cons_ok _ _ _ _ _ _).mp h
    obtain ⟨hle, -⟩ := runCells_length env fuel cells middle after rest hrest
    refine (runCells_cons_ok _ _ _ _ _ _).mpr ⟨result, middle, rest, ?_, ih middle rest hrest, rfl⟩
    exact runCell_congr env attempts' fuel cell state middle result (fun k hk => hsame k (by omega)) hcell

/-! ## Every cell -/

/-- A state from which these cells can run: none of them was attempted yet. -/
structure Ready (codes : List Str) (cells : List CampaignCell) (state : RunState) : Prop where
  kept : Kept codes state.ledger
  distinct : (cells.map (·.cellId)).Nodup
  untouched : ∀ cell ∈ cells, state.ledger.recordsOf cell.cellId = []

section
variable {env : Surroundings} {codes : List Str} {cell : CampaignCell} {cells : List CampaignCell}
  {state after : RunState}

theorem Ready.fresh (h : Ready codes (cell :: cells) state) : state.ledger.recordsOf cell.cellId = [] :=
  h.untouched cell (by simp)

theorem Ready.next (h : Ready codes (cell :: cells) state) {result : CellResult} {middle : RunState}
    (hran : Ran env codes cell result state middle) : Ready codes cells middle := by
  have hdistinct := h.distinct
  rw [List.map_cons, List.nodup_cons] at hdistinct
  refine ⟨hran.kept, hdistinct.2, ?_⟩
  intro other hmem
  rw [hran.others other.cellId]
  · exact h.untouched other (by simp [hmem])
  · intro he
    exact hdistinct.1 (he ▸ List.mem_map_of_mem hmem)

theorem next_ordinal (hready : Ready codes (cell :: cells) state) {result : CellResult} {middle : RunState}
    (hran : Ran env codes cell result state middle) (decision : PreflightDecision)
    (hpre : env.preflight cell = .ok decision) :
    middle.ledger.records.length =
      if decision.admits then env.lastOrdinal codes state.ledger.records.length + 1
      else state.ledger.records.length := by
  obtain ⟨decision', hpre', hdecided⟩ := hran.recordsOf hready.fresh
  rw [hpre] at hpre'
  cases hpre'
  rcases hdecided with ⟨hdeclines, -, rfl⟩ | ⟨hadmits, -, -, hlength, -⟩
  · simp [hdeclines]
  · rw [if_pos hadmits, hlength]

variable (hclock : Monotonic env.clock) (hcoded : env.Coded)
include hclock hcoded

theorem runCells_others (fuel : Nat) (results : List CellResult) (hready : Ready codes cells state)
    (h : env.runCells (fuel + 2) cells state = some (.ok (results, after))) (cellId : Str)
    (hnot : cellId ∉ cells.map (·.cellId)) : after.ledger.recordsOf cellId = state.ledger.recordsOf cellId := by
  induction cells generalizing state results with
  | nil =>
    cases h
    rfl
  | cons cell cells ih =>
    obtain ⟨result, middle, rest, hcell, hrest, rfl⟩ := (runCells_cons_ok _ _ _ _ _ _).mp h
    have hran := runCell_ran hclock hcoded hready.kept hready.fresh fuel result middle hcell
    rw [List.map_cons, List.mem_cons, not_or] at hnot
    rw [ih rest (hready.next hran) hrest hnot.2, hran.others cellId hnot.1]

/-- The attempts of the first cell are those it made itself. -/
theorem recordsOf_first (fuel : Nat) (results : List CellResult) (hready : Ready codes (cell :: cells) state)
    {result : CellResult} {middle : RunState} (hran : Ran env codes cell result state middle)
    (h : env.runCells (fuel + 2) cells middle = some (.ok (results, after))) :
    after.ledger.recordsOf cell.cellId = middle.ledger.recordsOf cell.cellId := by
  have hdistinct := hready.distinct
  rw [List.map_cons, List.nodup_cons] at hdistinct
  exact runCells_others hclock hcoded fuel results (hready.next hran) h cell.cellId hdistinct.1

theorem runCells_returns (hready : Ready codes cells state) (hsmooth : env.Smooth codes cells state.ledger.records.length) :
    ∃ results after, ∀ fuel, env.runCells (fuel + 2) cells state = some (.ok (results, after)) := by
  induction cells generalizing state with
  | nil => exact ⟨[], state, fun _ => rfl⟩
  | cons cell cells ih =>
    obtain ⟨decision, hpre, hneeds⟩ := hsmooth
    have hruns : env.Runs codes cell state.ledger.records.length := by
      refine ⟨decision, hpre, fun hadmits => ?_⟩
      rw [if_pos hadmits] at hneeds
      exact hneeds.1
    obtain ⟨result, middle, hcell⟩ := runCell_returns hclock hcoded hready.kept hready.fresh hruns
    have hran := runCell_ran hclock hcoded hready.kept hready.fresh 0 result middle (hcell 0)
    have hnext := next_ordinal hready hran decision hpre
    have hrest : env.Smooth codes cells middle.ledger.records.length := by
      rw [hnext]
      split at hneeds
      · rename_i hadmits
        rw [if_pos hadmits]
        exact hneeds.2.2
      · rename_i hdeclines
        rwa [if_neg hdeclines]
    obtain ⟨rest, after, hrest⟩ := ih (hready.next hran) hrest
    exact ⟨result :: rest, after, fun fuel => (runCells_cons_ok _ _ _ _ _ _).mpr
      ⟨result, middle, rest, hcell fuel, hrest fuel, rfl⟩⟩

end

theorem without_same (env : Surroundings) (n : Nat) : env.without n n = env := by
  have hsame : withoutRetries env.attempts n n = env.attempts := by
    funext k
    unfold withoutRetries
    simp
  unfold Surroundings.without
  rw [hsame]

/-- A cell of a smooth run that is completed was attempted once. -/
theorem single_of_fresh {env : Surroundings} {codes : List Str} {cell : CampaignCell} {result : CellResult}
    {before after : RunState} (hran : Ran env codes cell result before after)
    (hfresh : before.ledger.recordsOf cell.cellId = [])
    (hsmooth : ∀ decision, env.preflight cell = .ok decision → decision.admits = true →
      env.Fresh codes before.ledger.records.length)
    (hcompleted : result.executionStatus = lit "completed") (first last : AttemptRecord)
    (hfirst : first ∈ (after.ledger.recordsOf cell.cellId).head?)
    (hlast : last ∈ (after.ledger.recordsOf cell.cellId).getLast?) : first.attemptOrdinal = last.attemptOrdinal := by
  obtain ⟨decision, hpre, ⟨-, -, rfl⟩ | ⟨hadmits, -, hmade, -, rfl⟩⟩ := hran.recordsOf hfresh
  · rw [hfresh] at hfirst
    cases hfirst
  · have hlocals : (env.locals codes before.ledger.records.length).executionStatus = lit "completed" := hcompleted
    rw [locals_status, status_completed] at hlocals
    have hrepeats : env.repeats codes before.ledger.records.length = false := by
      by_contra hne
      have hrepeats : env.repeats codes before.ledger.records.length = true := by simpa using hne
      obtain ⟨observations, diagnostics, hreturned⟩ := hlocals
      unfold Surroundings.lastOrdinal at hreturned
      rw [if_pos hrepeats] at hreturned
      exact hsmooth decision hpre hadmits hrepeats observations diagnostics hreturned
    unfold Surroundings.made at hmade
    rw [if_neg (by simp [hrepeats])] at hmade
    obtain ⟨record, hone, -⟩ := List.map_eq_singleton_iff.mp hmade
    rw [hone] at hfirst hlast
    cases hfirst
    cases hlast
    rfl

theorem without_clock {env : Surroundings} (h : Monotonic env.clock) (first last : Nat) :
    Monotonic (env.without first last).clock := h

theorem without_coded {env : Surroundings} (h : env.Coded) (first last : Nat) : (env.without first last).Coded := by
  intro n
  unfold Surroundings.without withoutRetries
  dsimp only
  split
  · exact h n
  · exact h _

/-! ## The whole run -/

/-- The ledger of a campaign before its first attempt. -/
def startLedger (campaign : CampaignPlan) : AttemptLedger := ⟨campaign.retryableReasonCodes, 2, [], []⟩

theorem init_campaign (campaign : CampaignPlan) :
    AttemptLedger.init campaign.retryableReasonCodes 2 = .ok (startLedger campaign) := by
  have hnodup : campaign.retryableReasonCodes.Nodup := by
    rw [campaign.reasonsSorted]
    exact (List.perm_insertionSort _ _).nodup_iff.mpr (List.nodup_dedup _)
  have hall : (campaign.retryableReasonCodes.forM fun item => identifier item (lit "retryable_reason_codes[]")) =
      .ok () := by
    rw [forM_ok_iff]
    intro item hitem
    exact identifier_fits item _ (campaign.reasonsIdentified item hitem)
  unfold AttemptLedger.init
  rw [hall]
  simp [bind, Except.bind, hnodup, startLedger]

theorem ready_start (campaign : CampaignPlan) :
    Ready campaign.retryableReasonCodes campaign.cells ⟨startLedger campaign, 0⟩ := by
  obtain ⟨hcustody, -⟩ := AttemptLedger.custody_init _ _ _ (init_campaign campaign)
  refine ⟨⟨rfl, rfl, hcustody⟩, campaign.distinct, ?_⟩
  intro cell _
  rfl

theorem run_ok_iff (env : Surroundings) (campaign : CampaignPlan) (fuel : Nat) (results : List CellResult)
    (ledger : AttemptLedger) : env.run fuel campaign = some (.ok (results, ledger)) ↔
      ∃ after, env.runCells fuel campaign.cells ⟨startLedger campaign, 0⟩ = some (.ok (results, after)) ∧
        after.ledger = ledger := by
  unfold Surroundings.run
  rw [init_campaign]
  dsimp only
  rcases env.runCells fuel campaign.cells ⟨startLedger campaign, 0⟩ with _ | (e | ⟨results', after⟩)
  · simp
  · simp
  · simp only [Option.some.injEq, Except.ok.injEq, Prod.mk.injEq]
    constructor
    · rintro ⟨rfl, rfl⟩
      exact ⟨after, ⟨rfl, rfl⟩, rfl⟩
    · rintro ⟨after', ⟨rfl, rfl⟩, rfl⟩
      exact ⟨rfl, rfl⟩

section
variable {env : Surroundings} {campaign : CampaignPlan} (hclock : Monotonic env.clock) (hcoded : env.Coded)
include hclock hcoded

theorem accounted_of_smooth (all : List CellResult) (final : AttemptLedger)
    (hrun : ∀ fuel, env.run (fuel + 2) campaign = some (.ok (all, final))) (codes : List Str)
    (cells : List CampaignCell) (state after : RunState) (results : List CellResult) (hready : Ready codes cells state)
    (hsmooth : env.Smooth codes cells state.ledger.records.length)
    (h : env.runCells 2 cells state = some (.ok (results, after))) (hall : ∀ result ∈ results, result ∈ all) :
    List.Forall₂ (CellAccounted env campaign after.ledger) cells results := by
  induction cells generalizing state results with
  | nil =>
    cases h
    exact List.Forall₂.nil
  | cons cell cells ih =>
    obtain ⟨result, middle, rest, hcell, hrest, rfl⟩ := (runCells_cons_ok _ _ _ _ _ _).mp h
    have hran := runCell_ran hclock hcoded hready.kept hready.fresh 0 result middle hcell
    obtain ⟨decision, hpre, hneeds⟩ := hsmooth
    have hnext := next_ordinal hready hran decision hpre
    have hfinal := recordsOf_first hclock hcoded 0 rest hready hran hrest
    refine List.Forall₂.cons ?_ (ih middle rest (hready.next hran) ?_ hrest fun r hr => hall r (by simp [hr]))
    · refine accounted_of_ran hran hready.fresh after.ledger hfinal ?_
      intro hcompleted first hfirst last hlast
      rw [hfinal] at hfirst hlast
      have hsame := single_of_fresh hran hready.fresh (fun decision' hpre' hadmits => by
        rw [hpre] at hpre'
        cases hpre'
        rw [if_pos hadmits] at hneeds
        exact hneeds.2.1) hcompleted first last hfirst hlast
      rw [hsame, without_same]
      exact ⟨all, final, hrun, result, hall result (by simp), (runCell_length env _ _ _ _ _ hcell).2, rfl⟩
    · rw [hnext]
      split at hneeds
      · rename_i hadmits
        rw [if_pos hadmits]
        exact hneeds.2.2
      · rename_i hdeclines
        rwa [if_neg hdeclines]

/-- A completed retry keeps the reason of the attempt that failed, and a run without that attempt does not. -/
theorem fresh_of_accounted (before cells : List CampaignCell) (cell : CampaignCell)
    (hcells : campaign.cells = before ++ cell :: cells) (first : List CellResult) (state middle after : RunState)
    (result : CellResult) (rest : List CellResult)
    (hbefore : env.runCells 2 before ⟨startLedger campaign, 0⟩ = some (.ok (first, state)))
    (hready : Ready campaign.retryableReasonCodes (cell :: cells) state)
    (hcell : env.runCell 2 cell state = some (.ok (result, middle)))
    (hrest : env.runCells 2 cells middle = some (.ok (rest, after)))
    (haccounted : CellAccounted env campaign after.ledger cell result) (decision : PreflightDecision)
    (hpre : env.preflight cell = .ok decision) (hadmits : decision.admits = true) :
    env.Fresh campaign.retryableReasonCodes state.ledger.records.length := by
  intro hrepeats observations diagnostics hreturned
  have hran := runCell_ran hclock hcoded hready.kept hready.fresh 0 result middle hcell
  have hfinal := recordsOf_first hclock hcoded 0 rest hready hran hrest
  have hlast : env.lastOrdinal campaign.retryableReasonCodes state.ledger.records.length =
      state.ledger.records.length + 1 := by
    unfold Surroundings.lastOrdinal
    rw [if_pos hrepeats]
  obtain ⟨decision', hpre', ⟨hdeclines, -⟩ | ⟨-, -, hmade, -, rfl⟩⟩ := hran.recordsOf hready.fresh
  · rw [hpre] at hpre'
    cases hpre'
    rw [hadmits] at hdeclines
    cases hdeclines
  obtain ⟨retryOf, reason, hlocals, -, hreason⟩ :=
    locals_eq env campaign.retryableReasonCodes state.ledger.records.length
  rw [hlast, hreturned] at hlocals
  have hcompleted : (attempted cell (env.locals campaign.retryableReasonCodes state.ledger.records.length)
      middle.ledger).executionStatus = lit "completed" := by
    rw [hlocals]
    rfl
  -- the two attempts of the cell in the ledger
  rw [← hfinal] at hmade
  unfold Surroundings.made at hmade
  rw [if_pos hrepeats] at hmade
  obtain ⟨one, others, hrecords, hone, hothers⟩ := List.map_eq_cons_iff.mp hmade
  obtain ⟨two, htail, htwo⟩ := List.map_eq_singleton_iff.mp hothers
  simp only [AttemptRecord.outline, Prod.mk.injEq] at hone htwo
  obtain ⟨results', ledger', hrun', result', hmem', hname', hsame'⟩ := haccounted.independent hcompleted one
    (by rw [hrecords]; rfl) two (by rw [hrecords, htail]; rfl)
  rw [hone.2.1, htwo.2.1] at hrun'
  -- the run without the first of them
  obtain ⟨after', hruns', -⟩ := (run_ok_iff _ _ _ _ _).mp (hrun' 0)
  rw [hcells] at hruns'
  obtain ⟨first', state', rest', hbefore', hback', rfl⟩ := (runCells_append_ok _ _ _ _ _ _).mp hruns'
  have hagree : (env.without state.ledger.records.length (state.ledger.records.length + 1)).runCells 2 before
      ⟨startLedger campaign, 0⟩ = some (.ok (first, state)) := by
    apply runCells_congr env _ 2 before ⟨startLedger campaign, 0⟩ state first _ hbefore
    intro k hk
    unfold withoutRetries
    rw [if_pos hk]
  rw [hagree] at hbefore'
  cases hbefore'
  obtain ⟨direct, middle', rest'', hcell', hrest'', rfl⟩ := (runCells_cons_ok _ _ _ _ _ _).mp hback'
  have hdirect : (env.without state.ledger.records.length (state.ledger.records.length + 1)).attempts
      state.ledger.records.length = .returned observations diagnostics := by
    simp [Surroundings.without, withoutRetries, hreturned]
  have hran' := runCell_ran (without_clock hclock _ _) (without_coded hcoded _ _) hready.kept hready.fresh 0 direct
    middle' hcell'
  have hnone : direct.reasonCode = none := by
    obtain ⟨decision', hpre', ⟨hdeclines, -⟩ | ⟨-, -, -, -, rfl⟩⟩ := hran'.recordsOf hready.fresh
    · have hpre' : env.preflight cell = .ok decision' := hpre'
      rw [hpre] at hpre'
      cases hpre'
      rw [hadmits] at hdeclines
      cases hdeclines
    · unfold attempted Surroundings.locals Surroundings.repeats
      rw [hdirect]
      rfl
  -- both are the result of the one cell
  have hnames := (runCells_length _ _ _ _ _ _ hruns').2
  have hdistinct : ((first ++ direct :: rest'').map (·.cellId)).Nodup := by
    rw [hnames, ← hcells]
    exact campaign.distinct
  have hdirectName := (runCell_length _ _ _ _ _ _ hcell').2
  have hresult : result' = direct :=
    List.inj_on_of_nodup_map hdistinct hmem' (by simp) (hname'.trans hdirectName.symm)
  have hreasons := congrArg CellResult.reasonCode hsame'
  rw [hresult] at hreasons
  have hsome : (env.attempts state.ledger.records.length).reasonCode = none := by
    have hkept : (attempted cell (env.locals campaign.retryableReasonCodes state.ledger.records.length)
        middle.ledger).reasonCode = reason := by
      rw [hlocals]
      rfl
    rw [← hreason hrepeats, ← hkept]
    exact hreasons.symm.trans hnone
  unfold Surroundings.repeats at hrepeats
  cases houtcome : env.attempts state.ledger.records.length with
  | returned observations diagnostics =>
    rw [houtcome] at hrepeats
    cases hrepeats
  | raised message =>
    rw [houtcome] at hrepeats
    cases hrepeats
  | retryable error =>
    rw [houtcome] at hsome
    cases hsome

theorem smooth_of_accounted (codes : List Str) (hcodes : codes = campaign.retryableReasonCodes)
    (before cells : List CampaignCell) (hcells : campaign.cells = before ++ cells) (first rest : List CellResult)
    (state after : RunState) (hready : Ready codes cells state)
    (hbefore : env.runCells 2 before ⟨startLedger campaign, 0⟩ = some (.ok (first, state)))
    (hrest : env.runCells 2 cells state = some (.ok (rest, after)))
    (haccounted : List.Forall₂ (CellAccounted env campaign after.ledger) cells rest) :
    env.Smooth codes cells state.ledger.records.length := by
  induction cells generalizing before first rest state with
  | nil => trivial
  | cons cell cells ih =>
    obtain ⟨result, middle, others, hcell, hback, rfl⟩ := (runCells_cons_ok _ _ _ _ _ _).mp hrest
    obtain ⟨hone, hothers⟩ := List.forall₂_cons.mp haccounted
    have hran := runCell_ran hclock hcoded hready.kept hready.fresh 0 result middle hcell
    obtain ⟨decision, hpre, hneeds⟩ := hran.runs
    have hnext := next_ordinal hready hran decision hpre
    have hmore : env.runCells 2 (before ++ [cell]) ⟨startLedger campaign, 0⟩ = some (.ok (first ++ [result], middle)) :=
      (runCells_append_ok _ _ _ _ _ _).mpr
        ⟨first, state, [result], hbefore, (runCells_cons_ok _ _ _ _ _ _).mpr ⟨result, middle, [], hcell, rfl, rfl⟩, rfl⟩
    have hsmooth := ih (before ++ [cell]) (by rw [hcells]; simp) (first ++ [result]) others middle (hready.next hran)
      hmore hback hothers
    rw [hnext] at hsmooth
    refine ⟨decision, hpre, ?_⟩
    split
    · rename_i hadmits
      rw [if_pos hadmits] at hsmooth
      subst hcodes
      exact ⟨hneeds hadmits, fresh_of_accounted hclock hcoded before cells cell hcells first state middle after result
        others hbefore hready hcell hback hone decision hpre hadmits, hsmooth⟩
    · rename_i hdeclines
      rwa [if_neg hdeclines] at hsmooth

theorem smooth_of_run (h : RunAccounted env campaign) :
    env.Smooth campaign.retryableReasonCodes campaign.cells 0 := by
  obtain ⟨results, ledger, hrun, haccounted⟩ := h
  obtain ⟨after, hcells, rfl⟩ := (run_ok_iff _ _ _ _ _).mp (hrun 0)
  exact smooth_of_accounted hclock hcoded _ rfl [] campaign.cells rfl [] results _ after (ready_start campaign) rfl hcells
    haccounted

end

/-- A run accounts for its cells exactly when every preflight decides, every attempt that is made can be written down,
and no cell is completed by a retry. -/
theorem run_accounted (env : Surroundings) (campaign : CampaignPlan) (hclock : Monotonic env.clock)
    (hcoded : env.Coded) :
    RunAccounted env campaign ↔ env.Smooth campaign.retryableReasonCodes campaign.cells 0 := by
  have hready := ready_start campaign
  constructor
  · exact smooth_of_run hclock hcoded
  · intro hsmooth
    obtain ⟨results, after, hcells⟩ := runCells_returns hclock hcoded hready hsmooth
    have hrun : ∀ fuel, env.run (fuel + 2) campaign = some (.ok (results, after.ledger)) := fun fuel =>
      (run_ok_iff _ _ _ _ _).mpr ⟨after, hcells fuel, rfl⟩
    exact ⟨results, after.ledger, hrun, accounted_of_smooth hclock hcoded results after.ledger hrun _ _ _ after results
      hready hsmooth (hcells 0) fun _ h => h⟩

/-! ## A campaign of one cell -/

def sampleCell : CampaignCell where
  ordinal := 0
  cellId := lit "chat.a.r0000.vllm"
  pairingKey := lit "chat.a.r0000"
  targetId := lit "vllm"
  scenarioId := lit "chat"
  caseId := lit "a"
  repetition := 0
  requiredCapabilities := []
  isolationPolicy := lit "no_reset"
  matrixId := lit "default"
  pairingId := lit "a"
  parameters := []
  identified := by decide +kernel

def samplePlan : CampaignPlan where
  campaignId := lit "campaign"
  cells := [sampleCell]
  targetOrders := [[lit "vllm"]]
  retryableReasonCodes := [lit "host_load_transient"]
  outlierPolicy := lit "no_deletion"
  distinct := by decide +kernel
  reasonsIdentified := by decide +kernel
  reasonsSorted := by decide +kernel

def sampleCapabilities : Json := .obj (mandatoryCommonCapabilities.map fun name => (name, .bool true))

def transientFailure : RetryableAttemptError where
  status := lit "environment_invalid"
  reasonCode := lit "host_load_transient"
  message := lit "load"
  registered := by decide

/-- The target has all that it must, and the attempts end as they are told. -/
def sampleSurroundings (attempts : Nat → AttemptOutcome) : Surroundings where
  targets := fun _ => [(lit "capabilities", sampleCapabilities)]
  capabilityProbe := fun _ => .ok sampleCapabilities
  attempts
  clock := fun reads => reads

theorem sampleClock (attempts : Nat → AttemptOutcome) : Monotonic (sampleSurroundings attempts).clock :=
  ⟨le_rfl, fun _ _ h => by simpa [sampleSurroundings] using h⟩

/-- The first attempt fails, and its retry completes the cell. -/
def sampleRetry (ordinal : Nat) : AttemptOutcome :=
  if ordinal = 0 then .retryable transientFailure else .returned [(lit "ttft_ns", .int 5)] []

theorem sampleRetry_coded : (sampleSurroundings sampleRetry).Coded := by
  intro n error h
  have h : sampleRetry n = .retryable error := h
  unfold sampleRetry at h
  split at h
  · cases h
    decide +kernel
  · cases h

theorem run_accounted_sample : RunAccounted (sampleSurroundings sampleRetry) samplePlan ↔
    (sampleSurroundings sampleRetry).Smooth [lit "host_load_transient"] [sampleCell] 0 :=
  run_accounted (sampleSurroundings sampleRetry) samplePlan (sampleClock sampleRetry) sampleRetry_coded

/-- The cell is completed by its retry, and its result still names the reason of the failure. -/
theorem run_unaccounted : ¬ RunAccounted (sampleSurroundings sampleRetry) samplePlan := by
  intro h
  obtain ⟨decision, hpre, hneeds⟩ := smooth_of_run (sampleClock sampleRetry) sampleRetry_coded h
  have hadmits : ∀ decision ∈ ((sampleSurroundings sampleRetry).preflight sampleCell).toOption, decision.admits = true := by
    decide +kernel
  rw [if_pos (hadmits decision (by rw [hpre]; rfl))] at hneeds
  exact hneeds.2.1 (by decide +kernel) _ _ rfl

end TurnVector.CrossEngine
