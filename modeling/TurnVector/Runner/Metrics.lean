import TurnVector.Fair.Streaks
import TurnVector.Runner.Repetition

/-! # What the metrics of a repetition say

The metrics are read off the trace: each turn is counted once, each selection once, and the runs are those of the trace.
-/

namespace TurnVector.Runner

open Python Json Lanes Fair
open LaneController (Raised contractError)

/-! ## What the trace says -/

namespace TraceRecord

/-- The models that the oracle chose from. -/
def runnable (record : TraceRecord) : Finset Str := SchedulerOracle.currentOf record.candidates

/-- The model that the oracle chose. -/
def selected (record : TraceRecord) : Option Str :=
  (record.candidates.find? fun c => some c.candidateId = record.expectedCandidateId).map (·.modelId)

def waits (model : Str) (record : TraceRecord) : Bool := model ∈ record.runnable && some model ≠ record.selected

end TraceRecord

/-- The selections that are not empty, in order. -/
def selections (records : List TraceRecord) : List Str := records.filterMap (·.selected)

theorem selections_snoc (records : List TraceRecord) (record : TraceRecord) :
    selections (records ++ [record]) = selections records ++ record.selected.toList := by
  unfold selections
  rw [List.filterMap_append]
  cases h : record.selected <;> simp [h]

/-! ## Dicts with one entry for each key -/

theorem find_only {α : Type} {p : α → Bool} {xs : List α} {x : α} (hx : x ∈ xs) (hp : p x = true)
    (honly : ∀ y ∈ xs, p y = true → y = x) : xs.find? p = some x := by
  cases h : xs.find? p with
  | none => exact absurd hp (List.find?_eq_none.mp h x hx)
  | some y => rw [honly y (List.mem_of_find?_eq_some h) (List.find?_some h)]

/-- A dict that a loop filled from items with distinct keys. -/
theorem lookup_filled {α β : Type} {xs : List β} (key : β → Str) (value : β → α) (hdistinct : (xs.map key).Nodup)
    {x : β} (hx : x ∈ xs) :
    (xs.foldl (fun d x => d.insert (key x) (value x)) (∅ : Dict α)).lookup (key x) = some (value x) := by
  have hfind : xs.reverse.find? (fun y => key y = key x) = some x := by
    apply find_only (List.mem_reverse.mpr hx) (by simp)
    intro y hy heq
    exact List.inj_on_of_nodup_map hdistinct (List.mem_reverse.mp hy) hx (by simpa using heq)
  rw [foldl_insert_lookup, hfind]
  rfl

theorem lookup_mem {α : Type} {members : List (Str × α)} (hdistinct : (members.map Prod.fst).Nodup) {key : Str} {a : α}
    (h : (key, a) ∈ members) : members.lookup key = some a := by
  induction members with
  | nil => cases h
  | cons member members ih =>
    obtain ⟨hnew, hrest⟩ := List.nodup_cons.mp hdistinct
    rw [List.lookup_cons]
    rcases List.mem_cons.mp h with rfl | h
    · simp
    · have hne : (key == member.1) = false := beq_false_of_ne fun heq => hnew (heq ▸ List.mem_map_of_mem h)
      rw [hne]
      exact ih hrest h

theorem init_lookup (scenario : Scenario) (model : ModelConfig) (h : model ∈ scenario.models) :
    (SchedulerOracle.init scenario.models).weights.lookup model.modelId = some model.weight :=
  lookup_filled (·.modelId) (·.weight) scenario.distinct h

/-! ## What a turn does -/

variable {fraction : Str → Option ℚ} {sha256 : Str → Str} {scenario : SuiteScenario} {repetition : Nat} {driver : Driver}
  {state after : State} {turn : Turn}

/-- What a turn with this record does to the local variables. -/
inductive Turned (scenario : Scenario) (state : State) (record : TraceRecord) (after : State) : Prop where
  | noPlan
      (selected : record.selected = none)
      (clock : after.oracle.clock = state.oracle.clock.resync record.runnable)
      (tallies : after.tallies = waitAll state.tallies record.runnable none)
      (streak : after.lastModel = state.lastModel ∧ after.consecutive = state.consecutive)
      (counts : after.urgentSelections + after.normalSelections = state.urgentSelections + state.normalSelections ∧
        after.noPlanCount = state.noPlanCount + 1)
  | selection (model : ModelConfig) (actual : Nat)
      (selected : record.selected = some model.modelId)
      (known : model ∈ scenario.models)
      (clock : after.oracle.clock =
        (state.oracle.clock.resync record.runnable).charge model.modelId (actual / model.weight))
      (tallies : charge (waitAll state.tallies record.runnable (some model.modelId)) model.modelId actual
        after.consecutive = .ok after.tallies)
      (last : after.lastModel = some model.modelId)
      (consecutive : after.consecutive = if state.lastModel = some model.modelId then state.consecutive + 1 else 1)
      (counts : after.urgentSelections + after.normalSelections =
          state.urgentSelections + state.normalSelections + 1 ∧
        after.noPlanCount = state.noPlanCount)

theorem scheduleTurn_eq {oracle : SchedulerOracle} (hidle : Idle scenario.toScenario oracle) (turn : Turn) (nowUs : Int)
    {scheduled : Scheduled} (h : scheduleTurn turn nowUs oracle = .ok scheduled) :
    let candidates := turn.segment.candidates.map (·.atTime nowUs)
    scheduled.expected = ((oracle.synced (SchedulerOracle.currentOf candidates)).choice nowUs candidates).1 ∧
      scheduled.oracle = oracle.scheduled nowUs candidates := by
  intro candidates
  obtain ⟨runnable, -, hcall⟩ := SchedulerOracle.schedule_call oracle hidle.sound nowUs candidates hidle.pending
  unfold scheduleTurn at h
  rw [callOracle_ok hcall] at h
  cases h
  exact ⟨rfl, rfl⟩

theorem readPlan_ok {sequence : Nat} {nowUs : Int} {scheduled : Scheduled} {response : Mapping Json}
    {record : TraceRecord}
    (h : readPlan fraction scenario repetition turn sequence nowUs scheduled response = .ok record) :
    record.candidates = turn.segment.candidates.map (·.atTime nowUs) ∧
      record.expectedCandidateId = scheduled.expected.map (·.candidateId) := by
  unfold readPlan at h
  obtain ⟨fields, -, h⟩ := bind_ok_iff.mp h
  obtain ⟨_, -, h⟩ := bind_ok_iff.mp h
  obtain ⟨observedId, -, h⟩ := bind_ok_iff.mp h
  obtain ⟨expected, -, h⟩ := bind_ok_iff.mp h
  obtain ⟨observed, -, h⟩ := bind_ok_iff.mp h
  dsimp only at h
  split at h
  · cases h
  · split at h
    · cases h
    · cases h
      exact ⟨rfl, rfl⟩

/-- The oracle's choice is found in the record by its id. -/
theorem selected_eq {nowUs : Int} {scheduled : Scheduled} {record : TraceRecord}
    (hcandidates : record.candidates = turn.segment.candidates.map (·.atTime nowUs))
    (hexpected : record.expectedCandidateId = scheduled.expected.map (·.candidateId))
    (hmem : ∀ c, scheduled.expected = some c → c ∈ record.candidates) :
    record.selected = scheduled.expected.map (·.modelId) := by
  unfold TraceRecord.selected
  cases hselected : scheduled.expected with
  | none => simp [hexpected, hselected]
  | some c =>
    have hdistinct : (record.candidates.map (·.candidateId)).Nodup := by
      rw [hcandidates, List.map_map]
      exact turn.segment.distinctCandidates
    have hc : c ∈ record.candidates := hmem c hselected
    have hfind : record.candidates.find? (fun d => some d.candidateId = record.expectedCandidateId) = some c := by
      apply find_only hc (by simp [hexpected, hselected])
      intro d hd heq
      apply List.inj_on_of_nodup_map hdistinct hd hc
      simpa [hexpected, hselected] using heq
    rw [hfind, Option.map_some]

/-- The oracle accepts the receipt of its own choice. -/
theorem acceptReceipt_cases {oracle next : SchedulerOracle} {candidate : Candidate} {model : ModelConfig} {actual : Nat}
    {ledgers : Dict ℚ} (hsound : oracle.Sound) (hpending : oracle.pending = some candidate)
    (hmodel : model.modelId = candidate.modelId) (hweight : oracle.weights.lookup model.modelId = some model.weight)
    (h : callOracle (SchedulerOracle.acceptReceipt candidate.candidateId candidate.modelId actual) oracle =
      .ok (ledgers, next)) :
    next = oracle.charged model.modelId (actual / model.weight) := by
  have hcall := SchedulerOracle.acceptReceipt_due oracle hsound candidate.candidateId candidate.modelId actual
    model.weight ⟨candidate, hpending, rfl, rfl, hmodel ▸ hweight⟩
  rw [callOracle_ok hcall] at h
  cases h
  rw [hmodel]
  rfl

theorem runTurn_cases (hidle : Idle scenario.toScenario state.oracle) (hturn : turn.segment ∈ scenario.segments)
    (h : runTurn fraction scenario repetition driver state turn = .ok after) :
    ∃ record, after.records = state.records ++ [record] ∧ after.sequence = state.sequence + 1 ∧
      Idle scenario.toScenario after.oracle ∧ after.oracle.runnable = record.runnable ∧
      Turned scenario.toScenario state record after := by
  unfold runTurn at h
  obtain ⟨scheduled, hscheduled, h⟩ := bind_ok_iff.mp h
  obtain ⟨response, -, h⟩ := bind_ok_iff.mp h
  obtain ⟨record, hrecord, h⟩ := bind_ok_iff.mp h
  obtain ⟨hexpected, horacle⟩ := scheduleTurn_eq hidle turn state.nowUs hscheduled
  obtain ⟨hcandidates, hid⟩ := readPlan_ok hrecord
  have hchosen : ∀ c, scheduled.expected = some c → c ∈ record.candidates.filter (·.eligible) := by
    intro c hc
    rw [hcandidates]
    exact SchedulerOracle.choice_mem _ state.nowUs _ c (hexpected ▸ hc)
  have hselected : record.selected = scheduled.expected.map (·.modelId) :=
    selected_eq hcandidates hid fun c hc => List.mem_of_mem_filter (hchosen c hc)
  have hclock : scheduled.oracle.clock = state.oracle.clock.resync record.runnable := by
    rw [horacle, SchedulerOracle.scheduled_clock, TraceRecord.runnable, hcandidates]
  have hsound : scheduled.oracle.Sound := horacle ▸ SchedulerOracle.scheduled_sound _ hidle.sound _ _
  have hpending : scheduled.oracle.pending = scheduled.expected := by
    rw [horacle, hexpected]
    rfl
  have hweights : scheduled.oracle.weights = (SchedulerOracle.init scenario.models).weights := by
    rw [horacle]
    exact hidle.weights
  have hrunnable : scheduled.oracle.runnable = record.runnable := congrArg Clock.runnable hclock
  cases hexpected' : scheduled.expected with
  | none =>
    rw [hexpected'] at hpending hselected h
    obtain ⟨⟨_, oracle⟩, hclear, h⟩ := bind_ok_iff.mp h
    rw [callOracle_ok (clearNoPlan_call hpending)] at hclear
    cases hclear
    cases h
    refine ⟨record, rfl, rfl, ⟨hsound, hpending, hweights⟩, hrunnable, ?_⟩
    exact .noPlan hselected hclock rfl ⟨rfl, rfl⟩ ⟨rfl, rfl⟩
  | some candidate =>
    rw [hexpected'] at hpending hselected h
    dsimp only at h
    unfold runSelection at h
    obtain ⟨actual, -, h⟩ := bind_ok_iff.mp h
    obtain ⟨tallies, htallies, h⟩ := bind_ok_iff.mp h
    obtain ⟨⟨ledgers, oracle⟩, haccept, h⟩ := bind_ok_iff.mp h
    obtain ⟨expected, -, h⟩ := bind_ok_iff.mp h
    obtain ⟨response', -, h⟩ := bind_ok_iff.mp h
    obtain ⟨receipt, -, h⟩ := bind_ok_iff.mp h
    cases h
    obtain ⟨model, hknown, hmodel⟩ : ∃ model ∈ scenario.models, model.modelId = candidate.modelId := by
      have hmem := List.mem_of_mem_filter (hchosen candidate hexpected')
      rw [hcandidates] at hmem
      obtain ⟨template, htemplate, rfl⟩ := List.mem_map.mp hmem
      exact List.mem_map.mp (scenario.known _ hturn template htemplate)
    have hcharged := acceptReceipt_cases hsound hpending hmodel
      (by rw [hweights]; exact init_lookup scenario.toScenario model hknown) haccept
    subst hcharged
    refine ⟨{ record with receipt := some receipt }, rfl, rfl, ⟨?_, rfl, hweights⟩, hrunnable, ?_⟩
    · exact SchedulerOracle.charged_sound _ hsound _ _
    · refine .selection model actual (hmodel ▸ hselected) hknown ?_ ?_ (hmodel ▸ rfl) (hmodel ▸ rfl) ⟨?_, rfl⟩
      · rw [SchedulerOracle.charged_clock, hclock]
        rfl
      · rw [hmodel]
        exact htallies
      · dsimp only
        split <;> omega

/-! ## The counters -/

@[simp] theorem waited_selectionCount (tally : Tally) (waits : Bool) :
    (tally.waited waits).selectionCount = tally.selectionCount := by
  cases waits <;> rfl

@[simp] theorem waited_engineServiceUs (tally : Tally) (waits : Bool) :
    (tally.waited waits).engineServiceUs = tally.engineServiceUs := by
  cases waits <;> rfl

@[simp] theorem waited_maxConsecutive (tally : Tally) (waits : Bool) :
    (tally.waited waits).maxConsecutive = tally.maxConsecutive := by
  cases waits <;> rfl

theorem names_waitAll (tallies : List (Str × Tally)) (eligible : Finset Str) (selected : Option Str) :
    (waitAll tallies eligible selected).map Prod.fst = tallies.map Prod.fst := by
  unfold waitAll
  rw [List.map_map]
  rfl

theorem charge_ok {tallies tallies' : List (Str × Tally)} {modelId : Str} {actual consecutive : Nat}
    (h : charge tallies modelId actual consecutive = .ok tallies') :
    modelId ∈ tallies.map Prod.fst ∧ tallies' = tallies.map fun entry =>
      (entry.1, if entry.1 = modelId then entry.2.charged actual consecutive else entry.2) := by
  unfold charge at h
  split at h
  · rename_i hmem
    cases h
    exact ⟨(occurs_iff _ _).mp hmem, rfl⟩
  · cases h

theorem sum_selected (tallies : List (Str × Tally)) (modelId : Str) (actual consecutive : Nat)
    (hdistinct : (tallies.map Prod.fst).Nodup) (hmem : modelId ∈ tallies.map Prod.fst) :
    (tallies.map fun entry =>
        (if entry.1 = modelId then entry.2.charged actual consecutive else entry.2).selectionCount).sum =
      (tallies.map fun entry => entry.2.selectionCount).sum + 1 := by
  induction tallies with
  | nil => cases hmem
  | cons entry tallies ih =>
    rw [List.map_cons, List.nodup_cons] at hdistinct
    obtain ⟨hnew, hrest⟩ := hdistinct
    simp only [List.map_cons, List.sum_cons]
    by_cases heq : entry.1 = modelId
    · have hothers : tallies.map (fun entry =>
          (if entry.1 = modelId then entry.2.charged actual consecutive else entry.2).selectionCount) =
          tallies.map fun entry => entry.2.selectionCount := by
        apply List.map_congr_left
        intro other hother
        have hne : other.1 ≠ modelId := fun h => hnew (heq.trans h.symm ▸ List.mem_map_of_mem hother)
        rw [if_neg hne]
      have hcharged : (entry.2.charged actual consecutive).selectionCount = entry.2.selectionCount + 1 := rfl
      rw [hothers, if_pos heq, hcharged]
      omega
    · have hmem' : modelId ∈ tallies.map Prod.fst := by
        rcases List.mem_cons.mp hmem with h | h
        · exact absurd h.symm heq
        · exact h
      rw [if_neg heq, ih hrest hmem']
      omega

/-- What the counters of a model say of the trace. -/
structure Tally.Tells (tally : Tally) (model : Str) (records : List TraceRecord) : Prop where
  wait : tally.currentWait = lastRun (TraceRecord.waits model) records
  maxWait : IsGreatest (runLengths (TraceRecord.waits model) records) tally.maxWait
  maxConsecutive : IsGreatest (runLengths (fun selection => selection = model) (selections records))
    tally.maxConsecutive

section Tells

variable {tally : Tally} {model : Str} {records : List TraceRecord} (record : TraceRecord)

theorem Tally.tells_nil : (⟨0, 0, 0, 0, 0⟩ : Tally).Tells model [] :=
  ⟨rfl, longest_nil _, longest_nil _⟩

theorem Tally.tells_waited (h : tally.Tells model records) :
    (tally.waited (record.waits model)).currentWait = lastRun (TraceRecord.waits model) (records ++ [record]) ∧
      IsGreatest (runLengths (TraceRecord.waits model) (records ++ [record]))
        (tally.waited (record.waits model)).maxWait := by
  have hlongest := longest_snoc (TraceRecord.waits model) records record tally.maxWait h.maxWait
  have hlast := lastRun_snoc (TraceRecord.waits model) records record
  cases hwaits : record.waits model with
  | true =>
    rw [hwaits, if_pos rfl, ← h.wait] at hlast
    rw [hlast] at hlongest ⊢
    exact ⟨rfl, hlongest⟩
  | false =>
    rw [hwaits, if_neg Bool.false_ne_true] at hlast
    rw [hlast, max_eq_left (Nat.zero_le _)] at hlongest
    exact ⟨hlast.symm, hlongest⟩

end Tells

/-! ## What a run keeps -/

/-- What holds of the local variables after every turn. -/
structure Kept (scenario : Scenario) (state : State) : Prop where
  idle : Idle scenario state.oracle
  fresh : state.records = [] → state.oracle = SchedulerOracle.init scenario.models
  present : ∀ record, state.records.getLast? = some record → state.oracle.runnable = record.runnable
  turns : state.sequence = state.records.length
  classes : state.sequence = state.urgentSelections + state.normalSelections + state.noPlanCount
  names : state.tallies.map Prod.fst = scenario.modelIds
  selected : (state.tallies.map fun entry => entry.2.selectionCount).sum = state.urgentSelections + state.normalSelections
  streak : ∀ model, lastRun (fun selection => selection = model) (selections state.records) =
    if state.lastModel = some model then state.consecutive else 0
  tells : ∀ entry ∈ state.tallies, entry.2.Tells entry.1 state.records
  served : ∀ entry ∈ state.tallies, ∀ model ∈ scenario.models, model.modelId = entry.1 →
    (∀ record ∈ state.records, entry.1 ∈ record.runnable) →
      state.oracle.ledger entry.1 = entry.2.engineServiceUs / model.weight

theorem init_ledger (models : List ModelConfig) (model : Str) : (SchedulerOracle.init models).ledger model = 0 := by
  unfold SchedulerOracle.ledger SchedulerOracle.init
  dsimp only
  rw [foldl_insert_lookup]
  cases models.reverse.find? fun m => m.modelId = model <;> rfl

theorem Kept.start (scenario : Scenario) (sent : List Json) : Kept scenario (State.start scenario sent) where
  idle := ⟨SchedulerOracle.init_sound _, rfl, rfl⟩
  fresh _ := rfl
  present record h := by cases h
  turns := rfl
  classes := rfl
  names := by
    simp only [State.start, List.map_map]
    rfl
  selected := by simp [State.start, Function.comp_def]
  streak model := rfl
  tells entry h := by
    obtain ⟨model, -, rfl⟩ := List.mem_map.mp h
    exact Tally.tells_nil
  served entry h model hmodel hname _ := by
    obtain ⟨model', -, rfl⟩ := List.mem_map.mp h
    simp [State.start, init_ledger]

/-- A model that was always runnable is never aligned to another ledger. -/
theorem resync_ledger {scenario : Scenario} (hkept : Kept scenario state) (record : TraceRecord) {model : Str}
    (halways : ∀ r ∈ state.records ++ [record], model ∈ r.runnable) :
    (state.oracle.clock.resync record.runnable).ledger model = state.oracle.ledger model := by
  cases hrecords : state.records.getLast? with
  | some last =>
    have hlast : last ∈ state.records := List.mem_of_getLast? hrecords
    have hmem : model ∈ state.oracle.clock.runnable := by
      rw [SchedulerOracle.clock_runnable, hkept.present last hrecords]
      exact halways last (List.mem_append_left _ hlast)
    exact Clock.aligned_old _ _ _ hmem
  | none =>
    have hnil : state.records = [] := List.getLast?_eq_none_iff.mp hrecords
    have hcurrent : model ∈ record.runnable := halways record (by simp)
    have hunrunnable : model ∉ (SchedulerOracle.init scenario.models).clock.runnable := Finset.notMem_empty _
    rw [hkept.fresh hnil, init_ledger]
    refine (Clock.aligned_new _ _ _ hcurrent hunrunnable).trans ?_
    exact Clock.least_empty _ _ _ (by simp [SchedulerOracle.init])

section Step

variable {scenario : Scenario} {record : TraceRecord}

theorem turned_names (hturned : Turned scenario state record after) :
    after.tallies.map Prod.fst = state.tallies.map Prod.fst := by
  cases hturned with
  | noPlan selected clock tallies streak counts => rw [tallies, names_waitAll]
  | selection model actual selected known clock tallies last consecutive counts =>
    obtain ⟨-, htallies⟩ := charge_ok tallies
    rw [htallies, List.map_map, ← names_waitAll state.tallies record.runnable (some model.modelId)]
    rfl

theorem turned_selected (hkept : Kept scenario state) (hturned : Turned scenario state record after) :
    (after.tallies.map fun entry => entry.2.selectionCount).sum = after.urgentSelections + after.normalSelections := by
  have hwaited : ∀ selected, ((waitAll state.tallies record.runnable selected).map fun entry =>
      entry.2.selectionCount).sum = state.urgentSelections + state.normalSelections := by
    intro selected
    rw [← hkept.selected]
    simp only [waitAll, List.map_map, Function.comp_def, waited_selectionCount]
  cases hturned with
  | noPlan selected clock tallies streak counts => rw [tallies, hwaited, counts.1]
  | selection model actual selected known clock tallies last consecutive counts =>
    obtain ⟨hmem, htallies⟩ := charge_ok tallies
    have hdistinct : ((waitAll state.tallies record.runnable (some model.modelId)).map Prod.fst).Nodup := by
      rw [names_waitAll, hkept.names]
      exact scenario.distinct
    have hsum := sum_selected _ model.modelId actual after.consecutive hdistinct hmem
    rw [htallies, List.map_map, counts.1, ← hwaited (some model.modelId), ← hsum]
    rfl

theorem turned_streak (hkept : Kept scenario state) (hturned : Turned scenario state record after) (model : Str) :
    lastRun (fun selection => selection = model) (selections (state.records ++ [record])) =
      if after.lastModel = some model then after.consecutive else 0 := by
  rw [selections_snoc]
  cases hturned with
  | noPlan selected clock tallies streak counts =>
    rw [selected, Option.toList_none, List.append_nil, hkept.streak, streak.1, streak.2]
  | selection chosen actual selected known clock tallies last consecutive counts =>
    rw [selected, Option.toList_some, lastRun_snoc, hkept.streak, last, consecutive]
    by_cases hmodel : chosen.modelId = model
    · subst hmodel
      by_cases hlast : state.lastModel = some chosen.modelId <;> simp [hlast]
    · simp [hmodel]

theorem turned_tells (hkept : Kept scenario state) (hturned : Turned scenario state record after) (entry : Str × Tally)
    (hentry : entry ∈ after.tallies) : entry.2.Tells entry.1 (state.records ++ [record]) := by
  have hstreak := turned_streak hkept hturned entry.1
  cases hturned with
  | noPlan selected clock tallies streak counts =>
    rw [tallies, waitAll, ← selected] at hentry
    obtain ⟨before, hbefore, rfl⟩ := List.mem_map.mp hentry
    have htells := hkept.tells before hbefore
    obtain ⟨hwait, hmaxWait⟩ := Tally.tells_waited record htells
    refine ⟨hwait, hmaxWait, ?_⟩
    rw [selections_snoc, selected, Option.toList_none, List.append_nil, waited_maxConsecutive]
    exact htells.maxConsecutive
  | selection model actual selected known clock tallies last consecutive counts =>
    obtain ⟨-, htallies⟩ := charge_ok tallies
    rw [htallies, waitAll, List.map_map, ← selected] at hentry
    obtain ⟨before, hbefore, rfl⟩ := List.mem_map.mp hentry
    have htells := hkept.tells before hbefore
    obtain ⟨hwait, hmaxWait⟩ := Tally.tells_waited record htells
    have hlongest := longest_snoc (fun selection => selection = before.1) (selections state.records) model.modelId
      before.2.maxConsecutive htells.maxConsecutive
    rw [selections_snoc, selected, Option.toList_some] at hstreak
    dsimp only [Function.comp_apply] at hstreak ⊢
    rw [hstreak, last] at hlongest
    by_cases hmodel : model.modelId = before.1
    · rw [if_pos hmodel.symm]
      rw [if_pos (congrArg some hmodel)] at hlongest
      refine ⟨hwait, hmaxWait, ?_⟩
      rw [selections_snoc, selected, Option.toList_some]
      simpa [Tally.charged] using hlongest
    · rw [if_neg fun h => hmodel h.symm]
      rw [if_neg (by simpa using hmodel), max_eq_left (Nat.zero_le _)] at hlongest
      refine ⟨hwait, hmaxWait, ?_⟩
      rw [selections_snoc, selected, Option.toList_some, waited_maxConsecutive]
      exact hlongest

theorem turned_served (hkept : Kept scenario state) (hturned : Turned scenario state record after) (entry : Str × Tally)
    (hentry : entry ∈ after.tallies) (model : ModelConfig) (hmodel : model ∈ scenario.models)
    (hname : model.modelId = entry.1) (halways : ∀ r ∈ state.records ++ [record], entry.1 ∈ r.runnable) :
    after.oracle.ledger entry.1 = entry.2.engineServiceUs / model.weight := by
  have hledger := resync_ledger hkept record halways
  have hserved : ∀ before ∈ state.tallies, before.1 = entry.1 →
      state.oracle.ledger entry.1 = before.2.engineServiceUs / model.weight := by
    intro before hbefore hsame
    rw [← hsame]
    refine hkept.served before hbefore model hmodel (hname.trans hsame.symm) ?_
    intro r hr
    rw [hsame]
    exact halways r (List.mem_append_left _ hr)
  have hafter : after.oracle.ledger entry.1 = after.oracle.clock.ledger entry.1 := rfl
  cases hturned with
  | noPlan selected clock tallies streak counts =>
    rw [tallies, waitAll] at hentry
    obtain ⟨before, hbefore, rfl⟩ := List.mem_map.mp hentry
    rw [hafter, clock, hledger, waited_engineServiceUs]
    exact hserved before hbefore rfl
  | selection chosen actual selected known clock tallies last consecutive counts =>
    obtain ⟨-, htallies⟩ := charge_ok tallies
    rw [htallies, waitAll, List.map_map] at hentry
    obtain ⟨before, hbefore, rfl⟩ := List.mem_map.mp hentry
    have hbase : state.oracle.ledger before.1 = before.2.engineServiceUs / model.weight := hserved before hbefore rfl
    rw [hafter, clock]
    dsimp only [Function.comp_apply, Clock.charge] at hledger hname ⊢
    by_cases hchosen : before.1 = chosen.modelId
    · have hsame : chosen = model := List.inj_on_of_nodup_map scenario.distinct known hmodel (hchosen.symm.trans hname.symm)
      subst hsame
      rw [if_pos hchosen, ← hchosen, Function.update_self, hledger, hbase, ← add_div]
      simp [Tally.charged]
    · rw [if_neg hchosen, Function.update_of_ne hchosen, hledger, waited_engineServiceUs]
      exact hbase

theorem kept_turned (hkept : Kept scenario state) (hrecords : after.records = state.records ++ [record])
    (hsequence : after.sequence = state.sequence + 1) (hidle : Idle scenario after.oracle)
    (hrunnable : after.oracle.runnable = record.runnable) (hturned : Turned scenario state record after) :
    Kept scenario after where
  idle := hidle
  fresh h := by simp [hrecords] at h
  present last h := by
    rw [hrecords, List.getLast?_concat, Option.some.injEq] at h
    rw [hrunnable, h]
  turns := by rw [hsequence, hrecords, hkept.turns, List.length_append, List.length_singleton]
  classes := by
    have hclasses := hkept.classes
    cases hturned with
    | noPlan selected clock tallies streak counts => omega
    | selection model actual selected known clock tallies last consecutive counts => omega
  names := (turned_names hturned).trans hkept.names
  selected := turned_selected hkept hturned
  streak model := by
    rw [hrecords]
    exact turned_streak hkept hturned model
  tells entry hentry := by
    rw [hrecords]
    exact turned_tells hkept hturned entry hentry
  served entry hentry model hmodel hname halways := by
    rw [hrecords] at halways
    exact turned_served hkept hturned entry hentry model hmodel hname halways

end Step

/-- A run of turns keeps the invariant, and writes one record for each. -/
theorem runTurns_kept {turns : List Turn} (hturns : ∀ turn ∈ turns, turn.segment ∈ scenario.segments)
    (hkept : Kept scenario.toScenario state)
    (h : turns.foldlM (runTurn fraction scenario repetition driver) state = .ok after) :
    Kept scenario.toScenario after ∧ after.records.length = state.records.length + turns.length := by
  induction turns generalizing state with
  | nil =>
    cases h
    exact ⟨hkept, rfl⟩
  | cons turn turns ih =>
    rw [List.foldlM_cons] at h
    obtain ⟨next, hturn, h⟩ := bind_ok_iff.mp h
    obtain ⟨record, hrecords, hsequence, hidle, hrunnable, hturned⟩ :=
      runTurn_cases hkept.idle (hturns turn (by simp)) hturn
    have hnext := kept_turned hkept hrecords hsequence hidle hrunnable hturned
    obtain ⟨hafter, hlength⟩ := ih (fun t ht => hturns t (by simp [ht])) hnext h
    refine ⟨hafter, ?_⟩
    rw [hlength, hrecords, List.length_append, List.length_singleton, List.length_cons]
    omega

theorem runDriver_kept (h : runDriver fraction scenario repetition driver = .ok state) :
    Kept scenario.toScenario state ∧ state.records.length = scenario.totalTurns := by
  unfold runDriver at h
  obtain ⟨_, -, h⟩ := bind_ok_iff.mp h
  obtain ⟨_, -, h⟩ := bind_ok_iff.mp h
  obtain ⟨sent, -, h⟩ := bind_ok_iff.mp h
  obtain ⟨last, hturns, h⟩ := bind_ok_iff.mp h
  obtain ⟨_, -, h⟩ := bind_ok_iff.mp h
  cases h
  have hsegments : ∀ turn ∈ scenario.turns, turn.segment ∈ scenario.segments := by
    intro turn hturn
    obtain ⟨segment, hsegment, hturn⟩ := List.mem_flatMap.mp hturn
    obtain ⟨i, -, rfl⟩ := List.mem_map.mp hturn
    exact List.fst_mem_of_mem_zipIdx hsegment
  obtain ⟨hkept, hlength⟩ := runTurns_kept hsegments (Kept.start scenario.toScenario sent) hturns
  rw [Scenario.turns_length] at hlength
  exact ⟨hkept, by simpa [State.start] using hlength⟩

/-! ## Shares -/

theorem fractionTexts_lookup {values : Dict ℚ} {texts : List (Str × Str)} (h : fractionTexts values = .ok texts)
    (key : Str) (q : ℚ) (hkey : values.lookup key = some q) : texts.lookup key = some (fractionText q) := by
  have hmap : fractionMap values =
      .ok ((sorted values.keys).map fun k => (k, fractionText ((values.lookup k).getD 0))) := by
    apply mapM_ok
    intro k hk
    obtain ⟨v, hv⟩ := Finmap.mem_iff.mp (Finmap.mem_keys.mp ((mem_sorted _ _).mp hk))
    rw [getItem_of_lookup values k v hv, hv]
    rfl
  unfold fractionTexts at h
  rw [hmap] at h
  cases h
  apply lookup_mem
  · rw [List.map_map]
    exact (List.map_id _).symm ▸ Finset.sort_nodup _ _
  · refine List.mem_map.mpr ⟨key, (mem_sorted _ _).mpr ?_, by rw [hkey]; rfl⟩
    exact Finmap.mem_keys.mpr (Finmap.mem_iff.mpr ⟨q, hkey⟩)

theorem zeroText : lit "0/1" = fractionText 0 := by decide +kernel

theorem sum_shares (services : List (Str × Nat)) (total : ℚ) :
    (services.map fun entry => (entry.2 : ℚ) / total).sum = (services.map Prod.snd).sum / total := by
  induction services with
  | nil => simp
  | cons entry services ih =>
    rw [List.map_cons, List.sum_cons, ih, List.map_cons, List.sum_cons, Nat.cast_add, add_div]

/-- The shares that the metrics hold are those of the services, and they are all of it or nothing. -/
theorem shares_of (services : List (Str × Nat)) :
    ∃ shares : List (Str × ℚ),
      (sortByKey services).map (fun entry => (entry.1, shareText (services.map Prod.snd).sum entry.2)) =
        ledgerTexts shares ∧
      (∀ entry ∈ shares, 0 ≤ entry.2 ∧ entry.2 ≤ 1) ∧
      ((∃ entry ∈ services, entry.2 ≠ 0) → (shares.map Prod.snd).sum = 1) ∧
      ((∀ entry ∈ services, entry.2 = 0) → ∀ entry ∈ shares, entry.2 = 0) := by
  have hperm := sortByKey_perm services
  have hle : ∀ entry ∈ sortByKey services, entry.2 ≤ (services.map Prod.snd).sum := fun entry hentry =>
    List.single_le_sum (fun _ _ => Nat.zero_le _) _ (List.mem_map_of_mem (hperm.mem_iff.mp hentry))
  refine ⟨(sortByKey services).map fun entry => (entry.1, (entry.2 : ℚ) / (services.map Prod.snd).sum), ?_, ?_, ?_, ?_⟩
  · unfold ledgerTexts
    rw [List.map_map]
    apply List.map_congr_left
    intro entry _
    unfold shareText
    split
    · rfl
    · rename_i htotal
      rw [not_not] at htotal
      rw [Function.comp_apply, htotal, Nat.cast_zero, div_zero, zeroText]
  · intro entry hentry
    obtain ⟨service, hservice, rfl⟩ := List.mem_map.mp hentry
    exact ⟨by positivity, div_le_one_of_le₀ (by exact_mod_cast hle service hservice) (by positivity)⟩
  · rintro ⟨entry, hentry, hservice⟩
    have htotal : ((services.map Prod.snd).sum : ℚ) ≠ 0 := by
      have := hle entry (hperm.mem_iff.mpr hentry)
      exact_mod_cast (by omega : (services.map Prod.snd).sum ≠ 0)
    rw [List.map_map, Function.comp_def, sum_shares, (hperm.map Prod.snd).sum_eq, div_self htotal]
  · intro hzero entry hentry
    obtain ⟨service, hservice, rfl⟩ := List.mem_map.mp hentry
    rw [hzero service (hperm.mem_iff.mp hservice), Nat.cast_zero, zero_div]

/-! ## The metrics -/

section Column

variable {scenario : Scenario}

theorem tally_of (hkept : Kept scenario state) (model : ModelConfig) (hmodel : model ∈ scenario.models) :
    ∃ tally, (model.modelId, tally) ∈ state.tallies ∧
      ∀ value, (state.column value).lookup model.modelId = some (value tally) := by
  have hmem : model.modelId ∈ state.tallies.map Prod.fst := by
    rw [hkept.names]
    exact List.mem_map_of_mem hmodel
  obtain ⟨⟨name, tally⟩, hentry, rfl⟩ := List.mem_map.mp hmem
  refine ⟨tally, hentry, fun value => ?_⟩
  apply lookup_mem
  · unfold State.column
    rw [List.map_map]
    exact hkept.names ▸ scenario.distinct
  · exact List.mem_map.mpr ⟨_, hentry, rfl⟩

theorem normalized_ok (hkept : Kept scenario state) {normalized : List (Str × ℚ)}
    (h : scenario.models.mapM (normalizedService (state.column (·.engineServiceUs))) = .ok normalized)
    (model : ModelConfig) (hmodel : model ∈ scenario.models) (tally : Tally)
    (htally : (model.modelId, tally) ∈ state.tallies) :
    (dictionary normalized).lookup model.modelId = some ((tally.engineServiceUs : ℚ) / model.weight) := by
  have hservice : ∀ m ∈ scenario.models, normalizedService (state.column (·.engineServiceUs)) m =
      .ok (m.modelId, (((state.column (·.engineServiceUs)).lookup m.modelId).getD 0 : ℚ) / m.weight) := by
    intro m hm
    obtain ⟨t, -, ht⟩ := tally_of hkept m hm
    unfold normalizedService
    rw [ht]
    rfl
  have hlookup : (state.column (·.engineServiceUs)).lookup model.modelId = some tally.engineServiceUs := by
    apply lookup_mem
    · unfold State.column
      rw [List.map_map]
      exact hkept.names ▸ scenario.distinct
    · exact List.mem_map.mpr ⟨_, htally, rfl⟩
  rw [mapM_ok _ _ _ hservice] at h
  cases h
  unfold dictionary
  rw [List.foldl_map]
  refine (lookup_filled (fun m : ModelConfig => m.modelId) _ scenario.distinct hmodel).trans ?_
  rw [hlookup, Option.getD_some]

end Column

/-- Each turn is counted once and each selection once; the shares of the service are all of it or nothing; a model that
was always runnable has its ledger; and both longest runs are those of the trace. -/
theorem repetition_metrics (metrics : Metrics) (records : List TraceRecord)
    (h : runRepetition fraction sha256 scenario repetition driver = .ok (metrics, records)) :
    metrics.turns = (scenario.segments.map (·.turns)).sum ∧
    metrics.turns = records.length ∧
    metrics.turns = metrics.urgentSelectionCount + metrics.normalSelectionCount + metrics.noPlanCount ∧
    (metrics.selectionCount.map Prod.snd).sum = metrics.urgentSelectionCount + metrics.normalSelectionCount ∧
    (∃ shares : List (Str × ℚ), metrics.engineServiceShare = ledgerTexts shares ∧
      (∀ entry ∈ shares, 0 ≤ entry.2 ∧ entry.2 ≤ 1) ∧
      ((∃ entry ∈ metrics.engineServiceUs, entry.2 ≠ 0) → (shares.map Prod.snd).sum = 1) ∧
      ((∀ entry ∈ metrics.engineServiceUs, entry.2 = 0) → ∀ entry ∈ shares, entry.2 = 0)) ∧
    (∃ state, runDriver fraction scenario repetition driver = .ok state ∧
      ∀ model ∈ scenario.models, (∀ record ∈ records, model.modelId ∈ record.runnable) →
        metrics.normalizedEngineServiceUs.lookup model.modelId =
          some (fractionText (state.oracle.ledger model.modelId))) ∧
    ∀ model ∈ scenario.models,
      (∃ wait, metrics.maxRunnableWaitTurns.lookup model.modelId = some wait ∧
        IsGreatest (runLengths (TraceRecord.waits model.modelId) records) wait) ∧
      ∃ turns, metrics.maxConsecutiveTurns.lookup model.modelId = some turns ∧
        IsGreatest (runLengths (fun selection => selection = model.modelId) (selections records)) turns := by
  unfold runRepetition at h
  obtain ⟨state, hstate, h⟩ := bind_ok_iff.mp h
  obtain ⟨_, hmetrics, h⟩ := bind_ok_iff.mp h
  cases h
  obtain ⟨hkept, hlength⟩ := runDriver_kept hstate
  unfold metricsOf at hmetrics
  obtain ⟨normalized, hnormalized, hmetrics⟩ := bind_ok_iff.mp hmetrics
  obtain ⟨spread, -, hmetrics⟩ := bind_ok_iff.mp hmetrics
  obtain ⟨texts, htexts, hmetrics⟩ := bind_ok_iff.mp hmetrics
  cases hmetrics
  refine ⟨?_, hkept.turns, hkept.classes, ?_, shares_of _, ⟨state, hstate, ?_⟩, ?_⟩
  · exact hkept.turns.trans hlength
  · rw [← hkept.selected, State.column, List.map_map]
    rfl
  · intro model hmodel halways
    obtain ⟨tally, htally, -⟩ := tally_of hkept model hmodel
    have hledger := hkept.served _ htally model hmodel rfl halways
    rw [hledger]
    exact fractionTexts_lookup htexts _ _ (normalized_ok hkept hnormalized model hmodel tally htally)
  · intro model hmodel
    obtain ⟨tally, htally, hcolumn⟩ := tally_of hkept model hmodel
    have htells := hkept.tells _ htally
    exact ⟨⟨_, hcolumn (·.maxWait), htells.maxWait⟩, _, hcolumn (·.maxConsecutive), htells.maxConsecutive⟩

/-- The scenario of one turn. -/
def soloScenario : SuiteScenario := { alphaScenario with resourceMode := fun _ => lit "normal" }

def alphaLedger (text : String) : Json := .obj [(lit "alpha", .str (lit text))]

def soloAnswers : List (Mapping Json) :=
  [⟨[(lit "kind", .str (lit "hello_ack")), (lit "protocol_version", .str driverProtocol),
      (lit "driver_name", .str (lit "solo")), (lit "driver_version", .str (lit "1"))], by decide⟩,
    ⟨[(lit "kind", .str (lit "initialized")), (lit "scenario_id", .str soloScenario.scenarioId),
      (lit "model_ledgers_us", alphaLedger "0/1")], by decide⟩,
    ⟨[(lit "kind", .str (lit "plan")), (lit "sequence", .int 1), (lit "candidate_id", .str alphaTemplate.candidateId),
      (lit "runnable_ledgers_us", alphaLedger "0/1")], by decide⟩,
    ⟨[(lit "kind", .str (lit "receipt_accepted")), (lit "sequence", .int 1),
      (lit "model_ledgers_us", alphaLedger "1/2")], by decide⟩,
    ⟨[(lit "kind", .str (lit "shutdown_ack"))], by decide⟩]

/-- A driver that answers as the oracle expects. -/
def soloDriver : Driver where
  started := .ok ()
  answer sent :=
    match soloAnswers[sent.length - 1]? with
    | some response => .ok response
    | none => contractError (lit "driver closed stdout with exit code 0; stderr=''")
  exited := .ok ()

theorem solo_returns : (runRepetition (fractionOf ⟨false, false⟩) id soloScenario 0 soloDriver).isOk = true := by
  decide +kernel

theorem repetition_metrics_solo : ∃ metrics records,
    runRepetition (fractionOf ⟨false, false⟩) id soloScenario 0 soloDriver = .ok (metrics, records) ∧
      metrics.turns = 1 ∧ metrics.turns = records.length := by
  cases h : runRepetition (fractionOf ⟨false, false⟩) id soloScenario 0 soloDriver with
  | error e =>
    have hreturns := solo_returns
    rw [h] at hreturns
    cases hreturns
  | ok result =>
    obtain ⟨hturns, hrecords, -⟩ := repetition_metrics result.1 result.2 h
    exact ⟨result.1, result.2, rfl, hturns, hrecords⟩

end TurnVector.Runner
