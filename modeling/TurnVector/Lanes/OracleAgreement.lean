import TurnVector.Drivers.LockStep
import TurnVector.Lanes.SchedulerPolicy

/-! # Which subjects pass the scheduler-policy lane -/

namespace TurnVector.Lanes

open Python Json Effects
open LaneController (Raised contractError)

/-! ## What the oracle expects -/

/-- A request of the runner, with what the oracle expects of its answer. -/
inductive Exchange where
  | initializeModels (models : List Str)
  | schedule (candidateId : Option Str) (runnable : Dict ℚ)
  | receipt (ledgers : Dict ℚ)

/-- The subject's answer agrees with the oracle. -/
def Exchange.Matches (fraction : Str → Option ℚ) (answer : Except Raised (Mapping Json)) : Exchange → Prop
  | .initializeModels models => ∃ evidence initialized, answer = .ok evidence ∧
      readInitialized fraction models evidence = .ok initialized ∧ ∀ p ∈ initialized, p.2 = 0
  | .schedule candidateId runnable => ∃ evidence, answer = .ok evidence ∧
      readSelection fraction runnable evidence = .ok (candidateId, runnable)
  | .receipt ledgers => ∃ evidence, answer = .ok evidence ∧ readReceiptLedgers fraction ledgers evidence = .ok ledgers

/-- The answers from a step on agree with the oracle. -/
def Answered (fraction : Str → Option ℚ) (answers : Nat → Except Raised (Mapping Json)) : Nat → List Exchange → Prop
  | _, [] => True
  | step, exchange :: exchanges =>
    exchange.Matches fraction (answers step) ∧ Answered fraction answers (step + 1) exchanges

/-- What the oracle makes of the turns of a scenario by itself. -/
structure Script where
  oracle : SchedulerOracle
  nowUs : Int
  sequence : Nat
  records : List TurnRecord
  exchanges : List Exchange

def Script.start (scenario : Scenario) : Script := ⟨SchedulerOracle.init scenario.models, scenario.clockStartUs, 0, [], []⟩

def Script.next (script : Script) (turn : Turn) (oracle : SchedulerOracle) (record : TurnRecord)
    (exchanges : List Exchange) : Script where
  oracle := oracle
  nowUs := script.nowUs + turn.segment.clockStepUs
  sequence := script.sequence + 1
  records := script.records ++ [record]
  exchanges := script.exchanges ++ exchanges

def scriptTurn (case : PlannedCase) (scenario : Scenario) (script : Script) (turn : Turn) : Except Raised Script := do
  let scheduled ← scheduleTurn turn script.nowUs script.oracle
  let expectedId := scheduled.expected.map (·.candidateId)
  let record ← turnRecord case scenario turn (script.sequence + 1) script.nowUs scheduled expectedId scheduled.runnable
  match scheduled.expected with
  | some candidate => do
    let (ledgers, oracle) ← acceptTurn turn candidate scheduled.oracle
    let receipt ← receiptRecord ledgers ledgers
    return script.next turn oracle { record with receipt := some receipt }
      [.schedule expectedId scheduled.runnable, .receipt ledgers]
  | none => do
    let (_, oracle) ← callOracle SchedulerOracle.clearNoPlan scheduled.oracle
    return script.next turn oracle record [.schedule expectedId scheduled.runnable]

/-- Every turn of a scenario, in order. -/
def Scenario.turns (scenario : Scenario) : List Turn := scenario.segments.zipIdx.flatMap turnsOf

def scriptOf (case : PlannedCase) (scenario : Scenario) : Except Raised Script :=
  scenario.turns.foldlM (scriptTurn case scenario) (Script.start scenario)

/-- The exchanges of one repetition. -/
def Script.repetition (script : Script) (scenario : Scenario) : List Exchange :=
  .initializeModels scenario.modelIds :: script.exchanges

/-! ## Answers -/

section Answers

variable {fraction : Str → Option ℚ} {answers : Nat → Except Raised (Mapping Json)}

theorem answered_append (step : Nat) (xs ys : List Exchange) :
    Answered fraction answers step (xs ++ ys) ↔
      Answered fraction answers step xs ∧ Answered fraction answers (step + xs.length) ys := by
  induction xs generalizing step with
  | nil => simp [Answered]
  | cons x xs ih =>
    simp only [List.cons_append, Answered, ih, List.length_cons, and_assoc]
    rw [Nat.add_right_comm, Nat.add_assoc]

theorem Scenario.turns_length (scenario : Scenario) : scenario.turns.length = scenario.totalTurns := by
  have hturns : ∀ segment : Segment × Nat, (turnsOf segment).length = segment.1.turns := by simp [turnsOf]
  unfold Scenario.turns Scenario.totalTurns
  rw [List.length_flatMap]
  simp only [hturns]
  rw [← List.zipIdx_map_fst 0 scenario.segments, List.map_map, List.zipIdx_map_fst]
  rfl

end Answers

/-! ## The oracle by itself -/

section Oracle

variable {case : PlannedCase} {scenario : Scenario} {turn : Turn} {before after : Script}

/-- What a turn of the script is made of. -/
theorem scriptTurn_cases (h : scriptTurn case scenario before turn = .ok after) :
    ∃ scheduled record, scheduleTurn turn before.nowUs before.oracle = .ok scheduled ∧
      turnRecord case scenario turn (before.sequence + 1) before.nowUs scheduled
        (scheduled.expected.map (·.candidateId)) scheduled.runnable = .ok record ∧
      ((∃ candidate ledgers oracle receipt, scheduled.expected = some candidate ∧
          acceptTurn turn candidate scheduled.oracle = .ok (ledgers, oracle) ∧
          receiptRecord ledgers ledgers = .ok receipt ∧
          after = before.next turn oracle { record with receipt := some receipt }
            [.schedule (scheduled.expected.map (·.candidateId)) scheduled.runnable, .receipt ledgers]) ∨
        ∃ oracle, scheduled.expected = none ∧
          callOracle SchedulerOracle.clearNoPlan scheduled.oracle = .ok ((), oracle) ∧
          after = before.next turn oracle record
            [.schedule (scheduled.expected.map (·.candidateId)) scheduled.runnable]) := by
  unfold scriptTurn at h
  obtain ⟨scheduled, hscheduled, h⟩ := bind_ok_iff.mp h
  obtain ⟨record, hrecord, h⟩ := bind_ok_iff.mp h
  refine ⟨scheduled, record, hscheduled, hrecord, ?_⟩
  cases hexpected : scheduled.expected with
  | some candidate =>
    rw [hexpected] at h
    obtain ⟨⟨ledgers, oracle⟩, haccept, h⟩ := bind_ok_iff.mp h
    obtain ⟨receipt, hreceipt, h⟩ := bind_ok_iff.mp h
    cases h
    exact .inl ⟨candidate, ledgers, oracle, receipt, rfl, haccept, hreceipt, rfl⟩
  | none =>
    rw [hexpected] at h
    obtain ⟨⟨_, oracle⟩, hclear, h⟩ := bind_ok_iff.mp h
    cases h
    exact .inr ⟨oracle, rfl, hclear, rfl⟩

theorem scriptTurn_extends (h : scriptTurn case scenario before turn = .ok after) :
    before.exchanges <+: after.exchanges ∧ after.records.length = before.records.length + 1 := by
  obtain ⟨scheduled, record, -, -, ⟨candidate, ledgers, oracle, receipt, -, -, -, rfl⟩ | ⟨oracle, -, -, rfl⟩⟩ :=
    scriptTurn_cases h
  · exact ⟨List.prefix_append _ _, by simp [Script.next]⟩
  · exact ⟨List.prefix_append _ _, by simp [Script.next]⟩

theorem scriptTurns_extend {turns : List Turn} (h : turns.foldlM (scriptTurn case scenario) before = .ok after) :
    before.exchanges <+: after.exchanges ∧ after.records.length = before.records.length + turns.length := by
  induction turns generalizing before with
  | nil =>
    cases h
    exact ⟨List.prefix_rfl, rfl⟩
  | cons turn turns ih =>
    rw [List.foldlM_cons] at h
    obtain ⟨middle, hturn, h⟩ := bind_ok_iff.mp h
    obtain ⟨hstart, hlength⟩ := scriptTurn_extends hturn
    obtain ⟨hstart', hlength'⟩ := ih h
    refine ⟨hstart.trans hstart', ?_⟩
    rw [hlength', hlength, List.length_cons]
    omega

theorem scriptOf_records {script : Script} (h : scriptOf case scenario = .ok script) :
    script.records.length = scenario.totalTurns := by
  have := (scriptTurns_extend h).2
  rw [Scenario.turns_length] at this
  simpa [Script.start] using this

/-! ## The oracle never raises over a scenario -/

/-- The oracle between two turns of a scenario. -/
structure Idle (scenario : Scenario) (oracle : SchedulerOracle) : Prop where
  sound : oracle.Sound
  pending : oracle.pending = none
  weights : oracle.weights = (SchedulerOracle.init scenario.models).weights

theorem callOracle_ok {α : Type} {method : Method SchedulerOracle α} {oracle next : SchedulerOracle} {a : α}
    (h : method.call oracle = (.ok a, next)) : callOracle method oracle = .ok (a, next) := by
  unfold callOracle
  rw [h]

theorem fractionTexts_ok (values : Dict ℚ) : ∃ texts, fractionTexts values = .ok texts := by
  obtain ⟨texts, htexts⟩ := fractionMap_ok values
  refine ⟨texts, ?_⟩
  unfold fractionTexts
  rw [htexts]
  rfl

theorem turnRecord_ok (sequence : Nat) (nowUs : Int) (scheduled : Scheduled) (observedId : Option Str)
    (observed : Dict ℚ) :
    ∃ record, turnRecord case scenario turn sequence nowUs scheduled observedId observed = .ok record := by
  obtain ⟨expectedTexts, hexpected⟩ := fractionTexts_ok scheduled.runnable
  obtain ⟨observedTexts, hobserved⟩ := fractionTexts_ok observed
  unfold turnRecord
  rw [hexpected, hobserved]
  exact ⟨_, rfl⟩

theorem receiptRecord_ok (expected observed : Dict ℚ) : ∃ receipt, receiptRecord expected observed = .ok receipt := by
  obtain ⟨expectedTexts, hexpected⟩ := fractionTexts_ok expected
  obtain ⟨observedTexts, hobserved⟩ := fractionTexts_ok observed
  unfold receiptRecord
  rw [hexpected, hobserved]
  exact ⟨_, rfl⟩

theorem scheduleTurn_ok {oracle : SchedulerOracle} (hidle : Idle scenario oracle) (turn : Turn) (nowUs : Int) :
    ∃ scheduled, scheduleTurn turn nowUs oracle = .ok scheduled ∧ scheduled.oracle.Sound ∧
      scheduled.oracle.pending = scheduled.expected ∧
      scheduled.oracle.weights = (SchedulerOracle.init scenario.models).weights ∧
      ∀ c, scheduled.expected = some c → c ∈ turn.segment.candidates.map (·.atTime nowUs) := by
  obtain ⟨runnable, -, hcall⟩ := SchedulerOracle.schedule_call oracle hidle.sound nowUs
    (turn.segment.candidates.map (·.atTime nowUs)) hidle.pending
  unfold scheduleTurn
  rw [callOracle_ok hcall]
  refine ⟨_, rfl, SchedulerOracle.scheduled_sound _ hidle.sound _ _, rfl, hidle.weights, ?_⟩
  intro c hc
  exact List.mem_of_mem_filter (SchedulerOracle.choice_mem _ nowUs _ c hc)

theorem actualService_ok (turn : Turn) (template : CandidateTemplate) (h : template ∈ turn.segment.candidates) :
    ∃ actual, actualService turn template.candidateId = .ok actual := by
  unfold actualService
  rw [lookup_dictOf]
  cases hlookup : (turn.segment.candidates.map fun c =>
      (c.candidateId, c.actualEngineServiceUs)).reverse.lookup template.candidateId with
  | some actual => exact ⟨actual, rfl⟩
  | none =>
    have hmem : (template.candidateId, template.actualEngineServiceUs) ∈ (turn.segment.candidates.map fun c =>
        (c.candidateId, c.actualEngineServiceUs)).reverse := by
      simp only [List.mem_reverse, List.mem_map]
      exact ⟨template, h, rfl⟩
    have := List.lookup_eq_none_iff.mp hlookup _ hmem
    simp at this

theorem init_weight (models : List ModelConfig) (modelId : Str) (h : modelId ∈ models.map (·.modelId)) :
    ∃ w, (SchedulerOracle.init models).weights.lookup modelId = some w := by
  obtain ⟨model, hmodel, rfl⟩ := List.mem_map.mp h
  unfold SchedulerOracle.init
  dsimp only
  rw [foldl_insert_lookup, Finmap.lookup_empty, Option.or_none]
  cases hfind : models.reverse.find? fun m => m.modelId = model.modelId with
  | some found => exact ⟨_, rfl⟩
  | none =>
    have := List.find?_eq_none.mp hfind model (List.mem_reverse.mpr hmodel)
    simp at this

theorem clearNoPlan_call {oracle : SchedulerOracle} (h : oracle.pending = none) :
    SchedulerOracle.clearNoPlan.call oracle = (.ok (), oracle) := by
  rw [SchedulerOracle.clearNoPlan, Method.call_bind_ok (Method.call_get oracle), h]
  rfl

/-- One turn leaves the oracle idle again. -/
theorem scriptTurn_ok (hidle : Idle scenario before.oracle) (hturn : turn.segment ∈ scenario.segments) :
    ∃ after, scriptTurn case scenario before turn = .ok after ∧ Idle scenario after.oracle := by
  obtain ⟨scheduled, hscheduled, hsound, hpending, hweights, hmem⟩ := scheduleTurn_ok hidle turn before.nowUs
  obtain ⟨record, hrecord⟩ : ∃ record, turnRecord case scenario turn (before.sequence + 1) before.nowUs scheduled
      (scheduled.expected.map (·.candidateId)) scheduled.runnable = .ok record := turnRecord_ok _ _ _ _ _
  unfold scriptTurn
  rw [hscheduled]
  simp only [bind, Except.bind, hrecord]
  cases hexpected : scheduled.expected with
  | none =>
    rw [hexpected] at hpending
    simp only [callOracle_ok (clearNoPlan_call hpending)]
    exact ⟨_, rfl, hsound, hpending, hweights⟩
  | some c =>
    rw [hexpected] at hpending
    obtain ⟨template, htemplate, rfl⟩ := List.mem_map.mp (hmem c hexpected)
    obtain ⟨actual, hactual⟩ := actualService_ok turn template htemplate
    obtain ⟨w, hw⟩ := init_weight scenario.models template.modelId (scenario.known _ hturn _ htemplate)
    have hcall := SchedulerOracle.acceptReceipt_due scheduled.oracle hsound template.candidateId template.modelId actual w
      ⟨_, hpending, rfl, rfl, by rw [hweights, hw]⟩
    obtain ⟨receipt, hreceipt⟩ := receiptRecord_ok
      (scheduled.oracle.charged template.modelId (actual / w)).ledgers
      (scheduled.oracle.charged template.modelId (actual / w)).ledgers
    have haccept : acceptTurn turn (template.atTime before.nowUs) scheduled.oracle =
        .ok ((scheduled.oracle.charged template.modelId (actual / w)).ledgers,
          scheduled.oracle.charged template.modelId (actual / w)) := by
      unfold acceptTurn
      rw [show (template.atTime before.nowUs).candidateId = template.candidateId from rfl, hactual]
      exact callOracle_ok hcall
    simp only [haccept, hreceipt]
    exact ⟨_, rfl, SchedulerOracle.charged_sound _ hsound _ _, rfl, hweights⟩

theorem scriptTurns_ok {turns : List Turn} (hidle : Idle scenario before.oracle)
    (hturns : ∀ turn ∈ turns, turn.segment ∈ scenario.segments) :
    ∃ after, turns.foldlM (scriptTurn case scenario) before = .ok after := by
  induction turns generalizing before with
  | nil => exact ⟨before, rfl⟩
  | cons turn turns ih =>
    obtain ⟨middle, hmiddle, hnext⟩ : ∃ middle, scriptTurn case scenario before turn = .ok middle ∧
        Idle scenario middle.oracle := scriptTurn_ok hidle (hturns turn (by simp))
    obtain ⟨after, hafter⟩ := ih hnext fun t ht => hturns t (by simp [ht])
    refine ⟨after, ?_⟩
    rw [List.foldlM_cons, hmiddle]
    exact hafter

/-- The oracle answers every turn of a parsed scenario. -/
theorem scriptOf_ok (case : PlannedCase) (scenario : Scenario) : ∃ script, scriptOf case scenario = .ok script := by
  refine scriptTurns_ok ⟨SchedulerOracle.init_sound _, rfl, rfl⟩ ?_
  intro turn hturn
  obtain ⟨segment, hsegment, hturn⟩ := List.mem_flatMap.mp hturn
  obtain ⟨i, -, rfl⟩ := List.mem_map.mp hturn
  exact List.fst_mem_of_mem_zipIdx hsegment

end Oracle

/-! ## One turn of the run -/

section Run

variable (world : SchedulerWorld) (case : PlannedCase) (at_ : SchedulerCase) (scenario : Scenario)

/-- The answers to the turns so far agree, and the repetition is where the script is. -/
structure Follows (base : Repetition) (turns : List Turn) (state : Repetition) : Prop where
  agreed : ∃ script, turns.foldlM (scriptTurn case scenario) (Script.start scenario) = .ok script ∧
    Answered world.fraction at_.stepped (base.stepIndex + 1) script.exchanges ∧
    state = { oracle := script.oracle, stepIndex := base.stepIndex + script.exchanges.length, nowUs := script.nowUs
              sequence := script.sequence, records := script.records
              selectionMismatches := base.selectionMismatches, receiptMismatches := base.receiptMismatches
              aborted := false }

/-- An answer to the turns so far disagrees, and was counted. -/
structure Departs (base : Repetition) (turns : List Turn) (state : Repetition) : Prop where
  aborted : state.aborted = true
  counted : base.selectionMismatches + base.receiptMismatches < state.selectionMismatches + state.receiptMismatches
  disagreed : ∀ script, turns.foldlM (scriptTurn case scenario) (Script.start scenario) = .ok script →
    ¬ Answered world.fraction at_.stepped (base.stepIndex + 1) script.exchanges

variable {world case at_ scenario} {base state after : Repetition} {turns : List Turn} {turn : Turn} {s t : List Call}

theorem answered_of_start {fraction : Str → Option ℚ} {answers : Nat → Except Raised (Mapping Json)} {step : Nat}
    {xs ys : List Exchange} (hstart : xs <+: ys) (h : Answered fraction answers step ys) :
    Answered fraction answers step xs := by
  obtain ⟨zs, rfl⟩ := hstart
  exact ((answered_append step xs zs).mp h).1

theorem departs_append (more : List Turn) (h : Departs world case at_ scenario base turns state) :
    Departs world case at_ scenario base (turns ++ more) state := by
  refine ⟨h.aborted, h.counted, ?_⟩
  intro script hscript hall
  rw [List.foldlM_append] at hscript
  obtain ⟨middle, hmiddle, hrest⟩ := bind_ok_iff.mp hscript
  exact h.disagreed middle hmiddle (answered_of_start (scriptTurns_extend hrest).1 hall)

theorem turnRecord_selection {sequence : Nat} {nowUs : Int} {scheduled : Scheduled} {observedId : Option Str}
    {observed : Dict ℚ} {record : TurnRecord}
    (h : turnRecord case scenario turn sequence nowUs scheduled observedId observed = .ok record) :
    (record.selectionOk = true ↔
      observedId = scheduled.expected.map (·.candidateId) ∧ observed = scheduled.runnable) ∧ record.receipt = none := by
  unfold turnRecord at h
  obtain ⟨_, -, h⟩ := bind_ok_iff.mp h
  obtain ⟨_, -, h⟩ := bind_ok_iff.mp h
  cases h
  simp

theorem receiptRecord_iff {expected observed : Dict ℚ} {receipt : ReceiptRecord}
    (h : receiptRecord expected observed = .ok receipt) : receipt.ok = true ↔ observed = expected := by
  unfold receiptRecord at h
  obtain ⟨_, -, h⟩ := bind_ok_iff.mp h
  obtain ⟨_, -, h⟩ := bind_ok_iff.mp h
  cases h
  simp

/-- A script that goes one turn on has the exchanges of what was scheduled. -/
theorem foldlM_snoc {script next : Script}
    (hscript : turns.foldlM (scriptTurn case scenario) (Script.start scenario) = .ok script)
    (hnext : (turns ++ [turn]).foldlM (scriptTurn case scenario) (Script.start scenario) = .ok next) :
    scriptTurn case scenario script turn = .ok next := by
  rw [List.foldlM_append, hscript] at hnext
  obtain ⟨_, hfirst, hlast⟩ := bind_ok_iff.mp hnext
  cases hfirst
  rw [List.foldlM_cons] at hlast
  obtain ⟨_, hturn, hdone⟩ := bind_ok_iff.mp hlast
  cases hdone
  exact hturn

theorem foldlM_next {script next : Script}
    (hscript : turns.foldlM (scriptTurn case scenario) (Script.start scenario) = .ok script)
    (hturn : scriptTurn case scenario script turn = .ok next) :
    (turns ++ [turn]).foldlM (scriptTurn case scenario) (Script.start scenario) = .ok next := by
  rw [List.foldlM_append, hscript]
  simp only [bind, Except.bind, List.foldlM_cons, hturn]
  rfl

theorem scriptTurn_none {script : Script} {scheduled : Scheduled} {record : TurnRecord} {oracle : SchedulerOracle}
    (hscheduled : scheduleTurn turn script.nowUs script.oracle = .ok scheduled)
    (hrecord : turnRecord case scenario turn (script.sequence + 1) script.nowUs scheduled
      (scheduled.expected.map (·.candidateId)) scheduled.runnable = .ok record)
    (hexpected : scheduled.expected = none)
    (hclear : callOracle SchedulerOracle.clearNoPlan scheduled.oracle = .ok ((), oracle)) :
    scriptTurn case scenario script turn = .ok (script.next turn oracle record
      [.schedule (scheduled.expected.map (·.candidateId)) scheduled.runnable]) := by
  unfold scriptTurn
  rw [hscheduled]
  simp only [bind, Except.bind, hrecord]
  rw [hexpected]
  simp only [hclear]
  rfl

theorem scriptTurn_some {script : Script} {scheduled : Scheduled} {record : TurnRecord} {candidate : Candidate}
    {ledgers : Dict ℚ} {oracle : SchedulerOracle} {receipt : ReceiptRecord}
    (hscheduled : scheduleTurn turn script.nowUs script.oracle = .ok scheduled)
    (hrecord : turnRecord case scenario turn (script.sequence + 1) script.nowUs scheduled
      (scheduled.expected.map (·.candidateId)) scheduled.runnable = .ok record)
    (hexpected : scheduled.expected = some candidate)
    (haccept : acceptTurn turn candidate scheduled.oracle = .ok (ledgers, oracle))
    (hreceipt : receiptRecord ledgers ledgers = .ok receipt) :
    scriptTurn case scenario script turn = .ok (script.next turn oracle { record with receipt := some receipt }
      [.schedule (scheduled.expected.map (·.candidateId)) scheduled.runnable, .receipt ledgers]) := by
  unfold scriptTurn
  rw [hscheduled]
  simp only [bind, Except.bind, hrecord]
  rw [hexpected]
  simp only [haccept, hreceipt]
  rfl

/-- The selection of a turn that the script reaches disagrees. -/
theorem departs_selection {script : Script} {scheduled : Scheduled} {oracle : SchedulerOracle} {record : TurnRecord}
    {evidence : Mapping Json} {observedId : Option Str} {observed : Dict ℚ}
    (hscript : turns.foldlM (scriptTurn case scenario) (Script.start scenario) = .ok script)
    (hscheduled : scheduleTurn turn script.nowUs script.oracle = .ok scheduled)
    (hanswer : at_.stepped (base.stepIndex + script.exchanges.length + 1) = .ok evidence)
    (hread : readSelection world.fraction scheduled.runnable evidence = .ok (observedId, observed))
    (hrecord : record.selectionOk = false ∧ record.receipt = none)
    (hdiffers : ¬ (observedId = scheduled.expected.map (·.candidateId) ∧ observed = scheduled.runnable))
    (hcounts : state.selectionMismatches = base.selectionMismatches ∧ state.receiptMismatches = base.receiptMismatches) :
    Departs world case at_ scenario base (turns ++ [turn]) (state.afterTurn turn oracle 1 record) := by
  refine ⟨?_, ?_, ?_⟩
  · simp [Repetition.afterTurn, TurnRecord.ok, hrecord]
  · simp [Repetition.afterTurn, hrecord, hcounts]
  · intro next hnext hall
    obtain ⟨scheduled', _, hscheduled', -, hcases⟩ := scriptTurn_cases (foldlM_snoc hscript hnext)
    rw [hscheduled] at hscheduled'
    cases hscheduled'
    have hfirst : ∃ rest, next.exchanges = script.exchanges ++
        .schedule (scheduled.expected.map (·.candidateId)) scheduled.runnable :: rest := by
      rcases hcases with ⟨_, _, _, _, -, -, -, rfl⟩ | ⟨_, -, -, rfl⟩
      · exact ⟨_, rfl⟩
      · exact ⟨_, rfl⟩
    obtain ⟨rest, hrest⟩ := hfirst
    rw [hrest, answered_append] at hall
    obtain ⟨_, hevidence, hmatches⟩ := hall.2.1
    rw [Nat.add_right_comm, hanswer] at hevidence
    cases hevidence
    rw [hread] at hmatches
    cases hmatches
    exact hdiffers ⟨rfl, rfl⟩

/-- The receipt of a turn that the script reaches disagrees. -/
theorem departs_receipt {script : Script} {scheduled : Scheduled} {candidate : Candidate} {ledgers observed : Dict ℚ}
    {oracle : SchedulerOracle} {record : TurnRecord} {evidence : Mapping Json}
    (hscript : turns.foldlM (scriptTurn case scenario) (Script.start scenario) = .ok script)
    (hscheduled : scheduleTurn turn script.nowUs script.oracle = .ok scheduled)
    (hexpected : scheduled.expected = some candidate)
    (haccept : acceptTurn turn candidate scheduled.oracle = .ok (ledgers, oracle))
    (hanswer : at_.stepped (base.stepIndex + script.exchanges.length + 2) = .ok evidence)
    (hread : readReceiptLedgers world.fraction ledgers evidence = .ok observed)
    (hrecord : record.selectionOk = true ∧ record.receipt.all (·.ok) = false) (hdiffers : observed ≠ ledgers)
    (hcounts : state.selectionMismatches = base.selectionMismatches ∧ state.receiptMismatches = base.receiptMismatches) :
    Departs world case at_ scenario base (turns ++ [turn]) (state.afterTurn turn oracle 2 record) := by
  refine ⟨?_, ?_, ?_⟩
  · simp [Repetition.afterTurn, TurnRecord.ok, hrecord]
  · simp [Repetition.afterTurn, hrecord, hcounts]
  · intro next hnext hall
    obtain ⟨scheduled', _, hscheduled', -, hcases⟩ := scriptTurn_cases (foldlM_snoc hscript hnext)
    rw [hscheduled] at hscheduled'
    cases hscheduled'
    rcases hcases with ⟨candidate', ledgers', _, _, hexpected', haccept', -, rfl⟩ | ⟨_, hexpected', -, rfl⟩
    · rw [hexpected] at hexpected'
      cases hexpected'
      rw [haccept] at haccept'
      cases haccept'
      have hall' := (answered_append _ script.exchanges _).mp hall
      obtain ⟨_, hevidence, hmatches⟩ := hall'.2.2.1
      rw [show base.stepIndex + 1 + script.exchanges.length + 1 = base.stepIndex + script.exchanges.length + 2 by omega,
        hanswer] at hevidence
      cases hevidence
      rw [hread] at hmatches
      cases hmatches
      exact hdiffers rfl
    · rw [hexpected] at hexpected'
      cases hexpected'

/-- After one more turn the repetition still follows the script, or it departs from it. -/
theorem runTurn_returned (h : Follows world case at_ scenario base turns state)
    (hrun : Action.run (runTurn world case at_ scenario turn state) s = (.ok after, t)) :
    Follows world case at_ scenario base (turns ++ [turn]) after ∨
      Departs world case at_ scenario base (turns ++ [turn]) after := by
  obtain ⟨script, hscript, hanswered, rfl⟩ := h.agreed
  unfold runTurn at hrun
  obtain ⟨scheduled, hscheduled, hrun⟩ := Session.lift_bind hrun
  obtain ⟨evidence, hevidence, hrun⟩ := Session.request_bind hrun
  obtain ⟨⟨observedId, observed⟩, hread, hrun⟩ := Session.lift_bind hrun
  obtain ⟨record, hrecord, hturn⟩ := Session.lift_bind hrun
  obtain ⟨hselection, hnone⟩ := turnRecord_selection hrecord
  dsimp only at hscheduled hevidence hrecord hturn
  by_cases hok : record.selectionOk = true
  · rw [if_pos hok] at hturn
    obtain ⟨rfl, rfl⟩ := hselection.mp hok
    have hschedule : Exchange.Matches world.fraction
        (at_.stepped (base.stepIndex + 1 + script.exchanges.length))
        (.schedule (scheduled.expected.map (·.candidateId)) scheduled.runnable) :=
      ⟨evidence, by rw [Nat.add_right_comm, hevidence], hread⟩
    cases hexpected : scheduled.expected with
    | none =>
      rw [hexpected] at hturn
      obtain ⟨⟨_, oracle⟩, hclear, hturn⟩ := Session.lift_bind hturn
      cases hturn
      refine .inl ⟨_, foldlM_next hscript (scriptTurn_none hscheduled hrecord hexpected hclear), ?_, ?_⟩
      · exact (answered_append _ _ _).mpr ⟨hanswered, hschedule, trivial⟩
      · simp [Repetition.afterTurn, Script.next, TurnRecord.ok, hok, hnone, Nat.add_assoc]
    | some candidate =>
      rw [hexpected] at hturn
      unfold runReceipt at hturn
      obtain ⟨⟨ledgers, oracle⟩, haccept, hturn⟩ := Session.lift_bind hturn
      obtain ⟨evidence', hevidence', hturn⟩ := Session.request_bind hturn
      obtain ⟨observed, hreceipts, hturn⟩ := Session.lift_bind hturn
      obtain ⟨receipt, hreceipt, hturn⟩ := Session.lift_bind hturn
      cases hturn
      by_cases hsame : observed = ledgers
      · subst hsame
        have hokReceipt := (receiptRecord_iff hreceipt).mpr rfl
        refine .inl ⟨_, foldlM_next hscript (scriptTurn_some hscheduled hrecord hexpected haccept hreceipt), ?_, ?_⟩
        · refine (answered_append _ _ _).mpr ⟨hanswered, hschedule, ⟨evidence', ?_, hreceipts⟩, trivial⟩
          rw [← hevidence']
          congr 1
          dsimp only
          omega
        · simp [Repetition.afterTurn, Script.next, TurnRecord.ok, hok, hokReceipt, Nat.add_assoc]
      · have hfalse : receipt.ok = false := by
          rw [← Bool.not_eq_true, receiptRecord_iff hreceipt]
          exact hsame
        exact .inr (departs_receipt hscript hscheduled hexpected haccept hevidence' hreceipts
          ⟨hok, by simp [hfalse]⟩ hsame ⟨rfl, rfl⟩)
  · rw [if_neg hok] at hturn
    cases hturn
    exact .inr (departs_selection hscript hscheduled hevidence hread ⟨by simpa using hok, hnone⟩
      (fun hsame => hok (hselection.mpr hsame)) ⟨rfl, rfl⟩)

/-! ## The loops over turns -/

theorem runSegment_returned (more : List Turn) (h : Follows world case at_ scenario base turns state)
    (hrun : Action.run (runSegment world case at_ scenario more state) s = (.ok after, t)) :
    Follows world case at_ scenario base (turns ++ more) after ∨
      Departs world case at_ scenario base (turns ++ more) after := by
  induction more generalizing turns state s with
  | nil =>
    cases hrun
    rw [List.append_nil]
    exact .inl h
  | cons turn more ih =>
    unfold runSegment at hrun
    obtain ⟨middle, u, hturn, hrun⟩ := Action.bind_returned hrun
    rw [List.append_cons]
    rcases runTurn_returned h hturn with hfollows | hdeparts
    · obtain ⟨_, -, -, hstate⟩ := hfollows.agreed
      rw [if_neg (by simp [hstate])] at hrun
      exact ih hfollows hrun
    · rw [if_pos hdeparts.aborted] at hrun
      cases hrun
      exact .inr (departs_append more hdeparts)

theorem runSegments_returned (segments : List (Segment × Nat)) (h : Follows world case at_ scenario base turns state)
    (hrun : Action.run (runSegments world case at_ scenario segments state) s = (.ok after, t)) :
    Follows world case at_ scenario base (turns ++ segments.flatMap turnsOf) after ∨
      Departs world case at_ scenario base (turns ++ segments.flatMap turnsOf) after := by
  induction segments generalizing turns state s with
  | nil =>
    cases hrun
    rw [List.flatMap_nil, List.append_nil]
    exact .inl h
  | cons segment segments ih =>
    unfold runSegments at hrun
    obtain ⟨_, -, -, hstate⟩ := h.agreed
    rw [if_neg (by simp [hstate])] at hrun
    obtain ⟨middle, u, hsegment, hrun⟩ := Action.bind_returned hrun
    rw [List.flatMap_cons, ← List.append_assoc]
    rcases runSegment_returned _ h hsegment with hfollows | hdeparts
    · exact ih hfollows hrun
    · have hstop : after = middle := by
        cases segments with
        | nil =>
          cases hrun
          rfl
        | cons next rest =>
          unfold runSegments at hrun
          rw [if_pos hdeparts.aborted] at hrun
          cases hrun
          rfl
      rw [hstop]
      exact .inr (departs_append _ hdeparts)

/-! ## The repetitions of a case -/

variable {script : Script} {entry before next : CaseState} {repetition : Nat}

def CaseState.mismatches (state : CaseState) : Nat := state.selectionMismatches + state.receiptMismatches

/-- Every answer of a repetition agrees. -/
structure RepetitionAgrees (world : SchedulerWorld) (at_ : SchedulerCase) (scenario : Scenario) (script : Script)
    (before next : CaseState) : Prop where
  answered : Answered world.fraction at_.stepped (before.stepIndex + 1) (script.repetition scenario)
  stepIndex : next.stepIndex = before.stepIndex + (script.repetition scenario).length
  mismatches : next.mismatches = before.mismatches
  hashes : next.repetitionHashes = before.repetitionHashes ++ [replayDigest world.sha256 script.records]
  records : next.rawRecords.length = before.rawRecords.length + script.records.length

theorem follows_begin (initialized : List (Str × ℚ)) : Follows world case at_ scenario (before.begin scenario initialized)
    [] (before.begin scenario initialized) := ⟨Script.start scenario, rfl, trivial, rfl⟩

theorem begin_mismatches (scenario : Scenario) (before : CaseState) (initialized : List (Str × ℚ)) :
    (before.begin scenario initialized).selectionMismatches + (before.begin scenario initialized).receiptMismatches =
      before.mismatches + if initialized.any fun p => p.2 ≠ 0 then 1 else 0 := by
  simp only [CaseState.begin, CaseState.mismatches, Nat.add_assoc]

/-- A repetition agrees with the oracle, or a disagreement was counted. -/
theorem runRepetition_returned (hscript : scriptOf case scenario = .ok script)
    (h : Action.run (runRepetition world case at_ scenario repetition before) s = (.ok next, t)) :
    RepetitionAgrees world at_ scenario script before next ∨ (before.mismatches < next.mismatches ∧
      ¬ Answered world.fraction at_.stepped (before.stepIndex + 1) (script.repetition scenario)) := by
  unfold runRepetition at h
  obtain ⟨evidence, hevidence, h⟩ := Session.request_bind h
  obtain ⟨initialized, hread, h⟩ := Session.lift_bind h
  obtain ⟨done, u, hsegments, h⟩ := Action.bind_returned h
  cases h
  have hbegin := begin_mismatches scenario before initialized
  have hrun := runSegments_returned _ (follows_begin initialized) hsegments
  rw [List.nil_append] at hrun
  by_cases hzero : ∀ p ∈ initialized, p.2 = 0
  · rw [if_neg (by simpa using hzero)] at hbegin
    rcases hrun with hfollows | hdeparts
    · obtain ⟨script', hscript', hanswered, rfl⟩ := hfollows.agreed
      rw [show scenario.segments.zipIdx.flatMap turnsOf = scenario.turns from rfl] at hscript'
      cases hscript.symm.trans hscript'
      refine .inl ⟨⟨⟨evidence, initialized, hevidence, hread, hzero⟩, hanswered⟩, ?_, hbegin, rfl, ?_⟩
      · simp only [CaseState.afterRepetition, CaseState.begin, Script.repetition, List.length_cons]
        omega
      · simp [CaseState.afterRepetition]
    · refine .inr ⟨?_, fun hall => hdeparts.disagreed script hscript hall.2⟩
      have := hdeparts.counted
      rw [hbegin] at this
      exact this
  · have hany : (initialized.any fun p => p.2 ≠ 0) = true := by
      simpa using hzero
    rw [if_pos hany] at hbegin
    refine .inr ⟨?_, ?_⟩
    · have hdone : (before.begin scenario initialized).selectionMismatches +
          (before.begin scenario initialized).receiptMismatches ≤ done.selectionMismatches + done.receiptMismatches := by
        rcases hrun with hfollows | hdeparts
        · obtain ⟨_, -, -, rfl⟩ := hfollows.agreed
          exact le_refl _
        · exact le_of_lt hdeparts.counted
      rw [hbegin] at hdone
      exact hdone
    · rintro ⟨⟨_, _, hevidence', hread', hzero'⟩, -⟩
      rw [hevidence] at hevidence'
      cases hevidence'
      rw [hread] at hread'
      cases hread'
      exact hzero hzero'

/-- The exchanges of a number of repetitions. -/
def exchangesOf (script : Script) (scenario : Scenario) (repetitions : Nat) : List Exchange :=
  (List.replicate repetitions (script.repetition scenario)).flatten

theorem exchangesOf_succ (repetitions : Nat) : exchangesOf script scenario (repetitions + 1) =
    exchangesOf script scenario repetitions ++ script.repetition scenario := by
  unfold exchangesOf
  rw [List.replicate_succ', List.flatten_append]
  simp

theorem exchangesOf_add (repetitions more : Nat) :
    exchangesOf script scenario repetitions <+: exchangesOf script scenario (repetitions + more) := by
  unfold exchangesOf
  rw [List.replicate_add, List.flatten_append]
  exact List.prefix_append _ _

/-- A number of repetitions agreed. -/
structure CaseFollows (world : SchedulerWorld) (at_ : SchedulerCase) (scenario : Scenario) (script : Script)
    (entry : CaseState) (repetitions : Nat) (state : CaseState) : Prop where
  answered : Answered world.fraction at_.stepped 1 (exchangesOf script scenario repetitions)
  stepIndex : state.stepIndex = (exchangesOf script scenario repetitions).length
  mismatches : state.mismatches = entry.mismatches
  hashes : state.repetitionHashes = List.replicate repetitions (replayDigest world.sha256 script.records)
  records : state.rawRecords.length = entry.rawRecords.length + repetitions * script.records.length

theorem caseFollows_succ {repetitions : Nat} (h : CaseFollows world at_ scenario script entry repetitions before)
    (hagrees : RepetitionAgrees world at_ scenario script before next) :
    CaseFollows world at_ scenario script entry (repetitions + 1) next where
  answered := by
    rw [exchangesOf_succ, answered_append, Nat.add_comm 1, ← h.stepIndex]
    exact ⟨h.answered, hagrees.answered⟩
  stepIndex := by
    rw [hagrees.stepIndex, h.stepIndex, exchangesOf_succ, List.length_append]
  mismatches := hagrees.mismatches.trans h.mismatches
  hashes := by
    rw [hagrees.hashes, h.hashes, List.replicate_succ']
  records := by
    rw [hagrees.records, h.records, Nat.succ_mul, Nat.add_assoc]

theorem runRepetitions_mismatches (hscript : scriptOf case scenario = .ok script) {repetitions : List Nat}
    (h : Action.run (runRepetitions world case at_ scenario repetitions before) s = (.ok next, t)) :
    before.mismatches ≤ next.mismatches := by
  induction repetitions generalizing before s with
  | nil =>
    cases h
    exact le_refl _
  | cons repetition repetitions ih =>
    unfold runRepetitions at h
    obtain ⟨middle, u, hrepetition, h⟩ := Action.bind_returned h
    have hrest := ih h
    rcases runRepetition_returned hscript hrepetition with hagrees | ⟨hcounted, -⟩
    · rwa [hagrees.mismatches] at hrest
    · omega

theorem runRepetitions_returned (hscript : scriptOf case scenario = .ok script) (done : Nat) (repetitions : List Nat)
    (hfollows : CaseFollows world at_ scenario script entry done before)
    (h : Action.run (runRepetitions world case at_ scenario repetitions before) s = (.ok next, t)) :
    CaseFollows world at_ scenario script entry (done + repetitions.length) next ∨
      (entry.mismatches < next.mismatches ∧
        ¬ Answered world.fraction at_.stepped 1 (exchangesOf script scenario (done + repetitions.length))) := by
  induction repetitions generalizing done before s with
  | nil =>
    cases h
    exact .inl hfollows
  | cons repetition repetitions ih =>
    unfold runRepetitions at h
    obtain ⟨middle, u, hrepetition, h⟩ := Action.bind_returned h
    rw [List.length_cons, Nat.add_comm repetitions.length, ← Nat.add_assoc]
    rcases runRepetition_returned hscript hrepetition with hagrees | ⟨hcounted, hdisagreed⟩
    · exact ih _ (caseFollows_succ hfollows hagrees) h
    · refine .inr ⟨?_, fun hall => hdisagreed ?_⟩
      · have := runRepetitions_mismatches hscript h
        have := hfollows.mismatches
        omega
      · have hone := answered_of_start (exchangesOf_add (done + 1) _) hall
        rw [exchangesOf_succ, answered_append, Nat.add_comm 1, ← hfollows.stepIndex] at hone
        exact hone.2

end Run

/-! ## The cases of a plan -/

/-- At every repetition of a case the subject initialised its ledgers to 0, and at every turn its answers agreed with
the oracle. -/
structure Agrees (world : SchedulerWorld) (scenarios : Scenarios) (case : PlannedCase × Nat) : Prop where
  opened : (world.atCase case.2).opened = .ok .ready
  answered : ∃ scenario script, scenarioOf scenarios case.1 = .ok scenario ∧ scriptOf case.1 scenario = .ok script ∧
    Answered world.fraction (world.atCase case.2).stepped 1 (exchangesOf script scenario scenario.repetitions)

/-- The records that a case has when none of its repetitions is cut short. -/
def recordCount (scenarios : Scenarios) (case : PlannedCase) : Nat :=
  match scenarioOf scenarios case with
  | .ok scenario => scenario.repetitions * scenario.totalTurns
  | .error _ => 0

section Plan

variable {context : LaneContext} {floats : Floats} {world : SchedulerWorld} {scenarios : Scenarios}
  {before after : SchedulerProgress} {s t : List Call}

def SchedulerProgress.mismatches (progress : SchedulerProgress) : Nat :=
  progress.selectionMismatches + progress.receiptMismatches

theorem replayDifferences_replicate (n : Nat) (digest : Str) : replayDifferences (List.replicate n digest) = 0 := by
  cases n with
  | zero => rfl
  | succ n => simp [replayDifferences, List.replicate_succ]

/-- A case that was run to its end agrees and adds all of its records, or a disagreement was counted. -/
theorem runSchedulerCase_returned {case : PlannedCase} {place : Nat}
    (h : Action.run (runSchedulerCase context world scenarios case (world.atCase place) before) s = (.ok after, t)) :
    (Agrees world scenarios (case, place) ∧ after.mismatches = before.mismatches ∧
        after.replayMismatches = before.replayMismatches ∧
        after.rawRecords.length = before.rawRecords.length + recordCount scenarios case) ∨
      (¬ Agrees world scenarios (case, place) ∧ before.mismatches < after.mismatches) := by
  unfold runSchedulerCase at h
  obtain ⟨scenario, hscenario, h⟩ := Session.lift_bind h
  obtain ⟨_, -, h⟩ := Session.lift_bind h
  obtain ⟨status, hopened, h⟩ := Session.request_bind h
  cases status with
  | unsupported => cases h
  | environmentUnavailable => cases h
  | ready =>
    unfold runReadySchedulerCase at h
    obtain ⟨state, u, hrepetitions, h⟩ := Action.bind_returned h
    obtain ⟨⟨observations, descriptors⟩, -, h⟩ := Session.request_bind h
    obtain ⟨_, -, h⟩ := Session.lift_bind h
    obtain ⟨artifacts, -, h⟩ := Session.lift_bind h
    cases h
    obtain ⟨script, hscript⟩ := scriptOf_ok case scenario
    have hstart : CaseFollows world (world.atCase place) scenario script before.enter 0 before.enter :=
      ⟨trivial, rfl, rfl, rfl, by simp⟩
    have hcase := runRepetitions_returned hscript 0 _ hstart hrepetitions
    rw [List.length_range, Nat.zero_add] at hcase
    rcases hcase with hfollows | ⟨hcounted, hdisagreed⟩
    · refine .inl ⟨⟨hopened, scenario, script, hscenario, hscript, hfollows.answered⟩, hfollows.mismatches, ?_, ?_⟩
      · simp [SchedulerProgress.afterCase, hfollows.hashes, replayDifferences_replicate]
      · have hrecords := hfollows.records
        rw [scriptOf_records hscript] at hrecords
        unfold recordCount
        rw [hscenario]
        exact hrecords
    · refine .inr ⟨?_, hcounted⟩
      rintro ⟨-, scenario', script', hscenario', hscript', hall⟩
      rw [hscenario] at hscenario'
      cases hscenario'
      rw [hscript] at hscript'
      cases hscript'
      exact hdisagreed hall

theorem runSchedulerCases_returned {cases : List (PlannedCase × Nat)}
    (h : Action.run (runSchedulerCases context world scenarios cases before) s = (.ok after, t)) :
    ((∀ case ∈ cases, Agrees world scenarios case) ∧ after.mismatches = before.mismatches ∧
        after.replayMismatches = before.replayMismatches ∧
        after.rawRecords.length = before.rawRecords.length + (cases.map fun case => recordCount scenarios case.1).sum) ∨
      ((∃ case ∈ cases, ¬ Agrees world scenarios case) ∧ before.mismatches < after.mismatches) := by
  induction cases generalizing before s with
  | nil =>
    cases h
    exact .inl ⟨by simp, rfl, rfl, by simp⟩
  | cons case cases ih =>
    unfold runSchedulerCases at h
    obtain ⟨middle, u, hcase, h⟩ := Action.bind_returned h
    rcases runSchedulerCase_returned hcase with ⟨hagrees, hcount, hreplay, hrecords⟩ | ⟨hdisagrees, hcount⟩
    · rcases ih h with ⟨hall, hcounts, hreplays, hlength⟩ | ⟨⟨other, hother, hdisagrees⟩, hcounts⟩
      · refine .inl ⟨?_, hcounts.trans hcount, hreplays.trans hreplay, ?_⟩
        · rw [List.forall_mem_cons]
          exact ⟨hagrees, hall⟩
        · rw [hlength, hrecords, List.map_cons, List.sum_cons, Nat.add_assoc]
      · exact .inr ⟨⟨other, by simp [hother], hdisagrees⟩, by omega⟩
    · refine .inr ⟨⟨case, by simp, hdisagrees⟩, ?_⟩
      rcases ih h with ⟨-, hcounts, -⟩ | ⟨-, hcounts⟩
      · omega
      · omega

/-- A run that returns early names a case that the subject did not open. -/
def NotOpened (context : LaneContext) (world : SchedulerWorld) (stop : Stop SchedulerRecord) : Prop :=
  ∀ result, stop = .returned result → result.status ≠ .passed ∧ result.metrics = [] ∧
    ∃ case ∈ context.plan.cases.zipIdx, (world.atCase case.2).opened ≠ .ok .ready

theorem notOpened_raised (error : Raised) : NotOpened context world (.raised error) := by
  intro result h
  cases h

theorem notOpened_lift {α : Type} (e : Except Raised α) :
    Action.Raises (NotOpened context world) (Session.lift e : Session SchedulerRecord α) := by
  apply Action.Raises.lift
  intro stop h
  cases e with
  | error error =>
    cases h
    exact notOpened_raised error
  | ok a => cases h

theorem notOpened_request {α : Type} (call : Call) (answer : Except Raised α) :
    Action.Raises (NotOpened context world) (Session.request call answer : Session SchedulerRecord α) :=
  Action.Raises.bind (Action.Raises.modify _) fun _ => notOpened_lift answer

section Loops

variable (case : PlannedCase) (at_ : SchedulerCase) (scenario : Scenario)

theorem notOpened_turn (turn : Turn) (state : Repetition) :
    Action.Raises (NotOpened context world) (runTurn world case at_ scenario turn state) := by
  unfold runTurn
  refine Action.Raises.bind (notOpened_lift _) fun scheduled => ?_
  refine Action.Raises.bind (notOpened_request _ _) fun _ => ?_
  refine Action.Raises.bind (notOpened_lift _) fun observed => ?_
  refine Action.Raises.bind (notOpened_lift _) fun record => ?_
  split
  · split
    · unfold runReceipt
      refine Action.Raises.bind (notOpened_lift _) fun _ => Action.Raises.bind (notOpened_request _ _) fun _ => ?_
      refine Action.Raises.bind (notOpened_lift _) fun _ => Action.Raises.bind (notOpened_lift _) fun _ => ?_
      exact Action.Raises.pure _
    · exact Action.Raises.bind (notOpened_lift _) fun _ => Action.Raises.pure _
  · exact Action.Raises.pure _

theorem notOpened_segment (turns : List Turn) (state : Repetition) :
    Action.Raises (NotOpened context world) (runSegment world case at_ scenario turns state) := by
  induction turns generalizing state with
  | nil => exact Action.Raises.pure _
  | cons turn turns ih =>
    unfold runSegment
    refine Action.Raises.bind (notOpened_turn case at_ scenario turn state) fun next => ?_
    split
    · exact Action.Raises.pure _
    · exact ih next

theorem notOpened_segments (segments : List (Segment × Nat)) (state : Repetition) :
    Action.Raises (NotOpened context world) (runSegments world case at_ scenario segments state) := by
  induction segments generalizing state with
  | nil => exact Action.Raises.pure _
  | cons segment segments ih =>
    unfold runSegments
    split
    · exact Action.Raises.pure _
    · exact Action.Raises.bind (notOpened_segment case at_ scenario _ state) fun next => ih next

theorem notOpened_repetitions (repetitions : List Nat) (state : CaseState) :
    Action.Raises (NotOpened context world) (runRepetitions world case at_ scenario repetitions state) := by
  induction repetitions generalizing state with
  | nil => exact Action.Raises.pure _
  | cons repetition repetitions ih =>
    unfold runRepetitions
    refine Action.Raises.bind ?_ fun next => ih next
    unfold runRepetition
    refine Action.Raises.bind (notOpened_request _ _) fun _ => Action.Raises.bind (notOpened_lift _) fun _ => ?_
    exact Action.Raises.bind (notOpened_segments case at_ scenario _ _) fun _ => Action.Raises.pure _

end Loops

theorem notOpened_requestBind {α β : Type} {call : Call} {answer : Except Raised α}
    {f : α → Session SchedulerRecord β}
    (hf : ∀ a, answer = .ok a → Action.Raises (NotOpened context world) (f a)) :
    Action.Raises (NotOpened context world) (Session.request call answer >>= f) := by
  intro s stop t h
  rw [Action.run_bind] at h
  rcases hrun : Action.run (Session.request (ρ := SchedulerRecord) call answer) s with ⟨error | a, u⟩
  · rw [hrun] at h
    cases h
    exact notOpened_request call answer s _ _ hrun
  · rw [hrun] at h
    exact hf a (Session.request_returned hrun).1 u stop t h

theorem notOpened_case {case : PlannedCase} {place : Nat} (hcase : (case, place) ∈ context.plan.cases.zipIdx)
    (progress : SchedulerProgress) : Action.Raises (NotOpened context world)
      (runSchedulerCase context world scenarios case (world.atCase place) progress) := by
  unfold runSchedulerCase
  refine Action.Raises.bind (notOpened_lift _) fun scenario => Action.Raises.bind (notOpened_lift _) fun _ => ?_
  refine notOpened_requestBind fun status hopened => ?_
  have hrefused : ∀ refused name, status ≠ .ready → refused ≠ .passed →
      NotOpened context world (.returned (notReady context progress case refused name)) := by
    intro refused name hstatus hrefused result h
    cases h
    refine ⟨hrefused, rfl, (case, place), hcase, fun hready => hstatus ?_⟩
    exact Except.ok.inj (hopened.symm.trans hready)
  cases status with
  | unsupported => exact Action.Raises.throw (hrefused _ _ (by decide) (by decide))
  | environmentUnavailable => exact Action.Raises.throw (hrefused _ _ (by decide) (by decide))
  | ready =>
    show Action.Raises _ (runReadySchedulerCase world case (world.atCase place) scenario progress)
    unfold runReadySchedulerCase
    refine Action.Raises.bind (notOpened_repetitions case _ scenario _ _) fun _ => ?_
    refine Action.Raises.bind (notOpened_request _ _) fun _ => Action.Raises.bind (notOpened_lift _) fun _ => ?_
    exact Action.Raises.bind (notOpened_lift _) fun _ => Action.Raises.pure _

theorem notOpened_cases (cases : List (PlannedCase × Nat)) (hcases : cases ⊆ context.plan.cases.zipIdx)
    (progress : SchedulerProgress) :
    Action.Raises (NotOpened context world) (runSchedulerCases context world scenarios cases progress) := by
  induction cases generalizing progress with
  | nil => exact Action.Raises.pure _
  | cons case cases ih =>
    unfold runSchedulerCases
    refine Action.Raises.bind (notOpened_case (hcases (by simp)) progress) fun next => ?_
    exact ih (fun c hc => hcases (by simp [hc])) next

theorem notOpened_run : Action.Raises (NotOpened context world) (schedulerRun context floats world) := by
  unfold schedulerRun
  refine Action.Raises.bind (notOpened_lift _) fun scenarios => ?_
  exact Action.Raises.bind (notOpened_cases _ (List.Subset.refl _) _) fun _ => notOpened_lift _

end Plan

/-! ## The verdict of the lane -/

/-- All three metrics are 0. -/
def noMismatches : List (Str × Metric) :=
  [(lit "oracle_selection_mismatch_count", .int 0), (lit "receipt_ledger_mismatch_count", .int 0),
    (lit "plan_trace_hash_mismatch_count", .int 0)]

theorem schedulerMetrics_zero (progress : SchedulerProgress) : schedulerMetrics progress = noMismatches ↔
    progress.mismatches = 0 ∧ progress.replayMismatches = 0 := by
  simp [schedulerMetrics, noMismatches, SchedulerProgress.mismatches, and_assoc]

/-- A lane that reported agrees with the oracle at every turn exactly where its metrics are 0, and then has the records
of every turn of every repetition. -/
theorem scheduler_lane_iff (context : LaneContext) (floats : Floats) (world : SchedulerWorld)
    (result : LaneResult SchedulerRecord) (h : runSchedulerLane context floats world = .ok result) :
    ∃ scenarios, world.suite = .ok scenarios ∧
      (result.metrics = noMismatches ↔ ∀ case ∈ context.plan.cases.zipIdx, Agrees world scenarios case) ∧
      (result.metrics = noMismatches →
        result.rawRecords.length = (context.plan.cases.map (recordCount scenarios)).sum) := by
  have hsuite : ∀ scenarios, requireSuite context world = .ok scenarios → world.suite = .ok scenarios := by
    intro scenarios h
    unfold requireSuite at h
    split at h
    · cases h
    · exact h
  unfold runSchedulerLane at h
  rcases hrun : Action.run (schedulerRun context floats world) [] with ⟨(error | returned) | returned, t⟩
  all_goals
    rw [hrun] at h
    cases h
  · obtain ⟨-, hmetrics, case, hcase, hclosed⟩ := notOpened_run _ _ _ hrun result rfl
    cases hrequire : requireSuite context world with
    | error error =>
      unfold schedulerRun at hrun
      rw [hrequire] at hrun
      cases hrun
    | ok scenarios =>
      have hnot : result.metrics ≠ noMismatches := by simp [hmetrics, noMismatches]
      refine ⟨scenarios, hsuite scenarios hrequire, ⟨fun heq => absurd heq hnot, fun hall => ?_⟩,
        fun heq => absurd heq hnot⟩
      exact absurd (hall case hcase).opened hclosed
  · unfold schedulerRun at hrun
    obtain ⟨scenarios, hrequire, hrun⟩ := Session.lift_bind hrun
    obtain ⟨progress, u, hcases, hrun⟩ := Action.bind_returned hrun
    obtain ⟨hfinish, -⟩ := Action.lift_returned hrun
    rcases hresult : finishScheduler context floats world progress with error | finished
    · rw [hresult] at hfinish
      cases hfinish
    rw [hresult] at hfinish
    cases hfinish
    unfold finishScheduler at hresult
    obtain ⟨_, -, hresult⟩ := bind_ok_iff.mp hresult
    obtain ⟨_, -, hresult⟩ := bind_ok_iff.mp hresult
    cases hresult
    refine ⟨scenarios, hsuite scenarios hrequire, ?_⟩
    show (schedulerMetrics progress = noMismatches ↔ _) ∧
      (schedulerMetrics progress = noMismatches → progress.rawRecords.length = _)
    rw [schedulerMetrics_zero]
    rcases runSchedulerCases_returned hcases with ⟨hall, hcount, hreplay, hlength⟩ | ⟨⟨case, hcase, hnot⟩, hcount⟩
    · refine ⟨⟨fun _ => hall, fun _ => ⟨hcount, hreplay⟩⟩, fun _ => ?_⟩
      have hsum : (context.plan.cases.zipIdx.map fun case => recordCount scenarios case.1) =
          context.plan.cases.map (recordCount scenarios) := by
        conv_rhs => rw [← List.zipIdx_map_fst 0 context.plan.cases, List.map_map]
        rfl
      rw [hlength, hsum]
      exact Nat.zero_add _
    · have hsome : progress.mismatches ≠ 0 := by omega
      exact ⟨⟨fun hzero => absurd hzero.1 hsome, fun hall => absurd (hall case hcase) hnot⟩,
        fun hzero => absurd hzero.1 hsome⟩

/-! ## A subject that agrees -/

def alphaTemplate : CandidateTemplate where
  candidateId := lit "alpha-decode"
  modelId := lit "alpha"
  executionPhase := lit "decode"
  serviceClass := lit "standard"
  engineServiceBoundUs := 1
  runtimeOverheadBoundUs := 0
  actualEngineServiceUs := 1
  timingObligationOffsetUs := none
  capabilityAuthorized := true
  resourceSafe := true
  timingFeasible := true
  outputReserved := true
  actual_pos := by decide
  actual_le := by decide

/-- One turn, twice. -/
def alphaScenario : Scenario where
  scenarioId := lit "weighted-service-1-to-3"
  repetitions := 2
  clockStartUs := 0
  models := [SchedulerOracle.alpha]
  segments := [⟨1, 1, [alphaTemplate], by decide, by decide, by decide⟩]
  repetitions_bounds := by decide
  distinct := by decide
  known := by decide

def schedulerLane : ExpectationLane :=
  { twoCaseLane with
    harness := { twoCaseLane.harness with legacyEntrypoint := some (lit "suite.json") }
    matrices := only _ ⟨matrixName,
      only _ ⟨⟨lit "scenario", by decide⟩, only _ (.str (lit "weighted_service"))⟩⟩
    gates := only _ { zeroGate with
      metric := ⟨lit "oracle_selection_mismatch_count", by decide⟩ } }

def schedulerContext : LaneContext where
  lane := schedulerLane
  suite := countSuite
  plan := ⟨lit "a", lit "suite", plannedCases schedulerLane countSuite 1 schedulerLane.matrices.items⟩
  frozenThresholds := [(lit "oracle_selection_mismatch_count", .int 0)]

def ledgersOf (value : String) : Mapping Json := ⟨[(lit "model_ledgers_us", fields [("alpha", text value)])], by simp⟩

/-- Each repetition takes three steps. -/
def alphaAnswer (step : Nat) : Mapping Json :=
  if step % 3 = 1 then ledgersOf "0/1"
  else if step % 3 = 2 then
    ⟨[(lit "candidate_id", text "alpha-decode"), (lit "runnable_ledgers_us", fields [("alpha", text "0/1")])], by decide⟩
  else ledgersOf "1/2"

def alphaWorld : SchedulerWorld where
  suite := .ok (only _ alphaScenario)
  fraction value := if value = lit "0/1" then some 0 else some (1 / 2)
  sha256 _ := sampleDigest
  atCase _ := ⟨.ok (), .ok .ready, fun step => .ok (alphaAnswer step), .ok (noMembers, []), fun _ => .missing []⟩
  written _ := .ok (3, sampleDigest)

theorem scheduler_lane_iff_sample : ∃ result, runSchedulerLane schedulerContext exactFloats alphaWorld = .ok result ∧
    result.metrics = noMismatches ∧ ∃ scenarios, alphaWorld.suite = .ok scenarios ∧
      ∀ case ∈ schedulerContext.plan.cases.zipIdx, Agrees alphaWorld scenarios case := by
  obtain ⟨result, hresult⟩ := ok_of_isSome (runSchedulerLane schedulerContext exactFloats alphaWorld)
    (by decide +kernel)
  have hzero : ∀ r ∈ (runSchedulerLane schedulerContext exactFloats alphaWorld).toOption, r.metrics = noMismatches := by
    decide +kernel
  have hmetrics := hzero result (by rw [hresult]; rfl)
  obtain ⟨scenarios, hsuite, hiff, -⟩ := scheduler_lane_iff schedulerContext exactFloats alphaWorld result hresult
  exact ⟨result, hresult, hmetrics, scenarios, hsuite, hiff.mp hmetrics⟩

end TurnVector.Lanes
