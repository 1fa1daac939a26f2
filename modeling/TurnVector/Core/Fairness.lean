import TurnVector.Core.Clock

/-! # Fairness of the oracle

A model that goes idle earns no credit, and no model gets ahead of another by more than one charge.
-/

namespace TurnVector.SchedulerOracle

open Python Fair

/-! ## One call -/

theorem after_clearNoPlan (s : SchedulerOracle) : s.after .clearNoPlan = s := by
  rw [after, clearNoPlan, Method.call_bind_ok (Method.call_get s), Method.call_ite]
  split <;> rfl

/-- A call raises and leaves the oracle as it was, or it is one of the two steps of the clock. -/
theorem after_cases (s : SchedulerOracle) (hs : s.Sound) (call : Call) :
    s.after call = s ∨
    (∃ now candidates, call = .schedule now candidates ∧ s.after call = s.scheduled now candidates) ∨
    (∃ candidateId modelId actual w, call = .acceptReceipt candidateId modelId actual ∧ s.Due candidateId modelId w ∧
      s.after call = s.charged modelId (actual / w)) := by
  cases call with
  | schedule now candidates =>
    cases hp : s.pending with
    | some c => exact Or.inl (by rw [after, schedule_pending s now candidates (by rw [hp]; rfl)])
    | none =>
      obtain ⟨r, -, hr⟩ := schedule_call s hs now candidates hp
      exact Or.inr (Or.inl ⟨now, candidates, rfl, by rw [after, hr]⟩)
  | acceptReceipt candidateId modelId actual =>
    by_cases hdue : ∃ w, s.Due candidateId modelId w
    · obtain ⟨w, hw⟩ := hdue
      exact Or.inr (Or.inr ⟨candidateId, modelId, actual, w, rfl, hw, by
        rw [after, acceptReceipt_due s hs candidateId modelId actual w hw]⟩)
    · obtain ⟨e, he⟩ := acceptReceipt_not_due s hs candidateId modelId actual hdue
      exact Or.inl (by rw [after, he])
  | clearNoPlan => exact Or.inl (after_clearNoPlan s)

theorem scheduled_clock (s : SchedulerOracle) (now : Int) (candidates : List Candidate) :
    (s.scheduled now candidates).clock = s.clock.resync (currentOf candidates) := synced_clock s _

theorem scheduled_sound (s : SchedulerOracle) (hs : s.Sound) (now : Int) (candidates : List Candidate) :
    (s.scheduled now candidates).Sound where
  known := synced_known s hs (currentOf candidates)
  pending_runnable c hc := mem_currentOf candidates c (choice_mem _ now candidates c hc)
  weights_pos := hs.weights_pos
  anchored := by
    rw [scheduled_clock]
    exact Clock.resync_anchored _ _

theorem charged_sound (s : SchedulerOracle) (hs : s.Sound) (modelId : Str) (x : ℚ) : (s.charged modelId x).Sound where
  known m hm := Finmap.mem_insert.mpr (Or.inr (hs.known m hm))
  pending_runnable c hc := by cases hc
  weights_pos := hs.weights_pos
  anchored := by
    rw [charged_clock]
    exact Clock.charge_anchored _ _ _

theorem after_sound (s : SchedulerOracle) (hs : s.Sound) (call : Call) : (s.after call).Sound := by
  rcases after_cases s hs call with h | ⟨now, candidates, -, h⟩ | ⟨_, modelId, actual, w, -, -, h⟩
  · rw [h]
    exact hs
  · rw [h]
    exact scheduled_sound s hs now candidates
  · rw [h]
    exact charged_sound s hs modelId (actual / w)

/-! ## Runs -/

theorem init_weights_pos (models : List ModelConfig) (m : Str) (w : Nat)
    (h : (init models).weights.lookup m = some w) : 0 < w := by
  simp only [init] at h
  rw [foldl_insert_lookup, Finmap.lookup_empty, Option.or_none, Option.map_eq_some_iff] at h
  obtain ⟨model, -, rfl⟩ := h
  exact model.weight_pos

theorem init_sound (models : List ModelConfig) : (init models).Sound where
  known m hm := by cases hm
  pending_runnable c hc := by cases hc
  weights_pos := init_weights_pos models
  anchored := by
    rintro ⟨m, hm⟩
    cases hm

theorem run_snoc (models : List ModelConfig) (calls : List Call) (call : Call) :
    run models (calls ++ [call]) = (run models calls).after call := by
  simp only [run, List.foldl_append, List.foldl_cons, List.foldl_nil]

theorem run_sound (models : List ModelConfig) (calls : List Call) : (run models calls).Sound := by
  induction calls using List.reverseRecOn with
  | nil => exact init_sound models
  | append_singleton calls call ih =>
    rw [run_snoc]
    exact after_sound _ ih call

/-! ## Re-entry -/

/-- The service that a receipt charges is positive. -/
def Call.Positive : Call → Prop
  | .acceptReceipt _ _ actual => 0 < actual
  | _ => True

theorem after_baseline (s : SchedulerOracle) (hs : s.Sound) (call : Call) (hpos : call.Positive) :
    s.baseline ≤ (s.after call).baseline := by
  rcases after_cases s hs call with h | ⟨now, candidates, -, h⟩ | ⟨_, modelId, actual, w, rfl, -, h⟩
  · rw [h]
  · rw [h]
    exact Clock.resync_baseline s.clock hs.anchored (currentOf candidates)
  · rw [h]
    have hx : (0 : ℚ) ≤ actual / w := div_nonneg (by exact_mod_cast le_of_lt hpos) (Nat.cast_nonneg w)
    exact Clock.charge_baseline s.clock hs.anchored modelId _ hx

/-- A model that enters the runnable set is given the alignment of the clock. -/
theorem after_entered (s : SchedulerOracle) (hs : s.Sound) (call : Call) (m : Str)
    (hm : m ∈ (s.after call).runnable) (hnew : m ∉ s.runnable) :
    (s.after call).clock = s.clock.resync (s.after call).runnable := by
  rcases after_cases s hs call with h | ⟨now, candidates, -, h⟩ | ⟨_, modelId, actual, w, -, -, h⟩
  · rw [h] at hm
    exact absurd hm hnew
  · rw [h]
    exact scheduled_clock s now candidates
  · rw [h] at hm
    exact absurd hm hnew

/-- Idle time earns no credit: the baseline never falls, it is the least runnable ledger after every call, and a
model that comes back starts level with the least of those that stayed, or at the baseline when none did. -/
theorem reentry_earns_no_credit (models : List ModelConfig) (calls : List Call) (call : Call)
    (hpos : call.Positive) :
    let s := run models calls
    let s' := s.after call
    s.baseline ≤ s'.baseline ∧
    (∀ m ∈ s'.runnable, m ∈ s'.ledgers ∧ s'.baseline ≤ s'.ledger m) ∧
    (s'.runnable.Nonempty → IsLeast (s'.ledger '' s'.runnable) s'.baseline) ∧
    ∀ m ∈ s'.runnable, m ∉ s.runnable →
      ((s'.runnable ∩ s.runnable).Nonempty → IsLeast (s.ledger '' ↑(s'.runnable ∩ s.runnable)) (s'.ledger m)) ∧
      (¬ (s'.runnable ∩ s.runnable).Nonempty → s'.ledger m = s.baseline) ∧
      s.baseline ≤ s'.ledger m ∧
      ∀ j ∈ s'.runnable ∩ s.runnable, s'.ledger j = s.ledger j ∧ s'.ledger m ≤ s'.ledger j := by
  intro s s'
  have hs : s.Sound := run_sound models calls
  have hs' : s'.Sound := after_sound s hs call
  refine ⟨after_baseline s hs call hpos, ?_, hs'.anchored, ?_⟩
  · intro m hm
    exact ⟨hs'.known m hm, Clock.anchored_le s'.clock hs'.anchored m hm⟩
  · intro m hm hnew
    have hclock := after_entered s hs call m hm hnew
    have hledger : s'.ledger = s.clock.aligned s'.runnable := congrArg Clock.ledger hclock
    have hm' : s'.ledger m = s.clock.alignment s'.runnable := by
      rw [hledger]
      exact Clock.aligned_new s.clock s'.runnable m hm hnew
    refine ⟨?_, ?_, ?_, ?_⟩
    · intro hne
      rw [hm']
      exact Clock.least_isLeast _ _ _ hne
    · intro hne
      rw [hm']
      exact Clock.least_empty _ _ _ hne
    · rw [hm']
      exact Clock.baseline_le_alignment s.clock hs.anchored s'.runnable
    · intro j hj
      obtain ⟨hj', hjr⟩ := Finset.mem_inter.mp hj
      have hstay : s'.ledger j = s.ledger j := by
        rw [hledger]
        exact Clock.aligned_old s.clock s'.runnable j hjr
      refine ⟨hstay, ?_⟩
      rw [hstay, hm']
      exact Clock.alignment_le s.clock s'.runnable j hj' hjr

def alpha : ModelConfig := ⟨lit "alpha", 2, by decide⟩

/-- A candidate of the model `alpha`. -/
def alphaDecode : Candidate :=
  ⟨lit "alpha-decode", lit "alpha", lit "decode", lit "standard", 10, 1, none, true, true, true, true⟩

theorem reentry_earns_no_credit_at_receipt :
    let s := run [alpha] [.schedule 0 [alphaDecode]]
    let call := Call.acceptReceipt (lit "alpha-decode") (lit "alpha") 7
    call.Positive ∧ s.baseline ≤ (s.after call).baseline := by
  intro s call
  have hpos : call.Positive := by
    show (0 : Int) < 7
    decide
  exact ⟨hpos, (reentry_earns_no_credit [alpha] [.schedule 0 [alphaDecode]] call hpos).1⟩

/-! ## The gap between two models -/

/-- What a call charges, and to whom. -/
def chargeOf (s : SchedulerOracle) : Call → List (Str × ℚ)
  | .acceptReceipt candidateId modelId actual =>
    match ((acceptReceipt candidateId modelId actual).call s).1, s.weights.lookup modelId with
    | .ok _, some w => [(modelId, actual / w)]
    | _, _ => []
  | .schedule _ _ => []
  | .clearNoPlan => []

/-- All that a run charges. -/
def charges (s : SchedulerOracle) : List Call → List (Str × ℚ)
  | [] => []
  | call :: calls => s.chargeOf call ++ (s.after call).charges calls

/-- The largest charge to a model, and zero when there is none. -/
def largest (charged : List (Str × ℚ)) (m : Str) : ℚ := ((charged.filter (·.1 = m)).map (·.2)).foldl max 0

/-- No urgent decision, and a receipt stays within the bound that its candidate declared. -/
def Call.Normal (s : SchedulerOracle) : Call → Prop
  | .schedule now candidates => ∀ selected decision ledgers,
      ((SchedulerOracle.schedule now candidates).call s).1 = .ok (selected, decision, ledgers) → decision ≠ .urgent
  | .acceptReceipt candidateId modelId actual => ∀ c, s.pending = some c → c.candidateId = candidateId →
      c.modelId = modelId → 1 ≤ actual ∧ actual ≤ c.engineServiceBoundUs
  | .clearNoPlan => True

def NormalRun (s : SchedulerOracle) : List Call → Prop
  | [] => True
  | call :: calls => call.Normal s ∧ (s.after call).NormalRun calls

theorem charges_snoc (s : SchedulerOracle) (calls : List Call) (call : Call) :
    s.charges (calls ++ [call]) = s.charges calls ++ (calls.foldl after s).chargeOf call := by
  induction calls generalizing s with
  | nil => simp [charges]
  | cons c calls ih => rw [List.cons_append, charges, ih, charges, List.append_assoc, List.foldl_cons]

theorem normalRun_snoc (s : SchedulerOracle) (calls : List Call) (call : Call) :
    s.NormalRun (calls ++ [call]) ↔ s.NormalRun calls ∧ call.Normal (calls.foldl after s) := by
  induction calls generalizing s with
  | nil => simp [NormalRun]
  | cons c calls ih => rw [List.cons_append, NormalRun, ih, NormalRun, List.foldl_cons, and_assoc]

theorem foldl_max_le (qs : List ℚ) (q : ℚ) : q ≤ qs.foldl max q := by
  induction qs generalizing q with
  | nil => exact le_rfl
  | cons r qs ih => exact (le_max_left q r).trans (ih (max q r))

theorem largest_nonneg (charged : List (Str × ℚ)) (m : Str) : 0 ≤ largest charged m := foldl_max_le _ 0

theorem largest_snoc (charged : List (Str × ℚ)) (p : Str × ℚ) (m : Str) :
    largest (charged ++ [p]) m = if p.1 = m then max (largest charged m) p.2 else largest charged m := by
  simp only [largest, List.filter_append]
  by_cases h : p.1 = m
  · simp [h, List.foldl_append]
  · simp [h]

/-- What a normal run keeps. The pending model is behind no other until its receipt. -/
structure Fair (s : SchedulerOracle) (charged : List (Str × ℚ)) : Prop where
  sound : s.Sound
  within : s.clock.Within (largest charged)
  pending_least : ∀ c, s.pending = some c → ∀ j ∈ s.runnable, s.ledger c.modelId ≤ s.ledger j

theorem scheduled_fair (s : SchedulerOracle) (charged : List (Str × ℚ)) (h : s.Fair charged) (now : Int)
    (candidates : List Candidate) (hn : ((s.synced (currentOf candidates)).choice now candidates).2 ≠ .urgent) :
    (s.scheduled now candidates).Fair charged where
  sound := scheduled_sound s h.sound now candidates
  within := by
    rw [scheduled_clock]
    exact Clock.resync_within s.clock _ (largest_nonneg charged) h.within _
  pending_least c hc := choice_normal _ now candidates c hc hn

theorem charged_fair (s : SchedulerOracle) (charged : List (Str × ℚ)) (h : s.Fair charged) (c : Candidate)
    (hc : s.pending = some c) (x : ℚ) (hx : 0 ≤ x) :
    (s.charged c.modelId x).Fair (charged ++ [(c.modelId, x)]) where
  sound := charged_sound s h.sound c.modelId x
  within := by
    rw [charged_clock]
    apply Clock.charge_within s.clock _ _ h.within c.modelId x hx (h.pending_least c hc)
    · intro i
      rw [largest_snoc]
      split
      · exact le_max_left _ _
      · exact le_rfl
    · rw [largest_snoc, if_pos rfl]
      exact le_max_right _ _
  pending_least d hd := by cases hd

theorem after_fair (s : SchedulerOracle) (charged : List (Str × ℚ)) (h : s.Fair charged) (call : Call)
    (hn : call.Normal s) : (s.after call).Fair (charged ++ s.chargeOf call) := by
  cases call with
  | schedule now candidates =>
    rw [chargeOf, List.append_nil, after]
    cases hp : s.pending with
    | some c =>
      rw [schedule_pending s now candidates (by rw [hp]; rfl)]
      exact h
    | none =>
      obtain ⟨r, -, hr⟩ := schedule_call s h.sound now candidates hp
      rw [hr]
      exact scheduled_fair s charged h now candidates (hn _ _ _ (by rw [hr]))
  | acceptReceipt candidateId modelId actual =>
    by_cases hdue : ∃ w, s.Due candidateId modelId w
    case neg =>
      obtain ⟨e, he⟩ := acceptReceipt_not_due s h.sound candidateId modelId actual hdue
      simp only [chargeOf, after, he, List.append_nil]
      exact h
    case pos =>
      obtain ⟨w, hw⟩ := hdue
      have hr := acceptReceipt_due s h.sound candidateId modelId actual w hw
      obtain ⟨c, hp, hc, hm, hweight⟩ := hw
      simp only [chargeOf, after, hr, hweight]
      subst hm
      obtain ⟨hone, -⟩ := hn c hp hc rfl
      have hx : (0 : ℚ) ≤ actual / w := div_nonneg (by exact_mod_cast (by omega : 0 ≤ actual)) (Nat.cast_nonneg w)
      exact charged_fair s charged h c hp _ hx
  | clearNoPlan =>
    rw [chargeOf, List.append_nil, after_clearNoPlan]
    exact h

theorem run_fair (models : List ModelConfig) (calls : List Call) (hn : (init models).NormalRun calls) :
    (run models calls).Fair ((init models).charges calls) := by
  induction calls using List.reverseRecOn with
  | nil =>
    refine ⟨init_sound models, ?_, ?_⟩
    · intro i hi
      cases hi
    · intro c hc
      cases hc
  | append_singleton calls call ih =>
    obtain ⟨hcalls, hcall⟩ := (normalRun_snoc _ _ _).mp hn
    rw [run_snoc, charges_snoc]
    exact after_fair _ _ (ih hcalls) call hcall

/-- In a run without urgent decisions no runnable model is ahead of another by more than its largest charge. -/
theorem ledger_gap_le_largest (models : List ModelConfig) (calls : List Call) (hn : (init models).NormalRun calls) :
    ∀ i ∈ (run models calls).runnable, ∀ j ∈ (run models calls).runnable,
      (run models calls).ledger i - (run models calls).ledger j ≤ largest ((init models).charges calls) i :=
  (run_fair models calls hn).within

theorem alpha_normalRun : (init [alpha]).NormalRun
    [.schedule 0 [alphaDecode], .acceptReceipt (lit "alpha-decode") (lit "alpha") 7] := by
  obtain ⟨r, -, hr⟩ := schedule_call (init [alpha]) (init_sound [alpha]) 0 [alphaDecode] rfl
  refine ⟨?_, ?_, trivial⟩
  · intro selected decision ledgers h
    rw [hr] at h
    cases h
    decide
  · intro c hc _ _
    simp only [after, hr] at hc
    have hmem := choice_mem ((init [alpha]).synced (currentOf [alphaDecode])) 0 [alphaDecode] c hc
    have hcand : c = alphaDecode := List.mem_singleton.mp (List.mem_of_mem_filter hmem)
    subst hcand
    decide

theorem ledger_gap_le_largest_at_receipt :
    let calls := [.schedule 0 [alphaDecode], .acceptReceipt (lit "alpha-decode") (lit "alpha") 7]
    (init [alpha]).NormalRun calls ∧ ∀ i ∈ (run [alpha] calls).runnable, ∀ j ∈ (run [alpha] calls).runnable,
      (run [alpha] calls).ledger i - (run [alpha] calls).ledger j ≤ largest ((init [alpha]).charges calls) i :=
  ⟨alpha_normalRun, ledger_gap_le_largest [alpha] _ alpha_normalRun⟩

end TurnVector.SchedulerOracle
