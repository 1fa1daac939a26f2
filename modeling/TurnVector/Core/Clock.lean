import TurnVector.Core

/-! # The clock that the oracle keeps

What each call of the oracle does, and that it is a step of the fair-sharing clock.
-/

namespace TurnVector.SchedulerOracle

open Python Fair

def ledger (s : SchedulerOracle) (m : Str) : ℚ := (s.ledgers.lookup m).getD 0

/-- The clock of an oracle. -/
def clock (s : SchedulerOracle) : Clock Str ℚ := ⟨s.ledger, s.runnable, s.baseline⟩

@[simp] theorem clock_ledger (s : SchedulerOracle) : s.clock.ledger = s.ledger := rfl
@[simp] theorem clock_runnable (s : SchedulerOracle) : s.clock.runnable = s.runnable := rfl
@[simp] theorem clock_baseline (s : SchedulerOracle) : s.clock.baseline = s.baseline := rfl

/-- What every reachable oracle keeps: no dict read misses, and the baseline is the least runnable ledger. -/
structure Sound (s : SchedulerOracle) : Prop where
  known : ∀ m ∈ s.runnable, m ∈ s.ledgers
  pending_runnable : ∀ c, s.pending = some c → c.modelId ∈ s.runnable
  weights_pos : ∀ m w, s.weights.lookup m = some w → 0 < w
  anchored : s.clock.Anchored

theorem lookup_of_mem (s : SchedulerOracle) (m : Str) (h : m ∈ s.ledgers) : s.ledgers.lookup m = some (s.ledger m) := by
  obtain ⟨q, hq⟩ := Finmap.mem_iff.mp h
  rw [ledger, hq]
  rfl

/-! ## `_sync_runnable` -/

/-- The oracle once it is in step with the models that run now. -/
def synced (s : SchedulerOracle) (current : Finset Str) : SchedulerOracle :=
  { s with
    ledgers := fill s.ledgers (s.clock.alignment current) (sorted (current \ s.runnable))
    runnable := current
    baseline := (s.clock.resync current).baseline }

theorem synced_lookup (s : SchedulerOracle) (current : Finset Str) (m : Str) :
    (s.synced current).ledgers.lookup m =
      if m ∈ current ∧ m ∉ s.runnable then some (s.clock.alignment current) else s.ledgers.lookup m := by
  simp only [synced, fill_lookup, mem_sorted, Finset.mem_sdiff]

theorem synced_ledger (s : SchedulerOracle) (current : Finset Str) (m : Str) :
    (s.synced current).ledger m = (s.clock.resync current).ledger m := by
  rw [ledger, synced_lookup]
  by_cases h : m ∈ current ∧ m ∉ s.runnable
  · rw [if_pos h]
    exact (if_pos h).symm
  · rw [if_neg h]
    exact (if_neg h).symm

theorem synced_clock (s : SchedulerOracle) (current : Finset Str) :
    (s.synced current).clock = s.clock.resync current := by
  have hl : (s.synced current).ledger = (s.clock.resync current).ledger := funext (synced_ledger s current)
  rw [clock, hl]
  rfl

theorem synced_baseline (s : SchedulerOracle) (current : Finset Str) :
    Clock.least current (s.synced current).ledger s.baseline = (s.synced current).baseline := by
  rw [funext (synced_ledger s current)]
  rfl

theorem synced_known (s : SchedulerOracle) (hs : s.Sound) (current : Finset Str) (m : Str) (hm : m ∈ current) :
    m ∈ (s.synced current).ledgers := by
  rw [Finmap.mem_iff, synced_lookup]
  by_cases hr : m ∈ s.runnable
  · rw [if_neg fun h => h.2 hr]
    exact Finmap.mem_iff.mp (hs.known m hr)
  · rw [if_pos ⟨hm, hr⟩]
    exact ⟨_, rfl⟩

/-- A minimum over models with a ledger is the clock's least. -/
theorem minItem_least (d : Dict ℚ) (keys : Finset Str) (value : Str → ℚ) (baseline : ℚ) (hne : keys.Nonempty)
    (h : ∀ k ∈ keys, d.lookup k = some (value k)) : minItem d keys = .ok (Clock.least keys value baseline) := by
  obtain ⟨q, hq, hl⟩ := minItem_ok d keys value hne h
  rw [hq, hl.unique (Clock.least_isLeast keys value baseline hne)]

theorem alignmentOf_eq (s : SchedulerOracle) (hs : s.Sound) (current : Finset Str) :
    s.alignmentOf (current ∩ s.runnable) = .ok (s.clock.alignment current) := by
  unfold alignmentOf
  split
  · rename_i hne
    rw [minItem_least s.ledgers _ s.ledger s.baseline hne]
    · rfl
    · intro m hm
      exact lookup_of_mem s m (hs.known m (Finset.mem_inter.mp hm).2)
  · rename_i hne
    simp only [Clock.alignment, clock_runnable, Clock.least_empty _ _ _ hne, clock_baseline]

theorem rebase_call (s : SchedulerOracle) (models : Finset Str) (h : ∀ m ∈ models, m ∈ s.ledgers) :
    (rebase models).call s = (.ok (), { s with baseline := Clock.least models s.ledger s.baseline }) := by
  rw [rebase, Method.call_ite]
  split
  · rename_i hne
    have hmin := minItem_least s.ledgers models s.ledger s.baseline hne fun m hm => lookup_of_mem s m (h m hm)
    rw [Method.call_bind_ok (Method.call_get s), hmin]
    rfl
  · rename_i hne
    rw [Method.call_pure, Clock.least_empty _ _ _ hne]

theorem syncRunnable_call (s : SchedulerOracle) (hs : s.Sound) (candidates : List Candidate) :
    (syncRunnable candidates).call s =
      (pick (s.synced (currentOf candidates)).ledgers (currentOf candidates), s.synced (currentOf candidates)) := by
  have hrebase := rebase_call { s.synced (currentOf candidates) with baseline := s.baseline } (currentOf candidates)
    (synced_known s hs (currentOf candidates))
  rw [syncRunnable, Method.call_bind_ok (Method.call_get s), alignmentOf_eq s hs,
    Method.call_bind_ok (Method.call_liftM _ s), Method.call_bind_ok (Method.call_modify _ _),
    Method.call_bind_ok (Method.call_modify _ _)]
  refine (Method.call_bind_ok hrebase _).trans ?_
  rw [Method.call_bind_ok (Method.call_get _), Method.call_liftM]
  exact congrArg (fun q => (pick (s.synced (currentOf candidates)).ledgers (currentOf candidates),
    { s.synced (currentOf candidates) with baseline := q })) (synced_baseline s (currentOf candidates))

/-! ## `schedule` -/

def urgentRank (s : SchedulerOracle) (c : Candidate) : Lex (Int × Lex (ℚ × Str)) :=
  toLex (c.latestSafeStartUs.getD 0, toLex (s.ledger c.modelId, c.candidateId))

def normalRank (s : SchedulerOracle) (c : Candidate) : Lex (ℚ × Lex (Str × Str)) :=
  toLex (s.ledger c.modelId, toLex (c.modelId, c.candidateId))

/-- The choice when every eligible candidate's model has a ledger. -/
def choice (s : SchedulerOracle) (nowUs : Int) (candidates : List Candidate) : Option Candidate × DecisionClass :=
  let eligible := candidates.filter (·.eligible)
  let urgent := eligible.filter (·.isUrgent nowUs)
  if !urgent.isEmpty then (leastBy s.urgentRank urgent, .urgent)
  else if !eligible.isEmpty then (leastBy s.normalRank eligible, .normal)
  else (none, .noPlan)

theorem mem_currentOf (candidates : List Candidate) (c : Candidate) (hc : c ∈ candidates.filter (·.eligible)) :
    c.modelId ∈ currentOf candidates := by
  rw [currentOf, List.mem_toFinset]
  exact List.mem_map_of_mem hc

theorem isUrgent_latest (c : Candidate) (nowUs : Int) (h : c.isUrgent nowUs = true) :
    ∃ latest, c.latestSafeStartUs = some latest := by
  unfold Candidate.isUrgent at h
  split at h
  · cases h
  · exact ⟨_, by assumption⟩

theorem select_eq (s : SchedulerOracle) (nowUs : Int) (candidates : List Candidate)
    (h : ∀ m ∈ currentOf candidates, m ∈ s.ledgers) :
    select s.ledgers nowUs candidates = .ok (s.choice nowUs candidates) := by
  have hitem : ∀ c ∈ candidates.filter (·.eligible), getItem s.ledgers c.modelId = .ok (s.ledger c.modelId) := by
    intro c hc
    exact getItem_of_lookup _ _ _ (lookup_of_mem s _ (h _ (mem_currentOf candidates c hc)))
  have hurgent : minBy (urgentKey s.ledgers) ((candidates.filter (·.eligible)).filter (·.isUrgent nowUs)) =
      .ok (leastBy s.urgentRank ((candidates.filter (·.eligible)).filter (·.isUrgent nowUs))) := by
    apply minBy_ok
    intro c hc
    obtain ⟨latest, hl⟩ := isUrgent_latest c nowUs (List.mem_filter.mp hc).2
    simp only [urgentKey, urgentRank, hl, hitem c (List.mem_of_mem_filter hc)]
    rfl
  have hnormal : minBy (normalKey s.ledgers) (candidates.filter (·.eligible)) =
      .ok (leastBy s.normalRank (candidates.filter (·.eligible))) := by
    apply minBy_ok
    intro c hc
    rw [normalKey, hitem c hc]
    rfl
  simp only [select, choice, hurgent, hnormal]
  split
  · rfl
  · split <;> rfl

/-- What `schedule` selects is eligible. -/
theorem choice_mem (s : SchedulerOracle) (nowUs : Int) (candidates : List Candidate) (c : Candidate)
    (h : (s.choice nowUs candidates).1 = some c) : c ∈ candidates.filter (·.eligible) := by
  unfold choice at h
  simp only at h
  split at h
  · exact List.mem_of_mem_filter (List.argmin_mem h)
  · split at h
    · exact List.argmin_mem h
    · cases h

/-- A normal choice has the least ledger of all eligible candidates. -/
theorem choice_normal (s : SchedulerOracle) (nowUs : Int) (candidates : List Candidate) (c : Candidate)
    (h : (s.choice nowUs candidates).1 = some c) (hn : (s.choice nowUs candidates).2 ≠ .urgent) :
    ∀ m ∈ currentOf candidates, s.ledger c.modelId ≤ s.ledger m := by
  intro m hm
  unfold choice at h hn
  simp only at h hn
  split at h
  · rename_i hu
    rw [if_pos hu] at hn
    exact absurd rfl hn
  · split at h
    · rw [currentOf, List.mem_toFinset, List.mem_map] at hm
      obtain ⟨d, hd, rfl⟩ := hm
      have hle := List.le_of_mem_argmin hd h
      rcases (Prod.Lex.le_iff).mp hle with hlt | ⟨heq, -⟩
      · exact le_of_lt hlt
      · exact le_of_eq heq
    · cases h

/-- The oracle after a `schedule` that returned. -/
def scheduled (s : SchedulerOracle) (nowUs : Int) (candidates : List Candidate) : SchedulerOracle :=
  { s.synced (currentOf candidates) with
    pending := ((s.synced (currentOf candidates)).choice nowUs candidates).1 }

theorem schedule_pending (s : SchedulerOracle) (nowUs : Int) (candidates : List Candidate)
    (hp : s.pending.isSome) : (schedule nowUs candidates).call s =
      (.error (.contractError (lit "oracle received schedule before the pending receipt")), s) := by
  rw [schedule, Method.call_bind_ok (Method.call_get s), if_pos hp, Method.call_throw]

theorem schedule_call (s : SchedulerOracle) (hs : s.Sound) (nowUs : Int) (candidates : List Candidate)
    (hp : s.pending = none) :
    ∃ r, pick (s.synced (currentOf candidates)).ledgers (currentOf candidates) = .ok r ∧
      (schedule nowUs candidates).call s =
        (.ok (((s.synced (currentOf candidates)).choice nowUs candidates).1,
          ((s.synced (currentOf candidates)).choice nowUs candidates).2, r), s.scheduled nowUs candidates) := by
  have hknown := synced_known s hs (currentOf candidates)
  obtain ⟨r, hr, -⟩ := pick_ok _ _ (s.synced (currentOf candidates)).ledger
    fun m hm => lookup_of_mem _ m (hknown m hm)
  refine ⟨r, hr, ?_⟩
  have hsync := syncRunnable_call s hs candidates
  rw [hr] at hsync
  rw [schedule, Method.call_bind_ok (Method.call_get s), hp]
  refine (Method.call_bind_ok hsync _).trans ?_
  rw [Method.call_bind_ok (Method.call_get _), select_eq _ nowUs candidates hknown]
  rfl

/-! ## `accept_receipt` -/

/-- The oracle after a receipt that it accepted. -/
def charged (s : SchedulerOracle) (modelId : Str) (x : ℚ) : SchedulerOracle :=
  { s with
    ledgers := s.ledgers.insert modelId (s.ledger modelId + x)
    pending := none
    baseline := (s.clock.charge modelId x).baseline }

theorem charged_clock (s : SchedulerOracle) (modelId : Str) (x : ℚ) :
    (s.charged modelId x).clock = s.clock.charge modelId x := by
  have hl : (s.charged modelId x).ledger = (s.clock.charge modelId x).ledger := by
    funext m
    simp only [ledger, charged, Clock.charge, Function.update_apply, clock_ledger]
    by_cases hm : m = modelId
    · subst hm
      rw [if_pos rfl, Finmap.lookup_insert]
      rfl
    · rw [if_neg hm, Finmap.lookup_insert_of_ne _ hm]
  rw [clock, hl]
  rfl

theorem charged_baseline (s : SchedulerOracle) (modelId : Str) (x : ℚ) :
    Clock.least s.runnable (s.charged modelId x).ledger s.baseline = (s.charged modelId x).baseline := by
  have hl : (s.charged modelId x).ledger = (s.clock.charge modelId x).ledger :=
    congrArg Clock.ledger (charged_clock s modelId x)
  rw [hl]
  rfl

/-- A receipt is for the pending plan of a model with a weight. -/
def Due (s : SchedulerOracle) (candidateId modelId : Str) (w : Nat) : Prop :=
  ∃ c, s.pending = some c ∧ c.candidateId = candidateId ∧ c.modelId = modelId ∧ s.weights.lookup modelId = some w

theorem acceptReceipt_due (s : SchedulerOracle) (hs : s.Sound) (candidateId modelId : Str) (actual : Int) (w : Nat)
    (h : s.Due candidateId modelId w) : (acceptReceipt candidateId modelId actual).call s =
      (.ok (s.charged modelId (actual / w)).ledgers, s.charged modelId (actual / w)) := by
  obtain ⟨c, hp, hcand, hmodel, hw⟩ := h
  have hrun : modelId ∈ s.runnable := hmodel ▸ hs.pending_runnable c hp
  have hledger := getItem_of_lookup _ _ _ (lookup_of_mem s modelId (hs.known modelId hrun))
  have hrebase := rebase_call { s.charged modelId (actual / w) with baseline := s.baseline } s.runnable
    fun m hm => Finmap.mem_insert.mpr (Or.inr (hs.known m hm))
  rw [acceptReceipt, Method.call_bind_ok (Method.call_get s), hp]
  simp only [hcand, hmodel, ne_eq, not_true, or_self, if_false]
  rw [hledger, Method.call_bind_ok (Method.call_liftM _ s), getItem_of_lookup _ _ _ hw,
    Method.call_bind_ok (Method.call_liftM _ s), Method.call_bind_ok (Method.call_modify _ _),
    Method.call_bind_ok (Method.call_modify _ _)]
  refine (Method.call_bind_ok hrebase _).trans ?_
  rw [Method.call_bind_ok (Method.call_get _), Method.call_pure]
  exact congrArg (fun q => (Except.ok (s.charged modelId (actual / w)).ledgers,
    { s.charged modelId (actual / w) with baseline := q })) (charged_baseline s modelId (actual / w))

/-- A receipt that is not due raises, and the oracle stays as it was. -/
theorem acceptReceipt_not_due (s : SchedulerOracle) (hs : s.Sound) (candidateId modelId : Str) (actual : Int)
    (h : ¬ ∃ w, s.Due candidateId modelId w) : ∃ e, (acceptReceipt candidateId modelId actual).call s = (.error e, s) := by
  rw [acceptReceipt, Method.call_bind_ok (Method.call_get s)]
  cases hp : s.pending with
  | none => exact ⟨_, rfl⟩
  | some c =>
    by_cases hm : c.candidateId ≠ candidateId ∨ c.modelId ≠ modelId
    · simp only [if_pos hm]
      exact ⟨_, rfl⟩
    · simp only [if_neg hm]
      push Not at hm
      obtain ⟨hcand, hmodel⟩ := hm
      have hw : s.weights.lookup modelId = none := by
        cases hw : s.weights.lookup modelId with
        | none => rfl
        | some w => exact absurd ⟨w, c, hp, hcand, hmodel, hw⟩ h
      have hrun : modelId ∈ s.runnable := hmodel ▸ hs.pending_runnable c hp
      have hledger := getItem_of_lookup _ _ _ (lookup_of_mem s modelId (hs.known modelId hrun))
      refine ⟨.keyError modelId, ?_⟩
      rw [hledger, Method.call_bind_ok (Method.call_liftM _ s), Method.call_bind, Method.call_liftM, getItem, hw]

end TurnVector.SchedulerOracle
