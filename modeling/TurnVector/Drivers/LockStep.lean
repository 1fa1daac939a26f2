import TurnVector.Core.Fairness
import TurnVector.Drivers.ReferenceDriver

/-! # The reference driver and the oracle in lock-step -/

namespace TurnVector

open Python Fair

/-! ## Reading a candidate's message back -/

section
variable (c : Candidate)

theorem get_candidateId : c.asMessage.get (lit "candidate_id") = .ok (.str c.candidateId) := rfl
theorem get_modelId : c.asMessage.get (lit "model_id") = .ok (.str c.modelId) := rfl
theorem get_engineServiceBoundUs :
    c.asMessage.get (lit "engine_service_bound_us") = .ok (.int c.engineServiceBoundUs) := rfl
theorem get_runtimeOverheadBoundUs :
    c.asMessage.get (lit "runtime_overhead_bound_us") = .ok (.int c.runtimeOverheadBoundUs) := rfl
theorem get_timingObligationUs :
    c.asMessage.get (lit "timing_obligation_us") = .ok (c.timingObligationUs.elim .none .int) := rfl
theorem get_capabilityAuthorized :
    c.asMessage.get (lit "capability_authorized") = .ok (.bool c.capabilityAuthorized) := rfl
theorem get_resourceSafe : c.asMessage.get (lit "resource_safe") = .ok (.bool c.resourceSafe) := rfl
theorem get_timingFeasible : c.asMessage.get (lit "timing_feasible") = .ok (.bool c.timingFeasible) := rfl
theorem get_outputReserved : c.asMessage.get (lit "output_reserved") = .ok (.bool c.outputReserved) := rfl

theorem modelIdOf_asMessage : ReferenceScheduler.modelIdOf c.asMessage = .ok c.modelId := rfl
theorem candidateIdOf_asMessage : ReferenceScheduler.candidateIdOf c.asMessage = .ok c.candidateId := rfl

theorem eligible_asMessage : ReferenceScheduler.eligible c.asMessage = .ok c.eligible := by
  simp only [ReferenceScheduler.eligible, ReferenceScheduler.allTruthy, get_capabilityAuthorized, get_resourceSafe,
    get_timingFeasible, get_outputReserved, Candidate.eligible]
  cases c.capabilityAuthorized
  · rfl
  cases c.resourceSafe
  · rfl
  cases c.timingFeasible
  · rfl
  cases c.outputReserved
  · rfl
  · rfl

theorem urgentEntry_asMessage (nowUs : Int) (he : c.eligible = true) :
    ReferenceScheduler.urgentEntry nowUs c.asMessage =
      .ok (if c.isUrgent nowUs then some (c.latestSafeStartUs.getD 0, c.asMessage) else none) := by
  simp only [ReferenceScheduler.urgentEntry, get_timingObligationUs, get_engineServiceBoundUs,
    get_runtimeOverheadBoundUs, Candidate.isUrgent, Candidate.latestSafeStartUs, he]
  cases c.timingObligationUs with
  | none => rfl
  | some t => simp [Scalar.asInt, bind, Except.bind, pure, Except.pure]

end

/-! ## The choice -/

theorem filterMap_ite {α β : Type} (p : α → Bool) (f : α → β) (xs : List α) :
    (xs.map fun x => if p x then some (f x) else none).filterMap id = (xs.filter p).map f := by
  induction xs with
  | nil => rfl
  | cons x xs ih =>
    rw [List.map_cons, List.filterMap_cons, ih, List.filter_cons]
    cases p x <;> rfl

/-- The reference driver chooses the message of the candidate that the oracle chooses. -/
theorem select_asMessage (s : SchedulerOracle) (nowUs : Int) (candidates : List Candidate)
    (h : ∀ m ∈ SchedulerOracle.currentOf candidates, m ∈ s.ledgers) :
    ReferenceScheduler.select s.ledgers nowUs ((candidates.filter (·.eligible)).map Candidate.asMessage) =
      .ok ((s.choice nowUs candidates).1.map Candidate.asMessage) := by
  have hitem : ∀ c ∈ candidates.filter (·.eligible), getItem s.ledgers c.modelId = .ok (s.ledger c.modelId) := by
    intro c hc
    exact getItem_of_lookup _ _ _
      (SchedulerOracle.lookup_of_mem s _ (h _ (SchedulerOracle.mem_currentOf candidates c hc)))
  have hentries : ((candidates.filter (·.eligible)).map Candidate.asMessage).mapM
      (ReferenceScheduler.urgentEntry nowUs) = .ok ((candidates.filter (·.eligible)).map fun c =>
        if c.isUrgent nowUs then some (c.latestSafeStartUs.getD 0, c.asMessage) else none) := by
    rw [List.mapM_map]
    apply mapM_ok
    intro c hc
    exact urgentEntry_asMessage c nowUs (List.mem_filter.mp hc).2
  have hurgent : minBy (ReferenceScheduler.urgentKey s.ledgers)
      (((candidates.filter (·.eligible)).filter (·.isUrgent nowUs)).map fun c =>
        (c.latestSafeStartUs.getD 0, c.asMessage)) =
      .ok ((leastBy s.urgentRank ((candidates.filter (·.eligible)).filter (·.isUrgent nowUs))).map fun c =>
        (c.latestSafeStartUs.getD 0, c.asMessage)) := by
    apply minBy_map
    intro c hc
    simp only [ReferenceScheduler.urgentKey, modelIdOf_asMessage, candidateIdOf_asMessage]
    show (do return toLex (c.latestSafeStartUs.getD 0, toLex (← getItem s.ledgers c.modelId, c.candidateId))) = _
    rw [hitem c (List.mem_of_mem_filter hc)]
    rfl
  have hnormal : minBy (ReferenceScheduler.normalKey s.ledgers)
      ((candidates.filter (·.eligible)).map Candidate.asMessage) =
      .ok ((leastBy s.normalRank (candidates.filter (·.eligible))).map Candidate.asMessage) := by
    apply minBy_map
    intro c hc
    simp only [ReferenceScheduler.normalKey, modelIdOf_asMessage, candidateIdOf_asMessage]
    show (do return toLex (← getItem s.ledgers c.modelId, toLex (c.modelId, c.candidateId))) = _
    rw [hitem c hc]
    rfl
  rw [ReferenceScheduler.select, hentries]
  simp only [SchedulerOracle.choice]
  show (if !(List.filterMap id _).isEmpty then _ else _) = _
  rw [filterMap_ite, hurgent, hnormal, List.isEmpty_map, List.isEmpty_map]
  split
  · show Except.ok (Option.map Prod.snd (Option.map _ _)) = _
    rw [Option.map_map]
    rfl
  · split <;> rfl

/-! ## Ledger maps -/

theorem ledgerMap_eq (ledgers : Dict ℚ) (keys : Finset Str) (values : Dict ℚ) (value : Str → ℚ)
    (hl : ∀ k ∈ keys, ledgers.lookup k = some (value k))
    (hv : ∀ k, values.lookup k = if k ∈ keys then some (value k) else none) :
    ReferenceScheduler.ledgerMap ledgers keys = fractionMap values := by
  have hkeys : values.keys = keys := by
    ext k
    rw [Finmap.mem_keys, Finmap.mem_iff, hv]
    by_cases hk : k ∈ keys <;> simp [hk]
  rw [ReferenceScheduler.ledgerMap, fractionMap, hkeys]
  rw [mapM_ok _ (fun k => (k, fractionText (value k))), mapM_ok _ (fun k => (k, fractionText (value k)))]
  · intro k hk
    rw [getItem_of_lookup values k (value k) (by rw [hv, if_pos ((mem_sorted _ _).mp hk)])]
    rfl
  · intro k hk
    rw [getItem_of_lookup ledgers k (value k) (hl k ((mem_sorted _ _).mp hk))]
    rfl

theorem fractionMap_ok (values : Dict ℚ) : ∃ texts, fractionMap values = .ok texts := by
  refine ⟨_, mapM_ok _ (fun k => (k, fractionText ((values.lookup k).getD 0))) _ ?_⟩
  intro k hk
  obtain ⟨q, hq⟩ := Finmap.mem_iff.mp (Finmap.mem_keys.mp ((mem_sorted _ _).mp hk))
  rw [getItem_of_lookup values k q hq, hq]
  rfl

/-! ## One message -/

/-- The two schedulers hold the same state. -/
structure Agree (r : ReferenceScheduler) (s : SchedulerOracle) : Prop where
  weights : ∀ m, r.weights.lookup m = (s.weights.lookup m).map fun w => .int w
  ledgers : r.ledgers = s.ledgers
  runnable : r.runnable = s.runnable
  baseline : r.baseline = s.baseline
  pending : r.pending = s.pending.map Candidate.asMessage

/-- The messages of the runner. -/
inductive Message where
  | schedule (sequence nowUs : Int) (candidates : List Candidate)
  | receipt (sequence : Int) (candidateId modelId : Str) (actualEngineServiceUs : Int)

/-- What the runner compares. -/
inductive Outcome where
  | rejected
  | planned (candidateId : Scalar) (runnableLedgersUs : List (Str × Str))
  | accepted (modelLedgersUs : List (Str × Str))

/-- The oracle's side of `_run_repetition`. -/
def SchedulerOracle.answer (s : SchedulerOracle) : Message → Outcome × SchedulerOracle
  | .schedule _ nowUs candidates =>
    match (SchedulerOracle.schedule nowUs candidates).call s with
    | (.ok (selected, _, ledgers), s') =>
      match fractionMap ledgers with
      | .ok texts => (.planned (selected.elim .none fun c => .str c.candidateId) texts, s')
      | .error _ => (.rejected, s')
    | (.error _, s') => (.rejected, s')
  | .receipt _ candidateId modelId actual =>
    match (SchedulerOracle.acceptReceipt candidateId modelId actual).call s with
    | (.ok ledgers, s') =>
      match fractionMap ledgers with
      | .ok texts => (.accepted texts, s')
      | .error _ => (.rejected, s')
    | (.error _, s') => (.rejected, s')

/-- The message of a receipt. -/
def receiptMessage (sequence : Int) (candidateId modelId : Str) (actualEngineServiceUs : Int) : Record :=
  [(lit "kind", .str (lit "receipt")),
   (lit "sequence", .int sequence),
   (lit "candidate_id", .str candidateId),
   (lit "model_id", .str modelId),
   (lit "actual_engine_service_us", .int actualEngineServiceUs)]

/-- The driver's side. -/
def ReferenceScheduler.answer (r : ReferenceScheduler) : Message → Outcome × ReferenceScheduler
  | .schedule sequence nowUs candidates =>
    match (ReferenceScheduler.schedule ⟨sequence, nowUs, candidates.map Candidate.asMessage⟩).call r with
    | (.ok reply, r') => (.planned reply.candidateId reply.runnableLedgersUs, r')
    | (.error _, r') => (.rejected, r')
  | .receipt sequence candidateId modelId actual =>
    match (ReferenceScheduler.receipt (receiptMessage sequence candidateId modelId actual)).call r with
    | (.ok reply, r') => (.accepted reply.modelLedgersUs, r')
    | (.error _, r') => (.rejected, r')

/-- What `realign` makes of a scheduler that agrees with the oracle. -/
def ReferenceScheduler.like (r : ReferenceScheduler) (s : SchedulerOracle) : ReferenceScheduler :=
  { r with ledgers := s.ledgers, runnable := s.runnable, baseline := s.baseline }

theorem rebase_call (r : ReferenceScheduler) (s : SchedulerOracle) (hl : r.ledgers = s.ledgers)
    (hb : r.baseline = s.baseline) (models : Finset Str) (h : ∀ m ∈ models, m ∈ s.ledgers) :
    (ReferenceScheduler.rebase models).call r =
      (.ok (), { r with baseline := Clock.least models s.ledger s.baseline }) := by
  rw [ReferenceScheduler.rebase, Method.call_ite]
  split
  · rename_i hne
    have hmin := SchedulerOracle.minItem_least s.ledgers models s.ledger s.baseline hne
      fun m hm => SchedulerOracle.lookup_of_mem s m (h m hm)
    rw [← hl] at hmin
    rw [Method.call_bind_ok (Method.call_get r), hmin]
    rfl
  · rename_i hne
    rw [Method.call_pure, Clock.least_empty _ _ _ hne, ← hb]

theorem realign_call (r : ReferenceScheduler) (s : SchedulerOracle) (hs : s.Sound) (ha : Agree r s)
    (current : Finset Str) :
    (ReferenceScheduler.realign current).call r = (.ok (), r.like (s.synced current)) := by
  have halign : (if (current ∩ r.runnable).Nonempty then minItem r.ledgers (current ∩ r.runnable)
      else Except.ok r.baseline) = .ok (s.clock.alignment current) := by
    rw [ha.runnable, ha.ledgers, ha.baseline]
    exact SchedulerOracle.alignmentOf_eq s hs current
  have hrebase := rebase_call { r.like (s.synced current) with baseline := s.baseline }
    { s.synced current with baseline := s.baseline } rfl rfl current (SchedulerOracle.synced_known s hs current)
  rw [ReferenceScheduler.realign, Method.call_bind_ok (Method.call_get r), halign,
    Method.call_bind_ok (Method.call_liftM _ r), Method.call_bind_ok (Method.call_modify _ _),
    Method.call_bind_ok (Method.call_modify _ _), ha.runnable, ha.ledgers, ha.baseline]
  refine hrebase.trans ?_
  exact congrArg (fun q => (Except.ok (), { r.like (s.synced current) with baseline := q }))
    (SchedulerOracle.synced_baseline s current)

theorem schedule_agree (r : ReferenceScheduler) (s : SchedulerOracle) (hs : s.Sound) (ha : Agree r s)
    (sequence nowUs : Int) (candidates : List Candidate) :
    (r.answer (.schedule sequence nowUs candidates)).1 = (s.answer (.schedule sequence nowUs candidates)).1 ∧
      Agree (r.answer (.schedule sequence nowUs candidates)).2 (s.answer (.schedule sequence nowUs candidates)).2 := by
  cases hp : s.pending with
  | some c =>
    have hr : r.pending.isSome = true := by
      rw [ha.pending, hp]
      rfl
    have hcall : (ReferenceScheduler.schedule ⟨sequence, nowUs, candidates.map Candidate.asMessage⟩).call r =
        (.error (.valueError (lit "schedule received before pending receipt")), r) := by
      rw [ReferenceScheduler.schedule, Method.call_bind_ok (Method.call_get r), if_pos hr, Method.call_throw]
    simp only [ReferenceScheduler.answer, SchedulerOracle.answer, hcall,
      SchedulerOracle.schedule_pending s nowUs candidates (by rw [hp]; rfl)]
    exact ⟨trivial, ha⟩
  | none =>
    have hr : ¬ r.pending.isSome = true := by
      rw [ha.pending, hp]
      simp
    have hknown := SchedulerOracle.synced_known s hs (SchedulerOracle.currentOf candidates)
    have hlookup := fun m hm => SchedulerOracle.lookup_of_mem _ m (hknown m hm)
    obtain ⟨ledgers, hpick, hschedule⟩ := SchedulerOracle.schedule_call s hs nowUs candidates hp
    obtain ⟨ledgers', hpick', hledgers⟩ := pick_ok _ _ _ hlookup
    rw [hpick] at hpick'
    cases hpick'
    have heligible := filterE_map ReferenceScheduler.eligible Candidate.asMessage (·.eligible) candidates
      eligible_asMessage
    have hmodels : ((candidates.filter (·.eligible)).map Candidate.asMessage).mapM ReferenceScheduler.modelIdOf =
        .ok ((candidates.filter (·.eligible)).map (·.modelId)) := by
      rw [List.mapM_map]
      exact mapM_ok _ _ _ fun c _ => modelIdOf_asMessage c
    have hcurrent : ((candidates.filter (·.eligible)).map (·.modelId)).toFinset =
        SchedulerOracle.currentOf candidates := rfl
    have hmap := ledgerMap_eq _ _ ledgers _ hlookup hledgers
    have hid : ∀ o : Option Candidate, (o.map Candidate.asMessage).elim (Except.ok Scalar.none)
        (·.get (lit "candidate_id")) = .ok (o.elim .none fun c => .str c.candidateId) := by
      intro o
      cases o <;> rfl
    obtain ⟨texts, htexts⟩ := fractionMap_ok ledgers
    have hcall : (ReferenceScheduler.schedule ⟨sequence, nowUs, candidates.map Candidate.asMessage⟩).call r =
        (.ok ⟨sequence, ((s.synced (SchedulerOracle.currentOf candidates)).choice nowUs candidates).1.elim .none
          fun c => .str c.candidateId, texts⟩,
          { r.like (s.synced (SchedulerOracle.currentOf candidates)) with
            pending := ((s.synced (SchedulerOracle.currentOf candidates)).choice nowUs candidates).1.map
              Candidate.asMessage }) := by
      rw [ReferenceScheduler.schedule, Method.call_bind_ok (Method.call_get r), if_neg hr, heligible,
        Method.call_bind_ok (Method.call_liftM _ r), hmodels, Method.call_bind_ok (Method.call_liftM _ r),
        hcurrent, Method.call_bind_ok (realign_call r s hs ha _), Method.call_bind_ok (Method.call_get _)]
      have hselect := select_asMessage (s.synced (SchedulerOracle.currentOf candidates)) nowUs candidates hknown
      simp only [ReferenceScheduler.like, hselect]
      rw [Method.call_bind_ok (Method.call_liftM _ _), Method.call_bind_ok (Method.call_modify _ _), hid,
        Method.call_bind_ok (Method.call_liftM _ _), Method.call_bind_ok (Method.call_get _)]
      refine (Method.call_bind_ok ((Method.call_liftM _ _).trans ?_) _).trans rfl
      rw [← htexts, ← hmap]
    simp only [ReferenceScheduler.answer, SchedulerOracle.answer, hcall, hschedule, htexts]
    exact ⟨trivial, ⟨ha.weights, rfl, rfl, rfl, rfl⟩⟩

theorem isFor_asMessage (sequence : Int) (candidateId modelId : Str) (actual : Int) (c : Candidate) :
    ReferenceScheduler.isFor (receiptMessage sequence candidateId modelId actual) c.asMessage =
      .ok (decide (candidateId = c.candidateId ∧ modelId = c.modelId)) := by
  have hcand : (receiptMessage sequence candidateId modelId actual).get (lit "candidate_id") =
      .ok (.str candidateId) := rfl
  have hmodel : (receiptMessage sequence candidateId modelId actual).get (lit "model_id") = .ok (.str modelId) := rfl
  simp only [ReferenceScheduler.isFor, hcand, hmodel, get_candidateId, get_modelId]
  by_cases hc : candidateId = c.candidateId
  · by_cases hm : modelId = c.modelId
    · simp [hc, hm, bind, Except.bind, pure, Except.pure]
    · simp [hc, hm, bind, Except.bind, pure, Except.pure]
  · simp [hc, bind, Except.bind, pure, Except.pure]

theorem chargeOf_due (r : ReferenceScheduler) (s : SchedulerOracle) (hs : s.Sound) (ha : Agree r s) (sequence : Int)
    (candidateId modelId : Str) (actual : Int) (w : Nat) (hw : s.weights.lookup modelId = some w) :
    ReferenceScheduler.chargeOf r.weights (receiptMessage sequence candidateId modelId actual) modelId =
      .ok (actual / w) := by
  have hactual : (receiptMessage sequence candidateId modelId actual).get (lit "actual_engine_service_us") =
      .ok (.int actual) := rfl
  have hweight : getItem r.weights modelId = .ok (.int w) := getItem_of_lookup _ _ _ (by rw [ha.weights, hw]; rfl)
  have hpos : (w : Int) ≠ 0 := by
    have := hs.weights_pos modelId w hw
    omega
  simp only [ReferenceScheduler.chargeOf, hactual, hweight]
  show ReferenceScheduler.fraction actual w = _
  rw [ReferenceScheduler.fraction, if_neg hpos]
  simp

theorem receipt_due (r : ReferenceScheduler) (s : SchedulerOracle) (hs : s.Sound) (ha : Agree r s) (sequence : Int)
    (candidateId modelId : Str) (actual : Int) (w : Nat) (hdue : s.Due candidateId modelId w) (texts : List (Str × Str))
    (htexts : fractionMap (s.charged modelId (actual / w)).ledgers = .ok texts) :
    (ReferenceScheduler.receipt (receiptMessage sequence candidateId modelId actual)).call r =
      (.ok ⟨.int sequence, texts⟩, { r.like (s.charged modelId (actual / w)) with pending := none }) := by
  obtain ⟨c, hp, hcand, hmodel, hw⟩ := hdue
  have hrun : modelId ∈ s.runnable := hmodel ▸ hs.pending_runnable c hp
  have hledger : getItem r.ledgers modelId = .ok (s.ledger modelId) := by
    rw [ha.ledgers]
    exact getItem_of_lookup _ _ _ (SchedulerOracle.lookup_of_mem s modelId (hs.known modelId hrun))
  have hfor : ReferenceScheduler.isFor (receiptMessage sequence candidateId modelId actual) c.asMessage = .ok true := by
    rw [isFor_asMessage, hcand, hmodel]
    simp
  have hid : ReferenceScheduler.modelIdOf (receiptMessage sequence candidateId modelId actual) = .ok modelId := rfl
  have hsequence : (receiptMessage sequence candidateId modelId actual).get (lit "sequence") =
      .ok (.int sequence) := rfl
  have hrebase := rebase_call { r.like (s.charged modelId (actual / w)) with baseline := s.baseline, pending := none }
    { s.charged modelId (actual / w) with baseline := s.baseline } rfl rfl s.runnable
    fun m hm => Finmap.mem_insert.mpr (Or.inr (hs.known m hm))
  have hmap : ReferenceScheduler.ledgerMap (s.charged modelId (actual / w)).ledgers
      (s.charged modelId (actual / w)).ledgers.keys = .ok texts := htexts
  rw [ReferenceScheduler.receipt, Method.call_bind_ok (Method.call_get r), ha.pending, hp]
  simp only [Option.map_some]
  rw [hfor, Method.call_bind_ok (Method.call_liftM _ r), if_pos rfl, hid,
    Method.call_bind_ok (Method.call_liftM _ r), hledger, Method.call_bind_ok (Method.call_liftM _ r),
    chargeOf_due r s hs ha sequence candidateId modelId actual w hw, Method.call_bind_ok (Method.call_liftM _ r),
    Method.call_bind_ok (Method.call_modify _ _), Method.call_bind_ok (Method.call_modify _ _), ha.runnable,
    ha.ledgers, ha.baseline]
  refine (Method.call_bind_ok hrebase _).trans ?_
  rw [hsequence, Method.call_bind_ok (Method.call_liftM _ _), Method.call_bind_ok (Method.call_get _),
    Method.call_bind_ok (Method.call_get _)]
  refine (Method.call_bind_ok ((Method.call_liftM _ _).trans (congrArg (·, _) hmap)) _).trans ?_
  exact congrArg (fun q => (Except.ok (ReceiptReply.mk (.int sequence) texts),
    { r.like (s.charged modelId (actual / w)) with baseline := q, pending := none }))
    (SchedulerOracle.charged_baseline s modelId (actual / w))

theorem receipt_not_due (r : ReferenceScheduler) (s : SchedulerOracle) (hs : s.Sound) (ha : Agree r s) (sequence : Int)
    (candidateId modelId : Str) (actual : Int) (h : ¬ ∃ w, s.Due candidateId modelId w) :
    ∃ e, (ReferenceScheduler.receipt (receiptMessage sequence candidateId modelId actual)).call r = (.error e, r) := by
  rw [ReferenceScheduler.receipt, Method.call_bind_ok (Method.call_get r), ha.pending]
  cases hp : s.pending with
  | none => exact ⟨_, rfl⟩
  | some c =>
    simp only [Option.map_some]
    rw [isFor_asMessage, Method.call_bind_ok (Method.call_liftM _ r)]
    by_cases hm : candidateId = c.candidateId ∧ modelId = c.modelId
    · obtain ⟨rfl, rfl⟩ := hm
      have hw : s.weights.lookup c.modelId = none := by
        cases hw : s.weights.lookup c.modelId with
        | none => rfl
        | some w => exact absurd ⟨w, c, hp, rfl, rfl, hw⟩ h
      have hid : ReferenceScheduler.modelIdOf (receiptMessage sequence c.candidateId c.modelId actual) =
          .ok c.modelId := rfl
      have hledger : getItem r.ledgers c.modelId = .ok (s.ledger c.modelId) := by
        rw [ha.ledgers]
        exact getItem_of_lookup _ _ _
          (SchedulerOracle.lookup_of_mem s _ (hs.known _ (hs.pending_runnable c hp)))
      have hcharge : ReferenceScheduler.chargeOf r.weights
          (receiptMessage sequence c.candidateId c.modelId actual) c.modelId = .error (.keyError c.modelId) := by
        have hweight : getItem r.weights c.modelId = .error (.keyError c.modelId) := by
          rw [getItem, ha.weights, hw]
          rfl
        rw [ReferenceScheduler.chargeOf, hweight]
        rfl
      refine ⟨.keyError c.modelId, ?_⟩
      rw [if_pos (by simp), hid, Method.call_bind_ok (Method.call_liftM _ r), hledger,
        Method.call_bind_ok (Method.call_liftM _ r), hcharge, Method.call_bind, Method.call_liftM]
    · rw [if_neg (by simpa using hm)]
      exact ⟨_, rfl⟩

theorem receipt_agree (r : ReferenceScheduler) (s : SchedulerOracle) (hs : s.Sound) (ha : Agree r s)
    (sequence : Int) (candidateId modelId : Str) (actual : Int) :
    (r.answer (.receipt sequence candidateId modelId actual)).1 =
        (s.answer (.receipt sequence candidateId modelId actual)).1 ∧
      Agree (r.answer (.receipt sequence candidateId modelId actual)).2
        (s.answer (.receipt sequence candidateId modelId actual)).2 := by
  by_cases hdue : ∃ w, s.Due candidateId modelId w
  · obtain ⟨w, hw⟩ := hdue
    obtain ⟨texts, htexts⟩ := fractionMap_ok (s.charged modelId (actual / w)).ledgers
    simp only [ReferenceScheduler.answer, SchedulerOracle.answer, htexts,
      SchedulerOracle.acceptReceipt_due s hs candidateId modelId actual w hw,
      receipt_due r s hs ha sequence candidateId modelId actual w hw texts htexts]
    exact ⟨trivial, ⟨ha.weights, rfl, rfl, rfl, rfl⟩⟩
  · obtain ⟨e, he⟩ := SchedulerOracle.acceptReceipt_not_due s hs candidateId modelId actual hdue
    obtain ⟨e', he'⟩ := receipt_not_due r s hs ha sequence candidateId modelId actual hdue
    simp only [ReferenceScheduler.answer, SchedulerOracle.answer, he, he']
    exact ⟨trivial, ha⟩

/-! ## Whole runs -/

theorem init_agree (models : List ModelConfig) :
    ∃ r, ReferenceScheduler.init (models.map ModelConfig.asMessage) = .ok r ∧ Agree r (SchedulerOracle.init models) := by
  have hpairs : (models.map ModelConfig.asMessage).mapM (fun model => do
      return (← (← model.get (lit "model_id")).asStr, ← model.get (lit "weight"))) =
      (.ok (models.map fun m => (m.modelId, Scalar.int m.weight)) : Except Exc _) := by
    rw [List.mapM_map]
    exact mapM_ok _ _ _ fun m _ => rfl
  rw [ReferenceScheduler.init, hpairs]
  refine ⟨_, rfl, ?_, ?_, rfl, rfl, rfl⟩
  · intro k
    simp only [SchedulerOracle.init]
    rw [List.foldl_map, foldl_insert_lookup, foldl_insert_lookup]
    simp
    rfl
  · apply Finmap.ext_lookup
    intro k
    simp only [SchedulerOracle.init]
    have hmem : k ∈ Finmap.keys ((models.map fun m => (m.modelId, Scalar.int m.weight)).foldl
        (fun d p => Finmap.insert p.1 p.2 d) (∅ : Dict Scalar)) ↔ (models.reverse.find? (·.modelId = k)).isSome := by
      rw [Finmap.mem_keys, ← Finmap.lookup_isSome, List.foldl_map, foldl_insert_lookup]
      simp
    rw [fill_lookup, foldl_insert_lookup]
    simp only [mem_sorted, hmem]
    cases models.reverse.find? (·.modelId = k) <;> rfl

/-- The call that a message makes on the oracle. -/
def Message.call : Message → SchedulerOracle.Call
  | .schedule _ nowUs candidates => .schedule nowUs candidates
  | .receipt _ candidateId modelId actual => .acceptReceipt candidateId modelId actual

theorem answer_after (s : SchedulerOracle) (m : Message) : (s.answer m).2 = s.after m.call := by
  cases m with
  | schedule sequence nowUs candidates =>
    simp only [SchedulerOracle.answer, Message.call, SchedulerOracle.after]
    rcases (SchedulerOracle.schedule nowUs candidates).call s with ⟨_ | ⟨selected, decision, ledgers⟩, s'⟩
    · rfl
    · simp only
      split <;> rfl
  | receipt sequence candidateId modelId actual =>
    simp only [SchedulerOracle.answer, Message.call, SchedulerOracle.after]
    rcases (SchedulerOracle.acceptReceipt candidateId modelId actual).call s with ⟨_ | ledgers, s'⟩
    · rfl
    · simp only
      split <;> rfl

theorem answer_agree (r : ReferenceScheduler) (s : SchedulerOracle) (hs : s.Sound) (ha : Agree r s) (m : Message) :
    (r.answer m).1 = (s.answer m).1 ∧ Agree (r.answer m).2 (s.answer m).2 := by
  cases m with
  | schedule sequence nowUs candidates => exact schedule_agree r s hs ha sequence nowUs candidates
  | receipt sequence candidateId modelId actual => exact receipt_agree r s hs ha sequence candidateId modelId actual

theorem answers_agree (messages : List Message) (r : ReferenceScheduler) (s : SchedulerOracle) (hs : s.Sound)
    (ha : Agree r s) :
    (messages.foldl (fun s m => (s.answer m).2) s).Sound ∧
      Agree (messages.foldl (fun r m => (r.answer m).2) r) (messages.foldl (fun s m => (s.answer m).2) s) := by
  induction messages generalizing r s with
  | nil => exact ⟨hs, ha⟩
  | cons m messages ih =>
    have hs' : (s.answer m).2.Sound := by
      rw [answer_after]
      exact SchedulerOracle.after_sound s hs m.call
    exact ih _ _ hs' (answer_agree r s hs ha m).2

/-- The reference driver and the oracle answer every message alike, and hold the same state after it. -/
theorem reference_driver_refines_oracle (models : List ModelConfig) :
    ∃ r₀, ReferenceScheduler.init (models.map ModelConfig.asMessage) = .ok r₀ ∧
      ∀ (before : List Message) (m : Message),
        let r := before.foldl (fun r m => (r.answer m).2) r₀
        let s := before.foldl (fun s m => (s.answer m).2) (SchedulerOracle.init models)
        Agree r s ∧ (r.answer m).1 = (s.answer m).1 ∧ Agree (r.answer m).2 (s.answer m).2 := by
  obtain ⟨r₀, hr₀, ha⟩ := init_agree models
  refine ⟨r₀, hr₀, ?_⟩
  intro before m r s
  obtain ⟨hs, hrs⟩ := answers_agree before r₀ _ (SchedulerOracle.init_sound models) ha
  exact ⟨hrs, answer_agree r s hs hrs m⟩

end TurnVector
