import TurnVector.CrossEngine.Reduction
import TurnVector.Fair.Gaps

/-! # Trial metrics

`reduce_trial_metrics` of `cross_engine/metrics.py`, and how it reconciles with the requests that it reduces.
-/

namespace TurnVector.CrossEngine

open Python Json Contracts Fair

/-! ## The reducer -/

structure TrialMetrics where
  intervalMs : ℚ
  offeredRequestCount : Int
  validCompletedRequestCount : Nat
  failedRequestCount : Int
  canonicalOutputTokens : Int
  requestThroughput : ℚ
  outputThroughput : ℚ
  offeredRequestRate : ℚ
  completionRate : ℚ
  sloGoodputRatio : ℚ
  errorCount : Int
  errorCounts : Dict Nat

/-- `counts[name] = counts.get(name, 0) + 1` -/
def countError (counts : Dict Nat) (name : Str) : Dict Nat := counts.insert name ((counts.lookup name).getD 0 + 1)

def validRequests (requests : List RequestMetrics) : List RequestMetrics := requests.filter (·.completionValid)

/-- `item.canonical_output_tokens or 0` -/
def outputTokens (requests : List RequestMetrics) : Int :=
  (requests.map fun item => item.canonicalOutputTokens.getD 0).sum

def errorCountsOf (requests : List RequestMetrics) : Dict Nat :=
  requests.foldl (fun counts item => item.errorClasses.foldl countError counts) ∅

/-- `nanoseconds / 1_000_000_000.0` -/
def Binary64.seconds (b : Binary64) (nanoseconds : Int) : ℚ := b.nearest (b.nearest nanoseconds / 1000000000)

/-- What the reducer returns once every check has passed. -/
def trialMetrics (b : Binary64) (requests : List RequestMetrics) (start stop offered arrivalInterval : Int) :
    TrialMetrics :=
  let valid := validRequests requests
  let tokens := outputTokens valid
  let intervalSeconds := b.seconds (stop - start)
  let failed := offered - valid.length
  let good := (requests.filter (·.sloSatisfied)).length
  { intervalMs := b.milliseconds (stop - start)
    offeredRequestCount := offered
    validCompletedRequestCount := valid.length
    failedRequestCount := failed
    canonicalOutputTokens := tokens
    requestThroughput := b.nearest (valid.length / intervalSeconds)
    outputThroughput := b.nearest (tokens / intervalSeconds)
    offeredRequestRate := b.nearest (offered / b.seconds arrivalInterval)
    completionRate := b.nearest (valid.length / intervalSeconds)
    sloGoodputRatio := b.nearest (good / offered)
    errorCount := failed
    errorCounts := errorCountsOf requests }

/-- `reduce_trial_metrics` -/
def reduceTrialMetrics (b : Binary64) (requests : List RequestMetrics)
    (t0Ns t1Ns plannedArrivalCount plannedArrivalIntervalNs : Int) : Except Raised TrialMetrics := do
  let start ← integer (.int t0Ns) (lit "t0_ns") 0 maxInteger
  let stop ← integer (.int t1Ns) (lit "t1_ns") (start + 1) maxInteger
  let offered ← integer (.int plannedArrivalCount) (lit "planned_arrival_count") 1 maxInteger
  let arrivalInterval ← integer (.int plannedArrivalIntervalNs) (lit "planned_arrival_interval_ns") 1 maxInteger
  if (requests.length : Int) ≠ offered then
    reject (lit "request records must match every planned offered arrival")
  else if ¬ (requests.map (·.requestId)).Nodup then
    reject (lit "request records contain duplicate request IDs")
  else if offered - (validRequests requests).length ≠ (requests.filter fun item => !item.completionValid).length then
    reject (lit "request completion accounting does not reconcile")
  else if requests.any fun item => !item.completionValid && item.errorClasses.isEmpty then
    reject (lit "invalid completion is missing an error class")
  else .ok (trialMetrics b requests start stop offered arrivalInterval)

/-- Floats without rounding. No reducer reads a literal. -/
def exactFloats : Binary64 where
  nearest q := q
  ofToken _ := .nan

/-! ## One request -/

section Request

variable {o : RequestObservation} {metrics : RequestMetrics}

/-- The count that the authority takes is not the required one. -/
def contractUnmet (o : RequestObservation) : Bool :=
  match canonicalTokenCounts o with
  | .ok counts => !decide (o.requiredOutputTokens = none ∨ counts.2 = o.requiredOutputTokens)
  | .error _ => false

/-- Output is required and none came. -/
def contentMissing (o : RequestObservation) : Bool := o.requiredOutputTokens.isSome && o.contentEventNs.isEmpty

/-- What the reducer returned was made of the counts and the bounds that it read. -/
theorem reduced_of_ok (b : Binary64) (h : reduceRequestMetrics b o = .ok metrics) :
    ∃ counts e2e ttft, canonicalTokenCounts o = .ok counts ∧
      metrics = reducedMetrics b o counts.1 counts.2 e2e ttft := by
  unfold reduceRequestMetrics at h
  obtain ⟨_, _, h⟩ := bind_ok_iff.mp h
  obtain ⟨_, _, h⟩ := bind_ok_iff.mp h
  obtain ⟨-, h⟩ := then_ok_iff.mp h
  obtain ⟨-, h⟩ := then_ok_iff.mp h
  obtain ⟨counts, hcounts, h⟩ := bind_ok_iff.mp h
  obtain ⟨_, _, h⟩ := bind_ok_iff.mp h
  obtain ⟨_, _, h⟩ := bind_ok_iff.mp h
  obtain ⟨e2e, _, h⟩ := bind_ok_iff.mp h
  obtain ⟨ttft, _, h⟩ := bind_ok_iff.mp h
  cases h
  exact ⟨counts, e2e, ttft, hcounts, rfl⟩

/-- The classes of a reduced request, by the checks of its observation. -/
theorem errorClasses_of_ok (b : Binary64) (h : reduceRequestMetrics b o = .ok metrics) :
    metrics.errorClasses = errorClassesOf o (!contractUnmet o) := by
  obtain ⟨counts, e2e, ttft, hcounts, rfl⟩ := reduced_of_ok b h
  simp [reducedMetrics, contractUnmet, hcounts]

end Request

/-! ## How often a class is named -/

def contractClass : Str := lit "output_contract"

def obligationClass : Str := lit "output_obligation"

/-- The request is named after the class that the check of its output adds. -/
def repeatsContract (o : RequestObservation) : Bool := decide (o.errorClass = some contractClass) && contractUnmet o

def lacksContract (o : RequestObservation) : Bool :=
  !decide (o.errorClass = some contractClass) && !contractUnmet o && !contentMissing o

/-- The request is named after the class that the check of its obligations adds. -/
def repeatsObligation (o : RequestObservation) : Bool :=
  decide (o.errorClass = some obligationClass) && !o.outputObligationsMet

def lacksObligation (o : RequestObservation) : Bool :=
  !decide (o.errorClass = some obligationClass) && o.outputObligationsMet

theorem classes_differ : contractClass ≠ obligationClass := by decide

theorem incomplete_differs : lit "incomplete_stream" ≠ contractClass ∧ lit "incomplete_stream" ≠ obligationClass := by
  decide

/-- Each check names its class at most once. -/
theorem count_checkedErrors (o : RequestObservation) (contractOk : Bool) (name : Str) :
    (checkedErrors o contractOk).count name =
      (decide (o.errorClass = some name)).toNat +
        (decide (o.wireComplete = false ∧ o.errorClass = none ∧ lit "incomplete_stream" = name)).toNat +
        (!contractOk && decide (contractClass = name)).toNat +
        (!o.outputObligationsMet && decide (obligationClass = name)).toNat := by
  have hone (condition : Prop) [Decidable condition] (added : Str) :
      (if condition then [added] else []).count name = (decide (condition ∧ added = name)).toNat := by
    by_cases hcondition : condition <;> by_cases hadded : added = name <;> simp [hcondition, hadded]
  have hown : o.errorClass.toList.count name = (decide (o.errorClass = some name)).toNat := by
    cases o.errorClass with
    | none => rfl
    | some own => by_cases hsame : own = name <;> simp [hsame]
  unfold checkedErrors
  rw [List.count_append, List.count_append, List.count_append, hown, hone, hone, hone]
  cases o.errorClass <;> simp <;> rfl

theorem count_errorClasses (o : RequestObservation) (name : Str) (hname : name ≠ contractClass) :
    (errorClassesOf o (!contractUnmet o)).count name = (checkedErrors o (!contractUnmet o)).count name := by
  unfold errorClassesOf
  dsimp only
  split
  · have hnone : [lit "output_contract"].count name = 0 := by
      rw [List.count_eq_zero, List.mem_singleton]
      exact hname
    rw [List.count_append, hnone, Nat.add_zero]
  · rfl

/-- The class of the output check is named once, unless no check names it or the request does too. -/
theorem count_contract (o : RequestObservation) :
    (errorClassesOf o (!contractUnmet o)).count contractClass + (lacksContract o).toNat =
      1 + (repeatsContract o).toNat := by
  have hchecked := count_checkedErrors o (!contractUnmet o) contractClass
  have hobligation : decide (obligationClass = contractClass) = false := decide_eq_false classes_differ.symm
  have hincomplete : decide (o.wireComplete = false ∧ o.errorClass = none ∧
      lit "incomplete_stream" = contractClass) = false := decide_eq_false fun h => incomplete_differs.1 h.2.2
  simp only [hobligation, hincomplete, decide_true, Bool.and_true, Bool.and_false, Bool.not_not, Bool.toNat_false,
    Nat.add_zero] at hchecked
  have hlate : (errorClassesOf o (!contractUnmet o)).count contractClass =
      (checkedErrors o (!contractUnmet o)).count contractClass +
        (contentMissing o && decide ((checkedErrors o (!contractUnmet o)).count contractClass = 0)).toNat := by
    have hmissing : contentMissing o = decide (o.requiredOutputTokens ≠ none ∧ o.contentEventNs = []) := by
      unfold contentMissing
      cases o.requiredOutputTokens <;> cases o.contentEventNs <;> simp
    have hoccurs : (!occurs (lit "output_contract") (checkedErrors o (!contractUnmet o))) =
        decide ((checkedErrors o (!contractUnmet o)).count contractClass = 0) := by
      rw [Bool.eq_iff_iff, decide_eq_true_eq, List.count_eq_zero, Bool.not_eq_true', ← Bool.not_eq_true, occurs_iff]
      rfl
    rw [hmissing, ← hoccurs]
    unfold errorClassesOf
    by_cases hrequired : o.requiredOutputTokens ≠ none ∧ o.contentEventNs = []
    · cases hnew : (!occurs (lit "output_contract") (checkedErrors o (!contractUnmet o))) with
      | false => simp [hnew]
      | true =>
        dsimp only
        rw [if_pos ⟨hrequired.1, hrequired.2, hnew⟩, decide_eq_true hrequired, List.count_append]
        rfl
    · rw [decide_eq_false hrequired]
      dsimp only
      rw [if_neg fun h => hrequired ⟨h.1, h.2.1⟩]
      rfl
  rw [hlate, hchecked]
  unfold lacksContract repeatsContract
  cases decide (o.errorClass = some contractClass) <;> cases contractUnmet o <;> cases contentMissing o <;> simp

/-- The class of the obligations is named once, unless no check names it or the request does too. -/
theorem count_obligation (o : RequestObservation) :
    (errorClassesOf o (!contractUnmet o)).count obligationClass + (lacksObligation o).toNat =
      1 + (repeatsObligation o).toNat := by
  rw [count_errorClasses o obligationClass classes_differ.symm, count_checkedErrors]
  have hcontract : decide (contractClass = obligationClass) = false := decide_eq_false classes_differ
  have hincomplete : decide (o.wireComplete = false ∧ o.errorClass = none ∧
      lit "incomplete_stream" = obligationClass) = false := decide_eq_false fun h => incomplete_differs.2 h.2.2
  rw [hcontract, hincomplete]
  unfold lacksObligation repeatsObligation
  cases decide (o.errorClass = some obligationClass) <;> cases o.outputObligationsMet <;> simp

/-- Every other class is named at most once. -/
theorem count_other (o : RequestObservation) (name : Str) (hcontract : name ≠ contractClass)
    (hobligation : name ≠ obligationClass) : (errorClassesOf o (!contractUnmet o)).count name ≤ 1 := by
  rw [count_errorClasses o name hcontract, count_checkedErrors, decide_eq_false hcontract.symm,
    decide_eq_false hobligation.symm, Bool.and_false, Bool.and_false]
  cases o.errorClass with
  | none => simpa using Bool.toNat_le _
  | some own => simpa using Bool.toNat_le _

/-! ## What a request reconciles -/

/-- The flags of a reduced request agree with its classes and its times. -/
structure RequestReconciled (o : RequestObservation) (metrics : RequestMetrics) : Prop where
  invalid : metrics.completionValid = false ↔ metrics.errorClasses ≠ []
  good : metrics.sloSatisfied = true → metrics.completionValid = true
  incomplete : o.wireComplete = false → metrics.completionValid = false
  ttft : ∀ ttft ∈ metrics.ttftMs, ∀ e2e ∈ metrics.e2eMs, ttft ≤ e2e
  intervals : ∀ interval ∈ metrics.streamEventIntervalMs, 0 ≤ interval
  total : metrics.streamEventIntervalMs.sum =
    ((o.contentEventNs.getLast?.getD 0 : ℚ) - (o.contentEventNs.head?.getD 0 : ℚ)) / 1000000

theorem checkedErrors_eq_nil (o : RequestObservation) (contractOk : Bool) :
    checkedErrors o contractOk = [] ↔
      o.errorClass = none ∧ o.wireComplete = true ∧ contractOk = true ∧ o.outputObligationsMet = true := by
  unfold checkedErrors
  rw [List.append_eq_nil_iff, List.append_eq_nil_iff, List.append_eq_nil_iff, and_assoc, and_assoc,
    Option.toList_eq_nil_iff]
  refine and_congr_right fun hown => and_congr ?_ (and_congr ?_ ?_)
  · simp [hown]
  · simp
  · simp

/-- No class is named exactly if every check passes. -/
theorem errorClassesOf_eq_nil (o : RequestObservation) (contractOk : Bool) :
    errorClassesOf o contractOk = [] ↔ (o.errorClass = none ∧ o.wireComplete = true ∧ contractOk = true ∧
      o.outputObligationsMet = true) ∧ contentMissing o = false := by
  rw [← checkedErrors_eq_nil]
  have hmissing : contentMissing o = true ↔ o.requiredOutputTokens ≠ none ∧ o.contentEventNs = [] := by
    simp [contentMissing, Option.isSome_iff_ne_none]
  unfold errorClassesOf
  dsimp only
  split
  case isTrue hlate =>
    have hyes := hmissing.mpr ⟨hlate.1, hlate.2.1⟩
    simp [hyes]
  case isFalse hlate =>
    constructor
    · intro hnil
      refine ⟨hnil, ?_⟩
      rw [Bool.eq_false_iff]
      intro hyes
      obtain ⟨hrequired, hcontent⟩ := hmissing.mp hyes
      exact hlate ⟨hrequired, hcontent, by rw [hnil]; rfl⟩
    · exact And.left

theorem milliseconds_exact (nanoseconds : Int) : exactFloats.milliseconds nanoseconds = nanoseconds / 1000000 := rfl

/-- The intervals are the gaps between the events. -/
theorem intervals_exact (events : List Int) :
    (events.zip events.tail).map (fun pair => exactFloats.milliseconds (pair.2 - pair.1)) =
      gaps (events.map fun event : Int => (event : ℚ) / 1000000) := by
  induction events with
  | nil => rfl
  | cons first events ih =>
    cases events with
    | nil => rfl
    | cons second events =>
      simp only [List.tail_cons, List.zip_cons_cons, List.map_cons] at ih ⊢
      rw [gaps_cons_cons, ← ih, milliseconds_exact]
      simp only [List.cons.injEq, and_true]
      push_cast
      ring

theorem request_reconciled {o : RequestObservation} {metrics : RequestMetrics}
    (h : reduceRequestMetrics exactFloats o = .ok metrics) : RequestReconciled o metrics := by
  have hreducible := (reduceRequestMetrics_ok_iff exactFloats o).mp ⟨metrics, h⟩
  obtain ⟨counts, e2e, ttft, -, rfl⟩ := reduced_of_ok exactFloats h
  constructor
  case invalid =>
    rw [← Bool.not_eq_true, not_iff_not]
    simp only [reducedMetrics, Bool.and_eq_true, List.isEmpty_iff]
    refine ⟨And.right, fun hnil => ⟨?_, hnil⟩⟩
    obtain ⟨⟨-, hwire, hcontract, hobligations⟩, hcontent⟩ := (errorClassesOf_eq_nil o _).mp hnil
    have hmissing : (!(o.requiredOutputTokens.isSome && o.contentEventNs.isEmpty)) = true := by
      rw [Bool.not_eq_true']
      exact hcontent
    exact ⟨⟨hwire, hcontract, hmissing⟩, hobligations⟩
  case good =>
    intro hgood
    simp only [reducedMetrics, Bool.and_eq_true] at hgood
    simp only [reducedMetrics, Bool.and_eq_true]
    exact hgood.1.1
  case incomplete =>
    intro hwire
    simp [reducedMetrics, hwire]
  case ttft =>
    intro ttft httft e2e he2e
    simp only [reducedMetrics, Binary64.ttft, Binary64.e2e, Option.mem_map] at httft he2e
    obtain ⟨first, hfirst, rfl⟩ := httft
    obtain ⟨terminal, hterminal, rfl⟩ := he2e
    have hended := hreducible.ended terminal hterminal first (List.mem_of_head? hfirst)
    rw [milliseconds_exact, milliseconds_exact]
    gcongr
  case intervals =>
    simp only [reducedMetrics, intervals_exact]
    apply gaps_nonneg
    rw [List.pairwise_map]
    refine hreducible.monotone.imp fun {a b} hab => ?_
    gcongr
  case total =>
    simp only [reducedMetrics, intervals_exact]
    cases hevents : o.contentEventNs with
    | nil => simp [gaps]
    | cons first rest =>
      have hlast : (rest.map fun event : Int => (event : ℚ) / 1000000).getLastD ((first : ℚ) / 1000000) =
          ((first :: rest).getLast?.getD 0 : ℚ) / 1000000 := by
        cases hrest : rest.getLast? with
        | none => simp_all
        | some last => simp_all [List.getLast?_cons, List.getLastD_eq_getLast?]
      rw [List.map_cons, sum_gaps, hlast]
      simp only [List.head?_cons, Option.getD_some]
      ring

/-! ## How the trial counts -/

theorem lookup_countError (counts : Dict Nat) (name other : Str) :
    ((countError counts name).lookup other).getD 0 = (counts.lookup other).getD 0 + if name = other then 1 else 0 := by
  unfold countError
  by_cases hsame : name = other
  · rw [← hsame, Finmap.lookup_insert, if_pos rfl, Option.getD_some]
  · rw [Finmap.lookup_insert_of_ne _ (Ne.symm hsame), if_neg hsame, Nat.add_zero]

theorem lookup_tally (names : List Str) (counts : Dict Nat) (name : Str) :
    ((names.foldl countError counts).lookup name).getD 0 = (counts.lookup name).getD 0 + names.count name := by
  induction names generalizing counts with
  | nil => rfl
  | cons head names ih =>
    rw [List.foldl_cons, ih, lookup_countError, List.count_cons]
    by_cases hsame : head = name
    · rw [if_pos hsame, if_pos (beq_iff_eq.mpr hsame)]
      omega
    · rw [if_neg hsame, if_neg (by simpa using hsame)]
      omega

instance : RightCommutative countError where
  right_comm counts name other := by
    by_cases hsame : name = other
    · rw [hsame]
    · unfold countError
      rw [Finmap.lookup_insert_of_ne _ (Ne.symm hsame), Finmap.lookup_insert_of_ne _ hsame,
        Finmap.insert_insert_of_ne _ hsame]

def classesOf (requests : List RequestMetrics) : List Str := requests.flatMap (·.errorClasses)

theorem errorCountsOf_eq (requests : List RequestMetrics) :
    errorCountsOf requests = (classesOf requests).foldl countError ∅ := by
  rw [errorCountsOf, classesOf, List.foldl_flatMap]

/-- An error class is counted as often as the requests name it. -/
theorem errorCountsOf_lookup (requests : List RequestMetrics) (name : Str) :
    ((errorCountsOf requests).lookup name).getD 0 = (classesOf requests).count name := by
  rw [errorCountsOf_eq, lookup_tally, Finmap.lookup_empty, Option.getD_none, Nat.zero_add]

/-- The trial does not see the order of its requests. -/
theorem trialMetrics_perm (b : Binary64) {requests shuffled : List RequestMetrics} (hperm : shuffled.Perm requests)
    (start stop offered arrivalInterval : Int) :
    trialMetrics b shuffled start stop offered arrivalInterval =
      trialMetrics b requests start stop offered arrivalInterval := by
  have hvalid : (validRequests shuffled).Perm (validRequests requests) := hperm.filter _
  have htokens : outputTokens (validRequests shuffled) = outputTokens (validRequests requests) :=
    (hvalid.map _).sum_eq
  have hgood := (hperm.filter (·.sloSatisfied)).length_eq
  have hclasses : errorCountsOf shuffled = errorCountsOf requests := by
    rw [errorCountsOf_eq, errorCountsOf_eq]
    exact (hperm.flatMap_right _).foldl_eq ∅
  unfold trialMetrics
  dsimp only
  rw [hvalid.length_eq, htokens, hgood, hclasses]

theorem reduceTrialMetrics_perm (b : Binary64) {requests shuffled : List RequestMetrics}
    (hperm : shuffled.Perm requests) (t0Ns t1Ns plannedArrivalCount plannedArrivalIntervalNs : Int) :
    reduceTrialMetrics b shuffled t0Ns t1Ns plannedArrivalCount plannedArrivalIntervalNs =
      reduceTrialMetrics b requests t0Ns t1Ns plannedArrivalCount plannedArrivalIntervalNs := by
  have hids : (shuffled.map (·.requestId)).Nodup ↔ (requests.map (·.requestId)).Nodup := (hperm.map _).nodup_iff
  have hvalid := (hperm.filter (·.completionValid)).length_eq
  have hfailed := (hperm.filter fun item => !item.completionValid).length_eq
  have hunnamed := hperm.any_eq (f := fun item => !item.completionValid && item.errorClasses.isEmpty)
  unfold reduceTrialMetrics validRequests
  simp only [hperm.length_eq, hids, hvalid, hfailed, hunnamed, trialMetrics_perm b hperm]

/-! ## What a trial reconciles -/

/-- The counts of a trial agree with its requests. -/
structure TrialReconciled (requests : List RequestMetrics) (offered : Int) (trial : TrialMetrics) : Prop where
  accounted : trial.validCompletedRequestCount + trial.failedRequestCount = offered
  valid : trial.validCompletedRequestCount = (requests.filter (·.completionValid)).length
  tokens : trial.canonicalOutputTokens =
    ((requests.filter (·.completionValid)).map fun item => item.canonicalOutputTokens.getD 0).sum
  good : ∃ good ≤ trial.validCompletedRequestCount, good = (requests.filter (·.sloSatisfied)).length ∧
    trial.sloGoodputRatio = good / offered
  classes : ∀ name count, trial.errorCounts.lookup name = some count → (count : Int) ≤ offered

/-- Neither reconciliation fails, and what comes back reconciles. -/
structure TrialOutcome (requests : List RequestMetrics) (offered : Int) (outcome : Except Raised TrialMetrics) :
    Prop where
  accounted : outcome ≠ reject (lit "request completion accounting does not reconcile")
  named : outcome ≠ reject (lit "invalid completion is missing an error class")
  reconciled : ∀ trial, outcome = .ok trial → TrialReconciled requests offered trial

theorem good_le_valid (requests : List RequestMetrics)
    (hgood : ∀ item ∈ requests, item.sloSatisfied = true → item.completionValid = true) :
    (requests.filter (·.sloSatisfied)).length ≤ (validRequests requests).length := by
  rw [validRequests, ← List.countP_eq_length_filter, ← List.countP_eq_length_filter]
  exact List.countP_mono_left hgood

theorem failed_eq (requests : List RequestMetrics) :
    (requests.length : Int) - (validRequests requests).length =
      (requests.filter fun item => !item.completionValid).length := by
  have hsplit := List.length_eq_countP_add_countP (fun item : RequestMetrics => item.completionValid) (l := requests)
  simp only [List.countP_eq_length_filter, Bool.not_eq_true, Bool.decide_eq_false] at hsplit
  rw [validRequests, hsplit]
  push_cast
  ring

theorem integer_error {n minimum maximum : Int} {place : Str} {raised : Raised}
    (h : integer (.int n) place minimum maximum = .error raised) :
    ∃ rest, raised = ⟨lit "ContractError", place ++ rest⟩ := by
  unfold integer at h
  dsimp only at h
  split at h
  · cases h
    exact ⟨lit " must be between " ++ intText minimum ++ lit " and " ++ intText maximum,
      by simp only [List.append_assoc]⟩
  · cases h

/-- The requests pass every check that does not read the window. -/
structure Accountable (requests : List RequestMetrics) : Prop where
  distinct : (requests.map (·.requestId)).Nodup
  named : ∀ item ∈ requests, item.completionValid = false → item.errorClasses ≠ []

theorem checks_pass {requests : List RequestMetrics} (h : Accountable requests) (b : Binary64)
    (start stop arrivalInterval : Int) :
    (if (requests.length : Int) ≠ requests.length then
      reject (lit "request records must match every planned offered arrival")
    else if ¬ (requests.map (·.requestId)).Nodup then
      reject (lit "request records contain duplicate request IDs")
    else if (requests.length : Int) - (validRequests requests).length ≠
        (requests.filter fun item => !item.completionValid).length then
      reject (lit "request completion accounting does not reconcile")
    else if requests.any fun item => !item.completionValid && item.errorClasses.isEmpty then
      reject (lit "invalid completion is missing an error class")
    else (.ok (trialMetrics b requests start stop requests.length arrivalInterval) : Except Raised TrialMetrics)) =
      .ok (trialMetrics b requests start stop requests.length arrivalInterval) := by
  have hnamed : ¬ (requests.any fun item => !item.completionValid && item.errorClasses.isEmpty) = true := by
    simp only [List.any_eq_true, Bool.and_eq_true, Bool.not_eq_true', List.isEmpty_iff, not_exists, not_and]
    exact h.named
  rw [if_neg (not_not.mpr rfl), if_neg (not_not.mpr h.distinct), if_neg (not_not.mpr (failed_eq requests)),
    if_neg hnamed]

/-- The reducer fails on an argument or returns. -/
theorem reduceTrialMetrics_cases {requests : List RequestMetrics} (h : Accountable requests) (b : Binary64)
    (t0Ns t1Ns plannedArrivalIntervalNs : Int) :
    (∃ place ∈ ["t0_ns", "t1_ns", "planned_arrival_count", "planned_arrival_interval_ns"], ∃ rest,
      reduceTrialMetrics b requests t0Ns t1Ns requests.length plannedArrivalIntervalNs =
        reject (lit place ++ rest)) ∨
    reduceTrialMetrics b requests t0Ns t1Ns requests.length plannedArrivalIntervalNs =
      .ok (trialMetrics b requests t0Ns t1Ns requests.length plannedArrivalIntervalNs) := by
  unfold reduceTrialMetrics
  cases hstart : integer (.int t0Ns) (lit "t0_ns") 0 maxInteger with
  | error raised =>
    obtain ⟨rest, rfl⟩ := integer_error hstart
    exact .inl ⟨"t0_ns", by simp, rest, rfl⟩
  | ok start =>
  cases hstop : integer (.int t1Ns) (lit "t1_ns") (start + 1) maxInteger with
  | error raised =>
    obtain ⟨rest, rfl⟩ := integer_error hstop
    exact .inl ⟨"t1_ns", by simp, rest, by simp only [bind, Except.bind, hstop]; rfl⟩
  | ok stop =>
  cases hoffered : integer (.int requests.length) (lit "planned_arrival_count") 1 maxInteger with
  | error raised =>
    obtain ⟨rest, rfl⟩ := integer_error hoffered
    exact .inl ⟨"planned_arrival_count", by simp, rest, by simp only [bind, Except.bind, hstop]; rfl⟩
  | ok offered =>
  cases hinterval : integer (.int plannedArrivalIntervalNs) (lit "planned_arrival_interval_ns") 1 maxInteger with
  | error raised =>
    obtain ⟨rest, rfl⟩ := integer_error hinterval
    exact .inl ⟨"planned_arrival_interval_ns", by simp, rest, by simp only [bind, Except.bind, hstop]; rfl⟩
  | ok arrivalInterval =>
  cases integer_value _ _ _ _ _ hstart
  cases integer_value _ _ _ _ _ hstop
  cases integer_value _ _ _ _ _ hoffered
  cases integer_value _ _ _ _ _ hinterval
  refine .inr ?_
  simp only [bind, Except.bind, hstop]
  exact checks_pass h b _ _ _

/-- No argument is named as a reconciliation. -/
theorem place_differs (place : String)
    (h : place ∈ ["t0_ns", "t1_ns", "planned_arrival_count", "planned_arrival_interval_ns"]) (rest : Str) :
    (reject (lit place ++ rest) : Except Raised TrialMetrics) ≠
        reject (lit "request completion accounting does not reconcile") ∧
      (reject (lit place ++ rest) : Except Raised TrialMetrics) ≠
        reject (lit "invalid completion is missing an error class") := by
  have hhead : (lit place ++ rest).head? = some (cp 116) ∨ (lit place ++ rest).head? = some (cp 112) := by
    simp only [List.mem_cons, List.not_mem_nil, or_false] at h
    rcases h with rfl | rfl | rfl | rfl
    · exact .inl rfl
    · exact .inl rfl
    · exact .inr rfl
    · exact .inr rfl
  have hdiffers (text : Str) (hone : text.head? ≠ some (cp 116)) (htwo : text.head? ≠ some (cp 112)) :
      (reject (lit place ++ rest) : Except Raised TrialMetrics) ≠ reject text := by
    intro hsame
    simp only [reject, Except.error.injEq, Raised.mk.injEq, true_and] at hsame
    rw [hsame] at hhead
    exact hhead.elim hone htwo
  exact ⟨hdiffers _ (by decide) (by decide), hdiffers _ (by decide) (by decide)⟩

/-- A window of one tick is accepted. -/
theorem reduceTrialMetrics_tick {requests : List RequestMetrics} (h : Accountable requests) (b : Binary64)
    (hsome : 1 ≤ (requests.length : Int)) (hmaximum : (requests.length : Int) ≤ maxInteger) :
    reduceTrialMetrics b requests 0 1 requests.length 1 = .ok (trialMetrics b requests 0 1 requests.length 1) := by
  have hone : (1 : Int) ≤ maxInteger := by decide
  have hstart : integer (.int 0) (lit "t0_ns") 0 maxInteger = .ok 0 :=
    (integer_ok_iff _ _ _ _ _).mpr ⟨rfl, le_rfl, by decide⟩
  have hstop : integer (.int 1) (lit "t1_ns") (0 + 1) maxInteger = .ok 1 :=
    (integer_ok_iff _ _ _ _ _).mpr ⟨rfl, le_rfl, hone⟩
  have hoffered : integer (.int requests.length) (lit "planned_arrival_count") 1 maxInteger = .ok requests.length :=
    (integer_ok_iff _ _ _ _ _).mpr ⟨rfl, hsome, hmaximum⟩
  have hinterval : integer (.int 1) (lit "planned_arrival_interval_ns") 1 maxInteger = .ok 1 :=
    (integer_ok_iff _ _ _ _ _).mpr ⟨rfl, le_rfl, hone⟩
  unfold reduceTrialMetrics
  simp only [bind, Except.bind, hstart, hstop, hoffered, hinterval]
  exact checks_pass h b _ _ _

/-! ## When a trial reconciles -/

section Reduced

variable {observations : List RequestObservation} {requests : List RequestMetrics}

theorem requests_reconciled (h : observations.mapM (reduceRequestMetrics exactFloats) = .ok requests) :
    List.Forall₂ RequestReconciled observations requests :=
  (forall₂_of_mapM h).imp fun _ _ => request_reconciled

theorem accountable (h : observations.mapM (reduceRequestMetrics exactFloats) = .ok requests)
    (hdistinct : (requests.map (·.requestId)).Nodup) : Accountable requests := by
  refine ⟨hdistinct, fun item hitem hinvalid => ?_⟩
  obtain ⟨o, -, ho⟩ := mem_of_mapM_ok _ _ _ h item hitem
  exact (request_reconciled ho).invalid.mp hinvalid

/-- The classes of the trial, by the checks of its observations. -/
theorem classesOf_reduced (h : observations.mapM (reduceRequestMetrics exactFloats) = .ok requests) :
    classesOf requests = observations.flatMap fun o => errorClassesOf o (!contractUnmet o) := by
  have hmap := mapM_map (reduceRequestMetrics exactFloats) (·.errorClasses)
    (fun o => errorClassesOf o (!contractUnmet o)) (fun o metrics => errorClasses_of_ok exactFloats) _ _ h
  rw [classesOf, List.flatMap_def, hmap, List.flatMap_def]

/-- Each class is named by every observation but the ones that lack it, and twice by the ones that repeat it. -/
theorem count_named (observations : List RequestObservation) (names : RequestObservation → List Str) (name : Str)
    (lacks repeats : RequestObservation → Bool)
    (hcount : ∀ o, (names o).count name + (lacks o).toNat = 1 + (repeats o).toNat) :
    (observations.flatMap names).count name + observations.countP lacks =
      observations.length + observations.countP repeats := by
  induction observations with
  | nil => rfl
  | cons o observations ih =>
    have hone := hcount o
    rw [List.flatMap_cons, List.count_append, List.length_cons, List.countP_cons, List.countP_cons]
    cases hlacks : lacks o <;> cases hrepeats : repeats o <;> simp [hlacks, hrepeats] at hone ⊢ <;> omega

theorem count_single (names : RequestObservation → List Str) (name : Str) (hcount : ∀ o, (names o).count name ≤ 1) :
    (observations.flatMap names).count name ≤ observations.length := by
  induction observations with
  | nil => exact le_rfl
  | cons o observations ih =>
    have hone := hcount o
    rw [List.flatMap_cons, List.count_append, List.length_cons]
    omega

/-- Every class is counted within the offered requests exactly if the two that a check adds are. -/
theorem classes_le_iff (h : observations.mapM (reduceRequestMetrics exactFloats) = .ok requests) :
    (∀ name count, (errorCountsOf requests).lookup name = some count → count ≤ observations.length) ↔
      observations.countP repeatsContract ≤ observations.countP lacksContract ∧
        observations.countP repeatsObligation ≤ observations.countP lacksObligation := by
  have hcontract := count_named observations _ _ _ _ count_contract
  have hobligation := count_named observations _ _ _ _ count_obligation
  have hlookup : ∀ name, ((errorCountsOf requests).lookup name).getD 0 =
      (observations.flatMap fun o => errorClassesOf o (!contractUnmet o)).count name := by
    intro name
    rw [errorCountsOf_lookup, classesOf_reduced h]
  constructor
  · intro hle
    have hbound : ∀ name, ((errorCountsOf requests).lookup name).getD 0 ≤ observations.length := by
      intro name
      cases hname : (errorCountsOf requests).lookup name with
      | none => exact Nat.zero_le _
      | some count => exact hle name count hname
    have hone := hbound contractClass
    have htwo := hbound obligationClass
    rw [hlookup] at hone htwo
    omega
  · rintro ⟨hone, htwo⟩ name count hname
    have hcount := hlookup name
    rw [hname, Option.getD_some] at hcount
    rw [hcount]
    by_cases hcontractName : name = contractClass
    · rw [hcontractName]
      omega
    by_cases hobligationName : name = obligationClass
    · rw [hobligationName]
      omega
    exact count_single _ _ fun o => count_other o name hcontractName hobligationName

theorem trial_reconciled (h : observations.mapM (reduceRequestMetrics exactFloats) = .ok requests)
    (hclasses : ∀ name count, (errorCountsOf requests).lookup name = some count → count ≤ requests.length)
    (start stop arrivalInterval : Int) : TrialReconciled requests requests.length
      (trialMetrics exactFloats requests start stop requests.length arrivalInterval) := by
  have hgood : ∀ item ∈ requests, item.sloSatisfied = true → item.completionValid = true := by
    intro item hitem
    obtain ⟨o, -, ho⟩ := mem_of_mapM_ok _ _ _ h item hitem
    exact (request_reconciled ho).good
  refine ⟨?_, rfl, rfl, ⟨_, good_le_valid requests hgood, rfl, rfl⟩, ?_⟩
  · exact add_sub_cancel _ _
  · intro name count hname
    exact_mod_cast hclasses name count hname

end Reduced

/-- Distinct requests reconcile with their trial exactly if the output contract and the output obligations are each
named twice by no more requests than do not name it. -/
theorem trial_reconciled_iff (observations : List RequestObservation) (requests : List RequestMetrics) (offered : Int)
    (h : observations.mapM (reduceRequestMetrics exactFloats) = .ok requests)
    (hdistinct : (requests.map (·.requestId)).Nodup) (hcount : (requests.length : Int) = offered)
    (hmaximum : offered ≤ maxInteger) :
    (List.Forall₂ RequestReconciled observations requests ∧
      ∀ t0Ns t1Ns plannedArrivalIntervalNs,
        TrialOutcome requests offered
          (reduceTrialMetrics exactFloats requests t0Ns t1Ns offered plannedArrivalIntervalNs) ∧
        ∀ shuffled : List RequestMetrics, shuffled.Perm requests →
          reduceTrialMetrics exactFloats shuffled t0Ns t1Ns offered plannedArrivalIntervalNs =
            reduceTrialMetrics exactFloats requests t0Ns t1Ns offered plannedArrivalIntervalNs) ↔
      observations.countP repeatsContract ≤ observations.countP lacksContract ∧
        observations.countP repeatsObligation ≤ observations.countP lacksObligation := by
  subst hcount
  have haccountable := accountable h hdistinct
  have hlength : observations.length = requests.length := (requests_reconciled h).length_eq
  rw [← classes_le_iff h, hlength]
  constructor
  · rintro ⟨-, hall⟩ name count hname
    have hsome : 1 ≤ (requests.length : Int) := by
      have hne : requests ≠ [] := by
        rintro rfl
        cases hname
      exact_mod_cast List.length_pos_iff.mpr hne
    have htrial := (hall 0 1 1).1.reconciled _ (reduceTrialMetrics_tick haccountable exactFloats hsome hmaximum)
    exact_mod_cast htrial.classes name count hname
  · intro hclasses
    refine ⟨requests_reconciled h, fun t0Ns t1Ns plannedArrivalIntervalNs => ⟨?_, fun shuffled hperm =>
      reduceTrialMetrics_perm exactFloats hperm t0Ns t1Ns _ plannedArrivalIntervalNs⟩⟩
    rcases reduceTrialMetrics_cases haccountable exactFloats t0Ns t1Ns plannedArrivalIntervalNs with
      ⟨place, hplace, rest, hrejected⟩ | hreturned
    · rw [hrejected]
      have hdiffers := place_differs place hplace rest
      exact ⟨hdiffers.1, hdiffers.2, by simp [reject]⟩
    · rw [hreturned]
      refine ⟨by simp [reject], by simp [reject], ?_⟩
      intro trial htrial
      cases htrial
      exact trial_reconciled h hclasses t0Ns t1Ns plannedArrivalIntervalNs

/-! ## A request that is named twice -/

/-- An incomplete stream that is already classified as the breach that the reducer finds. -/
def classifiedObservation : RequestObservation where
  requestId := lit "request"
  dispatchNs := 0
  terminalNs := none
  contentEventNs := []
  wireComplete := false
  benchmarkInputTokens := none
  benchmarkOutputTokens := none
  serverInputTokens := some 4
  serverOutputTokens := some 0
  tokenAuthority := lit "server_usage"
  requiredOutputTokens := some 1
  outputObligationsMet := true
  errorClass := some contractClass
  sloE2eMs := none
  sloTtftMs := none

def classifiedMetrics : RequestMetrics := reducedMetrics exactFloats classifiedObservation (some 4) (some 0) none none

theorem reduce_classified :
    [classifiedObservation].mapM (reduceRequestMetrics exactFloats) = .ok [classifiedMetrics] := rfl

/-- One offered request, and its class is counted twice. -/
theorem class_counted_twice :
    [classifiedObservation].mapM (reduceRequestMetrics exactFloats) = .ok [classifiedMetrics] ∧
      ∃ trial, reduceTrialMetrics exactFloats [classifiedMetrics] 0 1 1 1 = .ok trial ∧
        trial.offeredRequestCount = 1 ∧ trial.errorCounts.lookup contractClass = some 2 ∧
        ¬ TrialReconciled [classifiedMetrics] 1 trial := by
  refine ⟨reduce_classified, _, rfl, rfl, rfl, fun h => ?_⟩
  have hle := h.classes contractClass 2 rfl
  omega

/-- The same stream, without a class of its own. -/
def unclassifiedObservation : RequestObservation := { classifiedObservation with errorClass := none }

def unclassifiedMetrics : RequestMetrics :=
  reducedMetrics exactFloats unclassifiedObservation (some 4) (some 0) none none

theorem trial_reconciled_unclassified :
    (List.Forall₂ RequestReconciled [unclassifiedObservation] [unclassifiedMetrics] ∧
      ∀ t0Ns t1Ns plannedArrivalIntervalNs,
        TrialOutcome [unclassifiedMetrics] 1
          (reduceTrialMetrics exactFloats [unclassifiedMetrics] t0Ns t1Ns 1 plannedArrivalIntervalNs) ∧
        ∀ shuffled : List RequestMetrics, shuffled.Perm [unclassifiedMetrics] →
          reduceTrialMetrics exactFloats shuffled t0Ns t1Ns 1 plannedArrivalIntervalNs =
            reduceTrialMetrics exactFloats [unclassifiedMetrics] t0Ns t1Ns 1 plannedArrivalIntervalNs) :=
  (trial_reconciled_iff [unclassifiedObservation] [unclassifiedMetrics] 1 rfl (List.nodup_singleton _) rfl
    (by decide)).mpr (by decide)

end TurnVector.CrossEngine
