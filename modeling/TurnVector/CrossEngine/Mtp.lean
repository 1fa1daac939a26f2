import TurnVector.CrossEngine.Routes

/-! # MTP comparison

`cross_engine/mtp.py`: the trials of a direct and of a configured run, and when their pairing has a speedup.
-/

namespace TurnVector.CrossEngine.Mtp

open Python Json Contracts

/-! ## The trials -/

structure MTPCounts where
  drafted : Int
  accepted : Int
  rejected : Int
  emitted : Int
  terminal : Int
  counted : 0 ≤ drafted ∧ 0 ≤ accepted ∧ 0 ≤ rejected ∧ 0 ≤ emitted ∧ 0 ≤ terminal

/-- `MTPCounts.__post_init__`, which names the first count that is negative. -/
def mtpCounts (drafted accepted rejected emitted terminal : Int) : Except Raised MTPCounts :=
  if hcounted : 0 ≤ drafted ∧ 0 ≤ accepted ∧ 0 ≤ rejected ∧ 0 ≤ emitted ∧ 0 ≤ terminal then
    .ok ⟨drafted, accepted, rejected, emitted, terminal, hcounted⟩
  else
    let field :=
      if drafted < 0 then "drafted" else if accepted < 0 then "accepted" else if rejected < 0 then "rejected"
      else if emitted < 0 then "emitted" else "terminal"
    reject (lit "MTP count " ++ lit field ++ lit " must be a non-negative integer")

inductive MTPMode
  | direct
  | configuredMtp
  deriving DecidableEq

def MTPCounts.reconciles (counts : MTPCounts) (fixedOutputTokens : Int) (direct : Bool) : Bool :=
  if ¬ (0 ≤ counts.accepted ∧ counts.accepted ≤ counts.drafted) then false
  else if counts.accepted + counts.rejected ≠ counts.drafted then false
  else if counts.emitted ≠ fixedOutputTokens ∨ counts.terminal ≠ 1 then false
  else !direct || decide (counts.drafted = 0 ∧ counts.accepted = 0 ∧ counts.rejected = 0)

structure MTPTrial where
  requestId : Str
  mode : MTPMode
  targetId : Str
  modelIdentity : Str
  promptSuiteIdentity : Str
  samplingIdentity : Str
  hostSessionId : Str
  fixedOutputTokens : Int
  outputTokenHash : Str
  route : RouteEvidence
  counts : MTPCounts
  elapsedMs : Option ℚ
  completed : Bool
  error : Bool
  mtpSidecarIdentity : Option Str
  correlated : requestId ≠ [] ∧ route.requestId = requestId
  named : ∀ text ∈ [targetId, modelIdentity, promptSuiteIdentity, samplingIdentity, hostSessionId, outputTokenHash],
    text ≠ []
  fixed : 0 ≤ fixedOutputTokens
  configured : mode = .configuredMtp → mtpSidecarIdentity ≠ none ∧ mtpSidecarIdentity ≠ some []
  bare : mode = .direct → mtpSidecarIdentity = none
  elapsed : ∀ elapsed ∈ elapsedMs, 0 < elapsed

/-- `MTPTrial.__post_init__`, which names the first identity that is empty. -/
def mtpTrial (requestId : Str) (mode : MTPMode) (targetId modelIdentity promptSuiteIdentity samplingIdentity
    hostSessionId : Str) (fixedOutputTokens : Int) (outputTokenHash : Str) (route : RouteEvidence) (counts : MTPCounts)
    (elapsedMs : Option ℚ) (completed error : Bool) (mtpSidecarIdentity : Option Str) : Except Raised MTPTrial :=
  if hcorrelated : requestId ≠ [] ∧ route.requestId = requestId then
    if hnamed : ∀ text ∈ [targetId, modelIdentity, promptSuiteIdentity, samplingIdentity, hostSessionId,
        outputTokenHash], text ≠ [] then
      if hfixed : 0 ≤ fixedOutputTokens then
        if hconfigured : mode = .configuredMtp → mtpSidecarIdentity ≠ none ∧ mtpSidecarIdentity ≠ some [] then
          if hbare : mode = .direct → mtpSidecarIdentity = none then
            if helapsed : ∀ elapsed ∈ elapsedMs, 0 < elapsed then
              .ok ⟨requestId, mode, targetId, modelIdentity, promptSuiteIdentity, samplingIdentity, hostSessionId,
                fixedOutputTokens, outputTokenHash, route, counts, elapsedMs, completed, error, mtpSidecarIdentity,
                hcorrelated, hnamed, hfixed, hconfigured, hbare, helapsed⟩
            else reject (lit "elapsed_ms must be finite and greater than zero")
          else reject (lit "direct trial must not bind an MTP sidecar identity")
        else reject (lit "configured MTP trial must bind an MTP sidecar identity")
      else reject (lit "fixed_output_tokens must be a non-negative integer")
    else
      let field :=
        if targetId = [] then "target_id" else if modelIdentity = [] then "model_identity"
        else if promptSuiteIdentity = [] then "prompt_suite_identity"
        else if samplingIdentity = [] then "sampling_identity" else if hostSessionId = [] then "host_session_id"
        else "output_token_hash"
      reject (lit "MTP trial " ++ lit field ++ lit " must be non-empty")
  else reject (lit "MTP trial must correlate to its route request_id")

theorem mtpTrial_fields (trial : MTPTrial) :
    mtpTrial trial.requestId trial.mode trial.targetId trial.modelIdentity trial.promptSuiteIdentity
      trial.samplingIdentity trial.hostSessionId trial.fixedOutputTokens trial.outputTokenHash trial.route trial.counts
      trial.elapsedMs trial.completed trial.error trial.mtpSidecarIdentity = .ok trial := by
  unfold mtpTrial
  rw [dif_pos trial.correlated, dif_pos trial.named, dif_pos trial.fixed, dif_pos trial.configured, dif_pos trial.bare,
    dif_pos trial.elapsed]

def MTPTrial.countReconciles (trial : MTPTrial) : Bool :=
  trial.counts.reconciles trial.fixedOutputTokens (decide (trial.mode = .direct))

def MTPTrial.fallback (trial : MTPTrial) : Bool :=
  decide (trial.mode = .configuredMtp) &&
    (decide (trial.route.normalized.execution ≠ .mtp) || decide (trial.route.normalized.fallback ≠ .none))

/-! ## The assessment -/

structure MTPAssessment where
  directTrials : List MTPTrial
  configuredTrials : List MTPTrial
  fallbackCount : Nat
  errorCount : Nat
  draftedTokens : Int
  acceptedDraftTokens : Int
  mtpAcceptRatio : Option ℚ
  directMeanElapsedMs : Option ℚ
  configuredMeanElapsedMs : Option ℚ
  pureMtpSpeedup : Option ℚ
  pureSpeedupReasons : List Str

/-- The fields that a pair has to share. -/
structure PairFields where
  targetId : Str
  modelIdentity : Str
  promptSuiteIdentity : Str
  samplingIdentity : Str
  hostSessionId : Str
  fixedOutputTokens : Int
  deriving DecidableEq

def MTPTrial.pairFields (trial : MTPTrial) : PairFields where
  targetId := trial.targetId
  modelIdentity := trial.modelIdentity
  promptSuiteIdentity := trial.promptSuiteIdentity
  samplingIdentity := trial.samplingIdentity
  hostSessionId := trial.hostSessionId
  fixedOutputTokens := trial.fixedOutputTokens

/-- `reasons.append(reason)` under a condition. -/
def reasonIf (condition : Bool) (reason : String) : List Str := if condition then [lit reason] else []

/-- One turn of the loop over the pairs. -/
def pairReasons (denominator candidate : MTPTrial) : List Str :=
  reasonIf (decide (denominator.pairFields ≠ candidate.pairFields)) "direct_denominator_identity_mismatch" ++
    reasonIf (!denominator.route.supportsPositiveClaim .direct) "direct_route_not_proved" ++
    reasonIf (!candidate.route.supportsPositiveClaim .mtp) "mtp_route_not_proved" ++
    reasonIf (decide (denominator.outputTokenHash ≠ candidate.outputTokenHash)) "output_token_identity_mismatch" ++
    reasonIf (!denominator.countReconciles || !candidate.countReconciles) "token_counts_do_not_reconcile" ++
    reasonIf (decide (candidate.counts.drafted = 0)) "zero_drafted_tokens" ++
    reasonIf (!denominator.completed || !candidate.completed || denominator.error || candidate.error)
      "incomplete_or_error_trial"

def elapsedSum (trials : List MTPTrial) : ℚ := (trials.filterMap (·.elapsedMs)).sum

/-- `_mean_elapsed` -/
def meanElapsed (trials : List MTPTrial) : Option ℚ :=
  if trials.any fun trial => trial.elapsedMs.isNone || !trial.completed || trial.error then none
  else some (elapsedSum trials / trials.length)

def draftedTokens (trials : List MTPTrial) : Int := (trials.map (·.counts.drafted)).sum

def acceptedTokens (trials : List MTPTrial) : Int := (trials.map (·.counts.accepted)).sum

def speedupReasons (direct configured : List MTPTrial) (samplingMode : Str) (reproduciblyCoupledSampling : Bool) :
    List Str :=
  (direct.zip configured).flatMap (fun pair => pairReasons pair.1 pair.2) ++
    reasonIf (decide (configured.countP (·.fallback) ≠ 0)) "fallback_observed" ++
    reasonIf (decide (samplingMode ≠ lit "greedy") && !reproduciblyCoupledSampling)
      "sampling_not_reproducibly_coupled" ++
    reasonIf ((meanElapsed direct).isNone || (meanElapsed configured).isNone) "speed_metric_unavailable"

/-- `direct_mean / configured_mean` -/
def speedup (direct configured : List MTPTrial) : Option ℚ :=
  match meanElapsed direct, meanElapsed configured with
  | some directMean, some configuredMean => some (directMean / configuredMean)
  | _, _ => none

/-- What the assessment returns once every check has passed. -/
def mtpAssessment (direct configured : List MTPTrial) (samplingMode : Str) (reproduciblyCoupledSampling : Bool) :
    MTPAssessment :=
  let uniqueReasons := (speedupReasons direct configured samplingMode reproduciblyCoupledSampling).eraseDups
  let drafted := draftedTokens configured
  let accepted := acceptedTokens configured
  { directTrials := direct
    configuredTrials := configured
    fallbackCount := configured.countP (·.fallback)
    errorCount := configured.countP (·.error)
    draftedTokens := drafted
    acceptedDraftTokens := accepted
    mtpAcceptRatio := if drafted ≠ 0 then some (accepted / drafted) else none
    directMeanElapsedMs := meanElapsed direct
    configuredMeanElapsedMs := meanElapsed configured
    pureMtpSpeedup := if uniqueReasons = [] then speedup direct configured else none
    pureSpeedupReasons := uniqueReasons }

/-- `assess_mtp_comparison` -/
def assessMtpComparison (direct configured : List MTPTrial) (plannedConfiguredRequestIds : List Str)
    (samplingMode : Str) (reproduciblyCoupledSampling : Bool) : Except Raised MTPAssessment :=
  let observed := configured.map (·.requestId)
  if direct = [] ∨ direct.length ≠ configured.length then
    reject (lit "MTP comparison requires equal non-empty direct and candidate trials")
  else if ¬ plannedConfiguredRequestIds.Nodup ∨ ¬ observed.Nodup then reject (lit "MTP request IDs must be unique")
  else if observed ≠ plannedConfiguredRequestIds then
    reject (lit "configured MTP trials must retain every planned request in frozen order")
  else if direct.any fun trial => decide (trial.mode ≠ .direct) then
    reject (lit "MTP denominator contains a non-direct trial")
  else if configured.any fun trial => decide (trial.mode ≠ .configuredMtp) then
    reject (lit "MTP candidate contains a non-MTP configuration")
  else .ok (mtpAssessment direct configured samplingMode reproduciblyCoupledSampling)

/-! ## What the reasons leave -/

/-- Counts that reconcile. -/
theorem reconciles_iff (counts : MTPCounts) (fixedOutputTokens : Int) (direct : Bool) :
    counts.reconciles fixedOutputTokens direct = true ↔
      (0 ≤ counts.accepted ∧ counts.accepted ≤ counts.drafted) ∧
        counts.accepted + counts.rejected = counts.drafted ∧
        (counts.emitted = fixedOutputTokens ∧ counts.terminal = 1) ∧
        (direct = true → counts.drafted = 0 ∧ counts.accepted = 0 ∧ counts.rejected = 0) := by
  unfold MTPCounts.reconciles
  split
  · rename_i hbounds
    simp [hbounds]
  split
  · rename_i hbounds hsum
    simp [hsum]
  split
  · rename_i hbounds hsum hemitted
    simp only [Bool.false_eq_true, false_iff]
    rintro ⟨-, -, hboth, -⟩
    rcases hemitted with h | h
    · exact h hboth.1
    · exact h hboth.2
  · rename_i hbounds hsum hemitted
    rw [not_not] at hbounds hsum
    simp only [ne_eq, not_or, not_not] at hemitted
    rw [and_iff_right hbounds, and_iff_right hsum, and_iff_right hemitted]
    cases direct <;> simp

/-- A pair of trials that may be compared. -/
structure CleanPair (denominator candidate : MTPTrial) : Prop where
  target : denominator.targetId = candidate.targetId
  model : denominator.modelIdentity = candidate.modelIdentity
  promptSuite : denominator.promptSuiteIdentity = candidate.promptSuiteIdentity
  sampling : denominator.samplingIdentity = candidate.samplingIdentity
  hostSession : denominator.hostSessionId = candidate.hostSessionId
  fixed : denominator.fixedOutputTokens = candidate.fixedOutputTokens
  hash : denominator.outputTokenHash = candidate.outputTokenHash
  completed : denominator.completed = true ∧ candidate.completed = true
  error : denominator.error = false ∧ candidate.error = false
  emitted : denominator.counts.emitted = denominator.fixedOutputTokens ∧
    candidate.counts.emitted = candidate.fixedOutputTokens
  accepted : candidate.counts.accepted ≤ candidate.counts.drafted
  directDrafted : denominator.counts.drafted = 0
  drafted : 1 ≤ candidate.counts.drafted
  directRoute : denominator.route.supportsPositiveClaim .direct = true
  route : candidate.route.supportsPositiveClaim .mtp = true

theorem reasonIf_eq_nil (condition : Bool) (reason : String) : reasonIf condition reason = [] ↔ condition = false := by
  unfold reasonIf
  cases condition <;> simp

theorem pairReasons_eq_nil {denominator candidate : MTPTrial} (hmode : denominator.mode = .direct)
    (h : pairReasons denominator candidate = []) : CleanPair denominator candidate := by
  unfold pairReasons at h
  simp only [List.append_eq_nil_iff, reasonIf_eq_nil, decide_eq_false_iff_not, not_not, Bool.or_eq_false_iff,
    Bool.not_eq_false', ne_eq] at h
  obtain ⟨⟨⟨⟨⟨⟨hfields, hdirectRoute⟩, hroute⟩, hhash⟩, hreconciles⟩, hdrafted⟩,
    ⟨hcompleted, herror⟩, hcandidateError⟩ := h
  simp only [MTPTrial.pairFields, PairFields.mk.injEq] at hfields
  obtain ⟨htarget, hmodel, hprompt, hsampling, hhost, hfixed⟩ := hfields
  obtain ⟨-, -, hdirectEmitted, hbare⟩ := (reconciles_iff _ _ _).mp hreconciles.1
  obtain ⟨haccepted, -, hemitted, -⟩ := (reconciles_iff _ _ _).mp hreconciles.2
  have hcounted := candidate.counts.counted.1
  exact ⟨htarget, hmodel, hprompt, hsampling, hhost, hfixed, hhash, hcompleted, ⟨herror, hcandidateError⟩,
    ⟨hdirectEmitted.1, hemitted.1⟩, haccepted.2, (hbare (decide_eq_true hmode)).1, by omega, hdirectRoute, hroute⟩

theorem eraseDups_eq_nil_iff (reasons : List Str) : reasons.eraseDups = [] ↔ reasons = [] := by
  simp only [List.eq_nil_iff_forall_not_mem, List.mem_eraseDups]

/-- No reason stands against the pairing. -/
theorem speedupReasons_eq_nil {direct configured : List MTPTrial} {samplingMode : Str} {coupled : Bool}
    (h : speedupReasons direct configured samplingMode coupled = []) :
    (∀ pair ∈ direct.zip configured, pairReasons pair.1 pair.2 = []) ∧ configured.countP (·.fallback) = 0 ∧
      ∃ directMean configuredMean, meanElapsed direct = some directMean ∧
        meanElapsed configured = some configuredMean := by
  unfold speedupReasons at h
  simp only [List.append_eq_nil_iff, reasonIf_eq_nil, List.flatMap_eq_nil_iff, decide_eq_false_iff_not, ne_eq,
    not_not, Bool.or_eq_false_iff, Option.isNone_eq_false_iff, Option.isSome_iff_exists] at h
  obtain ⟨⟨⟨hpairs, hfallback⟩, -⟩, ⟨directMean, hdirect⟩, configuredMean, hconfigured⟩ := h
  exact ⟨hpairs, hfallback, directMean, configuredMean, hdirect, hconfigured⟩

/-- A mean is of trials that all have a time. -/
theorem meanElapsed_some {trials : List MTPTrial} {mean : ℚ} (h : meanElapsed trials = some mean) :
    (∀ trial ∈ trials, trial.elapsedMs ≠ none) ∧ mean = elapsedSum trials / trials.length := by
  unfold meanElapsed at h
  split at h
  · cases h
  rename_i hall
  simp only [List.any_eq_true, not_exists, not_and, Bool.or_eq_true, not_or] at hall
  cases h
  refine ⟨fun trial htrial hnone => (hall trial htrial).1.1 ?_, rfl⟩
  rw [hnone]
  rfl

theorem draftedTokens_nonneg (trials : List MTPTrial) : 0 ≤ draftedTokens trials := by
  apply List.sum_nonneg
  intro n hn
  obtain ⟨trial, -, rfl⟩ := List.mem_map.mp hn
  exact trial.counts.counted.1

theorem acceptedTokens_nonneg (trials : List MTPTrial) : 0 ≤ acceptedTokens trials := by
  apply List.sum_nonneg
  intro n hn
  obtain ⟨trial, -, rfl⟩ := List.mem_map.mp hn
  exact trial.counts.counted.2.1

theorem accepted_le_drafted {direct configured : List MTPTrial} (h : List.Forall₂ CleanPair direct configured) :
    acceptedTokens configured ≤ draftedTokens configured := by
  apply List.sum_le_sum
  intro trial htrial
  induction h with
  | nil => cases htrial
  | cons hpair _ ih =>
    rcases List.mem_cons.mp htrial with rfl | htrial
    · exact hpair.accepted
    · exact ih htrial

/-! ## What an assessment holds -/

/-- A speedup is claimed of clean pairs, and the counts fit the plan. -/
structure Assessed (direct configured : List MTPTrial) (planned : List Str) (assessment : MTPAssessment) : Prop where
  clean : assessment.pureMtpSpeedup ≠ none → List.Forall₂ CleanPair direct configured
  fallback : assessment.pureMtpSpeedup ≠ none → ∀ trial ∈ configured, trial.fallback = false
  distinct : (configured.map (·.requestId)).Nodup ∧ configured.map (·.requestId) = planned
  speedup : ∀ speedup, assessment.pureMtpSpeedup = some speedup →
    (∀ trial ∈ direct ++ configured, trial.elapsedMs ≠ none) ∧ speedup = elapsedSum direct / elapsedSum configured
  ratio : ∀ ratio, assessment.mtpAcceptRatio = some ratio → 0 ≤ ratio ∧
    ratio = (configured.map (·.counts.accepted)).sum / (configured.map (·.counts.drafted)).sum
  unit : (configured.map (·.counts.accepted)).sum ≤ (configured.map (·.counts.drafted)).sum ∨
    assessment.pureMtpSpeedup ≠ none → ∀ ratio, assessment.mtpAcceptRatio = some ratio → ratio ≤ 1
  fallbackCount : assessment.fallbackCount ≤ planned.length
  errorCount : assessment.errorCount ≤ planned.length

theorem forall₂_of_zip {α β : Type} {R : α → β → Prop} {xs : List α} {ys : List β} (hlength : xs.length = ys.length)
    (h : ∀ pair ∈ xs.zip ys, R pair.1 pair.2) : List.Forall₂ R xs ys :=
  List.forall₂_iff_zip.mpr ⟨hlength, fun hpair => h _ hpair⟩

theorem speedup_eq {direct configured : List MTPTrial} (hlength : direct.length = configured.length)
    (hne : direct ≠ []) {ratio : ℚ} (h : speedup direct configured = some ratio) :
    (∀ trial ∈ direct ++ configured, trial.elapsedMs ≠ none) ∧ ratio = elapsedSum direct / elapsedSum configured := by
  unfold speedup at h
  split at h
  · rename_i directMean configuredMean hdirect hconfigured
    obtain ⟨hdirectAll, rfl⟩ := meanElapsed_some hdirect
    obtain ⟨hconfiguredAll, rfl⟩ := meanElapsed_some hconfigured
    cases h
    refine ⟨fun trial htrial => (List.mem_append.mp htrial).elim (hdirectAll trial) (hconfiguredAll trial), ?_⟩
    have hpositive : (configured.length : ℚ) ≠ 0 := by
      rw [← hlength]
      exact_mod_cast fun hzero => hne (List.length_eq_zero_iff.mp hzero)
    rw [hlength]
    exact div_div_div_cancel_right₀ hpositive _ _
  · cases h

/-- Every assessment that returns keeps a speedup to clean pairs. -/
theorem assessMtpComparison_assessed (direct configured : List MTPTrial) (planned : List Str) (samplingMode : Str)
    (reproduciblyCoupledSampling : Bool) (assessment : MTPAssessment)
    (h : assessMtpComparison direct configured planned samplingMode reproduciblyCoupledSampling = .ok assessment) :
    Assessed direct configured planned assessment := by
  unfold assessMtpComparison at h
  dsimp only at h
  split at h
  · cases h
  rename_i hsize
  split at h
  · cases h
  rename_i hdistinct
  split at h
  · cases h
  rename_i hplanned
  split at h
  · cases h
  rename_i hdirect
  split at h
  · cases h
  cases h
  simp only [ne_eq, not_or, not_not] at hsize hdistinct hplanned
  have hmode : ∀ trial ∈ direct, trial.mode = .direct := by simpa using hdirect
  have hclaimed : (mtpAssessment direct configured samplingMode reproduciblyCoupledSampling).pureMtpSpeedup ≠ none →
      speedupReasons direct configured samplingMode reproduciblyCoupledSampling = [] := by
    intro hspeedup
    by_contra hreasons
    exact hspeedup (if_neg (mt (eraseDups_eq_nil_iff _).mp hreasons))
  have hclean : speedupReasons direct configured samplingMode reproduciblyCoupledSampling = [] →
      List.Forall₂ CleanPair direct configured := by
    intro hnone
    apply forall₂_of_zip hsize.2
    intro pair hpair
    exact pairReasons_eq_nil (hmode pair.1 (List.of_mem_zip hpair).1) ((speedupReasons_eq_nil hnone).1 pair hpair)
  have hlength : planned.length = configured.length := by rw [← hplanned, List.length_map]
  constructor
  case clean => exact fun hspeedup => hclean (hclaimed hspeedup)
  case fallback =>
    intro hspeedup trial htrial
    have hnone := List.countP_eq_zero.mp (speedupReasons_eq_nil (hclaimed hspeedup)).2.1 trial htrial
    exact Bool.not_eq_true _ ▸ hnone
  case distinct => exact ⟨hdistinct.2, hplanned⟩
  case speedup =>
    intro ratio hratio
    have hnone := hclaimed (by rw [hratio]; exact Option.some_ne_none ratio)
    unfold mtpAssessment at hratio
    dsimp only at hratio
    rw [if_pos ((eraseDups_eq_nil_iff _).mpr hnone)] at hratio
    exact speedup_eq hsize.2 hsize.1 hratio
  case ratio =>
    intro ratio hratio
    unfold mtpAssessment at hratio
    dsimp only at hratio
    split at hratio
    · cases hratio
      refine ⟨div_nonneg ?_ ?_, rfl⟩
      · exact_mod_cast acceptedTokens_nonneg configured
      · exact_mod_cast draftedTokens_nonneg configured
    · cases hratio
  case unit =>
    intro hcase ratio hratio
    have hless : acceptedTokens configured ≤ draftedTokens configured := by
      rcases hcase with hless | hspeedup
      · exact hless
      · exact accepted_le_drafted (hclean (hclaimed hspeedup))
    unfold mtpAssessment at hratio
    dsimp only at hratio
    split at hratio
    · cases hratio
      apply div_le_one_of_le₀
      · exact_mod_cast hless
      · exact_mod_cast draftedTokens_nonneg configured
    · cases hratio
  case fallbackCount =>
    rw [hlength]
    exact List.countP_le_length
  case errorCount =>
    rw [hlength]
    exact List.countP_le_length

/-! ## Where the trials are not told apart -/

def first : Str := lit "first"

def second : Str := lit "second"

theorem first_named : first ≠ [] := by decide

theorem second_named : second ≠ [] := by decide

section Samples

variable (requestId : Str) (hnamed : requestId ≠ [])

def trialRecord : NativeRouteRecord := ⟨requestId, [], hnamed⟩

theorem trial_correlated : ∀ record ∈ some (trialRecord requestId hnamed), record.requestId = requestId := by
  rintro record ⟨⟩
  rfl

theorem trial_witnessed : some (trialRecord requestId hnamed) = none → EvidenceLevel.corroborated = .clientOnly := by
  intro h
  cases h

def trialRoute (execution : RouteExecution) : RouteEvidence :=
  ⟨requestId, some (trialRecord requestId hnamed), ⟨.mlx, execution, .none, .resident, .none⟩, .corroborated,
    trial_correlated requestId hnamed, trial_witnessed requestId hnamed⟩

theorem texts_named : ∀ text ∈ [lit "target", lit "model", lit "suite", lit "greedy", lit "session", lit "hash"],
    text ≠ [] := by
  decide

theorem two_elapsed : ∀ elapsed ∈ some (2 : ℚ), 0 < elapsed := by
  rintro elapsed ⟨⟩
  exact two_pos

theorem one_elapsed : ∀ elapsed ∈ some (1 : ℚ), 0 < elapsed := by
  rintro elapsed ⟨⟩
  exact one_pos

theorem direct_bound :
    MTPMode.direct = .configuredMtp → (none : Option Str) ≠ none ∧ (none : Option Str) ≠ some [] := by
  intro h
  cases h

theorem configured_bound : MTPMode.configuredMtp = .configuredMtp →
    some (lit "sidecar") ≠ none ∧ some (lit "sidecar") ≠ some [] := by
  decide

theorem configured_bare : MTPMode.configuredMtp = .direct → some (lit "sidecar") = none := by
  intro h
  cases h

theorem direct_bare : MTPMode.direct = .direct → (none : Option Str) = none := fun _ => rfl

theorem trial_run : (0 : Int) ≤ 1 := by decide

theorem direct_counted : (0 : Int) ≤ 0 ∧ (0 : Int) ≤ 0 ∧ (0 : Int) ≤ 0 ∧ (0 : Int) ≤ 1 ∧ (0 : Int) ≤ 1 := by decide

def directTrial : MTPTrial :=
  ⟨requestId, .direct, lit "target", lit "model", lit "suite", lit "greedy", lit "session", 1, lit "hash",
    trialRoute requestId hnamed .direct, ⟨0, 0, 0, 1, 1, direct_counted⟩, some 2, true, false, none,
    ⟨hnamed, rfl⟩, texts_named, trial_run, direct_bound, direct_bare, two_elapsed⟩

def configuredTrial (counts : MTPCounts) : MTPTrial :=
  ⟨requestId, .configuredMtp, lit "target", lit "model", lit "suite", lit "greedy", lit "session", 1, lit "hash",
    trialRoute requestId hnamed .mtp, counts, some 1, true, false, some (lit "sidecar"),
    ⟨hnamed, rfl⟩, texts_named, trial_run, configured_bound, configured_bare, one_elapsed⟩

end Samples

theorem accepted_counted : (0 : Int) ≤ 1 ∧ (0 : Int) ≤ 1 ∧ (0 : Int) ≤ 0 ∧ (0 : Int) ≤ 1 ∧ (0 : Int) ≤ 1 := by decide

theorem excess_counted : (0 : Int) ≤ 1 ∧ (0 : Int) ≤ 2 ∧ (0 : Int) ≤ 0 ∧ (0 : Int) ≤ 1 ∧ (0 : Int) ≤ 1 := by decide

def acceptedCounts : MTPCounts := ⟨1, 1, 0, 1, 1, accepted_counted⟩

/-- More is accepted than was drafted. -/
def excessCounts : MTPCounts := ⟨1, 2, 0, 1, 1, excess_counted⟩

def repeatedDirect : List MTPTrial := [directTrial first first_named, directTrial first first_named]

def configuredPair : List MTPTrial :=
  [configuredTrial first first_named acceptedCounts, configuredTrial second second_named acceptedCounts]

/-- One direct request is used twice and is configured too, and the speedup stands. Where the counts do not reconcile,
the ratio of an assessment without a speedup is two. -/
theorem direct_trials_repeat :
    (∃ assessment, assessMtpComparison repeatedDirect configuredPair [first, second] (lit "greedy") false =
      .ok assessment ∧ assessment.pureMtpSpeedup ≠ none ∧ ¬ (repeatedDirect.map (·.requestId)).Nodup ∧
      ∃ trial ∈ repeatedDirect, trial.requestId ∈ configuredPair.map (·.requestId)) ∧
    ∃ assessment, assessMtpComparison [directTrial first first_named] [configuredTrial second second_named excessCounts]
      [second] (lit "greedy") false = .ok assessment ∧ ∃ ratio, assessment.mtpAcceptRatio = some ratio ∧ 1 < ratio := by
  refine ⟨⟨_, rfl, Option.isSome_iff_ne_none.mp rfl, ?_, directTrial first first_named, ?_, ?_⟩, _, rfl, _, rfl, ?_⟩
  · decide
  · exact List.mem_cons_self ..
  · exact List.mem_cons_self ..
  · norm_num [draftedTokens, acceptedTokens, configuredTrial, excessCounts]

theorem assessed_pair :
    Assessed [directTrial first first_named] [configuredTrial second second_named acceptedCounts] [second]
      (mtpAssessment [directTrial first first_named] [configuredTrial second second_named acceptedCounts]
        (lit "greedy") false) :=
  assessMtpComparison_assessed [directTrial first first_named] [configuredTrial second second_named acceptedCounts]
    [second] (lit "greedy") false _ rfl

end TurnVector.CrossEngine.Mtp
