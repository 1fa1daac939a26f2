import Mathlib.Algebra.Order.BigOperators.Group.List
import Mathlib.Tactic.FieldSimp
import Mathlib.Tactic.Linarith
import TurnVector.CrossEngine.Routes

/-! # Prefix reuse

`cross_engine/prefix.py`: the rows of a prefix cell, and the aggregate of the rows that configured reuse.
-/

namespace TurnVector.CrossEngine

open Python Json Contracts

/-! ## The rows -/

inductive PrefixState
  | coldProcessColdCache
  | warmProcessEmptyPrefixCache
  | warmMemoryPrefixHit
  | restartedDiskPrefixHit
  | postChurnRecovery
  deriving DecidableEq

structure RestartProof where
  previousProcessIdentities : List Str
  currentProcessIdentities : List Str
  survivingProcessLocalStateIdentities : List Str

def RestartProof.valid (proof : RestartProof) : Bool :=
  !proof.previousProcessIdentities.isEmpty && !proof.currentProcessIdentities.isEmpty &&
    decide proof.previousProcessIdentities.Nodup && decide proof.currentProcessIdentities.Nodup &&
    proof.previousProcessIdentities.all (fun identity => !identity.isEmpty) &&
    proof.currentProcessIdentities.all (fun identity => !identity.isEmpty) &&
    decide (∀ identity ∈ proof.previousProcessIdentities, identity ∉ proof.currentProcessIdentities) &&
    proof.survivingProcessLocalStateIdentities.isEmpty

structure PrefixStateRow where
  requestId : Str
  state : PrefixState
  configuredReuse : Bool
  eligiblePrefixTokens : Int
  hitPrefixTokens : Int
  blockSizeTokens : Int
  minimumReuseCoverage : ℚ
  outputHash : Str
  coldOutputHash : Str
  route : RouteEvidence
  identitiesUnchanged : Bool
  restartProof : Option RestartProof
  latencyMs : Option ℚ
  correlated : requestId ≠ [] ∧ route.requestId = requestId
  eligible : 1 ≤ eligiblePrefixTokens
  hit : 0 ≤ hitPrefixTokens
  blocked : 1 ≤ blockSizeTokens
  within : hitPrefixTokens ≤ eligiblePrefixTokens
  coverage : 0 ≤ minimumReuseCoverage ∧ minimumReuseCoverage ≤ 1
  complete : eligiblePrefixTokens / blockSizeTokens ≠ 0
  latency : ∀ latency ∈ latencyMs, 0 ≤ latency

/-- `PrefixStateRow.__post_init__`. Every number is finite. -/
def prefixStateRow (requestId : Str) (state : PrefixState) (configuredReuse : Bool)
    (eligiblePrefixTokens hitPrefixTokens blockSizeTokens : Int) (minimumReuseCoverage : ℚ)
    (outputHash coldOutputHash : Str) (route : RouteEvidence) (identitiesUnchanged : Bool)
    (restartProof : Option RestartProof) (latencyMs : Option ℚ) : Except Raised PrefixStateRow :=
  if hcorrelated : requestId ≠ [] ∧ route.requestId = requestId then
    if heligible : 1 ≤ eligiblePrefixTokens then
      if hhit : 0 ≤ hitPrefixTokens then
        if hblocked : 1 ≤ blockSizeTokens then
          if hwithin : hitPrefixTokens ≤ eligiblePrefixTokens then
            if hcoverage : 0 ≤ minimumReuseCoverage ∧ minimumReuseCoverage ≤ 1 then
              if hcomplete : eligiblePrefixTokens / blockSizeTokens ≠ 0 then
                if hlatency : ∀ latency ∈ latencyMs, 0 ≤ latency then
                  .ok ⟨requestId, state, configuredReuse, eligiblePrefixTokens, hitPrefixTokens, blockSizeTokens,
                    minimumReuseCoverage, outputHash, coldOutputHash, route, identitiesUnchanged, restartProof,
                    latencyMs, hcorrelated, heligible, hhit, hblocked, hwithin, hcoverage, hcomplete, hlatency⟩
                else reject (lit "latency_ms must be finite and non-negative")
              else reject (lit "eligible prefix must contain at least one complete cache block")
            else reject (lit "minimum_reuse_coverage must be between zero and one")
          else reject (lit "hit_prefix_tokens cannot exceed eligible_prefix_tokens")
        else reject (lit "block_size_tokens must be an integer >= 1")
      else reject (lit "hit_prefix_tokens must be an integer >= 0")
    else reject (lit "eligible_prefix_tokens must be an integer >= 1")
  else reject (lit "prefix row must correlate to its route request_id")

namespace PrefixStateRow

def roundedEligibleTokens (row : PrefixStateRow) : Int :=
  row.eligiblePrefixTokens / row.blockSizeTokens * row.blockSizeTokens

def roundedHitTokens (row : PrefixStateRow) : Int :=
  min (row.hitPrefixTokens / row.blockSizeTokens * row.blockSizeTokens) row.roundedEligibleTokens

def roundedReuseCoverage (row : PrefixStateRow) : ℚ := row.roundedHitTokens / row.roundedEligibleTokens

def outputParity (row : PrefixStateRow) : Bool :=
  !row.outputHash.isEmpty && decide (row.outputHash = row.coldOutputHash)

def positiveClaim (row : PrefixStateRow) : Bool :=
  if !row.configuredReuse || !row.outputParity || !row.identitiesUnchanged then false
  else if row.roundedReuseCoverage < row.minimumReuseCoverage then false
  else if !row.route.supportsPositiveClaim .prefixReuse then false
  else
    match row.state with
    | .warmMemoryPrefixHit => decide (row.route.normalized.cache = .memoryPrefix)
    | .restartedDiskPrefixHit => decide (row.route.normalized.cache = .diskPrefix) && row.restartProof.any (·.valid)
    | .postChurnRecovery =>
      decide (row.route.normalized.cache = .memoryPrefix) || decide (row.route.normalized.cache = .diskPrefix)
    | _ => false

end PrefixStateRow

/-! ## The aggregate -/

structure PrefixReuseAggregate where
  rows : List PrefixStateRow
  plannedRequests : Nat
  positiveClaims : Nat
  partialReuseRequests : Nat
  missRequests : Nat
  roundedReuseCoverage : ℚ
  meanLatencyMs : Option ℚ

def isPartial (row : PrefixStateRow) : Bool :=
  decide (0 < row.roundedReuseCoverage) && decide (row.roundedReuseCoverage < row.minimumReuseCoverage)

def isMiss (row : PrefixStateRow) : Bool := decide (row.roundedHitTokens = 0)

/-- What the reducer returns once every check has passed. -/
def prefixReuseAggregate (configured : List PrefixStateRow) : PrefixReuseAggregate :=
  let latencies := configured.filterMap (·.latencyMs)
  { rows := configured
    plannedRequests := configured.length
    positiveClaims := configured.countP (·.positiveClaim)
    partialReuseRequests := configured.countP isPartial
    missRequests := configured.countP isMiss
    roundedReuseCoverage :=
      ((configured.map (·.roundedHitTokens)).sum : Int) / ((configured.map (·.roundedEligibleTokens)).sum : Int)
    meanLatencyMs :=
      if latencies.length = configured.length then some (latencies.sum / latencies.length) else none }

/-- `summarize_configured_reuse` -/
def summarizeConfiguredReuse (rows : List PrefixStateRow) (plannedRequestIds : List Str) :
    Except Raised PrefixReuseAggregate :=
  let configured := rows.filter (·.configuredReuse)
  let requestIds := configured.map (·.requestId)
  if plannedRequestIds = [] then
    reject (lit "configured prefix aggregate must have a non-empty request plan")
  else if ¬ plannedRequestIds.Nodup ∨ ¬ requestIds.Nodup then
    reject (lit "configured prefix request IDs must be unique")
  else if requestIds ≠ plannedRequestIds then
    reject (lit "configured prefix rows must retain every planned request in frozen order")
  else .ok (prefixReuseAggregate configured)

theorem prefixStateRow_fields (row : PrefixStateRow) :
    prefixStateRow row.requestId row.state row.configuredReuse row.eligiblePrefixTokens row.hitPrefixTokens
      row.blockSizeTokens row.minimumReuseCoverage row.outputHash row.coldOutputHash row.route row.identitiesUnchanged
      row.restartProof row.latencyMs = .ok row := by
  unfold prefixStateRow
  rw [dif_pos row.correlated, dif_pos row.eligible, dif_pos row.hit, dif_pos row.blocked, dif_pos row.within,
    dif_pos row.coverage, dif_pos row.complete, dif_pos row.latency]

/-- What comes back holds the configured rows, in the order of the plan. -/
theorem summarizeConfiguredReuse_ok {rows : List PrefixStateRow} {plannedRequestIds : List Str}
    {aggregate : PrefixReuseAggregate} (h : summarizeConfiguredReuse rows plannedRequestIds = .ok aggregate) :
    aggregate = prefixReuseAggregate (rows.filter (·.configuredReuse)) ∧ rows.filter (·.configuredReuse) ≠ [] := by
  unfold summarizeConfiguredReuse at h
  dsimp only at h
  split at h
  · cases h
  rename_i hplan
  split at h
  · cases h
  split at h
  · cases h
  rename_i hsame
  rw [not_not] at hsame
  cases h
  refine ⟨rfl, fun hnone => hplan ?_⟩
  rw [← hsame, hnone]
  rfl

/-! ## Rounded to blocks -/

namespace PrefixStateRow

variable (row : PrefixStateRow)

theorem block_pos : 0 < row.blockSizeTokens := Int.lt_of_lt_of_le Int.zero_lt_one row.blocked

theorem roundedEligible_pos : 0 < row.roundedEligibleTokens := by
  have hnonneg : 0 ≤ row.eligiblePrefixTokens / row.blockSizeTokens :=
    Int.ediv_nonneg (by have := row.eligible; omega) row.block_pos.le
  have hcomplete := row.complete
  exact Int.mul_pos (by omega) row.block_pos

theorem roundedHit_eq : row.roundedHitTokens = row.hitPrefixTokens / row.blockSizeTokens * row.blockSizeTokens := by
  apply min_eq_left
  exact Int.mul_le_mul_of_nonneg_right (Int.ediv_le_ediv row.block_pos row.within) row.block_pos.le

theorem roundedHit_nonneg : 0 ≤ row.roundedHitTokens := by
  rw [roundedHit_eq]
  exact Int.mul_nonneg (Int.ediv_nonneg row.hit row.block_pos.le) row.block_pos.le

theorem roundedHit_le : row.roundedHitTokens ≤ row.roundedEligibleTokens := min_le_right _ _

/-- A row misses exactly if it did not hit a whole block. -/
theorem roundedHit_eq_zero_iff : row.roundedHitTokens = 0 ↔ row.hitPrefixTokens < row.blockSizeTokens := by
  rw [roundedHit_eq, Int.mul_eq_zero, or_iff_left row.block_pos.ne']
  constructor
  · intro hzero
    by_contra hmore
    have hone := Int.ediv_le_ediv row.block_pos (not_lt.mp hmore)
    rw [Int.ediv_self row.block_pos.ne'] at hone
    omega
  · exact Int.ediv_eq_zero_of_lt row.hit

theorem block_le_roundedHit (hhit : row.roundedHitTokens ≠ 0) : row.blockSizeTokens ≤ row.roundedHitTokens := by
  have hmore := mt row.roundedHit_eq_zero_iff.mpr hhit
  have hone := Int.ediv_le_ediv row.block_pos (not_lt.mp hmore)
  rw [Int.ediv_self row.block_pos.ne'] at hone
  rw [roundedHit_eq]
  exact le_mul_of_one_le_left row.block_pos.le hone

theorem coverage_pos_iff : 0 < row.roundedReuseCoverage ↔ row.roundedHitTokens ≠ 0 := by
  have heligible : (0 : ℚ) < row.roundedEligibleTokens := by exact_mod_cast row.roundedEligible_pos
  unfold roundedReuseCoverage
  rw [div_pos_iff_of_pos_right heligible, Int.cast_pos]
  have hnonneg := row.roundedHit_nonneg
  omega

theorem coverage_nonneg : 0 ≤ row.roundedReuseCoverage :=
  div_nonneg (by exact_mod_cast row.roundedHit_nonneg) (by exact_mod_cast row.roundedEligible_pos.le)

theorem coverage_le_one : row.roundedReuseCoverage ≤ 1 :=
  div_le_one_of_le₀ (by exact_mod_cast row.roundedHit_le) (by exact_mod_cast row.roundedEligible_pos.le)

end PrefixStateRow

/-! ## Positive claims -/

/-- The cache and the restart that the state of a row asks for. -/
def stateEvidence (row : PrefixStateRow) : Prop :=
  row.state = .warmMemoryPrefixHit ∧ row.route.normalized.cache = .memoryPrefix ∨
    row.state = .restartedDiskPrefixHit ∧ row.route.normalized.cache = .diskPrefix ∧
      (∃ proof ∈ row.restartProof, proof.valid = true) ∨
    row.state = .postChurnRecovery ∧ row.route.normalized.cache ∈ [.memoryPrefix, .diskPrefix]

/-- What a positive claim needs beside its coverage. -/
structure Evidenced (row : PrefixStateRow) : Prop where
  configured : row.configuredReuse = true
  parity : row.outputHash ≠ [] ∧ row.outputHash = row.coldOutputHash
  unchanged : row.identitiesUnchanged = true
  route : row.route.supportsPositiveClaim .prefixReuse = true
  state : stateEvidence row

theorem outputParity_iff (row : PrefixStateRow) :
    row.outputParity = true ↔ row.outputHash ≠ [] ∧ row.outputHash = row.coldOutputHash := by
  simp [PrefixStateRow.outputParity]

theorem positiveClaim_iff (row : PrefixStateRow) :
    row.positiveClaim = true ↔ Evidenced row ∧ row.minimumReuseCoverage ≤ row.roundedReuseCoverage := by
  have hstate : (match row.state with
      | .warmMemoryPrefixHit => decide (row.route.normalized.cache = .memoryPrefix)
      | .restartedDiskPrefixHit => decide (row.route.normalized.cache = .diskPrefix) && row.restartProof.any (·.valid)
      | .postChurnRecovery =>
        decide (row.route.normalized.cache = .memoryPrefix) || decide (row.route.normalized.cache = .diskPrefix)
      | _ => false) = true ↔ stateEvidence row := by
    unfold stateEvidence
    cases row.state <;> simp [Option.any_eq_true]
  unfold PrefixStateRow.positiveClaim
  split
  · rename_i hrefused
    simp only [Bool.false_eq_true, false_iff]
    rintro ⟨hevidenced, -⟩
    simp [hevidenced.configured, hevidenced.unchanged, (outputParity_iff row).mpr hevidenced.parity] at hrefused
  split
  · rename_i hless
    simp only [Bool.false_eq_true, false_iff]
    exact fun h => absurd h.2 (not_le.mpr hless)
  split
  · rename_i hroute
    simp only [Bool.false_eq_true, false_iff]
    rintro ⟨hevidenced, -⟩
    simp [hevidenced.route] at hroute
  · rename_i hkept hmore hroute
    simp only [Bool.or_eq_true, Bool.not_eq_true', not_or, Bool.not_eq_false] at hkept hroute
    rw [hstate]
    constructor
    · intro h
      exact ⟨⟨hkept.1.1, (outputParity_iff row).mp hkept.1.2, hkept.2, hroute, h⟩, not_lt.mp hmore⟩
    · exact fun h => h.1.state

/-- The configured rows that are claimed on a miss. -/
def ClaimsMiss (row : PrefixStateRow) : Prop :=
  Evidenced row ∧ row.minimumReuseCoverage = 0 ∧ row.hitPrefixTokens < row.blockSizeTokens

theorem positive_and_miss_iff (row : PrefixStateRow) :
    row.positiveClaim = true ∧ row.roundedHitTokens = 0 ↔ ClaimsMiss row := by
  rw [positiveClaim_iff, and_assoc, ClaimsMiss, ← row.roundedHit_eq_zero_iff]
  refine and_congr_right fun _ => ?_
  constructor
  · rintro ⟨hminimum, hmiss⟩
    have hzero : row.roundedReuseCoverage = 0 := by
      rw [PrefixStateRow.roundedReuseCoverage, hmiss, Int.cast_zero, zero_div]
    exact ⟨le_antisymm (hzero ▸ hminimum) row.coverage.1, hmiss⟩
  · rintro ⟨hminimum, hmiss⟩
    exact ⟨hminimum ▸ row.coverage_nonneg, hmiss⟩

/-! ## The classes of the aggregate -/

/-- A total of parts lies where each part lies in its whole. -/
theorem ratio_between {α : Type} (xs : List α) (part whole : α → ℚ) (low high : ℚ) (hwhole : ∀ x ∈ xs, 0 < whole x)
    (hne : xs ≠ []) (hbounds : ∀ x ∈ xs, low ≤ part x / whole x ∧ part x / whole x ≤ high) :
    low ≤ (xs.map part).sum / (xs.map whole).sum ∧ (xs.map part).sum / (xs.map whole).sum ≤ high := by
  have hpositive : 0 < (xs.map whole).sum := by
    apply List.sum_pos
    · intro q hq
      obtain ⟨x, hx, rfl⟩ := List.mem_map.mp hq
      exact hwhole x hx
    · simpa using hne
  rw [le_div_iff₀ hpositive, div_le_iff₀ hpositive, ← List.sum_map_mul_left, ← List.sum_map_mul_left]
  constructor
  · exact List.sum_le_sum fun x hx => (le_div_iff₀ (hwhole x hx)).mp (hbounds x hx).1
  · exact List.sum_le_sum fun x hx => (div_le_iff₀ (hwhole x hx)).mp (hbounds x hx).2

theorem countP_disjoint {α : Type} (xs : List α) (p q r : α → Bool) (hpq : ∀ x ∈ xs, ¬ (p x = true ∧ q x = true))
    (hpr : ∀ x ∈ xs, ¬ (p x = true ∧ r x = true)) (hqr : ∀ x ∈ xs, ¬ (q x = true ∧ r x = true)) :
    xs.countP p + xs.countP q + xs.countP r ≤ xs.length := by
  induction xs with
  | nil => exact le_rfl
  | cons x xs ih =>
    rw [List.forall_mem_cons] at hpq hpr hqr
    have hrest := ih hpq.2 hpr.2 hqr.2
    rw [List.countP_cons, List.countP_cons, List.countP_cons, List.length_cons]
    have h1 := hpq.1
    have h2 := hpr.1
    have h3 := hqr.1
    cases hp : p x <;> cases hq : q x <;> cases hr : r x <;> simp_all <;> omega

/-- The classes of the rows are disjoint, and a claim has reuse behind it. -/
structure ReuseClasses (rows : List PrefixStateRow) (aggregate : PrefixReuseAggregate) : Prop where
  positivePartial : ∀ row ∈ aggregate.rows, ¬ (row.positiveClaim = true ∧ isPartial row = true)
  positiveMiss : ∀ row ∈ aggregate.rows, ¬ (row.positiveClaim = true ∧ isMiss row = true)
  partialMiss : ∀ row ∈ aggregate.rows, ¬ (isPartial row = true ∧ isMiss row = true)
  counted : aggregate.positiveClaims = aggregate.rows.countP (·.positiveClaim) ∧
    aggregate.partialReuseRequests = aggregate.rows.countP isPartial ∧
    aggregate.missRequests = aggregate.rows.countP isMiss
  total : aggregate.positiveClaims + aggregate.partialReuseRequests + aggregate.missRequests ≤ aggregate.plannedRequests
  reused : ∀ row ∈ rows, row.positiveClaim = true → row.blockSizeTokens ≤ row.roundedHitTokens
  rounded : ∀ row ∈ rows, 0 ≤ row.roundedHitTokens ∧ row.roundedHitTokens ≤ row.roundedEligibleTokens ∧
    row.blockSizeTokens ∣ row.roundedHitTokens ∧ row.blockSizeTokens ∣ row.roundedEligibleTokens
  unit : 0 ≤ aggregate.roundedReuseCoverage ∧ aggregate.roundedReuseCoverage ≤ 1
  between : ∀ low high, (∀ row ∈ aggregate.rows, low ≤ row.roundedReuseCoverage ∧ row.roundedReuseCoverage ≤ high) →
    low ≤ aggregate.roundedReuseCoverage ∧ aggregate.roundedReuseCoverage ≤ high
  states : ∀ row ∈ rows, row.positiveClaim = true →
    row.state ∈ [.warmMemoryPrefixHit, .restartedDiskPrefixHit, .postChurnRecovery]

theorem aggregate_between (configured : List PrefixStateRow) (hne : configured ≠ []) (low high : ℚ)
    (hbounds : ∀ row ∈ configured, low ≤ row.roundedReuseCoverage ∧ row.roundedReuseCoverage ≤ high) :
    low ≤ (prefixReuseAggregate configured).roundedReuseCoverage ∧
      (prefixReuseAggregate configured).roundedReuseCoverage ≤ high := by
  have hratio := ratio_between configured (fun row => (row.roundedHitTokens : ℚ))
    (fun row => (row.roundedEligibleTokens : ℚ)) low high
    (fun row _ => by exact_mod_cast row.roundedEligible_pos) hne hbounds
  have hcast (f : PrefixStateRow → Int) :
      (((configured.map f).sum : Int) : ℚ) = (configured.map fun row => (f row : ℚ)).sum := by
    push_cast
    rw [List.map_map]
    rfl
  unfold prefixReuseAggregate
  dsimp only
  rwa [hcast, hcast]

theorem positive_not_partial (row : PrefixStateRow) : ¬ (row.positiveClaim = true ∧ isPartial row = true) := by
  rintro ⟨hpositive, hbetween⟩
  have hless := (positiveClaim_iff row).mp hpositive
  simp only [isPartial, Bool.and_eq_true, decide_eq_true_eq] at hbetween
  exact absurd hless.2 (not_le.mpr hbetween.2)

theorem partial_not_miss (row : PrefixStateRow) : ¬ (isPartial row = true ∧ isMiss row = true) := by
  rintro ⟨hbetween, hmiss⟩
  simp only [isPartial, Bool.and_eq_true, decide_eq_true_eq] at hbetween
  exact row.coverage_pos_iff.mp hbetween.1 (of_decide_eq_true hmiss)

theorem positive_state (row : PrefixStateRow) (hpositive : row.positiveClaim = true) :
    row.state ∈ [.warmMemoryPrefixHit, .restartedDiskPrefixHit, .postChurnRecovery] := by
  rcases ((positiveClaim_iff row).mp hpositive).1.state with h | h | h
  · simp [h.1]
  · simp [h.1]
  · simp [h.1]

/-- The classes are disjoint exactly if no configured row that asks for no coverage is evidenced on a miss. -/
theorem reuse_classes_iff (rows : List PrefixStateRow) (plannedRequestIds : List Str) (aggregate : PrefixReuseAggregate)
    (h : summarizeConfiguredReuse rows plannedRequestIds = .ok aggregate) :
    ReuseClasses rows aggregate ↔ ∀ row ∈ rows, ¬ ClaimsMiss row := by
  obtain ⟨rfl, hne⟩ := summarizeConfiguredReuse_ok h
  have hmember : ∀ row ∈ rows, row.positiveClaim = true →
      row ∈ (prefixReuseAggregate (rows.filter (·.configuredReuse))).rows := by
    intro row hrow hpositive
    exact List.mem_filter.mpr ⟨hrow, ((positiveClaim_iff row).mp hpositive).1.configured⟩
  constructor
  · intro hclasses row hrow hclaims
    obtain ⟨hpositive, hmiss⟩ := (positive_and_miss_iff row).mpr hclaims
    exact hclasses.positiveMiss row (hmember row hrow hpositive) ⟨hpositive, decide_eq_true hmiss⟩
  · intro hnone
    have hmiss : ∀ row ∈ rows, ¬ (row.positiveClaim = true ∧ isMiss row = true) := by
      rintro row hrow ⟨hpositive, hzero⟩
      exact hnone row hrow ((positive_and_miss_iff row).mp ⟨hpositive, of_decide_eq_true hzero⟩)
    have hconfigured : ∀ row ∈ rows.filter (·.configuredReuse), row ∈ rows :=
      fun row hrow => (List.mem_filter.mp hrow).1
    constructor
    case positivePartial => exact fun row _ => positive_not_partial row
    case positiveMiss => exact fun row hrow => hmiss row (hconfigured row hrow)
    case partialMiss => exact fun row _ => partial_not_miss row
    case counted => exact ⟨rfl, rfl, rfl⟩
    case total =>
      exact countP_disjoint _ _ _ _ (fun row _ => positive_not_partial row)
        (fun row hrow => hmiss row (hconfigured row hrow)) fun row _ => partial_not_miss row
    case reused =>
      intro row hrow hpositive
      exact row.block_le_roundedHit fun hzero => hmiss row hrow ⟨hpositive, decide_eq_true hzero⟩
    case rounded =>
      intro row _
      refine ⟨row.roundedHit_nonneg, row.roundedHit_le, ?_, Int.dvd_mul_left _ _⟩
      rw [row.roundedHit_eq]
      exact Int.dvd_mul_left _ _
    case unit => exact aggregate_between _ hne 0 1 fun row _ => ⟨row.coverage_nonneg, row.coverage_le_one⟩
    case between => exact aggregate_between _ hne
    case states => exact fun row _ => positive_state row

/-! ## A claim on a miss -/

theorem request_named : lit "request" ≠ [] := by decide

def memoryRecord : NativeRouteRecord := ⟨lit "request", [], request_named⟩

theorem memory_correlated : ∀ record ∈ some memoryRecord, record.requestId = lit "request" := by
  rintro record ⟨⟩
  rfl

theorem memory_witnessed : some memoryRecord = none → EvidenceLevel.corroborated = .clientOnly := by
  intro h
  cases h

def memoryRoute : RouteEvidence :=
  ⟨lit "request", some memoryRecord, ⟨.mlx, .direct, .memoryPrefix, .resident, .none⟩, .corroborated,
    memory_correlated, memory_witnessed⟩

theorem four_complete : (4 : Int) / 4 ≠ 0 := by decide

theorem one_le_four : (1 : Int) ≤ 4 := by decide

theorem none_within : (0 : Int) ≤ 4 := by decide

theorem none_nonneg : (0 : Int) ≤ 0 := by decide

theorem all_within : (4 : Int) ≤ 4 := by decide

theorem untimed : ∀ latency ∈ (none : Option ℚ), 0 ≤ latency := by
  intro latency h
  cases h

def memoryRow (hit : Int) (hnonneg : 0 ≤ hit) (hwithin : hit ≤ 4) : PrefixStateRow :=
  ⟨lit "request", .warmMemoryPrefixHit, true, 4, hit, 4, 0, lit "hash", lit "hash", memoryRoute, true, none, none,
    ⟨request_named, rfl⟩, one_le_four, hnonneg, one_le_four, hwithin, ⟨le_rfl, zero_le_one⟩, four_complete, untimed⟩

def missRow : PrefixStateRow := memoryRow 0 none_nonneg none_within

def hitRow : PrefixStateRow := memoryRow 4 none_within all_within

theorem memoryRow_evidenced (hit : Int) (hnonneg : 0 ≤ hit) (hwithin : hit ≤ 4) :
    Evidenced (memoryRow hit hnonneg hwithin) :=
  ⟨rfl, ⟨List.cons_ne_nil _ _, rfl⟩, rfl, rfl, .inl ⟨rfl, rfl⟩⟩

/-- One planned request is a positive claim and a miss. -/
theorem claim_on_miss : ∃ aggregate, summarizeConfiguredReuse [missRow] [lit "request"] = .ok aggregate ∧
    aggregate.plannedRequests = 1 ∧ aggregate.positiveClaims = 1 ∧ aggregate.missRequests = 1 ∧
    ¬ ReuseClasses [missRow] aggregate := by
  obtain ⟨hpositive, hmiss⟩ := (positive_and_miss_iff missRow).mpr
    ⟨memoryRow_evidenced 0 le_rfl (zero_le_one.trans one_le_four), rfl, by decide⟩
  refine ⟨prefixReuseAggregate [missRow], rfl, rfl, ?_, rfl, fun hclasses => ?_⟩
  · exact List.countP_eq_length.mpr fun row hrow => by rwa [List.mem_singleton.mp hrow]
  · exact hclasses.positiveMiss missRow (List.mem_singleton.mpr rfl) ⟨hpositive, decide_eq_true hmiss⟩

theorem reuse_classes_hit : ReuseClasses [hitRow] (prefixReuseAggregate [hitRow]) := by
  refine (reuse_classes_iff [hitRow] [lit "request"] (prefixReuseAggregate [hitRow]) rfl).mpr ?_
  rintro row hrow ⟨-, -, hmiss⟩
  rw [List.mem_singleton.mp hrow] at hmiss
  exact absurd hmiss (by decide)

end TurnVector.CrossEngine
