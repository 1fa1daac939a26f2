import TurnVector.CrossEngine.Contracts

/-! # Route evidence

`cross_engine/routes.py`: the normalized route of a request, and which claims the evidence of it supports.
-/

namespace TurnVector.CrossEngine

open Python Json Contracts

/-! ## The dimensions -/

inductive RouteBackend
  | mlx
  | llamaCpp
  | other
  deriving DecidableEq

inductive RouteExecution
  | direct
  | mtp
  | ngram
  | speculative
  | delegated
  | other
  deriving DecidableEq

inductive RouteCache
  | none
  | memoryPrefix
  | diskPrefix
  | other
  deriving DecidableEq

inductive RouteModelState
  | cold
  | resident
  | restored
  | other
  deriving DecidableEq

inductive RouteFallback
  | none
  | unsupported
  | correctness
  | capacity
  | runtimeError
  | other
  deriving DecidableEq

/-- A route of the one mapper version. -/
structure NormalizedRoute where
  backend : RouteBackend
  execution : RouteExecution
  cache : RouteCache
  modelState : RouteModelState
  fallback : RouteFallback
  deriving DecidableEq

/-- `route_purity_known`, which does not look at the state of the model. -/
def NormalizedRoute.routePurityKnown (route : NormalizedRoute) : Bool :=
  decide (route.backend ≠ .other) && decide (route.execution ≠ .other) && decide (route.cache ≠ .other) &&
    decide (route.fallback ≠ .other)

/-! ## The evidence -/

inductive EvidenceLevel
  | clientOnly
  | declared
  | corroborated
  | benchmarkForced
  deriving DecidableEq

/-- `POSITIVE_EVIDENCE_LEVELS` -/
def EvidenceLevel.positive : EvidenceLevel → Bool
  | .corroborated | .benchmarkForced => true
  | .clientOnly | .declared => false

structure NativeRouteRecord where
  requestId : Str
  record : List (Str × Json)
  named : requestId ≠ []

structure RouteEvidence where
  requestId : Str
  native : Option NativeRouteRecord
  normalized : NormalizedRoute
  observationLevel : EvidenceLevel
  correlated : ∀ record ∈ native, record.requestId = requestId
  witnessed : native = none → observationLevel = .clientOnly

/-- `RouteEvidence.__post_init__` -/
def routeEvidence (requestId : Str) (native : Option NativeRouteRecord) (normalized : NormalizedRoute)
    (observationLevel : EvidenceLevel) : Except Raised RouteEvidence :=
  if hcorrelated : ∀ record ∈ native, record.requestId = requestId then
    if hwitnessed : native = none → observationLevel = .clientOnly then
      .ok ⟨requestId, native, normalized, observationLevel, hcorrelated, hwitnessed⟩
    else reject (lit "absent native route evidence must remain client_only")
  else reject (lit "native route record is correlated to another request")

/-- The claims that the callers name. -/
inductive RouteClaim
  | prefixReuse
  | mtp
  | direct
  | fallback

def RouteEvidence.supportsPositiveClaim (evidence : RouteEvidence) (claim : RouteClaim) : Bool :=
  if !evidence.observationLevel.positive then false
  else if !evidence.normalized.routePurityKnown then false
  else
    match claim with
    | .prefixReuse =>
      (decide (evidence.normalized.cache = .memoryPrefix) || decide (evidence.normalized.cache = .diskPrefix)) &&
        decide (evidence.normalized.fallback = .none)
    | .mtp => decide (evidence.normalized.execution = .mtp) && decide (evidence.normalized.fallback = .none)
    | .direct => decide (evidence.normalized.execution = .direct) && decide (evidence.normalized.fallback = .none)
    | .fallback => decide (evidence.normalized.fallback ≠ .none) && decide (evidence.normalized.fallback ≠ .other)

theorem routeEvidence_fields (evidence : RouteEvidence) :
    routeEvidence evidence.requestId evidence.native evidence.normalized evidence.observationLevel = .ok evidence := by
  unfold routeEvidence
  rw [dif_pos evidence.correlated, dif_pos evidence.witnessed]

/-! ## What a claim says of the route -/

/-- The evidence is of a level and a purity that a claim needs. -/
structure Supported (evidence : RouteEvidence) : Prop where
  level : evidence.observationLevel.positive = true
  pure : evidence.normalized.routePurityKnown = true

theorem supports_iff (evidence : RouteEvidence) (claim : RouteClaim) :
    evidence.supportsPositiveClaim claim = true ↔ Supported evidence ∧
      match claim with
      | .prefixReuse => evidence.normalized.cache ∈ [.memoryPrefix, .diskPrefix] ∧ evidence.normalized.fallback = .none
      | .mtp => evidence.normalized.execution = .mtp ∧ evidence.normalized.fallback = .none
      | .direct => evidence.normalized.execution = .direct ∧ evidence.normalized.fallback = .none
      | .fallback => evidence.normalized.fallback ≠ .none ∧ evidence.normalized.fallback ≠ .other := by
  unfold RouteEvidence.supportsPositiveClaim
  split
  · rename_i hlevel
    rw [Bool.not_eq_true'] at hlevel
    simp only [Bool.false_eq_true, false_iff]
    intro h
    rw [h.1.level] at hlevel
    cases hlevel
  split
  · rename_i hpure
    rw [Bool.not_eq_true'] at hpure
    simp only [Bool.false_eq_true, false_iff]
    intro h
    rw [h.1.pure] at hpure
    cases hpure
  · rename_i hlevel hpure
    rw [Bool.not_eq_true, Bool.not_eq_false'] at hlevel hpure
    rw [and_iff_right ⟨hlevel, hpure⟩]
    cases claim <;> simp

end TurnVector.CrossEngine
