import TurnVector.CrossEngine.Contracts

/-! # Request metrics

`cross_engine/metrics.py`: the observation of one request and its reduction. A float is its exact value; what rounding
to binary64 does is a parameter.
-/

namespace TurnVector.CrossEngine

open Python Json Contracts

/-! ## Floats -/

inductive PyFloat where
  | nan
  | infinite (negative : Bool)
  | finite (value : ℚ)
  deriving DecidableEq

/-- Rounding of exact values, and the float that a JSON literal names. -/
structure Binary64 where
  nearest : ℚ → ℚ
  ofToken : Str → PyFloat

/-- The least integer that `float` refuses. -/
def floatLimit : Int := 2 ^ 1024 - 2 ^ 970

/-- `value < minimum` -/
def PyFloat.below (value : PyFloat) (minimum : ℚ) : Bool :=
  match value with
  | .nan => false
  | .infinite negative => negative
  | .finite q => q < minimum

/-- `float(value)` of a number. -/
def Binary64.float (b : Binary64) (value : Json) (place : Str) : Except Raised PyFloat :=
  match value with
  | .int n =>
    if floatLimit ≤ n ∨ n ≤ -floatLimit then
      .error ⟨lit "OverflowError", lit "int too large to convert to float"⟩
    else .ok (.finite (b.nearest n))
  | .float token => .ok (b.ofToken token)
  | _ => reject (place ++ lit " must be a number")

/-- `finite_number(value, where, minimum=0.0)` of a float. -/
def finiteNumber (value : PyFloat) (place : Str) : Except Raised ℚ :=
  match value with
  | .finite q =>
    if q < 0 then reject (place ++ lit " must be greater than or equal to 0.0") else .ok q
  | _ => reject (place ++ lit " must be finite")

/-! ## Observations -/

def tokenAuthorities : List Str := [lit "server_usage", lit "benchmark_tokenizer", lit "both"]

structure Usage where
  promptTokens : Int
  completionTokens : Int
  deriving DecidableEq

/-- What the executor reads of an `OpenAIStreamResult`. -/
structure OpenAIStreamResult where
  dispatchNs : Int
  visibleText : Str
  finishReason : Str
  usage : Option Usage
  terminalNs : Int
  contentEventNs : List Int
  deriving DecidableEq

structure RequestObservation where
  requestId : Str
  dispatchNs : Int
  terminalNs : Option Int
  contentEventNs : List Int
  wireComplete : Bool
  benchmarkInputTokens : Option Int
  benchmarkOutputTokens : Option Int
  serverInputTokens : Option Int
  serverOutputTokens : Option Int
  tokenAuthority : Str
  requiredOutputTokens : Option Int
  outputObligationsMet : Bool
  errorClass : Option Str
  sloE2eMs : Option PyFloat
  sloTtftMs : Option PyFloat
  deriving DecidableEq

structure RequestMetrics where
  requestId : Str
  canonicalInputTokens : Option Int
  canonicalOutputTokens : Option Int
  ttftMs : Option ℚ
  e2eMs : Option ℚ
  streamEventIntervalMs : List ℚ
  clientPostFirstOutputMsPerToken : Option ℚ
  effectivePrefillTokensPerSecond : Option ℚ
  outputContractOk : Bool
  completionValid : Bool
  sloSatisfied : Bool
  errorClasses : List Str
  deriving DecidableEq

/-- `observation_from_stream_result` -/
def observationFromStreamResult (requestId : Str) (result : OpenAIStreamResult) (tokenAuthority : Str)
    (benchmarkInputTokens benchmarkOutputTokens requiredOutputTokens : Int) (outputObligationsMet : Bool)
    (sloE2eMs sloTtftMs : PyFloat) : RequestObservation where
  requestId := requestId
  dispatchNs := result.dispatchNs
  terminalNs := some result.terminalNs
  contentEventNs := result.contentEventNs
  wireComplete := true
  benchmarkInputTokens := some benchmarkInputTokens
  benchmarkOutputTokens := some benchmarkOutputTokens
  serverInputTokens := result.usage.map Usage.promptTokens
  serverOutputTokens := result.usage.map Usage.completionTokens
  tokenAuthority := tokenAuthority
  requiredOutputTokens := some requiredOutputTokens
  outputObligationsMet := outputObligationsMet
  errorClass := none
  sloE2eMs := some sloE2eMs
  sloTtftMs := some sloTtftMs

/-- `failed_observation` -/
def failedObservation (requestId : Str) (dispatchNs : Int) (errorClass tokenAuthority : Str)
    (benchmarkInputTokens requiredOutputTokens : Int) (sloE2eMs sloTtftMs : PyFloat) : RequestObservation where
  requestId := requestId
  dispatchNs := dispatchNs
  terminalNs := none
  contentEventNs := []
  wireComplete := false
  benchmarkInputTokens := some benchmarkInputTokens
  benchmarkOutputTokens := none
  serverInputTokens := none
  serverOutputTokens := none
  tokenAuthority := tokenAuthority
  requiredOutputTokens := some requiredOutputTokens
  outputObligationsMet := false
  errorClass := some errorClass
  sloE2eMs := some sloE2eMs
  sloTtftMs := some sloTtftMs

/-! ## Token counts -/

/-- A value that is checked when it is there. -/
def optional {α β : Type} (value : Option α) (read : α → Except Raised β) : Except Raised (Option β) :=
  match value with
  | none => .ok none
  | some a => (read a).map some

/-- `_optional_tokens` -/
def optionalTokens (value : Option Int) (place : String) : Except Raised (Option Int) :=
  optional value fun n => integer (.int n) (lit place) 0 maxInteger

/-- The counts that an authority takes, once each of them is in bounds. -/
def authorizedCounts (observation : RequestObservation) : Except Raised (Option Int × Option Int) :=
  let { benchmarkInputTokens, benchmarkOutputTokens, serverInputTokens, serverOutputTokens, .. } := observation
  if observation.tokenAuthority = lit "server_usage" then
    if serverInputTokens = none ∨ serverOutputTokens = none then
      reject (lit "server_usage token authority requires complete server usage")
    else .ok (serverInputTokens, serverOutputTokens)
  else if observation.tokenAuthority = lit "benchmark_tokenizer" then
    if benchmarkInputTokens = none then
      reject (lit "benchmark_tokenizer authority requires an input token count")
    else if observation.wireComplete ∧ benchmarkOutputTokens = none then
      reject (lit "benchmark_tokenizer authority requires an output token count")
    else .ok (benchmarkInputTokens, benchmarkOutputTokens)
  else if !observation.wireComplete then
    if benchmarkInputTokens = none then
      reject (lit "both token authority requires a Benchmark input count for failures")
    else .ok (benchmarkInputTokens, none)
  else if none ∈ [benchmarkInputTokens, benchmarkOutputTokens, serverInputTokens, serverOutputTokens] then
    reject (lit "both token authority requires Benchmark and server token counts")
  else if benchmarkInputTokens ≠ serverInputTokens ∨ benchmarkOutputTokens ≠ serverOutputTokens then
    reject (lit "Benchmark and server token counts disagree")
  else .ok (benchmarkInputTokens, benchmarkOutputTokens)

/-- `_canonical_token_counts` -/
def canonicalTokenCounts (observation : RequestObservation) : Except Raised (Option Int × Option Int) :=
  if !occurs observation.tokenAuthority tokenAuthorities then
    reject (lit "token_authority must be one of ['benchmark_tokenizer', 'both', 'server_usage']")
  else do
    let _ ← optionalTokens observation.benchmarkInputTokens "benchmark_input_tokens"
    let _ ← optionalTokens observation.benchmarkOutputTokens "benchmark_output_tokens"
    let _ ← optionalTokens observation.serverInputTokens "server_input_tokens"
    let _ ← optionalTokens observation.serverOutputTokens "server_output_tokens"
    authorizedCounts observation

/-! ## The reducer -/

/-- The checks of the terminal time against the wire. -/
def checkTerminal (observation : RequestObservation) : Except Raised Unit := do
  let terminal ← optional observation.terminalNs fun t =>
    integer (.int t) (lit "terminal_ns") observation.dispatchNs maxInteger
  if observation.wireComplete ∧ terminal = none then
    reject (lit "wire_complete observation requires a terminal timestamp")
  else if ¬ observation.wireComplete ∧ terminal ≠ none then
    reject (lit "incomplete observation cannot have a valid terminal timestamp")
  else .ok ()

/-- The checks of the content events. -/
def checkContentEvents (observation : RequestObservation) : Except Raised Unit := do
  let events := observation.contentEventNs
  events.zipIdx.forM fun event => do
    let _ ← integer (.int event.1) (lit "content_event_ns[" ++ natText event.2 ++ lit "]") observation.dispatchNs
      maxInteger
  if events.insertionSort (· ≤ ·) ≠ events then reject (lit "content event timestamps must be monotone")
  else if observation.terminalNs.any fun terminal => events.any fun event => terminal < event then
    reject (lit "content event timestamp appears after terminal")
  else .ok ()

/-- `nanoseconds / 1_000_000.0` -/
def Binary64.milliseconds (b : Binary64) (nanoseconds : Int) : ℚ := b.nearest (b.nearest nanoseconds / 1000000)

def Binary64.ttft (b : Binary64) (observation : RequestObservation) : Option ℚ :=
  observation.contentEventNs.head?.map fun first => b.milliseconds (first - observation.dispatchNs)

def Binary64.e2e (b : Binary64) (observation : RequestObservation) : Option ℚ :=
  observation.terminalNs.map fun terminal => b.milliseconds (terminal - observation.dispatchNs)

/-- The divisor is at least one. -/
def Binary64.postFirst (b : Binary64) (observation : RequestObservation) (output : Option Int) : Option ℚ :=
  match output, observation.contentEventNs.head?, observation.contentEventNs.getLast? with
  | some output, some first, some last =>
    if 2 ≤ output then some (b.nearest (b.milliseconds (last - first) / b.nearest (output - 1 : Int))) else none
  | _, _, _ => none

/-- The divisor is positive: no positive time is shorter than a nanosecond. -/
def Binary64.effectivePrefill (b : Binary64) (input : Option Int) (ttft : Option ℚ) : Option ℚ :=
  match input, ttft with
  | some input, some ttft =>
    if 0 < ttft then some (b.nearest (b.nearest input / b.nearest (ttft / 1000))) else none
  | _, _ => none

/-- The errors of the checks, in the order of the reducer. -/
def checkedErrors (observation : RequestObservation) (outputContractOk : Bool) : List Str :=
  observation.errorClass.toList ++
    (if !observation.wireComplete ∧ observation.errorClass = none then [lit "incomplete_stream"] else []) ++
    (if !outputContractOk then [lit "output_contract"] else []) ++
    (if !observation.outputObligationsMet then [lit "output_obligation"] else [])

/-- `error_classes` -/
def errorClassesOf (observation : RequestObservation) (outputContractOk : Bool) : List Str :=
  let errors := checkedErrors observation outputContractOk
  if observation.requiredOutputTokens ≠ none ∧ observation.contentEventNs = [] ∧
      !occurs (lit "output_contract") errors then
    errors ++ [lit "output_contract"]
  else errors

/-- A bound that is not set, or a time within it. -/
def withinSlo (slo time : Option ℚ) : Bool :=
  match slo, time with
  | none, _ => true
  | some slo, some time => time ≤ slo
  | some _, none => false

/-- What the reducer returns once every check has passed. -/
def reducedMetrics (b : Binary64) (observation : RequestObservation) (input output : Option Int)
    (sloE2eMs sloTtftMs : Option ℚ) : RequestMetrics :=
  let ttft := b.ttft observation
  let e2e := b.e2e observation
  let contractOk := decide (observation.requiredOutputTokens = none ∨ output = observation.requiredOutputTokens)
  let outputContractOk :=
    contractOk && !(observation.requiredOutputTokens.isSome && observation.contentEventNs.isEmpty)
  let errors := errorClassesOf observation contractOk
  let completionValid :=
    observation.wireComplete && outputContractOk && observation.outputObligationsMet && errors.isEmpty
  { requestId := observation.requestId
    canonicalInputTokens := input
    canonicalOutputTokens := output
    ttftMs := ttft
    e2eMs := e2e
    streamEventIntervalMs :=
      (observation.contentEventNs.zip observation.contentEventNs.tail).map fun pair => b.milliseconds (pair.2 - pair.1)
    clientPostFirstOutputMsPerToken := b.postFirst observation output
    effectivePrefillTokensPerSecond := b.effectivePrefill input ttft
    outputContractOk := outputContractOk
    completionValid := completionValid
    sloSatisfied := completionValid && withinSlo sloE2eMs e2e && withinSlo sloTtftMs ttft
    errorClasses := errors }

/-- `reduce_request_metrics` -/
def reduceRequestMetrics (b : Binary64) (observation : RequestObservation) : Except Raised RequestMetrics := do
  let _ ← Contracts.identifier (.str observation.requestId) (lit "request_id")
  let _ ← integer (.int observation.dispatchNs) (lit "dispatch_ns") 0 maxInteger
  checkTerminal observation
  checkContentEvents observation
  let counts ← canonicalTokenCounts observation
  let _ ← optional observation.requiredOutputTokens fun n =>
    integer (.int n) (lit "required_output_tokens") 1 maxInteger
  let _ ← optional observation.errorClass fun name => Contracts.identifier (.str name) (lit "error_class")
  let sloE2eMs ← optional observation.sloE2eMs fun slo => finiteNumber slo (lit "slo_e2e_ms")
  let sloTtftMs ← optional observation.sloTtftMs fun slo => finiteNumber slo (lit "slo_ttft_ms")
  return reducedMetrics b observation counts.1 counts.2 sloE2eMs sloTtftMs

end TurnVector.CrossEngine
