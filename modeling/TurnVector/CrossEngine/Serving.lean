import TurnVector.CrossEngine.Metrics
import TurnVector.Python.Value

/-! # The serving executor

`CommonServingExecutor._request` of `cross_engine/serving.py`, and the request that it builds with
`cross_engine/openai.py`.
-/

namespace TurnVector.CrossEngine

open Python Json Contracts

/-! ## Chat requests -/

def maxRequestBytes : Nat := 256 * 1024

/-- `_model_id` -/
def modelId (value : Json) (place : Str) : Except Raised Str := do
  let text ← boundedString value place 256 false
  if text.any fun c => c.val < 32 then reject (place ++ lit " contains a forbidden control character") else .ok text

/-- `obj[name]`, after `strict_object` has required it. -/
def member (members : List (Str × Json)) (name : String) : Json := (members.lookup (lit name)).getD .null

/-- `key in obj`, and then a check of `obj[key]`. -/
def whenPresent (members : List (Str × Json)) (name : String) (check : Json → Except Raised Unit) :
    Except Raised Unit :=
  match members.lookup (lit name) with
  | none => .ok ()
  | some value => check value

def checkMessage (place : Str) (message : Json × Nat) : Except Raised Unit := do
  let place := place ++ lit ".messages[" ++ natText message.2 ++ lit "]"
  let members ← strictObject message.1 ["role", "content"] [] place
  if member members "role" ≠ .str (lit "system") ∧ member members "role" ≠ .str (lit "user") then
    reject (place ++ lit ".role must be 'system' or 'user'")
  else do
    let _ ← boundedString (member members "content") (place ++ lit ".content") (128 * 1024) false
    return ()

/-- `not isinstance(value, bool) and value == n` -/
def checkExactly (members : List (Str × Json)) (name : String) (n : Nat) (place : Str) : Except Raised Unit :=
  match member members name with
  | .bool _ => reject (place ++ lit "." ++ lit name ++ lit " must be exactly " ++ natText n)
  | value =>
    if value.isCount n then .ok () else reject (place ++ lit "." ++ lit name ++ lit " must be exactly " ++ natText n)

def outputFields (members : List (Str × Json)) : List String :=
  ["max_tokens", "max_completion_tokens"].filter fun name => occurs (lit name) (members.map Prod.fst)

def checkOutputBound (members : List (Str × Json)) (place : Str) : Except Raised Unit :=
  match outputFields members with
  | [name] => do
    let _ ← integer (member members name) (place ++ lit "." ++ lit name) 1 maxInteger
    return ()
  | _ => reject (place ++ lit " must contain exactly one output-bound field")

def checkStreamOptions (place : Str) (value : Json) : Except Raised Unit := do
  let options ← strictObject value ["include_usage"] [] (place ++ lit ".stream_options")
  if member options "include_usage" = .bool true then .ok ()
  else reject (place ++ lit ".stream_options.include_usage must be exactly true")

/-- `validate_chat_request` -/
def validateChatRequest (value : Json) (place : Str) : Except Raised (List (Str × Json)) := do
  let members ← strictObject value ["model", "messages", "stream", "temperature", "top_p", "n"]
    ["stream_options", "seed", "max_tokens", "max_completion_tokens"] place
  let _ ← modelId (member members "model") (place ++ lit ".model")
  let messages ← boundedArray (member members "messages") (place ++ lit ".messages") 128 false
  messages.zipIdx.forM (checkMessage place)
  if member members "stream" ≠ .bool true then reject (place ++ lit ".stream must be exactly true")
  else do
    checkExactly members "temperature" 0 place
    checkExactly members "top_p" 1 place
    checkExactly members "n" 1 place
    checkOutputBound members place
    whenPresent members "seed" fun seed => do
      let _ ← integer seed (place ++ lit ".seed") (-2 ^ 63) maxInteger
    whenPresent members "stream_options" (checkStreamOptions place)
    let bytes ← canonicalJsonBytes (.obj members)
    if maxRequestBytes < bytes.length then
      reject (place ++ lit " exceeds the " ++ natText maxRequestBytes ++ lit "-byte bound")
    else return members

abbrev Message := List (Str × Json)

def chatMembers (model : Json) (messages : List Message) (outputTokens : Int) (outputBoundField : String)
    (seed : Int) : List (Str × Json) :=
  [(lit "model", model), (lit "messages", .arr (messages.map .obj)), (lit "stream", .bool true),
    (lit "temperature", .int 0), (lit "top_p", .int 1), (lit "n", .int 1), (lit outputBoundField, .int outputTokens),
    (lit "stream_options", .obj [(lit "include_usage", .bool true)]), (lit "seed", .int seed)]

/-- `build_chat_request` with `include_usage=True`. -/
def buildChatRequest (model : Json) (messages : List Message) (outputTokens : Int) (outputBoundField : Json)
    (seed : Int) : Except Raised (List (Str × Json)) :=
  let build := fun name : String =>
    validateChatRequest (.obj (chatMembers model messages outputTokens name seed)) (lit "OpenAI request")
  if outputBoundField = .str (lit "max_tokens") then build "max_tokens"
  else if outputBoundField = .str (lit "max_completion_tokens") then build "max_completion_tokens"
  else reject (lit "output_bound_field is not registered for dialect v1")

/-! ## The executor -/

/-- What `_request` reads of a frozen scenario. -/
structure Scenario where
  requiredOutputTokens : Json
  outputBoundField : Json
  timeoutSeconds : Json
  tokenAuthority : Str
  e2eMs : Json
  ttftMs : Json
  deriving DecidableEq

/-- The executor with the world around it: the prompts, the tokenizer, the HTTP client and the clock reading before
a dispatch. `str.lower` is the one of the interpreter's Unicode tables. -/
structure CommonServingExecutor where
  binary64 : Binary64
  lower : Str → Str
  promptFactory : CampaignCell → Nat → Except Raised (List Message)
  tokenCounter : List Message → Str → Except Raised (Nat × Nat)
  responseDialects : List (Str × Str)
  complete : (dialect : Str) → (timeout : PyFloat) → List (Str × Json) → Except Raised OpenAIStreamResult
  clock : Int

inductive Phase where
  | warmup
  | measured
  deriving DecidableEq

def Phase.text : Phase → Str
  | .warmup => lit "warmup"
  | .measured => lit "measured"

/-- `_CompletedRequest` -/
structure CompletedRequest where
  ordinal : Nat
  phase : Phase
  plannedDispatchNs : Int
  result : Option OpenAIStreamResult
  observation : RequestObservation
  metrics : Option RequestMetrics
  finishReasonOk : Bool
  deriving DecidableEq

/-- `_positive_int` -/
def positiveInt (value : Json) (place : Str) : Except Raised Int :=
  match value with
  | .int n => if n < 1 then reject (place ++ lit " must be a positive integer") else .ok n
  | _ => reject (place ++ lit " must be a positive integer")

/-- `_number` -/
def Binary64.number (b : Binary64) (value : Json) (place : Str) (minimum : ℚ) : Except Raised PyFloat := do
  let parsed ← b.float value place
  if parsed.below minimum ∨ parsed = .infinite false ∨ parsed = .nan then
    reject (place ++ lit " is outside its finite bound")
  else .ok parsed

/-- What the request is sent with. -/
structure Prepared where
  messages : List Message
  benchmarkInput : Nat
  outputTokens : Int
  request : List (Str × Json)
  timeout : PyFloat

def Prepared.finishOk (prepared : Prepared) (result : OpenAIStreamResult) : Bool :=
  result.finishReason = lit "length" ||
    (occurs result.finishReason [lit "stop", lit "eos_token"] &&
      result.usage.any fun usage => usage.completionTokens = prepared.outputTokens)

/-- The error class of a request that failed. -/
def errorClassOf (lower : Str → Str) (error : Raised) : Str :=
  if lit "token counts disagree" <:+: lower error.text then lit "token_count_disagreement"
  else if lit "timeout" <:+: lower error.className ∨ lit "timed out" <:+: lower error.text then lit "timeout"
  else lit "request_failed"

namespace CommonServingExecutor

section Request

variable (self : CommonServingExecutor) (cell : CampaignCell) (modelIds : List Json) (scenario : Scenario)
  (ordinal : Nat) (phase : Phase) (plannedDispatchNs : Int)

def requestId : Str := cell.cellId ++ lit "." ++ phase.text ++ lit ".q" ++ Relations.fourDigits ordinal

/-- `_request`, up to the reading of the clock. -/
def prepare : Except Raised Prepared := do
  let messages ← self.promptFactory cell ordinal
  if messages.isEmpty then reject (lit "prompt factory returned no messages")
  else do
    let (benchmarkInput, _) ← self.tokenCounter messages []
    let outputTokens ← positiveInt scenario.requiredOutputTokens
      (lit "scenario.output_work.required_output_tokens")
    let model ← modelIds.head?.elim (.error ⟨lit "IndexError", lit "list index out of range"⟩) Except.ok
    let request ← buildChatRequest model messages outputTokens scenario.outputBoundField cell.repetition
    let timeout ← self.binary64.number scenario.timeoutSeconds (lit "scenario.protocol.timeout_seconds")
      (self.binary64.nearest (1 / 1000))
    return { messages, benchmarkInput, outputTokens, request, timeout }

/-- `scenario["slos"]`, read while an observation is put together. -/
def slos : Except Raised (PyFloat × PyFloat) := do
  let e2e ← self.binary64.number scenario.e2eMs (lit "scenario.slos.e2e_ms") 0
  let ttft ← self.binary64.number scenario.ttftMs (lit "scenario.slos.ttft_ms") 0
  return (e2e, ttft)

/-- `None if phase == "warmup" else reduce_request_metrics(observation)` -/
def reduceMeasured (observation : RequestObservation) : Except Raised (Option RequestMetrics) :=
  match phase with
  | .warmup => .ok none
  | .measured => (reduceRequestMetrics self.binary64 observation).map some

/-- The body of the `try`. -/
def attempt (prepared : Prepared) : Except Raised CompletedRequest := do
  let dialect := (self.responseDialects.lookup cell.targetId).getD (lit "strict_v1")
  let result ← self.complete dialect prepared.timeout prepared.request
  let (_, benchmarkOutput) ← self.tokenCounter prepared.messages result.visibleText
  let slos ← self.slos scenario
  let observation := observationFromStreamResult (requestId cell ordinal phase) result scenario.tokenAuthority
    prepared.benchmarkInput benchmarkOutput prepared.outputTokens (prepared.finishOk result) slos.1 slos.2
  let metrics ← self.reduceMeasured phase observation
  return ⟨ordinal, phase, plannedDispatchNs, some result, observation, metrics, prepared.finishOk result⟩

/-- The body of the `except`. -/
def recover (prepared : Prepared) (error : Raised) : Except Raised CompletedRequest := do
  let slos ← self.slos scenario
  let observation := failedObservation (requestId cell ordinal phase) self.clock (errorClassOf self.lower error)
    scenario.tokenAuthority prepared.benchmarkInput prepared.outputTokens slos.1 slos.2
  let metrics ← self.reduceMeasured phase observation
  return ⟨ordinal, phase, plannedDispatchNs, none, observation, metrics, false⟩

/-- `_request` -/
def request : Except Raised CompletedRequest := do
  let prepared ← self.prepare cell modelIds scenario ordinal
  match self.attempt cell scenario ordinal phase plannedDispatchNs prepared with
  | .ok record => .ok record
  | .error error => self.recover cell scenario ordinal phase plannedDispatchNs prepared error

end Request

end CommonServingExecutor

end TurnVector.CrossEngine
