import TurnVector.CrossEngine.Jsonl
import TurnVector.CrossEngine.Serving
import TurnVector.Python.Incremental

/-! # The SSE parser

`SSEParser` of `cross_engine/openai.py`. The clock is the list of what its calls return.
-/

namespace TurnVector.CrossEngine.Sse

open Python Json Contracts

/-! ## What is parsed -/

inductive ResponseDialect where
  | strictV1
  | mlxLm0_31
  deriving DecidableEq

structure Usage where
  promptTokens : Int
  completionTokens : Int
  totalTokens : Int
  promptTokensDetails : List (Str × Int)
  completionTokensDetails : List (Str × Int)
  deriving DecidableEq

structure RawSSEEvent where
  ordinal : Nat
  data : Str
  receivedNs : Int
  sizeBytes : Nat
  deriving DecidableEq

structure RawSSEComment where
  ordinal : Nat
  line : Str
  receivedNs : Int
  sizeBytes : Nat
  deriving DecidableEq

structure ParsedChatCompletion where
  visibleOutput : Bytes
  reasoningOutput : Bytes
  finishReason : Str
  usage : Option Usage
  terminalNs : Int
  contentEventNs : List Int
  rawEvents : List RawSSEEvent
  responseBytes : Nat
  responseDialect : ResponseDialect
  httpVersion : Option Str
  rawComments : List RawSSEComment
  deriving DecidableEq

/-- What a call of the clock returns. `other` is a `bool`, and what is no integer. -/
inductive Reading where
  | int (n : Int)
  | other

/-- The arguments that the constructor accepted, and the limits of the interpreter. -/
structure Settings where
  dialect : ResponseDialect
  requireUsage : Bool
  maxResponseBytes : Nat
  maxEventBytes : Nat
  httpVersion : Option Str
  clock : Nat → Reading
  limits : Limits

/-- What a parser made of the lines so far, and how many readings it took. -/
structure Transcript where
  pendingData : Option Str
  pendingComment : Option Str
  events : List RawSSEEvent
  comments : List RawSSEComment
  visible : List Bytes
  reasoning : List Bytes
  contentEventNs : List Int
  terminalNs : Option Int
  finishReason : Option Str
  usage : Option Usage
  done : Bool
  roleSeen : Bool
  identity : List (Str × Json)
  lastTimestamp : Int
  readings : Nat

def Transcript.new : Transcript := ⟨none, none, [], [], [], [], [], none, none, none, false, false, [], -1, 0⟩

/-- `buffer` is what the decoder keeps, `text` what comes after the last line. -/
structure SSEParser where
  buffer : Bytes
  text : Str
  responseBytes : Nat
  transcript : Transcript

def SSEParser.new : SSEParser := ⟨[], [], 0, .new⟩

def protocolError {α : Type} (text : Str) : Except Raised α := .error ⟨lit "OpenAIProtocolError", text⟩

/-- `if p: raise OpenAIProtocolError(text)` -/
def demand (p : Prop) [Decidable p] (text : Str) : Except Raised Unit := if p then .ok () else protocolError text

theorem demand_ok_iff (p : Prop) [Decidable p] (text : Str) (u : Unit) : demand p text = .ok u ↔ p := by
  unfold demand
  split <;> simp [protocolError, *]

/-- `text.encode("utf-8")`, of a text that holds no surrogate. -/
def encoded (text : Str) : Bytes := text.flatMap utf8Char

section Parser

variable (settings : Settings)

/-! ## Chunks -/

/-- `_timestamp` -/
def timestamp (t : Transcript) : Except Raised (Int × Transcript) :=
  match settings.clock t.readings with
  | .int n => do
    demand (0 ≤ n) (lit "Benchmark clock must return non-negative integer nanoseconds")
    demand (t.lastTimestamp ≤ n) (lit "Benchmark clock moved backwards")
    return (n, { t with lastTimestamp := n, readings := t.readings + 1 })
  | .other => protocolError (lit "Benchmark clock must return non-negative integer nanoseconds")

/-- The value of `object` in a chunk. -/
def expectedObject (usageChunk : Bool) : Str :=
  if settings.dialect = .mlxLm0_31 ∧ usageChunk = true then lit "chat.completion" else lit "chat.completion.chunk"

/-- A field that keeps the value that it was first seen with. -/
def keepIdentity (t : Transcript) (field : String) (value : Json) (drifted : Str) : Except Raised Transcript :=
  match t.identity.lookup (lit field) with
  | some known => do
    demand (known = value) drifted
    return t
  | none => return { t with identity := t.identity ++ [(lit field, value)] }

def idIdentity (chunk : List (Str × Json)) (t : Transcript) : Except Raised Transcript :=
  match chunk.lookup (lit "id") with
  | none => return t
  | some value => do
    let _ ← boundedString value (lit "SSE chunk.id") 256 false
    keepIdentity t "id" value (lit "SSE chunk id identity drifted")

def modelIdentity (chunk : List (Str × Json)) (t : Transcript) : Except Raised Transcript :=
  match chunk.lookup (lit "model") with
  | none => return t
  | some value => do
    let _ ← modelId value (lit "SSE chunk.model")
    keepIdentity t "model" value (lit "SSE chunk model identity drifted")

def fingerprintIdentity (chunk : List (Str × Json)) (t : Transcript) : Except Raised Transcript :=
  match chunk.lookup (lit "system_fingerprint") with
  | none | some .null => return t
  | some value => do
    let _ ← boundedString value (lit "SSE chunk.system_fingerprint") 256 false
    keepIdentity t "system_fingerprint" value (lit "SSE system_fingerprint identity drifted")

/-- `_validate_chunk_identity` -/
def validateChunkIdentity (t : Transcript) (chunk : List (Str × Json)) (usageChunk : Bool) :
    Except Raised Transcript := do
  let expected := expectedObject settings usageChunk
  demand ((chunk.lookup (lit "object")).all (· = .str expected)) (lit "SSE chunk.object must be " ++ expected)
  whenPresent chunk "created" fun value => do
    let _ ← integer value (lit "SSE chunk.created") 0 maxInteger
  fingerprintIdentity chunk (← modelIdentity chunk (← idIdentity chunk t))

/-- `_parse_token_details` -/
def parseTokenDetails (value : Json) (place : Str) (allowedFields : List String) :
    Except Raised (List (Str × Int)) := do
  let obj ← strictObject value [] allowedFields place
  demand (obj ≠ []) (place ++ lit " must not be empty")
  (sortedTexts (obj.map (·.1))).mapM fun field => do
    return (field, ← integer ((obj.lookup field).getD .null) (place ++ lit "." ++ field) 0 maxInteger)

/-- The details of a usage that are there. -/
def optionalDetails (obj : List (Str × Json)) (name : String) (allowedFields : List String) :
    Except Raised (List (Str × Int)) :=
  match obj.lookup (lit name) with
  | none => return []
  | some value => parseTokenDetails value (lit "SSE usage." ++ lit name) allowedFields

/-- `_parse_usage` -/
def parseUsage (value : Json) : Except Raised Usage := do
  let extensions := if settings.dialect = .mlxLm0_31 then ["prompt_tokens_details", "completion_tokens_details"] else []
  let obj ← strictObject value ["prompt_tokens", "completion_tokens", "total_tokens"] extensions (lit "SSE usage")
  let prompt ← integer (member obj "prompt_tokens") (lit "SSE usage.prompt_tokens") 0 maxInteger
  let completion ← integer (member obj "completion_tokens") (lit "SSE usage.completion_tokens") 0 maxInteger
  let total ← integer (member obj "total_tokens") (lit "SSE usage.total_tokens") 0 maxInteger
  demand (prompt + completion = total) (lit "SSE usage total_tokens does not reconcile")
  let promptDetails ← optionalDetails obj "prompt_tokens_details" ["cached_tokens", "audio_tokens"]
  let completionDetails ← optionalDetails obj "completion_tokens_details"
    ["reasoning_tokens", "audio_tokens", "accepted_prediction_tokens", "rejected_prediction_tokens"]
  return ⟨prompt, completion, total, promptDetails, completionDetails⟩

def reasoningField : String := if settings.dialect = .mlxLm0_31 then "reasoning" else "reasoning_content"

/-- `value not in (None, "")` -/
def isOutput (value : Json) : Bool := value ≠ .null && value ≠ .str []

/-- A terminal delta holds no output. -/
def checkTerminalDelta (delta : List (Str × Json)) : Except Raised Unit :=
  match settings.dialect with
  | .mlxLm0_31 =>
    let terminalFields := delta.filter fun p => isOutput p.2
    demand (terminalFields = [] ∨ terminalFields = [(lit "role", .str (lit "assistant"))])
      (lit "mlx_lm terminal delta may contain only role assistant")
  | .strictV1 =>
    demand (delta.all fun p => !isOutput p.2) (lit "terminal chunk must not contain output content")

def acceptTerminal (t : Transcript) (event : RawSSEEvent) (delta : List (Str × Json)) (finishReason : Json) :
    Except Raised Transcript := do
  let reason ← boundedString finishReason (lit "SSE choice.finish_reason") 128 false
  checkTerminalDelta settings delta
  return { t with finishReason := some reason, terminalNs := some event.receivedNs }

/-- The role of a delta. The strict dialect has it at most once, before any output. -/
def acceptRole (t : Transcript) (delta : List (Str × Json)) : Except Raised Transcript :=
  match delta.lookup (lit "role") with
  | none => return t
  | some role => do
    demand (role = .str (lit "assistant")) (lit "SSE delta role must be assistant")
    match settings.dialect with
    | .mlxLm0_31 => return t
    | .strictV1 => do
      demand (t.roleSeen = false ∧ t.visible = [] ∧ t.reasoning = [])
        (lit "SSE assistant role must appear at most once before output")
      return { t with roleSeen := true }

/-- The bytes of an output field of a delta. -/
def deltaBytes (delta : List (Str × Json)) (field : String) : Except Raised Bytes :=
  match delta.lookup (lit field) with
  | none | some .null => return []
  | some value => do
    return encoded (← boundedString value (lit "SSE choice.delta." ++ lit field) settings.maxEventBytes true)

/-- `if encoded: target.append(encoded)` -/
def appendOutput (target : List Bytes) (output : Bytes) : List Bytes :=
  if output = [] then target else target ++ [output]

/-- When content came. -/
def appendTime (times : List Int) (content : Bytes) (now : Int) : List Int :=
  if content = [] then times else times ++ [now]

def acceptDelta (t : Transcript) (event : RawSSEEvent) (delta : List (Str × Json)) : Except Raised Transcript := do
  let t ← acceptRole settings t delta
  let reasoning ← deltaBytes settings delta (reasoningField settings)
  let content ← deltaBytes settings delta "content"
  return { t with
    reasoning := appendOutput t.reasoning reasoning
    visible := appendOutput t.visible content
    contentEventNs := appendTime t.contentEventNs content event.receivedNs }

def acceptChoice (t : Transcript) (event : RawSSEEvent) (value : Json) : Except Raised Transcript := do
  let choice ← strictObject value ["index", "delta", "finish_reason"] [] (lit "SSE choice")
  let index ← integer (member choice "index") (lit "SSE choice.index") 0 0
  demand (index = 0) (lit "SSE choice index drifted from zero")
  let delta ← strictObject (member choice "delta") [] ["role", reasoningField settings, "content"]
    (lit "SSE choice.delta")
  if member choice "finish_reason" ≠ .null then
    acceptTerminal settings t event delta (member choice "finish_reason")
  else acceptDelta settings t event delta

def acceptUsage (t : Transcript) (value : Json) : Except Raised Transcript := do
  demand (t.terminalNs ≠ none) (lit "usage chunk appeared before the terminal chunk")
  demand (t.usage = none) (lit "duplicate usage chunk")
  demand (value ≠ .null) (lit "empty choices are admitted only for a usage chunk")
  return { t with usage := some (← parseUsage settings value) }

def chunkFields : List String := ["id", "object", "created", "model", "system_fingerprint", "usage"]

/-- The chunk that the data of an event hold. -/
def readChunk (data : Str) : Except Raised (List (Str × Json)) := do
  let value ← strictJsonLoads settings.limits (encoded data) (lit "SSE data JSON")
  strictObject value ["choices"] chunkFields (lit "SSE chunk")

/-- `[DONE]` -/
def acceptDone (t : Transcript) : Except Raised Transcript := do
  demand (t.terminalNs ≠ none) (lit "[DONE] appeared before a terminal chunk")
  demand (settings.requireUsage = true → t.usage ≠ none) (lit "[DONE] appeared before the required usage chunk")
  return { t with done := true }

def acceptChunk (t : Transcript) (event : RawSSEEvent) : Except Raised Transcript := do
  let chunk ← readChunk settings event.data
  let choices ← boundedArray (member chunk "choices") (lit "SSE chunk.choices") 1 true
  let t ← validateChunkIdentity settings t chunk choices.isEmpty
  match choices with
  | [] => acceptUsage settings t (member chunk "usage")
  | choice :: _ => do
    demand (t.terminalNs = none) (lit "content or terminal chunk appeared after terminal")
    demand (member chunk "usage" = .null) (lit "usage is admitted only in the post-terminal usage chunk")
    acceptChoice settings t event choice

/-- `_accept_event` -/
def acceptEvent (t : Transcript) (event : RawSSEEvent) : Except Raised Transcript :=
  if event.data = lit "[DONE]" then acceptDone settings t else acceptChunk settings t event

/-! ## Lines -/

/-- `_MLX_KEEPALIVE_RE.fullmatch`, its two groups. -/
def keepalive (line : Str) : Option (Str × Str) :=
  let front := lit ": keepalive "
  let rest := line.drop front.length
  let processed := rest.takeWhile isDigit
  let total := (rest.dropWhile isDigit).tail
  if front <+: line ∧ processed ≠ [] ∧ (rest.dropWhile isDigit).head? = some (cp 47) ∧ total ≠ [] ∧
    total.all isDigit = true then some (processed, total) else none

/-- A blank line. -/
def acceptSeparator (t : Transcript) : Except Raised Transcript :=
  match t.pendingComment with
  | some raw => do
    let (now, t) ← timestamp settings { t with pendingComment := none }
    return { t with comments := t.comments ++ [⟨t.comments.length + 1, raw, now, (encoded raw).length⟩] }
  | none =>
    match t.pendingData with
    | none => protocolError (lit "SSE contains an empty event separator")
    | some data => do
      demand ((encoded data).length ≤ settings.maxEventBytes)
        (lit "SSE event exceeds the " ++ natText settings.maxEventBytes ++ lit "-byte bound")
      let (now, t) ← timestamp settings { t with pendingData := none }
      let event : RawSSEEvent := ⟨t.events.length + 1, data, now, (encoded data).length⟩
      acceptEvent settings { t with events := t.events ++ [event] } event

def onlyFields : Str := lit "SSE admits only data: fields and blank separators"

def acceptComment (t : Transcript) (line : Str) : Except Raised Transcript := do
  demand (settings.dialect = .mlxLm0_31) onlyFields
  demand (t.terminalNs = none) (lit "SSE keepalive comment appeared after terminal")
  demand ((encoded line).length ≤ settings.maxEventBytes)
    (lit "SSE comment exceeds the " ++ natText settings.maxEventBytes ++ lit "-byte bound")
  match keepalive line with
  | none => protocolError (lit "mlx_lm SSE comment is not a bounded keepalive")
  | some (processedText, totalText) => do
    demand (processedText.length ≤ 19 ∧ totalText.length ≤ 19)
      (lit "mlx_lm SSE keepalive progress exceeds its bound")
    let processed ← integer (.int (natOf processedText)) (lit "SSE keepalive processed") 0 maxInteger
    let total ← integer (.int (natOf totalText)) (lit "SSE keepalive total") 0 maxInteger
    demand (total ≠ 0 ∧ processed ≤ total) (lit "mlx_lm SSE keepalive progress is invalid")
    return { t with pendingComment := some line }

/-- `data: ` is five characters and a space that may be missing. -/
def dataOf (line : Str) : Str :=
  let data := line.drop 5
  if data.head? = some (cp 32) then data.tail else data

def acceptData (t : Transcript) (line : Str) : Except Raised Transcript := do
  demand (lit "data:" <+: line) onlyFields
  demand (dataOf line ≠ []) (lit "SSE data field must not be empty")
  demand ((encoded (dataOf line)).length ≤ settings.maxEventBytes)
    (lit "SSE event exceeds the " ++ natText settings.maxEventBytes ++ lit "-byte bound")
  return { t with pendingData := some (dataOf line) }

/-- `_accept_line` -/
def acceptLine (t : Transcript) (line : Str) : Except Raised Transcript :=
  if t.done then protocolError (lit "SSE data appeared after [DONE]")
  else if line = [] then acceptSeparator settings t
  else if t.pendingData.isSome ∨ t.pendingComment.isSome then
    protocolError (lit "SSE event must contain exactly one field")
  else if line.head? = some (cp 58) then acceptComment settings t line
  else acceptData settings t line

/-! ## Pieces -/

/-- The lines of a text, and what comes after the last of them. -/
def takeLines : Str → List Str × Str
  | [] => ([], [])
  | c :: text =>
    if c = cp 10 then ([] :: (takeLines text).1, (takeLines text).2)
    else match takeLines text with
      | ([], rest) => ([], c :: rest)
      | (line :: lines, rest) => ((c :: line) :: lines, rest)

/-- `feed` of data that is not empty, to a parser that is not done. -/
def feedMore (parser : SSEParser) (data : Bytes) : Except Raised SSEParser := do
  let responseBytes := parser.responseBytes + data.length
  demand (responseBytes ≤ settings.maxResponseBytes)
    (lit "SSE response exceeds the " ++ natText settings.maxResponseBytes ++ lit "-byte bound")
  match decodeStateful (parser.buffer ++ data) with
  | none => protocolError (lit "SSE response is not valid UTF-8")
  | some (decoded, buffer) => do
    demand (occurs (cp 13) decoded = false) (lit "SSE dialect requires LF line endings")
    let (lines, text) := takeLines (parser.text ++ decoded)
    return ⟨buffer, text, responseBytes, ← lines.foldlM (acceptLine settings) parser.transcript⟩

/-- `feed`, of which the parser is used. -/
def feed (parser : SSEParser) (data : Bytes) : Except Raised SSEParser :=
  if data = [] then .ok parser
  else if parser.transcript.done then protocolError (lit "SSE data appeared after [DONE]")
  else feedMore settings parser data

/-- `finish` -/
def finish (parser : SSEParser) : Except Raised ParsedChatCompletion := do
  let t := parser.transcript
  demand (parser.buffer = []) (lit "SSE response ended inside a UTF-8 sequence")
  demand (parser.text = [] ∧ t.pendingData = none ∧ t.pendingComment = none) (lit "SSE response ended inside an event")
  match t.terminalNs, t.finishReason with
  | some terminalNs, some finishReason => do
    demand (t.done = true) (lit "SSE response is missing [DONE]")
    demand (settings.requireUsage = true → t.usage ≠ none) (lit "SSE response is missing required usage")
    return ⟨t.visible.flatten, t.reasoning.flatten, finishReason, t.usage, terminalNs, t.contentEventNs, t.events,
      parser.responseBytes, settings.dialect, settings.httpVersion, t.comments⟩
  | _, _ => protocolError (lit "SSE response is missing a terminal chunk")

/-- A response that comes in chunks. -/
def parse (chunks : List Bytes) : Except Raised ParsedChatCompletion := do
  finish settings (← chunks.foldlM (feed settings) .new)

end Parser

end TurnVector.CrossEngine.Sse
