import TurnVector.CrossEngine.Sse.Chunking

/-! # What an accepted block does

A block is what a blank line ends. The lines of an accepted response are blocks, each a step of the parser.
-/

namespace TurnVector.CrossEngine.Sse

open Python Json Contracts

/-! ## Blocks -/

/-- An event, and whether a space stands before its data. -/
structure DataBlock where
  spaced : Bool
  raw : RawSSEEvent

inductive Block where
  | comment (raw : RawSSEComment)
  | event (data : DataBlock)

def Block.line : Block → Str
  | .comment raw => raw.line
  | .event data => lit "data:" ++ (if data.spaced then [cp 32] else []) ++ data.raw.data

def Block.event? : Block → Option RawSSEEvent
  | .comment _ => none
  | .event data => some data.raw

def Block.comment? : Block → Option RawSSEComment
  | .comment raw => some raw
  | .event _ => none

/-- The bytes of a response. -/
def written (blocks : List Block) : Bytes := encoded (blocks.flatMap fun block => block.line ++ [cp 10, cp 10])

/-! ## Chunks -/

/-- The finish reason and the delta of the one choice of a chunk. -/
def choiceOf (chunk : List (Str × Json)) : Option (Json × List (Str × Json)) :=
  match member chunk "choices" with
  | .arr [.obj choice] =>
    match member choice "delta" with
    | .obj delta => some (member choice "finish_reason", delta)
    | _ => none
  | _ => none

/-- What a delta adds to an output. -/
def outputOf (delta : List (Str × Json)) (field : String) : Bytes :=
  match delta.lookup (lit field) with
  | some (.str text) => encoded text
  | _ => []

/-- The fields that identify the response. -/
def identityFields : List String := ["id", "model", "system_fingerprint"]

/-- A fingerprint that is null is none. -/
def Identifies (chunk : List (Str × Json)) (field : String) (value : Json) : Prop :=
  chunk.lookup (lit field) = some value ∧ (field = "system_fingerprint" → value ≠ .null)

def Extends (known identity : List (Str × Json)) : Prop :=
  ∀ field value, known.lookup field = some value → identity.lookup field = some value

/-- What was known stays, and the chunk is of the same response. -/
structure Agrees (known : List (Str × Json)) (chunk : List (Str × Json)) (identity : List (Str × Json)) : Prop where
  kept : Extends known identity
  same : ∀ field ∈ identityFields, ∀ value, Identifies chunk field value → identity.lookup (lit field) = some value

/-! ## Steps -/

/-- A transcript between two blocks. -/
structure Idle (t : Transcript) : Prop where
  data : t.pendingData = none
  comment : t.pendingComment = none

/-- An event as it is put down, before it is accepted. -/
def arrived (t : Transcript) (raw : RawSSEEvent) : Transcript :=
  { t with
    pendingData := none
    events := t.events ++ [raw]
    lastTimestamp := raw.receivedNs
    readings := t.readings + 1 }

structure Arrives (t : Transcript) (raw : RawSSEEvent) : Prop where
  notDone : t.done = false
  ordinal : raw.ordinal = t.events.length + 1
  later : t.lastTimestamp ≤ raw.receivedNs

section Steps

variable (settings : Settings)

/-- No output is in the delta of a terminal chunk. -/
def NoOutput (delta : List (Str × Json)) : Prop :=
  ∀ p ∈ delta, isOutput p.2 = true → settings.dialect = .mlxLm0_31 ∧ p = (lit "role", .str (lit "assistant"))

/-- The tokens that a usage object counts. -/
structure Counts (obj : List (Str × Json)) (usage : Usage) : Prop where
  prompt : member obj "prompt_tokens" = .int usage.promptTokens
  completion : member obj "completion_tokens" = .int usage.completionTokens
  total : member obj "total_tokens" = .int usage.totalTokens
  reconciles : usage.promptTokens + usage.completionTokens = usage.totalTokens

/-- What an accepted block does to a transcript. -/
inductive Step : Transcript → Block → Transcript → Prop
  | comment (t : Transcript) (raw : RawSSEComment) (hopen : t.done = false) (hdialect : settings.dialect = .mlxLm0_31)
      (hbefore : t.terminalNs = none) (hkeepalive : (keepalive raw.line).isSome = true)
      (hordinal : raw.ordinal = t.comments.length + 1) (hlater : t.lastTimestamp ≤ raw.receivedNs) :
      Step t (.comment raw) { t with
        pendingComment := none
        comments := t.comments ++ [raw]
        lastTimestamp := raw.receivedNs
        readings := t.readings + 1 }
  | content (t : Transcript) (data : DataBlock) (chunk delta identity : List (Str × Json)) (roleSeen : Bool)
      (harrives : Arrives t data.raw) (hbefore : t.terminalNs = none)
      (hread : readChunk settings data.raw.data = .ok chunk) (hchoice : choiceOf chunk = some (.null, delta))
      (hagrees : Agrees t.identity chunk identity) :
      Step t (.event data) { arrived t data.raw with
        identity := identity
        roleSeen := roleSeen
        reasoning := appendOutput t.reasoning (outputOf delta (reasoningField settings))
        visible := appendOutput t.visible (outputOf delta "content")
        contentEventNs := appendTime t.contentEventNs (outputOf delta "content") data.raw.receivedNs }
  | terminal (t : Transcript) (data : DataBlock) (chunk delta identity : List (Str × Json)) (reason : Str)
      (harrives : Arrives t data.raw) (hbefore : t.terminalNs = none)
      (hread : readChunk settings data.raw.data = .ok chunk) (hchoice : choiceOf chunk = some (.str reason, delta))
      (hnone : NoOutput settings delta) (hagrees : Agrees t.identity chunk identity) :
      Step t (.event data) { arrived t data.raw with
        identity := identity
        finishReason := some reason
        terminalNs := some data.raw.receivedNs }
  | usage (t : Transcript) (data : DataBlock) (chunk obj identity : List (Str × Json)) (usage : Usage)
      (harrives : Arrives t data.raw) (hafter : t.terminalNs ≠ none) (hfirst : t.usage = none)
      (hread : readChunk settings data.raw.data = .ok chunk) (hchoices : member chunk "choices" = .arr [])
      (husage : member chunk "usage" = .obj obj) (hcounts : Counts obj usage)
      (hagrees : Agrees t.identity chunk identity) :
      Step t (.event data) { arrived t data.raw with
        identity := identity
        usage := some usage }
  | done (t : Transcript) (data : DataBlock) (harrives : Arrives t data.raw) (hdata : data.raw.data = lit "[DONE]")
      (hafter : t.terminalNs ≠ none) (hrequired : settings.requireUsage = true → t.usage ≠ none) :
      Step t (.event data) { arrived t data.raw with done := true }

inductive Run : Transcript → List Block → Transcript → Prop
  | nil (t : Transcript) : Run t [] t
  | cons {t mid last : Transcript} {block : Block} {blocks : List Block} (hstep : Step settings t block mid)
      (hrun : Run mid blocks last) : Run t (block :: blocks) last

/-! ## Identity -/

theorem Extends.refl (known : List (Str × Json)) : Extends known known := fun _ _ h => h

theorem Extends.trans {known mid identity : List (Str × Json)} (h : Extends known mid) (h' : Extends mid identity) :
    Extends known identity := fun field value hvalue => h' field value (h field value hvalue)

theorem keepIdentity_ok {t next : Transcript} {field : String} {value : Json} {drifted : Str}
    (h : keepIdentity t field value drifted = .ok next) :
    ∃ identity, next = { t with identity := identity } ∧ Extends t.identity identity ∧
      identity.lookup (lit field) = some value := by
  unfold keepIdentity at h
  split at h
  · rename_i known hknown
    obtain ⟨hsame, h⟩ := then_ok_iff.mp h
    rw [demand_ok_iff] at hsame
    cases h
    exact ⟨t.identity, rfl, .refl _, by rw [hknown, hsame]⟩
  · rename_i hnone
    cases h
    refine ⟨_, rfl, fun other found hfound => ?_, ?_⟩
    · rw [List.lookup_append, hfound]
      rfl
    · rw [List.lookup_append, hnone]
      simp

/-- What a check of one field does. -/
def Keeps (t next : Transcript) (chunk : List (Str × Json)) (field : String) : Prop :=
  ∃ identity, next = { t with identity := identity } ∧ Extends t.identity identity ∧
    ∀ value, Identifies chunk field value → identity.lookup (lit field) = some value

theorem Keeps.of_lookup {t next : Transcript} {chunk : List (Str × Json)} {field : String} {value : Json}
    {drifted : Str} (hvalue : chunk.lookup (lit field) = some value)
    (h : keepIdentity t field value drifted = .ok next) : Keeps t next chunk field := by
  obtain ⟨identity, hnext, hkept, hsame⟩ := keepIdentity_ok h
  refine ⟨identity, hnext, hkept, fun other hother => ?_⟩
  rw [hsame, ← hvalue, hother.1]

theorem Keeps.of_none (t : Transcript) {chunk : List (Str × Json)} {field : String}
    (h : ∀ value, ¬ Identifies chunk field value) : Keeps t t chunk field :=
  ⟨t.identity, rfl, .refl _, fun value hvalue => absurd hvalue (h value)⟩

theorem idIdentity_ok {chunk : List (Str × Json)} {t next : Transcript} (h : idIdentity chunk t = .ok next) :
    Keeps t next chunk "id" := by
  unfold idIdentity at h
  split at h
  · rename_i hnone
    cases h
    exact .of_none t fun value hvalue => by simp [hnone, Identifies] at hvalue
  · rename_i value hvalue
    obtain ⟨_, -, h⟩ := bind_ok_iff.mp h
    exact .of_lookup hvalue h

theorem modelIdentity_ok {chunk : List (Str × Json)} {t next : Transcript} (h : modelIdentity chunk t = .ok next) :
    Keeps t next chunk "model" := by
  unfold modelIdentity at h
  split at h
  · rename_i hnone
    cases h
    exact .of_none t fun value hvalue => by simp [hnone, Identifies] at hvalue
  · rename_i value hvalue
    obtain ⟨_, -, h⟩ := bind_ok_iff.mp h
    exact .of_lookup hvalue h

theorem fingerprintIdentity_ok {chunk : List (Str × Json)} {t next : Transcript}
    (h : fingerprintIdentity chunk t = .ok next) : Keeps t next chunk "system_fingerprint" := by
  unfold fingerprintIdentity at h
  split at h
  · rename_i hnone
    cases h
    exact .of_none t fun value hvalue => by simp [hnone, Identifies] at hvalue
  · rename_i hnull
    cases h
    exact .of_none t fun value hvalue => hvalue.2 rfl (Option.some.inj (hvalue.1.symm.trans hnull))
  · rename_i value _ hvalue
    obtain ⟨_, -, h⟩ := bind_ok_iff.mp h
    exact .of_lookup hvalue h

theorem validateChunkIdentity_ok {t next : Transcript} {chunk : List (Str × Json)} {usageChunk : Bool}
    (h : validateChunkIdentity settings t chunk usageChunk = .ok next) :
    ∃ identity, next = { t with identity := identity } ∧ Agrees t.identity chunk identity := by
  unfold validateChunkIdentity at h
  obtain ⟨_, -, h⟩ := bind_ok_iff.mp h
  obtain ⟨_, -, h⟩ := bind_ok_iff.mp h
  obtain ⟨second, hid, h⟩ := bind_ok_iff.mp h
  obtain ⟨third, hmodel, hfingerprint⟩ := bind_ok_iff.mp h
  obtain ⟨ids, rfl, hids, hid⟩ := idIdentity_ok hid
  obtain ⟨models, rfl, hmodels, hmodel⟩ := modelIdentity_ok hmodel
  obtain ⟨identity, rfl, hidentity, hfingerprint⟩ := fingerprintIdentity_ok hfingerprint
  refine ⟨identity, rfl, hids.trans (hmodels.trans hidentity), ?_⟩
  simp only [identityFields, List.forall_mem_cons, List.not_mem_nil, false_imp_iff, implies_true, and_true]
  refine ⟨fun value hvalue => ?_, fun value hvalue => ?_, hfingerprint⟩
  · exact hidentity _ _ (hmodels _ _ (hid value hvalue))
  · exact hidentity _ _ (hmodel value hvalue)

/-! ## Chunks that are accepted -/

theorem timestamp_ok {t next : Transcript} {now : Int} (h : timestamp settings t = .ok (now, next)) :
    t.lastTimestamp ≤ now ∧ next = { t with lastTimestamp := now, readings := t.readings + 1 } := by
  unfold timestamp at h
  split at h
  · obtain ⟨_, -, h⟩ := bind_ok_iff.mp h
    obtain ⟨hlater, h⟩ := then_ok_iff.mp h
    cases h
    exact ⟨(demand_ok_iff _ _ _).mp hlater, rfl⟩
  · cases h

theorem parseUsage_ok {value : Json} {usage : Usage} (h : parseUsage settings value = .ok usage) :
    ∃ obj, value = .obj obj ∧ Counts obj usage := by
  unfold parseUsage at h
  obtain ⟨obj, hobj, h⟩ := bind_ok_iff.mp h
  obtain ⟨prompt, hprompt, h⟩ := bind_ok_iff.mp h
  obtain ⟨completion, hcompletion, h⟩ := bind_ok_iff.mp h
  obtain ⟨total, htotal, h⟩ := bind_ok_iff.mp h
  obtain ⟨hsum, h⟩ := then_ok_iff.mp h
  obtain ⟨_, -, h⟩ := bind_ok_iff.mp h
  obtain ⟨_, -, h⟩ := bind_ok_iff.mp h
  cases h
  exact ⟨obj, strictObject_ok hobj, integer_ok hprompt, integer_ok hcompletion, integer_ok htotal,
    (demand_ok_iff _ _ _).mp hsum⟩

theorem checkTerminalDelta_ok {delta : List (Str × Json)} (h : checkTerminalDelta settings delta = .ok ()) :
    NoOutput settings delta := by
  unfold checkTerminalDelta at h
  intro p hp hout
  split at h
  · rename_i hdialect
    rw [demand_ok_iff] at h
    have hmem : p ∈ delta.filter fun p => isOutput p.2 := List.mem_filter.mpr ⟨hp, hout⟩
    rcases h with h | h
    · rw [h] at hmem
      cases hmem
    · rw [h] at hmem
      exact ⟨hdialect, List.mem_singleton.mp hmem⟩
  · rw [demand_ok_iff, List.all_eq_true] at h
    have := h p hp
    simp [hout] at this

theorem acceptRole_ok {t next : Transcript} {delta : List (Str × Json)} (h : acceptRole settings t delta = .ok next) :
    ∃ roleSeen, next = { t with roleSeen := roleSeen } := by
  unfold acceptRole at h
  split at h
  · cases h
    exact ⟨t.roleSeen, rfl⟩
  · obtain ⟨_, -, h⟩ := bind_ok_iff.mp h
    split at h
    · cases h
      exact ⟨t.roleSeen, rfl⟩
    · obtain ⟨_, -, h⟩ := bind_ok_iff.mp h
      cases h
      exact ⟨true, rfl⟩

theorem deltaBytes_ok {delta : List (Str × Json)} {field : String} {output : Bytes}
    (h : deltaBytes settings delta field = .ok output) : output = outputOf delta field := by
  unfold deltaBytes at h
  unfold outputOf
  split at h
  · rename_i hnone
    cases h
    rw [hnone]
  · rename_i hnull
    cases h
    rw [hnull]
  · rename_i value _ hvalue
    obtain ⟨text, htext, h⟩ := bind_ok_iff.mp h
    cases h
    rw [hvalue, boundedString_text htext]

theorem acceptDelta_ok {t next : Transcript} {event : RawSSEEvent} {delta : List (Str × Json)}
    (h : acceptDelta settings t event delta = .ok next) :
    ∃ roleSeen, next = { t with
      roleSeen := roleSeen
      reasoning := appendOutput t.reasoning (outputOf delta (reasoningField settings))
      visible := appendOutput t.visible (outputOf delta "content")
      contentEventNs := appendTime t.contentEventNs (outputOf delta "content") event.receivedNs } := by
  unfold acceptDelta at h
  obtain ⟨t, hrole, h⟩ := bind_ok_iff.mp h
  obtain ⟨reasoning, hreasoning, h⟩ := bind_ok_iff.mp h
  obtain ⟨content, hcontent, h⟩ := bind_ok_iff.mp h
  cases h
  obtain ⟨roleSeen, rfl⟩ := acceptRole_ok settings hrole
  rw [deltaBytes_ok settings hreasoning, deltaBytes_ok settings hcontent]
  exact ⟨roleSeen, rfl⟩

theorem acceptTerminal_ok {t next : Transcript} {event : RawSSEEvent} {delta : List (Str × Json)} {finish : Json}
    (h : acceptTerminal settings t event delta finish = .ok next) :
    ∃ reason, finish = .str reason ∧ NoOutput settings delta ∧
      next = { t with finishReason := some reason, terminalNs := some event.receivedNs } := by
  unfold acceptTerminal at h
  obtain ⟨reason, hreason, h⟩ := bind_ok_iff.mp h
  obtain ⟨hnone, h⟩ := then_ok_iff.mp h
  cases h
  exact ⟨reason, boundedString_text hreason, checkTerminalDelta_ok settings hnone, rfl⟩

theorem acceptChoice_step {t next : Transcript} {data : DataBlock} {chunk identity : List (Str × Json)} {value : Json}
    (harrives : Arrives t data.raw) (hbefore : t.terminalNs = none)
    (hread : readChunk settings data.raw.data = .ok chunk) (hvalue : member chunk "choices" = .arr [value])
    (hagrees : Agrees t.identity chunk identity)
    (h : acceptChoice settings { arrived t data.raw with identity := identity } data.raw value = .ok next) :
    Step settings t (.event data) next := by
  unfold acceptChoice at h
  obtain ⟨choice, hobj, h⟩ := bind_ok_iff.mp h
  obtain ⟨_, -, h⟩ := bind_ok_iff.mp h
  obtain ⟨_, -, h⟩ := bind_ok_iff.mp h
  obtain ⟨delta, hdelta, h⟩ := bind_ok_iff.mp h
  have hchoice : choiceOf chunk = some (member choice "finish_reason", delta) := by
    unfold choiceOf
    rw [hvalue, strictObject_ok hobj]
    simp only [strictObject_ok hdelta]
  split at h
  · obtain ⟨reason, hreason, hnone, rfl⟩ := acceptTerminal_ok settings h
    rw [hreason] at hchoice
    exact .terminal t data chunk delta identity reason harrives hbefore hread hchoice hnone hagrees
  · rename_i hnull
    obtain ⟨roleSeen, rfl⟩ := acceptDelta_ok settings h
    rw [not_ne_iff.mp hnull] at hchoice
    exact .content t data chunk delta identity roleSeen harrives hbefore hread hchoice hagrees

theorem acceptUsage_step {t next : Transcript} {data : DataBlock} {chunk identity : List (Str × Json)}
    (harrives : Arrives t data.raw) (hread : readChunk settings data.raw.data = .ok chunk)
    (hchoices : member chunk "choices" = .arr []) (hagrees : Agrees t.identity chunk identity)
    (h : acceptUsage settings { arrived t data.raw with identity := identity } (member chunk "usage") = .ok next) :
    Step settings t (.event data) next := by
  unfold acceptUsage at h
  obtain ⟨hafter, h⟩ := then_ok_iff.mp h
  obtain ⟨hfirst, h⟩ := then_ok_iff.mp h
  obtain ⟨_, -, h⟩ := bind_ok_iff.mp h
  obtain ⟨usage, husage, h⟩ := bind_ok_iff.mp h
  cases h
  rw [demand_ok_iff] at hafter hfirst
  obtain ⟨obj, hobj, hcounts⟩ := parseUsage_ok settings husage
  exact .usage t data chunk obj identity usage harrives hafter hfirst hread hchoices hobj hcounts hagrees

theorem acceptChunk_step {t next : Transcript} {data : DataBlock} (harrives : Arrives t data.raw)
    (h : acceptChunk settings (arrived t data.raw) data.raw = .ok next) : Step settings t (.event data) next := by
  unfold acceptChunk at h
  obtain ⟨chunk, hread, h⟩ := bind_ok_iff.mp h
  obtain ⟨choices, hchoices, h⟩ := bind_ok_iff.mp h
  obtain ⟨_, hidentity, h⟩ := bind_ok_iff.mp h
  obtain ⟨identity, rfl, hagrees⟩ := validateChunkIdentity_ok settings hidentity
  cases choices with
  | nil => exact acceptUsage_step settings harrives hread (boundedArray_ok hchoices) hagrees h
  | cons value rest =>
    have hrest : rest = [] := by simpa using boundedArray_length hchoices
    subst hrest
    obtain ⟨hbefore, h⟩ := then_ok_iff.mp h
    obtain ⟨_, -, h⟩ := bind_ok_iff.mp h
    rw [demand_ok_iff] at hbefore
    exact acceptChoice_step settings harrives hbefore hread (boundedArray_ok hchoices) hagrees h

theorem acceptEvent_step {t next : Transcript} {data : DataBlock} (harrives : Arrives t data.raw)
    (h : acceptEvent settings (arrived t data.raw) data.raw = .ok next) : Step settings t (.event data) next := by
  unfold acceptEvent at h
  split at h
  · rename_i hdata
    unfold acceptDone at h
    obtain ⟨hafter, h⟩ := then_ok_iff.mp h
    obtain ⟨hrequired, h⟩ := then_ok_iff.mp h
    cases h
    rw [demand_ok_iff] at hafter hrequired
    exact .done t data harrives hdata hafter hrequired
  · exact acceptChunk_step settings harrives h

/-! ## Lines that are accepted -/

theorem acceptComment_ok {t next : Transcript} {line : Str} (h : acceptComment settings t line = .ok next) :
    settings.dialect = .mlxLm0_31 ∧ t.terminalNs = none ∧ (keepalive line).isSome = true ∧
      next = { t with pendingComment := some line } := by
  unfold acceptComment at h
  obtain ⟨hdialect, h⟩ := then_ok_iff.mp h
  obtain ⟨hbefore, h⟩ := then_ok_iff.mp h
  obtain ⟨_, -, h⟩ := bind_ok_iff.mp h
  rw [demand_ok_iff] at hdialect hbefore
  split at h
  · cases h
  · rename_i hkeepalive
    obtain ⟨_, -, h⟩ := bind_ok_iff.mp h
    obtain ⟨_, -, h⟩ := bind_ok_iff.mp h
    obtain ⟨_, -, h⟩ := bind_ok_iff.mp h
    obtain ⟨_, -, h⟩ := bind_ok_iff.mp h
    cases h
    exact ⟨hdialect, hbefore, by rw [hkeepalive]; rfl, rfl⟩

/-- The line of a data field. -/
theorem dataOf_line {line : Str} (h : lit "data:" <+: line) :
    ∃ spaced : Bool, line = lit "data:" ++ (if spaced then [cp 32] else []) ++ dataOf line := by
  obtain ⟨rest, rfl⟩ := h
  have hdrop : (lit "data:" ++ rest).drop 5 = rest := rfl
  unfold dataOf
  simp only [hdrop]
  by_cases hspace : rest.head? = some (cp 32)
  · refine ⟨true, ?_⟩
    obtain ⟨tail, rfl⟩ := List.head?_eq_some_iff.mp hspace
    rw [if_pos hspace]
    rfl
  · refine ⟨false, ?_⟩
    rw [if_neg hspace]
    simp

theorem acceptData_ok {t next : Transcript} {line : Str} (h : acceptData settings t line = .ok next) :
    (∃ spaced : Bool, line = lit "data:" ++ (if spaced then [cp 32] else []) ++ dataOf line) ∧
      next = { t with pendingData := some (dataOf line) } := by
  unfold acceptData at h
  obtain ⟨hfield, h⟩ := then_ok_iff.mp h
  obtain ⟨_, -, h⟩ := bind_ok_iff.mp h
  obtain ⟨_, -, h⟩ := bind_ok_iff.mp h
  cases h
  exact ⟨dataOf_line ((demand_ok_iff _ _ _).mp hfield), rfl⟩

theorem acceptSeparator_comment {t next : Transcript} {raw : Str} (hpending : t.pendingComment = some raw)
    (h : acceptSeparator settings t = .ok next) :
    ∃ now, t.lastTimestamp ≤ now ∧ next = { t with
      pendingComment := none
      comments := t.comments ++ [⟨t.comments.length + 1, raw, now, (encoded raw).length⟩]
      lastTimestamp := now
      readings := t.readings + 1 } := by
  unfold acceptSeparator at h
  rw [hpending] at h
  obtain ⟨⟨now, stamped⟩, hstamp, h⟩ := bind_ok_iff.mp h
  obtain ⟨hlater, rfl⟩ := timestamp_ok settings hstamp
  cases h
  exact ⟨now, hlater, rfl⟩

theorem acceptSeparator_data {t next : Transcript} {text : Str} (hcomment : t.pendingComment = none)
    (hpending : t.pendingData = some text) (h : acceptSeparator settings t = .ok next) :
    ∃ raw : RawSSEEvent, raw.data = text ∧ raw.ordinal = t.events.length + 1 ∧ t.lastTimestamp ≤ raw.receivedNs ∧
      acceptEvent settings (arrived t raw) raw = .ok next := by
  unfold acceptSeparator at h
  split at h
  · rename_i raw hraw
    cases hcomment.symm.trans hraw
  · split at h
    · rename_i hnone
      cases hpending.symm.trans hnone
    · rename_i data hdata
      cases hpending.symm.trans hdata
      obtain ⟨_, -, h⟩ := bind_ok_iff.mp h
      obtain ⟨⟨now, stamped⟩, hstamp, h⟩ := bind_ok_iff.mp h
      obtain ⟨hlater, rfl⟩ := timestamp_ok settings hstamp
      exact ⟨⟨t.events.length + 1, text, now, (encoded text).length⟩, rfl, rfl, hlater, h⟩

/-- What the first line of a block does. -/
theorem acceptLine_idle {t mid : Transcript} {line : Str} (hidle : Idle t) (h : acceptLine settings t line = .ok mid) :
    t.done = false ∧
      (acceptComment settings t line = .ok mid ∨ acceptData settings t line = .ok mid) := by
  unfold acceptLine at h
  split at h
  · cases h
  · rename_i hopen
    refine ⟨by simpa using hopen, ?_⟩
    split at h
    · unfold acceptSeparator at h
      rw [hidle.comment, hidle.data] at h
      cases h
    · rw [hidle.data, hidle.comment, if_neg (by simp)] at h
      split at h
      · exact .inl h
      · exact .inr h

theorem acceptLine_blank {t next : Transcript} (h : acceptLine settings t [] = .ok next) :
    acceptSeparator settings t = .ok next := by
  unfold acceptLine at h
  split at h
  · cases h
  · exact h

/-- A line and a blank line are a block. -/
theorem acceptLines_step {t mid next : Transcript} {line : Str} (hidle : Idle t)
    (hline : acceptLine settings t line = .ok mid) (hblank : acceptLine settings mid [] = .ok next) :
    ∃ block : Block, block.line = line ∧ Step settings t block next := by
  obtain ⟨hopen, hline⟩ := acceptLine_idle settings hidle hline
  have hblank := acceptLine_blank settings hblank
  rcases hline with hline | hline
  · obtain ⟨hdialect, hbefore, hkeepalive, rfl⟩ := acceptComment_ok settings hline
    obtain ⟨now, hlater, rfl⟩ := acceptSeparator_comment settings rfl hblank
    exact ⟨.comment ⟨t.comments.length + 1, line, now, (encoded line).length⟩, rfl,
      .comment t _ hopen hdialect hbefore hkeepalive rfl hlater⟩
  · obtain ⟨⟨spaced, hdata⟩, rfl⟩ := acceptData_ok settings hline
    have hcomment : ({ t with pendingData := some (dataOf line) } : Transcript).pendingComment = none := hidle.comment
    obtain ⟨raw, hraw, hordinal, hlater, h⟩ := acceptSeparator_data settings hcomment rfl hblank
    refine ⟨.event ⟨spaced, raw⟩, ?_, acceptEvent_step settings ⟨hopen, hordinal, hlater⟩ h⟩
    rw [hdata, ← hraw]
    rfl

/-- A block leaves nothing pending. -/
theorem Step.idle {t next : Transcript} {block : Block} (hidle : Idle t) (h : Step settings t block next) :
    Idle next := by
  cases h with
  | comment => exact ⟨hidle.data, rfl⟩
  | content => exact ⟨rfl, hidle.comment⟩
  | terminal => exact ⟨rfl, hidle.comment⟩
  | usage => exact ⟨rfl, hidle.comment⟩
  | done => exact ⟨rfl, hidle.comment⟩

theorem acceptLine_pending {t mid : Transcript} {line : Str} (hidle : Idle t)
    (h : acceptLine settings t line = .ok mid) : mid.pendingData.isSome ∨ mid.pendingComment.isSome := by
  obtain ⟨-, h | h⟩ := acceptLine_idle settings hidle h
  · obtain ⟨-, -, -, rfl⟩ := acceptComment_ok settings h
    exact .inr rfl
  · obtain ⟨-, rfl⟩ := acceptData_ok settings h
    exact .inl rfl

/-- Only a blank line ends a block. -/
theorem acceptLine_end {t next : Transcript} {line : Str} (hpending : t.pendingData.isSome ∨ t.pendingComment.isSome)
    (h : acceptLine settings t line = .ok next) : line = [] := by
  unfold acceptLine at h
  split at h
  · cases h
  · split_ifs at h with hempty
    · exact hempty
    · cases h

/-- The lines of an accepted response are blocks. -/
theorem run_of_lines (lines : List Str) {t last : Transcript} (hidle : Idle t) (hlast : Idle last)
    (h : lines.foldlM (acceptLine settings) t = .ok last) :
    ∃ blocks : List Block, lines = blocks.flatMap (fun block => [block.line, []]) ∧ Run settings t blocks last := by
  match lines with
  | [] =>
    cases h
    exact ⟨[], rfl, .nil t⟩
  | [line] =>
    rw [List.foldlM_cons, bind_ok_iff] at h
    obtain ⟨mid, hmid, h⟩ := h
    cases h
    have hpending := acceptLine_pending settings hidle hmid
    simp [hlast.data, hlast.comment] at hpending
  | line :: blank :: rest =>
    rw [List.foldlM_cons, bind_ok_iff] at h
    obtain ⟨mid, hmid, h⟩ := h
    rw [List.foldlM_cons, bind_ok_iff] at h
    obtain ⟨next, hnext, h⟩ := h
    have hblank := acceptLine_end settings (acceptLine_pending settings hidle hmid) hnext
    subst hblank
    obtain ⟨block, hline, hstep⟩ := acceptLines_step settings hidle hmid hnext
    obtain ⟨blocks, hblocks, hrun⟩ := run_of_lines rest (hstep.idle settings hidle) hlast h
    refine ⟨block :: blocks, ?_, .cons hstep hrun⟩
    rw [List.flatMap_cons, ← hblocks, hline]
    rfl

end Steps

end TurnVector.CrossEngine.Sse
