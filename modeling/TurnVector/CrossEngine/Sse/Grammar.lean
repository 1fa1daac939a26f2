import TurnVector.CrossEngine.Sse.Steps

/-! # The grammar of an accepted response -/

namespace TurnVector.CrossEngine.Sse

open Python Json Contracts

section Grammar

variable (settings : Settings)

/-! ## The grammar -/

/-- A chunk without a finish reason. -/
def IsContent (raw : RawSSEEvent) : Prop :=
  ∃ chunk delta, readChunk settings raw.data = .ok chunk ∧ choiceOf chunk = some (.null, delta)

def IsTerminal (raw : RawSSEEvent) (reason : Str) : Prop :=
  ∃ chunk delta, readChunk settings raw.data = .ok chunk ∧ choiceOf chunk = some (.str reason, delta) ∧
    NoOutput settings delta

def IsUsage (raw : RawSSEEvent) (usage : Usage) : Prop :=
  ∃ chunk obj, readChunk settings raw.data = .ok chunk ∧ member chunk "choices" = .arr [] ∧
    member chunk "usage" = .obj obj ∧ Counts obj usage

/-- A keep-alive comment, or a content chunk. -/
def IsOpening : Block → Prop
  | .comment raw => settings.dialect = .mlxLm0_31 ∧ (keepalive raw.line).isSome = true
  | .event data => IsContent settings data.raw

/-- A response as the grammar has it. -/
structure Response where
  opening : List Block
  terminal : DataBlock
  finishReason : Str
  usage : Option (DataBlock × Usage)
  last : DataBlock
  opening_ok : ∀ block ∈ opening, IsOpening settings block
  terminal_ok : IsTerminal settings terminal.raw finishReason
  usage_ok : ∀ u, usage = some u → IsUsage settings u.1.raw u.2
  usage_required : settings.requireUsage = true → usage ≠ none
  last_ok : last.raw.data = lit "[DONE]"

variable {settings}

/-- The chunks that come after the content. -/
def Response.closing (response : Response settings) : List DataBlock :=
  response.terminal :: response.usage.toList.map Prod.fst

def Response.blocks (response : Response settings) : List Block :=
  response.opening ++ response.closing.map .event ++ [.event response.last]

def Response.contents (response : Response settings) : List RawSSEEvent := response.opening.filterMap Block.event?

/-- The events that hold a chunk. -/
def Response.chunks (response : Response settings) : List RawSSEEvent :=
  response.contents ++ response.closing.map DataBlock.raw

variable (settings)

/-- What a content chunk adds to an output. -/
def deltaOutput (field : String) (raw : RawSSEEvent) : Bytes :=
  match readChunk settings raw.data with
  | .ok chunk => (choiceOf chunk).elim [] fun choice => outputOf choice.2 field
  | .error _ => []

variable {settings}

/-- What is returned for a response. -/
structure Response.Yields (response : Response settings) (r : ParsedChatCompletion) : Prop where
  events : r.rawEvents = response.blocks.filterMap Block.event?
  comments : r.rawComments = response.blocks.filterMap Block.comment?
  eventOrdinals : r.rawEvents.map RawSSEEvent.ordinal = List.range' 1 r.rawEvents.length
  commentOrdinals : r.rawComments.map RawSSEComment.ordinal = List.range' 1 r.rawComments.length
  visible : r.visibleOutput = response.contents.flatMap (deltaOutput settings "content")
  reasoning : r.reasoningOutput = response.contents.flatMap (deltaOutput settings (reasoningField settings))
  finishReason : r.finishReason = response.finishReason
  terminalNs : r.terminalNs = response.terminal.raw.receivedNs
  contentEventNs : r.contentEventNs =
    (response.contents.filter fun raw => deltaOutput settings "content" raw ≠ []).map RawSSEEvent.receivedNs
  ordered : r.contentEventNs.Pairwise (· ≤ ·)
  bounded : ∀ ns ∈ r.contentEventNs, ns ≤ r.terminalNs
  usage : r.usage = response.usage.map Prod.snd
  reconciles : ∀ usage, r.usage = some usage → usage.promptTokens + usage.completionTokens = usage.totalTokens
  identity : ∀ field ∈ identityFields, ∀ raw ∈ response.chunks, ∀ other ∈ response.chunks, ∀ chunk otherChunk,
    readChunk settings raw.data = .ok chunk → readChunk settings other.data = .ok otherChunk →
      ∀ value otherValue, Identifies chunk field value → Identifies otherChunk field otherValue → value = otherValue

variable (settings)

/-! ## What a step adds -/

theorem deltaOutput_eq {raw : RawSSEEvent} {chunk delta : List (Str × Json)} {finish : Json} (field : String)
    (hread : readChunk settings raw.data = .ok chunk) (hchoice : choiceOf chunk = some (finish, delta)) :
    deltaOutput settings field raw = outputOf delta field := by
  simp [deltaOutput, hread, hchoice]

theorem appendOutput_flatten (target : List Bytes) (output : Bytes) :
    (appendOutput target output).flatten = target.flatten ++ output := by
  unfold appendOutput
  split <;> simp [*]

theorem Step.records {t next : Transcript} {block : Block} (h : Step settings t block next) :
    next.events = t.events ++ block.event?.toList ∧ next.comments = t.comments ++ block.comment?.toList := by
  cases h <;> simp [arrived, Block.event?, Block.comment?]

theorem Run.records {t last : Transcript} {blocks : List Block} (h : Run settings t blocks last) :
    last.events = t.events ++ blocks.filterMap Block.event? ∧
      last.comments = t.comments ++ blocks.filterMap Block.comment? := by
  induction h with
  | nil => simp
  | cons hstep hrun ih =>
    obtain ⟨hevents, hcomments⟩ := hstep.records settings
    rw [ih.1, ih.2, hevents, hcomments, List.filterMap_cons, List.filterMap_cons]
    constructor
    · cases Block.event? _ <;> simp
    · cases Block.comment? _ <;> simp

/-- A property that every step keeps holds after a run. -/
theorem Run.induct {P : Transcript → Prop} {t last : Transcript} {blocks : List Block}
    (hkeep : ∀ t block next, P t → Step settings t block next → P next) (ht : P t)
    (h : Run settings t blocks last) : P last := by
  induction h with
  | nil => exact ht
  | cons hstep _ ih => exact ih (hkeep _ _ _ ht hstep)

/-- Ordinals count from 1. -/
structure Numbered (t : Transcript) : Prop where
  events : t.events.map RawSSEEvent.ordinal = List.range' 1 t.events.length
  comments : t.comments.map RawSSEComment.ordinal = List.range' 1 t.comments.length

theorem numbered_append {α : Type} {ordinal : α → Nat} {xs : List α} {x : α}
    (h : xs.map ordinal = List.range' 1 xs.length) (hx : ordinal x = xs.length + 1) :
    (xs ++ [x]).map ordinal = List.range' 1 (xs ++ [x]).length := by
  rw [List.map_append, h, List.length_append, List.length_singleton, List.range'_concat, List.map_singleton, hx]
  simp [Nat.add_comm]

theorem Step.numbered {t next : Transcript} {block : Block} (ht : Numbered t) (h : Step settings t block next) :
    Numbered next := by
  cases h with
  | comment raw _ _ _ _ hordinal => exact ⟨ht.events, numbered_append ht.comments hordinal⟩
  | content data chunk delta identity roleSeen harrives =>
    exact ⟨numbered_append ht.events harrives.ordinal, ht.comments⟩
  | terminal data chunk delta identity reason harrives =>
    exact ⟨numbered_append ht.events harrives.ordinal, ht.comments⟩
  | usage data chunk obj identity usage harrives =>
    exact ⟨numbered_append ht.events harrives.ordinal, ht.comments⟩
  | done data harrives => exact ⟨numbered_append ht.events harrives.ordinal, ht.comments⟩

/-- Content comes in order, and not after the terminal chunk. -/
structure Timed (t : Transcript) : Prop where
  ordered : t.contentEventNs.Pairwise (· ≤ ·)
  past : ∀ ns ∈ t.contentEventNs, ns ≤ t.lastTimestamp
  bounded : ∀ terminalNs, t.terminalNs = some terminalNs → ∀ ns ∈ t.contentEventNs, ns ≤ terminalNs

theorem appendTime_ordered {times : List Int} {now : Int} (content : Bytes) (hordered : times.Pairwise (· ≤ ·))
    (hpast : ∀ ns ∈ times, ns ≤ now) :
    (appendTime times content now).Pairwise (· ≤ ·) ∧ ∀ ns ∈ appendTime times content now, ns ≤ now := by
  unfold appendTime
  split
  · exact ⟨hordered, hpast⟩
  · constructor
    · exact List.pairwise_append.mpr ⟨hordered, List.pairwise_singleton _ _, by simpa using hpast⟩
    · rw [List.forall_mem_append]
      exact ⟨hpast, by simp⟩

theorem Step.timed {t next : Transcript} {block : Block} (ht : Timed t) (h : Step settings t block next) :
    Timed next := by
  cases h with
  | comment raw _ _ _ _ _ hlater =>
    exact ⟨ht.ordered, fun ns hns => (ht.past ns hns).trans hlater, ht.bounded⟩
  | content data chunk delta identity roleSeen harrives hbefore =>
    have hpast : ∀ ns ∈ t.contentEventNs, ns ≤ data.raw.receivedNs := fun ns hns =>
      (ht.past ns hns).trans harrives.later
    obtain ⟨hordered, htimes⟩ := appendTime_ordered (outputOf delta "content") ht.ordered hpast
    refine ⟨hordered, htimes, ?_⟩
    intro terminalNs hterminal
    cases hbefore.symm.trans hterminal
  | terminal data chunk delta identity reason harrives =>
    have hpast : ∀ ns ∈ t.contentEventNs, ns ≤ data.raw.receivedNs := fun ns hns =>
      (ht.past ns hns).trans harrives.later
    refine ⟨ht.ordered, hpast, fun terminalNs hterminal => ?_⟩
    cases hterminal
    exact hpast
  | usage data chunk obj identity usage harrives =>
    exact ⟨ht.ordered, fun ns hns => (ht.past ns hns).trans harrives.later, ht.bounded⟩
  | done data harrives => exact ⟨ht.ordered, fun ns hns => (ht.past ns hns).trans harrives.later, ht.bounded⟩

/-! ## After the terminal chunk -/

/-- What the terminal chunk settles. -/
structure Settled (t last : Transcript) : Prop where
  visible : last.visible = t.visible
  reasoning : last.reasoning = t.reasoning
  contentEventNs : last.contentEventNs = t.contentEventNs
  terminalNs : last.terminalNs = t.terminalNs
  finishReason : last.finishReason = t.finishReason

theorem Step.settled {t next : Transcript} {block : Block} (h : Step settings t block next)
    (hafter : t.terminalNs ≠ none) : Settled t next := by
  cases h with
  | comment raw _ _ hbefore => exact absurd hbefore hafter
  | content data chunk delta identity roleSeen _ hbefore => exact absurd hbefore hafter
  | terminal data chunk delta identity reason _ hbefore => exact absurd hbefore hafter
  | usage => exact ⟨rfl, rfl, rfl, rfl, rfl⟩
  | done => exact ⟨rfl, rfl, rfl, rfl, rfl⟩

theorem Run.settled {t last : Transcript} {blocks : List Block} (h : Run settings t blocks last)
    (hafter : t.terminalNs ≠ none) : Settled t last := by
  induction h with
  | nil => exact ⟨rfl, rfl, rfl, rfl, rfl⟩
  | cons hstep _ ih =>
    have hone := hstep.settled settings hafter
    have hrest := ih (by rw [hone.terminalNs]; exact hafter)
    exact ⟨hrest.visible.trans hone.visible, hrest.reasoning.trans hone.reasoning,
      hrest.contentEventNs.trans hone.contentEventNs, hrest.terminalNs.trans hone.terminalNs,
      hrest.finishReason.trans hone.finishReason⟩

theorem Step.extends {t next : Transcript} {block : Block} (h : Step settings t block next) :
    Extends t.identity next.identity := by
  cases h with
  | comment => exact .refl _
  | content _ _ _ _ _ _ _ _ _ hagrees => exact hagrees.kept
  | terminal _ _ _ _ _ _ _ _ _ _ hagrees => exact hagrees.kept
  | usage _ _ _ _ _ _ _ _ _ _ _ _ hagrees => exact hagrees.kept
  | done => exact .refl _

theorem Run.extends {t last : Transcript} {blocks : List Block} (h : Run settings t blocks last) :
    Extends t.identity last.identity := by
  induction h with
  | nil => exact .refl _
  | cons hstep _ ih => exact (hstep.extends settings).trans ih

/-- What the chunk of an event says of the response is known. -/
def Identified (identity : List (Str × Json)) (raw : RawSSEEvent) : Prop :=
  ∀ chunk, readChunk settings raw.data = .ok chunk → ∀ field ∈ identityFields, ∀ value,
    Identifies chunk field value → identity.lookup (lit field) = some value

theorem Agrees.identified {known chunk identity last : List (Str × Json)} {raw : RawSSEEvent}
    (h : Agrees known chunk identity) (hread : readChunk settings raw.data = .ok chunk)
    (hlast : Extends identity last) : Identified settings last raw := by
  intro other hother field hfield value hvalue
  cases hread.symm.trans hother
  exact hlast _ _ (h.same field hfield value hvalue)

/-- Nothing comes after `[DONE]`. -/
theorem Run.of_done {t last : Transcript} {blocks : List Block} (h : Run settings t blocks last)
    (hdone : t.done = true) : blocks = [] ∧ last = t := by
  cases h with
  | nil => exact ⟨rfl, rfl⟩
  | cons hstep _ =>
    have hopen : t.done = false := by
      cases hstep with
      | comment _ hopen => exact hopen
      | content _ _ _ _ _ harrives => exact harrives.notDone
      | terminal _ _ _ _ _ harrives => exact harrives.notDone
      | usage _ _ _ _ _ harrives => exact harrives.notDone
      | done _ harrives => exact harrives.notDone
    rw [hopen] at hdone
    cases hdone

/-- After the usage chunk comes `[DONE]`. -/
theorem Run.of_usage {t last : Transcript} {blocks : List Block} (h : Run settings t blocks last)
    (hafter : t.terminalNs ≠ none) (husage : t.usage ≠ none) (hopen : t.done = false) (hdone : last.done = true) :
    ∃ data : DataBlock, blocks = [.event data] ∧ data.raw.data = lit "[DONE]" ∧ last.usage = t.usage := by
  cases h with
  | nil =>
    rw [hopen] at hdone
    cases hdone
  | cons hstep hrun =>
    cases hstep with
    | comment raw _ _ hbefore => exact absurd hbefore hafter
    | content data chunk delta identity roleSeen _ hbefore => exact absurd hbefore hafter
    | terminal data chunk delta identity reason _ hbefore => exact absurd hbefore hafter
    | usage data chunk obj identity usage _ _ hfirst => exact absurd hfirst husage
    | done data _ hdata =>
      obtain ⟨rfl, rfl⟩ := hrun.of_done settings rfl
      exact ⟨data, rfl, hdata, rfl⟩

/-- After the terminal chunk come at most one usage chunk, and `[DONE]`. -/
theorem Run.of_terminal {t last : Transcript} {blocks : List Block} (h : Run settings t blocks last)
    (hafter : t.terminalNs ≠ none) (hfirst : t.usage = none) (hopen : t.done = false) (hdone : last.done = true) :
    ∃ (usage : Option (DataBlock × Usage)) (data : DataBlock),
      blocks = usage.toList.map (fun u => .event u.1) ++ [.event data] ∧ data.raw.data = lit "[DONE]" ∧
        (∀ u, usage = some u → IsUsage settings u.1.raw u.2 ∧ Identified settings last.identity u.1.raw) ∧
        (settings.requireUsage = true → usage ≠ none) ∧ last.usage = usage.map Prod.snd := by
  cases h with
  | nil =>
    rw [hopen] at hdone
    cases hdone
  | cons hstep hrun =>
    cases hstep with
    | comment raw _ _ hbefore => exact absurd hbefore hafter
    | content data chunk delta identity roleSeen _ hbefore => exact absurd hbefore hafter
    | terminal data chunk delta identity reason _ hbefore => exact absurd hbefore hafter
    | usage data chunk obj identity usage _ _ _ hread hchoices husage hcounts hagrees =>
      have hlast := hrun.extends settings
      obtain ⟨done, rfl, hdata, hsame⟩ := hrun.of_usage settings hafter (by simp) hopen hdone
      refine ⟨some (data, usage), done, rfl, hdata, ?_, by simp, hsame⟩
      rintro u ⟨rfl⟩
      exact ⟨⟨chunk, obj, hread, hchoices, husage, hcounts⟩, hagrees.identified settings hread hlast⟩
    | done data _ hdata _ hrequired =>
      obtain ⟨rfl, rfl⟩ := hrun.of_done settings rfl
      refine ⟨none, data, rfl, hdata, by simp, ?_, hfirst⟩
      exact fun hrequire => absurd hfirst (hrequired hrequire)

/-! ## The whole response -/

/-- What a run that ends with `[DONE]` adds to a transcript. -/
structure Response.Completes {settings : Settings} (response : Response settings) (t last : Transcript) : Prop where
  visible : last.visible.flatten = t.visible.flatten ++ response.contents.flatMap (deltaOutput settings "content")
  reasoning : last.reasoning.flatten =
    t.reasoning.flatten ++ response.contents.flatMap (deltaOutput settings (reasoningField settings))
  contentEventNs : last.contentEventNs = t.contentEventNs ++
    (response.contents.filter fun raw => deltaOutput settings "content" raw ≠ []).map RawSSEEvent.receivedNs
  terminalNs : last.terminalNs = some response.terminal.raw.receivedNs
  finishReason : last.finishReason = some response.finishReason
  usage : last.usage = response.usage.map Prod.snd
  identified : ∀ raw ∈ response.chunks, Identified settings last.identity raw

/-- A response with one more block before it. -/
def Response.cons {settings : Settings} (response : Response settings) (block : Block)
    (hblock : IsOpening settings block) : Response settings :=
  { response with
    opening := block :: response.opening
    opening_ok := List.forall_mem_cons.mpr ⟨hblock, response.opening_ok⟩ }

/-- One content chunk more. -/
theorem Response.Completes.content {response : Response settings} {t mid last : Transcript} {data : DataBlock}
    {chunk delta : List (Str × Json)} (h : response.Completes mid last)
    (hread : readChunk settings data.raw.data = .ok chunk) (hchoice : choiceOf chunk = some (.null, delta))
    (hvisible : mid.visible = appendOutput t.visible (outputOf delta "content"))
    (hreasoning : mid.reasoning = appendOutput t.reasoning (outputOf delta (reasoningField settings)))
    (htimes : mid.contentEventNs = appendTime t.contentEventNs (outputOf delta "content") data.raw.receivedNs)
    (hidentified : Identified settings last.identity data.raw) :
    (response.cons (.event data) ⟨chunk, delta, hread, hchoice⟩).Completes t last := by
  have houtput := fun field => deltaOutput_eq settings field hread hchoice
  refine ⟨?_, ?_, ?_, h.terminalNs, h.finishReason, h.usage, ?_⟩
  · show _ = _ ++ (data.raw :: response.contents).flatMap _
    rw [h.visible, hvisible, appendOutput_flatten, List.flatMap_cons, houtput, List.append_assoc]
  · show _ = _ ++ (data.raw :: response.contents).flatMap _
    rw [h.reasoning, hreasoning, appendOutput_flatten, List.flatMap_cons, houtput, List.append_assoc]
  · show _ = _ ++ ((data.raw :: response.contents).filter _).map _
    rw [h.contentEventNs, htimes, List.filter_cons, houtput]
    unfold appendTime
    split <;> simp [*]
  · exact List.forall_mem_cons.mpr ⟨hidentified, h.identified⟩

theorem Run.completes {t last : Transcript} {blocks : List Block} (h : Run settings t blocks last)
    (hbefore : t.terminalNs = none) (hfirst : t.usage = none) (hopen : t.done = false) (hdone : last.done = true) :
    ∃ response : Response settings, response.blocks = blocks ∧ response.Completes t last := by
  induction h with
  | nil =>
    rw [hopen] at hdone
    cases hdone
  | cons hstep hrun ih =>
    cases hstep with
    | comment raw _ hdialect _ hkeepalive =>
      obtain ⟨response, hblocks, hcompletes⟩ := ih hbefore hfirst hopen hdone
      refine ⟨response.cons (.comment raw) ⟨hdialect, hkeepalive⟩, ?_, ?_⟩
      · rw [← hblocks]
        rfl
      · exact ⟨hcompletes.visible, hcompletes.reasoning, hcompletes.contentEventNs, hcompletes.terminalNs,
          hcompletes.finishReason, hcompletes.usage, hcompletes.identified⟩
    | content data chunk delta identity roleSeen harrives _ hread hchoice hagrees =>
      obtain ⟨response, hblocks, hcompletes⟩ := ih hbefore hfirst hopen hdone
      refine ⟨response.cons (.event data) ⟨chunk, delta, hread, hchoice⟩, ?_, ?_⟩
      · rw [← hblocks]
        rfl
      · have hidentified := hagrees.identified settings hread (hrun.extends settings)
        exact hcompletes.content settings hread hchoice rfl rfl rfl hidentified
    | terminal data chunk delta identity reason harrives _ hread hchoice hnone hagrees =>
      have hsettled := hrun.settled settings (by simp)
      have hlast := hrun.extends settings
      obtain ⟨usage, done, rfl, hdata, husage, hrequired, hsame⟩ :=
        hrun.of_terminal settings (by simp) hfirst hopen hdone
      refine ⟨⟨[], data, reason, usage, done, by simp, ⟨chunk, delta, hread, hchoice, hnone⟩,
        fun u hu => (husage u hu).1, hrequired, hdata⟩, ?_, ?_⟩
      · simp [Response.blocks, Response.closing]
      · refine ⟨?_, ?_, ?_, hsettled.terminalNs, hsettled.finishReason, hsame, ?_⟩
        · simp [Response.contents, hsettled.visible, arrived]
        · simp [Response.contents, hsettled.reasoning, arrived]
        · simp [Response.contents, hsettled.contentEventNs, arrived]
        · intro raw hraw
          rcases List.mem_cons.mp hraw with rfl | hraw
          · exact hagrees.identified settings hread hlast
          · obtain ⟨block, hblock, rfl⟩ := List.mem_map.mp hraw
            obtain ⟨u, hu, rfl⟩ := List.mem_map.mp hblock
            exact (husage u (Option.mem_toList.mp hu)).2
    | usage data chunk obj identity usage _ hafter => exact absurd hbefore hafter
    | done data _ _ hafter => exact absurd hbefore hafter

/-! ## The lines of a response -/

theorem takeLines_text (text : Str) :
    text = (takeLines text).1.flatMap (fun line => line ++ [cp 10]) ++ (takeLines text).2 := by
  induction text with
  | nil => rfl
  | cons c text ih =>
    rw [takeLines]
    split
    · rename_i hc
      rw [hc, List.flatMap_cons, List.nil_append, List.singleton_append, List.cons_append, ← ih]
    · split
      · rename_i rest heq
        rw [heq] at ih
        simpa using ih
      · rename_i line lines rest heq
        rw [heq] at ih
        simpa using ih

/-- Empty chunks are passed over. -/
theorem foldlM_feed_nonempty (parser : SSEParser) (chunks : List Bytes) :
    chunks.foldlM (feed settings) parser = (chunks.filter (· ≠ [])).foldlM (feed settings) parser := by
  induction chunks generalizing parser with
  | nil => rfl
  | cons chunk chunks ih =>
    by_cases hchunk : chunk = []
    · rw [List.filter_cons_of_neg (by simpa using hchunk), List.foldlM_cons]
      unfold feed
      rw [if_pos hchunk]
      exact ih parser
    · rw [List.filter_cons_of_pos (by simpa using hchunk), List.foldlM_cons, List.foldlM_cons]
      exact bind_congr fun next => ih next

theorem finish_ok {parser : SSEParser} {r : ParsedChatCompletion} (h : finish settings parser = .ok r) :
    parser.buffer = [] ∧ parser.text = [] ∧ Idle parser.transcript ∧ parser.transcript.done = true ∧
      ∃ terminalNs finishReason, parser.transcript.terminalNs = some terminalNs ∧
        parser.transcript.finishReason = some finishReason ∧
        r = ⟨parser.transcript.visible.flatten, parser.transcript.reasoning.flatten, finishReason,
          parser.transcript.usage, terminalNs, parser.transcript.contentEventNs, parser.transcript.events,
          parser.responseBytes, settings.dialect, settings.httpVersion, parser.transcript.comments⟩ := by
  unfold finish at h
  obtain ⟨hbuffer, h⟩ := then_ok_iff.mp h
  obtain ⟨hpending, h⟩ := then_ok_iff.mp h
  rw [demand_ok_iff] at hbuffer hpending
  obtain ⟨htext, hdata, hcomment⟩ := hpending
  split at h
  · rename_i terminalNs finishReason hterminal hfinish
    obtain ⟨hdone, h⟩ := then_ok_iff.mp h
    obtain ⟨_, -, h⟩ := bind_ok_iff.mp h
    cases h
    exact ⟨hbuffer, htext, ⟨hdata, hcomment⟩, (demand_ok_iff _ _ _).mp hdone, terminalNs, finishReason, hterminal,
      hfinish, rfl⟩
  · cases h

/-- An accepted response is a run of blocks. -/
theorem run_of_parse (chunks : List Bytes) (r : ParsedChatCompletion) (h : parse settings chunks = .ok r) :
    ∃ blocks parser, chunks.flatten = written blocks ∧ Run settings .new blocks parser.transcript ∧
      finish settings parser = .ok r := by
  have hsame : parse settings chunks = parse settings (chunks.filter (· ≠ [])) := by
    unfold parse
    rw [foldlM_feed_nonempty]
  rw [hsame] at h
  rw [← List.flatten_filter_ne_nil]
  have hnonempty : ∀ chunk ∈ chunks.filter (· ≠ []), chunk ≠ [] := by simp
  generalize chunks.filter (· ≠ []) = pieces at h hnonempty
  cases pieces with
  | nil => cases h
  | cons piece pieces =>
    obtain ⟨parser, hparser, hfinish⟩ := (parse_feedMore settings piece pieces hnonempty r).mp h
    obtain ⟨hbuffer, htext, hidle, -⟩ := finish_ok settings hfinish
    obtain ⟨-, -, decoded, hdecoded, -, hleft, hlines⟩ := (feedMore_ok_iff settings _ parser _).mp hparser
    obtain ⟨blocks, hblocks, hrun⟩ := run_of_lines settings _ ⟨rfl, rfl⟩ hidle hlines
    refine ⟨blocks, parser, ?_, hrun, hfinish⟩
    rw [hbuffer] at hdecoded
    have hwritten := decodeStateful_written _ _ _ hdecoded
    have hnone : (takeLines decoded).2 = [] := hleft.symm.trans htext
    have hdecodedText := takeLines_text decoded
    rw [hnone, List.append_nil, show (takeLines decoded).1 = _ from hblocks, List.flatMap_assoc] at hdecodedText
    have hbytes : (piece :: pieces).flatten = decoded.flatMap utf8Char := hwritten.trans (List.append_nil _)
    unfold written encoded
    rw [hbytes, hdecodedText]
    simp [List.flatMap_assoc]

/-- An accepted response has the shape of the grammar, and what is returned is what its chunks hold. -/
theorem parse_grammar (chunks : List Bytes) (r : ParsedChatCompletion) (h : parse settings chunks = .ok r) :
    ∃ response : Response settings, chunks.flatten = written response.blocks ∧ response.Yields r := by
  obtain ⟨blocks, parser, hwritten, hrun, hfinish⟩ := run_of_parse settings chunks r h
  obtain ⟨-, -, -, hdone, terminalNs, finishReason, hterminal, hreason, rfl⟩ := finish_ok settings hfinish
  obtain ⟨response, rfl, hcompletes⟩ := hrun.completes settings rfl rfl rfl hdone
  obtain ⟨hevents, hcomments⟩ := hrun.records settings
  have hnumbered := hrun.induct settings (fun _ _ _ ht hstep => hstep.numbered settings ht) ⟨rfl, rfl⟩
  have hnew : Timed .new := ⟨.nil, by simp [Transcript.new], by simp [Transcript.new]⟩
  have htimed := hrun.induct settings (fun _ _ _ ht hstep => hstep.timed settings ht) hnew
  refine ⟨response, hwritten, hevents, hcomments, hnumbered.events, hnumbered.comments, hcompletes.visible,
    hcompletes.reasoning, ?_, ?_, hcompletes.contentEventNs, htimed.ordered, htimed.bounded terminalNs hterminal,
    hcompletes.usage, ?_, ?_⟩
  · exact Option.some.inj (hreason.symm.trans hcompletes.finishReason)
  · exact Option.some.inj (hterminal.symm.trans hcompletes.terminalNs)
  · intro usage husage
    obtain ⟨u, hu, rfl⟩ := Option.map_eq_some_iff.mp (hcompletes.usage.symm.trans husage)
    obtain ⟨_, _, -, -, -, hcounts⟩ := response.usage_ok u hu
    exact hcounts.reconciles
  · intro field hfield raw hraw other hother chunk otherChunk hchunk hotherChunk value otherValue hvalue hotherValue
    have hone := hcompletes.identified raw hraw chunk hchunk field hfield value hvalue
    have htwo := hcompletes.identified other hother otherChunk hotherChunk field hfield otherValue hotherValue
    exact Option.some.inj (hone.symm.trans htwo)

end Grammar

/-! ## A response -/

def plainSettings : Settings := ⟨.strictV1, true, 4096, 1024, none, fun n => .int n, ⟨some 4300, some 900⟩⟩

def sampleText : Str :=
  lit "data: \x7b\"choices\":[\x7b\"index\":0,\"delta\":\x7b\"content\":\"hi\"\x7d,\"finish_reason\":null\x7d]\x7d" ++
    [cp 10, cp 10] ++
  lit "data:\x7b\"choices\":[\x7b\"index\":0,\"delta\":\x7b\x7d,\"finish_reason\":\"stop\"\x7d]\x7d" ++
    [cp 10, cp 10] ++
  lit "data: \x7b\"choices\":[],\"usage\":\x7b\"prompt_tokens\":1,\"completion_tokens\":2,\"total_tokens\":3\x7d\x7d" ++
    [cp 10, cp 10] ++
  lit "data: [DONE]" ++ [cp 10, cp 10]

theorem sample_grammar : ∃ r, parse plainSettings [encoded sampleText] = .ok r ∧
    ∃ response : Response plainSettings, [encoded sampleText].flatten = written response.blocks ∧
      response.Yields r := by
  obtain ⟨r, hr⟩ := ok_of_isSome (parse plainSettings [encoded sampleText]) (by decide +kernel)
  exact ⟨r, hr, parse_grammar plainSettings _ r hr⟩

end TurnVector.CrossEngine.Sse
