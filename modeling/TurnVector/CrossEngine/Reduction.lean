import TurnVector.CrossEngine.Serving

/-! # Reducing a failed request

When a measured request comes back with metrics: the observation of a failure has no server counts, and the reducer runs
on it outside the `try`.
-/

namespace TurnVector.CrossEngine

open Python Json Contracts

/-! ## What the reducer accepts -/

def Counted (n : Int) : Prop := 0 ≤ n ∧ n ≤ maxInteger

instance (n : Int) : Decidable (Counted n) := inferInstanceAs (Decidable (_ ∧ _))

theorem optional_ok_iff {α β : Type} (value : Option α) (read : α → Except Raised β) :
    (∃ b, optional value read = .ok b) ↔ ∀ a, value = some a → ∃ b, read a = .ok b := by
  cases value with
  | none => simp [optional]
  | some a =>
    simp only [optional, Option.some.injEq, forall_eq']
    cases read a with
    | error e => simp [Except.map]
    | ok b => simp [Except.map]

theorem optional_value {α : Type} (value b : Option α) (read : α → Except Raised α)
    (hread : ∀ a c, read a = .ok c → c = a) (h : optional value read = .ok b) : b = value := by
  cases value with
  | none =>
    cases h
    rfl
  | some a =>
    simp only [optional] at h
    cases hr : read a with
    | error e =>
      rw [hr] at h
      cases h
    | ok c =>
      rw [hr] at h
      cases h
      rw [hread a c hr]

theorem exists_integer_iff (n : Int) (place : Str) (minimum maximum : Int) :
    (∃ m, integer (.int n) place minimum maximum = .ok m) ↔ minimum ≤ n ∧ n ≤ maximum := by
  simp [integer_ok_iff]

theorem integer_value (n m : Int) (place : Str) (minimum maximum : Int)
    (h : integer (.int n) place minimum maximum = .ok m) : m = n :=
  ((integer_ok_iff n m place minimum maximum).mp h).1.symm

/-- The counts that an observation has to carry under its authority. -/
structure CountsKnown (observation : RequestObservation) : Prop where
  authority : observation.tokenAuthority ∈ tokenAuthorities
  bounded : ∀ n, some n ∈ [observation.benchmarkInputTokens, observation.benchmarkOutputTokens,
    observation.serverInputTokens, observation.serverOutputTokens] → Counted n
  serverUsage : observation.tokenAuthority = lit "server_usage" →
    observation.serverInputTokens ≠ none ∧ observation.serverOutputTokens ≠ none
  benchmarkTokenizer : observation.tokenAuthority = lit "benchmark_tokenizer" →
    observation.benchmarkInputTokens ≠ none ∧
      (observation.wireComplete = true → observation.benchmarkOutputTokens ≠ none)
  both : observation.tokenAuthority = lit "both" →
    observation.benchmarkInputTokens ≠ none ∧
      (observation.wireComplete = true → observation.benchmarkOutputTokens ≠ none ∧
        observation.benchmarkInputTokens = observation.serverInputTokens ∧
        observation.benchmarkOutputTokens = observation.serverOutputTokens)

theorem reject_ne_ok {α : Type} (text : Str) (a : α) : (reject text : Except Raised α) ≠ .ok a := by
  simp [reject]

theorem optionalTokens_ok_iff (value : Option Int) (place : String) :
    (∃ b, optionalTokens value place = .ok b) ↔ ∀ n, value = some n → Counted n := by
  unfold optionalTokens
  rw [optional_ok_iff]
  simp only [exists_integer_iff, Counted]

theorem authorizedCounts_server (o : RequestObservation) (h : o.tokenAuthority = lit "server_usage") :
    (∃ counts, authorizedCounts o = .ok counts) ↔ o.serverInputTokens ≠ none ∧ o.serverOutputTokens ≠ none := by
  unfold authorizedCounts
  simp only [if_pos h]
  split
  · simp [reject]
    grind
  · simp
    grind

theorem authorizedCounts_benchmark (o : RequestObservation) (h : o.tokenAuthority = lit "benchmark_tokenizer") :
    (∃ counts, authorizedCounts o = .ok counts) ↔
      o.benchmarkInputTokens ≠ none ∧ (o.wireComplete = true → o.benchmarkOutputTokens ≠ none) := by
  have hserver : o.tokenAuthority ≠ lit "server_usage" := by
    rw [h]
    decide
  unfold authorizedCounts
  simp only [if_neg hserver, if_pos h]
  split
  · simp_all [reject]
  · split
    · simp_all [reject]
    · simp_all

theorem authorizedCounts_both (o : RequestObservation) (h : o.tokenAuthority = lit "both") :
    (∃ counts, authorizedCounts o = .ok counts) ↔ o.benchmarkInputTokens ≠ none ∧
      (o.wireComplete = true → o.benchmarkOutputTokens ≠ none ∧ o.benchmarkInputTokens = o.serverInputTokens ∧
        o.benchmarkOutputTokens = o.serverOutputTokens) := by
  have hserver : o.tokenAuthority ≠ lit "server_usage" := by
    rw [h]
    decide
  have hbenchmark : o.tokenAuthority ≠ lit "benchmark_tokenizer" := by
    rw [h]
    decide
  unfold authorizedCounts
  simp only [if_neg hserver, if_neg hbenchmark]
  cases hwire : o.wireComplete with
  | false =>
    by_cases hinput : o.benchmarkInputTokens = none
    · simp [hinput, reject]
    · simp [hinput]
  | true =>
    simp only [Bool.not_true, Bool.false_eq_true, if_false, forall_true_left, List.mem_cons, List.not_mem_nil, or_false]
    by_cases hmissing : none = o.benchmarkInputTokens ∨ none = o.benchmarkOutputTokens ∨
        none = o.serverInputTokens ∨ none = o.serverOutputTokens
    · simp only [if_pos hmissing, reject, reduceCtorEq, exists_false, false_iff]
      grind
    · simp only [if_neg hmissing]
      by_cases hdiffer : o.benchmarkInputTokens ≠ o.serverInputTokens ∨ o.benchmarkOutputTokens ≠ o.serverOutputTokens
      · simp only [if_pos hdiffer, reject, reduceCtorEq, exists_false, false_iff]
        grind
      · simp only [if_neg hdiffer, Except.ok.injEq, exists_eq', true_iff]
        grind

theorem canonicalTokenCounts_ok_iff (o : RequestObservation) :
    (∃ counts, canonicalTokenCounts o = .ok counts) ↔ CountsKnown o := by
  unfold canonicalTokenCounts
  constructor
  · rintro ⟨counts, h⟩
    split at h
    · cases h
    rename_i hauthority
    simp only [Bool.not_eq_true, Bool.not_eq_false', occurs_iff] at hauthority
    obtain ⟨bi, hbi, h⟩ := bind_ok_iff.mp h
    obtain ⟨bo, hbo, h⟩ := bind_ok_iff.mp h
    obtain ⟨si, hsi, h⟩ := bind_ok_iff.mp h
    obtain ⟨so, hso, h⟩ := bind_ok_iff.mp h
    refine ⟨hauthority, ?_, fun hs => (authorizedCounts_server o hs).mp ⟨counts, h⟩,
      fun hb => (authorizedCounts_benchmark o hb).mp ⟨counts, h⟩, fun hb => (authorizedCounts_both o hb).mp ⟨counts, h⟩⟩
    intro n hn
    simp only [List.mem_cons, List.not_mem_nil, or_false] at hn
    rcases hn with hn | hn | hn | hn
    · exact (optionalTokens_ok_iff _ _).mp ⟨bi, hbi⟩ n hn.symm
    · exact (optionalTokens_ok_iff _ _).mp ⟨bo, hbo⟩ n hn.symm
    · exact (optionalTokens_ok_iff _ _).mp ⟨si, hsi⟩ n hn.symm
    · exact (optionalTokens_ok_iff _ _).mp ⟨so, hso⟩ n hn.symm
  · intro h
    have hbounded : ∀ value ∈ [o.benchmarkInputTokens, o.benchmarkOutputTokens, o.serverInputTokens,
        o.serverOutputTokens], ∀ place, ∃ b, optionalTokens value place = .ok b := by
      intro value hvalue place
      apply (optionalTokens_ok_iff value place).mpr
      rintro n rfl
      exact h.bounded n hvalue
    obtain ⟨bi, hbi⟩ := hbounded o.benchmarkInputTokens (by simp) "benchmark_input_tokens"
    obtain ⟨bo, hbo⟩ := hbounded o.benchmarkOutputTokens (by simp) "benchmark_output_tokens"
    obtain ⟨si, hsi⟩ := hbounded o.serverInputTokens (by simp) "server_input_tokens"
    obtain ⟨so, hso⟩ := hbounded o.serverOutputTokens (by simp) "server_output_tokens"
    have hcounts : ∃ counts, authorizedCounts o = .ok counts := by
      have hauthority := h.authority
      simp only [tokenAuthorities, List.mem_cons, List.not_mem_nil, or_false] at hauthority
      rcases hauthority with hs | hb | hb
      · exact (authorizedCounts_server o hs).mpr (h.serverUsage hs)
      · exact (authorizedCounts_benchmark o hb).mpr (h.benchmarkTokenizer hb)
      · exact (authorizedCounts_both o hb).mpr (h.both hb)
    obtain ⟨counts, hcounts⟩ := hcounts
    refine ⟨counts, ?_⟩
    have hoccurs := (occurs_iff _ _).mpr h.authority
    simp only [hoccurs, Bool.not_true, Bool.false_eq_true, if_false, hbi, hbo, hsi, hso, hcounts, bind, Except.bind]

/-- What a reduced observation satisfies. -/
structure Reducible (observation : RequestObservation) : Prop where
  requestId : ∃ text, Contracts.identifier (.str observation.requestId) (lit "request_id") = .ok text
  dispatch : Counted observation.dispatchNs
  wire : observation.wireComplete = observation.terminalNs.isSome
  terminal : ∀ t, observation.terminalNs = some t → observation.dispatchNs ≤ t ∧ t ≤ maxInteger
  events : ∀ e ∈ observation.contentEventNs, observation.dispatchNs ≤ e ∧ e ≤ maxInteger
  monotone : observation.contentEventNs.Pairwise (· ≤ ·)
  ended : ∀ t, observation.terminalNs = some t → ∀ e ∈ observation.contentEventNs, e ≤ t
  counts : CountsKnown observation
  required : ∀ n, observation.requiredOutputTokens = some n → 1 ≤ n ∧ n ≤ maxInteger
  errorClass : ∀ name, observation.errorClass = some name →
    ∃ text, Contracts.identifier (.str name) (lit "error_class") = .ok text
  slos : ∀ slo, slo = observation.sloE2eMs ∨ slo = observation.sloTtftMs → ∀ value, slo = some value →
    ∃ q, value = .finite q ∧ 0 ≤ q

theorem checkTerminal_ok_iff (o : RequestObservation) :
    checkTerminal o = .ok () ↔ o.wireComplete = o.terminalNs.isSome ∧
      ∀ t, o.terminalNs = some t → o.dispatchNs ≤ t ∧ t ≤ maxInteger := by
  unfold checkTerminal
  cases ht : o.terminalNs with
  | none => cases o.wireComplete <;> simp [optional, bind, Except.bind, reject]
  | some t =>
    simp only [optional, Option.some.injEq, forall_eq', Option.isSome_some]
    by_cases hbounds : o.dispatchNs ≤ t ∧ t ≤ maxInteger
    · have hread := (integer_ok_iff t t (lit "terminal_ns") o.dispatchNs maxInteger).mpr ⟨rfl, hbounds⟩
      rw [hread]
      cases o.wireComplete <;> simp [Except.map, bind, Except.bind, reject, hbounds]
    · have hread : ¬ ∃ m, integer (.int t) (lit "terminal_ns") o.dispatchNs maxInteger = .ok m := by
        rwa [exists_integer_iff]
      cases he : integer (.int t) (lit "terminal_ns") o.dispatchNs maxInteger with
      | ok m => exact absurd ⟨m, he⟩ hread
      | error e => simp [Except.map, bind, Except.bind, hbounds]

theorem forM_events_iff (o : RequestObservation) :
    (o.contentEventNs.zipIdx.forM fun event => do
      let _ ← integer (.int event.1) (lit "content_event_ns[" ++ natText event.2 ++ lit "]") o.dispatchNs
        maxInteger : Except Raised Unit) = .ok () ↔
      ∀ e ∈ o.contentEventNs, o.dispatchNs ≤ e ∧ e ≤ maxInteger := by
  rw [forM_ok_iff]
  constructor
  · intro h e he
    obtain ⟨i, hi, rfl⟩ := List.getElem_of_mem he
    have hread := h (o.contentEventNs[i], i) (List.mk_mem_zipIdx_iff_getElem?.mpr (List.getElem?_eq_getElem hi))
    obtain ⟨m, hm, -⟩ := bind_ok_iff.mp hread
    exact (exists_integer_iff _ _ _ _).mp ⟨m, hm⟩
  · rintro h ⟨e, i⟩ hmem
    have he : e ∈ o.contentEventNs := List.mem_of_getElem? (List.mk_mem_zipIdx_iff_getElem?.mp hmem)
    rw [(integer_ok_iff e e _ _ _).mpr ⟨rfl, h e he⟩]
    rfl

theorem checkContentEvents_ok_iff (o : RequestObservation) :
    checkContentEvents o = .ok () ↔ (∀ e ∈ o.contentEventNs, o.dispatchNs ≤ e ∧ e ≤ maxInteger) ∧
      o.contentEventNs.Pairwise (· ≤ ·) ∧ ∀ t, o.terminalNs = some t → ∀ e ∈ o.contentEventNs, e ≤ t := by
  have hsorted : o.contentEventNs.insertionSort (· ≤ ·) = o.contentEventNs ↔ o.contentEventNs.Pairwise (· ≤ ·) := by
    refine ⟨fun h => ?_, fun h => h.insertionSort_eq⟩
    have := List.pairwise_insertionSort (· ≤ ·) o.contentEventNs
    rwa [h] at this
  have hended : (o.terminalNs.any fun terminal => o.contentEventNs.any fun event => terminal < event) = true ↔
      ¬ ∀ t, o.terminalNs = some t → ∀ e ∈ o.contentEventNs, e ≤ t := by
    cases o.terminalNs with
    | none => simp
    | some t => simp
  unfold checkContentEvents
  rw [then_ok_iff, forM_events_iff]
  refine and_congr_right fun _ => ?_
  by_cases hs : o.contentEventNs.insertionSort (· ≤ ·) = o.contentEventNs
  · rw [if_neg (not_not.mpr hs)]
    simp only [hsorted.mp hs, true_and]
    by_cases he : ∀ t, o.terminalNs = some t → ∀ e ∈ o.contentEventNs, e ≤ t
    · rw [if_neg (by rw [hended]; exact not_not.mpr he)]
      simpa using he
    · rw [if_pos (hended.mpr he)]
      simp only [reject, reduceCtorEq, false_iff]
      exact he
  · rw [if_pos hs]
    simp only [reject, reduceCtorEq, false_iff]
    exact fun h => hs (hsorted.mpr h.1)

theorem finiteNumber_ok_iff (value : PyFloat) (place : Str) :
    (∃ q, finiteNumber value place = .ok q) ↔ ∃ q, value = .finite q ∧ 0 ≤ q := by
  unfold finiteNumber
  cases value with
  | nan => simp [reject]
  | infinite negative => simp [reject]
  | finite q =>
    by_cases hq : q < 0
    · simp [hq, reject]
    · simp [hq, not_lt.mp hq]

/-- The reducer returns exactly on the observations that are reducible. -/
theorem reduceRequestMetrics_ok_iff (b : Binary64) (o : RequestObservation) :
    (∃ metrics, reduceRequestMetrics b o = .ok metrics) ↔ Reducible o := by
  unfold reduceRequestMetrics
  constructor
  · rintro ⟨metrics, h⟩
    obtain ⟨text, hid, h⟩ := bind_ok_iff.mp h
    obtain ⟨n, hdispatch, h⟩ := bind_ok_iff.mp h
    obtain ⟨hterminal, h⟩ := then_ok_iff.mp h
    obtain ⟨hevents, h⟩ := then_ok_iff.mp h
    obtain ⟨counts, hcounts, h⟩ := bind_ok_iff.mp h
    obtain ⟨required, hrequired, h⟩ := bind_ok_iff.mp h
    obtain ⟨errorClass, herror, h⟩ := bind_ok_iff.mp h
    obtain ⟨e2e, he2e, h⟩ := bind_ok_iff.mp h
    obtain ⟨ttft, httft, -⟩ := bind_ok_iff.mp h
    have hterminal := (checkTerminal_ok_iff o).mp hterminal
    have hevents := (checkContentEvents_ok_iff o).mp hevents
    refine ⟨⟨text, hid⟩, (exists_integer_iff _ _ _ _).mp ⟨n, hdispatch⟩, hterminal.1, hterminal.2, hevents.1,
      hevents.2.1, hevents.2.2, (canonicalTokenCounts_ok_iff o).mp ⟨counts, hcounts⟩, ?_, ?_, ?_⟩
    · intro n hn
      exact (exists_integer_iff _ _ _ _).mp ((optional_ok_iff _ _).mp ⟨required, hrequired⟩ n hn)
    · exact (optional_ok_iff _ _).mp ⟨errorClass, herror⟩
    · rintro slo (rfl | rfl) value hvalue
      · exact (finiteNumber_ok_iff _ _).mp ((optional_ok_iff _ _).mp ⟨e2e, he2e⟩ value hvalue)
      · exact (finiteNumber_ok_iff _ _).mp ((optional_ok_iff _ _).mp ⟨ttft, httft⟩ value hvalue)
  · intro h
    obtain ⟨text, hid⟩ := h.requestId
    obtain ⟨n, hdispatch⟩ := (exists_integer_iff o.dispatchNs (lit "dispatch_ns") 0 maxInteger).mpr h.dispatch
    have hterminal := (checkTerminal_ok_iff o).mpr ⟨h.wire, h.terminal⟩
    have hevents := (checkContentEvents_ok_iff o).mpr ⟨h.events, h.monotone, h.ended⟩
    obtain ⟨counts, hcounts⟩ := (canonicalTokenCounts_ok_iff o).mpr h.counts
    obtain ⟨required, hrequired⟩ := (optional_ok_iff o.requiredOutputTokens
      fun n => integer (.int n) (lit "required_output_tokens") 1 maxInteger).mpr
      fun n hn => (exists_integer_iff _ _ _ _).mpr (h.required n hn)
    obtain ⟨errorClass, herror⟩ := (optional_ok_iff o.errorClass
      fun name => Contracts.identifier (.str name) (lit "error_class")).mpr h.errorClass
    obtain ⟨e2e, he2e⟩ := (optional_ok_iff o.sloE2eMs fun slo => finiteNumber slo (lit "slo_e2e_ms")).mpr
      fun value hvalue => (finiteNumber_ok_iff _ _).mpr (h.slos _ (.inl rfl) value hvalue)
    obtain ⟨ttft, httft⟩ := (optional_ok_iff o.sloTtftMs fun slo => finiteNumber slo (lit "slo_ttft_ms")).mpr
      fun value hvalue => (finiteNumber_ok_iff _ _).mpr (h.slos _ (.inr rfl) value hvalue)
    rw [hid, hdispatch, hterminal, hevents, hcounts, hrequired, herror, he2e, httft]
    exact ⟨_, rfl⟩

/-! ## What a request is built from -/

theorem isIdentifier_append (head tail : Str) (hhead : Canonical.isIdentifier head = true)
    (htail : ∀ c ∈ tail, Canonical.isIdentifierChar c = true) : Canonical.isIdentifier (head ++ tail) = true := by
  cases head with
  | nil => cases hhead
  | cons c cs =>
    simp only [Canonical.isIdentifier, Bool.and_eq_true, List.all_eq_true] at hhead
    simp only [List.cons_append, Canonical.isIdentifier, Bool.and_eq_true, List.all_eq_true, List.mem_append]
    exact ⟨hhead.1, fun d hd => hd.elim (hhead.2 d) (htail d)⟩

theorem isIdentifier_requestId (cell : CampaignCell) (ordinal : Nat) (phase : Phase) :
    Canonical.isIdentifier (CommonServingExecutor.requestId cell ordinal phase) = true := by
  have hcell : Canonical.isIdentifier cell.cellId = true := by
    have h := cell.identified
    simp only [isBenchmarkIdentifier, Bool.and_eq_true] at h
    exact h.1
  have hmiddle : (lit "." ++ phase.text ++ lit ".q").all Canonical.isIdentifierChar = true := by
    cases phase <;> decide
  have hdigits : ∀ c ∈ Relations.fourDigits ordinal, Canonical.isIdentifierChar c = true := by
    intro c hc
    simp [Canonical.isIdentifierChar, Canonical.isIdentifierHead, Relations.fourDigits_digit ordinal c hc]
  have hsplit : CommonServingExecutor.requestId cell ordinal phase =
      cell.cellId ++ ((lit "." ++ phase.text ++ lit ".q") ++ Relations.fourDigits ordinal) := by
    simp [CommonServingExecutor.requestId]
  rw [hsplit]
  apply isIdentifier_append _ _ hcell
  intro c hc
  exact (List.mem_append.mp hc).elim (List.all_eq_true.mp hmiddle c) (hdigits c)

theorem outputFields_chatMembers (model : Json) (messages : List Message) (outputTokens seed : Int) (name : String)
    (hname : name ∈ ["max_tokens", "max_completion_tokens"]) :
    outputFields (chatMembers model messages outputTokens name seed) = [name] := by
  have hkeys : (chatMembers model messages outputTokens name seed).map Prod.fst = [lit "model", lit "messages",
    lit "stream", lit "temperature", lit "top_p", lit "n", lit name, lit "stream_options", lit "seed"] := rfl
  unfold outputFields
  rw [hkeys]
  simp only [List.mem_cons, List.not_mem_nil, or_false] at hname
  rcases hname with rfl | rfl
  · decide
  · decide

theorem member_chatMembers (model : Json) (messages : List Message) (outputTokens seed : Int) (name : String)
    (hname : name ∈ ["max_tokens", "max_completion_tokens"]) :
    member (chatMembers model messages outputTokens name seed) name = .int outputTokens := by
  unfold member chatMembers
  simp only [List.mem_cons, List.not_mem_nil, or_false] at hname
  rcases hname with rfl | rfl
  · rfl
  · rfl

/-- A chat request that is accepted has an output bound that fits. -/
theorem validateChatRequest_bound (members accepted : List (Str × Json)) (place : Str) (name : String) (n : Int)
    (hfields : outputFields members = [name]) (hmember : member members name = .int n)
    (h : validateChatRequest (.obj members) place = .ok accepted) : 1 ≤ n ∧ n ≤ maxInteger := by
  unfold validateChatRequest at h
  obtain ⟨same, hsame, hrest⟩ := bind_ok_iff.mp h
  have hmembers : same = members := by
    simp only [strictObject] at hsame
    split at hsame
    · cases hsame
    split at hsame
    · cases hsame
    cases hsame
    rfl
  rw [hmembers] at hrest
  obtain ⟨_, _, h⟩ := bind_ok_iff.mp hrest
  obtain ⟨messages, _, h⟩ := bind_ok_iff.mp h
  obtain ⟨-, h⟩ := then_ok_iff.mp h
  split at h
  · cases h
  obtain ⟨-, h⟩ := then_ok_iff.mp h
  obtain ⟨-, h⟩ := then_ok_iff.mp h
  obtain ⟨-, h⟩ := then_ok_iff.mp h
  obtain ⟨hbound, -⟩ := then_ok_iff.mp h
  unfold checkOutputBound at hbound
  rw [hfields] at hbound
  simp only [hmember] at hbound
  obtain ⟨m, hm, -⟩ := bind_ok_iff.mp hbound
  exact (exists_integer_iff _ _ _ _).mp ⟨m, hm⟩

theorem buildChatRequest_bound (model outputBoundField : Json) (messages : List Message) (outputTokens seed : Int)
    (request : List (Str × Json))
    (h : buildChatRequest model messages outputTokens outputBoundField seed = .ok request) :
    1 ≤ outputTokens ∧ outputTokens ≤ maxInteger := by
  unfold buildChatRequest at h
  split at h
  · exact validateChatRequest_bound _ _ _ "max_tokens" _ (outputFields_chatMembers _ _ _ _ _ (by simp))
      (member_chatMembers _ _ _ _ _ (by simp)) h
  split at h
  · exact validateChatRequest_bound _ _ _ "max_completion_tokens" _ (outputFields_chatMembers _ _ _ _ _ (by simp))
      (member_chatMembers _ _ _ _ _ (by simp)) h
  · cases h

/-- A number of the scenario is finite and not below its minimum. -/
theorem number_ok (b : Binary64) (value : Json) (place : Str) (parsed : PyFloat)
    (h : b.number value place 0 = .ok parsed) : ∃ q, parsed = .finite q ∧ 0 ≤ q := by
  unfold Binary64.number at h
  obtain ⟨parsed', -, h⟩ := bind_ok_iff.mp h
  split at h
  · cases h
  rename_i hbounds
  cases h
  simp only [not_or] at hbounds
  cases parsed with
  | nan => simp at hbounds
  | infinite negative => cases negative <;> simp [PyFloat.below] at hbounds
  | finite q =>
    refine ⟨q, rfl, ?_⟩
    simpa [PyFloat.below] using hbounds.1

/-! ## The two observations of a request -/

section Request

variable (executor : CommonServingExecutor) (cell : CampaignCell) (modelIds : List Json) (scenario : Scenario)
  (ordinal : Nat) (plannedDispatchNs : Int)

open CommonServingExecutor

theorem slos_ok (slos : PyFloat × PyFloat) (h : executor.slos scenario = .ok slos) :
    (∃ q, slos.1 = .finite q ∧ 0 ≤ q) ∧ ∃ q, slos.2 = .finite q ∧ 0 ≤ q := by
  unfold CommonServingExecutor.slos at h
  obtain ⟨e2e, he2e, h⟩ := bind_ok_iff.mp h
  obtain ⟨ttft, httft, h⟩ := bind_ok_iff.mp h
  cases h
  exact ⟨number_ok _ _ _ _ he2e, number_ok _ _ _ _ httft⟩

theorem errorClassOf_identifier (lower : Str → Str) (error : Raised) (place : Str) :
    Contracts.identifier (.str (errorClassOf lower error)) place = .ok (errorClassOf lower error) := by
  unfold errorClassOf
  split
  · exact Contracts.identifier_ok _ _ (by decide) (by decide)
  split
  · exact Contracts.identifier_ok _ _ (by decide) (by decide)
  · exact Contracts.identifier_ok _ _ (by decide) (by decide)

/-- A failure reduces unless its authority is the server, or a count or the clock is out of bounds. -/
theorem reducible_failed_iff (requestId errorClass authority : Str) (dispatchNs input output : Int)
    (slos : PyFloat × PyFloat)
    (hid : ∃ text, Contracts.identifier (.str requestId) (lit "request_id") = .ok text)
    (herror : ∃ text, Contracts.identifier (.str errorClass) (lit "error_class") = .ok text)
    (hauthority : authority ∈ tokenAuthorities) (houtput : 1 ≤ output ∧ output ≤ maxInteger)
    (hslos : (∃ q, slos.1 = .finite q ∧ 0 ≤ q) ∧ ∃ q, slos.2 = .finite q ∧ 0 ≤ q) :
    Reducible (failedObservation requestId dispatchNs errorClass authority input output slos.1 slos.2) ↔
      authority ≠ lit "server_usage" ∧ Counted dispatchNs ∧ Counted input := by
  constructor
  · intro h
    refine ⟨fun hserver => ?_, h.dispatch, h.counts.bounded input (by simp [failedObservation])⟩
    exact (h.counts.serverUsage hserver).1 rfl
  · rintro ⟨hserver, hdispatch, hinput⟩
    have hcounts : CountsKnown (failedObservation requestId dispatchNs errorClass authority input output slos.1 slos.2) := by
      refine ⟨hauthority, ?_, fun h => absurd h hserver, ?_, ?_⟩
      · intro n hn
        simp only [failedObservation, List.mem_cons, reduceCtorEq, Option.some.injEq, List.not_mem_nil, or_false] at hn
        exact hn ▸ hinput
      · simp [failedObservation]
      · simp [failedObservation]
    refine ⟨hid, hdispatch, rfl, by simp [failedObservation], by simp [failedObservation], List.Pairwise.nil,
      by simp [failedObservation], hcounts, ?_, ?_, ?_⟩
    · rintro n ⟨⟩
      exact houtput
    · rintro name ⟨⟩
      exact herror
    · rintro slo (rfl | rfl) value ⟨⟩
      · exact hslos.1
      · exact hslos.2

theorem mem_errorClassesOf (o : RequestObservation) (outputContractOk : Bool) (name : Str)
    (h : o.errorClass = some name) : name ∈ errorClassesOf o outputContractOk := by
  have hmem : name ∈ checkedErrors o outputContractOk := by simp [checkedErrors, h]
  unfold errorClassesOf
  dsimp only
  split
  · exact List.mem_append_left _ hmem
  · exact hmem

/-- A failure never counts as a valid completion. -/
theorem reduce_failed (b : Binary64) (o : RequestObservation) (metrics : RequestMetrics) (name : Str)
    (hwire : o.wireComplete = false) (hname : o.errorClass = some name)
    (h : reduceRequestMetrics b o = .ok metrics) : metrics.completionValid = false ∧ metrics.errorClasses ≠ [] := by
  unfold reduceRequestMetrics at h
  obtain ⟨_, _, h⟩ := bind_ok_iff.mp h
  obtain ⟨_, _, h⟩ := bind_ok_iff.mp h
  obtain ⟨-, h⟩ := then_ok_iff.mp h
  obtain ⟨-, h⟩ := then_ok_iff.mp h
  obtain ⟨counts, _, h⟩ := bind_ok_iff.mp h
  obtain ⟨_, _, h⟩ := bind_ok_iff.mp h
  obtain ⟨_, _, h⟩ := bind_ok_iff.mp h
  obtain ⟨_, _, h⟩ := bind_ok_iff.mp h
  obtain ⟨_, _, h⟩ := bind_ok_iff.mp h
  cases h
  refine ⟨by simp [reducedMetrics, hwire], ?_⟩
  exact List.ne_nil_of_mem (mem_errorClassesOf o _ name hname)

/-- What a measured request is sent with. -/
structure Sendable (prepared : Prepared) : Prop where
  prompt : executor.promptFactory cell ordinal = .ok prepared.messages ∧ prepared.messages ≠ []
  counted : ∃ output, executor.tokenCounter prepared.messages [] = .ok (prepared.benchmarkInput, output)
  outputTokens : scenario.requiredOutputTokens = .int prepared.outputTokens ∧ 1 ≤ prepared.outputTokens
  request : ∃ model, modelIds.head? = some model ∧ buildChatRequest model prepared.messages prepared.outputTokens
    scenario.outputBoundField cell.repetition = .ok prepared.request
  timeout : executor.binary64.number scenario.timeoutSeconds (lit "scenario.protocol.timeout_seconds")
    (executor.binary64.nearest (1 / 1000)) = .ok prepared.timeout

theorem positiveInt_ok_iff (value : Json) (place : Str) (n : Int) :
    positiveInt value place = .ok n ↔ value = .int n ∧ 1 ≤ n := by
  unfold positiveInt
  cases value with
  | int m =>
    by_cases hm : m < 1
    · simp only [if_pos hm, reject, reduceCtorEq, Json.int.injEq, false_iff, not_and]
      omega
    · simp only [if_neg hm, Except.ok.injEq, Json.int.injEq, iff_self_and]
      omega
  | _ => simp [reject]

theorem prepare_ok_iff (prepared : Prepared) :
    executor.prepare cell modelIds scenario ordinal = .ok prepared ↔
      Sendable executor cell modelIds scenario ordinal prepared := by
  unfold CommonServingExecutor.prepare
  constructor
  · intro h
    obtain ⟨messages, hmessages, h⟩ := bind_ok_iff.mp h
    split at h
    · cases h
    rename_i hne
    obtain ⟨⟨input, output⟩, hcount, h⟩ := bind_ok_iff.mp h
    obtain ⟨outputTokens, houtput, h⟩ := bind_ok_iff.mp h
    obtain ⟨model, hmodel, h⟩ := bind_ok_iff.mp h
    obtain ⟨request, hrequest, h⟩ := bind_ok_iff.mp h
    obtain ⟨timeout, htimeout, h⟩ := bind_ok_iff.mp h
    cases h
    refine ⟨⟨hmessages, by simpa using hne⟩, ⟨output, hcount⟩, (positiveInt_ok_iff _ _ _).mp houtput, ⟨model, ?_,
      hrequest⟩, htimeout⟩
    cases hhead : modelIds.head? with
    | none =>
      rw [hhead] at hmodel
      cases hmodel
    | some first =>
      rw [hhead] at hmodel
      cases hmodel
      rfl
  · intro h
    obtain ⟨output, hcount⟩ := h.counted
    obtain ⟨model, hmodel, hrequest⟩ := h.request
    have hne : prepared.messages.isEmpty = false := by simpa using h.prompt.2
    have houtput := (positiveInt_ok_iff _ (lit "scenario.output_work.required_output_tokens") _).mpr h.outputTokens
    simp only [h.prompt.1, hne, Bool.false_eq_true, if_false, hcount, houtput, hmodel, Option.elim_some, hrequest,
      h.timeout, bind, Except.bind]
    rfl

/-! ## The request -/

/-- A failure is reduced: the authority is not the server, the clock and the input count are in bounds. -/
structure FailureReducible (prepared : Prepared) : Prop where
  authority : scenario.tokenAuthority ≠ lit "server_usage"
  clock : Counted executor.clock
  input : Counted prepared.benchmarkInput

/-- A stream is reduced: it completes, its output is counted, and what was observed is reducible. -/
def StreamReducible (prepared : Prepared) (slos : PyFloat × PyFloat) : Prop :=
  ∃ result counted, executor.complete ((executor.responseDialects.lookup cell.targetId).getD (lit "strict_v1"))
      prepared.timeout prepared.request = .ok result ∧
    executor.tokenCounter prepared.messages result.visibleText = .ok counted ∧
    Reducible (observationFromStreamResult (requestId cell ordinal .measured) result scenario.tokenAuthority
      prepared.benchmarkInput counted.2 prepared.outputTokens (prepared.finishOk result) slos.1 slos.2)

/-- A record with metrics, which are those of an invalid completion with an error when the request failed. -/
def Reduced (outcome : Except Raised CompletedRequest) : Prop :=
  ∃ record metrics, outcome = .ok record ∧ record.metrics = some metrics ∧
    (record.result = none → metrics.completionValid = false ∧ metrics.errorClasses ≠ [])

theorem reduceMeasured_ok_iff (observation : RequestObservation) :
    (∃ metrics, executor.reduceMeasured .measured observation = .ok metrics) ↔ Reducible observation := by
  rw [← reduceRequestMetrics_ok_iff executor.binary64]
  unfold CommonServingExecutor.reduceMeasured
  cases reduceRequestMetrics executor.binary64 observation with
  | error e => simp [Except.map]
  | ok metrics => simp [Except.map]

theorem reduceMeasured_some (observation : RequestObservation) (reduced : Option RequestMetrics)
    (h : executor.reduceMeasured .measured observation = .ok reduced) :
    ∃ metrics, reduced = some metrics ∧ reduceRequestMetrics executor.binary64 observation = .ok metrics := by
  unfold CommonServingExecutor.reduceMeasured at h
  cases hm : reduceRequestMetrics executor.binary64 observation with
  | error e => simp [hm, Except.map] at h
  | ok metrics =>
    simp only [hm, Except.map, Except.ok.injEq] at h
    exact ⟨metrics, h.symm, rfl⟩

theorem attempt_ok_iff (prepared : Prepared) (slos : PyFloat × PyFloat) (hslos : executor.slos scenario = .ok slos) :
    (∃ record, executor.attempt cell scenario ordinal .measured plannedDispatchNs prepared = .ok record) ↔
      StreamReducible executor cell scenario ordinal prepared slos := by
  unfold CommonServingExecutor.attempt StreamReducible
  constructor
  · rintro ⟨record, h⟩
    obtain ⟨result, hresult, h⟩ := bind_ok_iff.mp h
    obtain ⟨counted, hcounted, h⟩ := bind_ok_iff.mp h
    obtain ⟨slos', hslos', h⟩ := bind_ok_iff.mp h
    obtain ⟨metrics, hmetrics, -⟩ := bind_ok_iff.mp h
    rw [hslos] at hslos'
    cases hslos'
    refine ⟨result, counted, hresult, hcounted, ?_⟩
    exact (reduceMeasured_ok_iff executor _).mp ⟨metrics, hmetrics⟩
  · rintro ⟨result, counted, hresult, hcounted, hreducible⟩
    obtain ⟨metrics, hmetrics⟩ := (reduceMeasured_ok_iff executor _).mpr hreducible
    simp only [hresult, hcounted, hslos, hmetrics, bind, Except.bind]
    exact ⟨_, rfl⟩

theorem attempt_reduced (prepared : Prepared) (record : CompletedRequest)
    (h : executor.attempt cell scenario ordinal .measured plannedDispatchNs prepared = .ok record) :
    Reduced (.ok record) := by
  unfold CommonServingExecutor.attempt at h
  obtain ⟨result, _, h⟩ := bind_ok_iff.mp h
  obtain ⟨counted, _, h⟩ := bind_ok_iff.mp h
  obtain ⟨slos, _, h⟩ := bind_ok_iff.mp h
  obtain ⟨reduced, hreduced, h⟩ := bind_ok_iff.mp h
  obtain ⟨metrics, rfl, -⟩ := reduceMeasured_some executor _ _ hreduced
  cases h
  exact ⟨_, metrics, rfl, rfl, by simp⟩

/-- The `try` cannot have returned when the service-level objectives are unreadable. -/
theorem attempt_slos (prepared : Prepared) (record : CompletedRequest)
    (h : executor.attempt cell scenario ordinal .measured plannedDispatchNs prepared = .ok record) :
    ∃ slos, executor.slos scenario = .ok slos := by
  unfold CommonServingExecutor.attempt at h
  obtain ⟨result, _, h⟩ := bind_ok_iff.mp h
  obtain ⟨counted, _, h⟩ := bind_ok_iff.mp h
  obtain ⟨slos, hslos, -⟩ := bind_ok_iff.mp h
  exact ⟨slos, hslos⟩

theorem recover_slos (prepared : Prepared) (error : Raised) (record : CompletedRequest)
    (h : executor.recover cell scenario ordinal .measured plannedDispatchNs prepared error = .ok record) :
    ∃ slos, executor.slos scenario = .ok slos := by
  unfold CommonServingExecutor.recover at h
  obtain ⟨slos, hslos, -⟩ := bind_ok_iff.mp h
  exact ⟨slos, hslos⟩

theorem recover_reduced (prepared : Prepared) (error : Raised) (record : CompletedRequest)
    (h : executor.recover cell scenario ordinal .measured plannedDispatchNs prepared error = .ok record) :
    Reduced (.ok record) := by
  unfold CommonServingExecutor.recover at h
  obtain ⟨slos, _, h⟩ := bind_ok_iff.mp h
  obtain ⟨reduced, hreduced, h⟩ := bind_ok_iff.mp h
  obtain ⟨metrics, rfl, hmetrics⟩ := reduceMeasured_some executor _ _ hreduced
  cases h
  exact ⟨_, metrics, rfl, rfl, fun _ => reduce_failed _ _ _ _ rfl rfl hmetrics⟩

section Bounded

variable (hid : (requestId cell ordinal .measured).length ≤ maxIdentifierBytes)
  (hauthority : scenario.tokenAuthority ∈ tokenAuthorities)

include hid hauthority

theorem recover_ok_iff (prepared : Prepared) (slos : PyFloat × PyFloat) (error : Raised)
    (hsend : Sendable executor cell modelIds scenario ordinal prepared) (hslos : executor.slos scenario = .ok slos) :
    (∃ record, executor.recover cell scenario ordinal .measured plannedDispatchNs prepared error = .ok record) ↔
      FailureReducible executor scenario prepared := by
  obtain ⟨model, -, hrequest⟩ := hsend.request
  have hreducible := reducible_failed_iff (requestId cell ordinal .measured) (errorClassOf executor.lower error)
    scenario.tokenAuthority executor.clock prepared.benchmarkInput prepared.outputTokens slos
    ⟨_, Contracts.identifier_ok _ _ (isIdentifier_requestId cell ordinal .measured) hid⟩
    ⟨_, errorClassOf_identifier executor.lower error _⟩ hauthority (buildChatRequest_bound _ _ _ _ _ _ hrequest)
    (slos_ok executor scenario slos hslos)
  unfold CommonServingExecutor.recover
  constructor
  · rintro ⟨record, h⟩
    obtain ⟨slos', hslos', h⟩ := bind_ok_iff.mp h
    obtain ⟨metrics, hmetrics, -⟩ := bind_ok_iff.mp h
    rw [hslos] at hslos'
    cases hslos'
    obtain ⟨hserver, hclock, hinput⟩ := hreducible.mp ((reduceMeasured_ok_iff executor _).mp ⟨metrics, hmetrics⟩)
    exact ⟨hserver, hclock, hinput⟩
  · rintro ⟨hserver, hclock, hinput⟩
    obtain ⟨metrics, hmetrics⟩ := (reduceMeasured_ok_iff executor _).mpr (hreducible.mpr ⟨hserver, hclock, hinput⟩)
    simp only [hslos, hmetrics, bind, Except.bind]
    exact ⟨_, rfl⟩

end Bounded

/-- A measured request comes back reduced exactly when it can be sent, its objectives can be read, and its failure or
its stream can be reduced. -/
theorem request_reduced_iff (hid : (requestId cell ordinal .measured).length ≤ maxIdentifierBytes)
    (hauthority : scenario.tokenAuthority ∈ tokenAuthorities) :
    Reduced (executor.request cell modelIds scenario ordinal .measured plannedDispatchNs) ↔
      ∃ prepared slos, Sendable executor cell modelIds scenario ordinal prepared ∧
        executor.slos scenario = .ok slos ∧
        (FailureReducible executor scenario prepared ∨
          StreamReducible executor cell scenario ordinal prepared slos) := by
  constructor
  · rintro ⟨record, metrics, h, -⟩
    unfold CommonServingExecutor.request at h
    obtain ⟨prepared, hprepared, h⟩ := bind_ok_iff.mp h
    have hsend := (prepare_ok_iff executor cell modelIds scenario ordinal prepared).mp hprepared
    cases hattempt : executor.attempt cell scenario ordinal .measured plannedDispatchNs prepared with
    | ok done =>
      obtain ⟨slos, hslos⟩ := attempt_slos executor cell scenario ordinal plannedDispatchNs prepared done hattempt
      exact ⟨prepared, slos, hsend, hslos,
        .inr ((attempt_ok_iff executor cell scenario ordinal plannedDispatchNs prepared slos hslos).mp ⟨done, hattempt⟩)⟩
    | error error =>
      simp only [hattempt] at h
      obtain ⟨slos, hslos⟩ := recover_slos executor cell scenario ordinal plannedDispatchNs prepared error record h
      exact ⟨prepared, slos, hsend, hslos, .inl ((recover_ok_iff executor cell modelIds scenario ordinal plannedDispatchNs
        hid hauthority prepared slos error hsend hslos).mp ⟨record, h⟩)⟩
  · rintro ⟨prepared, slos, hsend, hslos, hreducible⟩
    have hprepared := (prepare_ok_iff executor cell modelIds scenario ordinal prepared).mpr hsend
    unfold CommonServingExecutor.request
    rw [hprepared]
    simp only [bind, Except.bind]
    cases hattempt : executor.attempt cell scenario ordinal .measured plannedDispatchNs prepared with
    | ok done => exact attempt_reduced executor cell scenario ordinal plannedDispatchNs prepared done hattempt
    | error error =>
      have hfail : FailureReducible executor scenario prepared := by
        refine hreducible.resolve_right fun hstream => ?_
        obtain ⟨done, hdone⟩ :=
          (attempt_ok_iff executor cell scenario ordinal plannedDispatchNs prepared slos hslos).mpr hstream
        rw [hattempt] at hdone
        cases hdone
      obtain ⟨record, hrecord⟩ := (recover_ok_iff executor cell modelIds scenario ordinal plannedDispatchNs hid
        hauthority prepared slos error hsend hslos).mpr hfail
      dsimp only
      rw [hrecord]
      exact recover_reduced executor cell scenario ordinal plannedDispatchNs prepared error record hrecord

/-- `_sequential` -/
def sequential (count : Nat) : Except Raised (List CompletedRequest) :=
  (List.range count).mapM fun ordinal => executor.request cell modelIds scenario ordinal .measured plannedDispatchNs

/-- Requests that are all reduced give the trial one record each. -/
theorem sequential_reduced (count : Nat)
    (h : ∀ n < count, Reduced (executor.request cell modelIds scenario n .measured plannedDispatchNs)) :
    ∃ records, sequential executor cell modelIds scenario plannedDispatchNs count = .ok records ∧
      records.length = count ∧ ∀ record ∈ records, record.metrics.isSome := by
  have hone : ∀ n ∈ List.range count,
      ∃ record, executor.request cell modelIds scenario n .measured plannedDispatchNs = .ok record := by
    intro n hn
    obtain ⟨record, -, hrecord, -⟩ := h n (List.mem_range.mp hn)
    exact ⟨record, hrecord⟩
  obtain ⟨records, hrecords⟩ := mapM_exists _ _ hone
  refine ⟨records, hrecords, ?_, ?_⟩
  · have hunits := mapM_map _ (fun _ => ()) (fun _ => ()) (fun _ _ _ => rfl) _ _ hrecords
    simpa using congrArg List.length hunits
  · intro record hmem
    obtain ⟨n, hn, hrecord⟩ := mem_of_mapM_ok _ _ _ hrecords record hmem
    obtain ⟨record', metrics, hsame, hmetrics, -⟩ := h n (List.mem_range.mp hn)
    rw [hrecord] at hsame
    cases hsame
    simp [hmetrics]

end Request

/-! ## A refused connection -/

def servingCell : CampaignCell where
  ordinal := 0
  cellId := lit "scenario-a.case-a.r0000.target-a"
  pairingKey := lit "scenario-a.case-a.r0000"
  targetId := lit "target-a"
  scenarioId := lit "scenario-a"
  caseId := lit "case-a"
  repetition := 0
  requiredCapabilities := []
  isolationPolicy := lit "fresh_process_fresh_state_root"
  matrixId := lit "workload"
  pairingId := lit "pair-a"
  parameters := []
  identified := by decide

/-- The binary64 number next to 0.001, and whole numbers that are exact. -/
def servingFloats : Binary64 where
  nearest q := if q = 1 / 1000 then 1152921504606847 / 2 ^ 60 else q
  ofToken _ := .nan

/-- A server that nobody listens on. -/
def refusedExecutor : CommonServingExecutor where
  binary64 := servingFloats
  lower text := text.map fun c => if 65 ≤ c.val ∧ c.val ≤ 90 then cp (c.val + 32) else c
  promptFactory _ _ := .ok [[(lit "role", .str (lit "user")), (lit "content", .str (lit "Hello"))]]
  tokenCounter _ output := .ok (4, if output.isEmpty then 0 else 3)
  responseDialects := []
  complete _ _ _ := .error ⟨lit "OpenAIProtocolError", lit "OpenAI HTTP transport failed: Connection refused"⟩
  clock := 1000

def servingScenario (tokenAuthority : String) : Scenario where
  requiredOutputTokens := .int 3
  outputBoundField := .str (lit "max_tokens")
  timeoutSeconds := .int 5
  tokenAuthority := lit tokenAuthority
  e2eMs := .int 5000
  ttftMs := .int 5000

def servingModels : List Json := [.str (lit "qwen3-0.6b")]

open CommonServingExecutor in
theorem request_reduced_sample :
    Reduced (refusedExecutor.request servingCell servingModels (servingScenario "both") 0 .measured 900) := by
  obtain ⟨prepared, hprepared⟩ :=
    ok_of_isSome (refusedExecutor.prepare servingCell servingModels (servingScenario "both") 0) (by decide +kernel)
  obtain ⟨slos, hslos⟩ := ok_of_isSome (refusedExecutor.slos (servingScenario "both")) (by decide +kernel)
  have hinput : ∀ r ∈ (refusedExecutor.prepare servingCell servingModels (servingScenario "both") 0).toOption,
      Counted r.benchmarkInput := by decide +kernel
  rw [hprepared] at hinput
  apply (request_reduced_iff refusedExecutor servingCell servingModels (servingScenario "both") 0 900 (by decide)
    (by decide)).mpr
  refine ⟨prepared, slos, (prepare_ok_iff _ _ _ _ _ _).mp hprepared, hslos, .inl ⟨by decide, by decide, ?_⟩⟩
  exact hinput prepared rfl

theorem request_lost : (servingScenario "server_usage").tokenAuthority ∈ tokenAuthorities ∧
    (CommonServingExecutor.requestId servingCell 0 .measured).length ≤ maxIdentifierBytes ∧
    ¬ Reduced (refusedExecutor.request servingCell servingModels (servingScenario "server_usage") 0 .measured 900) := by
  have hraised : (refusedExecutor.request servingCell servingModels (servingScenario "server_usage") 0 .measured
      900).toOption.isNone = true := by decide +kernel
  refine ⟨by decide, by decide, ?_⟩
  rintro ⟨record, metrics, h, -⟩
  rw [h] at hraised
  cases hraised

end TurnVector.CrossEngine
