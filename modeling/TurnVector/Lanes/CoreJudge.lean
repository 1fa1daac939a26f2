import TurnVector.Lanes.CoreReplay
import TurnVector.Lanes.Pairing
import TurnVector.Python.JsonRoundTrip

/-! # What the core replay oracle lets pass

The counters judge both executions, except where a subject repeats a transition that it did not commit.
-/

namespace TurnVector.Lanes

open Python Json
open LaneController (Raised contractError)
open Canonical (Sha256 isSha256 isHex)

/-! ## Texts -/

def keepingHooks : Hooks Unit where
  onFloat _ := .error ()
  onConstant _ := .error ()
  onPairs pairs := .ok (.obj pairs)

/-- The text of a plain value is no proper start of another one's. -/
theorem dumps_start {v w : Json} {level : Nat} {r s : Str} (hv : v.Plain) (hw : w.Plain) (hr : Ends r) (hs : Ends s)
    (h : dumps .compact level v ++ r = dumps .compact level w ++ s) : v.sortKeys = w.sortKeys ∧ r = s := by
  let n := (dumps .compact level v).length + (dumps .compact level w).length
  have hreadv := reads_dumps keepingHooks (fun _ _ => rfl) .compact v hv level n r (by omega) hr
  have hreadw := reads_dumps keepingHooks (fun _ _ => rfl) .compact w hw level n s (by omega) hs
  rw [h, hreadw] at hreadv
  simp only [Except.ok.injEq, Prod.mk.injEq] at hreadv
  exact ⟨hreadv.1.symm, hreadv.2.symm⟩

theorem memberText_start {name : Str} {v w : Json} {r s : Str} (hv : v.Plain) (hw : w.Plain) (hr : Ends r)
    (hs : Ends s) (h : memberText .compact 1 (name, v) ++ r = memberText .compact 1 (name, w) ++ s) :
    v.sortKeys = w.sortKeys ∧ r = s := by
  simp only [memberText, List.append_assoc, List.append_cancel_left_eq] at h
  exact dumps_start hv hw hr hs h

theorem ends_comma (s : Str) : Ends (cp 44 :: s) := ends_cons _ _ (by decide) (by decide)

theorem ends_brace (s : Str) : Ends (cp 125 :: s) := ends_cons _ _ (by decide) (by decide)

theorem hasSurrogate_sha256 (digest : Sha256) : hasSurrogate digest.val = false := by
  have hhex := digest.property
  simp only [isSha256, Bool.and_eq_true, List.all_eq_true] at hhex
  simp only [hasSurrogate, List.any_eq_false, isSurrogate, Bool.and_eq_true, decide_eq_true_eq]
  intro c hc
  have := hhex.2 c hc
  simp only [isHex, isDigit, Bool.or_eq_true, Bool.and_eq_true, decide_eq_true_eq] at this
  omega

theorem plain_sha256 (digest : Sha256) : Plain (.str digest.val) := .str _ (hasSurrogate_sha256 digest)

theorem plain_optional (n : Option ℕ+) : (optionalJson n).Plain := by
  cases n with
  | none => exact .null
  | some n => exact .int _

/-! ## The text of an execution -/

theorem plain_receipt (receipt : CoreReceipt) : receipt.toJson.Plain := by
  refine .obj _ (by simp only [List.map_cons, List.map_nil]; decide) ?_ ?_
  · simp only [List.mem_cons, List.not_mem_nil, or_false, forall_eq_or_imp, forall_eq]
    decide
  · have hrelation : hasSurrogate receipt.sequenceRelation.text = false := by
      cases receipt.sequenceRelation <;> decide
    simp only [List.mem_cons, List.not_mem_nil, or_false, forall_eq_or_imp, forall_eq]
    exact ⟨.str _ hrelation, .bool _, .bool _, plain_sha256 _, plain_sha256 _⟩

theorem plain_cancellation (cancellation : CoreCancellation) : cancellation.toJson.Plain := by
  refine .obj _ (by simp only [List.map_cons, List.map_nil]; decide) ?_ ?_
  · simp only [List.mem_cons, List.not_mem_nil, or_false, forall_eq_or_imp, forall_eq]
    decide
  · simp only [List.mem_cons, List.not_mem_nil, or_false, forall_eq_or_imp, forall_eq]
    exact ⟨plain_optional _, plain_optional _⟩

theorem text_injective {r s : SequenceRelation} (h : r.text = s.text) : r = s := by
  cases r <;> cases s <;> first | rfl | exact absurd h (by decide)

theorem optionalJson_injective {m n : Option ℕ+} (h : (optionalJson m).sortKeys = (optionalJson n).sortKeys) : m = n := by
  cases m <;> cases n <;> simp [optionalJson, sortKeys] at h ⊢
  exact h

theorem receipt_injective {r s : CoreReceipt} (h : r.toJson.sortKeys = s.toJson.sortKeys) : r = s := by
  have sorted : ∀ receipt : CoreReceipt, receipt.toJson.sortKeys = .obj [(lit "applied", .bool receipt.applied),
      (lit "sequence_relation", .str receipt.sequenceRelation.text),
      (lit "state_after_sha256", .str receipt.stateAfterSha256.val),
      (lit "state_before_sha256", .str receipt.stateBeforeSha256.val),
      (lit "transition_committed", .bool receipt.transitionCommitted)] := fun _ => rfl
  rw [sorted, sorted] at h
  obtain ⟨relation, applied, committed, before, after⟩ := r
  obtain ⟨relation', applied', committed', before', after'⟩ := s
  simp only [Json.obj.injEq, List.cons.injEq, Prod.mk.injEq, true_and, and_true, Json.bool.injEq, Json.str.injEq] at h
  obtain ⟨rfl, hrelation, hafter, hbefore, rfl⟩ := h
  rw [text_injective hrelation, Subtype.ext hafter, Subtype.ext hbefore]

theorem cancellation_injective {c d : CoreCancellation} (h : c.toJson.sortKeys = d.toJson.sortKeys) : c = d := by
  have sorted : ∀ cancellation : CoreCancellation, cancellation.toJson.sortKeys =
      .obj [(lit "commit_sequence", (optionalJson cancellation.commitSequence).sortKeys),
        (lit "terminal_sequence", (optionalJson cancellation.terminalSequence).sortKeys)] := fun _ => rfl
  rw [sorted, sorted] at h
  obtain ⟨commit, terminal⟩ := c
  obtain ⟨commit', terminal'⟩ := d
  simp only [Json.obj.injEq, List.cons.injEq, Prod.mk.injEq, true_and, and_true] at h
  rw [optionalJson_injective h.1, optionalJson_injective h.2]

/-- The keys of an execution stand in their order. -/
theorem execution_text (e : CoreExecution) : canonicalJson e.toJson =
    cp 123 :: (memberText .compact 1 (lit "cancellation", e.cancellation.toJson) ++
      cp 44 :: (memberText .compact 1 (lit "final_state_sha256", .str e.finalStateSha256.val) ++
        cp 44 :: (memberText .compact 1 (lit "input_sha256", .str e.inputSha256) ++
          cp 44 :: (memberText .compact 1 (lit "published_effects", .arr (e.publishedEffects.map CoreEffect.toJson)) ++
            cp 44 :: (memberText .compact 1 (lit "receipt", e.receipt.toJson) ++ [cp 125]))))) := by
  have sorted : sortByKey [(lit "input_sha256", Json.str e.inputSha256),
      (lit "final_state_sha256", .str e.finalStateSha256.val), (lit "receipt", e.receipt.toJson),
      (lit "published_effects", .arr (e.publishedEffects.map CoreEffect.toJson)),
      (lit "cancellation", e.cancellation.toJson)] =
      [(lit "cancellation", e.cancellation.toJson), (lit "final_state_sha256", .str e.finalStateSha256.val),
        (lit "input_sha256", .str e.inputSha256),
        (lit "published_effects", .arr (e.publishedEffects.map CoreEffect.toJson)),
        (lit "receipt", e.receipt.toJson)] := rfl
  rw [canonicalJson, CoreExecution.toJson, dumps_obj, sorted]
  simp [enclose, join, Layout.newline]

theorem object_head (level : Nat) (members : List (Str × Json)) :
    ∃ s, dumps .compact level (.obj members) = cp 123 :: s := by
  rw [dumps_obj, enclose]
  split
  · exact ⟨_, rfl⟩
  · exact ⟨_, rfl⟩

theorem effects_start {effects : List CoreEffect} {r s : Str}
    (h : memberText .compact 1 (lit "published_effects", .arr (effects.map CoreEffect.toJson)) ++ r =
      memberText .compact 1 (lit "published_effects", .arr []) ++ s) : effects = [] := by
  simp only [memberText, List.append_assoc, List.append_cancel_left_eq] at h
  cases effects with
  | nil => rfl
  | cons effect effects =>
    obtain ⟨text, htext⟩ := object_head 2 [(lit "effect_id", .str effect.effectId),
      (lit "publication_sequence", .int (effect.publicationSequence : Nat))]
    rw [List.map_cons, dumps_arr, dumps_arr, List.map_cons, enclose_cons, CoreEffect.toJson, htext] at h
    simp only [Layout.newline, join, List.nil_append, List.cons_append, List.map_nil, enclose_nil, List.cons.injEq] at h
    exact absurd h.2.1 (by decide)

/-- Without effects, an execution is known by its text. -/
theorem execution_injective {e d : CoreExecution} (hinput : e.inputSha256 = d.inputSha256)
    (hnone : e.publishedEffects = []) (h : canonicalJson e.toJson = canonicalJson d.toJson) : e = d := by
  rw [execution_text, execution_text, List.cons.injEq] at h
  obtain ⟨hcancellation, h⟩ := memberText_start (plain_cancellation _) (plain_cancellation _) (ends_comma _)
    (ends_comma _) h.2
  obtain ⟨hfinal, h⟩ := memberText_start (plain_sha256 _) (plain_sha256 _) (ends_comma _) (ends_comma _)
    (List.cons.inj h).2
  rw [hinput, List.cons.injEq, List.append_cancel_left_eq, List.cons.injEq, hnone] at h
  have heffects : d.publishedEffects = [] := effects_start h.2.2.symm
  rw [heffects, List.append_cancel_left_eq, List.cons.injEq] at h
  obtain ⟨hreceipt, -⟩ := memberText_start (plain_receipt _) (plain_receipt _) (ends_brace _) (ends_brace _) h.2.2.2
  have hsettled : e.finalStateSha256 = d.finalStateSha256 := by
    simp only [sortKeys, Json.str.injEq] at hfinal
    exact Subtype.ext hfinal
  rw [CoreExecution.mk.injEq]
  exact ⟨hinput, hsettled, receipt_injective hreceipt, hnone.trans heffects.symm, cancellation_injective hcancellation⟩

/-! ## A run -/

theorem CoreExecution.input_of_read {execution : List (Str × Json)} {inputSha256 place : Str} {finalState : Sha256}
    {receipt : CoreReceipt} {e : CoreExecution}
    (h : readExecution execution inputSha256 place finalState receipt = .ok e) : e.inputSha256 = inputSha256 := by
  unfold readExecution at h
  split at h
  · obtain ⟨published, -, h⟩ := bind_ok_iff.mp h
    obtain ⟨effects, -, h⟩ := bind_ok_iff.mp h
    obtain ⟨cancelled, -, h⟩ := bind_ok_iff.mp h
    obtain ⟨cancellation, -, h⟩ := bind_ok_iff.mp h
    cases h
    rfl
  · cases h

theorem normalizeCoreExecution_ok {value : Json} {case : CoreCase} {inputSha256 place : Str} {e : CoreExecution}
    {invariants : List (Str × Bool)} (h : normalizeCoreExecution value case inputSha256 place = .ok (e, invariants)) :
    e.inputSha256 = inputSha256 ∧ invariants = coreInvariants case e := by
  unfold normalizeCoreExecution at h
  obtain ⟨execution, -, h⟩ := bind_ok_iff.mp h
  obtain ⟨claimed, -, h⟩ := bind_ok_iff.mp h
  obtain ⟨_, -, h⟩ := bind_ok_iff.mp h
  obtain ⟨digest, -, h⟩ := bind_ok_iff.mp h
  obtain ⟨finalState, -, h⟩ := bind_ok_iff.mp h
  obtain ⟨members, -, h⟩ := bind_ok_iff.mp h
  obtain ⟨fields, -, h⟩ := bind_ok_iff.mp h
  obtain ⟨receipt, -, h⟩ := bind_ok_iff.mp h
  obtain ⟨read, hread, h⟩ := bind_ok_iff.mp h
  cases h
  exact ⟨CoreExecution.input_of_read hread, rfl⟩

section
variable {sha256 : Str → Str} {answers : Nat → Except Raised (Mapping Json)}

theorem replayStep_ok {case : CoreCase} {stepIndex : Nat} {operation : Str} {record : CoreRecord} {e : CoreExecution}
    {invariants : List (Str × Bool)}
    (h : replayStep sha256 answers case stepIndex operation = .ok (record, e, invariants)) :
    e.inputSha256 = sha256 (canonicalJson case.input) ∧ invariants = coreInvariants case e := by
  unfold replayStep at h
  obtain ⟨evidence, -, h⟩ := bind_ok_iff.mp h
  obtain ⟨outer, -, h⟩ := bind_ok_iff.mp h
  obtain ⟨value, -, h⟩ := bind_ok_iff.mp h
  obtain ⟨normalized, hnormalized, h⟩ := bind_ok_iff.mp h
  cases h
  exact normalizeCoreExecution_ok hnormalized

/-- What a run of the two steps leaves to the oracle. -/
structure Replayed (sha256 : Str → Str) (case : CoreCase) (first replay : CoreExecution) (steps : CoreSteps) : Prop where
  sameInput : first.inputSha256 = replay.inputSha256
  executions : steps.executions = [first, replay]
  evidence : steps.evidence = [[(lit "record", coreRecord sha256 first replay
    (bothPassed (coreInvariants case first) (coreInvariants case replay)))]]

theorem executeCoreSteps_ok {case : PlannedCase} {root : Option Str} {steps : CoreSteps}
    (h : executeCoreSteps sha256 answers case root = .ok steps) :
    ∃ read first replay, readCoreCase case = .ok read ∧ Replayed sha256 read first replay steps := by
  unfold executeCoreSteps at h
  obtain ⟨_, -, h⟩ := bind_ok_iff.mp h
  obtain ⟨read, hread, h⟩ := bind_ok_iff.mp h
  unfold replayCase at h
  obtain ⟨⟨firstRecord, first, firstInvariants⟩, hfirst, h⟩ := bind_ok_iff.mp h
  obtain ⟨⟨replayRecord, replay, replayInvariants⟩, hreplay, h⟩ := bind_ok_iff.mp h
  obtain ⟨hfirstInput, rfl⟩ := replayStep_ok hfirst
  obtain ⟨hreplayInput, rfl⟩ := replayStep_ok hreplay
  cases h
  exact ⟨read, first, replay, hread, hfirstInput.trans hreplayInput.symm, rfl, rfl⟩

end

/-! ## The counters -/

def Passes (case : CoreCase) (execution : CoreExecution) : Prop := ∀ item ∈ coreInvariants case execution, item.2 = true

def CoreCounters.clear : CoreCounters := ⟨0, 0, 0⟩

theorem mapM_oracleBoolean (place : Str) (flags : List Bool) :
    (flags.map Json.bool).mapM (fun item => oracleBoolean item place) = .ok flags := by
  induction flags with
  | nil => rfl
  | cons flag flags ih =>
    rw [List.map_cons, List.mapM_cons, ih]
    rfl

theorem committedViolations_flags (committed : Bool) (flags : List Bool) :
    committedViolations committed (flags.map Json.bool) =
      .ok (if committed then (flags.filter (!·)).length else 0) := by
  cases committed with
  | false => rfl
  | true =>
    rw [committedViolations, if_pos rfl, mapM_oracleBoolean]
    rfl

/-- The counters of a record. -/
theorem coreEventReplay_record (floatValue : Str → Option ℚ) (sha256 : Str → Str) (first replay : CoreExecution)
    (invariants : List (Str × Bool)) :
    coreEventReplay floatValue [[(lit "record", coreRecord sha256 first replay invariants)]] [] =
      .ok ⟨if sha256 (canonicalJson replay.toJson) = sha256 (canonicalJson first.toJson) then 0 else 1,
        if first.receipt.transitionCommitted then ((invariants.map Prod.snd).filter (!·)).length else 0,
        if first.receipt.transitionCommitted then 0 else first.publishedEffects.length⟩ := by
  let committed := first.receipt.transitionCommitted
  let effects := first.publishedEffects.map fun effect => Json.str effect.effectId
  have hflags := committedViolations_flags committed (invariants.map Prod.snd)
  have hrun : coreEventReplay floatValue [[(lit "record", coreRecord sha256 first replay invariants)]] [] =
      committedViolations committed (invariants.map fun item => Json.bool item.2) >>= fun violations =>
        .ok ⟨if pyEq floatValue (.str (sha256 (canonicalJson first.toJson)))
          (.str (sha256 (canonicalJson replay.toJson))) then 0 else 1, violations,
          if committed then 0 else effects.length⟩ := rfl
  rw [List.map_map] at hflags
  rw [hrun, show (invariants.map fun item => Json.bool item.2) = invariants.map (Json.bool ∘ Prod.snd) from rfl, hflags]
  simp [pyEq, effects, committed, bind, Except.bind]

theorem bothPassed_all {first replay : List (Str × Bool)} (hlength : first.length = replay.length) :
    (∀ b ∈ (bothPassed first replay).map Prod.snd, b = true) ↔
      (∀ item ∈ first, item.2 = true) ∧ ∀ item ∈ replay, item.2 = true := by
  induction first generalizing replay with
  | nil =>
    obtain rfl : replay = [] := List.length_eq_zero_iff.mp hlength.symm
    simp [bothPassed]
  | cons item first ih =>
    cases replay with
    | nil => simp at hlength
    | cons other replay =>
      have := @ih replay (by simpa using hlength)
      simp only [bothPassed, List.zipWith_cons_cons, List.map_cons, List.mem_cons, forall_eq_or_imp] at this ⊢
      rw [this, Bool.and_eq_true]
      tauto

/-- The counters of a run are clear exactly when the two executions have one digest, and either both pass or the first
neither commits nor publishes. -/
theorem counters_clear_iff (floatValue : Str → Option ℚ) (sha256 : Str → Str) (case : CoreCase)
    (first replay : CoreExecution) (steps : CoreSteps) (h : Replayed sha256 case first replay steps) :
    ∃ counters, coreEventReplay floatValue steps.evidence [] = .ok counters ∧
      (counters = .clear ↔ sha256 (canonicalJson first.toJson) = sha256 (canonicalJson replay.toJson) ∧
        (first.receipt.transitionCommitted = true → Passes case first ∧ Passes case replay) ∧
        (first.receipt.transitionCommitted = false → first.publishedEffects = [])) := by
  have hflags := @bothPassed_all (coreInvariants case first) (coreInvariants case replay) rfl
  refine ⟨_, by rw [h.evidence, coreEventReplay_record], ?_⟩
  have hsame : (if sha256 (canonicalJson replay.toJson) = sha256 (canonicalJson first.toJson) then 0 else 1) = 0 ↔
      sha256 (canonicalJson first.toJson) = sha256 (canonicalJson replay.toJson) := by
    rw [eq_comm (a := sha256 (canonicalJson first.toJson))]
    split_ifs with h <;> simp [h]
  have hpassed : ∀ flags : List Bool, (flags.filter (!·)).length = 0 ↔ ∀ b ∈ flags, b = true := by
    intro flags
    simp [List.filter_eq_nil_iff]
  rw [CoreCounters.clear, CoreCounters.mk.injEq, hsame]
  cases first.receipt.transitionCommitted with
  | false => simp
  | true =>
    simp only [if_true, hpassed, hflags, Passes]
    simp

/-! ## What is judged -/

/-- The execution commits nothing and publishes nothing. -/
def Quiet (execution : CoreExecution) : Prop :=
  execution.receipt.transitionCommitted = false ∧ execution.publishedEffects = []

/-- The event of the case commits nothing, and the execution says so. -/
structure Refused (case : CoreCase) (execution : CoreExecution) : Prop where
  uncommitted : case.relation = .current → case.result = .failed
  relation : execution.receipt.sequenceRelation = case.relation
  applied : execution.receipt.applied = true ↔ case.relation = .current
  unchanged : execution.receipt.stateBeforeSha256 = execution.receipt.stateAfterSha256
  uncancelled : execution.cancellation = ⟨none, none⟩

theorem passes_iff (case : CoreCase) (execution : CoreExecution) : Passes case execution ↔
    execution.receipt.sequenceRelation = case.relation ∧ execution.receipt.applied = case.shouldApply ∧
      (execution.receipt.transitionCommitted = case.shouldCommit ∧ stateChangeValid case execution = true ∧
        failedAtomic case execution = true) ∧
      (uniqueEffects execution = true ∧ noInvalidEffect case execution = true) ∧
      cancellationOrdered case execution = true := by
  simp [Passes, coreInvariants, and_assoc]

theorem shouldCommit_false_iff (case : CoreCase) :
    case.shouldCommit = false ↔ (case.relation = .current → case.result = .failed) := by
  simp [CoreCase.shouldCommit, CoreCase.shouldApply]

theorem cancellationExpected_uncommitted (case : CoreCase) (h : case.shouldCommit = false) :
    case.cancellationExpected = false := by
  rw [shouldCommit_false_iff] at h
  simp only [CoreCase.cancellationExpected, CoreCase.shouldApply, Bool.and_eq_false_iff, decide_eq_false_iff_not]
  by_cases hcurrent : case.relation = .current
  · left
    simp [h hcurrent]
  · exact Or.inr hcurrent

theorem passes_quiet_iff (case : CoreCase) (execution : CoreExecution) (h : Quiet execution) :
    Passes case execution ↔ Refused case execution := by
  obtain ⟨huncommitted, hnone⟩ := h
  rw [passes_iff]
  constructor
  · rintro ⟨hrelation, happlied, ⟨hcommitted, hvalid, -⟩, -, hordered⟩
    have hshould : case.shouldCommit = false := hcommitted.symm.trans huncommitted
    refine ⟨(shouldCommit_false_iff case).mp hshould, hrelation, ?_, ?_, ?_⟩
    · simp [happlied, CoreCase.shouldApply]
    · simpa [stateChangeValid, hshould] using hvalid
    · simp only [cancellationOrdered, cancellationExpected_uncommitted case hshould, Bool.false_eq_true, if_false,
        Bool.and_eq_true, decide_eq_true_eq] at hordered
      rw [CoreCancellation.mk.injEq]
      exact hordered
  · intro hrefused
    have hshould := (shouldCommit_false_iff case).mpr hrefused.uncommitted
    refine ⟨hrefused.relation, ?_, ⟨huncommitted.trans hshould.symm, ?_, ?_⟩, ⟨?_, ?_⟩, ?_⟩
    · rw [Bool.eq_iff_iff, hrefused.applied]
      simp [CoreCase.shouldApply]
    · simp [stateChangeValid, hshould, hrefused.unchanged]
    · simp [failedAtomic, huncommitted, hnone, hrefused.unchanged]
    · simp [uniqueEffects, hnone]
    · simp [noInvalidEffect, hnone]
    · simp [cancellationOrdered, cancellationExpected_uncommitted case hshould, hrefused.uncancelled]

/-- When the counters are clear, both executions pass, as long as a quiet transition that is repeated was one to refuse. -/
theorem core_judge_iff (floatValue : Str → Option ℚ) (sha256 : Str → Str)
    (answers : Nat → Except Raised (Mapping Json)) (case : PlannedCase) (root : Option Str) (steps : CoreSteps)
    (h : executeCoreSteps sha256 answers case root = .ok steps)
    (hsha : ∀ e ∈ steps.executions, ∀ d ∈ steps.executions,
      sha256 (canonicalJson e.toJson) = sha256 (canonicalJson d.toJson) →
        canonicalJson e.toJson = canonicalJson d.toJson) :
    ∃ read first replay counters, readCoreCase case = .ok read ∧ steps.executions = [first, replay] ∧
      coreEventReplay floatValue steps.evidence [] = .ok counters ∧
      ((counters = .clear → Passes read first ∧ Passes read replay) ↔
        (first = replay → Quiet first → Refused read first)) := by
  obtain ⟨read, first, replay, hread, hreplayed⟩ := executeCoreSteps_ok h
  obtain ⟨counters, hcounters, hclear⟩ := counters_clear_iff floatValue sha256 read first replay steps hreplayed
  refine ⟨read, first, replay, counters, hread, hreplayed.executions, hcounters, ?_⟩
  rw [hclear]
  constructor
  · rintro hjudged rfl hquiet
    have hpasses := hjudged ⟨rfl, fun hcommitted => absurd (hquiet.1.symm.trans hcommitted) (by decide), fun _ => hquiet.2⟩
    exact (passes_quiet_iff read first hquiet).mp hpasses.1
  · rintro hrefused ⟨hdigest, hcommitted, huncommitted⟩
    cases hcommit : first.receipt.transitionCommitted with
    | true => exact hcommitted hcommit
    | false =>
      have hnone := huncommitted hcommit
      have htext := hsha first (by simp [hreplayed.executions]) replay (by simp [hreplayed.executions]) hdigest
      have hsame := execution_injective hreplayed.sameInput hnone htext
      have hpasses := (passes_quiet_iff read first ⟨hcommit, hnone⟩).mpr (hrefused hsame ⟨hcommit, hnone⟩)
      exact ⟨hpasses, hsame ▸ hpasses⟩

/-! ## A transition that did not happen -/

def currentCase : PlannedCase where
  caseId := lit "core-event-replay.effect-result-replay.0001"
  laneId := lit "core-event-replay"
  matrixId := lit "effect-result-replay"
  ordinal := 1
  parameters := [(lit "result", .str (lit "completed")), (lit "sequence_relation", .str (lit "current"))]
  behaviorCaseIds := []
  operations := coreOperations
  diagnosticOnly := false

def currentInput : CoreCase := ⟨currentCase.caseId, 1, .completed, .current⟩

def currentInputSha256 : Str := lit "ff4980abed9827b6c7bf09d903e3e207888d02f372c1420abcd660d3ccbdd111"

/-- The digests of the two texts of the case. -/
def currentSha256 (text : Str) : Str :=
  if text = canonicalJson currentInput.input then currentInputSha256
  else lit "a30e0170216a30b4bafcd1bc06dddc4e677c984c51719c8a7b78fd5a8ba9a397"

/-- The subject applies the event and does nothing. -/
def idleAnswer : Mapping Json :=
  ⟨[(lit "execution", fields [("input_sha256", .str currentInputSha256), ("final_state_sha256", .str sampleDigest),
    ("receipt", fields [("sequence_relation", text "current"), ("applied", .bool true),
      ("transition_committed", .bool false), ("state_before_sha256", .str sampleDigest),
      ("state_after_sha256", .str sampleDigest)]),
    ("published_effects", .arr []),
    ("cancellation", fields [("commit_sequence", .null), ("terminal_sequence", .null)])])], by simp⟩

theorem core_judge_sample :
    ∃ steps, executeCoreSteps currentSha256 (fun _ => .ok idleAnswer) currentCase none = .ok steps ∧
      ∃ read first replay counters, readCoreCase currentCase = .ok read ∧ steps.executions = [first, replay] ∧
        coreEventReplay (fun _ => none) steps.evidence [] = .ok counters ∧
        ((counters = .clear → Passes read first ∧ Passes read replay) ↔
          (first = replay → Quiet first → Refused read first)) := by
  obtain ⟨steps, hsteps⟩ := ok_of_isSome (executeCoreSteps currentSha256 (fun _ => .ok idleAnswer) currentCase none)
    (by decide +kernel)
  have hone : ∀ s ∈ (executeCoreSteps currentSha256 (fun _ => .ok idleAnswer) currentCase none).toOption,
      ∀ e ∈ s.executions, ∀ d ∈ s.executions, canonicalJson e.toJson = canonicalJson d.toJson := by decide +kernel
  refine ⟨steps, hsteps, core_judge_iff (fun _ => none) currentSha256 _ currentCase none steps hsteps ?_⟩
  intro e he d hd _
  exact hone steps (by rw [hsteps]; rfl) e he d hd

/-- The case is to commit, the counters are clear, and the atomic transition failed in both executions. -/
theorem idle_subject_passes :
    ∃ steps ∈ (executeCoreSteps currentSha256 (fun _ => .ok idleAnswer) currentCase none).toOption,
      (coreEventReplay (fun _ => none) steps.evidence []).toOption = some .clear ∧
      ∀ execution ∈ steps.executions, (lit "atomic-transition", false) ∈ coreInvariants currentInput execution := by
  decide +kernel

end TurnVector.Lanes
