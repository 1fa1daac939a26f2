import TurnVector.Core.Fairness

/-! # What the oracle selects

The choice of `schedule` is the least candidate of its class, whatever the order of the list.
-/

namespace TurnVector

open Python Fair

/-! ## The first of the least -/

theorem leastBy_eq_none {κ α : Type} [LinearOrder κ] (key : α → κ) (xs : List α) : leastBy key xs = none ↔ xs = [] :=
  List.argmin_eq_none

/-- A key that tells the items apart makes the first of the least the only one. -/
theorem leastBy_perm {κ α : Type} [LinearOrder κ] (key : α → κ) (xs ys : List α) (hperm : xs.Perm ys)
    (hkey : ∀ x ∈ xs, ∀ y ∈ xs, key x = key y → x = y) : leastBy key xs = leastBy key ys := by
  cases hx : leastBy key xs with
  | none =>
    have hnil := (leastBy_eq_none key xs).mp hx
    rw [hnil] at hperm
    exact ((leastBy_eq_none key ys).mpr hperm.nil_eq.symm).symm
  | some x =>
    cases hy : leastBy key ys with
    | none =>
      have hnil := (leastBy_eq_none key ys).mp hy
      rw [hnil] at hperm
      rw [(leastBy_eq_none key xs).mpr hperm.eq_nil] at hx
      cases hx
    | some y =>
      have hxmem : x ∈ xs := List.argmin_mem hx
      have hymem : y ∈ ys := List.argmin_mem hy
      have hxy : key x ≤ key y := List.le_of_mem_argmin (hperm.mem_iff.mpr hymem) hx
      have hyx : key y ≤ key x := List.le_of_mem_argmin (hperm.mem_iff.mp hxmem) hy
      rw [hkey x hxmem y (hperm.mem_iff.mpr hymem) (le_antisymm hxy hyx)]

namespace SchedulerOracle

/-! ## The two classes -/

/-- An eligible candidate at or after its latest safe start. -/
def UrgentAt (c : Candidate) (nowUs : Int) : Prop :=
  c.eligible = true ∧ ∃ obligation, c.timingObligationUs = some obligation ∧
    obligation - c.engineServiceBoundUs - c.runtimeOverheadBoundUs ≤ nowUs

theorem isUrgent_iff (c : Candidate) (nowUs : Int) : c.isUrgent nowUs = true ↔ UrgentAt c nowUs := by
  unfold Candidate.isUrgent Candidate.latestSafeStartUs UrgentAt
  cases c.timingObligationUs with
  | none => simp
  | some obligation => simp

def urgentOf (nowUs : Int) (candidates : List Candidate) : List Candidate :=
  (candidates.filter (·.eligible)).filter (·.isUrgent nowUs)

theorem mem_urgentOf (nowUs : Int) (candidates : List Candidate) (c : Candidate) :
    c ∈ urgentOf nowUs candidates ↔ c ∈ candidates ∧ UrgentAt c nowUs := by
  rw [urgentOf, List.mem_filter, List.mem_filter, isUrgent_iff]
  exact ⟨fun h => ⟨h.1.1, h.2⟩, fun h => ⟨⟨h.1, h.2.1⟩, h.2⟩⟩

/-- What `schedule` has to select from the ledgers that it leaves: the least urgent candidate, or else the least
eligible one. -/
structure Specified (next : SchedulerOracle) (nowUs : Int) (candidates : List Candidate) (selected : Option Candidate)
    (decisionClass : DecisionClass) : Prop where
  none_iff : selected = none ↔ ∀ c ∈ candidates, c.eligible = false
  noPlan_iff : decisionClass = .noPlan ↔ selected = none
  urgent : (∃ c ∈ candidates, UrgentAt c nowUs) → decisionClass = .urgent ∧ ∃ c ∈ candidates, selected = some c ∧
    UrgentAt c nowUs ∧ ∀ d ∈ candidates, UrgentAt d nowUs → next.urgentRank c ≤ next.urgentRank d
  normal : (¬ ∃ c ∈ candidates, UrgentAt c nowUs) → ∀ c, selected = some c → decisionClass = .normal ∧
    c ∈ candidates ∧ c.eligible = true ∧ ∀ d ∈ candidates, d.eligible = true → next.normalRank c ≤ next.normalRank d

theorem choice_urgent (s : SchedulerOracle) (nowUs : Int) (candidates : List Candidate)
    (h : urgentOf nowUs candidates ≠ []) :
    s.choice nowUs candidates = (leastBy s.urgentRank (urgentOf nowUs candidates), .urgent) := by
  have hne : (!(urgentOf nowUs candidates).isEmpty) = true := by simpa using h
  unfold choice
  exact if_pos hne

theorem choice_rest (s : SchedulerOracle) (nowUs : Int) (candidates : List Candidate)
    (h : urgentOf nowUs candidates = []) :
    s.choice nowUs candidates =
      if !(candidates.filter (·.eligible)).isEmpty then
        (leastBy s.normalRank (candidates.filter (·.eligible)), .normal)
      else (none, .noPlan) := by
  have hne : ¬ (!(urgentOf nowUs candidates).isEmpty) = true := by simp [h]
  unfold choice
  exact if_neg hne

theorem choice_specified (s : SchedulerOracle) (nowUs : Int) (candidates : List Candidate) :
    s.Specified nowUs candidates (s.choice nowUs candidates).1 (s.choice nowUs candidates).2 := by
  by_cases hu : urgentOf nowUs candidates = []
  · have hnone : ¬ ∃ c ∈ candidates, UrgentAt c nowUs := by
      rintro ⟨c, hc, hurgent⟩
      exact List.not_mem_nil (hu ▸ (mem_urgentOf nowUs candidates c).mpr ⟨hc, hurgent⟩)
    rw [choice_rest s nowUs candidates hu]
    by_cases he : candidates.filter (·.eligible) = []
    · have hall : ∀ c ∈ candidates, c.eligible = false := by simpa [List.filter_eq_nil_iff] using he
      simp only [he, List.isEmpty_nil, Bool.not_true, Bool.false_eq_true, if_false]
      exact ⟨iff_of_true rfl hall, iff_of_true rfl rfl, fun h => absurd h hnone, fun _ c h => by cases h⟩
    · have hpos : (!(candidates.filter (·.eligible)).isEmpty) = true := by simpa using he
      rw [if_pos hpos]
      cases hl : leastBy s.normalRank (candidates.filter (·.eligible)) with
      | none => exact absurd ((leastBy_eq_none _ _).mp hl) he
      | some c =>
        have hc := List.mem_filter.mp (List.argmin_mem hl)
        refine ⟨?_, by simp, fun h => absurd h hnone, ?_⟩
        · exact iff_of_false (by simp) fun h => by simp [h c hc.1] at hc
        · rintro _ d ⟨⟩
          exact ⟨rfl, hc.1, hc.2, fun d hd hde => List.le_of_mem_argmin (List.mem_filter.mpr ⟨hd, hde⟩) hl⟩
  · rw [choice_urgent s nowUs candidates hu]
    cases hl : leastBy s.urgentRank (urgentOf nowUs candidates) with
    | none => exact absurd ((leastBy_eq_none _ _).mp hl) hu
    | some c =>
      have hc := (mem_urgentOf nowUs candidates c).mp (List.argmin_mem hl)
      refine ⟨?_, by simp, fun _ => ?_, fun h => absurd ⟨c, hc.1, hc.2⟩ h⟩
      · refine iff_of_false (by simp) fun h => ?_
        have he := hc.2.1
        rw [h c hc.1] at he
        cases he
      · exact ⟨rfl, c, hc.1, rfl, hc.2, fun d hd hdu =>
          List.le_of_mem_argmin ((mem_urgentOf nowUs candidates d).mpr ⟨hd, hdu⟩) hl⟩

/-! ## The order of the list -/

theorem urgentRank_inj (s : SchedulerOracle) (candidates : List Candidate)
    (hids : (candidates.map (·.candidateId)).Nodup) (c d : Candidate) (hc : c ∈ candidates) (hd : d ∈ candidates)
    (h : s.urgentRank c = s.urgentRank d) : c = d := by
  have hid : c.candidateId = d.candidateId := congrArg (fun rank => (ofLex (ofLex rank).2).2) h
  exact List.inj_on_of_nodup_map hids hc hd hid

theorem normalRank_inj (s : SchedulerOracle) (candidates : List Candidate)
    (hids : (candidates.map (·.candidateId)).Nodup) (c d : Candidate) (hc : c ∈ candidates) (hd : d ∈ candidates)
    (h : s.normalRank c = s.normalRank d) : c = d := by
  have hid : c.candidateId = d.candidateId := congrArg (fun rank => (ofLex (ofLex rank).2).2) h
  exact List.inj_on_of_nodup_map hids hc hd hid

theorem choice_perm (s : SchedulerOracle) (nowUs : Int) (candidates permuted : List Candidate)
    (hids : (candidates.map (·.candidateId)).Nodup) (hperm : candidates.Perm permuted) :
    s.choice nowUs permuted = s.choice nowUs candidates := by
  have heligible := hperm.filter (·.eligible)
  have hurgent : (urgentOf nowUs candidates).Perm (urgentOf nowUs permuted) := heligible.filter _
  by_cases hu : urgentOf nowUs candidates = []
  · have hu' : urgentOf nowUs permuted = [] := (hu ▸ hurgent).nil_eq.symm
    have hleast : leastBy s.normalRank (candidates.filter (·.eligible)) =
        leastBy s.normalRank (permuted.filter (·.eligible)) := by
      refine leastBy_perm s.normalRank _ _ heligible fun c hc d hd h => ?_
      exact normalRank_inj s candidates hids c d (List.mem_of_mem_filter hc) (List.mem_of_mem_filter hd) h
    rw [choice_rest s nowUs candidates hu, choice_rest s nowUs permuted hu', hleast, heligible.isEmpty_eq]
  · have hu' : urgentOf nowUs permuted ≠ [] := fun hnil => hu (hnil ▸ hurgent).eq_nil
    have hleast : leastBy s.urgentRank (urgentOf nowUs candidates) = leastBy s.urgentRank (urgentOf nowUs permuted) := by
      refine leastBy_perm s.urgentRank _ _ hurgent fun c hc d hd h => ?_
      exact urgentRank_inj s candidates hids c d ((mem_urgentOf _ _ _).mp hc).1 ((mem_urgentOf _ _ _).mp hd).1 h
    rw [choice_urgent s nowUs candidates hu, choice_urgent s nowUs permuted hu', hleast]

theorem currentOf_perm (candidates permuted : List Candidate) (hperm : candidates.Perm permuted) :
    currentOf permuted = currentOf candidates := by
  unfold currentOf
  exact (List.toFinset_eq_of_perm _ _ ((hperm.filter _).map _)).symm

/-! ## `schedule` -/

theorem acceptReceipt_mismatch (s : SchedulerOracle) (candidateId modelId : Str) (actual : Int)
    (h : ¬ ∃ c, s.pending = some c ∧ c.candidateId = candidateId ∧ c.modelId = modelId) :
    ∃ e, (acceptReceipt candidateId modelId actual).call s = (.error e, s) := by
  rw [acceptReceipt, Method.call_bind_ok (Method.call_get s)]
  cases hp : s.pending with
  | none => exact ⟨_, rfl⟩
  | some c =>
    have hne : c.candidateId ≠ candidateId ∨ c.modelId ≠ modelId := by
      by_contra hsame
      push Not at hsame
      exact h ⟨c, hp, hsame.1, hsame.2⟩
    simp only [if_pos hne]
    exact ⟨_, rfl⟩

/-- In every state of an oracle: a `schedule` without a pending plan returns the specified candidate, and the same one
for every order of the list; a call out of turn raises and changes nothing. -/
theorem schedule_specified (models : List ModelConfig) (calls : List Call) :
    (∀ nowUs candidates, (run models calls).pending = none → (candidates.map (·.candidateId)).Nodup →
      ∃ selected decisionClass runnableLedgers next,
        next.Specified nowUs candidates selected decisionClass ∧ next.pending = selected ∧
        ∀ permuted, candidates.Perm permuted → (schedule nowUs permuted).call (run models calls) =
          (.ok (selected, decisionClass, runnableLedgers), next)) ∧
    (∀ nowUs candidates, (run models calls).pending ≠ none →
      ∃ e, (schedule nowUs candidates).call (run models calls) = (.error e, run models calls)) ∧
    ∀ candidateId modelId actual,
      (¬ ∃ c, (run models calls).pending = some c ∧ c.candidateId = candidateId ∧ c.modelId = modelId) →
      ∃ e, (acceptReceipt candidateId modelId actual).call (run models calls) = (.error e, run models calls) := by
  have hsound := run_sound models calls
  generalize run models calls = s at hsound
  refine ⟨fun nowUs candidates hpending hids => ?_, fun nowUs candidates hpending => ?_, fun candidateId modelId actual h =>
    acceptReceipt_mismatch s candidateId modelId actual h⟩
  · obtain ⟨ledgers, hledgers, -⟩ := schedule_call s hsound nowUs candidates hpending
    refine ⟨_, _, ledgers, s.scheduled nowUs candidates, choice_specified (s.scheduled nowUs candidates) nowUs candidates,
      rfl, fun permuted hperm => ?_⟩
    obtain ⟨ledgers', hledgers', hcall⟩ := schedule_call s hsound nowUs permuted hpending
    have hcurrent := currentOf_perm candidates permuted hperm
    rw [hcurrent] at hledgers' hcall
    rw [hledgers] at hledgers'
    cases hledgers'
    have hchoice := choice_perm (s.synced (currentOf candidates)) nowUs candidates permuted hids hperm
    have hnext : s.scheduled nowUs permuted = s.scheduled nowUs candidates := by
      unfold scheduled
      rw [hcurrent, hchoice]
    rw [hcall, hchoice, hnext]
    rfl
  · exact ⟨_, schedule_pending s nowUs candidates (Option.isSome_iff_ne_none.mpr hpending)⟩

/-- A second candidate that ties with `alphaDecode` but for its model and its name. -/
def betaDecode : Candidate := { alphaDecode with candidateId := lit "beta-decode", modelId := lit "beta" }

theorem schedule_specified_sample : ∃ selected decisionClass runnableLedgers next,
    next.Specified 5 [betaDecode, alphaDecode] selected decisionClass ∧
      (schedule 5 [alphaDecode, betaDecode]).call (run [alpha, { alpha with modelId := lit "beta" }] []) =
        (.ok (selected, decisionClass, runnableLedgers), next) := by
  obtain ⟨selected, decisionClass, ledgers, next, hspecified, -, hcall⟩ :=
    (schedule_specified [alpha, { alpha with modelId := lit "beta" }] []).1 5 [betaDecode, alphaDecode] rfl (by decide)
  exact ⟨selected, decisionClass, ledgers, next, hspecified, hcall _ (List.Perm.swap _ _ _)⟩

end SchedulerOracle

end TurnVector
