import TurnVector.CrossEngine.Contracts
import TurnVector.Fair.Gaps

/-! # Multi-model fairness

`cross_engine/multimodel.py`: the constructors and the summary of a cell, and the bounds of its rows.
-/

namespace TurnVector.CrossEngine

open Python Json Contracts Fair

/-! ## The constructors -/

/-- `value < prior` does not hold of any value of the loop. -/
def ordered (prior : ℚ) : List ℚ → Bool
  | [] => true
  | value :: values => !decide (value < prior) && ordered value values

/-- The sentinel of the ordering checks. -/
def sentinel : ℚ := -1

structure ModelWorkload where
  modelId : Str
  modelArtifactIdentity : Str
  arrivalTraceMs : List ℚ
  outputWorkIdentity : Str
  serviceWeight : ℚ
  named : modelId ≠ [] ∧ modelArtifactIdentity ≠ [] ∧ outputWorkIdentity ≠ []
  weighted : 0 < serviceWeight
  arrives : arrivalTraceMs ≠ []
  orderly : ordered sentinel arrivalTraceMs = true

/-- `ModelWorkload.__post_init__`. Every number is finite. -/
def modelWorkload (modelId modelArtifactIdentity : Str) (arrivalTraceMs : List ℚ) (outputWorkIdentity : Str)
    (serviceWeight : ℚ) : Except Raised ModelWorkload :=
  if hnamed : modelId ≠ [] ∧ modelArtifactIdentity ≠ [] ∧ outputWorkIdentity ≠ [] then
    if hweighted : 0 < serviceWeight then
      if harrives : arrivalTraceMs ≠ [] then
        if horderly : ordered sentinel arrivalTraceMs = true then
          .ok ⟨modelId, modelArtifactIdentity, arrivalTraceMs, outputWorkIdentity, serviceWeight, hnamed, hweighted,
            harrives, horderly⟩
        else reject (lit "arrival trace must be finite, non-negative, and ordered")
      else reject (lit "each configured model must have a non-empty arrival trace")
    else reject (lit "multi-model service weight must be finite and positive")
  else reject (lit "multi-model workload identities must be non-empty")

structure MultiModelCell where
  deploymentTopology : Str
  workloads : List ModelWorkload
  durationMs : ℚ
  concurrency : Int
  memoryBudgetBytes : Int
  admissionPolicy : Str
  named : deploymentTopology ≠ [] ∧ admissionPolicy ≠ []
  configured : workloads ≠ []
  distinct : (workloads.map (·.modelId)).Nodup
  lasting : 0 < durationMs
  concurrent : 1 ≤ concurrency
  budgeted : 1 ≤ memoryBudgetBytes
  arriving : ∀ workload ∈ workloads, ∀ arrival ∈ workload.arrivalTraceMs, arrival ≤ durationMs

/-- `MultiModelCell.__post_init__` -/
def multiModelCell (deploymentTopology : Str) (workloads : List ModelWorkload) (durationMs : ℚ)
    (concurrency memoryBudgetBytes : Int) (admissionPolicy : Str) : Except Raised MultiModelCell :=
  if hnamed : deploymentTopology ≠ [] ∧ admissionPolicy ≠ [] then
    if hconfigured : workloads ≠ [] then
      if hdistinct : (workloads.map (·.modelId)).Nodup then
        if hlasting : 0 < durationMs then
          if hconcurrent : 1 ≤ concurrency then
            if hbudgeted : 1 ≤ memoryBudgetBytes then
              if harriving : ∀ workload ∈ workloads, ∀ arrival ∈ workload.arrivalTraceMs, arrival ≤ durationMs then
                .ok ⟨deploymentTopology, workloads, durationMs, concurrency, memoryBudgetBytes, admissionPolicy,
                  hnamed, hconfigured, hdistinct, hlasting, hconcurrent, hbudgeted, harriving⟩
              else reject (lit "arrival trace cannot extend beyond the cell duration")
            else reject (lit "multi-model memory budget must be a positive integer")
          else reject (lit "multi-model concurrency must be a positive integer")
        else reject (lit "multi-model duration must be finite and positive")
      else reject (lit "multi-model resident model IDs must be unique")
    else reject (lit "multi-model cell must configure at least one model")
  else reject (lit "multi-model topology and admission policy must be named")

structure ModelObservation where
  modelId : Str
  available : Bool
  completionTimestampsMs : List ℚ
  outputTokens : Int
  sloGoodCompletions : Int
  named : modelId ≠ []
  produced : 0 ≤ outputTokens
  counted : 0 ≤ sloGoodCompletions
  orderly : ordered sentinel completionTimestampsMs = true
  completed : sloGoodCompletions ≤ completionTimestampsMs.length

/-- `ModelObservation.__post_init__` -/
def modelObservation (modelId : Str) (available : Bool) (completionTimestampsMs : List ℚ)
    (outputTokens sloGoodCompletions : Int) : Except Raised ModelObservation :=
  if hnamed : modelId ≠ [] then
    if hproduced : 0 ≤ outputTokens then
      if hcounted : 0 ≤ sloGoodCompletions then
        if horderly : ordered sentinel completionTimestampsMs = true then
          if hcompleted : sloGoodCompletions ≤ completionTimestampsMs.length then
            .ok ⟨modelId, available, completionTimestampsMs, outputTokens, sloGoodCompletions, hnamed, hproduced,
              hcounted, horderly, hcompleted⟩
          else reject (lit "SLO-good completions cannot exceed completions")
        else reject (lit "completion timestamps must be finite, non-negative, and ordered")
      else reject (lit "multi-model slo_good_completions must be a non-negative integer")
    else reject (lit "multi-model output_tokens must be a non-negative integer")
  else reject (lit "multi-model observation model_id must be non-empty")

/-! ### Every value is one that its constructor returns -/

theorem modelWorkload_fields (w : ModelWorkload) :
    modelWorkload w.modelId w.modelArtifactIdentity w.arrivalTraceMs w.outputWorkIdentity w.serviceWeight = .ok w := by
  unfold modelWorkload
  rw [dif_pos w.named, dif_pos w.weighted, dif_pos w.arrives, dif_pos w.orderly]

theorem multiModelCell_fields (cell : MultiModelCell) :
    multiModelCell cell.deploymentTopology cell.workloads cell.durationMs cell.concurrency cell.memoryBudgetBytes
      cell.admissionPolicy = .ok cell := by
  unfold multiModelCell
  rw [dif_pos cell.named, dif_pos cell.configured, dif_pos cell.distinct, dif_pos cell.lasting,
    dif_pos cell.concurrent, dif_pos cell.budgeted, dif_pos cell.arriving]

theorem modelObservation_fields (o : ModelObservation) :
    modelObservation o.modelId o.available o.completionTimestampsMs o.outputTokens o.sloGoodCompletions = .ok o := by
  unfold modelObservation
  rw [dif_pos o.named, dif_pos o.produced, dif_pos o.counted, dif_pos o.orderly, dif_pos o.completed]

/-! ## The summary -/

structure PerModelFairnessRow where
  modelId : Str
  available : Bool
  offeredLoadRequestsPerSecond : ℚ
  completionRate : ℚ
  outputThroughputTokensPerSecond : ℚ
  sloGoodputRequestsPerSecond : ℚ
  maximumProgressGapMs : ℚ
  usefulServiceShare : ℚ
  targetWeightedServiceShare : ℚ
  weightedServiceError : ℚ
  failureReasons : List Str

structure MultiModelSummary where
  deploymentTopology : Str
  perModelRows : List PerModelFairnessRow
  aggregateOutputThroughputTokensPerSecond : ℚ
  failed : Bool

/-- `max(values)` of values that are not empty. -/
def maximum (values : List ℚ) : ℚ := values.max?.getD 0

/-- `_maximum_progress_gap` -/
def maximumProgressGap (timestamps : List ℚ) (durationMs : ℚ) : ℚ := maximum (gaps (0 :: timestamps ++ [durationMs]))

theorem sentinel_orderly : ordered sentinel [] = true := rfl

/-- `ModelObservation(workload.model_id, False, (), 0, 0)` -/
def ModelWorkload.unobserved (workload : ModelWorkload) : ModelObservation :=
  ⟨workload.modelId, false, [], 0, 0, workload.named.1, le_rfl, le_rfl, sentinel_orderly, le_rfl⟩

/-- One turn of the loop over the observations. The key of an entry of `by_model` is the model of the entry. -/
def collect (cell : MultiModelCell) (byModel : List ModelObservation) (observation : ModelObservation) :
    Except Raised (List ModelObservation) :=
  if observation.modelId ∉ cell.workloads.map (·.modelId) then
    reject (lit "observation has an unconfigured model: " ++ observation.modelId)
  else if observation.modelId ∈ byModel.map (·.modelId) then
    reject (lit "duplicate observation for model: " ++ observation.modelId)
  else if observation.completionTimestampsMs.any fun value => decide (cell.durationMs < value) then
    reject (lit "completion timestamp exceeds the cell duration")
  else .ok (byModel ++ [observation])

/-- `by_model.get(workload.model_id, …)` -/
def observationOf (byModel : List ModelObservation) (workload : ModelWorkload) : ModelObservation :=
  (byModel.find? fun observation => decide (observation.modelId = workload.modelId)).getD workload.unobserved

def totalOutput (byModel : List ModelObservation) : Int := (byModel.map (·.outputTokens)).sum

def totalWeight (cell : MultiModelCell) : ℚ := (cell.workloads.map (·.serviceWeight)).sum

/-- The row of a model, with what it was observed to do. -/
def fairnessRow (cell : MultiModelCell) (total : Int) (workload : ModelWorkload) (observation : ModelObservation) :
    PerModelFairnessRow :=
  let seconds := cell.durationMs / 1000
  let usefulShare : ℚ := if total ≠ 0 then observation.outputTokens / total else 0
  let targetShare := workload.serviceWeight / totalWeight cell
  { modelId := workload.modelId
    available := observation.available
    offeredLoadRequestsPerSecond := workload.arrivalTraceMs.length / seconds
    completionRate := observation.completionTimestampsMs.length / workload.arrivalTraceMs.length
    outputThroughputTokensPerSecond := observation.outputTokens / seconds
    sloGoodputRequestsPerSecond := observation.sloGoodCompletions / seconds
    maximumProgressGapMs := maximumProgressGap observation.completionTimestampsMs cell.durationMs
    usefulServiceShare := usefulShare
    targetWeightedServiceShare := targetShare
    weightedServiceError := |usefulShare - targetShare|
    failureReasons :=
      (if !observation.available then [lit "configured_model_unavailable"] else []) ++
        (if observation.completionTimestampsMs.length = 0 then [lit "zero_completions"] else []) }

/-- One turn of the loop over the workloads. -/
def summarizeModel (cell : MultiModelCell) (byModel : List ModelObservation) (workload : ModelWorkload) :
    Except Raised PerModelFairnessRow :=
  let observation := observationOf byModel workload
  if workload.arrivalTraceMs.length < observation.completionTimestampsMs.length then
    reject (lit "model completions cannot exceed offered requests")
  else .ok (fairnessRow cell (totalOutput byModel) workload observation)

/-- `summarize_multi_model_cell` -/
def summarizeMultiModelCell (cell : MultiModelCell) (observations : List ModelObservation) :
    Except Raised MultiModelSummary := do
  let byModel ← observations.foldlM (collect cell) []
  let rows ← cell.workloads.mapM (summarizeModel cell byModel)
  return {
    deploymentTopology := cell.deploymentTopology
    perModelRows := rows
    aggregateOutputThroughputTokensPerSecond := totalOutput byModel / (cell.durationMs / 1000)
    failed := rows.any fun row => !row.failureReasons.isEmpty }

/-! ## When the summary returns -/

theorem ordered_iff (prior : ℚ) (values : List ℚ) :
    ordered prior values = true ↔ (prior :: values).Pairwise (· ≤ ·) := by
  induction values generalizing prior with
  | nil => simp [ordered]
  | cons value values ih =>
    rw [ordered, Bool.and_eq_true, ih, Bool.not_eq_true', decide_eq_false_iff_not, not_lt]
    constructor
    · rintro ⟨hle, hsorted⟩
      refine List.pairwise_cons.mpr ⟨fun x hx => ?_, hsorted⟩
      rcases List.mem_cons.mp hx with rfl | hx
      · exact hle
      · exact hle.trans ((List.pairwise_cons.mp hsorted).1 x hx)
    · intro hsorted
      exact ⟨(List.pairwise_cons.mp hsorted).1 value (by simp), (List.pairwise_cons.mp hsorted).2⟩

/-- The observations that the first loop lets through. -/
structure Admitted (cell : MultiModelCell) (observations : List ModelObservation) : Prop where
  configured : ∀ o ∈ observations, o.modelId ∈ cell.workloads.map (·.modelId)
  distinct : (observations.map (·.modelId)).Nodup
  within : ∀ o ∈ observations, ∀ t ∈ o.completionTimestampsMs, t ≤ cell.durationMs

theorem collect_ok_iff (cell : MultiModelCell) (byModel after : List ModelObservation) (o : ModelObservation) :
    collect cell byModel o = .ok after ↔ (o.modelId ∈ cell.workloads.map (·.modelId) ∧
      o.modelId ∉ byModel.map (·.modelId) ∧ ∀ t ∈ o.completionTimestampsMs, t ≤ cell.durationMs) ∧
      after = byModel ++ [o] := by
  have hwithin : (o.completionTimestampsMs.any fun value => decide (cell.durationMs < value)) = true ↔
      ¬ ∀ t ∈ o.completionTimestampsMs, t ≤ cell.durationMs := by
    simp
  unfold collect
  split
  · rename_i hconfigured
    simp [reject, hconfigured]
  split
  · rename_i hold
    simp [reject, hold]
  split
  · rename_i hlate
    simp only [reject, reduceCtorEq, false_iff]
    exact fun h => hwithin.mp hlate h.1.2.2
  · rename_i hconfigured hnew hlate
    rw [hwithin, not_not] at hlate
    rw [not_not] at hconfigured
    simp only [Except.ok.injEq]
    exact ⟨fun h => ⟨⟨hconfigured, hnew, hlate⟩, h.symm⟩, fun h => h.2.symm⟩

/-- The first loop keeps the observations as they are. -/
theorem collected_iff (cell : MultiModelCell) (byModel observations after : List ModelObservation)
    (hbefore : (byModel.map (·.modelId)).Nodup) : observations.foldlM (collect cell) byModel = .ok after ↔
      ((∀ o ∈ observations, o.modelId ∈ cell.workloads.map (·.modelId)) ∧
        ((byModel ++ observations).map (·.modelId)).Nodup ∧
        ∀ o ∈ observations, ∀ t ∈ o.completionTimestampsMs, t ≤ cell.durationMs) ∧ after = byModel ++ observations := by
  induction observations generalizing byModel with
  | nil => simp [hbefore, eq_comm, pure, Except.pure]
  | cons o observations ih =>
    have hsplit : byModel ++ o :: observations = (byModel ++ [o]) ++ observations := by simp
    rw [List.foldlM_cons, bind_ok_iff, hsplit]
    constructor
    · rintro ⟨next, hnext, hrest⟩
      obtain ⟨⟨hconfigured, hnew, hwithin⟩, rfl⟩ := (collect_ok_iff cell byModel next o).mp hnext
      have hnodup : ((byModel ++ [o]).map (·.modelId)).Nodup := by
        rw [List.map_append, List.nodup_append_comm]
        simpa using ⟨by simpa using hnew, hbefore⟩
      obtain ⟨⟨hall, hdistinct, hlate⟩, hafter⟩ := (ih (byModel ++ [o]) hnodup).mp hrest
      exact ⟨⟨List.forall_mem_cons.mpr ⟨hconfigured, hall⟩, hdistinct, List.forall_mem_cons.mpr ⟨hwithin, hlate⟩⟩,
        hafter⟩
    · rintro ⟨⟨hconfigured, hdistinct, hwithin⟩, hafter⟩
      have hnodup : ((byModel ++ [o]).map (·.modelId)).Nodup := by
        rw [List.map_append] at hdistinct
        exact hdistinct.of_append_left
      refine ⟨byModel ++ [o], (collect_ok_iff cell byModel _ o).mpr
        ⟨⟨hconfigured o (by simp), ?_, hwithin o (by simp)⟩, rfl⟩, ?_⟩
      · rw [List.map_append, List.nodup_append] at hnodup
        exact fun hold => hnodup.2.2 _ hold _ (by simp) rfl
      · refine (ih (byModel ++ [o]) hnodup).mpr ⟨⟨fun x hx => hconfigured x (by simp [hx]), hdistinct,
          fun x hx => hwithin x (by simp [hx])⟩, hafter⟩

/-- No model completed more than it was offered. -/
def Offered (cell : MultiModelCell) (observations : List ModelObservation) : Prop :=
  ∀ w ∈ cell.workloads, (observationOf observations w).completionTimestampsMs.length ≤ w.arrivalTraceMs.length

/-- The summary of observations that pass every check. -/
def multiModelSummary (cell : MultiModelCell) (observations : List ModelObservation) : MultiModelSummary :=
  let rows := cell.workloads.map fun w => fairnessRow cell (totalOutput observations) w (observationOf observations w)
  { deploymentTopology := cell.deploymentTopology
    perModelRows := rows
    aggregateOutputThroughputTokensPerSecond := totalOutput observations / (cell.durationMs / 1000)
    failed := rows.any fun row => !row.failureReasons.isEmpty }

theorem summarizeModel_ok_iff (cell : MultiModelCell) (observations : List ModelObservation) (w : ModelWorkload)
    (row : PerModelFairnessRow) : summarizeModel cell observations w = .ok row ↔
      (observationOf observations w).completionTimestampsMs.length ≤ w.arrivalTraceMs.length ∧
        row = fairnessRow cell (totalOutput observations) w (observationOf observations w) := by
  unfold summarizeModel
  dsimp only
  split
  · rename_i hmore
    simp [reject, not_le.mpr hmore]
  · rename_i hless
    simp [not_lt.mp hless, eq_comm]

/-- What the summary returns, and when. -/
theorem summarize_ok_iff (cell : MultiModelCell) (observations : List ModelObservation) (summary : MultiModelSummary) :
    summarizeMultiModelCell cell observations = .ok summary ↔
      Admitted cell observations ∧ Offered cell observations ∧ summary = multiModelSummary cell observations := by
  have hcollected := fun after => collected_iff cell [] observations after List.nodup_nil
  simp only [List.nil_append] at hcollected
  unfold summarizeMultiModelCell
  rw [bind_ok_iff]
  constructor
  · rintro ⟨byModel, hbyModel, h⟩
    obtain ⟨⟨hconfigured, hdistinct, hwithin⟩, rfl⟩ := (hcollected byModel).mp hbyModel
    obtain ⟨rows, hrows, h⟩ := bind_ok_iff.mp h
    have hoffered : Offered cell byModel := by
      intro w hw
      obtain ⟨row, hrow⟩ := mapM_all_ok _ _ _ hrows w hw
      exact ((summarizeModel_ok_iff cell byModel w row).mp hrow).1
    have hmap := mapM_map (summarizeModel cell byModel) id
      (fun w => fairnessRow cell (totalOutput byModel) w (observationOf byModel w))
      (fun w row hrow => ((summarizeModel_ok_iff cell byModel w row).mp hrow).2) _ _ hrows
    rw [List.map_id] at hmap
    cases h
    rw [hmap]
    exact ⟨⟨hconfigured, hdistinct, hwithin⟩, hoffered, rfl⟩
  · rintro ⟨hadmitted, hoffered, rfl⟩
    refine ⟨observations, (hcollected _).mpr ⟨⟨hadmitted.configured, hadmitted.distinct, hadmitted.within⟩, rfl⟩, ?_⟩
    rw [mapM_ok _ _ _ fun w hw => (summarizeModel_ok_iff cell observations w _).mpr ⟨hoffered w hw, rfl⟩]
    rfl

/-! ## The order of the observations -/

theorem find_modelId_iff {observations : List ModelObservation} (hdistinct : (observations.map (·.modelId)).Nodup)
    (modelId : Str) (o : ModelObservation) :
    (observations.find? fun x => decide (x.modelId = modelId)) = some o ↔ o ∈ observations ∧ o.modelId = modelId := by
  constructor
  · intro h
    exact ⟨List.mem_of_find?_eq_some h, by simpa using List.find?_some h⟩
  · rintro ⟨hmem, hid⟩
    cases hfind : observations.find? fun x => decide (x.modelId = modelId) with
    | none => exact absurd (by simpa using hid) (List.find?_eq_none.mp hfind o hmem)
    | some x =>
      have hx : x.modelId = modelId := by simpa using List.find?_some hfind
      rw [List.inj_on_of_nodup_map hdistinct (List.mem_of_find?_eq_some hfind) hmem (hx.trans hid.symm)]

theorem observationOf_perm {observations shuffled : List ModelObservation} (hperm : shuffled.Perm observations)
    (hdistinct : (observations.map (·.modelId)).Nodup) : observationOf shuffled = observationOf observations := by
  funext w
  have hshuffled : (shuffled.map (·.modelId)).Nodup := (hperm.map _).nodup_iff.mpr hdistinct
  have hfind : (shuffled.find? fun x => decide (x.modelId = w.modelId)) =
      observations.find? fun x => decide (x.modelId = w.modelId) := by
    ext o
    rw [find_modelId_iff hshuffled, find_modelId_iff hdistinct, hperm.mem_iff]
  rw [observationOf, observationOf, hfind]

/-- The summary does not see the order of the observations. -/
theorem summarize_perm (cell : MultiModelCell) {observations shuffled : List ModelObservation}
    (hperm : shuffled.Perm observations) (summary : MultiModelSummary)
    (h : summarizeMultiModelCell cell observations = .ok summary) :
    summarizeMultiModelCell cell shuffled = .ok summary := by
  obtain ⟨hadmitted, hoffered, rfl⟩ := (summarize_ok_iff cell observations summary).mp h
  have hof := observationOf_perm hperm hadmitted.distinct
  have htotal : totalOutput shuffled = totalOutput observations := (hperm.map _).sum_eq
  refine (summarize_ok_iff cell shuffled _).mpr ⟨⟨?_, ?_, ?_⟩, ?_, ?_⟩
  · exact fun o ho => hadmitted.configured o (hperm.mem_iff.mp ho)
  · exact (hperm.map _).nodup_iff.mpr hadmitted.distinct
  · exact fun o ho => hadmitted.within o (hperm.mem_iff.mp ho)
  · intro w hw
    rw [hof]
    exact hoffered w hw
  · unfold multiModelSummary
    rw [hof, htotal]

/-! ## The progress gap -/

theorem maximum_mem (values : List ℚ) (hne : values ≠ []) : maximum values ∈ values := by
  cases hmax : values.max? with
  | none => exact absurd (List.max?_eq_none_iff.mp hmax) hne
  | some greatest =>
    rw [maximum, hmax]
    exact List.max?_mem hmax

theorem le_maximum (values : List ℚ) : ∀ value ∈ values, value ≤ maximum values := by
  intro value hvalue
  cases hmax : values.max? with
  | none =>
    rw [List.max?_eq_none_iff.mp hmax] at hvalue
    cases hvalue
  | some greatest =>
    rw [maximum, hmax]
    exact (List.max?_eq_some_iff.mp hmax).2 value hvalue

section Gap

variable {timestamps : List ℚ} {durationMs : ℚ}

theorem length_points (timestamps : List ℚ) (durationMs : ℚ) :
    (gaps (0 :: timestamps ++ [durationMs])).length = timestamps.length + 1 := by
  simp [length_gaps]

theorem points_ne_nil (timestamps : List ℚ) (durationMs : ℚ) : gaps (0 :: timestamps ++ [durationMs]) ≠ [] := by
  rw [← List.length_pos_iff, length_points]
  exact Nat.succ_pos _

theorem sum_points (timestamps : List ℚ) (durationMs : ℚ) :
    (gaps (0 :: timestamps ++ [durationMs])).sum = durationMs := by
  rw [List.cons_append, sum_gaps, List.getLastD_concat, sub_zero]

theorem gap_ge_average (timestamps : List ℚ) (durationMs : ℚ) :
    durationMs / (timestamps.length + 1) ≤ maximumProgressGap timestamps durationMs := by
  obtain ⟨g, hg, hle⟩ := exists_average_le _ (points_ne_nil timestamps durationMs)
  rw [sum_points, length_points] at hle
  push_cast at hle
  exact hle.trans (le_maximum _ g hg)

theorem gap_le_duration (hsorted : (0 :: timestamps ++ [durationMs]).Pairwise (· ≤ ·)) :
    maximumProgressGap timestamps durationMs ≤ durationMs := by
  have hle := gap_le_sum _ hsorted _ (maximum_mem _ (points_ne_nil timestamps durationMs))
  rwa [sum_points] at hle

theorem gap_eq_duration_iff (hduration : 0 < durationMs)
    (hsorted : (0 :: timestamps ++ [durationMs]).Pairwise (· ≤ ·)) :
    maximumProgressGap timestamps durationMs = durationMs ↔ ∀ t ∈ timestamps, ¬ (0 < t ∧ t < durationMs) := by
  rw [← whole_gap_iff timestamps 0 durationMs hduration hsorted, sub_zero]
  constructor
  · intro heq
    have hmem := maximum_mem _ (points_ne_nil timestamps durationMs)
    rwa [← maximumProgressGap, heq] at hmem
  · intro hmem
    exact le_antisymm (gap_le_duration hsorted) (le_maximum _ _ hmem)

theorem points_sorted (hordered : ordered sentinel timestamps = true) (hnonneg : ∀ t ∈ timestamps, 0 ≤ t)
    (hwithin : ∀ t ∈ timestamps, t ≤ durationMs) (hduration : 0 < durationMs) :
    (0 :: timestamps ++ [durationMs]).Pairwise (· ≤ ·) := by
  rw [List.cons_append, List.pairwise_cons]
  refine ⟨?_, List.pairwise_append.mpr ⟨?_, List.pairwise_singleton _ _, ?_⟩⟩
  · intro t ht
    rcases List.mem_append.mp ht with ht | ht
    · exact hnonneg t ht
    · rw [List.mem_singleton.mp ht]
      exact hduration.le
  · exact (List.pairwise_cons.mp ((ordered_iff sentinel timestamps).mp hordered)).2
  · intro t ht last hlast
    rw [List.mem_singleton.mp hlast]
    exact hwithin t ht

end Gap

/-! ## The shares -/

theorem sum_single {ids : List Str} (hdistinct : ids.Nodup) {id : Str} (hid : id ∈ ids) (tokens : Int) :
    (ids.map fun other => if id = other then tokens else 0).sum = tokens := by
  induction ids with
  | nil => cases hid
  | cons head ids ih =>
    obtain ⟨hnew, hrest⟩ := List.nodup_cons.mp hdistinct
    rw [List.map_cons, List.sum_cons]
    by_cases hsame : id = head
    · have hzero : (ids.map fun other => if id = other then tokens else 0).sum = 0 := by
        apply List.sum_eq_zero
        intro n hn
        obtain ⟨other, hother, rfl⟩ := List.mem_map.mp hn
        rw [if_neg]
        rintro rfl
        exact hnew (hsame ▸ hother)
      rw [if_pos hsame, hzero, add_zero]
    · rw [if_neg hsame, zero_add]
      exact ih hrest ((List.mem_cons.mp hid).resolve_left hsame)

/-- The tokens of the rows are the tokens of the observations. -/
theorem sum_tokens (workloads : List ModelWorkload) (hworkloads : (workloads.map (·.modelId)).Nodup)
    (observations : List ModelObservation) (hconfigured : ∀ o ∈ observations, o.modelId ∈ workloads.map (·.modelId))
    (hdistinct : (observations.map (·.modelId)).Nodup) :
    (workloads.map fun w => (observationOf observations w).outputTokens).sum = totalOutput observations := by
  induction observations with
  | nil =>
    apply List.sum_eq_zero
    intro n hn
    obtain ⟨w, -, rfl⟩ := List.mem_map.mp hn
    rfl
  | cons o observations ih =>
    rw [List.map_cons, List.nodup_cons] at hdistinct
    have hone : (fun w => (observationOf (o :: observations) w).outputTokens) =
        fun w => (if o.modelId = w.modelId then o.outputTokens else 0) +
          (observationOf observations w).outputTokens := by
      funext w
      by_cases hsame : o.modelId = w.modelId
      · have hnone : observations.find? (fun x => decide (x.modelId = w.modelId)) = none := by
          rw [List.find?_eq_none]
          intro x hx
          rw [decide_eq_true_eq, ← hsame]
          exact fun heq => hdistinct.1 (List.mem_map.mpr ⟨x, hx, heq⟩)
        rw [if_pos hsame]
        unfold observationOf
        rw [List.find?_cons_of_pos (by simpa using hsame), hnone, Option.getD_some, Option.getD_none]
        exact (add_zero _).symm
      · rw [if_neg hsame, zero_add]
        unfold observationOf
        rw [List.find?_cons_of_neg (by simpa using hsame)]
    rw [hone, List.sum_map_add, ih (fun x hx => hconfigured x (by simp [hx])) hdistinct.2]
    have hsum := sum_single hworkloads (hconfigured o (by simp)) o.outputTokens
    rw [List.map_map] at hsum
    unfold totalOutput
    rw [List.map_cons, List.sum_cons]
    exact congrArg (· + _) hsum

theorem totalOutput_nonneg (observations : List ModelObservation) : 0 ≤ totalOutput observations := by
  apply List.sum_nonneg
  intro n hn
  obtain ⟨o, -, rfl⟩ := List.mem_map.mp hn
  exact o.produced

/-- No model produced more than all of them. -/
theorem tokens_le_total (observations : List ModelObservation) (w : ModelWorkload) :
    (observationOf observations w).outputTokens ≤ totalOutput observations := by
  unfold observationOf
  cases hfind : observations.find? fun o => decide (o.modelId = w.modelId) with
  | none => exact totalOutput_nonneg observations
  | some o =>
    refine List.single_le_sum ?_ _ (List.mem_map.mpr ⟨o, List.mem_of_find?_eq_some hfind, rfl⟩)
    intro n hn
    obtain ⟨other, -, rfl⟩ := List.mem_map.mp hn
    exact other.produced

theorem totalWeight_pos (cell : MultiModelCell) : 0 < totalWeight cell := by
  apply List.sum_pos
  · intro q hq
    obtain ⟨w, -, rfl⟩ := List.mem_map.mp hq
    exact w.weighted
  · simpa using cell.configured

theorem weight_le_total (cell : MultiModelCell) (w : ModelWorkload) (hw : w ∈ cell.workloads) :
    w.serviceWeight ≤ totalWeight cell := by
  refine List.single_le_sum ?_ _ (List.mem_map.mpr ⟨w, hw, rfl⟩)
  intro q hq
  obtain ⟨other, -, rfl⟩ := List.mem_map.mp hq
  exact other.weighted.le

theorem share_bounds {part whole : ℚ} (hpart : 0 ≤ part) (hle : part ≤ whole) : 0 ≤ part / whole ∧ part / whole ≤ 1 :=
  ⟨div_nonneg hpart (hpart.trans hle), div_le_one_of_le₀ hle (hpart.trans hle)⟩

theorem sum_shares {α : Type} (xs : List α) (part : α → ℚ) (hwhole : (xs.map part).sum ≠ 0) :
    (xs.map fun x => part x / (xs.map part).sum).sum = 1 := by
  simp only [div_eq_mul_inv]
  rw [List.sum_map_mul_right, mul_inv_cancel₀ hwhole]

/-! ## The rows -/

/-- What the observations say of a model. -/
def completionsOf (observations : List ModelObservation) (modelId : Str) : List ℚ :=
  (observations.filter fun o => decide (o.modelId = modelId)).flatMap (·.completionTimestampsMs)

/-- The rows of a summary are bounded, and tell the observations without their order. -/
structure SummaryBounded (cell : MultiModelCell) (observations : List ModelObservation) (summary : MultiModelSummary) :
    Prop where
  rows : summary.perModelRows.map (·.modelId) = cell.workloads.map (·.modelId)
  arrivals : ∀ w ∈ cell.workloads, ∀ t ∈ w.arrivalTraceMs, 0 ≤ t ∧ t ≤ cell.durationMs
  completions : ∀ o ∈ observations, ∀ t ∈ o.completionTimestampsMs, 0 ≤ t ∧ t ≤ cell.durationMs
  gapLe : ∀ row ∈ summary.perModelRows, row.maximumProgressGapMs ≤ cell.durationMs
  gapGe : ∀ row ∈ summary.perModelRows,
    cell.durationMs / ((completionsOf observations row.modelId).length + 1) ≤ row.maximumProgressGapMs
  gapEq : ∀ row ∈ summary.perModelRows, row.maximumProgressGapMs = cell.durationMs ↔
    ∀ t ∈ completionsOf observations row.modelId, ¬ (0 < t ∧ t < cell.durationMs)
  rate : ∀ row ∈ summary.perModelRows, 0 ≤ row.completionRate ∧ row.completionRate ≤ 1
  useful : ∀ row ∈ summary.perModelRows, 0 ≤ row.usefulServiceShare ∧ row.usefulServiceShare ≤ 1
  usefulSum : (∃ o ∈ observations, 0 < o.outputTokens) → (summary.perModelRows.map (·.usefulServiceShare)).sum = 1
  targetSum : (summary.perModelRows.map (·.targetWeightedServiceShare)).sum = 1
  error : ∀ row ∈ summary.perModelRows, 0 ≤ row.weightedServiceError ∧ row.weightedServiceError ≤ 1
  failed : summary.failed = true ↔ ∃ w ∈ cell.workloads,
    (∀ o ∈ observations, o.modelId = w.modelId → o.available = false) ∨ completionsOf observations w.modelId = []
  order : ∀ shuffled : List ModelObservation, shuffled.Perm observations →
    summarizeMultiModelCell cell shuffled = .ok summary

section Rows

variable {cell : MultiModelCell} {observations : List ModelObservation}

theorem filter_modelId (hdistinct : (observations.map (·.modelId)).Nodup) (modelId : Str) :
    (observations.filter fun o => decide (o.modelId = modelId)) =
      (observations.find? fun o => decide (o.modelId = modelId)).toList := by
  induction observations with
  | nil => rfl
  | cons o observations ih =>
    rw [List.map_cons, List.nodup_cons] at hdistinct
    by_cases hsame : o.modelId = modelId
    · have hnone : (observations.filter fun x => decide (x.modelId = modelId)) = [] := by
        rw [List.filter_eq_nil_iff]
        intro x hx
        rw [decide_eq_true_eq, ← hsame]
        exact fun heq => hdistinct.1 (List.mem_map.mpr ⟨x, hx, heq⟩)
      rw [List.filter_cons_of_pos (by simpa using hsame), List.find?_cons_of_pos (by simpa using hsame), hnone]
      rfl
    · rw [List.filter_cons_of_neg (by simpa using hsame), List.find?_cons_of_neg (by simpa using hsame)]
      exact ih hdistinct.2

/-- A model is observed once, or not at all. -/
theorem observationOf_cases (hdistinct : (observations.map (·.modelId)).Nodup) (w : ModelWorkload) :
    (∃ o ∈ observations, o.modelId = w.modelId ∧ observationOf observations w = o ∧
      completionsOf observations w.modelId = o.completionTimestampsMs) ∨
    (∀ o ∈ observations, o.modelId ≠ w.modelId) ∧ observationOf observations w = w.unobserved ∧
      completionsOf observations w.modelId = [] := by
  unfold observationOf completionsOf
  rw [filter_modelId hdistinct]
  cases hfind : observations.find? fun o => decide (o.modelId = w.modelId) with
  | none =>
    refine .inr ⟨fun o ho => ?_, rfl, rfl⟩
    simpa using List.find?_eq_none.mp hfind o ho
  | some o =>
    refine .inl ⟨o, List.mem_of_find?_eq_some hfind, by simpa using List.find?_some hfind, rfl, ?_⟩
    simp

theorem completionsOf_eq (hdistinct : (observations.map (·.modelId)).Nodup) (w : ModelWorkload) :
    completionsOf observations w.modelId = (observationOf observations w).completionTimestampsMs := by
  rcases observationOf_cases hdistinct w with ⟨o, -, -, hof, hcompletions⟩ | ⟨-, hof, hcompletions⟩
  · rw [hcompletions, hof]
  · rw [hcompletions, hof]
    rfl

theorem available_iff (hdistinct : (observations.map (·.modelId)).Nodup) (w : ModelWorkload) :
    (observationOf observations w).available = false ↔
      ∀ o ∈ observations, o.modelId = w.modelId → o.available = false := by
  rcases observationOf_cases hdistinct w with ⟨o, ho, hid, hof, -⟩ | ⟨hnone, hof, -⟩
  · rw [hof]
    constructor
    · intro hunavailable x hx hxid
      rw [List.inj_on_of_nodup_map hdistinct hx ho (hxid.trans hid.symm)]
      exact hunavailable
    · exact fun hall => hall o ho hid
  · rw [hof]
    exact ⟨fun _ o ho hid => absurd hid (hnone o ho), fun _ => rfl⟩

/-- The points of a model's row are in order when no completion is negative. -/
theorem row_sorted (hadmitted : Admitted cell observations)
    (hnonneg : ∀ o ∈ observations, ∀ t ∈ o.completionTimestampsMs, 0 ≤ t) (w : ModelWorkload) :
    (0 :: (observationOf observations w).completionTimestampsMs ++ [cell.durationMs]).Pairwise (· ≤ ·) := by
  rcases observationOf_cases hadmitted.distinct w with ⟨o, ho, -, hof, -⟩ | ⟨-, hof, -⟩
  · rw [hof]
    exact points_sorted o.orderly (hnonneg o ho) (hadmitted.within o ho) cell.lasting
  · rw [hof]
    have hnone : ∀ t ∈ w.unobserved.completionTimestampsMs, 0 ≤ t ∧ t ≤ cell.durationMs := by
      intro t ht
      cases ht
    exact points_sorted sentinel_orderly (fun t ht => (hnone t ht).1) (fun t ht => (hnone t ht).2) cell.lasting

theorem useful_bounds (cell : MultiModelCell) (observations : List ModelObservation) (w : ModelWorkload) :
    0 ≤ (fairnessRow cell (totalOutput observations) w (observationOf observations w)).usefulServiceShare ∧
      (fairnessRow cell (totalOutput observations) w (observationOf observations w)).usefulServiceShare ≤ 1 := by
  unfold fairnessRow
  dsimp only
  split
  · apply share_bounds
    · exact_mod_cast (observationOf observations w).produced
    · exact_mod_cast tokens_le_total observations w
  · exact ⟨le_rfl, zero_le_one⟩

theorem target_bounds (w : ModelWorkload) (hw : w ∈ cell.workloads) :
    0 ≤ w.serviceWeight / totalWeight cell ∧ w.serviceWeight / totalWeight cell ≤ 1 :=
  share_bounds w.weighted.le (weight_le_total cell w hw)

theorem useful_sum (hadmitted : Admitted cell observations) (hsome : ∃ o ∈ observations, 0 < o.outputTokens) :
    (cell.workloads.map fun w =>
      (fairnessRow cell (totalOutput observations) w (observationOf observations w)).usefulServiceShare).sum = 1 := by
  have hsum := sum_tokens cell.workloads cell.distinct observations hadmitted.configured hadmitted.distinct
  have htotal : totalOutput observations ≠ 0 := by
    obtain ⟨o, ho, hpositive⟩ := hsome
    have hle : o.outputTokens ≤ totalOutput observations := by
      refine List.single_le_sum ?_ _ (List.mem_map.mpr ⟨o, ho, rfl⟩)
      intro n hn
      obtain ⟨other, -, rfl⟩ := List.mem_map.mp hn
      exact other.produced
    exact (hpositive.trans_le hle).ne'
  have hcast : (cell.workloads.map fun w => ((observationOf observations w).outputTokens : ℚ)).sum =
      totalOutput observations := by
    rw [← hsum]
    push_cast
    rw [List.map_map]
    rfl
  have hshares := sum_shares cell.workloads (fun w => ((observationOf observations w).outputTokens : ℚ))
    (by rw [hcast]; exact_mod_cast htotal)
  rw [hcast] at hshares
  unfold fairnessRow
  dsimp only
  simp only [if_pos htotal]
  exact hshares

theorem target_sum (cell : MultiModelCell) (observe : ModelWorkload → ModelObservation) (total : Int) :
    (cell.workloads.map fun w =>
    (fairnessRow cell total w (observe w)).targetWeightedServiceShare).sum = 1 :=
  sum_shares cell.workloads (·.serviceWeight) (totalWeight_pos cell).ne'

theorem summary_failed (hadmitted : Admitted cell observations) :
    (multiModelSummary cell observations).failed = true ↔ ∃ w ∈ cell.workloads,
      (∀ o ∈ observations, o.modelId = w.modelId → o.available = false) ∨
        completionsOf observations w.modelId = [] := by
  have hreasons (w : ModelWorkload) (total : Int) (o : ModelObservation) :
      (!(fairnessRow cell total w o).failureReasons.isEmpty) = true ↔
        o.available = false ∨ o.completionTimestampsMs = [] := by
    unfold fairnessRow
    dsimp only
    simp only [List.length_eq_zero_iff]
    cases o.available <;> by_cases hnone : o.completionTimestampsMs = [] <;> simp [hnone]
  unfold multiModelSummary
  dsimp only
  rw [List.any_map, List.any_eq_true]
  refine exists_congr fun w => and_congr_right fun _ => ?_
  rw [← available_iff hadmitted.distinct, completionsOf_eq hadmitted.distinct]
  exact hreasons w _ _

end Rows

/-- The rows are bounded exactly if no arrival and no completion is before the start of the cell. -/
theorem summary_bounded_iff (cell : MultiModelCell) (observations : List ModelObservation) (summary : MultiModelSummary)
    (h : summarizeMultiModelCell cell observations = .ok summary) :
    SummaryBounded cell observations summary ↔
      (∀ w ∈ cell.workloads, ∀ t ∈ w.arrivalTraceMs, 0 ≤ t) ∧
        ∀ o ∈ observations, ∀ t ∈ o.completionTimestampsMs, 0 ≤ t := by
  have horder := fun (shuffled : List ModelObservation) (hperm : shuffled.Perm observations) =>
    summarize_perm cell hperm summary h
  obtain ⟨hadmitted, hoffered, rfl⟩ := (summarize_ok_iff cell observations summary).mp h
  have hrow : ∀ row ∈ (multiModelSummary cell observations).perModelRows, ∃ w ∈ cell.workloads,
      row = fairnessRow cell (totalOutput observations) w (observationOf observations w) := by
    intro row hrow
    obtain ⟨w, hw, rfl⟩ := List.mem_map.mp hrow
    exact ⟨w, hw, rfl⟩
  constructor
  · intro hbounded
    exact ⟨fun w hw t ht => (hbounded.arrivals w hw t ht).1, fun o ho t ht => (hbounded.completions o ho t ht).1⟩
  · rintro ⟨harrivals, hnonneg⟩
    have hsorted := row_sorted hadmitted hnonneg
    constructor
    case rows =>
      unfold multiModelSummary
      rw [List.map_map]
      rfl
    case arrivals => exact fun w hw t ht => ⟨harrivals w hw t ht, cell.arriving w hw t ht⟩
    case completions => exact fun o ho t ht => ⟨hnonneg o ho t ht, hadmitted.within o ho t ht⟩
    case gapLe =>
      intro row hr
      obtain ⟨w, -, rfl⟩ := hrow row hr
      exact gap_le_duration (hsorted w)
    case gapGe =>
      intro row hr
      obtain ⟨w, -, rfl⟩ := hrow row hr
      change cell.durationMs / ((completionsOf observations w.modelId).length + 1) ≤ _
      rw [completionsOf_eq hadmitted.distinct]
      exact gap_ge_average _ cell.durationMs
    case gapEq =>
      intro row hr
      obtain ⟨w, -, rfl⟩ := hrow row hr
      change _ ↔ ∀ t ∈ completionsOf observations w.modelId, _
      rw [completionsOf_eq hadmitted.distinct]
      exact gap_eq_duration_iff cell.lasting (hsorted w)
    case rate =>
      intro row hr
      obtain ⟨w, hw, rfl⟩ := hrow row hr
      apply share_bounds
      · exact Nat.cast_nonneg _
      · exact_mod_cast hoffered w hw
    case useful =>
      intro row hr
      obtain ⟨w, -, rfl⟩ := hrow row hr
      exact useful_bounds cell observations w
    case usefulSum =>
      intro hsome
      have hsum := useful_sum hadmitted hsome
      unfold multiModelSummary
      rwa [List.map_map]
    case targetSum =>
      have hsum := target_sum cell (observationOf observations) (totalOutput observations)
      unfold multiModelSummary
      rwa [List.map_map]
    case error =>
      intro row hr
      obtain ⟨w, hw, rfl⟩ := hrow row hr
      have huseful := useful_bounds cell observations w
      have htarget := target_bounds w hw
      refine ⟨abs_nonneg _, abs_sub_le_iff.mpr ⟨?_, ?_⟩⟩
      · exact (sub_le_self _ htarget.1).trans huseful.2
      · exact (sub_le_self _ huseful.1).trans htarget.2
    case failed => exact summary_failed hadmitted
    case order => exact horder

/-! ## A completion before the start -/

theorem early_orderly : ordered sentinel [-1 / 2] = true := by
  rw [ordered_iff, sentinel, List.pairwise_pair]
  norm_num

theorem start_orderly : ordered sentinel [0] = true := by
  rw [ordered_iff, sentinel, List.pairwise_pair]
  norm_num

theorem workload_named : lit "model" ≠ [] ∧ lit "artifact" ≠ [] ∧ lit "work" ≠ [] := by decide

theorem cell_named : lit "shared" ≠ [] ∧ lit "fifo" ≠ [] := by decide

def startWorkload : ModelWorkload :=
  ⟨lit "model", lit "artifact", [0], lit "work", 1, workload_named, one_pos, List.cons_ne_nil _ _, start_orderly⟩

theorem start_arriving : ∀ w ∈ [startWorkload], ∀ arrival ∈ w.arrivalTraceMs, arrival ≤ 10 := by
  intro w hw arrival harrival
  rw [List.mem_singleton.mp hw] at harrival
  rw [List.mem_singleton.mp harrival]
  norm_num

theorem ten_pos : (0 : ℚ) < 10 := by norm_num

def startCell : MultiModelCell :=
  ⟨lit "shared", [startWorkload], 10, 1, 1, lit "fifo", cell_named, List.cons_ne_nil _ _, List.nodup_singleton _,
    ten_pos, le_rfl, le_rfl, start_arriving⟩

theorem four_nonneg : (0 : Int) ≤ 4 := by decide

theorem early_completed : (1 : Int) ≤ ([-1 / 2] : List ℚ).length := by decide

def earlyObservation : ModelObservation :=
  ⟨lit "model", true, [-1 / 2], 4, 1, workload_named.1, four_nonneg, zero_le_one, early_orderly, early_completed⟩

theorem summarize_single (observation : ModelObservation) (hmodel : observation.modelId = lit "model")
    (hcompletions : observation.completionTimestampsMs.length = 1)
    (hwithin : ∀ t ∈ observation.completionTimestampsMs, t ≤ 10) :
    summarizeMultiModelCell startCell [observation] = .ok (multiModelSummary startCell [observation]) := by
  refine (summarize_ok_iff startCell [observation] _).mpr ⟨⟨?_, List.nodup_singleton _, ?_⟩, ?_, rfl⟩
  · intro o ho
    rw [List.mem_singleton.mp ho, hmodel]
    exact List.mem_singleton.mpr rfl
  · intro o ho
    rw [List.mem_singleton.mp ho]
    exact hwithin
  · intro w hw
    rw [List.mem_singleton.mp hw, observationOf, List.find?_cons_of_pos (by simp [hmodel, startWorkload]),
      Option.getD_some, hcompletions]
    exact le_rfl

/-- The constructor takes the timestamp, and the gap is wider than the cell. -/
theorem early_completion :
    modelObservation (lit "model") true [-1 / 2] 4 1 = .ok earlyObservation ∧
      ∃ summary, summarizeMultiModelCell startCell [earlyObservation] = .ok summary ∧
        (∃ row ∈ summary.perModelRows, startCell.durationMs < row.maximumProgressGapMs) ∧
        ¬ SummaryBounded startCell [earlyObservation] summary := by
  have hgap : ∃ row ∈ (multiModelSummary startCell [earlyObservation]).perModelRows,
      startCell.durationMs < row.maximumProgressGapMs := by
    refine ⟨_, List.mem_cons_self .., ?_⟩
    have hwide : (10 - -1 / 2 : ℚ) ≤ maximumProgressGap [-1 / 2] 10 := by
      apply le_maximum
      simp [gaps]
    exact (show (10 : ℚ) < 10 - -1 / 2 by norm_num).trans_le hwide
  refine ⟨?_, _, summarize_single earlyObservation rfl rfl ?_, hgap, fun hbounded => ?_⟩
  · exact modelObservation_fields earlyObservation
  · intro t ht
    rw [List.mem_singleton.mp ht]
    norm_num
  · obtain ⟨row, hrow, hwide⟩ := hgap
    exact absurd (hbounded.gapLe row hrow) (not_le.mpr hwide)

theorem unit_completed : (1 : Int) ≤ ([0] : List ℚ).length := by decide

def startObservation : ModelObservation :=
  ⟨lit "model", true, [0], 4, 1, workload_named.1, four_nonneg, zero_le_one, start_orderly, unit_completed⟩

theorem summary_bounded_start :
    SummaryBounded startCell [startObservation] (multiModelSummary startCell [startObservation]) := by
  have hzero : ∀ t ∈ startObservation.completionTimestampsMs, 0 ≤ t ∧ t ≤ 10 := by
    intro t ht
    rw [List.mem_singleton.mp ht]
    norm_num
  refine (summary_bounded_iff startCell [startObservation] _
    (summarize_single startObservation rfl rfl fun t ht => (hzero t ht).2)).mpr ⟨?_, ?_⟩
  · intro w hw t ht
    rw [List.mem_singleton.mp hw] at ht
    exact (List.mem_singleton.mp ht).ge
  · intro o ho t ht
    rw [List.mem_singleton.mp ho] at ht
    exact (hzero t ht).1

end TurnVector.CrossEngine
