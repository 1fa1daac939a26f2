import TurnVector.Performance.Evidence
import TurnVector.Ranks
import Mathlib.Data.List.Perm.Basic

/-! # Percentiles

The three percentile reducers over exact rationals. `nearest_rank` is that of `cross_engine/metrics.py`.
-/

namespace TurnVector.Percentiles

open Python Json Ranks
open CrossEngine (PyFloat)
open Lanes (Floats percentile number numbers sampleArray reducePercentile reduceObservations MetricRecipe Metric)

/-! ## `nearest_rank` -/

/-- `finite_number(value, where)` -/
def finiteNumber (floats : Floats) (value : Json) (place : Str) : Except CrossEngine.Raised ℚ :=
  match value with
  | .int n =>
    match floats.ofInt n with
    | some q => .ok q
    | none => .error ⟨lit "OverflowError", lit "int too large to convert to float"⟩
  | .float token =>
    match floats.ofToken token with
    | .finite q => .ok q
    | _ => CrossEngine.Contracts.reject (place ++ lit " must be finite")
  | _ => CrossEngine.Contracts.reject (place ++ lit " must be a number")

/-- `items[index]`, where a negative index counts from the end. -/
def itemOf {α : Type} (items : List α) (index : Int) : Option α :=
  if 0 ≤ index then items[index.toNat]?
  else if 0 ≤ index + items.length then items[(index + items.length).toNat]?
  else none

/-- `nearest_rank(values, percentile)` -/
def nearestRank (floats : Floats) (values : List Json) (percentile : Json) : Except CrossEngine.Raised PyFloat :=
  match percentile with
  | .int p =>
    if p < 1 ∨ 100 < p then CrossEngine.Contracts.reject (lit "percentile must be between 1 and 100")
    else if values.isEmpty then
      CrossEngine.Contracts.reject (lit "nearest-rank reducer requires at least one value")
    else do
      let parsed ← values.zipIdx.mapM fun value =>
        finiteNumber floats value.1 (Canonical.itemAt (lit "values") value.2)
      let ordered := parsed.insertionSort (· ≤ ·)
      match floats.mul (floats.div (.finite p) (floats.literal 100)) (.finite ordered.length) with
      | .finite position =>
        match itemOf ordered (⌈position⌉ - 1) with
        | some value => .ok (.finite value)
        | none => .error ⟨lit "IndexError", lit "list index out of range"⟩
      | .infinite _ => .error ⟨lit "OverflowError", lit "cannot convert float infinity to integer"⟩
      | .nan => .error ⟨lit "ValueError", lit "cannot convert float NaN to integer"⟩
  | _ => CrossEngine.Contracts.reject (lit "percentile must be an integer")

/-! ## Exact arithmetic -/

def onFinite (op : ℚ → ℚ → ℚ) : PyFloat → PyFloat → PyFloat
  | .finite a, .finite b => .finite (op a b)
  | _, _ => .nan

/-- Rationals for floats, whatever the numbers that tokens name. -/
def exactly (tokens : Str → PyFloat) (texts : Str → Option PyFloat) : Floats where
  ofInt n := some n
  ofToken := tokens
  ofText := texts
  literal q := .finite q
  add := onFinite (· + ·)
  sub := onFinite (· - ·)
  mul := onFinite (· * ·)
  div := onFinite (· / ·)
  sum qs := .finite qs.sum

/-- The number that a sample is. -/
def exactValue (tokens : Str → PyFloat) : Json → Option ℚ
  | .int n => some n
  | .float token =>
    match tokens token with
    | .finite q => some q
    | _ => none
  | _ => none

variable (tokens : Str → PyFloat) (texts : Str → Option PyFloat)

@[simp] theorem exactly_add (a b : ℚ) : (exactly tokens texts).add (.finite a) (.finite b) = .finite (a + b) := rfl

@[simp] theorem exactly_sub (a b : ℚ) : (exactly tokens texts).sub (.finite a) (.finite b) = .finite (a - b) := rfl

@[simp] theorem exactly_mul (a b : ℚ) : (exactly tokens texts).mul (.finite a) (.finite b) = .finite (a * b) := rfl

@[simp] theorem exactly_div (a b : ℚ) : (exactly tokens texts).div (.finite a) (.finite b) = .finite (a / b) := rfl

@[simp] theorem exactly_literal (q : ℚ) : (exactly tokens texts).literal q = .finite q := rfl

theorem toOption_number (value : Json) (place : Str) :
    (number (exactly tokens texts) value place).toOption = exactValue tokens value := by
  unfold number exactValue
  cases value with
  | float token =>
    simp only [exactly]
    cases tokens token <;> rfl
  | _ => rfl

theorem toOption_finiteNumber (value : Json) (place : Str) :
    (finiteNumber (exactly tokens texts) value place).toOption = exactValue tokens value := by
  unfold finiteNumber exactValue
  cases value with
  | float token =>
    simp only [exactly]
    cases tokens token <;> rfl
  | _ => rfl

/-! ## Lists of readings -/

section Readings

variable {ε α β : Type}

theorem ok_of_toOption {e : Except ε α} {a : α} (h : e.toOption = some a) : e = .ok a := by
  cases e with
  | error e => cases h
  | ok b => rw [Option.some.inj h]

theorem toOption_bind (e : Except ε α) (f : α → Except ε β) :
    (e >>= f).toOption = e.toOption.bind fun a => (f a).toOption := by
  cases e <;> rfl

/-- Where an item is has no part in what is read from it. -/
theorem toOption_mapM_zipIdx {f : α × Nat → Except ε β} {read : α → Option β} (h : ∀ x, (f x).toOption = read x.1)
    (xs : List α) (k : Nat) : ((xs.zipIdx k).mapM f).toOption = xs.mapM read := by
  induction xs generalizing k with
  | nil => rfl
  | cons x xs ih =>
    rw [List.zipIdx_cons, List.mapM_cons, List.mapM_cons, ← h (x, k), ← ih (k + 1)]
    cases f (x, k) with
    | error e => rfl
    | ok a =>
      cases (xs.zipIdx (k + 1)).mapM f with
      | error e => rfl
      | ok as => rfl

theorem mapM_some_iff {f : α → Option β} {xs : List α} {ys : List β} :
    xs.mapM f = some ys ↔ List.Forall₂ (fun x y => f x = some y) xs ys := by
  induction xs generalizing ys with
  | nil => simp [eq_comm]
  | cons x xs ih =>
    rw [List.mapM_cons, List.forall₂_cons_left_iff]
    constructor
    · intro h
      obtain ⟨y, hy, h⟩ := Option.bind_eq_some_iff.mp h
      obtain ⟨rest, hrest, h⟩ := Option.bind_eq_some_iff.mp h
      exact ⟨y, rest, hy, ih.mp hrest, (Option.some.inj h).symm⟩
    · rintro ⟨y, rest, hy, hrest, rfl⟩
      rw [hy, ih.mpr hrest]
      rfl

/-- What is read from the same items in another order. -/
theorem mapM_perm {f : α → Option β} {xs xs' : List α} (h : xs.Perm xs') {ys : List β} (hys : xs.mapM f = some ys) :
    ∃ ys', xs'.mapM f = some ys' ∧ ys.Perm ys' := by
  obtain ⟨ys', hys', hperm⟩ := List.perm_comp_forall₂ h.symm (mapM_some_iff.mp hys)
  exact ⟨ys', mapM_some_iff.mpr hys', hperm.symm⟩

/-- Reading part by part reads the whole. -/
theorem mapM_flatten (f : α → Option β) (parts : List (List α)) :
    (parts.mapM (List.mapM f)).map List.flatten = parts.flatten.mapM f := by
  induction parts with
  | nil => rfl
  | cons part parts ih =>
    rw [List.mapM_cons, List.flatten_cons, List.mapM_append, ← ih]
    cases part.mapM f with
    | none => rfl
    | some ys =>
      cases parts.mapM (List.mapM f) with
      | none => rfl
      | some rest => rfl

end Readings

/-! ## Interpolation -/

section Interpolation

/-- The sample at an index of the sorted samples. -/
def ordered (samples : List ℚ) (index : Nat) : ℚ := (sort samples).getD index 0

theorem ordered_eq {samples : List ℚ} {index : Nat} (h : index < (sort samples).length) :
    ordered samples index = (sort samples)[index] := List.getD_eq_getElem _ _ h

theorem ordered_mem {samples : List ℚ} {index : Nat} (h : index < samples.length) :
    ordered samples index ∈ samples := by
  have hsort : index < (sort samples).length := by rwa [length_sort]
  rw [ordered_eq hsort]
  exact (List.perm_insertionSort _ samples).mem_iff.mp (List.getElem_mem hsort)

theorem ordered_mono (samples : List ℚ) :
    ∀ i j, i ≤ j → j < samples.length → ordered samples i ≤ ordered samples j := by
  intro i j hij hj
  have hsort : j < (sort samples).length := by rwa [length_sort]
  rw [ordered_eq hsort, ordered_eq (hij.trans_lt hsort)]
  exact sort_monotone samples hij hsort

theorem ordered_le_ordered {samples samples' : List ℚ} (h : List.Forall₂ (· ≤ ·) samples samples') :
    ∀ index < samples.length, ordered samples index ≤ ordered samples' index := by
  intro index hindex
  have hsort : index < (sort samples).length := by rwa [length_sort]
  have hsort' : index < (sort samples').length := by rwa [length_sort, ← h.length_eq]
  rw [ordered_eq hsort, ordered_eq hsort']
  exact sort_le_sort h index hsort hsort'

/-- The first and the last of the sorted samples are the least and the greatest one. -/
theorem ordered_bounds {samples : List ℚ} {sample : ℚ} (h : sample ∈ samples) :
    ordered samples 0 ≤ sample ∧ sample ≤ ordered samples (samples.length - 1) := by
  obtain ⟨index, hindex, rfl⟩ := List.mem_iff_getElem.mp ((List.perm_insertionSort (· ≤ ·) samples).mem_iff.mpr h)
  change index < (sort samples).length at hindex
  have hlength := length_sort samples
  rw [← ordered_eq hindex]
  constructor
  · exact ordered_mono samples 0 index (by omega) (by omega)
  · exact ordered_mono samples index _ (by omega) (by omega)

/-- The place of a percentile among the samples. -/
def position (samples : List ℚ) (share : ℚ) : ℚ := ((samples.length : ℚ) - 1) * share

variable {samples : List ℚ} {share : ℚ}

theorem position_nonneg (hsome : samples ≠ []) (hshare : 0 ≤ share) : 0 ≤ position samples share := by
  have hone : (1 : ℚ) ≤ samples.length := by exact_mod_cast List.length_pos_iff.mpr hsome
  exact mul_nonneg (by linarith) hshare

theorem position_le (hsome : samples ≠ []) {share' : ℚ} (h : share ≤ share') :
    position samples share ≤ position samples share' := by
  have hone : (1 : ℚ) ≤ samples.length := by exact_mod_cast List.length_pos_iff.mpr hsome
  exact mul_le_mul_of_nonneg_left h (by linarith)

theorem ceil_position_lt (hsome : samples ≠ []) (hshare : share ≤ 1) : ⌈position samples share⌉₊ < samples.length := by
  have hpos := List.length_pos_iff.mpr hsome
  have hlast : position samples share ≤ ((samples.length - 1 : ℕ) : ℚ) := by
    have hle := position_le hsome hshare
    rw [Nat.cast_sub (by omega), Nat.cast_one]
    unfold position at hle ⊢
    linarith
  have hceil := Nat.ceil_le.mpr hlast
  omega

/-- `_percentile` is the interpolation at its place. -/
theorem percentile_eq (hsome : samples ≠ []) (share : ℚ) :
    percentile (exactly tokens texts) samples share =
      .ok (.finite (interpolate (ordered samples) (position samples share))) := by
  have hlength := length_sort samples
  unfold percentile
  rcases hsorted : sort samples with _ | ⟨first, _ | ⟨second, rest⟩⟩
  · rw [hsorted] at hlength
    exact absurd (List.length_eq_zero_iff.mp hlength.symm) hsome
  · have hzero : position samples share = 0 := by simp [position, ← hlength, hsorted]
    simp [hsorted, hzero, interpolate, ordered]
  · have hcount : ((first :: second :: rest).length : ℚ) - 1 = (samples.length : ℚ) - 1 := by rw [← hsorted, hlength]
    have hat : ∀ index, (first :: second :: rest).getD index 0 = ordered samples index := by simp [ordered, hsorted]
    simp only [hsorted, exactly_literal, exactly_mul, hcount, hat, Int.floor_toNat, Int.ceil_toNat]
    change (if ⌊position samples share⌋₊ = ⌈position samples share⌉₊ then _ else _) = _
    split
    · rename_i hwhole
      have hvalue : ordered samples ⌊position samples share⌋₊ =
          interpolate (ordered samples) (position samples share) := by
        unfold interpolate
        rw [← hwhole]
        ring
      rw [← hvalue]
      rfl
    · rfl

end Interpolation

/-! ## Order statistics -/

/-- Between the least and the greatest sample. -/
structure Within (samples : List ℚ) (value : ℚ) : Prop where
  above : ∃ low ∈ samples, (∀ sample ∈ samples, low ≤ sample) ∧ low ≤ value
  below : ∃ high ∈ samples, (∀ sample ∈ samples, sample ≤ high) ∧ value ≤ high

theorem interpolate_within {samples : List ℚ} {share : ℚ} (hsome : samples ≠ []) (h0 : 0 ≤ share) (h1 : share ≤ 1) :
    Within samples (interpolate (ordered samples) (position samples share)) := by
  have hpos := List.length_pos_iff.mpr hsome
  have hin := ceil_position_lt hsome h1
  have hbetween := interpolate_between (ordered_mono samples) (position_nonneg hsome h0) hin
  constructor
  · refine ⟨ordered samples 0, ordered_mem hpos, fun sample hsample => (ordered_bounds hsample).1, ?_⟩
    exact (ordered_mono samples 0 _ (Nat.zero_le _) ((Nat.floor_le_ceil _).trans_lt hin)).trans hbetween.1
  · refine ⟨ordered samples (samples.length - 1), ordered_mem (by omega),
      fun sample hsample => (ordered_bounds hsample).2, ?_⟩
    exact hbetween.2.trans (ordered_mono samples _ _ (by omega) (by omega))

/-- The item at a rank, as the two rank formulas find it. -/
theorem atRank_getElem? (samples : List ℚ) {rank : ℚ} (hpos : 0 < rank) (hle : rank ≤ samples.length) :
    ∃ value, (samples.insertionSort (· ≤ ·))[⌈rank⌉.toNat - 1]? = some value ∧ AtRank samples rank value := by
  have hk := lt_length_sort samples hpos hle
  refine ⟨(sort samples)[⌈rank⌉₊ - 1], ?_, sort_atRank samples hpos hk⟩
  rw [Int.ceil_toNat]
  exact List.getElem?_eq_getElem hk

/-- `_nearest_rank` -/
theorem nearestRank_atRank (samples : List ℚ) (hsome : samples ≠ []) {quantile : ℚ} (h0 : 0 < quantile)
    (h1 : quantile ≤ 1) :
    ∃ value, Performance.nearestRank (exactly tokens texts) samples quantile = .ok (.finite value) ∧
      AtRank samples (quantile * samples.length) value := by
  have hone : (1 : ℚ) ≤ samples.length := by exact_mod_cast List.length_pos_iff.mpr hsome
  have hpos : 0 < quantile * samples.length := mul_pos h0 (by linarith)
  obtain ⟨value, hvalue, hrank⟩ := atRank_getElem? samples hpos (by nlinarith)
  have hceil : max 1 ⌈quantile * samples.length⌉ = ⌈quantile * samples.length⌉ :=
    max_eq_right (Int.ceil_pos.mpr hpos)
  refine ⟨value, ?_, hrank⟩
  simp [Performance.nearestRank, hceil, hvalue]

/-- `nearest_rank` gives the item at the rank, rounded up. -/
theorem nearest_rank_eq {values : List Json} {samples : List ℚ}
    (hread : values.mapM (exactValue tokens) = some samples) (hsome : samples ≠ []) {p : Int} (h1 : 1 ≤ p)
    (h100 : p ≤ 100) {value : ℚ}
    (hvalue : (samples.insertionSort (· ≤ ·))[⌈(p / 100 * samples.length : ℚ)⌉.toNat - 1]? = some value) :
    nearestRank (exactly tokens texts) values (.int p) = .ok (.finite value) := by
  have hone : (1 : ℚ) ≤ samples.length := by exact_mod_cast List.length_pos_iff.mpr hsome
  have hp : (0 : ℚ) < p := by exact_mod_cast h1
  have hceil : 0 < ⌈(p / 100 * samples.length : ℚ)⌉ := Int.ceil_pos.mpr (by positivity)
  have hvalues : values.isEmpty = false := by
    cases values with
    | nil => exact absurd (Option.some.inj hread).symm hsome
    | cons value values => rfl
  have hparsed : (values.zipIdx.mapM fun value => finiteNumber (exactly tokens texts) value.1
      (Canonical.itemAt (lit "values") value.2)) = .ok samples := by
    apply ok_of_toOption
    rw [← hread]
    exact toOption_mapM_zipIdx (fun x => toOption_finiteNumber tokens texts x.1 _) values 0
  have hitem : itemOf (samples.insertionSort (· ≤ ·)) (⌈(p / 100 * samples.length : ℚ)⌉ - 1) = some value := by
    unfold itemOf
    rw [if_pos (by omega), ← hvalue]
    congr 1
    omega
  have hrange : ¬ (p < 1 ∨ 100 < p) := by omega
  simp [nearestRank, hrange, hvalues, hparsed, hitem, bind, Except.bind]

/-! ## The order of the samples -/

theorem percentile_perm (floats : Floats) {samples samples' : List ℚ} (h : samples.Perm samples') (share : ℚ) :
    percentile floats samples share = percentile floats samples' share := by
  have hsort : samples.insertionSort (· ≤ ·) = samples'.insertionSort (· ≤ ·) := sort_perm h
  unfold percentile
  rw [hsort]

theorem nearestRank_perm (floats : Floats) {samples samples' : List ℚ} (h : samples.Perm samples') (quantile : ℚ) :
    Performance.nearestRank floats samples quantile = Performance.nearestRank floats samples' quantile := by
  have hsort : samples.insertionSort (· ≤ ·) = samples'.insertionSort (· ≤ ·) := sort_perm h
  unfold Performance.nearestRank
  rw [hsort]

/-! ## Samples of several cases -/

/-- The percentile of a reducer. -/
def shareOf : Lanes.Reducer → Option ℚ
  | .p50 => some (1 / 2)
  | .p95 => some (95 / 100)
  | .p99 => some (99 / 100)
  | _ => none

/-- The samples of a case. -/
def caseSamples (value : Json) : Option (List ℚ) :=
  match value with
  | .arr (sample :: samples) => (sample :: samples).mapM (exactValue tokens)
  | _ => none

theorem toOption_sampleArray (value : Json) (place : Str) :
    (sampleArray (exactly tokens texts) value place).toOption = caseSamples tokens value := by
  cases value with
  | arr samples =>
    cases samples with
    | nil => rfl
    | cons sample samples => exact toOption_mapM_zipIdx (fun x => toOption_number tokens texts x.1 _) _ 0
  | _ => rfl

theorem mapM_caseSamples {cases : List (List Json)} (hcases : ∀ samples ∈ cases, samples ≠ []) :
    (cases.map Json.arr).mapM (caseSamples tokens) = cases.mapM (List.mapM (exactValue tokens)) := by
  induction cases with
  | nil => rfl
  | cons samples cases ih =>
    obtain ⟨hsamples, hcases⟩ := List.forall_mem_cons.mp hcases
    have hfirst : caseSamples tokens (.arr samples) = samples.mapM (exactValue tokens) := by
      cases samples with
      | nil => exact absurd rfl hsamples
      | cons sample samples => rfl
    rw [List.map_cons, List.mapM_cons, List.mapM_cons, hfirst, ih hcases]

/-- A percentile reducer gives the percentile of all samples together. -/
theorem reduceObservations_eq {recipe : MetricRecipe} {share : ℚ} (hshare : shareOf recipe.reducer = some share)
    {cases : List (List Json)} (hcases : ∀ samples ∈ cases, samples ≠ []) :
    (reduceObservations (exactly tokens texts) recipe (cases.map .arr)).toOption =
      (cases.flatten.mapM (exactValue tokens)).bind fun samples =>
        (percentile (exactly tokens texts) samples share).toOption.map .float := by
  have hreduce : ∀ place, (reducePercentile (exactly tokens texts) share (cases.map .arr) place).toOption =
      (cases.flatten.mapM (exactValue tokens)).bind fun samples =>
        (percentile (exactly tokens texts) samples share).toOption.map .float := by
    intro place
    have hsamples := toOption_mapM_zipIdx (fun x => toOption_sampleArray tokens texts x.1 (Canonical.itemAt place x.2))
      (cases.map Json.arr) 0
    unfold reducePercentile
    rw [toOption_bind, hsamples, mapM_caseSamples tokens hcases, ← mapM_flatten, Option.bind_map]
    congr 1
    funext samples
    rw [Function.comp_apply, toOption_bind]
    cases percentile (exactly tokens texts) samples.flatten share <;> rfl
  unfold reduceObservations
  cases cases with
  | nil => rfl
  | cons samples cases =>
    rw [if_neg (by simp)]
    revert hshare hreduce
    cases recipe.reducer <;> simp only [shareOf, Option.some.injEq, reduceCtorEq, false_implies]
    all_goals
      rintro rfl hreduce
      exact hreduce _

/-- How the samples are split between the cases has no part in their percentile, and neither has their order. -/
theorem reduceObservations_perm {recipe : MetricRecipe} {share : ℚ} (hshare : shareOf recipe.reducer = some share)
    {cases cases' : List (List Json)} (hcases : ∀ samples ∈ cases, samples ≠ [])
    (hcases' : ∀ samples ∈ cases', samples ≠ []) (h : cases.flatten.Perm cases'.flatten) {metric : Metric}
    (hmetric : reduceObservations (exactly tokens texts) recipe (cases.map .arr) = .ok metric) :
    reduceObservations (exactly tokens texts) recipe (cases'.map .arr) = .ok metric := by
  have hreduced := congrArg Except.toOption hmetric
  rw [reduceObservations_eq tokens texts hshare hcases] at hreduced
  obtain ⟨samples, hread, hpercentile⟩ := Option.bind_eq_some_iff.mp hreduced
  obtain ⟨samples', hread', hperm⟩ := mapM_perm h hread
  apply ok_of_toOption
  rw [reduceObservations_eq tokens texts hshare hcases', hread', Option.bind_some, ← percentile_perm _ hperm,
    hpercentile]

/-- The percentile reducers over exact rationals are order statistics. -/
theorem percentiles_are_order_statistics (tokens : Str → PyFloat) (texts : Str → Option PyFloat) :
    (∀ samples, samples ≠ [] → ∀ share, 0 ≤ share → share ≤ 1 →
      (0 ≤ ⌊position samples share⌋ ∧ ⌈position samples share⌉ < samples.length) ∧
      ∃ value, percentile (exactly tokens texts) samples share = .ok (.finite value) ∧ Within samples value ∧
        (∀ share', share ≤ share' → share' ≤ 1 →
          ∃ value', percentile (exactly tokens texts) samples share' = .ok (.finite value') ∧ value ≤ value') ∧
        (∀ samples', List.Forall₂ (· ≤ ·) samples samples' →
          ∃ value', percentile (exactly tokens texts) samples' share = .ok (.finite value') ∧ value ≤ value') ∧
        ∀ samples', samples.Perm samples' → percentile (exactly tokens texts) samples' share = .ok (.finite value)) ∧
    (∀ values samples, values.mapM (exactValue tokens) = some samples → samples ≠ [] → ∀ p : Int, 1 ≤ p → p ≤ 100 →
      ∃ value, nearestRank (exactly tokens texts) values (.int p) = .ok (.finite value) ∧
        AtRank samples (p / 100 * samples.length) value ∧
        ∀ values', values.Perm values' → nearestRank (exactly tokens texts) values' (.int p) = .ok (.finite value)) ∧
    (∀ samples, samples ≠ [] → ∀ quantile, 0 < quantile → quantile ≤ 1 →
      ∃ value, Performance.nearestRank (exactly tokens texts) samples quantile = .ok (.finite value) ∧
        AtRank samples (quantile * samples.length) value ∧
        ∀ samples', samples.Perm samples' →
          Performance.nearestRank (exactly tokens texts) samples' quantile = .ok (.finite value)) ∧
    ∀ recipe share, shareOf recipe.reducer = some share → ∀ cases cases' : List (List Json),
      (∀ samples ∈ cases, samples ≠ []) → (∀ samples ∈ cases', samples ≠ []) → cases.flatten.Perm cases'.flatten →
      ∀ metric, reduceObservations (exactly tokens texts) recipe (cases.map .arr) = .ok metric ↔
        reduceObservations (exactly tokens texts) recipe (cases'.map .arr) = .ok metric := by
  refine ⟨fun samples hsome share h0 h1 => ⟨⟨?_, ?_⟩, ?_⟩, fun values samples hread hsome p h1 h100 => ?_,
    fun samples hsome quantile h0 h1 => ?_, fun recipe share hshare cases cases' hcases hcases' hperm metric => ?_⟩
  · exact Int.floor_nonneg.mpr (position_nonneg hsome h0)
  · have hin := ceil_position_lt hsome h1
    rw [← Int.ceil_toNat] at hin
    omega
  · refine ⟨_, percentile_eq tokens texts hsome share, interpolate_within hsome h0 h1, fun share' hle h1' => ?_,
      fun samples' hle => ?_, fun samples' hperm => ?_⟩
    · refine ⟨_, percentile_eq tokens texts hsome share', ?_⟩
      exact interpolate_mono (ordered_mono samples) (position_nonneg hsome h0) (position_le hsome hle)
        (ceil_position_lt hsome h1')
    · have hlength := hle.length_eq
      have hsome' : samples' ≠ [] := by
        rw [← List.length_pos_iff, ← hlength]
        exact List.length_pos_iff.mpr hsome
      have hposition : position samples' share = position samples share := by rw [position, position, hlength]
      refine ⟨_, percentile_eq tokens texts hsome' share, ?_⟩
      rw [hposition]
      exact interpolate_le_interpolate (ordered_le_ordered hle) (position_nonneg hsome h0) (ceil_position_lt hsome h1)
    · rw [← percentile_perm _ hperm]
      exact percentile_eq tokens texts hsome share
  · have hone : (1 : ℚ) ≤ samples.length := by exact_mod_cast List.length_pos_iff.mpr hsome
    have hp1 : (1 : ℚ) ≤ p := by exact_mod_cast h1
    have hp100 : (p : ℚ) ≤ 100 := by exact_mod_cast h100
    have hpos : 0 < (p / 100 * samples.length : ℚ) := by positivity
    obtain ⟨value, hvalue, hrank⟩ := atRank_getElem? samples hpos (by nlinarith)
    refine ⟨value, nearest_rank_eq tokens texts hread hsome h1 h100 hvalue, hrank, fun values' hperm => ?_⟩
    obtain ⟨samples', hread', hsamples⟩ := mapM_perm hperm hread
    have hsome' : samples' ≠ [] := fun hnil => hsome (List.perm_nil.mp (hnil ▸ hsamples))
    have hsort : samples.insertionSort (· ≤ ·) = samples'.insertionSort (· ≤ ·) := sort_perm hsamples
    rw [hsort, hsamples.length_eq] at hvalue
    exact nearest_rank_eq tokens texts hread' hsome' h1 h100 hvalue
  · obtain ⟨value, hvalue, hrank⟩ := nearestRank_atRank tokens texts samples hsome h0 h1
    refine ⟨value, hvalue, hrank, fun samples' hperm => ?_⟩
    rw [← nearestRank_perm _ hperm, hvalue]
  · constructor
    · exact reduceObservations_perm tokens texts hshare hcases hcases' hperm
    · exact reduceObservations_perm tokens texts hshare hcases' hcases hperm.symm

/-- Half of four samples: the rank is whole. -/
theorem percentiles_of_four :
    ∃ value, nearestRank (exactly (fun _ => .nan) fun _ => none) [.int 4, .int 1, .int 3, .int 2] (.int 50) =
      .ok (.finite value) ∧ AtRank [4, 1, 3, 2] (2 : ℚ) value := by
  have hfour := (percentiles_are_order_statistics (fun _ => .nan) fun _ => none).2.1
    [.int 4, .int 1, .int 3, .int 2] [4, 1, 3, 2] rfl (by simp) 50 (by decide) (by decide)
  obtain ⟨value, hvalue, hrank, -⟩ := hfour
  have htwo : ((50 : Int) / 100 * ([4, 1, 3, 2] : List ℚ).length : ℚ) = 2 := by norm_num
  rw [htwo] at hrank
  exact ⟨value, hvalue, hrank⟩

end TurnVector.Percentiles
