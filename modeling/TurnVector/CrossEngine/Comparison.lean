import Mathlib.Analysis.SpecialFunctions.Pow.Real
import TurnVector.CrossEngine.Metrics

/-! # Paired comparison

`cross_engine/comparison.py`: the cells that two engines share, their rows, and the reducer of the rows.
-/

namespace TurnVector.CrossEngine.Comparison

open Python Json Contracts

def comparisonForms : List Str := [lit "absolute", lit "paired_delta", lit "regression"]

def semanticClaims : List Str :=
  [lit "serving", lit "route", lit "prefix_reuse", lit "mtp", lit "other_speculative", lit "determinism"]

/-- `_identifier` -/
def identifier (value place : Str) : Except Raised Str :=
  if Canonical.isIdentifier value then .ok value else reject (place ++ lit " must be an identifier")

/-- A value of a metric map: a number, or something that is none. -/
abbrev MetricValue := Option PyFloat

/-- `_finite` -/
def finite (value : MetricValue) (place : Str) : Except Raised ℚ :=
  match value with
  | none => reject (place ++ lit " must be a number")
  | some (.finite number) => .ok number
  | some _ => reject (place ++ lit " must be finite")

/-! ## The cells -/

structure CoverageIntersection where
  requested : List Str
  common : List Str
  leftOnly : List Str
  rightOnly : List Str
  excluded : Dict Str

/-- `status.get(cell, "not_reported")` -/
def statusOf (status : Dict Str) (cell : Str) : Str := (status.lookup cell).getD (lit "not_reported")

section Coverage

variable (leftStatus rightStatus : Dict Str) (supportedValue : Str)

/-- One turn of the loop over the requested cells. -/
def classify (found : CoverageIntersection) (cell : Str) : CoverageIntersection :=
  let left := statusOf leftStatus cell
  let right := statusOf rightStatus cell
  if left = supportedValue ∧ right = supportedValue then { found with common := found.common ++ [cell] }
  else if left = supportedValue then
    { found with
      leftOnly := found.leftOnly ++ [cell]
      excluded := found.excluded.insert cell (lit "right:" ++ right) }
  else if right = supportedValue then
    { found with
      rightOnly := found.rightOnly ++ [cell]
      excluded := found.excluded.insert cell (lit "left:" ++ left) }
  else { found with excluded := found.excluded.insert cell (lit "left:" ++ left ++ lit ",right:" ++ right) }

/-- `coverage_intersection` -/
def coverageIntersection (requestedCells : List Str) : Except Raised CoverageIntersection := do
  let requested ← requestedCells.mapM fun cell => identifier cell (lit "requested cell")
  if ¬ requested.Nodup then reject (lit "requested cells must be unique")
  else if leftStatus.keys \ requested.toFinset ≠ ∅ ∨ rightStatus.keys \ requested.toFinset ≠ ∅ then
    reject (lit "target capability status contains an unplanned cell")
  else .ok (requested.foldl (classify leftStatus rightStatus supportedValue) ⟨requested, [], [], [], ∅⟩)

end Coverage

/-! ## The rows -/

structure ComparisonRow where
  cellId : Str
  metricId : Str
  leftTargetId : Str
  rightTargetId : Str
  leftValue : ℚ
  rightValue : ℚ
  ratioRightOverLeft : ℚ
  comparisonForm : Str
  semanticClaim : Str
  pairingKey : Str

/-- What the rows of a comparison share. -/
structure Pairing where
  leftTargetId : Str
  rightTargetId : Str
  metricId : Str
  comparisonForm : Str
  semanticClaim : Str

def Pairing.swap (pairing : Pairing) : Pairing :=
  { pairing with leftTargetId := pairing.rightTargetId, rightTargetId := pairing.leftTargetId }

/-- `values[cell]` -/
def valueOf (values : Dict MetricValue) (cell : Str) : Except Raised MetricValue :=
  match values.lookup cell with
  | some value => .ok value
  | none => .error ⟨lit "KeyError", lit "'" ++ cell ++ lit "'"⟩

/-- `"%s/%s/%s/%s"` -/
def pairingKey (pairing : Pairing) (cell : Str) : Str :=
  cell ++ (lit "/" ++ pairing.metricId ++ lit "/" ++ pairing.leftTargetId ++ lit "/" ++ pairing.rightTargetId)

/-- One turn of the loop over the common cells. -/
def pairCell (pairing : Pairing) (leftValues rightValues : Dict MetricValue) (cell : Str) :
    Except Raised ComparisonRow := do
  let left ← finite (← valueOf leftValues cell) (lit "left metric")
  let right ← finite (← valueOf rightValues cell) (lit "right metric")
  if left ≤ 0 then reject (lit "comparison denominator must be positive")
  else
    return {
      cellId := cell
      metricId := pairing.metricId
      leftTargetId := pairing.leftTargetId
      rightTargetId := pairing.rightTargetId
      leftValue := left
      rightValue := right
      ratioRightOverLeft := right / left
      comparisonForm := pairing.comparisonForm
      semanticClaim := pairing.semanticClaim
      pairingKey := pairingKey pairing cell }

/-- `paired_rows` -/
def pairedRows (intersection : CoverageIntersection) (pairing : Pairing)
    (leftValues rightValues : Dict MetricValue) : Except Raised (List ComparisonRow) := do
  let _ ← identifier pairing.leftTargetId (lit "left target ID")
  let _ ← identifier pairing.rightTargetId (lit "right target ID")
  let _ ← identifier pairing.metricId (lit "metric ID")
  if pairing.comparisonForm ∉ comparisonForms then reject (lit "invalid comparison form")
  else if pairing.semanticClaim ∉ semanticClaims then reject (lit "invalid semantic claim")
  else if pairing.comparisonForm ≠ lit "absolute" ∧ intersection.common = [] then
    reject (lit "paired comparison has zero common cells")
  else if leftValues.keys ≠ intersection.common.toFinset ∨ rightValues.keys ≠ intersection.common.toFinset then
    reject (lit "comparison values must equal the common-cell key set")
  else intersection.common.mapM (pairCell pairing leftValues rightValues)

/-! ## The reducer -/

/-- A ratio that has a logarithm. -/
abbrev PositiveRatio := {ratio : ℚ // 0 < ratio}

/-- `math.log` -/
def log (value : ℚ) : Except Raised PositiveRatio :=
  if hvalue : 0 < value then .ok ⟨value, hvalue⟩ else .error ⟨lit "ValueError", lit "math domain error"⟩

/-- The root of a product of ratios. -/
structure GeometricMean where
  ratios : List PositiveRatio
  nonempty : ratios ≠ []

def GeometricMean.product (mean : GeometricMean) : ℚ := (mean.ratios.map (·.val)).prod

def GeometricMean.degree (mean : GeometricMean) : Nat := mean.ratios.length

noncomputable def GeometricMean.value (mean : GeometricMean) : ℝ := (mean.product : ℝ) ^ (1 / mean.degree : ℝ)

structure ComparisonSummary where
  pairedRowCount : Nat
  ratioDirection : Str
  aggregateReducer : Str
  aggregateRatio : GeometricMean

/-- `comparison_summary` -/
def comparisonSummary (rows : List ComparisonRow) : Except Raised ComparisonSummary := do
  if rows = [] then reject (lit "cannot summarize an empty comparison")
  else if ¬ (rows.map (·.pairingKey)).Nodup then reject (lit "comparison rows contain duplicate pairing keys")
  else
    let ratios ← rows.mapM fun row => log row.ratioRightOverLeft
    if hnonempty : ratios ≠ [] then
      return ⟨rows.length, lit "right_over_left", lit "geometric_mean_of_paired_ratios", ⟨ratios, hnonempty⟩⟩
    else .error ⟨lit "ZeroDivisionError", lit "float division by zero"⟩

/-! ## The partition of the cells -/

section Cells

variable (leftStatus rightStatus : Dict Str) (supportedValue : Str)

def isCommon (cell : Str) : Bool :=
  decide (statusOf leftStatus cell = supportedValue) && decide (statusOf rightStatus cell = supportedValue)

def isLeftOnly (cell : Str) : Bool :=
  decide (statusOf leftStatus cell = supportedValue) && !decide (statusOf rightStatus cell = supportedValue)

def isRightOnly (cell : Str) : Bool :=
  !decide (statusOf leftStatus cell = supportedValue) && decide (statusOf rightStatus cell = supportedValue)

/-- What one cell adds. -/
theorem classify_eq (found : CoverageIntersection) (cell : Str) :
    (classify leftStatus rightStatus supportedValue found cell).requested = found.requested ∧
    (classify leftStatus rightStatus supportedValue found cell).common =
      found.common ++ [cell].filter (isCommon leftStatus rightStatus supportedValue) ∧
    (classify leftStatus rightStatus supportedValue found cell).leftOnly =
      found.leftOnly ++ [cell].filter (isLeftOnly leftStatus rightStatus supportedValue) ∧
    (classify leftStatus rightStatus supportedValue found cell).rightOnly =
      found.rightOnly ++ [cell].filter (isRightOnly leftStatus rightStatus supportedValue) ∧
    ∀ other, other ∈ (classify leftStatus rightStatus supportedValue found cell).excluded ↔
      other ∈ found.excluded ∨ other = cell ∧ isCommon leftStatus rightStatus supportedValue cell = false := by
  unfold classify
  by_cases hleft : statusOf leftStatus cell = supportedValue <;>
    by_cases hright : statusOf rightStatus cell = supportedValue <;>
    simp [isCommon, isLeftOnly, isRightOnly, hleft, hright, Finmap.mem_insert, or_comm]

/-- What the loop over the cells finds. -/
theorem classified (requested : List Str) (found : CoverageIntersection) :
    (requested.foldl (classify leftStatus rightStatus supportedValue) found).requested = found.requested ∧
    (requested.foldl (classify leftStatus rightStatus supportedValue) found).common =
      found.common ++ requested.filter (isCommon leftStatus rightStatus supportedValue) ∧
    (requested.foldl (classify leftStatus rightStatus supportedValue) found).leftOnly =
      found.leftOnly ++ requested.filter (isLeftOnly leftStatus rightStatus supportedValue) ∧
    (requested.foldl (classify leftStatus rightStatus supportedValue) found).rightOnly =
      found.rightOnly ++ requested.filter (isRightOnly leftStatus rightStatus supportedValue) ∧
    ∀ other, other ∈ (requested.foldl (classify leftStatus rightStatus supportedValue) found).excluded ↔
      other ∈ found.excluded ∨ other ∈ requested ∧ isCommon leftStatus rightStatus supportedValue other = false := by
  induction requested generalizing found with
  | nil => simp
  | cons cell requested ih =>
    obtain ⟨hrequested, hcommon, hleft, hright, hexcluded⟩ :=
      classify_eq leftStatus rightStatus supportedValue found cell
    obtain ⟨irequested, icommon, ileft, iright, iexcluded⟩ :=
      ih (classify leftStatus rightStatus supportedValue found cell)
    have hsplit (p : Str → Bool) : (cell :: requested).filter p = [cell].filter p ++ requested.filter p := by
      rw [← List.filter_append]
      rfl
    rw [List.foldl_cons, irequested, icommon, ileft, iright, hrequested, hcommon, hleft, hright, hsplit, hsplit, hsplit]
    simp only [List.append_assoc, true_and]
    intro other
    rw [iexcluded, hexcluded, List.mem_cons]
    grind

end Cells

/-- What comes back was found among identifiers that differ. -/
theorem coverageIntersection_ok {leftStatus rightStatus : Dict Str} {supportedValue : Str} {requestedCells : List Str}
    {intersection : CoverageIntersection}
    (h : coverageIntersection leftStatus rightStatus supportedValue requestedCells = .ok intersection) :
    requestedCells.Nodup ∧ intersection =
      requestedCells.foldl (classify leftStatus rightStatus supportedValue) ⟨requestedCells, [], [], [], ∅⟩ := by
  unfold coverageIntersection at h
  obtain ⟨requested, hrequested, h⟩ := bind_ok_iff.mp h
  have hsame := mapM_map _ id id (fun cell found hfound => by
    unfold identifier at hfound
    split at hfound
    · cases hfound
      rfl
    · cases hfound) _ _ hrequested
  rw [List.map_id, List.map_id] at hsame
  split at h
  · cases h
  rename_i hdistinct
  split at h
  · cases h
  cases h
  rw [not_not] at hdistinct
  rw [← hsame]
  exact ⟨hdistinct, rfl⟩

/-- Each requested cell is in one class. -/
structure Partitioned (requestedCells : List Str) (intersection : CoverageIntersection) : Prop where
  requested : intersection.requested = requestedCells
  distinct : intersection.common.Nodup ∧ intersection.leftOnly.Nodup ∧ intersection.rightOnly.Nodup
  planned : ∀ cell, cell ∈ intersection.common ∨ cell ∈ intersection.leftOnly ∨ cell ∈ intersection.rightOnly ∨
    cell ∈ intersection.excluded → cell ∈ requestedCells
  disjoint : intersection.common.Disjoint intersection.leftOnly ∧ intersection.common.Disjoint intersection.rightOnly ∧
    intersection.leftOnly.Disjoint intersection.rightOnly
  excluded : ∀ cell, cell ∈ intersection.excluded ↔ cell ∈ requestedCells ∧ cell ∉ intersection.common
  only : ∀ cell, cell ∈ intersection.leftOnly ∨ cell ∈ intersection.rightOnly → cell ∈ intersection.excluded

theorem partitioned {leftStatus rightStatus : Dict Str} {supportedValue : Str} {requestedCells : List Str}
    {intersection : CoverageIntersection}
    (h : coverageIntersection leftStatus rightStatus supportedValue requestedCells = .ok intersection) :
    Partitioned requestedCells intersection := by
  obtain ⟨hdistinct, rfl⟩ := coverageIntersection_ok h
  obtain ⟨hrequested, hcommon, hleft, hright, hexcluded⟩ :=
    classified leftStatus rightStatus supportedValue requestedCells ⟨requestedCells, [], [], [], ∅⟩
  simp only [List.nil_append] at hcommon hleft hright
  simp only [Finmap.notMem_empty, false_or] at hexcluded
  constructor
  case requested => exact hrequested
  case distinct =>
    rw [hcommon, hleft, hright]
    exact ⟨hdistinct.filter _, hdistinct.filter _, hdistinct.filter _⟩
  case planned =>
    intro cell
    rw [hcommon, hleft, hright, hexcluded]
    simp only [List.mem_filter]
    tauto
  case disjoint =>
    rw [hcommon, hleft, hright]
    refine ⟨?_, ?_, ?_⟩ <;> intro cell hone htwo <;>
      simp_all [List.mem_filter, isCommon, isLeftOnly, isRightOnly]
  case excluded =>
    intro cell
    rw [hexcluded, hcommon, List.mem_filter, not_and, Bool.not_eq_true]
    tauto
  case only =>
    intro cell
    rw [hleft, hright, hexcluded, List.mem_filter, List.mem_filter]
    rintro (⟨hcell, hone⟩ | ⟨hcell, hone⟩)
    · simp_all [isCommon, isLeftOnly]
    · simp_all [isCommon, isRightOnly]

/-- Swapped statuses leave the same cells in common. -/
theorem common_swap {leftStatus rightStatus : Dict Str} {supportedValue : Str} {requestedCells : List Str}
    {intersection swapped : CoverageIntersection}
    (h : coverageIntersection leftStatus rightStatus supportedValue requestedCells = .ok intersection)
    (hswapped : coverageIntersection rightStatus leftStatus supportedValue requestedCells = .ok swapped) :
    swapped.common = intersection.common := by
  obtain ⟨-, rfl⟩ := coverageIntersection_ok h
  obtain ⟨-, rfl⟩ := coverageIntersection_ok hswapped
  rw [(classified leftStatus rightStatus supportedValue requestedCells _).2.1,
    (classified rightStatus leftStatus supportedValue requestedCells _).2.1]
  congr 2
  funext cell
  exact Bool.and_comm _ _

/-! ## The rows of the common cells -/

/-- A row holds the values of its cell, and the left one is positive. -/
structure Paired (pairing : Pairing) (leftValues rightValues : Dict MetricValue) (cell : Str) (row : ComparisonRow) :
    Prop where
  cellId : row.cellId = cell
  left : leftValues.lookup cell = some (some (.finite row.leftValue))
  right : rightValues.lookup cell = some (some (.finite row.rightValue))
  positive : 0 < row.leftValue
  ratio : row.ratioRightOverLeft = row.rightValue / row.leftValue
  key : row.pairingKey = pairingKey pairing cell

theorem readValue_ok {values : Dict MetricValue} {cell place : Str} {q : ℚ}
    (h : (valueOf values cell >>= fun value => finite value place) = .ok q) :
    values.lookup cell = some (some (.finite q)) := by
  obtain ⟨value, hvalue, hfinite⟩ := bind_ok_iff.mp h
  unfold valueOf at hvalue
  split at hvalue
  · rename_i found hfound
    cases hvalue
    unfold finite at hfinite
    split at hfinite
    · cases hfinite
    · cases hfinite
      exact hfound
    · cases hfinite
  · cases hvalue

theorem pairCell_ok {pairing : Pairing} {leftValues rightValues : Dict MetricValue} {cell : Str} {row : ComparisonRow}
    (h : pairCell pairing leftValues rightValues cell = .ok row) : Paired pairing leftValues rightValues cell row := by
  unfold pairCell at h
  obtain ⟨leftFound, hleftFound, h⟩ := bind_ok_iff.mp h
  obtain ⟨left, hleft, h⟩ := bind_ok_iff.mp h
  obtain ⟨rightFound, hrightFound, h⟩ := bind_ok_iff.mp h
  obtain ⟨right, hright, h⟩ := bind_ok_iff.mp h
  split at h
  · cases h
  rename_i hpositive
  cases h
  exact ⟨rfl, readValue_ok (bind_ok_iff.mpr ⟨leftFound, hleftFound, hleft⟩),
    readValue_ok (bind_ok_iff.mpr ⟨rightFound, hrightFound, hright⟩), not_le.mp hpositive, rfl, rfl⟩

/-- The rows are the common cells, in their order. -/
theorem pairedRows_ok {intersection : CoverageIntersection} {pairing : Pairing}
    {leftValues rightValues : Dict MetricValue} {rows : List ComparisonRow}
    (h : pairedRows intersection pairing leftValues rightValues = .ok rows) :
    List.Forall₂ (Paired pairing leftValues rightValues) intersection.common rows := by
  unfold pairedRows at h
  obtain ⟨_, _, h⟩ := bind_ok_iff.mp h
  obtain ⟨_, _, h⟩ := bind_ok_iff.mp h
  obtain ⟨_, _, h⟩ := bind_ok_iff.mp h
  split at h
  · cases h
  split at h
  · cases h
  split at h
  · cases h
  split at h
  · cases h
  exact (forall₂_of_mapM h).imp fun _ _ => pairCell_ok

theorem pairingKeys_nodup {pairing : Pairing} {leftValues rightValues : Dict MetricValue} {cells : List Str}
    {rows : List ComparisonRow} (h : List.Forall₂ (Paired pairing leftValues rightValues) cells rows)
    (hdistinct : cells.Nodup) : (rows.map (·.pairingKey)).Nodup := by
  have hkeys : rows.map (·.pairingKey) = cells.map (pairingKey pairing) := by
    induction h with
    | nil => rfl
    | cons hone _ ih => rw [List.map_cons, List.map_cons, hone.key, ih hdistinct.of_cons]
  rw [hkeys]
  exact hdistinct.map fun _ _ hsame => List.append_cancel_right hsame

theorem ratio_pos_iff {pairing : Pairing} {leftValues rightValues : Dict MetricValue} {cell : Str}
    {row : ComparisonRow} (h : Paired pairing leftValues rightValues cell row) :
    0 < row.ratioRightOverLeft ↔ 0 < row.rightValue := by
  rw [h.ratio, div_pos_iff_of_pos_right h.positive]

/-- Rows of swapped targets have inverse ratios. -/
theorem ratios_swap {pairing : Pairing} {leftValues rightValues : Dict MetricValue} {cells : List Str}
    {rows swapped : List ComparisonRow} (h : List.Forall₂ (Paired pairing leftValues rightValues) cells rows)
    (hswapped : List.Forall₂ (Paired pairing.swap rightValues leftValues) cells swapped) :
    List.Forall₂ (fun row other => other.cellId = row.cellId ∧ other.ratioRightOverLeft = row.ratioRightOverLeft⁻¹)
      rows swapped := by
  induction h generalizing swapped with
  | nil =>
    cases hswapped
    exact .nil
  | cons hone _ ih =>
    cases hswapped with
    | cons hother hrest =>
      refine .cons ⟨hother.cellId.trans hone.cellId.symm, ?_⟩ (ih hrest)
      have hleft := hone.left.symm.trans hother.right
      have hright := hone.right.symm.trans hother.left
      simp only [Option.some.injEq, PyFloat.finite.injEq] at hleft hright
      rw [hother.ratio, hone.ratio, hleft, hright, inv_div]

/-! ## The reducer of positive ratios -/

theorem log_ok_iff (value : ℚ) : (∃ ratio, log value = .ok ratio) ↔ 0 < value := by
  unfold log
  split
  · rename_i hvalue
    exact iff_of_true ⟨_, rfl⟩ hvalue
  · rename_i hvalue
    refine iff_of_false ?_ hvalue
    rintro ⟨ratio, ⟨⟩⟩

theorem log_val {value : ℚ} {ratio : PositiveRatio} (h : log value = .ok ratio) : ratio.val = value := by
  unfold log at h
  split at h
  · cases h
    rfl
  · cases h

theorem log_error {value : ℚ} {raised : Raised} (h : log value = .error raised) :
    raised = ⟨lit "ValueError", lit "math domain error"⟩ := by
  unfold log at h
  split at h
  · cases h
  · cases h
    rfl

/-- The root of the product is the exponential of the mean logarithm. -/
theorem GeometricMean.value_eq (mean : GeometricMean) :
    mean.value = Real.exp ((mean.ratios.map fun ratio => Real.log ratio.val).sum / mean.degree) := by
  have hproduct : (0 : ℝ) < mean.product ∧
      Real.log mean.product = (mean.ratios.map fun ratio => Real.log ratio.val).sum := by
    unfold product
    induction mean.ratios with
    | nil => simp
    | cons ratio ratios ih =>
      have hratio : (0 : ℝ) < ratio.val := by exact_mod_cast ratio.property
      rw [List.map_cons, List.prod_cons, Rat.cast_mul, List.map_cons, List.sum_cons,
        Real.log_mul hratio.ne' ih.1.ne', ih.2]
      exact ⟨mul_pos hratio ih.1, rfl⟩
  rw [value, ← hproduct.2, Real.rpow_def_of_pos hproduct.1, mul_one_div]

theorem mapM_error {ε α β : Type} {f : α → Except ε β} {xs : List α} {e : ε} (h : xs.mapM f = .error e) :
    ∃ x ∈ xs, f x = .error e := by
  induction xs with
  | nil => cases h
  | cons x xs ih =>
    rw [List.mapM_cons] at h
    cases hx : f x with
    | error raised =>
      rw [hx] at h
      cases h
      exact ⟨x, by simp, hx⟩
    | ok y =>
      rw [hx] at h
      cases hrest : xs.mapM f with
      | error raised =>
        simp only [hrest, bind, Except.bind] at h
        cases h
        obtain ⟨z, hz, hraised⟩ := ih hrest
        exact ⟨z, by simp [hz], hraised⟩
      | ok ys =>
        simp only [hrest, bind, Except.bind] at h
        cases h

/-- The reducer returns the root of the ratios exactly if all of them have a logarithm. -/
theorem comparisonSummary_cases {rows : List ComparisonRow} (hne : rows ≠ [])
    (hdistinct : (rows.map (·.pairingKey)).Nodup) :
    (∀ row ∈ rows, 0 < row.ratioRightOverLeft) ∧ (∃ summary, comparisonSummary rows = .ok summary ∧
      summary.pairedRowCount = rows.length ∧
      summary.aggregateRatio.ratios.map (·.val) = rows.map (·.ratioRightOverLeft)) ∨
    (∃ row ∈ rows, row.ratioRightOverLeft ≤ 0) ∧
      comparisonSummary rows = .error ⟨lit "ValueError", lit "math domain error"⟩ := by
  unfold comparisonSummary
  rw [if_neg hne, if_neg (not_not.mpr hdistinct)]
  cases hlogs : rows.mapM fun row => log row.ratioRightOverLeft with
  | error raised =>
    obtain ⟨row, hrow, hraised⟩ := mapM_error hlogs
    cases log_error hraised
    refine .inr ⟨⟨row, hrow, not_lt.mp fun hpositive => ?_⟩, rfl⟩
    obtain ⟨ratio, hratio⟩ := (log_ok_iff _).mpr hpositive
    rw [hratio] at hraised
    cases hraised
  | ok ratios =>
    have hvals := mapM_map _ (·.val) (·.ratioRightOverLeft) (fun _ _ => log_val) _ _ hlogs
    have hnonempty : ratios ≠ [] := by
      rintro rfl
      exact hne (List.map_eq_nil_iff.mp hvals.symm)
    refine .inl ⟨fun row hrow => ?_, _, dif_pos hnonempty, rfl, hvals⟩
    exact (log_ok_iff _).mp (mapM_all_ok _ _ _ hlogs row hrow)

/-! ## When a comparison is total -/

/-- The reducer fails with a `ContractError` at most, and the swapped comparison has inverse ratios. -/
structure Total (requestedCells : List Str) (leftStatus rightStatus : Dict Str) (supportedValue : Str)
    (pairing : Pairing) (leftValues rightValues : Dict MetricValue) (rows : List ComparisonRow) : Prop where
  reduced : ∀ raised, comparisonSummary rows = .error raised → raised.className = lit "ContractError"
  positive : ∀ row ∈ rows, 0 < row.ratioRightOverLeft
  mean : ∀ summary, comparisonSummary rows = .ok summary →
    summary.aggregateRatio.product = (rows.map (·.ratioRightOverLeft)).prod ∧
      summary.aggregateRatio.degree = rows.length
  swapped : ∀ intersection swapped,
    coverageIntersection rightStatus leftStatus supportedValue requestedCells = .ok intersection →
    pairedRows intersection pairing.swap rightValues leftValues = .ok swapped →
    List.Forall₂ (fun row other => other.cellId = row.cellId ∧ other.ratioRightOverLeft = row.ratioRightOverLeft⁻¹)
      rows swapped

/-- The right values of the cells are positive. -/
def RightPositive (cells : List Str) (rightValues : Dict MetricValue) : Prop :=
  ∀ cell ∈ cells, ∀ q, rightValues.lookup cell = some (some (.finite q)) → 0 < q

theorem ratios_positive_iff {pairing : Pairing} {leftValues rightValues : Dict MetricValue} {cells : List Str}
    {rows : List ComparisonRow} (h : List.Forall₂ (Paired pairing leftValues rightValues) cells rows) :
    (∀ row ∈ rows, 0 < row.ratioRightOverLeft) ↔ RightPositive cells rightValues := by
  unfold RightPositive
  induction h with
  | nil => simp
  | cons hone _ ih =>
    rw [List.forall_mem_cons, List.forall_mem_cons, ih, ratio_pos_iff hone, hone.right]
    simp

/-- The cells are partitioned, and rows are total exactly if the right values are positive. -/
theorem comparison_total_iff (requestedCells : List Str) (leftStatus rightStatus : Dict Str) (supportedValue : Str)
    (intersection : CoverageIntersection)
    (h : coverageIntersection leftStatus rightStatus supportedValue requestedCells = .ok intersection) :
    Partitioned requestedCells intersection ∧
      ∀ (pairing : Pairing) (leftValues rightValues : Dict MetricValue) (rows : List ComparisonRow),
        pairedRows intersection pairing leftValues rightValues = .ok rows → rows ≠ [] →
        (Total requestedCells leftStatus rightStatus supportedValue pairing leftValues rightValues rows ↔
          RightPositive intersection.common rightValues) := by
  have hpartitioned := partitioned h
  refine ⟨hpartitioned, fun pairing leftValues rightValues rows hrows hne => ?_⟩
  have hpaired := pairedRows_ok hrows
  have hkeys := pairingKeys_nodup hpaired hpartitioned.distinct.1
  rw [← ratios_positive_iff hpaired]
  constructor
  · exact Total.positive
  · intro hpositive
    rcases comparisonSummary_cases hne hkeys with ⟨-, summary, hsummary, -, hratios⟩ | ⟨⟨row, hrow, hless⟩, -⟩
    · constructor
      case reduced =>
        intro raised hraised
        rw [hsummary] at hraised
        cases hraised
      case positive => exact hpositive
      case mean =>
        intro other hother
        rw [hsummary] at hother
        cases hother
        rw [← hratios, GeometricMean.product, GeometricMean.degree]
        refine ⟨rfl, ?_⟩
        rw [← List.length_map (·.val), hratios, List.length_map]
      case swapped =>
        intro other swapped hother hswapped
        have hcells := common_swap h hother
        have hother := pairedRows_ok hswapped
        rw [hcells] at hother
        exact ratios_swap hpaired hother
    · exact absurd (hpositive row hrow) (not_lt.mpr hless)

/-! ## A right value of zero -/

def cellName : Str := lit "cell"

def cellSupported : Dict Str := Finmap.singleton cellName (lit "supported")

def cellIntersection : CoverageIntersection := ⟨[cellName], [cellName], [], [], ∅⟩

def cellPairing : Pairing := ⟨lit "left", lit "right", lit "throughput", lit "paired_delta", lit "serving"⟩

def cellValues (value : ℚ) : Dict MetricValue := Finmap.singleton cellName (some (.finite value))

def cellRow (right : ℚ) : ComparisonRow :=
  ⟨cellName, lit "throughput", lit "left", lit "right", 1, right, right / 1, lit "paired_delta", lit "serving",
    pairingKey cellPairing cellName⟩

theorem cell_intersection :
    coverageIntersection cellSupported cellSupported (lit "supported") [cellName] = .ok cellIntersection := by
  rfl

theorem cell_rows (right : ℚ) :
    pairedRows cellIntersection cellPairing (cellValues 1) (cellValues right) = .ok [cellRow right] := by
  rfl

/-- The row is admitted, and its logarithm is not. -/
theorem zero_ratio_escapes :
    coverageIntersection cellSupported cellSupported (lit "supported") [cellName] = .ok cellIntersection ∧
      pairedRows cellIntersection cellPairing (cellValues 1) (cellValues 0) = .ok [cellRow 0] ∧
      comparisonSummary [cellRow 0] = .error ⟨lit "ValueError", lit "math domain error"⟩ ∧
      ¬ Total [cellName] cellSupported cellSupported (lit "supported") cellPairing (cellValues 1) (cellValues 0)
        [cellRow 0] := by
  have hescapes : comparisonSummary [cellRow 0] = .error ⟨lit "ValueError", lit "math domain error"⟩ := by
    rcases comparisonSummary_cases (List.cons_ne_nil (cellRow 0) []) (List.nodup_singleton _) with ⟨hall, -⟩ | ⟨-, h⟩
    · exact absurd (hall _ (List.mem_singleton.mpr rfl)) (by simp [cellRow])
    · exact h
  refine ⟨cell_intersection, cell_rows 0, hescapes, fun htotal => ?_⟩
  exact absurd (htotal.reduced _ hescapes) (by decide)

theorem comparison_total_cell :
    Total [cellName] cellSupported cellSupported (lit "supported") cellPairing (cellValues 1) (cellValues 2)
      [cellRow 2] := by
  refine ((comparison_total_iff [cellName] cellSupported cellSupported (lit "supported") cellIntersection
    cell_intersection).2 cellPairing (cellValues 1) (cellValues 2) [cellRow 2] (cell_rows 2)
    (List.cons_ne_nil _ _)).mpr ?_
  intro cell hcell q hq
  rw [List.mem_singleton.mp hcell, cellValues, Finmap.lookup_singleton_eq] at hq
  cases hq
  exact two_pos

end TurnVector.CrossEngine.Comparison
