import TurnVector.CrossEngine.Campaign
import TurnVector.Fair.Rotation

/-! # Balanced cells

The cells of a frozen plan are the product of repetitions, cases and targets, and no target has a better place.
-/

namespace TurnVector.CrossEngine

open Python Json Relations Fair

/-! ## Target orders -/

theorem identifier_ok (value place : Str) : identifier value place = .ok () ↔ isBenchmarkIdentifier value = true := by
  unfold identifier
  split <;> simp_all

theorem balancedTargetOrders_ok (targetIds : List Str) (repetitionCount : Int) (orders : List (List Str))
    (h : balancedTargetOrders targetIds repetitionCount = .ok orders) :
    targetIds ≠ [] ∧ targetIds.Nodup ∧ 0 < repetitionCount ∧
      orders = (List.range repetitionCount.toNat).map (targetOrder (sortedTexts targetIds)) := by
  unfold balancedTargetOrders at h
  obtain ⟨-, h⟩ := then_ok_iff.mp h
  split at h
  · cases h
  rename_i hne
  split at h
  · cases h
  rename_i hnodup
  obtain ⟨hcount, h⟩ := then_ok_iff.mp h
  split at h
  · cases h
  rename_i hzero
  cases h
  unfold nonnegativeInteger at hcount
  split at hcount
  · exact ⟨by simpa using hne, by simpa using hnodup, by omega, rfl⟩
  · cases hcount

theorem sortedTexts_perm (values : List Str) : (sortedTexts values).Perm values := List.perm_insertionSort _ _

theorem sortedTexts_congr (xs ys : List Str) (h : xs.Perm ys) : sortedTexts xs = sortedTexts ys := by
  have hperm : (sortedTexts xs).Perm (sortedTexts ys) := ((sortedTexts_perm xs).trans h).trans (sortedTexts_perm ys).symm
  exact hperm.eq_of_pairwise (fun _ _ _ _ => le_antisymm) (List.pairwise_insertionSort _ _) (List.pairwise_insertionSort _ _)

/-- The order of the targets in the call makes no difference. -/
theorem balancedTargetOrders_congr (targetIds others : List Str) (repetitionCount : Int) (orders : List (List Str))
    (hperm : others.Perm targetIds) (h : balancedTargetOrders targetIds repetitionCount = .ok orders) :
    balancedTargetOrders others repetitionCount = .ok orders := by
  unfold balancedTargetOrders at h ⊢
  obtain ⟨hids, h⟩ := then_ok_iff.mp h
  refine then_ok_iff.mpr ⟨?_, ?_⟩
  · rw [forM_ok_iff] at hids ⊢
    intro value hvalue
    exact hids value (hperm.mem_iff.mp hvalue)
  · have hempty : others.isEmpty = targetIds.isEmpty := by
      rw [Bool.eq_iff_iff, List.isEmpty_iff, List.isEmpty_iff]
      exact ⟨fun he => by simpa [he] using hperm.symm, fun he => by simpa [he] using hperm⟩
    simp only [hempty, sortedTexts_congr others targetIds hperm, hperm.nodup_iff]
    exact h

theorem targetOrder_eq (canonical : List Str) (hne : canonical ≠ []) (repetition : Nat) :
    targetOrder canonical repetition = arrangement canonical repetition := by
  have hpos : 0 < canonical.length := List.length_pos_iff.mpr hne
  have hlength : (turned canonical (repetition / canonical.length)).length = canonical.length :=
    (turned_perm canonical _).length_eq
  have hoffset := Nat.mod_lt repetition hpos
  unfold targetOrder arrangement
  rw [List.rotate_eq_drop_append_take (by omega)]
  rfl

/-! ## Cells -/

/-- The names of a case. -/
def ParsedCase.key (case : ParsedCase) : Str × Str := (case.scenarioId, case.caseId)

def CampaignCell.caseKey (cell : CampaignCell) : Str × Str := (cell.scenarioId, cell.caseId)

/-- A repetition, the names of a case, and a target. -/
abbrev Outline := Nat × (Str × Str) × Str

def CampaignCell.outline (cell : CampaignCell) : Outline := (cell.repetition, cell.caseKey, cell.targetId)

def outlineOf (place : Place) : Outline := (place.1, place.2.1.key, place.2.2)

/-- What a cell is called, and what it is. -/
def CampaignCell.names (cell : CampaignCell) : Str × Str × Outline := (cell.cellId, cell.pairingKey, cell.outline)

def namesOf (place : Place) : Str × Str × Outline := (cellIdOf place, pairingKeyOf place, outlineOf place)

theorem init_ok (place : Place) (ordinal : Nat) (cell : CampaignCell) (h : CampaignCell.init place ordinal = .ok cell) :
    cell.names = namesOf place := by
  unfold CampaignCell.init at h
  split at h
  · obtain ⟨-, h⟩ := then_ok_iff.mp h
    obtain ⟨-, h⟩ := then_ok_iff.mp h
    obtain ⟨-, h⟩ := then_ok_iff.mp h
    obtain ⟨-, h⟩ := then_ok_iff.mp h
    obtain ⟨-, h⟩ := then_ok_iff.mp h
    obtain ⟨-, h⟩ := then_ok_iff.mp h
    obtain ⟨parameters, -, h⟩ := bind_ok_iff.mp h
    obtain ⟨-, h⟩ := then_ok_iff.mp h
    split at h
    · cases h
    · obtain ⟨policy, -, h⟩ := bind_ok_iff.mp h
      cases h
      rfl
  · cases h

theorem mem_places (orders : List (List Str)) (cases : List ParsedCase) (place : Place) :
    place ∈ places orders cases ↔ ∃ order, orders[place.1]? = some order ∧ place.2.1 ∈ cases ∧ place.2.2 ∈ order := by
  obtain ⟨repetition, case, targetId⟩ := place
  unfold places
  simp only [List.mem_flatMap, List.mem_map, Prod.mk.injEq]
  constructor
  · rintro ⟨⟨order, k⟩, horder, case', hcase, targetId', htarget, rfl, rfl, rfl⟩
    exact ⟨order, List.mk_mem_zipIdx_iff_getElem?.mp horder, hcase, htarget⟩
  · rintro ⟨order, horder, hcase, htarget⟩
    exact ⟨(order, repetition), List.mk_mem_zipIdx_iff_getElem?.mpr horder, case, hcase, targetId, htarget, rfl, rfl, rfl⟩

/-- The repetition is the number at the end of the pairing key. -/
theorem ordinalOf_pairingKey (place : Place) : ordinalOf (pairingKeyOf place) = place.1 := by
  have hr : isDigit (cp 114) = false := by decide
  have hlit : lit ".r" = [cp 46, cp 114] := by decide
  unfold pairingKeyOf
  apply ordinalOf_fourDigits
  rw [hlit, List.reverse_append]
  simp [hr]

section
variable {orders : List (List Str)} {cases : List ParsedCase}

/-- The cell ids tell the cells of one repetition and target apart, and with them the cases. -/
theorem pairingKey_inj (hids : ((places orders cases).map cellIdOf).Nodup) (p q : Place)
    (hp : p ∈ places orders cases) (hq : q ∈ places orders cases) (h : pairingKeyOf p = pairingKeyOf q) :
    p.1 = q.1 ∧ p.2.1 = q.2.1 := by
  have hrepetition : p.1 = q.1 := by rw [← ordinalOf_pairingKey p, ← ordinalOf_pairingKey q, h]
  obtain ⟨order, horder, hcase, htarget⟩ := (mem_places _ _ _).mp hp
  obtain ⟨-, -, hcase', -⟩ := (mem_places _ _ _).mp hq
  have hmoved : (p.1, q.2.1, p.2.2) ∈ places orders cases := (mem_places _ _ _).mpr ⟨order, horder, hcase', htarget⟩
  have hkey : pairingKeyOf (p.1, q.2.1, p.2.2) = pairingKeyOf p := by
    rw [h, hrepetition]
    rfl
  have hid : cellIdOf (p.1, q.2.1, p.2.2) = cellIdOf p := by
    unfold cellIdOf
    rw [hkey]
  have hsame := List.inj_on_of_nodup_map hids hmoved hp hid
  exact ⟨hrepetition, by rw [← hsame]⟩

theorem keys_nodup (hids : ((places orders cases).map cellIdOf).Nodup) (order : List Str) (targetId : Str)
    (horder : orders[0]? = some order) (htarget : targetId ∈ order) : (cases.map (·.key)).Nodup := by
  unfold places at hids
  rw [List.map_flatMap, List.nodup_flatMap] at hids
  have hfirst := hids.1 (order, 0) (List.mk_mem_zipIdx_iff_getElem?.mpr horder)
  rw [List.map_flatMap, List.nodup_flatMap] at hfirst
  rw [List.Nodup, List.pairwise_map]
  refine hfirst.2.imp ?_
  intro a b hdisjoint hkey
  have hid : cellIdOf (0, a, targetId) = cellIdOf (0, b, targetId) := by
    simp only [ParsedCase.key, Prod.mk.injEq] at hkey
    unfold cellIdOf pairingKeyOf
    rw [hkey.1, hkey.2]
  have hmem : ∀ case, cellIdOf (0, case, targetId) ∈ ((order.map fun t => ((0, case, t) : Place)).map cellIdOf) := by
    intro case
    exact List.mem_map_of_mem (List.mem_map_of_mem htarget)
  exact hdisjoint (hmem a) (hid ▸ hmem b)

end

/-! ## The balance of a plan -/

/-- The repetitions of some orders that put a target in a place. -/
def occupied (orders : List (List Str)) (targetId : Str) (place : Nat) : Nat :=
  orders.countP fun order => order[place]? = some targetId

theorem countP_range (p : Nat → Prop) [DecidablePred p] (n : Nat) : (List.range n).countP (fun k => p k) = Nat.count p n := by
  induction n with
  | zero => rfl
  | succ n ih => simp [List.range_succ, ih, Nat.count_succ, List.countP_singleton]

theorem occupied_map (canonical : List Str) (targetId : Str) (place start rounds : Nat) :
    occupied ((List.range' start rounds).map (arrangement canonical)) targetId place =
      Nat.count (fun k => (arrangement canonical (start + k))[place]? = some targetId) rounds := by
  unfold occupied
  rw [List.countP_map, List.range'_eq_map_range, List.countP_map, ← countP_range]
  rfl

/-- What a plan owes to its cases, targets and repetitions. -/
structure BalancedProduct (cases : List ParsedCase) (targetIds : List Str) (repetitionCount : Nat)
    (plan : CampaignPlan) : Prop where
  cases_distinct : (cases.map (·.key)).Nodup
  cells_distinct : plan.cells.Nodup
  product : Set.BijOn CampaignCell.outline {cell | cell ∈ plan.cells}
    {o | o.1 < repetitionCount ∧ o.2.1 ∈ cases.map (·.key) ∧ o.2.2 ∈ targetIds}
  laid_out : plan.cells.map (·.outline) = (places plan.targetOrders cases).map outlineOf
  paired : ∀ a ∈ plan.cells, ∀ b ∈ plan.cells,
    a.pairingKey = b.pairingKey ↔ a.caseKey = b.caseKey ∧ a.repetition = b.repetition
  partners : ∀ a ∈ plan.cells, ∀ targetId ∈ targetIds,
    ∃! b, b ∈ plan.cells ∧ b.pairingKey = a.pairingKey ∧ b.targetId = targetId
  orders : plan.targetOrders.length = repetitionCount ∧ ∀ order ∈ plan.targetOrders, order.Perm targetIds
  block : ∀ block, (block + 1) * targetIds.length ≤ repetitionCount → ∀ targetId ∈ targetIds,
    ∀ place < targetIds.length,
      occupied ((plan.targetOrders.drop (block * targetIds.length)).take targetIds.length) targetId place = 1
  balance : ∀ rounds, ∀ targetId ∈ targetIds, ∀ targetId' ∈ targetIds,
    ∀ place < targetIds.length, ∀ place' < targetIds.length,
      occupied (plan.targetOrders.take rounds) targetId place ≤
        occupied (plan.targetOrders.take rounds) targetId' place' + 1

theorem planInit_ok (campaignId : Str) (cells : List CampaignCell) (orders : List (List Str)) (reasons : List Str)
    (policy : Str) (plan : CampaignPlan) (h : CampaignPlan.init campaignId cells orders reasons policy = .ok plan) :
    plan.cells = cells ∧ plan.targetOrders = orders := by
  unfold CampaignPlan.init at h
  obtain ⟨-, h⟩ := then_ok_iff.mp h
  repeat' split at h
  all_goals cases h
  exact ⟨rfl, rfl⟩

/-- What `freeze_campaign` returns. -/
theorem freezeCampaign_ok (campaignId : Str) (cases : List (List (Str × Json))) (targetIds : List Str)
    (repetitionCount : Int) (reasons : List Str) (plan : CampaignPlan)
    (h : freezeCampaign campaignId cases targetIds repetitionCount reasons = .ok plan) :
    ∃ parsed, cases.zipIdx.mapM (fun case => parseCase case.1 case.2) = .ok parsed ∧
      targetIds ≠ [] ∧ targetIds.Nodup ∧ 0 < repetitionCount ∧
      plan.targetOrders = (List.range repetitionCount.toNat).map (arrangement (sortedTexts targetIds)) ∧
      plan.cells.map (·.names) = (places plan.targetOrders parsed).map namesOf := by
  unfold freezeCampaign at h
  split at h
  · cases h
  obtain ⟨orders, horders, h⟩ := bind_ok_iff.mp h
  obtain ⟨parsed, hparsed, h⟩ := bind_ok_iff.mp h
  obtain ⟨cells, hcells, h⟩ := bind_ok_iff.mp h
  obtain ⟨-, h⟩ := then_ok_iff.mp h
  obtain ⟨hplan, hplanOrders⟩ := planInit_ok _ _ _ _ _ _ h
  obtain ⟨hne, hnodup, hcount, rfl⟩ := balancedTargetOrders_ok _ _ _ horders
  refine ⟨parsed, hparsed, hne, hnodup, hcount, ?_, ?_⟩
  · rw [hplanOrders]
    apply List.map_congr_left
    intro repetition _
    apply targetOrder_eq
    intro hnil
    have hperm := sortedTexts_perm targetIds
    rw [hnil] at hperm
    exact hne hperm.nil_eq.symm
  · rw [hplan, hplanOrders, mapM_map _ _ (fun place => namesOf place.1)
      (fun place cell hcell => init_ok place.1 place.2 cell hcell) _ _ hcells]
    conv_rhs => rw [← List.zipIdx_map_fst 0 (places _ parsed)]
    rw [List.map_map]
    rfl

theorem freezeCampaign_congr (campaignId : Str) (cases : List (List (Str × Json))) (targetIds others : List Str)
    (repetitionCount : Int) (reasons : List Str) (plan : CampaignPlan) (hperm : others.Perm targetIds)
    (h : freezeCampaign campaignId cases targetIds repetitionCount reasons = .ok plan) :
    freezeCampaign campaignId cases others repetitionCount reasons = .ok plan := by
  unfold freezeCampaign at h ⊢
  split at h
  · cases h
  · rename_i hcases
    rw [if_neg hcases]
    obtain ⟨orders, horders, h⟩ := bind_ok_iff.mp h
    exact bind_ok_iff.mpr ⟨orders, balancedTargetOrders_congr targetIds others repetitionCount orders hperm horders, h⟩

section
variable {cases : List ParsedCase} {plan : CampaignPlan}

theorem places_ids (hlaid : plan.cells.map (·.names) = (places plan.targetOrders cases).map namesOf) :
    ((places plan.targetOrders cases).map cellIdOf).Nodup := by
  have hids := congrArg (List.map Prod.fst) hlaid
  rw [List.map_map, List.map_map] at hids
  have hdistinct := plan.distinct
  unfold CampaignCell.names namesOf at hids
  simp only [Function.comp_def] at hids
  rwa [hids] at hdistinct

theorem place_of_cell (hlaid : plan.cells.map (·.names) = (places plan.targetOrders cases).map namesOf) :
    ∀ cell ∈ plan.cells, ∃ place ∈ places plan.targetOrders cases, cell.names = namesOf place := by
  intro cell hcell
  have hmem : cell.names ∈ plan.cells.map (·.names) := List.mem_map.mpr ⟨cell, hcell, rfl⟩
  rw [hlaid] at hmem
  obtain ⟨place, hplace, he⟩ := List.mem_map.mp hmem
  exact ⟨place, hplace, he.symm⟩

theorem cell_of_place (hlaid : plan.cells.map (·.names) = (places plan.targetOrders cases).map namesOf) :
    ∀ place ∈ places plan.targetOrders cases, ∃ cell ∈ plan.cells, cell.names = namesOf place := by
  intro place hplace
  have hmem : namesOf place ∈ (places plan.targetOrders cases).map namesOf := List.mem_map.mpr ⟨place, hplace, rfl⟩
  rw [← hlaid] at hmem
  exact List.mem_map.mp hmem

/-- A repetition, a case and a target make one cell id. -/
theorem cellIdOf_outline (p q : Place) (h : outlineOf p = outlineOf q) :
    cellIdOf p = cellIdOf q ∧ pairingKeyOf p = pairingKeyOf q := by
  simp only [outlineOf, ParsedCase.key, Prod.mk.injEq] at h
  obtain ⟨hrepetition, ⟨hscenario, hcase⟩, htarget⟩ := h
  have hkey : pairingKeyOf p = pairingKeyOf q := by
    unfold pairingKeyOf
    rw [hrepetition, hscenario, hcase]
  refine ⟨?_, hkey⟩
  unfold cellIdOf
  rw [hkey, htarget]

theorem outline_inj (hlaid : plan.cells.map (·.names) = (places plan.targetOrders cases).map namesOf)
    (a b : CampaignCell) (ha : a ∈ plan.cells) (hb : b ∈ plan.cells) (h : a.outline = b.outline) : a = b := by
  obtain ⟨p, -, hp⟩ := place_of_cell hlaid a ha
  obtain ⟨q, -, hq⟩ := place_of_cell hlaid b hb
  simp only [CampaignCell.names, namesOf, Prod.mk.injEq] at hp hq
  have houtline : outlineOf p = outlineOf q := by rw [← hp.2.2, ← hq.2.2, h]
  have hid : a.cellId = b.cellId := by rw [hp.1, hq.1, (cellIdOf_outline p q houtline).1]
  exact List.inj_on_of_nodup_map plan.distinct ha hb hid

/-- Cells share a pairing key when they share case and repetition. -/
theorem pairingKey_iff (hlaid : plan.cells.map (·.names) = (places plan.targetOrders cases).map namesOf)
    (a b : CampaignCell) (ha : a ∈ plan.cells) (hb : b ∈ plan.cells) :
    a.pairingKey = b.pairingKey ↔ a.caseKey = b.caseKey ∧ a.repetition = b.repetition := by
  obtain ⟨p, hpmem, hp⟩ := place_of_cell hlaid a ha
  obtain ⟨q, hqmem, hq⟩ := place_of_cell hlaid b hb
  simp only [CampaignCell.names, CampaignCell.outline, namesOf, outlineOf, Prod.mk.injEq] at hp hq
  obtain ⟨-, hpkey, hprepetition, hpcase, -⟩ := hp
  obtain ⟨-, hqkey, hqrepetition, hqcase, -⟩ := hq
  rw [hpkey, hqkey, hprepetition, hqrepetition, hpcase, hqcase]
  constructor
  · intro hkey
    obtain ⟨hrepetition, hcase⟩ := pairingKey_inj (places_ids hlaid) p q hpmem hqmem hkey
    exact ⟨by rw [hcase], hrepetition⟩
  · rintro ⟨hcase, hrepetition⟩
    simp only [ParsedCase.key, Prod.mk.injEq] at hcase
    unfold pairingKeyOf
    rw [hcase.1, hcase.2, hrepetition]

section
variable {targetIds : List Str} {repetitionCount : Nat}

theorem mem_places_iff
    (horders : plan.targetOrders = (List.range repetitionCount).map (arrangement (sortedTexts targetIds)))
    (place : Place) : place ∈ places plan.targetOrders cases ↔
      place.1 < repetitionCount ∧ place.2.1 ∈ cases ∧ place.2.2 ∈ targetIds := by
  have hmem : ∀ k, place.2.2 ∈ arrangement (sortedTexts targetIds) k ↔ place.2.2 ∈ targetIds := fun k =>
    ((arrangement_perm _ k).trans (sortedTexts_perm targetIds)).mem_iff
  rw [mem_places, horders]
  constructor
  · rintro ⟨order, horder, hcase, htarget⟩
    simp only [List.getElem?_map, Option.map_eq_some_iff, List.getElem?_eq_some_iff, List.getElem_range,
      List.length_range] at horder
    obtain ⟨k, ⟨hk, rfl⟩, rfl⟩ := horder
    exact ⟨hk, hcase, (hmem _).mp htarget⟩
  · rintro ⟨hk, hcase, htarget⟩
    refine ⟨arrangement (sortedTexts targetIds) place.1, ?_, hcase, (hmem _).mpr htarget⟩
    simp [hk]

theorem outline_bijOn (hlaid : plan.cells.map (·.names) = (places plan.targetOrders cases).map namesOf)
    (horders : plan.targetOrders = (List.range repetitionCount).map (arrangement (sortedTexts targetIds))) :
    Set.BijOn CampaignCell.outline {cell | cell ∈ plan.cells}
      {o | o.1 < repetitionCount ∧ o.2.1 ∈ cases.map (·.key) ∧ o.2.2 ∈ targetIds} := by
  refine ⟨?_, fun a ha b hb => outline_inj hlaid a b ha hb, ?_⟩
  · intro cell hcell
    obtain ⟨place, hplace, hnames⟩ := place_of_cell hlaid cell hcell
    simp only [CampaignCell.names, namesOf, Prod.mk.injEq] at hnames
    obtain ⟨hrepetition, hcase, htarget⟩ := (mem_places_iff horders place).mp hplace
    rw [hnames.2.2]
    exact ⟨hrepetition, List.mem_map.mpr ⟨_, hcase, rfl⟩, htarget⟩
  · rintro ⟨repetition, key, targetId⟩ ⟨hrepetition, hkey, htarget⟩
    obtain ⟨case, hcase, rfl⟩ := List.mem_map.mp hkey
    obtain ⟨cell, hcell, hnames⟩ := cell_of_place hlaid (repetition, case, targetId)
      ((mem_places_iff horders _).mpr ⟨hrepetition, hcase, htarget⟩)
    simp only [CampaignCell.names, namesOf, Prod.mk.injEq] at hnames
    exact ⟨cell, hcell, hnames.2.2⟩

theorem partner_exists (hlaid : plan.cells.map (·.names) = (places plan.targetOrders cases).map namesOf)
    (horders : plan.targetOrders = (List.range repetitionCount).map (arrangement (sortedTexts targetIds)))
    (a : CampaignCell) (ha : a ∈ plan.cells) (targetId : Str) (htarget : targetId ∈ targetIds) :
    ∃! b, b ∈ plan.cells ∧ b.pairingKey = a.pairingKey ∧ b.targetId = targetId := by
  obtain ⟨hmaps, -, hsurj⟩ := outline_bijOn hlaid horders
  obtain ⟨hrepetition, hcase, -⟩ := hmaps ha
  obtain ⟨b, hb, houtline⟩ := hsurj (show (a.repetition, a.caseKey, targetId) ∈ _ from ⟨hrepetition, hcase, htarget⟩)
  simp only [CampaignCell.outline, Prod.mk.injEq] at houtline
  refine ⟨b, ⟨hb, (pairingKey_iff hlaid b a hb ha).mpr ⟨houtline.2.1, houtline.1⟩, houtline.2.2⟩, ?_⟩
  rintro c ⟨hc, hkey, hsame⟩
  obtain ⟨hckey, hcrepetition⟩ := (pairingKey_iff hlaid c a hc ha).mp hkey
  apply outline_inj hlaid c b hc hb
  simp only [CampaignCell.outline, Prod.mk.injEq]
  exact ⟨hcrepetition.trans houtline.1.symm, hckey.trans houtline.2.1.symm, hsame.trans houtline.2.2.symm⟩

/-- In a complete block a target has each place once. -/
theorem occupied_block
    (horders : plan.targetOrders = (List.range repetitionCount).map (arrangement (sortedTexts targetIds)))
    (hnodup : targetIds.Nodup) (block : Nat) (hblock : (block + 1) * targetIds.length ≤ repetitionCount)
    (targetId : Str) (htarget : targetId ∈ targetIds) (place : Nat) (hplace : place < targetIds.length) :
    occupied ((plan.targetOrders.drop (block * targetIds.length)).take targetIds.length) targetId place = 1 := by
  have hperm := sortedTexts_perm targetIds
  have hlength : (sortedTexts targetIds).length = targetIds.length := hperm.length_eq
  have hpart : (plan.targetOrders.drop (block * targetIds.length)).take targetIds.length =
      (List.range' (block * targetIds.length) targetIds.length).map (arrangement (sortedTexts targetIds)) := by
    rw [Nat.succ_mul] at hblock
    rw [horders, ← List.map_drop, ← List.map_take, List.range_eq_range', List.drop_range',
      List.take_range'_of_length_ge (by omega)]
    simp
  rw [hpart, occupied_map]
  apply count_eq_one
  have honce := arrangement_once (sortedTexts targetIds) (hperm.nodup_iff.mpr hnodup) targetId
    (hperm.mem_iff.mpr htarget) block place (by omega)
  rwa [hlength] at honce

theorem occupied_balanced
    (horders : plan.targetOrders = (List.range repetitionCount).map (arrangement (sortedTexts targetIds)))
    (hnodup : targetIds.Nodup) (rounds : Nat) (targetId targetId' : Str) (htarget : targetId ∈ targetIds)
    (htarget' : targetId' ∈ targetIds) (place place' : Nat) (hplace : place < targetIds.length)
    (hplace' : place' < targetIds.length) :
    occupied (plan.targetOrders.take rounds) targetId place ≤
      occupied (plan.targetOrders.take rounds) targetId' place' + 1 := by
  have hperm := sortedTexts_perm targetIds
  have hlength : (sortedTexts targetIds).length = targetIds.length := hperm.length_eq
  have hpart : plan.targetOrders.take rounds =
      (List.range' 0 (min rounds repetitionCount)).map (arrangement (sortedTexts targetIds)) := by
    rw [horders, ← List.map_take, List.take_range, List.range_eq_range']
  rw [hpart, occupied_map, occupied_map]
  simp only [Nat.zero_add]
  exact turns_le (sortedTexts targetIds) (hperm.nodup_iff.mpr hnodup) targetId targetId' (hperm.mem_iff.mpr htarget)
    (hperm.mem_iff.mpr htarget') place place' (by omega) (by omega) _

end

end

/-- A frozen plan is a balanced product, the same one for every order of the targets in the call. -/
theorem freezeCampaign_balanced (campaignId : Str) (cases : List (List (Str × Json))) (targetIds : List Str)
    (repetitionCount : Int) (reasons : List Str) (plan : CampaignPlan)
    (h : freezeCampaign campaignId cases targetIds repetitionCount reasons = .ok plan) :
    (∃ parsed, cases.zipIdx.mapM (fun case => parseCase case.1 case.2) = .ok parsed ∧
      BalancedProduct parsed targetIds repetitionCount.toNat plan) ∧
    ∀ others, others.Perm targetIds →
      freezeCampaign campaignId cases others repetitionCount reasons = .ok plan := by
  obtain ⟨parsed, hparsed, hne, hnodup, hcount, horders, hlaid⟩ := freezeCampaign_ok _ _ _ _ _ _ h
  refine ⟨⟨parsed, hparsed, ?_⟩, fun others hperm => freezeCampaign_congr _ _ _ _ _ _ _ hperm h⟩
  obtain ⟨targetId, htarget⟩ := List.exists_mem_of_ne_nil _ hne
  constructor
  · refine keys_nodup (places_ids hlaid) (arrangement (sortedTexts targetIds) 0) targetId ?_ ?_
    · rw [horders]
      simp [hcount]
    · exact ((arrangement_perm _ 0).trans (sortedTexts_perm targetIds)).mem_iff.mpr htarget
  · exact plan.distinct.of_map _
  · exact outline_bijOn hlaid horders
  · have houtlines := congrArg (List.map fun names => names.2.2) hlaid
    rwa [List.map_map, List.map_map] at houtlines
  · intro a ha b hb
    exact pairingKey_iff hlaid a b ha hb
  · intro a ha targetId htarget
    exact partner_exists hlaid horders a ha targetId htarget
  · rw [horders]
    refine ⟨by simp, ?_⟩
    intro order horder
    obtain ⟨k, -, rfl⟩ := List.mem_map.mp horder
    exact (arrangement_perm _ k).trans (sortedTexts_perm targetIds)
  · intro block hblock targetId htarget place hplace
    exact occupied_block horders hnodup block hblock targetId htarget place hplace
  · intro rounds targetId htarget targetId' htarget' place hplace place' hplace'
    exact occupied_balanced horders hnodup rounds targetId targetId' htarget htarget' place place' hplace hplace'

/-- A case that says only what it must. -/
def sampleCase (scenarioId caseId : String) : List (Str × Json) :=
  [(lit "case_id", .str (lit caseId)), (lit "scenario_id", .str (lit scenarioId))]

/-- Two cases, two targets and three repetitions. -/
def sampleFreeze : Except Exc CampaignPlan :=
  freezeCampaign (lit "campaign") [sampleCase "chat.short" "a", sampleCase "chat" "b"] [lit "vllm", lit "mlx-lm"] 3
    [lit "host_load_transient"]

theorem sampleFreeze_ok : sampleFreeze.toOption.isSome = true := by decide +kernel

theorem freezeCampaign_balanced_sample : ∃ plan parsed, sampleFreeze = .ok plan ∧
    BalancedProduct parsed [lit "vllm", lit "mlx-lm"] 3 plan := by
  obtain ⟨plan, hplan⟩ := ok_of_isSome _ sampleFreeze_ok
  obtain ⟨⟨parsed, -, hbalanced⟩, -⟩ := freezeCampaign_balanced _ _ _ _ _ plan hplan
  exact ⟨plan, parsed, hplan, hbalanced⟩

end TurnVector.CrossEngine
