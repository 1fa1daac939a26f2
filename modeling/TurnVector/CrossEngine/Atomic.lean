import TurnVector.CrossEngine.Promotion

/-! # Promotion is atomic and create-only

Only the call that has the lock tests the target and renames, and it has tested it when it renames.
-/

namespace TurnVector.CrossEngine

open Python Json

/-! ## What a call prepares -/

/-- The bytes of a promotion are those of its request, and the marker is the digest of the receipt. -/
structure PreparedFrom (clock : Clock) (sha256 : Bytes → Str) (request : Request) (promotion : Promotion) : Prop where
  inventory : ∃ rootDigest records, evidenceTreeDigest sha256 request.evidenceRoot = .ok (rootDigest, records) ∧
    promotion.receipt = receiptOf clock request rootDigest ∧
    canonicalLine (.obj [(lit "records", .arr records)]) = .ok promotion.inventoryBytes
  receipt : promotion.receipt.canonicalBytes clock = .ok promotion.receiptBytes
  marker : promotion.commitBytes = commitMarker sha256 promotion.receiptBytes

theorem prepare_prepared {clock : Clock} {sha256 : Bytes → Str} {baselineId : Str} {request : Request}
    {promotion : Promotion} (h : prepare clock sha256 baselineId request = .ok promotion) :
    PreparedFrom clock sha256 request promotion := by
  unfold prepare at h
  split_ifs at h
  · cases h
  · cases h
  simp only [bind_ok_iff] at h
  obtain ⟨⟨rootDigest, records⟩, hevidence, -, -, receiptBytes, hreceipt, inventoryBytes, hinventory, h⟩ := h
  cases h
  exact ⟨⟨rootDigest, records, hevidence, rfl, hinventory⟩, hreceipt, rfl⟩

/-! ## Steps of the world -/

section Steps

variable {calls : Nat → Except Raised Promotion} {world : World}

/-- Every call is where its staging directory says. A call that could prepare nothing has none. -/
structure Staged (calls : Nat → Except Raised Promotion) (world : World) : Prop where
  prepared : ∀ call promotion, calls call = .ok promotion →
    StagingAt promotion (world.phase call) (world.registry.staging call)
  refused : ∀ call error, calls call = .error error →
    holds (world.phase call) = false ∧ hasCommitted (world.phase call) = false ∧ world.registry.staging call = none

theorem step_ok {event : Nat × Answer} {promotion : Promotion} (h : calls event.1 = .ok promotion) :
    world.step calls event = ⟨(perform promotion event.1 (world.phase event.1) event.2 world.registry).2,
      Function.update world.phase event.1
        (perform promotion event.1 (world.phase event.1) event.2 world.registry).1⟩ := by
  unfold World.step
  rw [h]

theorem step_error {event : Nat × Answer} {error : Raised} (h : calls event.1 = .error error) :
    world.step calls event = ⟨world.registry, Function.update world.phase event.1 .raised⟩ := by
  unfold World.step
  rw [h]

theorem step_other_phase (event : Nat × Answer) {other : Nat} (hother : other ≠ event.1) :
    (world.step calls event).phase other = world.phase other := by
  cases h : calls event.1 with
  | ok promotion => simp [step_ok h, hother]
  | error error => simp [step_error h, hother]

theorem step_other_staging (event : Nat × Answer) {other : Nat} (hother : other ≠ event.1) :
    (world.step calls event).registry.staging other = world.registry.staging other := by
  cases h : calls event.1 with
  | ok promotion =>
    rw [step_ok h]
    exact perform_other promotion _ _ _ hother
  | error error => rw [step_error h]

theorem step_own_phase {event : Nat × Answer} {promotion : Promotion} (h : calls event.1 = .ok promotion) :
    (world.step calls event).phase event.1 =
      (perform promotion event.1 (world.phase event.1) event.2 world.registry).1 := by
  simp [step_ok h]

theorem step_own_registry {event : Nat × Answer} {promotion : Promotion} (h : calls event.1 = .ok promotion) :
    (world.step calls event).registry =
      (perform promotion event.1 (world.phase event.1) event.2 world.registry).2 := by
  rw [step_ok h]

theorem Staged.step (h : Staged calls world) (event : Nat × Answer) : Staged calls (world.step calls event) := by
  constructor
  · intro call promotion hcall
    by_cases hown : call = event.1
    · subst hown
      rw [step_own_phase hcall, step_own_registry hcall]
      exact perform_staging promotion event.1 event.2 (h.prepared event.1 promotion hcall)
    · rw [step_other_phase event hown, step_other_staging event hown]
      exact h.prepared call promotion hcall
  · intro call error hcall
    by_cases hown : call = event.1
    · subst hown
      simp only [step_error hcall, Function.update_self]
      exact ⟨rfl, rfl, (h.refused event.1 error hcall).2.2⟩
    · rw [step_other_phase event hown, step_other_staging event hown]
      exact h.refused call error hcall

theorem Staged.effect (h : Staged calls world) (event : Nat × Answer) :
    Effect event.1 (world.phase event.1) world.registry ((world.step calls event).phase event.1)
      (world.step calls event).registry := by
  cases hcall : calls event.1 with
  | ok promotion =>
    rw [step_own_phase hcall, step_own_registry hcall]
    exact perform_effect promotion event.1 (world.phase event.1) event.2 world.registry
  | error error =>
    simp only [step_error hcall, Function.update_self]
    exact .quiet rfl rfl nofun (h.refused event.1 error hcall).2.1.symm nofun

/-! ## The lock -/

/-- At most one call has the lock, and the target is absent when a call renames. -/
structure Locked (world : World) : Prop where
  exclusive : ∀ call other, holds (world.phase call) = true → holds (world.phase other) = true → call = other
  held : ∀ call, holds (world.phase call) = true → world.registry.lock = true
  tested : ∀ call, world.phase call = .rename → world.registry.target = .absent

/-- A step that does not lock leaves no new holder. -/
theorem holds_before {event : Nat × Answer}
    (hown : holds ((world.step calls event).phase event.1) = true → holds (world.phase event.1) = true) (call : Nat)
    (h : holds ((world.step calls event).phase call) = true) : holds (world.phase call) = true := by
  by_cases heq : call = event.1
  · exact heq ▸ hown (heq ▸ h)
  · rwa [step_other_phase event heq] at h

theorem Locked.step (hlocked : Locked world) (hstaged : Staged calls world) (event : Nat × Answer) :
    Locked (world.step calls event) := by
  have hother : ∀ {call}, call ≠ event.1 → (world.step calls event).phase call = world.phase call :=
    fun h => step_other_phase event h
  cases hstaged.effect event with
  | quiet hlock htarget hholds _ hrename =>
    have hbefore := holds_before hholds
    refine ⟨fun call other h h' => hlocked.exclusive call other (hbefore call h) (hbefore other h'),
      fun call h => hlock.trans (hlocked.held call (hbefore call h)), ?_⟩
    intro call h
    by_cases hown : call = event.1
    · exact absurd (hown ▸ h) hrename
    · rw [hother hown] at h
      exact htarget.trans (hlocked.tested call h)
  | locks hphase' _ hfree hlock htarget =>
    have hnone : ∀ call, holds (world.phase call) ≠ true :=
      fun call h => Bool.false_ne_true (hfree.symm.trans (hlocked.held call h))
    have hown : ∀ call, holds ((world.step calls event).phase call) = true → call = event.1 := by
      intro call h
      by_contra hne
      rw [hother hne] at h
      exact hnone call h
    refine ⟨fun call other h h' => (hown call h).trans (hown other h').symm, fun _ _ => hlock, ?_⟩
    intro call h
    have heq := hown call (by rw [h]; rfl)
    rw [heq, hphase'] at h
    cases h
  | tests hphase hphase' habsent hsame =>
    have hholds : holds (world.phase event.1) = true := by rw [hphase]; rfl
    have hbefore := holds_before (fun _ : holds ((world.step calls event).phase event.1) = true => hholds)
    exact ⟨fun call other h h' => hlocked.exclusive call other (hbefore call h) (hbefore other h'),
      fun call h => hsame ▸ hlocked.held call (hbefore call h), fun _ _ => hsame ▸ habsent⟩
  | renames dir hphase hphase' _ hlock _ =>
    have hholds : holds (world.phase event.1) = true := by rw [hphase]; rfl
    have hbefore := holds_before (fun _ : holds ((world.step calls event).phase event.1) = true => hholds)
    refine ⟨fun call other h h' => hlocked.exclusive call other (hbefore call h) (hbefore other h'),
      fun call h => hlock.trans (hlocked.held call (hbefore call h)), ?_⟩
    intro call h
    have heq := hlocked.exclusive call event.1 (hbefore call (by rw [h]; rfl)) hholds
    rw [heq, hphase'] at h
    cases h
  | unlocks hholds hholds' _ _ _ =>
    have hnone : ∀ call, holds ((world.step calls event).phase call) ≠ true := by
      intro call h
      by_cases hown : call = event.1
      · rw [hown, hholds'] at h
        cases h
      · rw [hother hown] at h
        exact hown (hlocked.exclusive call event.1 h hholds)
    exact ⟨fun call _ h => absurd h (hnone call), fun call h => absurd h (hnone call),
      fun call h => absurd (by rw [h]; rfl) (hnone call)⟩

/-! ## The target -/

/-- The target is as it was found, or it was absent and is what the one call that has renamed staged. -/
inductive Published (calls : Nat → Except Raised Promotion) (initial : Target) (world : World) : Prop
  | untouched (hcommitted : ∀ call, hasCommitted (world.phase call) = false)
      (htarget : world.registry.target = initial)
  | published (call : Nat) (promotion : Promotion) (hcall : calls call = .ok promotion) (hinitial : initial = .absent)
      (htarget : world.registry.target = .directory promotion.files)
      (hcommitted : ∀ other, hasCommitted (world.phase other) = true ↔ other = call)

/-- A step that does not rename. -/
theorem Published.keep {initial : Target} (h : Published calls initial world) {event : Nat × Answer}
    (htarget : (world.step calls event).registry.target = world.registry.target)
    (hown : hasCommitted ((world.step calls event).phase event.1) = hasCommitted (world.phase event.1)) :
    Published calls initial (world.step calls event) := by
  have hsame : ∀ call, hasCommitted ((world.step calls event).phase call) = hasCommitted (world.phase call) := by
    intro call
    by_cases heq : call = event.1
    · rw [heq, hown]
    · rw [step_other_phase event heq]
  cases h with
  | untouched hcommitted hinitial =>
    exact .untouched (fun call => (hsame call).trans (hcommitted call)) (htarget.trans hinitial)
  | published call promotion hcall hinitial hfiles hcommitted =>
    exact .published call promotion hcall hinitial (htarget.trans hfiles) fun other => by
      rw [hsame other]
      exact hcommitted other

/-- At most one call has renamed. -/
theorem Published.unique {initial : Target} (h : Published calls initial world) {call other : Nat}
    (hcall : hasCommitted (world.phase call) = true) (hother : hasCommitted (world.phase other) = true) :
    call = other := by
  cases h with
  | untouched hcommitted _ => exact absurd hcall (by simp [hcommitted call])
  | published owner _ _ _ _ hcommitted => exact ((hcommitted call).mp hcall).trans ((hcommitted other).mp hother).symm

/-- A call that has the lock could prepare its promotion. -/
theorem Staged.prepared_of_holds (h : Staged calls world) {call : Nat} (hholds : holds (world.phase call) = true) :
    ∃ promotion, calls call = .ok promotion := by
  cases hcall : calls call with
  | ok promotion => exact ⟨promotion, rfl⟩
  | error error => exact absurd hholds (by simp [(h.refused call error hcall).1])

theorem Published.step {initial : Target} (hpublished : Published calls initial world) (hlocked : Locked world)
    (hstaged : Staged calls world) (event : Nat × Answer) : Published calls initial (world.step calls event) := by
  cases hstaged.effect event with
  | quiet _ htarget _ hcommitted _ => exact hpublished.keep htarget hcommitted
  | locks hphase' hcommitted _ _ htarget =>
    refine hpublished.keep htarget ?_
    rw [hphase', hcommitted]
    rfl
  | tests hphase hphase' _ hsame =>
    refine hpublished.keep (by rw [hsame]) ?_
    rw [hphase, hphase']
    rfl
  | unlocks _ _ hcommitted _ htarget => exact hpublished.keep htarget hcommitted
  | renames dir hphase hphase' hstaging _ htarget =>
    have habsent := hlocked.tested event.1 hphase
    have hholds : holds (world.phase event.1) = true := by rw [hphase]; rfl
    obtain ⟨promotion, hcall⟩ := hstaged.prepared_of_holds hholds
    have hfiles := hstaged.prepared event.1 promotion hcall
    rw [hphase, hstaging] at hfiles
    cases hfiles
    cases hpublished with
    | untouched hcommitted hinitial =>
      refine .published event.1 promotion hcall (hinitial.symm.trans habsent) htarget fun other => ?_
      by_cases heq : other = event.1
      · simp [heq, hphase', hasCommitted]
      · simp [step_other_phase event heq, heq, hcommitted other]
    | published call other hcall' _ hother _ => exact absurd (hother.symm.trans habsent) nofun

/-- What every step keeps. -/
structure Promoting (calls : Nat → Except Raised Promotion) (initial : Target) (world : World) : Prop where
  staged : Staged calls world
  locked : Locked world
  published : Published calls initial world

theorem Promoting.step {initial : Target} (h : Promoting calls initial world) (event : Nat × Answer) :
    Promoting calls initial (world.step calls event) :=
  ⟨h.staged.step event, h.locked.step h.staged event, h.published.step h.locked h.staged event⟩

/-- A target that is there stays as it is. -/
theorem Promoting.step_target {initial : Target} (h : Promoting calls initial world) (event : Nat × Answer)
    (hpresent : world.registry.target ≠ .absent) :
    (world.step calls event).registry.target = world.registry.target := by
  cases h.staged.effect event with
  | quiet _ htarget _ _ _ | locks _ _ _ _ htarget | unlocks _ _ _ _ htarget => exact htarget
  | tests _ _ _ hsame => rw [hsame]
  | renames _ hphase _ _ _ _ => exact absurd (h.locked.tested event.1 hphase) hpresent

end Steps

/-! ## Runs -/

section Runs

variable {calls : Nat → Except Raised Promotion} {initial : Target}

theorem Promoting.started (lock : Bool) : Promoting calls initial (started lock initial) where
  staged := ⟨fun _ _ _ => rfl, fun _ _ _ => ⟨rfl, rfl, rfl⟩⟩
  locked := ⟨nofun, nofun, nofun⟩
  published := .untouched (fun _ => rfl) rfl

theorem Promoting.run {world : World} (h : Promoting calls initial world) (schedule : List (Nat × Answer)) :
    Promoting calls initial (world.run calls schedule) := by
  induction schedule generalizing world with
  | nil => exact h
  | cons event schedule ih => exact ih (h.step event)

theorem Promoting.run_target {world : World} (h : Promoting calls initial world) (schedule : List (Nat × Answer))
    (hpresent : world.registry.target ≠ .absent) :
    (world.run calls schedule).registry.target = world.registry.target := by
  induction schedule generalizing world with
  | nil => rfl
  | cons event schedule ih =>
    have hsame := h.step_target event hpresent
    exact (ih (h.step event) (hsame ▸ hpresent)).trans hsame

/-! ## A call that has renamed returns -/

/-- The steps that are left to a call that has renamed. -/
def stepsLeft : PromotionPhase → Nat
  | .close _ => 2
  | .unlock _ => 1
  | _ => 0

theorem perform_committed (promotion : Promotion) (call : Nat) {phase : PromotionPhase} (answer : Answer)
    (registry : Registry) (h : hasCommitted phase = true) :
    hasCommitted (perform promotion call phase answer registry).1 = true ∧
      stepsLeft (perform promotion call phase answer registry).1 = stepsLeft phase - 1 := by
  cases phase with
  | close committed =>
    cases h
    exact ⟨rfl, rfl⟩
  | unlock committed =>
    cases h
    cases answer <;> exact ⟨rfl, rfl⟩
  | returned => exact ⟨rfl, rfl⟩
  | _ => cases h

theorem returned_of_stepsLeft {phase : PromotionPhase} (h : hasCommitted phase = true) (hleft : stepsLeft phase = 0) :
    phase = .returned := by
  cases phase with
  | returned => rfl
  | close committed | unlock committed => cases hleft
  | _ => cases h

theorem stepsLeft_le (phase : PromotionPhase) : stepsLeft phase ≤ 2 := by
  cases phase <;> simp [stepsLeft]

/-- A call that has renamed has from then on. -/
theorem run_committed {world : World} {call : Nat} {promotion : Promotion} (hcall : calls call = .ok promotion)
    (h : hasCommitted (world.phase call) = true) (schedule : List (Nat × Answer)) :
    hasCommitted ((world.run calls schedule).phase call) = true := by
  induction schedule generalizing world with
  | nil => exact h
  | cons event schedule ih =>
    apply ih
    by_cases heq : call = event.1
    · subst heq
      rw [step_own_phase hcall]
      exact (perform_committed promotion event.1 event.2 world.registry h).1
    · rwa [step_other_phase event heq]

theorem committed_run {world : World} {call : Nat} {promotion : Promotion} (hcall : calls call = .ok promotion)
    (h : hasCommitted (world.phase call) = true) (schedule : List (Nat × Answer))
    (hsteps : stepsLeft (world.phase call) ≤ (schedule.map (·.1)).count call) :
    (world.run calls schedule).phase call = .returned := by
  induction schedule generalizing world with
  | nil => exact returned_of_stepsLeft h (Nat.le_zero.mp hsteps)
  | cons event schedule ih =>
    by_cases heq : event.1 = call
    · subst heq
      obtain ⟨hcommitted, hleft⟩ := perform_committed promotion event.1 event.2 world.registry h
      rw [← step_own_phase hcall] at hcommitted hleft
      refine ih hcommitted ?_
      simp only [List.map_cons, List.count_cons_self] at hsteps
      omega
    · have hsame : (world.step calls event).phase call = world.phase call := step_other_phase event (Ne.symm heq)
      refine ih (hsame ▸ h) ?_
      rw [hsame]
      rwa [List.map_cons, List.count_cons_of_ne heq] at hsteps

/-! ## A call that raises cleans up -/

/-- The steps of a call's cleanup succeed. -/
def CleansUp (calls : Nat → Except Raised Promotion) (call : Nat) : World → List (Nat × Answer) → Prop
  | _, [] => True
  | world, event :: schedule =>
    (event.1 = call → cleaning (world.phase call) = true → event.2 = .done) ∧
      CleansUp calls call (world.step calls event) schedule

theorem Staged.step_cleaned {world : World} (h : Staged calls world) (event : Nat × Answer) {call : Nat}
    {promotion : Promotion} (hcall : calls call = .ok promotion)
    (hcleaned : CleanedAt (world.phase call) (world.registry.staging call))
    (hanswer : event.1 = call → cleaning (world.phase call) = true → event.2 = .done) :
    CleanedAt ((world.step calls event).phase call) ((world.step calls event).registry.staging call) := by
  by_cases hown : call = event.1
  · subst hown
    rw [step_own_phase hcall, step_own_registry hcall]
    exact perform_cleaned promotion event.1 (h.prepared event.1 promotion hcall) hcleaned (hanswer rfl)
  · rw [step_other_phase event hown, step_other_staging event hown]
    exact hcleaned

theorem Staged.run_cleaned {world : World} (h : Staged calls world) {call : Nat} {promotion : Promotion}
    (hcall : calls call = .ok promotion) (hcleaned : CleanedAt (world.phase call) (world.registry.staging call))
    {schedule : List (Nat × Answer)} (hschedule : CleansUp calls call world schedule) :
    CleanedAt ((world.run calls schedule).phase call) ((world.run calls schedule).registry.staging call) := by
  induction schedule generalizing world with
  | nil => exact hcleaned
  | cons event schedule ih =>
    exact ih (h.step event) (h.step_cleaned event hcall hcleaned hschedule.1) hschedule.2

theorem raised_clean {lock : Bool} {call : Nat} {schedule : List (Nat × Answer)}
    (hraised : ((started lock initial).run calls schedule).phase call = .raised)
    (hschedule : CleansUp calls call (started lock initial) schedule) :
    ((started lock initial).run calls schedule).registry.staging call = none := by
  have hpromoting : Promoting calls initial (started lock initial) := Promoting.started lock
  cases hcall : calls call with
  | error error => exact ((hpromoting.run schedule).staged.refused call error hcall).2.2
  | ok promotion =>
    have hcleaned := hpromoting.staged.run_cleaned hcall trivial hschedule
    rw [hraised] at hcleaned
    exact hcleaned

end Runs

/-! ## Create-only -/

/-- The target is what a call has staged: the only one that has returned or will. The call returns when it has taken
its two last steps, whatever they answer. -/
structure PublishedBy (clock : Clock) (sha256 : Bytes → Str) (request : Request)
    (calls : Nat → Except Raised Promotion) (world : World) (call : Nat) (promotion : Promotion) : Prop where
  prepared : PreparedFrom clock sha256 request promotion
  target : world.registry.target = .directory promotion.files
  alone : ∀ schedule other, (world.run calls schedule).phase other = .returned → other = call
  returns : ∀ schedule, 2 ≤ (schedule.map (·.1)).count call → (world.run calls schedule).phase call = .returned

/-- Of any calls of one baseline, in any order of their steps, one at most returns. The target is as it was found until
a call renames, and from then on what that call has staged. A call that raises leaves no staging directory. -/
theorem promote_baseline_atomic (clock : Nat → Clock) (sha256 : Bytes → Str) (baselineId : Str)
    (requests : Nat → Request) (lock : Bool) (target : Target) (schedule : List (Nat × Answer)) :
    let calls := fun call => prepare (clock call) sha256 baselineId (requests call)
    let world := (started lock target).run calls schedule
    (∀ call other, world.phase call = .returned → world.phase other = .returned → call = other) ∧
    (world.registry.target = target ∧ (∀ call, world.phase call ≠ .returned) ∨
      target = .absent ∧ ∃ call promotion, PublishedBy (clock call) sha256 (requests call) calls world call promotion) ∧
    (world.registry.target ≠ .absent → ∀ later, (world.run calls later).registry.target = world.registry.target) ∧
    ∀ call, world.phase call = .raised → CleansUp calls call (started lock target) schedule →
      world.registry.staging call = none := by
  intro calls world
  have hpromoting : Promoting calls target world := (Promoting.started lock).run schedule
  have hreturned : ∀ {world : World} {call}, world.phase call = .returned → hasCommitted (world.phase call) = true :=
    fun h => by rw [h]; rfl
  refine ⟨?_, ?_, ?_, ?_⟩
  · exact fun call other hcall hother => hpromoting.published.unique (hreturned hcall) (hreturned hother)
  · cases hpromoting.published with
    | untouched hcommitted htarget =>
      exact .inl ⟨htarget, fun call h => absurd (hreturned h) (by simp [hcommitted call])⟩
    | published owner promotion hcall hinitial htarget hcommitted =>
      have howner : hasCommitted (world.phase owner) = true := (hcommitted owner).mpr rfl
      refine .inr ⟨hinitial, owner, promotion, prepare_prepared hcall, htarget, ?_, ?_⟩
      · intro later other hother
        exact (hpromoting.run later).published.unique (hreturned hother) (run_committed hcall howner later)
      · intro later hsteps
        exact committed_run hcall howner later ((stepsLeft_le _).trans hsteps)
  · exact fun hpresent later => hpromoting.run_target later hpresent
  · exact fun call hraised hclean => raised_clean hraised hclean

end TurnVector.CrossEngine
