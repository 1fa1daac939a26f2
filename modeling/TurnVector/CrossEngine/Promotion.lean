import TurnVector.CrossEngine.Baseline

/-! # The steps of a promotion

What one step of a call does to the lock, to the target and to the staging directory of the call.
-/

namespace TurnVector.CrossEngine

open Python Json

/-! ## Phases -/

/-- The call has created the lock, and not unlinked it yet. -/
def holds : PromotionPhase → Bool
  | .test | .rename | .close _ | .unlock _ => true
  | _ => false

/-- The call has renamed its staging directory. -/
def hasCommitted : PromotionPhase → Bool
  | .close committed | .unlock committed => committed
  | .returned => true
  | _ => false

/-- The call is in `_cleanup_staging`. -/
def cleaning : PromotionPhase → Bool
  | .unlink _ | .rmdir => true
  | _ => false

def Promotion.files (promotion : Promotion) : Dir :=
  [(StagedFile.inventory.name, promotion.inventoryBytes), (StagedFile.receipt.name, promotion.receiptBytes),
    (StagedFile.marker.name, promotion.commitBytes)]

/-- The files that are complete before a file is created. -/
def Promotion.filesBefore (promotion : Promotion) : StagedFile → Dir
  | .inventory => []
  | .receipt => promotion.files.take 1
  | .marker => promotion.files.take 2

/-- What a call's staging directory is, up to its cleanup. -/
def StagingAt (promotion : Promotion) : PromotionPhase → Option Dir → Prop
  | .start, dir => dir = none
  | .create file, dir => dir = some (promotion.filesBefore file)
  | .write file, dir => dir = some (promotion.filesBefore file ++ [(file.name, [])])
  | .sync file, dir => dir = some (promotion.filesBefore file ++ [(file.name, promotion.bytes file)])
  | .lock, dir | .test, dir | .rename, dir => dir = some promotion.files
  | .close committed, dir | .unlock committed, dir => dir = if committed then none else some promotion.files
  | .returned, dir => dir = none
  | .unlink _, _ | .rmdir, _ | .raised, _ => True

/-! ## One step -/

/-- What a step of a call does to the lock and the target. -/
inductive Effect (call : Nat) (phase : PromotionPhase) (registry : Registry) (phase' : PromotionPhase)
    (registry' : Registry) : Prop
  | quiet (hlock : registry'.lock = registry.lock) (htarget : registry'.target = registry.target)
      (hholds : holds phase' = true → holds phase = true) (hcommitted : hasCommitted phase' = hasCommitted phase)
      (hrename : phase' ≠ .rename)
  | locks (hphase' : phase' = .test) (hcommitted : hasCommitted phase = false) (hfree : registry.lock = false)
      (hlock : registry'.lock = true) (htarget : registry'.target = registry.target)
  | tests (hphase : phase = .test) (hphase' : phase' = .rename) (habsent : registry.target = .absent)
      (hsame : registry' = registry)
  | renames (dir : Dir) (hphase : phase = .rename) (hphase' : phase' = .close true)
      (hstaging : registry.staging call = some dir) (hlock : registry'.lock = registry.lock)
      (htarget : registry'.target = .directory dir)
  | unlocks (hholds : holds phase = true) (hholds' : holds phase' = false)
      (hcommitted : hasCommitted phase' = hasCommitted phase) (hlock : registry'.lock = false)
      (htarget : registry'.target = registry.target)

theorem createFile_effect (registry : Registry) (call : Nat) (file : StagedFile) :
    Effect call (.create file) registry (createFile registry call file).1 (createFile registry call file).2 := by
  unfold createFile
  split
  · split
    · exact .quiet rfl rfl (by simp [cleanup, holds]) rfl (by simp [cleanup])
    · exact .quiet rfl rfl (by simp [holds]) rfl (by simp)
  · exact .quiet rfl rfl (by simp [cleanup, holds]) rfl (by simp [cleanup])

theorem renameStaging_effect (registry : Registry) (call : Nat) :
    Effect call .rename registry (renameStaging registry call).1 (renameStaging registry call).2 := by
  unfold renameStaging
  split
  · rename_i dir hdir
    split
    · exact .renames dir rfl rfl hdir rfl rfl
    · exact .quiet rfl rfl (by simp [holds]) rfl (by simp)
  · exact .quiet rfl rfl (by simp [holds]) rfl (by simp)

theorem perform_effect (promotion : Promotion) (call : Nat) (phase : PromotionPhase) (answer : Answer)
    (registry : Registry) :
    Effect call phase registry (perform promotion call phase answer registry).1
      (perform promotion call phase answer registry).2 := by
  cases phase with
  | start => cases answer <;> exact .quiet rfl rfl (by simp [perform, holds]) rfl (by simp [perform])
  | create file =>
    cases answer with
    | done => exact createFile_effect registry call file
    | failed kept => exact .quiet rfl rfl (by simp [perform, cleanup, holds]) rfl (by simp [perform, cleanup])
  | write file =>
    cases answer <;> exact .quiet rfl rfl (by simp [perform, cleanup, holds]) rfl (by simp [perform, cleanup])
  | sync file =>
    cases answer <;> cases file <;>
      exact .quiet rfl rfl (by simp [perform, afterSync, cleanup, holds]) rfl (by simp [perform, afterSync, cleanup])
  | lock =>
    cases answer with
    | done =>
      by_cases hlock : registry.lock = true
      · rw [perform, if_pos hlock]
        exact .quiet rfl rfl (by simp [cleanup, holds]) rfl (by simp [cleanup])
      · rw [perform, if_neg hlock]
        exact .locks rfl rfl (by simpa using hlock) rfl rfl
    | failed kept => exact .quiet rfl rfl (by simp [perform, cleanup, holds]) rfl (by simp [perform, cleanup])
  | test =>
    cases answer with
    | done =>
      by_cases habsent : registry.target = .absent
      · rw [perform, if_pos habsent]
        exact .tests rfl rfl habsent rfl
      · rw [perform, if_neg habsent]
        exact .quiet rfl rfl (by simp [holds]) rfl (by simp)
    | failed kept => exact .quiet rfl rfl (by simp [perform, holds]) rfl (by simp [perform])
  | rename =>
    cases answer with
    | done => exact renameStaging_effect registry call
    | failed kept => exact .quiet rfl rfl (by simp [perform, holds]) rfl (by simp [perform])
  | close committed =>
    cases answer <;> exact .quiet rfl rfl (by simp [perform, holds]) rfl (by simp [perform])
  | unlock committed =>
    cases answer with
    | done =>
      exact .unlocks rfl (by cases committed <;> rfl) (by cases committed <;> rfl) rfl rfl
    | failed kept =>
      exact .quiet rfl rfl (by cases committed <;> simp [perform, afterUnlock, cleanup, holds])
        (by cases committed <;> rfl) (by cases committed <;> simp [perform, afterUnlock, cleanup])
  | unlink file =>
    cases answer <;> cases file <;>
      exact .quiet rfl rfl (by simp [perform, afterUnlink, holds]) rfl (by simp [perform, afterUnlink])
  | rmdir =>
    cases answer with
    | done =>
      rw [perform]
      split <;> exact .quiet rfl rfl (by simp [holds]) rfl (by simp)
    | failed kept => exact .quiet rfl rfl (by simp [perform, holds]) rfl (by simp [perform])
  | returned => cases answer <;> exact .quiet rfl rfl (by simp [perform, holds]) rfl (by simp [perform])
  | raised => cases answer <;> exact .quiet rfl rfl (by simp [perform, holds]) rfl (by simp [perform])

/-! ## Staging directories -/

@[simp] theorem setStaging_own (registry : Registry) (call : Nat) (dir : Option Dir) :
    (registry.setStaging call dir).staging call = dir := by
  simp [Registry.setStaging]

theorem setStaging_other (registry : Registry) {call other : Nat} (dir : Option Dir) (hother : other ≠ call) :
    (registry.setStaging call dir).staging other = registry.staging other := by
  simp [Registry.setStaging, hother]

theorem setItem_last {α : Type} (d : List (Str × α)) (k : Str) (v w : α) (h : k ∉ d.map Prod.fst) :
    setItem (d ++ [(k, v)]) k w = d ++ [(k, w)] := by
  induction d with
  | nil => simp [setItem]
  | cons p d ih =>
    simp only [List.map_cons, List.mem_cons, not_or] at h
    have hne : p.1 ≠ k := fun heq => h.1 heq.symm
    rw [List.cons_append, setItem, if_neg hne, ih h.2, List.cons_append]

theorem StagedFile.name_ne {file other : StagedFile} (h : file ≠ other) : file.name ≠ other.name := by
  cases file <;> cases other <;> first | exact absurd rfl h | decide

theorem filesBefore_fresh (promotion : Promotion) (file : StagedFile) :
    file.name ∉ (promotion.filesBefore file).map Prod.fst := by
  cases file
  · simp [Promotion.filesBefore]
  · simpa [Promotion.filesBefore, Promotion.files] using StagedFile.name_ne (by simp)
  · simpa [Promotion.filesBefore, Promotion.files] using ⟨StagedFile.name_ne (by simp), StagedFile.name_ne (by simp)⟩

/-- What a file adds is what the next one finds. -/
theorem staging_afterSync (promotion : Promotion) (file : StagedFile) :
    StagingAt promotion (afterSync file)
      (some (promotion.filesBefore file ++ [(file.name, promotion.bytes file)])) := by
  cases file <;> rfl

/-- A step of another call leaves a call's staging directory alone. -/
theorem perform_other (promotion : Promotion) {call other : Nat} (phase : PromotionPhase) (answer : Answer)
    (registry : Registry) (hother : other ≠ call) :
    (perform promotion call phase answer registry).2.staging other = registry.staging other := by
  have hset : ∀ dir, (registry.setStaging call dir).staging other = registry.staging other :=
    fun dir => setStaging_other registry dir hother
  cases phase with
  | create file =>
    cases answer with
    | done =>
      simp only [perform, createFile]
      split
      · split
        · rfl
        · exact hset _
      · rfl
    | failed kept => rfl
  | write file => cases answer <;> exact hset _
  | lock =>
    cases answer with
    | done =>
      simp only [perform]
      split <;> rfl
    | failed kept => rfl
  | rename =>
    cases answer with
    | done =>
      simp only [perform, renameStaging]
      split
      · split
        · exact hset _
        · rfl
      · rfl
    | failed kept => rfl
  | rmdir =>
    cases answer with
    | done =>
      simp only [perform]
      split
      · exact hset _
      · rfl
    | failed kept => rfl
  | start | unlink file => cases answer <;> first | rfl | exact hset _
  | sync file | test | close committed | unlock committed | returned | raised => cases answer <;> rfl

/-- A step of a call takes its staging directory from one phase to the next. -/
theorem perform_staging (promotion : Promotion) (call : Nat) {phase : PromotionPhase} (answer : Answer)
    {registry : Registry} (h : StagingAt promotion phase (registry.staging call)) :
    StagingAt promotion (perform promotion call phase answer registry).1
      ((perform promotion call phase answer registry).2.staging call) := by
  cases phase with
  | start =>
    cases answer with
    | done => exact setStaging_own registry call _
    | failed kept => trivial
  | create file =>
    cases answer with
    | done =>
      simp only [StagingAt] at h
      have hfresh : ¬ occurs file.name ((promotion.filesBefore file).map Prod.fst) = true := by
        rw [occurs_iff]
        exact filesBefore_fresh promotion file
      simp only [perform, createFile, h, if_neg hfresh]
      exact setStaging_own registry call _
    | failed kept => trivial
  | write file =>
    cases answer with
    | done =>
      simp only [StagingAt] at h
      simp only [perform, StagingAt, writeFile, h, setStaging_own, Option.map_some]
      rw [setItem_last _ _ _ _ (filesBefore_fresh promotion file)]
    | failed kept => trivial
  | sync file =>
    cases answer with
    | done =>
      simp only [StagingAt] at h
      simp only [perform, h]
      exact staging_afterSync promotion file
    | failed kept => trivial
  | lock =>
    cases answer with
    | done =>
      simp only [perform]
      split
      · trivial
      · exact h
    | failed kept => trivial
  | test =>
    cases answer with
    | done =>
      simp only [perform]
      split
      · exact h
      · exact h
    | failed kept => exact h
  | rename =>
    cases answer with
    | done =>
      simp only [StagingAt] at h
      simp only [perform, renameStaging, h]
      split
      · exact setStaging_own registry call _
      · exact h
    | failed kept => exact h
  | close committed => exact h
  | unlock committed =>
    cases committed with
    | true => cases answer <;> exact h
    | false => cases answer <;> trivial
  | unlink file => cases answer <;> cases file <;> trivial
  | rmdir => cases answer <;> trivial
  | returned => exact h
  | raised => trivial

/-! ## Cleanups -/

def stagedNames : List Str := [StagedFile.receipt.name, StagedFile.inventory.name, StagedFile.marker.name]

/-- The files that may be left when a file is unlinked. -/
def StagedFile.left : StagedFile → List Str
  | .marker => stagedNames
  | .inventory => stagedNames.take 2
  | .receipt => stagedNames.take 1

/-- What a staging directory is in a cleanup whose steps succeed. -/
def CleanedAt : PromotionPhase → Option Dir → Prop
  | .unlink file, dir => ∀ entries ∈ dir, ∀ entry ∈ entries, entry.1 ∈ file.left
  | .rmdir, dir => ∀ entries ∈ dir, entries = []
  | .raised, dir => dir = none
  | _, _ => True

/-- A staging directory with no file but the staged ones. -/
def OnlyStaged (dir : Option Dir) : Prop := ∀ entries ∈ dir, ∀ entry ∈ entries, entry.1 ∈ stagedNames

theorem StagedFile.name_mem (file : StagedFile) : file.name ∈ stagedNames := by
  cases file <;> simp [stagedNames]

theorem files_staged (promotion : Promotion) : OnlyStaged (some promotion.files) := by
  intro entries hentries entry hentry
  cases hentries
  simp only [Promotion.files, List.mem_cons, List.not_mem_nil, or_false] at hentry
  rcases hentry with rfl | rfl | rfl
  · exact StagedFile.inventory.name_mem
  · exact StagedFile.receipt.name_mem
  · exact StagedFile.marker.name_mem

theorem filesBefore_staged (promotion : Promotion) (file : StagedFile) :
    OnlyStaged (some (promotion.filesBefore file)) := by
  intro entries hentries entry hentry
  cases hentries
  apply files_staged promotion promotion.files rfl entry
  cases file with
  | inventory => exact absurd hentry List.not_mem_nil
  | receipt => exact List.mem_of_mem_take hentry
  | marker => exact List.mem_of_mem_take hentry

theorem OnlyStaged.append {dir : Dir} (h : OnlyStaged (some dir)) (file : StagedFile) (raw : Bytes) :
    OnlyStaged (some (dir ++ [(file.name, raw)])) := by
  intro entries hentries entry hentry
  cases hentries
  rcases List.mem_append.mp hentry with hold | hnew
  · exact h dir rfl entry hold
  · rw [List.mem_singleton.mp hnew]
    exact file.name_mem

theorem StagingAt.onlyStaged {promotion : Promotion} {phase : PromotionPhase} {dir : Option Dir}
    (h : StagingAt promotion phase dir) (hcleaning : cleaning phase = false) (hraised : phase ≠ .raised) :
    OnlyStaged dir := by
  have hnone : OnlyStaged none := nofun
  cases phase with
  | start | returned => exact h ▸ hnone
  | create file => exact h ▸ filesBefore_staged promotion file
  | write file => exact h ▸ (filesBefore_staged promotion file).append file _
  | sync file => exact h ▸ (filesBefore_staged promotion file).append file _
  | lock | test | rename => exact h ▸ files_staged promotion
  | close committed | unlock committed =>
    cases committed with
    | true => exact h ▸ hnone
    | false => exact h ▸ files_staged promotion
  | unlink file | rmdir => exact absurd hcleaning (by simp [cleaning])
  | raised => exact absurd rfl hraised

/-- A file that is unlinked is no longer left. -/
theorem mem_left_afterUnlink {file : StagedFile} {dir : Dir} (h : ∀ entry ∈ dir, entry.1 ∈ file.left) :
    CleanedAt (afterUnlink file) (some (dir.filter fun entry => entry.1 ≠ file.name)) := by
  have hkept : ∀ entry ∈ dir.filter (fun entry => entry.1 ≠ file.name), entry.1 ∈ file.left ∧ entry.1 ≠ file.name := by
    intro entry hentry
    obtain ⟨hmem, hne⟩ := List.mem_filter.mp hentry
    exact ⟨h entry hmem, of_decide_eq_true hne⟩
  cases file with
  | marker =>
    intro entries hentries entry hentry
    cases hentries
    obtain ⟨hmem, hne⟩ := hkept entry hentry
    simp only [StagedFile.left, stagedNames, List.mem_cons, List.take] at hmem ⊢
    tauto
  | inventory =>
    intro entries hentries entry hentry
    cases hentries
    obtain ⟨hmem, hne⟩ := hkept entry hentry
    simp only [StagedFile.left, stagedNames, List.mem_cons, List.take] at hmem ⊢
    tauto
  | receipt =>
    intro entries hentries
    cases hentries
    apply List.eq_nil_iff_forall_not_mem.mpr
    intro entry hentry
    obtain ⟨hmem, hne⟩ := hkept entry hentry
    simp only [StagedFile.left, stagedNames, List.take, List.mem_singleton] at hmem
    exact hne hmem

theorem rmdir_cleaned {registry : Registry} {call : Nat} (h : ∀ entries ∈ registry.staging call, entries = []) :
    (if registry.staging call = some [] then registry.setStaging call none else registry).staging call = none := by
  split
  · exact setStaging_own registry call none
  · rename_i hempty
    cases hdir : registry.staging call with
    | none => rfl
    | some entries => exact absurd (hdir.trans (congrArg some (h entries hdir))) hempty

/-- A step of a call whose cleanup succeeds takes its staging directory to what the next phase finds. -/
theorem perform_cleaned (promotion : Promotion) (call : Nat) {phase : PromotionPhase} {answer : Answer}
    {registry : Registry} (hstaging : StagingAt promotion phase (registry.staging call))
    (hcleaned : CleanedAt phase (registry.staging call)) (hanswer : cleaning phase = true → answer = .done) :
    CleanedAt (perform promotion call phase answer registry).1
      ((perform promotion call phase answer registry).2.staging call) := by
  -- The start of a cleanup.
  have hclean : cleaning phase = false → phase ≠ .raised → CleanedAt cleanup (registry.staging call) :=
    fun hcleaning hraised => hstaging.onlyStaged hcleaning hraised
  cases phase with
  | start =>
    cases answer with
    | done => trivial
    | failed kept => exact hstaging
  | create file =>
    cases answer with
    | done =>
      simp only [perform, createFile]
      split
      · split
        · exact hclean rfl (by simp)
        · trivial
      · exact hclean rfl (by simp)
    | failed kept => exact hclean rfl (by simp)
  | write file =>
    cases answer with
    | done => trivial
    | failed kept =>
      simp only [StagingAt] at hstaging
      simp only [perform, writeFile, hstaging, setStaging_own, Option.map_some]
      rw [setItem_last _ _ _ _ (filesBefore_fresh promotion file)]
      exact (filesBefore_staged promotion file).append file _
  | sync file =>
    cases answer with
    | done => cases file <;> trivial
    | failed kept => exact hclean rfl (by simp)
  | lock =>
    cases answer with
    | done =>
      simp only [perform]
      split
      · exact hclean rfl (by simp)
      · trivial
    | failed kept => exact hclean rfl (by simp)
  | test =>
    cases answer with
    | done =>
      simp only [perform]
      split <;> trivial
    | failed kept => trivial
  | rename =>
    cases answer with
    | done =>
      simp only [perform, renameStaging]
      split
      · split <;> trivial
      · trivial
    | failed kept => trivial
  | close committed => trivial
  | unlock committed =>
    cases committed with
    | true => cases answer <;> trivial
    | false => cases answer <;> exact hclean rfl (by simp)
  | unlink file =>
    rw [hanswer rfl]
    simp only [perform, setStaging_own]
    cases hdir : registry.staging call with
    | none => cases file <;> simp [afterUnlink, CleanedAt]
    | some dir => exact mem_left_afterUnlink (hcleaned dir hdir)
  | rmdir =>
    rw [hanswer rfl]
    exact rmdir_cleaned hcleaned
  | returned => trivial
  | raised => exact hcleaned

end TurnVector.CrossEngine
