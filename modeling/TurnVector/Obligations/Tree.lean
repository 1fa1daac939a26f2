import TurnVector.Obligations.Sources

/-! # The source tree

What `verify_obligation_sources` finds where the tree below the root stays as it is and a read returns less than was
asked for.
-/

namespace TurnVector.Obligations

open Python Canonical Effects

/-! ## Entries -/

/-- A regular file has the size of its content. -/
structure Entry where
  stat : FileStat
  content : Bytes
  sized : stat.kind = .regular → stat.identity.size = content.length

/-- Where each path leads to, in its components. What stands below an entry stands in a directory. -/
structure SourceTree where
  root : Str
  canonical : root.head? = some (cp 47) ∧ ∀ part ∈ (root.splitOn (cp 47)).tail, isDots part = false
  ancestors : Nat → FileIdentity
  identity : RootIdentity
  entries : List Str → Option Entry
  nested : ∀ parent name entry, parent ≠ [] → entries (parent ++ [name]) = some entry →
    ∃ directory, entries parent = some directory ∧ directory.stat.kind = .directory

/-- By how much each read is cut short: at the first pass for a path, and at the second for a record. -/
structure Splits where
  firstPass : Str → Nat → Nat
  secondPass : Nat → Nat → Nat

namespace SourceTree

variable (tree : SourceTree)

def entryAt (path : Str) : Option Entry := tree.entries (path.splitOn (cp 47))

def contentOf (path : Str) : Bytes := (tree.entryAt path).elim [] (·.content)

def identityOf (path : Str) : FileIdentity := (tree.entryAt path).elim ⟨0, 0, 0, 0⟩ (·.stat.identity)

/-- A regular file is cited. -/
def Regular (path : Str) : Prop := ∃ entry, tree.entryAt path = some entry ∧ entry.stat.kind = .regular

/-! ## Steps -/

/-- What `stat` comes to, without following a symlink. -/
def statAt (place : Str) (components : List Str) : Except Exc FileStat :=
  match tree.entries components with
  | some entry => .ok entry.stat
  | none =>
    let name := strRepr (components.getLastD [])
    refuse (place ++ lit ": cannot stat " ++ name ++ lit ": [Errno 2] No such file or directory: " ++ name)

def componentSteps (place : Str) (components : List Str) (i : Nat) : ComponentSteps :=
  let found := tree.statAt place (components.take (i + 1))
  ⟨found, found, .ok ()⟩

def fileAt (path : Str) (reads : Nat → Nat) : OpenFile :=
  let found := tree.statAt (sourcePlace path) (path.splitOn (cp 47))
  ⟨found, tree.contentOf path, reads, found, .ok ()⟩

def pathSteps (path : Str) (reads : Nat → Nat) : PathSteps :=
  ⟨tree.componentSteps (sourcePlace path) (path.splitOn (cp 47)), tree.fileAt path reads⟩

def rootSteps : RootSteps :=
  ⟨.ok (), fun i => ⟨.ok ⟨.directory, tree.ancestors i⟩, .ok ⟨.directory, tree.ancestors i⟩, .ok ()⟩, .ok tree.identity⟩

def steps (splits : Splits) (obligations : List ObligationRecord) : SourceSteps where
  root := tree.rootSteps
  firstPass path := tree.pathSteps path (splits.firstPass path)
  secondPass i := tree.pathSteps (obligations[i]?.elim [] (·.sourcePath)) (splits.secondPass i)
  reopened := tree.rootSteps
  reopenedClosed := .ok ()
  held := .ok tree.identity
  rootClosed := .ok ()

end SourceTree

/-! ## Checks -/

theorem check_ok (condition : Bool) (text : Str) : check condition text = .ok () ↔ condition = true := by
  unfold check
  split
  · simp [*]
  · simp [*, refuse]

theorem checkSame_self (found : FileStat) (text : Str) : checkSame found found text = .ok () := by
  simp [checkSame, check]

theorem checkRegular_ok (kind : FileKind) (named : Str) : checkRegular kind named = .ok () ↔ kind = .regular := by
  cases kind <;> simp [checkRegular, refuse]

theorem closing_done {α : Type} (body : Except Exc α) : closing body (.ok ()) = body := by
  cases body with
  | error e => rfl
  | ok a => rfl

/-- A component that stays as it is. -/
theorem openComponent_ok (final closes : Bool) (named : Str) (found : Except Exc FileStat) :
    openComponent final closes named ⟨found, found, .ok ()⟩ = .ok () ↔
      ∃ stat, found = .ok stat ∧ stat.kind = if final then .regular else .directory := by
  have hcloses : (if closes then .ok () else pure () : Except Exc Unit) = .ok () := by
    split
    · rfl
    · rfl
  unfold openComponent
  rw [bind_ok_iff]
  refine exists_congr fun stat => and_congr_right fun (hfound : found = .ok stat) => ?_
  have hopened : (found >>= fun opened => do checkSame stat opened (named ++ lit " changed while opening"); .ok ()) =
      (.ok () : Except Exc Unit) := by
    rw [hfound]
    exact then_ok_iff.mpr ⟨checkSame_self stat _, rfl⟩
  cases final with
  | false =>
    simp only [Bool.false_eq_true, if_false, hcloses, then_ok_iff, hopened, check_ok, decide_eq_true_eq, and_true]
    constructor
    · exact And.right
    · intro h
      exact ⟨by simp [h], h⟩
  | true =>
    simp only [if_true, hcloses, then_ok_iff, hopened, check_ok, checkRegular_ok, decide_eq_true_eq, and_true]
    constructor
    · exact And.right
    · intro h
      exact ⟨by simp [h], h⟩

/-! ## Opening -/

namespace SourceTree

variable (tree : SourceTree)

theorem statAt_ok (place : Str) (components : List Str) (stat : FileStat) :
    tree.statAt place components = .ok stat ↔ ∃ entry, tree.entries components = some entry ∧ entry.stat = stat := by
  unfold statAt
  split
  · simp [*]
  · simp [*, refuse]

theorem openCanonicalRoot_ok : openCanonicalRoot tree.rootSteps tree.root = .ok tree.identity := by
  have hall : ((tree.root.splitOn (cp 47)).tail.all fun part => !isDots part) = true :=
    List.all_eq_true.mpr fun part hpart => by simp [tree.canonical.2 part hpart]
  unfold openCanonicalRoot
  simp only [then_ok_iff, check_ok, decide_eq_true_eq, hall, tree.canonical.1, true_and]
  refine ⟨rfl, (forM_ok_iff _ _).mpr fun component _ => ?_, rfl⟩
  exact (openComponent_ok _ _ _ _).mpr ⟨_, rfl, rfl⟩

theorem revalidateRoot_ok (splits : Splits) (obligations : List ObligationRecord) :
    revalidateRoot (tree.steps splits obligations) tree.root tree.identity = .ok () := by
  have hopened : openCanonicalRoot (tree.steps splits obligations).reopened tree.root = .ok tree.identity :=
    tree.openCanonicalRoot_ok
  unfold revalidateRoot
  rw [hopened]
  simp [check, steps, closing, Except.map]

/-- An entry's ancestors are directories. -/
theorem directory_above (parent below : List Str) (hparent : parent ≠ []) (hbelow : below ≠ [])
    {entry : Entry} (h : tree.entries (parent ++ below) = some entry) :
    ∃ directory, tree.entries parent = some directory ∧ directory.stat.kind = .directory := by
  induction below using List.reverseRecOn generalizing entry with
  | nil => exact absurd rfl hbelow
  | append_singleton below name ih =>
    rw [← List.append_assoc] at h
    obtain ⟨directory, hdirectory, hkind⟩ := tree.nested _ name entry (by simp [hparent]) h
    by_cases hlast : below = []
    · rw [hlast, List.append_nil] at hdirectory
      exact ⟨directory, hdirectory, hkind⟩
    · exact ih hlast hdirectory

/-- What the loop over the components asks of each. -/
theorem openSourceNoFollow_each (path : Str) (reads : Nat → Nat) :
    openSourceNoFollow (tree.pathSteps path reads).components (path.splitOn (cp 47)) (sourcePlace path) = .ok () ↔
      ∀ component ∈ (path.splitOn (cp 47)).zipIdx, ∃ entry,
        tree.entries ((path.splitOn (cp 47)).take (component.2 + 1)) = some entry ∧ entry.stat.kind =
          if decide (component.2 + 1 = (path.splitOn (cp 47)).length) then .regular else .directory := by
  unfold openSourceNoFollow
  rw [forM_ok_iff]
  refine forall₂_congr fun component _ => (openComponent_ok _ _ _ _).trans ?_
  simp only [statAt_ok]
  constructor
  · rintro ⟨_, ⟨entry, hentry, rfl⟩, hkind⟩
    exact ⟨entry, hentry, hkind⟩
  · rintro ⟨entry, hentry, hkind⟩
    exact ⟨_, ⟨entry, hentry, rfl⟩, hkind⟩

/-- A path is opened where a regular file is at its end. -/
theorem openSourceNoFollow_ok (path : Str) (reads : Nat → Nat) :
    openSourceNoFollow (tree.pathSteps path reads).components (path.splitOn (cp 47)) (sourcePlace path) = .ok () ↔
      tree.Regular path := by
  rw [openSourceNoFollow_each]
  unfold Regular entryAt
  have hpieces : 0 < (path.splitOn (cp 47)).length := List.length_pos_iff.mpr (List.splitOn_ne_nil _ _)
  generalize path.splitOn (cp 47) = components at hpieces ⊢
  constructor
  · intro h
    have hlast : components.length - 1 < components.length := by omega
    obtain ⟨entry, hentry, hkind⟩ := h (components[components.length - 1], components.length - 1)
      (List.mk_mem_zipIdx_iff_getElem?.mpr (List.getElem?_eq_getElem hlast))
    have hlength : components.length - 1 + 1 = components.length := by omega
    simp only [hlength, List.take_length, decide_true, if_true] at hentry hkind
    exact ⟨entry, hentry, hkind⟩
  · rintro ⟨entry, hentry, hkind⟩ ⟨name, i⟩ hname
    have hi : i < components.length := by
      have hget := List.mk_mem_zipIdx_iff_getElem?.mp hname
      exact (List.getElem?_eq_some_iff.mp hget).1
    by_cases hfinal : i + 1 = components.length
    · simp only [hfinal, List.take_length, decide_true, if_true]
      exact ⟨entry, hentry, hkind⟩
    · simp only [hfinal, decide_false, Bool.false_eq_true, if_false]
      rw [← List.take_append_drop (i + 1) components] at hentry
      refine tree.directory_above _ _ ?_ ?_ hentry
      · exact List.ne_nil_of_length_pos (by simp; omega)
      · exact List.ne_nil_of_length_pos (by simp; omega)

/-! ## Hashing -/

theorem fileAt_regular {path : Str} {entry : Entry} (hentry : tree.entryAt path = some entry) (reads : Nat → Nat) :
    tree.fileAt path reads = ⟨.ok entry.stat, entry.content, reads, .ok entry.stat, .ok ()⟩ := by
  have hstat : tree.statAt (sourcePlace path) (path.splitOn (cp 47)) = .ok entry.stat :=
    (tree.statAt_ok _ _ _).mpr ⟨entry, hentry, rfl⟩
  have hcontent : tree.contentOf path = entry.content := by simp [contentOf, hentry]
  simp [fileAt, hstat, hcontent]

theorem size_regular {path : Str} (h : tree.Regular path) :
    (tree.identityOf path).size = (tree.contentOf path).length := by
  obtain ⟨entry, hentry, hkind⟩ := h
  simp [identityOf, contentOf, hentry, entry.sized hkind]

variable (sha256 : Bytes → Str)

theorem hashFile_ok {path : Str} (h : tree.Regular path) (reads : Nat → Nat) (maxBytes hashBuffer : Nat)
    (hbuffer : 0 < hashBuffer) (place : Str) (hashed : Str × FileIdentity) :
    closing (hashFile sha256 (tree.fileAt path reads) maxBytes hashBuffer place) (tree.fileAt path reads).closed =
        .ok hashed ↔
      (tree.contentOf path).length ≤ maxBytes ∧ hashed = (sha256 (tree.contentOf path), tree.identityOf path) := by
  obtain ⟨entry, hentry, hkind⟩ := h
  have hsize := entry.sized hkind
  have hcontent : tree.contentOf path = entry.content := by simp [contentOf, hentry]
  have hidentity : tree.identityOf path = entry.stat.identity := by simp [identityOf, hentry]
  rw [fileAt_regular tree hentry, closing_done, hcontent, hidentity]
  unfold hashFile
  rw [bind_ok_iff]
  simp only [Except.ok.injEq, exists_eq_left', then_ok_iff, check_ok, atMost_ok, hkind, hsize, decide_true, true_and,
    readChunks_eq reads _ _ _ hbuffer, le_refl, if_true, List.take_length]
  rw [bind_ok_iff]
  simp only [Except.ok.injEq, exists_eq_left', then_ok_iff, check_ok, decide_true, true_and, pure, Except.pure]
  exact and_congr_right fun _ => eq_comm

theorem hashRange_ok {path : Str} (h : tree.Regular path) (reads : Nat → Nat) (start stop : Int) (hashBuffer : Nat)
    (hbuffer : 0 < hashBuffer) (hrange : start < stop) (hstop : stop ≤ (tree.contentOf path).length)
    (place digest : Str) :
    closing (hashRange sha256 (tree.fileAt path reads) start stop (tree.identityOf path) hashBuffer place)
        (tree.fileAt path reads).closed = .ok digest ↔
      0 ≤ start ∧ digest = sha256 (((tree.contentOf path).drop start.toNat).take (stop - start).toNat) := by
  obtain ⟨entry, hentry, hkind⟩ := h
  have hcontent : tree.contentOf path = entry.content := by simp [contentOf, hentry]
  have hidentity : tree.identityOf path = entry.stat.identity := by simp [identityOf, hentry]
  rw [hcontent] at hstop
  rw [fileAt_regular tree hentry, closing_done, hcontent, hidentity]
  unfold hashRange
  rw [bind_ok_iff]
  simp only [Except.ok.injEq, exists_eq_left', then_ok_iff, check_ok, hrange, decide_true, true_and, decide_eq_true_eq,
    readChunks_eq reads _ _ _ hbuffer, List.length_drop]
  refine and_congr_right fun hstart => ?_
  rw [if_pos (by omega), bind_ok_iff]
  simp only [Except.ok.injEq, exists_eq_left', then_ok_iff, check_ok, decide_true, true_and, pure, Except.pure]
  exact eq_comm

end SourceTree

end TurnVector.Obligations
