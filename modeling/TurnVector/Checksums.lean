import TurnVector.Canonical.Require
import TurnVector.Python.Utf8

/-! # Checksums

`write_checksums` of `evidence.py`, and what its text says of the artifact tree.
-/

namespace TurnVector.Checksums

open Python

/-! ## The tree -/

def isFileName (name : Str) : Bool :=
  !name.isEmpty && !occurs (cp 47) name && !occurs (cp 0) name && decide (name ≠ lit ".") && decide (name ≠ lit "..")

/-- A name in a directory. A byte that is not UTF-8 is a surrogate. -/
abbrev FileName := {name : Str // isFileName name = true}

/-- A regular file, by the names that lead to it. -/
structure ArtifactFile where
  path : List FileName
  content : Bytes
  named : path ≠ []

/-- `path.relative_to(root).as_posix()` -/
def ArtifactFile.posix (file : ArtifactFile) : Str := [cp 47].intercalate (file.path.map (·.val))

/-- The regular files under the output directory. A file is no directory. -/
structure ArtifactTree where
  files : List ArtifactFile
  distinct : (files.map (·.path)).Nodup
  leaves : ∀ f ∈ files, ∀ g ∈ files, f.path <+: g.path → f.path = g.path

/-! ## The writer -/

section Writer

variable (sha256 : Bytes → Str)

/-- `sorted` of paths compares their parts. -/
def ArtifactTree.sortedFiles (tree : ArtifactTree) : List ArtifactFile :=
  tree.files.insertionSort fun f g => f.path.map (·.val) ≤ g.path.map (·.val)

/-- `f"{sha256_file(path)}  {relative}"` -/
def entry (file : ArtifactFile) : Str := sha256 file.content ++ lit "  " ++ file.posix

/-- `write_checksums`. A surrogate raises `UnicodeEncodeError`. -/
def writeChecksums (exclude : List Str) (tree : ArtifactTree) : Option Bytes :=
  let entries := (tree.sortedFiles.filter fun file => !occurs file.posix exclude).map (entry sha256)
  encodeUtf8 ([cp 10].intercalate entries ++ lit "\n")

end Writer

/-- The default of `exclude`. -/
def outputName : Str := lit "SHA256SUMS"

/-! ## Reading the text back -/

/-- The digest of a line and what comes after the two spaces. -/
def readLine (line : Str) : Option (Str × Str) :=
  if Canonical.isSha256 (line.take 64) ∧ (line.drop 64).take 2 = lit "  " then some (line.take 64, line.drop 66)
  else none

/-- The text split at LF, line by line. -/
def readChecksums (raw : Bytes) : Option (List (Str × Str)) := do
  let text ← decodeUtf8 raw
  ((text.splitOn (cp 10)).filter fun line => !line.isEmpty).mapM readLine

/-! ## The names -/

theorem slash_not_mem (name : FileName) : cp 47 ∉ name.val := by
  have h := name.property
  simp only [isFileName, Bool.and_eq_true, Bool.not_eq_true'] at h
  intro hslash
  exact Bool.false_ne_true (h.1.1.1.2.symm.trans ((occurs_iff _ _).mpr hslash))

/-- A path is its names again, split at the slashes. -/
theorem splitOn_posix (file : ArtifactFile) : file.posix.splitOn (cp 47) = file.path.map (·.val) := by
  apply List.splitOn_intercalate
  · intro name hname
    obtain ⟨component, -, rfl⟩ := List.mem_map.mp hname
    exact slash_not_mem component
  · exact fun hnone => file.named (List.map_eq_nil_iff.mp hnone)

theorem posix_injective {f g : ArtifactFile} (h : f.posix = g.posix) : f.path = g.path := by
  have hnames : f.path.map (·.val) = g.path.map (·.val) := by rw [← splitOn_posix, h, splitOn_posix]
  exact List.map_injective_iff.mpr Subtype.val_injective hnames

theorem ArtifactFile.eq_of {f g : ArtifactFile} (hpath : f.path = g.path) (hcontent : f.content = g.content) :
    f = g := by
  cases f
  cases g
  cases hpath
  cases hcontent
  rfl

theorem mem_intercalate {sep c : CodePoint} (hc : c ≠ sep) (texts : List Str) :
    c ∈ [sep].intercalate texts ↔ ∃ text ∈ texts, c ∈ text := by
  induction texts with
  | nil => simp
  | cons text texts ih =>
    cases texts with
    | nil => simp
    | cons next texts =>
      rw [List.intercalate_cons_cons, List.mem_append, List.mem_append, ih, List.mem_singleton]
      simp [hc]

theorem mem_posix (file : ArtifactFile) {c : CodePoint} (hc : c ≠ cp 47) :
    c ∈ file.posix ↔ ∃ name ∈ file.path, c ∈ name.val := by
  unfold ArtifactFile.posix
  rw [mem_intercalate hc]
  simp only [List.mem_map, exists_exists_and_eq_and]

/-! ## The lines -/

/-- What a line tells is what follows the spaces. -/
theorem readLine_some {line : Str} {pair : Str × Str} (h : readLine line = some pair) : pair.2 = line.drop 66 := by
  unfold readLine at h
  split at h
  · cases h
    rfl
  · cases h

theorem readLine_entry (digest path : Str) (h : Canonical.isSha256 digest = true) :
    readLine (digest ++ lit "  " ++ path) = some (digest, path) := by
  have hlength : digest.length = 64 := by
    simp only [Canonical.isSha256, Bool.and_eq_true, beq_iff_eq] at h
    exact h.1
  have htake : (digest ++ lit "  " ++ path).take 64 = digest := by
    rw [List.append_assoc, ← hlength, List.take_left]
  have hdrop : (digest ++ lit "  " ++ path).drop 64 = lit "  " ++ path := by
    rw [List.append_assoc, ← hlength, List.drop_left]
  have hrest : (digest ++ lit "  " ++ path).drop 66 = path := by
    rw [show (66 : Nat) = 64 + 2 from rfl, ← List.drop_drop, hdrop]
    rfl
  unfold readLine
  rw [htake, hdrop, hrest, if_pos ⟨h, rfl⟩]

/-- What a `mapM` that returned gave for each item. -/
theorem forall₂_of_mapM_some {α β : Type} {f : α → Option β} {xs : List α} {ys : List β} (h : xs.mapM f = some ys) :
    List.Forall₂ (fun x y => f x = some y) xs ys := by
  induction xs generalizing ys with
  | nil =>
    cases h
    exact .nil
  | cons x xs ih =>
    rw [List.mapM_cons] at h
    obtain ⟨y, hy, h⟩ := Option.bind_eq_some_iff.mp h
    obtain ⟨rest, hrest, h⟩ := Option.bind_eq_some_iff.mp h
    cases h
    exact .cons hy (ih hrest)

theorem exists_of_mem_right {α β : Type} {R : α → β → Prop} {xs : List α} {ys : List β} (h : List.Forall₂ R xs ys) :
    ∀ y ∈ ys, ∃ x ∈ xs, R x y := by
  induction h with
  | nil => simp
  | cons hxy _ ih =>
    refine List.forall_mem_cons.mpr ⟨⟨_, List.mem_cons_self .., hxy⟩, fun y hy => ?_⟩
    obtain ⟨x, hx, hR⟩ := ih y hy
    exact ⟨x, List.mem_cons_of_mem _ hx, hR⟩

theorem mapM_some {α β : Type} (f : α → Option β) (g : α → β) (xs : List α) (h : ∀ x ∈ xs, f x = some (g x)) :
    xs.mapM f = some (xs.map g) := by
  induction xs with
  | nil => rfl
  | cons x xs ih =>
    rw [List.mapM_cons, h x (by simp), ih fun y hy => h y (by simp [hy])]
    rfl

/-- No piece of a split text holds what it was split at. -/
theorem not_mem_splitOn (text : Str) (c : CodePoint) : ∀ piece ∈ text.splitOn c, c ∉ piece := by
  induction text with
  | nil => simp
  | cons head text ih =>
    rw [List.splitOn_cons_eq_if_modifyHead]
    split
    · exact List.forall_mem_cons.mpr ⟨List.not_mem_nil, ih⟩
    · rename_i hhead
      cases hpieces : text.splitOn c with
      | nil => simp
      | cons piece pieces =>
        rw [hpieces] at ih
        obtain ⟨hpiece, hpieces⟩ := List.forall_mem_cons.mp ih
        refine List.forall_mem_cons.mpr ⟨fun hmem => ?_, hpieces⟩
        rcases List.mem_cons.mp hmem with rfl | hmem
        · exact hhead (beq_self_eq_true _)
        · exact hpiece hmem

/-! ## What the text tells -/

section Trees

variable (sha256 : Bytes → Str)

/-- The files that the text lists. -/
def ArtifactTree.listed (tree : ArtifactTree) : List ArtifactFile :=
  tree.sortedFiles.filter fun file => !occurs file.posix [outputName]

theorem mem_listed (tree : ArtifactTree) (file : ArtifactFile) :
    file ∈ tree.listed ↔ file ∈ tree.files ∧ file.posix ≠ outputName := by
  unfold ArtifactTree.listed ArtifactTree.sortedFiles
  rw [List.mem_filter, (List.perm_insertionSort _ _).mem_iff]
  simp [occurs]

def checksumText (tree : ArtifactTree) : Str := [cp 10].intercalate (tree.listed.map (entry sha256)) ++ lit "\n"

/-- The text reads back as the digests and the paths of the files other than the output. -/
def Decodes (tree : ArtifactTree) : Prop :=
  ∃ raw pairs, writeChecksums sha256 [outputName] tree = some raw ∧ readChecksums raw = some pairs ∧
    ∀ digest path, (digest, path) ∈ pairs ↔
      ∃ file ∈ tree.files, file.posix ≠ outputName ∧ digest = sha256 file.content ∧ path = file.posix

/-- No name has a line feed, and every name is UTF-8. -/
def PlainNames (tree : ArtifactTree) : Prop :=
  ∀ file ∈ tree.files, ∀ name ∈ file.path, cp 10 ∉ name.val ∧ hasSurrogate name.val = false

theorem surrogate_ne (c : CodePoint) (n : Nat) (hn : n < 0xD800) (hc : isSurrogate c = true) : c ≠ cp n := by
  rintro rfl
  simp only [isSurrogate, Bool.and_eq_true, decide_eq_true_eq] at hc
  rw [cp_val n (by omega)] at hc
  omega

theorem plainNames_iff (tree : ArtifactTree) : PlainNames tree ↔
    ∀ file ∈ tree.files, cp 10 ∉ file.posix ∧ ∀ c ∈ file.posix, isSurrogate c = false := by
  refine forall₂_congr fun file _ => ?_
  rw [mem_posix file (by decide)]
  constructor
  · intro h
    refine ⟨fun ⟨name, hname, hlf⟩ => (h name hname).1 hlf, fun c hc => ?_⟩
    by_contra hsurrogate
    rw [Bool.not_eq_false] at hsurrogate
    obtain ⟨name, hname, hmem⟩ := (mem_posix file (surrogate_ne c 47 (by omega) hsurrogate)).mp hc
    have hnone := (h name hname).2
    rw [hasSurrogate, List.any_eq_false] at hnone
    exact hnone c hmem hsurrogate
  · rintro ⟨hlf, hnone⟩ name hname
    refine ⟨fun hmem => hlf ⟨name, hname, hmem⟩, ?_⟩
    rw [hasSurrogate, List.any_eq_false]
    intro c hmem hsurrogate
    have hposix := (mem_posix file (surrogate_ne c 47 (by omega) hsurrogate)).mpr ⟨name, hname, hmem⟩
    rw [hnone c hposix] at hsurrogate
    cases hsurrogate

theorem mem_checksumText (tree : ArtifactTree) {c : CodePoint} (hc : c ≠ cp 10) :
    c ∈ checksumText sha256 tree ↔ ∃ file ∈ tree.listed, c ∈ entry sha256 file := by
  unfold checksumText
  rw [List.mem_append, mem_intercalate hc]
  have hlf : c ∉ lit "\n" := by
    intro hmem
    exact hc (List.mem_singleton.mp hmem)
  simp only [List.mem_map, exists_exists_and_eq_and, hlf, or_false]

theorem mem_entry_of_posix (file : ArtifactFile) {c : CodePoint} (hc : c ∈ file.posix) : c ∈ entry sha256 file :=
  List.mem_append_right _ hc

/-- The pairs that are read have no line feed in their paths. -/
theorem readChecksums_path {raw : Bytes} {pairs : List (Str × Str)} (h : readChecksums raw = some pairs) :
    ∀ pair ∈ pairs, cp 10 ∉ pair.2 := by
  unfold readChecksums at h
  obtain ⟨text, -, h⟩ := Option.bind_eq_some_iff.mp h
  intro pair hpair hlf
  obtain ⟨line, hline, hread⟩ := exists_of_mem_right (forall₂_of_mapM_some h) pair hpair
  rw [readLine_some hread] at hlf
  exact not_mem_splitOn text (cp 10) line (List.mem_filter.mp hline).1 (List.mem_of_mem_drop hlf)

theorem plainNames_of_decodes (tree : ArtifactTree) (h : Decodes sha256 tree) : PlainNames tree := by
  obtain ⟨raw, pairs, hraw, hpairs, hmem⟩ := h
  have hnone : hasSurrogate (checksumText sha256 tree) = false := by
    change encodeUtf8 (checksumText sha256 tree) = some raw at hraw
    unfold encodeUtf8 at hraw
    split at hraw
    · cases hraw
    · rename_i hsurrogate
      exact Bool.not_eq_true _ ▸ hsurrogate
  rw [hasSurrogate, List.any_eq_false] at hnone
  rw [plainNames_iff]
  intro file hfile
  constructor
  · intro hlf
    have hother : file.posix ≠ outputName := by
      intro hsame
      rw [hsame] at hlf
      exact absurd hlf (by decide)
    exact readChecksums_path hpairs _ ((hmem _ _).mpr ⟨file, hfile, hother, rfl, rfl⟩) hlf
  · intro c hc
    by_contra hsurrogate
    rw [Bool.not_eq_false] at hsurrogate
    have hother : file.posix ≠ outputName := by
      intro hsame
      rw [hsame] at hc
      have hnone : hasSurrogate outputName = false := by decide
      rw [hasSurrogate, List.any_eq_false] at hnone
      exact hnone c hc hsurrogate
    exact hnone c ((mem_checksumText sha256 tree (surrogate_ne c 10 (by omega) hsurrogate)).mpr
      ⟨file, (mem_listed tree file).mpr ⟨hfile, hother⟩, mem_entry_of_posix sha256 file hc⟩) hsurrogate

theorem sha256_surrogate (digest : Str) (h : Canonical.isSha256 digest = true) :
    ∀ c ∈ digest, isSurrogate c = false := by
  intro c hc
  simp only [Canonical.isSha256, Bool.and_eq_true, List.all_eq_true] at h
  have hhex := h.2 c hc
  simp only [Canonical.isHex, isDigit, Bool.or_eq_true, Bool.and_eq_true, decide_eq_true_eq] at hhex
  simp only [isSurrogate, Bool.and_eq_false_iff, decide_eq_false_iff_not]
  omega

theorem sha256_lf (digest : Str) (h : Canonical.isSha256 digest = true) : cp 10 ∉ digest := by
  intro hc
  simp only [Canonical.isSha256, Bool.and_eq_true, List.all_eq_true] at h
  exact absurd (h.2 _ hc) (by decide)

/-- The lines of a text of plain names. -/
theorem split_checksumText (hsha : ∀ content, Canonical.isSha256 (sha256 content) = true) (tree : ArtifactTree)
    (h : PlainNames tree) : ((checksumText sha256 tree).splitOn (cp 10)).filter (fun line => !line.isEmpty) =
      tree.listed.map (entry sha256) := by
  rw [plainNames_iff] at h
  have hplain : ∀ line ∈ tree.listed.map (entry sha256), cp 10 ∉ line ∧ line ≠ [] := by
    intro line hline
    obtain ⟨file, hfile, rfl⟩ := List.mem_map.mp hline
    have hposix := (h file ((mem_listed tree file).mp hfile).1).1
    constructor
    · unfold entry
      rw [List.mem_append, List.mem_append]
      rintro ((hmem | hmem) | hmem)
      · exact sha256_lf _ (hsha file.content) hmem
      · exact absurd hmem (by decide)
      · exact hposix hmem
    · intro hnil
      exact absurd (List.append_eq_nil_iff.mp (List.append_eq_nil_iff.mp hnil).1).2 (by decide)
  have hfilter : (tree.listed.map (entry sha256)).filter (fun line => !line.isEmpty) =
      tree.listed.map (entry sha256) := by
    rw [List.filter_eq_self]
    intro line hline
    simpa using (hplain line hline).2
  unfold checksumText
  have hlast : [cp 10].intercalate (tree.listed.map (entry sha256)) ++ lit "\n" =
      [cp 10].intercalate (tree.listed.map (entry sha256)) ++ cp 10 :: [] := rfl
  rw [hlast, List.splitOn_append_cons_self, List.filter_append]
  by_cases hnone : tree.listed.map (entry sha256) = []
  · rw [hnone]
    rfl
  · rw [List.splitOn_intercalate (cp 10) (fun line hline => (hplain line hline).1) hnone, hfilter]
    simp

theorem decodes_of_plainNames (hsha : ∀ content, Canonical.isSha256 (sha256 content) = true) (tree : ArtifactTree)
    (h : PlainNames tree) : Decodes sha256 tree := by
  have hsplit := split_checksumText sha256 hsha tree h
  have hplain := (plainNames_iff tree).mp h
  have hnone : hasSurrogate (checksumText sha256 tree) = false := by
    rw [hasSurrogate, List.any_eq_false]
    intro c hc hsurrogate
    obtain ⟨file, hfile, hentry⟩ :=
      (mem_checksumText sha256 tree (surrogate_ne c 10 (by omega) hsurrogate)).mp hc
    unfold entry at hentry
    rw [List.mem_append, List.mem_append] at hentry
    have hfalse : isSurrogate c = false := by
      rcases hentry with (hmem | hmem) | hmem
      · exact sha256_surrogate _ (hsha file.content) c hmem
      · have hspaces : hasSurrogate (lit "  ") = false := by decide
        rw [hasSurrogate, List.any_eq_false] at hspaces
        exact Bool.not_eq_true _ ▸ hspaces c hmem
      · exact (hplain file ((mem_listed tree file).mp hfile).1).2 c hmem
    rw [hfalse] at hsurrogate
    cases hsurrogate
  have hencoded : encodeUtf8 (checksumText sha256 tree) = some ((checksumText sha256 tree).flatMap utf8Char) := by
    rw [encodeUtf8, if_neg (by rw [hnone]; exact Bool.false_ne_true)]
  refine ⟨_, tree.listed.map fun file => (sha256 file.content, file.posix), hencoded, ?_, ?_⟩
  · unfold readChecksums
    rw [decodeUtf8_encodeUtf8 _ _ hencoded]
    change (((checksumText sha256 tree).splitOn (cp 10)).filter fun line => !line.isEmpty).mapM readLine = _
    rw [hsplit, List.mapM_map]
    exact mapM_some _ _ _ fun file _ => readLine_entry (sha256 file.content) file.posix (hsha file.content)
  · intro digest path
    simp only [List.mem_map, mem_listed, Prod.mk.injEq]
    constructor
    · rintro ⟨file, ⟨hfile, hother⟩, rfl, rfl⟩
      exact ⟨file, hfile, hother, rfl, rfl⟩
    · rintro ⟨file, hfile, hother, rfl, rfl⟩
      exact ⟨file, ⟨hfile, hother⟩, rfl, rfl⟩

/-- Some file other than the output is in one of the trees only. -/
def Differ (left right : ArtifactTree) : Prop :=
  ∃ file : ArtifactFile, file.posix ≠ outputName ∧ ¬ (file ∈ left.files ↔ file ∈ right.files)

/-- No two contents of the trees have one digest. -/
def CollisionFree (left right : ArtifactTree) : Prop :=
  ∀ f ∈ left.files ++ right.files, ∀ g ∈ left.files ++ right.files,
    sha256 f.content = sha256 g.content → f.content = g.content

theorem mem_of_same {left right : ArtifactTree} (hfree : CollisionFree sha256 left right) {pairs : List (Str × Str)}
    (hleft : ∀ digest path, (digest, path) ∈ pairs ↔
      ∃ file ∈ left.files, file.posix ≠ outputName ∧ digest = sha256 file.content ∧ path = file.posix)
    (hright : ∀ digest path, (digest, path) ∈ pairs ↔
      ∃ file ∈ right.files, file.posix ≠ outputName ∧ digest = sha256 file.content ∧ path = file.posix)
    {file : ArtifactFile} (hother : file.posix ≠ outputName) (hfile : file ∈ left.files) : file ∈ right.files := by
  obtain ⟨twin, htwin, -, hdigest, hposix⟩ := (hright _ _).mp ((hleft _ _).mpr ⟨file, hfile, hother, rfl, rfl⟩)
  have hcontent := hfree file (List.mem_append_left _ hfile) twin (List.mem_append_right _ htwin) hdigest
  rw [ArtifactFile.eq_of (posix_injective hposix) hcontent]
  exact htwin

end Trees

/-! ## A line feed in a name -/

/-- The digest of no bytes. -/
def emptyDigest : Str := lit "e3b0c44298fc1c149afbf4c8996fb92427ae41e4649b934ca495991b7852b855"

theorem isSha256_empty : Canonical.isSha256 emptyDigest = true := by decide

/-- A hash of files that are all empty. -/
def emptySha256 (_ : Bytes) : Str := emptyDigest

theorem isFileName_a : isFileName (lit "a") = true := by decide

theorem isFileName_b : isFileName (lit "b") = true := by decide

theorem isFileName_lines : isFileName (lit "a\n" ++ emptyDigest ++ lit "  b") = true := by decide

def emptyFile (name : FileName) : ArtifactFile := ⟨[name], [], List.cons_ne_nil _ _⟩

theorem flat_leaves {files : List ArtifactFile} (hflat : ∀ f ∈ files, f.path.length = 1) :
    ∀ f ∈ files, ∀ g ∈ files, f.path <+: g.path → f.path = g.path := by
  intro f hf g hg hprefix
  exact hprefix.eq_of_length ((hflat f hf).trans (hflat g hg).symm)

theorem empty_flat (names : List FileName) : ∀ f ∈ names.map emptyFile, f.path.length = 1 := by
  intro f hf
  obtain ⟨name, -, rfl⟩ := List.mem_map.mp hf
  rfl

theorem empty_distinct {names : List FileName} (hdistinct : names.Nodup) :
    ((names.map emptyFile).map (·.path)).Nodup := by
  rw [List.map_map]
  exact hdistinct.map fun _ _ hsame => List.head_eq_of_cons_eq hsame

/-- Empty files under the root. -/
def emptyTree (names : List FileName) (hdistinct : names.Nodup) : ArtifactTree :=
  ⟨names.map emptyFile, empty_distinct hdistinct, flat_leaves (empty_flat names)⟩

def linesName : FileName := ⟨_, isFileName_lines⟩

def twoNames : List FileName := [⟨_, isFileName_a⟩, ⟨_, isFileName_b⟩]

theorem twoNames_distinct : twoNames.Nodup := by decide

/-- One file, whose name holds a line of its own. -/
def linesTree : ArtifactTree := emptyTree [linesName] (List.nodup_singleton _)

def twoTree : ArtifactTree := emptyTree twoNames twoNames_distinct

def oneTree : ArtifactTree := emptyTree [⟨_, isFileName_a⟩] (List.nodup_singleton _)

theorem plainNames_empty (names : List FileName) (hdistinct : names.Nodup)
    (h : ∀ name ∈ names, cp 10 ∉ name.val ∧ hasSurrogate name.val = false) :
    PlainNames (emptyTree names hdistinct) := by
  intro file hfile name hname
  obtain ⟨only, honly, rfl⟩ := List.mem_map.mp hfile
  rw [List.mem_singleton.mp hname]
  exact h only honly

theorem empty_content (left right : List FileName) (hleft : left.Nodup) (hright : right.Nodup) :
    CollisionFree emptySha256 (emptyTree left hleft) (emptyTree right hright) := by
  have hnone : ∀ f ∈ left.map emptyFile ++ right.map emptyFile, f.content = [] := by
    intro f hf
    rw [← List.map_append] at hf
    obtain ⟨name, -, rfl⟩ := List.mem_map.mp hf
    rfl
  exact fun f hf g hg _ => (hnone f hf).trans (hnone g hg).symm

end TurnVector.Checksums
