import TurnVector.Guards.Direct

/-! # Links that are admitted

Three of the guards admit no path through a link. `_persistence_file` resolves before it looks.
-/

namespace TurnVector.Guards

open Python Json Posix

/-- A call of one of the four guards, below some root. -/
inductive Call where
  | validateSubjectArtifact (descriptor : List (Str × Json))
  | bundleFile (value : Json) (place : Str) (requireExecutable : Bool)
  | persistenceFile (value : Json) (place expectedRole : Str)
  | readRegularFile (text : Str) (perFileByteLimit : Int)

section Calls

variable {tree : Node} (limit : Nat) (describe : Fault → Str) (sha256 : Bytes → Str) (root : Root tree)

/-- A path that the guard admits names a file directly, and the file that was looked at is that one. The root of
`_read_regular_file` was resolved by its caller. -/
def Guarded : Call → Prop
  | .validateSubjectArtifact descriptor => ∀ artifact,
      validateSubjectArtifact tree limit describe sha256 descriptor root.given = .ok artifact →
      ∃ info content, descriptor.lookup (lit "path") = some (.str artifact.path) ∧
        Direct root (names artifact.path) info content ∧ artifact.size = content.length ∧
        artifact.sha256 = sha256 content
  | .bundleFile value place requireExecutable => ∀ path,
      bundleFile tree limit describe root.given value place requireExecutable = .ok path →
      ∃ text info content, value = .str text ∧ Direct root (names text) info content ∧ path = root.path ++ names text
  | .persistenceFile value place expectedRole => ∀ path members,
      persistenceFile tree limit describe sha256 root.given value place expectedRole = .ok (path, members) →
      ∃ text info content, members.lookup (lit "path") = some (.str text) ∧ Direct root (names text) info content ∧
        path = root.path ++ names text
  | .readRegularFile text perFileByteLimit => ∀ result,
      readRegularFile tree limit describe sha256 root.path text perFileByteLimit = .ok result →
      ∃ info content, Direct root (names text) info content ∧
        result = (content.length, sha256 content, info.device, info.inode)

/-- A staged file whose path goes through a link, and that is as its descriptor says where the path resolves to. -/
def Diverted : Call → Prop
  | .persistenceFile value _ expectedRole => ∃ members text location info content,
      Admitted root limit sha256 value expectedRole members text location info content ∧
        ∃ front target, front <+: names text ∧ tree.walk (root.path ++ front) = some (.link target)
  | _ => False

variable {limit describe sha256 root}

/-- A path below the root, none of whose components is a link. -/
theorem no_link_below {names : List Str}
    (h : ∀ front target, front <+: names → tree.walk (root.path ++ front) ≠ some (.link target)) :
    ∀ front, front <+: root.path ++ names → ∀ target, tree.walk front ≠ some (.link target) := by
  intro front hfront target
  rcases List.prefix_or_prefix_of_prefix hfront (List.prefix_append root.path names) with hshort | ⟨below, rfl⟩
  · exact Node.no_link_of_walk root.real nofun front hshort target
  · exact h below target ((List.prefix_append_right_inj _).mp hfront)

/-- An admitted path without a link names its file directly. -/
theorem Admitted.direct {value : Json} {role : Str} {members : List (Str × Json)} {text : Str} {location : Path}
    {info : Info} {content : Bytes} (h : Admitted root limit sha256 value role members text location info content)
    (hno : ∀ front target, front <+: names text → tree.walk (root.path ++ front) ≠ some (.link target)) :
    Direct root (names text) info content ∧ location = root.path ++ names text := by
  have hbelow := no_link_below hno
  obtain rfl := eq_of_resolveFrom hbelow (root.dots h.dots) h.resolved
  have hwalk := walk_of_lstat (fun front hfront _ => hbelow front hfront) (root.dots h.dots) h.found
  exact ⟨direct_of_walk root hwalk, rfl⟩

theorem not_guarded_of_diverted {call : Call} (h : Diverted limit sha256 root call) :
    ¬ Guarded limit describe sha256 root call := by
  cases call with
  | persistenceFile value place expectedRole =>
    intro hguarded
    obtain ⟨members, text, location, info, content, hadmitted, front, target, hfront, hlink⟩ := h
    have haccepted : persistenceFile tree limit describe sha256 root.given value place expectedRole =
        .ok (location, members) := (persistenceFile_ok_iff root).mpr ⟨text, info, content, hadmitted⟩
    obtain ⟨named, info', content', hpath, hdirect, -⟩ := hguarded location members haccepted
    rw [hadmitted.path] at hpath
    cases hpath
    have hprefix : root.path ++ front <+: root.path ++ names text := (List.prefix_append_right_inj _).mpr hfront
    exact Node.no_link_of_walk hdirect.file nofun _ hprefix target hlink
  | _ => exact h.elim

/-- A path that a guard admits names a file directly, but where `_persistence_file` is led through a link to a file
below the root that is as its descriptor says. -/
theorem direct_iff_not_diverted (tree : Node) (limit : Nat) (describe : Fault → Str) (sha256 : Bytes → Str)
    (root : Root tree) (call : Call) : Guarded limit describe sha256 root call ↔ ¬ Diverted limit sha256 root call := by
  constructor
  · exact fun hguarded hdiverted => not_guarded_of_diverted hdiverted hguarded
  · intro hnot
    cases call with
    | validateSubjectArtifact descriptor => exact fun artifact h => validateSubjectArtifact_direct root h
    | bundleFile value place requireExecutable => exact fun path h => bundleFile_direct root h
    | readRegularFile text perFileByteLimit => exact fun result h => readRegularFile_direct root h
    | persistenceFile value place expectedRole =>
      intro path members h
      obtain ⟨text, info, content, hadmitted⟩ := (persistenceFile_ok_iff root).mp h
      have hno : ∀ front target, front <+: names text → tree.walk (root.path ++ front) ≠ some (.link target) :=
        fun front target hfront hlink =>
          hnot ⟨members, text, path, info, content, hadmitted, front, target, hfront, hlink⟩
      obtain ⟨hdirect, hlocation⟩ := hadmitted.direct hno
      exact ⟨text, info, content, hadmitted.path, hdirect, hlocation⟩

end Calls

/-! ## A link beside its target -/

def stagedInfo : Info := ⟨1, 3, 1, 0o644, 0⟩

/-- The digest of no bytes. -/
def emptyDigest : Str := lit "e3b0c44298fc1c149afbf4c8996fb92427ae41e4649b934ca495991b7852b855"

def stagedEntries : List (Str × Node) :=
  [(lit "current", .link (lit "staged")), (lit "staged", .file stagedInfo [])]

def stagedTree : Node := .directory [(lit "runtime", .directory stagedEntries)]

theorem staged_real : stagedTree.walk [lit "runtime"] = some (.directory stagedEntries) := rfl

theorem staged_link : stagedTree.walk [lit "runtime", lit "current"] = some (.link (lit "staged")) := rfl

theorem staged_file : stagedTree.walk [lit "runtime", lit "staged"] = some (.file stagedInfo []) := rfl

theorem staged_proper : lit ".." ∉ [lit "runtime"] := by decide

theorem staged_encodable : [lit "runtime"].all isEncodable = true := by decide

def stagedRoot : Root stagedTree := Root.own staged_real staged_proper staged_encodable

def stagedMembers : List (Str × Json) :=
  [(lit "path", .str (lit "current")), (lit "size", .int 0), (lit "sha256", .str emptyDigest),
    (lit "role", .str (lit "snapshot_payload"))]

theorem staged_resolves :
    resolve stagedTree false [lit "runtime", lit "current"] = .ok [lit "runtime", lit "staged"] := by
  have htarget : resolveFrom stagedTree false [[lit "runtime", lit "current"]] [lit "runtime"] [lit "staged"] =
      .ok [lit "runtime", lit "staged"] :=
    calc resolveFrom stagedTree false [[lit "runtime", lit "current"]] [lit "runtime"] [lit "staged"]
      _ = resolveFrom stagedTree false [[lit "runtime", lit "current"]] [lit "runtime", lit "staged"] [] :=
        resolveFrom_entry (by decide) (by decide) (by decide) staged_file nofun
      _ = .ok [lit "runtime", lit "staged"] := resolveFrom.eq_def ..
  calc resolveFrom stagedTree false [] [] [lit "runtime", lit "current"]
    _ = resolveFrom stagedTree false [] [lit "runtime"] [lit "current"] :=
      resolveFrom_entry (by decide) (by decide) (by decide) staged_real nofun
    _ = resolveFrom stagedTree false [] [lit "runtime", lit "staged"] [] :=
      resolveFrom_link (by decide) (by decide) (by decide) staged_link htarget
    _ = .ok [lit "runtime", lit "staged"] := resolveFrom.eq_def ..

theorem staged_admitted : Admitted stagedRoot 40 (fun _ => emptyDigest) (.obj stagedMembers) (lit "snapshot_payload")
    stagedMembers (lit "current") [lit "runtime", lit "staged"] stagedInfo [] where
  object := rfl
  fields := by decide
  role := rfl
  path := rfl
  named := by decide
  relative := by decide
  dots := by decide
  resolved := staged_resolves
  inside := by decide
  found := lstat_of_walk (by decide) rfl nofun (by decide)
  size := rfl
  digest := rfl
  form := by decide

/-- The guard admits a link to a staged file. -/
theorem link_admitted : ¬ Guarded 40 (fun _ => []) (fun _ => emptyDigest) stagedRoot
    (.persistenceFile (.obj stagedMembers) (lit "snapshot") (lit "snapshot_payload")) :=
  not_guarded_of_diverted ⟨stagedMembers, lit "current", [lit "runtime", lit "staged"], stagedInfo, [],
    staged_admitted, [lit "current"], lit "staged", by decide, rfl⟩

end TurnVector.Guards
