import TurnVector.Guards.Files

/-! # What the guards admit

A path that is admitted names its file directly: no link is on the way to it.
-/

namespace TurnVector.Guards

open Python Json Posix
open Lanes (Artifact declaredPath checkFile strictEvidenceObject memberOf)
open LaneController (Raised contractError)

/-! ## Roots -/

/-- A real directory, and the path that it is given by, which may go through links. -/
structure Root (tree : Node) where
  given : Path
  path : Path
  entries : List (Str × Node)
  resolves : resolve tree false given = .ok path
  real : tree.walk path = some (.directory entries)
  proper : lit ".." ∉ path

/-- A walk from the root that follows no link meets directories alone and ends at that file. -/
structure Direct {tree : Node} (root : Root tree) (names : List Str) (info : Info) (content : Bytes) : Prop where
  directories : ∀ front, front <+: names → front ≠ names → ∃ entries,
    tree.walk (root.path ++ front) = some (.directory entries)
  file : tree.walk (root.path ++ names) = some (.file info content)

variable {tree : Node} {limit : Nat} {describe : Fault → Str} {sha256 : Bytes → Str} (root : Root tree)

theorem direct_of_walk {names : List Str} {info : Info} {content : Bytes}
    (h : tree.walk (root.path ++ names) = some (.file info content)) : Direct root names info content where
  directories := by
    rintro front ⟨rest, rfl⟩ hne
    rw [← List.append_assoc] at h
    exact Node.directory_of_walk h fun hrest => hne (by simp [hrest])
  file := h

/-- A real directory that is given by its own path. -/
def Root.own {path : Path} {entries : List (Str × Node)} (real : tree.walk path = some (.directory entries))
    (proper : lit ".." ∉ path) (encodable : path.all isEncodable = true) : Root tree :=
  ⟨path, path, entries, resolve_of_walk real nofun proper encodable, real, proper⟩

theorem Root.resolved {path : Path} (h : raising describe (resolve tree false root.given) = .ok path) :
    root.path = path := by
  rw [root.resolves] at h
  cases h
  rfl

/-! ## The loop over the components -/

/-- What the loop over the components tells: the entry that it ends at is there, and is no link. -/
theorem lstatEach_ok {ε : Type} {texts : Texts ε} {current : Path} {final result : Option Node} {components : List Str}
    {node : Node} (hcurrent : tree.walk current = some node) (hlink : ∀ target, node ≠ .link target)
    (hdots : lit ".." ∉ current ++ components)
    (h : lstatEach tree limit texts current final components = .ok result) :
    ∃ last, tree.walk (current ++ components) = some last ∧ (∀ target, last ≠ .link target) ∧
      result = if components = [] then final else some last := by
  induction components generalizing current final node with
  | nil =>
    rw [lstatEach] at h
    exact ⟨node, by simpa using hcurrent, hlink, by simpa using h.symm⟩
  | cons component components ih =>
    rw [List.append_cons] at hdots ⊢
    rw [lstatEach] at h
    have hbefore : ∀ front, front <+: current ++ [component] → front ≠ current ++ [component] → ∀ target,
        tree.walk front ≠ some (.link target) := by
      intro front hfront hne
      have hshort : front <+: current := (List.prefix_concat_iff.mp hfront).resolve_left hne
      exact Node.no_link_of_walk hcurrent hlink front hshort
    have hhere : lit ".." ∉ current ++ [component] := fun hmem => hdots (List.mem_append_left _ hmem)
    split at h
    · cases h
    · cases h
    · cases h
    · rename_i next hnot hlstat
      have hwalk := walk_of_lstat hbefore hhere hlstat
      obtain ⟨last, hlast, hlastLink, hresult⟩ := ih hwalk (fun target heq => hnot target (heq ▸ rfl)) hdots h
      refine ⟨last, hlast, hlastLink, ?_⟩
      rw [hresult, if_neg (by simp : component :: components ≠ [])]
      split
      · rename_i hlastOne
        rw [hlastOne, List.append_nil, hwalk] at hlast
        exact hlast
      · rfl

/-! ## The three safe guards -/

theorem relativePath_ok {value : Json} {empty escapes text : Str} (h : relativePath value empty escapes = .ok text) :
    value = .str text ∧ text ≠ [] ∧ isAbsolute text = false ∧ lit ".." ∉ names text := by
  unfold relativePath at h
  split at h
  · split at h
    · cases h
    · rename_i first more hrefused
      cases h
      rw [Bool.or_eq_true, not_or, occurs_iff, Bool.not_eq_true] at hrefused
      exact ⟨rfl, by simp, hrefused⟩
  · cases h

theorem Root.dots {components : List Str} (h : lit ".." ∉ components) : lit ".." ∉ root.path ++ components := by
  rw [List.mem_append, not_or]
  exact ⟨root.proper, h⟩

theorem raising_ok {α : Type} {result : Except Fault α} {a : α} (h : raising describe result = .ok a) :
    result = .ok a := by
  cases result with
  | error fault => cases h
  | ok b =>
    cases h
    rfl

theorem orRefused_ok {α : Type} {text : Str} {result : Except Fault α} {a : α}
    (h : orRefused describe text result = .ok a) : result = .ok a := by
  unfold orRefused at h
  split at h
  · cases h
    rfl
  · cases h
  · cases h

/-- `_bundle_file` -/
theorem bundleFile_direct {value : Json} {place : Str} {requireExecutable : Bool} {path : Path}
    (h : bundleFile tree limit describe root.given value place requireExecutable = .ok path) :
    ∃ text info content, value = .str text ∧ Direct root (names text) info content ∧
      path = root.path ++ names text := by
  unfold bundleFile at h
  simp only [bind_ok_iff] at h
  obtain ⟨text, htext, resolvedRoot, hroot, final, hfinal, candidate, hcandidate, _, -, h⟩ := h
  obtain ⟨hvalue, -, -, hdots⟩ := relativePath_ok htext
  obtain rfl := root.resolved hroot
  obtain ⟨last, hlast, hlink, rfl⟩ := lstatEach_ok root.real nofun (root.dots hdots) hfinal
  obtain rfl := eq_of_resolve hlast hlink (root.dots hdots) (raising_ok hcandidate)
  split at h
  · rename_i info content hfile
    split at hfile
    · cases hfile
    · cases hfile
      split at h
      · cases h
      · cases h
        exact ⟨text, info, content, hvalue, direct_of_walk root hlast, rfl⟩
  · cases h

theorem checkFile_ok {descriptor : List (Str × Json)} {id path digest : Str} {size : Nat} {artifact : Artifact}
    (h : checkFile descriptor id path size digest = .ok artifact) : artifact = ⟨id, path, size, digest⟩ := by
  unfold checkFile at h
  split at h
  · split at h
    · cases h
    · split at h
      · split at h
        · cases h
        · split at h
          · cases h
          · exact (Except.ok.inj h).symm
      · cases h
  · cases h

theorem declaredPath_ok {descriptor : List (Str × Json)} {id text : Str}
    (h : declaredPath descriptor = .ok (id, text)) :
    descriptor.lookup (lit "path") = some (.str text) ∧ lit ".." ∉ names text := by
  unfold declaredPath at h
  split at h
  · rename_i hpath
    split at h
    · cases h
    · rename_i hrefused
      cases h
      refine ⟨hpath, fun hmem => hrefused ?_⟩
      simp [List.mem_of_mem_filter hmem]
  · cases h
  · cases h

/-- `validate_subject_artifact` -/
theorem validateSubjectArtifact_direct {descriptor : List (Str × Json)} {artifact : Artifact}
    (h : validateSubjectArtifact tree limit describe sha256 descriptor root.given = .ok artifact) :
    ∃ info content, descriptor.lookup (lit "path") = some (.str artifact.path) ∧
      Direct root (names artifact.path) info content ∧ artifact.size = content.length ∧
      artifact.sha256 = sha256 content := by
  unfold validateSubjectArtifact ensureNoSymlink at h
  simp only [bind_ok_iff] at h
  obtain ⟨⟨id, text⟩, hdeclared, resolvedRoot, hroot, resolved, hresolved, _, -, _, ⟨final, hfinal, -⟩, h⟩ := h
  obtain ⟨hpath, hdots⟩ := declaredPath_ok hdeclared
  obtain rfl := root.resolved hroot
  obtain ⟨last, hlast, hlink, -⟩ := lstatEach_ok root.real nofun (root.dots hdots) hfinal
  obtain rfl := eq_of_resolve hlast hlink (root.dots hdots) (orRefused_ok hresolved)
  split at h
  · rename_i info content hstat
    obtain rfl := eq_of_stat hlast hlink (root.dots hdots) hstat
    rw [checkFile_ok h]
    exact ⟨info, content, hpath, direct_of_walk root hlast, rfl, rfl⟩
  · cases h

/-! ## Reading a cross-engine artifact -/

theorem readRemaining_eq (text : Str) (content : Bytes) : readRemaining text content content.length = .ok content := by
  induction hlength : content.length using Nat.strong_induction_on generalizing content with
  | h n ih =>
    rw [readRemaining]
    split
    · rename_i hzero
      rw [List.length_eq_zero_iff.mp (hlength.trans hzero)]
    · rename_i hpos
      have hsome : content.take (min (64 * 1024) n) ≠ [] := by
        rw [Ne, List.take_eq_nil_iff, not_or]
        exact ⟨by omega, fun hnil => hpos (by rw [← hlength, hnil]; rfl)⟩
      have htaken := List.length_pos_iff.mpr hsome
      have hless : (content.take (min (64 * 1024) n)).length ≤ n := by simp
      have hrest : (content.drop (content.take (min (64 * 1024) n)).length).length =
          n - (content.take (min (64 * 1024) n)).length := by rw [List.length_drop, hlength]
      rw [if_neg hsome, ← hrest, ih _ (by omega) _ rfl]
      have htake := List.prefix_iff_eq_append.mp (List.take_prefix (min (64 * 1024) n) content)
      exact congrArg Except.ok htake

/-- What was read is the file that is there. -/
theorem readOpened_ok {text : Str} {before : Info} {size : Nat} {opened : Node} {result : Nat × Str × Nat × Nat}
    (h : readOpened sha256 text before size opened = .ok result) :
    ∃ info content, opened = .file info content ∧
      result = (content.length, sha256 content, info.device, info.inode) := by
  unfold readOpened at h
  split at h
  · rename_i info content
    rw [readRemaining_eq] at h
    split at h
    · cases h
    split at h
    · cases h
    · obtain ⟨raw, hraw, h⟩ := bind_ok_iff.mp h
      cases hraw
      split at h
      · cases h
      · exact ⟨info, content, rfl, (Except.ok.inj h).symm⟩
  · cases h

/-- The components of a path of the strict form are its names. -/
theorem relativePosixPath_ok {text relative place : Str}
    (h : CrossEngine.relativePosixPath (.str text) place = .ok relative) :
    relative = text ∧ names text = text.splitOn (cp 47) ∧ lit ".." ∉ text.splitOn (cp 47) := by
  unfold CrossEngine.relativePosixPath at h
  obtain ⟨bounded, hbounded, hchecked⟩ := bind_ok_iff.mp h
  have hsame : bounded = text := by
    unfold CrossEngine.Contracts.boundedString at hbounded
    dsimp only at hbounded
    split at hbounded
    · cases hbounded
    split at hbounded
    · cases hbounded
    split at hbounded
    · cases hbounded
    split at hbounded
    · cases hbounded
    · exact (Except.ok.inj hbounded).symm
  subst hsame
  split at hchecked
  · rename_i hparts
    cases hchecked
    have hdots : ∀ part ∈ relative.splitOn (cp 47), Canonical.isDots part = false := by
      intro part hpart
      have hboth := List.all_eq_true.mp hparts part hpart
      rw [Bool.and_eq_true, Bool.not_eq_true'] at hboth
      exact hboth.1
    refine ⟨rfl, List.filter_eq_self.mpr fun part hpart => ?_, fun hmem => ?_⟩
    · have hpart := hdots part hpart
      unfold Canonical.isDots at hpart
      rw [Bool.or_eq_false_iff] at hpart
      rw [hpart.1]
      rfl
    · have hpart := hdots _ hmem
      simp [Canonical.isDots] at hpart
  · cases hchecked

/-- `_read_regular_file` -/
theorem readRegularFile_direct {text : Str} {perFileByteLimit : Int} {result : Nat × Str × Nat × Nat}
    (h : readRegularFile tree limit describe sha256 root.path text perFileByteLimit = .ok result) :
    ∃ info content, Direct root (names text) info content ∧
      result = (content.length, sha256 content, info.device, info.inode) := by
  unfold readRegularFile at h
  simp only [bind_ok_iff] at h
  obtain ⟨relative, hrelative, _, -, before, hbefore, h⟩ := h
  obtain ⟨hsame, hnames, hdots⟩ := relativePosixPath_ok hrelative
  rw [hsame, ← hnames] at hbefore h
  rw [← hnames] at hdots
  obtain ⟨last, hlast, hlink, -⟩ := lstatEach_ok root.real nofun (root.dots hdots) hbefore
  split at h
  · cases h
  · split at h
    · cases h
    split at h
    · cases h
    split at h
    · cases h
    · cases h
    · rename_i opened hopened
      obtain ⟨info, content, rfl, hresult⟩ := readOpened_ok h
      have hlstat : lstat tree limit (root.path ++ names text) = .ok (.file info content) := by
        unfold openNoFollow at hopened
        split at hopened
        · cases hopened
        · exact hopened
      have hwalk := walk_of_lstat (fun front hfront _ => Node.no_link_of_walk hlast hlink front hfront)
        (root.dots hdots) hlstat
      exact ⟨info, content, direct_of_walk root hwalk, hresult⟩
  · cases h

/-! ## The guard that resolves first -/

def persistenceFields : List Str := [lit "path", lit "size", lit "sha256", lit "role"]

/-- What `_persistence_file` asks of its descriptor, and of the place that the path resolves to. -/
structure Admitted (limit : Nat) (sha256 : Bytes → Str) (value : Json) (role : Str) (members : List (Str × Json))
    (text : Str) (location : Path) (info : Info) (content : Bytes) : Prop where
  object : value = .obj members
  fields : Lanes.sameSet (members.map Prod.fst) persistenceFields = true
  role : members.lookup (lit "role") = some (.str role)
  path : members.lookup (lit "path") = some (.str text)
  named : text ≠ []
  relative : isAbsolute text = false
  dots : lit ".." ∉ names text
  resolved : resolve tree false (root.path ++ names text) = .ok location
  inside : root.path <+: location
  found : lstat tree limit location = .ok (.file info content)
  size : members.lookup (lit "size") = some (.int content.length)
  digest : members.lookup (lit "sha256") = some (.str (sha256 content))
  form : Canonical.isSha256 (sha256 content) = true

theorem memberOf_ok_iff {members : List (Str × Json)} {name : String} {value : Json} :
    memberOf members name = .ok value ↔ members.lookup (lit name) = some value := by
  unfold memberOf
  cases members.lookup (lit name) with
  | none => simp [Lanes.keyError]
  | some found => simp

theorem readBytes_of_lstat {path : Path} {info : Info} {content : Bytes}
    (h : lstat tree limit path = .ok (.file info content)) : readBytes tree limit path = .ok content := by
  unfold readBytes
  rw [stat_of_lstat h nofun]

theorem strictEvidenceObject_ok_iff {value : Json} {place : Str} {members : List (Str × Json)} :
    strictEvidenceObject value ["path", "size", "sha256", "role"] place = .ok members ↔
      value = .obj members ∧ Lanes.sameSet (members.map Prod.fst) persistenceFields = true := by
  unfold strictEvidenceObject Lanes.exactMembers
  cases value with
  | obj found =>
    dsimp only
    split
    · rename_i hfields
      constructor
      · rintro heq
        cases heq
        exact ⟨rfl, hfields⟩
      · rintro ⟨heq, -⟩
        cases heq
        rfl
    · rename_i hfields
      constructor
      · nofun
      · rintro ⟨heq, hsame⟩
        cases heq
        exact absurd hsame hfields
  | _ => simp [contractError]

theorem relativePath_of {text empty escapes : Str} (hnamed : text ≠ []) (hrelative : isAbsolute text = false)
    (hdots : lit ".." ∉ names text) : relativePath (.str text) empty escapes = .ok text := by
  cases text with
  | nil => exact absurd rfl hnamed
  | cons first more => simp [relativePath, hrelative, hdots]

theorem checkStaged_ok_iff {path : Path} {members : List (Str × Json)} {place : Str} {info : Info} {content : Bytes}
    (hfile : lstat tree limit path = .ok (.file info content)) :
    checkStaged tree limit describe sha256 path members place = .ok () ↔
      members.lookup (lit "size") = some (.int content.length) ∧
        members.lookup (lit "sha256") = some (.str (sha256 content)) ∧ Canonical.isSha256 (sha256 content) = true := by
  have hstat : stat tree limit path = .ok (.file info content) := stat_of_lstat hfile nofun
  unfold checkStaged
  simp only [bind_ok_iff, hstat, readBytes_of_lstat hfile, raising, Except.mapError]
  constructor
  · rintro ⟨size, hsize, h⟩
    rw [memberOf_ok_iff] at hsize
    split at h
    · obtain ⟨_, hfound, h⟩ := bind_ok_iff.mp h
      cases hfound
      split at h
      · cases h
      rename_i hlength
      obtain ⟨digest, hdigest, h⟩ := bind_ok_iff.mp h
      rw [memberOf_ok_iff] at hdigest
      split at h
      · split at h
        · cases h
        rename_i hform
        obtain ⟨_, hcontent, h⟩ := bind_ok_iff.mp h
        cases hcontent
        split at h
        · cases h
        rename_i hsame
        simp only [not_not] at hlength hsame
        rw [← hsame] at hdigest hform
        refine ⟨?_, hdigest, by simpa using hform⟩
        rw [hsize, ← hlength]
        rfl
      · cases h
    · cases h
  · rintro ⟨hsize, hdigest, hform⟩
    refine ⟨_, memberOf_ok_iff.mpr hsize, ?_⟩
    simp [bind, Except.bind, memberOf_ok_iff.mpr hdigest, hform, Node.size, pure, Except.pure]

/-- `_persistence_file` looks at the place that the path resolves to, whatever the path names. -/
theorem persistenceFile_ok_iff {value : Json} {place role : Str} {location : Path} {members : List (Str × Json)} :
    persistenceFile tree limit describe sha256 root.given value place role = .ok (location, members) ↔
      ∃ text info content, Admitted root limit sha256 value role members text location info content := by
  constructor
  · intro h
    unfold persistenceFile at h
    simp only [bind_ok_iff] at h
    obtain ⟨descriptor, hobject, found, hrole, h⟩ := h
    rw [strictEvidenceObject_ok_iff] at hobject
    rw [memberOf_ok_iff] at hrole
    split at h
    · cases h
    rename_i hsame
    rw [not_not] at hsame
    simp only [bind_ok_iff] at h
    obtain ⟨given, hgiven, text, htext, resolvedRoot, hroot, path, hpath, _, hbelow, node, hnode, h⟩ := h
    obtain rfl := root.resolved hroot
    obtain ⟨rfl, hnamed, hrelative, hdots⟩ := relativePath_ok htext
    rw [memberOf_ok_iff] at hgiven
    have hinside : root.path <+: path := by
      unfold below at hbelow
      split at hbelow
      · assumption
      · cases hbelow
    split at h
    · rename_i info content
      obtain ⟨hstaged, h⟩ := then_ok_iff.mp h
      cases h
      have hfile := orRefused_ok hnode
      obtain ⟨hsize, hdigest, hform⟩ := (checkStaged_ok_iff hfile).mp hstaged
      exact ⟨text, info, content, hobject.1, hobject.2, hsame ▸ hrole, hgiven, hnamed, hrelative, hdots,
        raising_ok hpath, hinside, hfile, hsize, hdigest, hform⟩
    · cases h
  · rintro ⟨text, info, content, h⟩
    have hobject : strictEvidenceObject value ["path", "size", "sha256", "role"] place = .ok members :=
      strictEvidenceObject_ok_iff.mpr ⟨h.object, h.fields⟩
    have hrole := memberOf_ok_iff.mpr h.role
    have hpath := memberOf_ok_iff.mpr h.path
    have hstaged : checkStaged tree limit describe sha256 location members place = .ok () :=
      (checkStaged_ok_iff h.found).mpr ⟨h.size, h.digest, h.form⟩
    simp [persistenceFile, hobject, hrole, hpath, relativePath_of h.named h.relative h.dots, root.resolves,
      h.resolved, h.inside, h.found, hstaged, raising, below, orRefused, bind, Except.bind, Except.mapError, pure,
      Except.pure]

end TurnVector.Guards
