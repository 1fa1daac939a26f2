import Mathlib.Data.List.Basic
import TurnVector.Python.Text

/-! # Files, directories and symbolic links

A file system that does not change, what the operating system finds at a path, and what Python resolves a path to.
-/

namespace TurnVector.Posix

open Python

/-! ## Trees -/

/-- What `stat` tells of a regular file besides its size. -/
structure Info where
  device : Nat
  inode : Nat
  links : Nat
  permissions : Nat
  mtimeNs : Int
  deriving DecidableEq

inductive Node where
  | file (info : Info) (content : Bytes)
  | directory (entries : List (Str × Node))
  | link (target : Str)

/-- The names of an absolute path. -/
abbrev Path := List Str

namespace Node

/-- `st_size`. Nothing reads that of a directory. -/
def size : Node → Nat
  | .file _ content => content.length
  | .directory _ => 0
  | .link target => target.length

def child (node : Node) (name : Str) : Option Node :=
  match node with
  | .directory entries => entries.lookup name
  | _ => none

/-- What the names lead to without following a link. -/
def walk (node : Node) : Path → Option Node
  | [] => some node
  | name :: names => (node.child name).bind (·.walk names)

mutual

/-- Where links are. -/
def links : Node → List Path
  | .file _ _ => []
  | .link _ => [[]]
  | .directory entries => linksOf entries

def linksOf : List (Str × Node) → List Path
  | [] => []
  | (name, node) :: entries => node.links.map (name :: ·) ++ linksOf entries

end

variable {node found : Node} {front names : Path}

theorem walk_append (node : Node) (front names : Path) :
    node.walk (front ++ names) = (node.walk front).bind (·.walk names) := by
  induction front generalizing node with
  | nil => rfl
  | cons name front ih =>
    rw [List.cons_append, walk, walk]
    cases node.child name with
    | none => rfl
    | some next => exact ih next

/-- What has something below it is a directory. -/
theorem directory_of_walk (h : node.walk (front ++ names) = some found) (hnames : names ≠ []) :
    ∃ entries, node.walk front = some (.directory entries) := by
  rw [walk_append] at h
  obtain ⟨next, hnext, hrest⟩ := Option.bind_eq_some_iff.mp h
  cases names with
  | nil => exact absurd rfl hnames
  | cons name names =>
    rw [walk] at hrest
    obtain ⟨below, hbelow, -⟩ := Option.bind_eq_some_iff.mp hrest
    cases next with
    | directory entries => exact ⟨entries, hnext⟩
    | file info content => cases hbelow
    | link target => cases hbelow

theorem mem_linksOf {entries : List (Str × Node)} {name : Str} (h : entries.lookup name = some found)
    (hlink : names ∈ found.links) : name :: names ∈ linksOf entries := by
  induction entries with
  | nil => cases h
  | cons entry entries ih =>
    obtain ⟨key, next⟩ := entry
    rw [linksOf, List.mem_append]
    rw [List.lookup_cons] at h
    split at h
    · rename_i hkey
      cases h
      left
      rw [beq_iff_eq.mp hkey]
      exact List.mem_map_of_mem hlink
    · exact .inr (ih h)

/-- A link is one of the finitely many. -/
theorem mem_links {target : Str} (h : node.walk names = some (.link target)) : names ∈ node.links := by
  induction names generalizing node with
  | nil =>
    cases h
    simp [links]
  | cons name names ih =>
    rw [walk] at h
    obtain ⟨next, hnext, hrest⟩ := Option.bind_eq_some_iff.mp h
    cases node with
    | file info content => cases hnext
    | link other => cases hnext
    | directory entries =>
      rw [links]
      exact mem_linksOf hnext (ih hrest)

/-- What comes to a file or a directory came through no link. -/
theorem no_link_of_walk (h : node.walk names = some found) (hfound : ∀ target, found ≠ .link target) :
    ∀ front, front <+: names → ∀ target, node.walk front ≠ some (.link target) := by
  rintro front ⟨rest, rfl⟩ target htarget
  by_cases hrest : rest = []
  · subst hrest
    rw [List.append_nil, htarget] at h
    exact hfound target (Option.some.inj h).symm
  · obtain ⟨entries, hentries⟩ := directory_of_walk h hrest
    rw [htarget] at hentries
    cases hentries

end Node

/-! ## Path texts -/

/-- The names of a path text, as `pathlib` takes it apart. -/
def names (text : Str) : List Str := (text.splitOn (cp 47)).filter fun name => !(name.isEmpty || name == lit ".")

def isAbsolute (text : Str) : Bool := text.head? = some (cp 47)

/-- `str(path)` -/
def pathText (path : Path) : Str :=
  match path with
  | [] => lit "/"
  | _ => path.flatMap fun name => cp 47 :: name

/-- A name that can be passed to the operating system: it holds no null and no surrogate that stands for no byte. -/
def isEncodable (name : Str) : Bool :=
  name.all fun c => c.val ≠ 0 && (!isSurrogate c || (0xDC80 ≤ c.val && c.val ≤ 0xDCFF))

/-! ## The operating system -/

inductive Errno where
  | missing
  | notDirectory
  | isDirectory
  | loop
  deriving DecidableEq

/-- What Python raises for a path. -/
inductive Fault where
  | osError (errno : Errno) (path : Path)
  | runtimeError (path : Path)
  | valueError (path : Path)
  deriving DecidableEq

section Kernel

variable (tree : Node)

/-- Where a path leads, from a directory on. No more than so many links are followed, and the last name is followed
only if asked. -/
def find (follow : Bool) (hops : Nat) (directory : Path) : List Str → Except Errno Path
  | [] => .ok directory
  | name :: rest =>
    match tree.walk directory with
    | some (.directory _) =>
      if name = lit ".." then find follow hops directory.dropLast rest
      else match tree.walk (directory ++ [name]) with
        | none => .error .missing
        | some (.link target) =>
          if rest = [] ∧ follow = false then .ok (directory ++ [name])
          else match hops with
            | 0 => .error .loop
            | hops + 1 => find follow hops (if isAbsolute target then [] else directory) (names target ++ rest)
        | some _ => find follow hops (directory ++ [name]) rest
    | _ => .error .notDirectory
termination_by rest => (hops, rest.length)

-- How many links the operating system follows.
variable (limit : Nat)

/-- The entry at a path. -/
def statAt (follow : Bool) (path : Path) : Except Fault Node :=
  if path.all isEncodable then
    match find tree follow limit [] path with
    | .error errno => .error (.osError errno path)
    | .ok location =>
      match tree.walk location with
      | some node => .ok node
      | none => .error (.osError .missing path)
  else .error (.valueError path)

/-- `os.lstat` -/
def lstat (path : Path) : Except Fault Node := statAt tree limit false path

/-- `os.stat` -/
def stat (path : Path) : Except Fault Node := statAt tree limit true path

/-- `os.open` with `O_NOFOLLOW`, which refuses a link. -/
def openNoFollow (path : Path) : Except Fault Node :=
  match lstat tree limit path with
  | .ok (.link _) => .error (.osError .loop path)
  | found => found

/-- The bytes of the file that `open(path, "rb")` opens. -/
def readBytes (path : Path) : Except Fault Bytes :=
  match stat tree limit path with
  | .ok (.file _ content) => .ok content
  | .ok _ => .error (.osError .isDirectory path)
  | .error fault => .error fault

/-! ## Paths without links -/

variable {tree limit} {follow : Bool} {hops : Nat} {directory rest : Path} {node : Node} {location : Path}

/-- What is there is found there, where no link is to be followed. -/
theorem find_of_walk (h : tree.walk (directory ++ rest) = some node) (hlink : ∀ target, node ≠ .link target)
    (hdots : lit ".." ∉ rest) : find tree follow hops directory rest = .ok (directory ++ rest) := by
  induction rest generalizing directory with
  | nil => simp [find]
  | cons name rest ih =>
    rw [List.mem_cons, not_or] at hdots
    obtain ⟨hname, hdots⟩ := hdots
    obtain ⟨entries, hentries⟩ := Node.directory_of_walk h (by simp)
    rw [List.append_cons] at h ⊢
    have hno := Node.no_link_of_walk h hlink (directory ++ [name]) (List.prefix_append _ _)
    have hnext : ∃ next, tree.walk (directory ++ [name]) = some next := by
      rw [Node.walk_append] at h
      exact (Option.bind_eq_some_iff.mp h).imp fun next hnext => hnext.1
    obtain ⟨next, hnext⟩ := hnext
    rw [find, hentries]
    simp only [if_neg (Ne.symm hname), hnext]
    cases next with
    | link target => exact absurd hnext (hno target)
    | file info content => exact ih h hdots
    | directory entries => exact ih h hdots

/-- Where no link is in the way, a path leads to itself. -/
theorem eq_of_find (hno : ∀ front, front <+: rest → front ≠ rest → ∀ target,
    tree.walk (directory ++ front) ≠ some (.link target)) (hdots : lit ".." ∉ rest)
    (h : find tree false hops directory rest = .ok location) : location = directory ++ rest := by
  induction rest generalizing directory with
  | nil =>
    rw [find] at h
    cases h
    simp
  | cons name rest ih =>
    rw [List.mem_cons, not_or] at hdots
    obtain ⟨hname, hdots⟩ := hdots
    rw [find] at h
    split at h
    · rw [if_neg (Ne.symm hname)] at h
      have hlater : ∀ front, front <+: rest → front ≠ rest → ∀ target,
          tree.walk ((directory ++ [name]) ++ front) ≠ some (.link target) := by
        intro front hfront hne target
        rw [← List.append_cons]
        exact hno (name :: front) ((List.prefix_cons_inj name).mpr hfront) (by simpa using hne) target
      split at h
      · cases h
      · rename_i target hlink
        by_cases hlast : rest = []
        · subst hlast
          rw [if_pos ⟨rfl, rfl⟩] at h
          exact (Except.ok.inj h).symm
        · exact absurd hlink (hno [name] (by simp) (by simpa using Ne.symm hlast) target)
      · rw [List.append_cons]
        exact ih hlater hdots h
    · cases h

/-- Following the last name comes to the same, where it is no link. -/
theorem find_follow (h : find tree false hops directory rest = .ok location)
    (hno : ∀ target, tree.walk location ≠ some (.link target)) : find tree true hops directory rest = .ok location := by
  induction hops, directory, rest using find.induct tree false with
  | case1 hops directory =>
    rw [find] at h ⊢
    exact h
  | case2 hops directory rest entries hentries ih =>
    rw [find] at h ⊢
    simp only [hentries, if_true] at h ⊢
    exact ih h
  | case3 hops directory name rest entries hentries hname hnone =>
    rw [find] at h
    simp only [hentries, if_neg hname, hnone] at h
    cases h
  | case4 hops directory name rest entries hentries hname target hlink hlast =>
    rw [find] at h
    simp only [hentries, if_neg hname, hlink, hlast.1, and_self, if_true] at h
    cases h
    exact absurd hlink (hno target)
  | case5 directory name rest entries hentries hname target hlink hgo =>
    have hrest : rest ≠ [] := fun hnil => hgo ⟨hnil, rfl⟩
    rw [find] at h
    simp only [hentries, if_neg hname, hlink, hrest, false_and, if_false] at h
    cases h
  | case6 directory name rest entries hentries hname target hlink hgo hops ih =>
    have hrest : rest ≠ [] := fun hnil => hgo ⟨hnil, rfl⟩
    rw [find] at h ⊢
    simp only [hentries, if_neg hname, hlink, hrest, false_and, if_false] at h ⊢
    exact ih h
  | case7 hops directory name rest entries hentries hname next hnext hsome ih =>
    rw [find] at h ⊢
    simp only [hentries, if_neg hname, hsome] at h ⊢
    cases next with
    | link target => exact absurd rfl (hnext target)
    | file info content => exact ih h
    | directory below => exact ih h
  | case8 hops directory name rest hnot =>
    rw [find] at h
    split at h
    · rename_i entries hentries
      exact absurd hentries (hnot entries)
    · cases h

theorem statAt_ok {path : Path} (h : statAt tree limit follow path = .ok node) :
    path.all isEncodable = true ∧
      ∃ location, find tree follow limit [] path = .ok location ∧ tree.walk location = some node := by
  unfold statAt at h
  split at h
  · rename_i hencodable
    split at h
    · cases h
    · rename_i location hfind
      split at h
      · rename_i found hwalk
        cases h
        exact ⟨hencodable, location, hfind, hwalk⟩
      · cases h
  · cases h

theorem statAt_of_find {path : Path} (hencodable : path.all isEncodable = true)
    (hfind : find tree follow limit [] path = .ok location) (hwalk : tree.walk location = some node) :
    statAt tree limit follow path = .ok node := by
  simp [statAt, hencodable, hfind, hwalk]

theorem walk_of_lstat {path : Path} (hno : ∀ front, front <+: path → front ≠ path → ∀ target,
    tree.walk front ≠ some (.link target)) (hdots : lit ".." ∉ path) (h : lstat tree limit path = .ok node) :
    tree.walk path = some node := by
  obtain ⟨-, location, hfind, hwalk⟩ := statAt_ok h
  rwa [eq_of_find hno hdots hfind] at hwalk

theorem lstat_of_walk {path : Path} (hencodable : path.all isEncodable = true) (h : tree.walk path = some node)
    (hlink : ∀ target, node ≠ .link target) (hdots : lit ".." ∉ path) : lstat tree limit path = .ok node :=
  statAt_of_find hencodable (find_of_walk h hlink hdots) h

theorem stat_of_lstat {path : Path} (h : lstat tree limit path = .ok node) (hlink : ∀ target, node ≠ .link target) :
    stat tree limit path = .ok node := by
  obtain ⟨hencodable, location, hfind, hwalk⟩ := statAt_ok h
  refine statAt_of_find hencodable (find_follow hfind fun target htarget => ?_) hwalk
  rw [hwalk] at htarget
  exact hlink target (Option.some.inj htarget)

theorem eq_of_stat {path : Path} {found : Node} (h : tree.walk path = some node) (hlink : ∀ target, node ≠ .link target)
    (hdots : lit ".." ∉ path) (hstat : stat tree limit path = .ok found) : found = node := by
  obtain ⟨-, location, hfind, hwalk⟩ := statAt_ok hstat
  rw [find_of_walk h hlink hdots] at hfind
  cases hfind
  rw [List.nil_append, h] at hwalk
  exact (Option.some.inj hwalk).symm

end Kernel

end TurnVector.Posix
