import TurnVector.Posix.Tree

/-! # Resolving a path

`Path.resolve`: each link on the way is replaced by what it names, and a name above the end is dropped.
-/

namespace TurnVector.Posix

open Python

variable (tree : Node)

/-- How many links are not being resolved. -/
def unseen (busy : List Path) : Nat := (tree.links.toFinset \ busy.toFinset).card

theorem unseen_lt {busy : List Path} {path : Path} {target : Str} (h : tree.walk path = some (.link target))
    (hbusy : path ∉ busy) : unseen tree (path :: busy) < unseen tree busy := by
  unfold unseen
  rw [List.toFinset_cons, Finset.sdiff_insert]
  apply Finset.card_erase_lt_of_mem
  simpa [hbusy] using Node.mem_links h

/-- `_resolve` of `pathlib`, from a path that holds no link on. The links in `busy` are being resolved. -/
def resolveFrom (strict : Bool) (busy : List Path) (path : Path) : List Str → Except Fault Path
  | [] => .ok path
  | name :: rest =>
    if name = lit ".." then resolveFrom strict busy path.dropLast rest
    else if path ++ [name] ∈ busy then .error (.runtimeError (path ++ [name]))
    else if isEncodable name then
      match _h : tree.walk (path ++ [name]) with
      | none =>
        if strict then
          .error (.osError (match tree.walk path with | some (.directory _) => .missing | _ => .notDirectory)
            (path ++ [name]))
        else resolveFrom strict busy (path ++ [name]) rest
      | some (.link target) =>
        match resolveFrom strict ((path ++ [name]) :: busy) (if isAbsolute target then [] else path) (names target) with
        | .error fault => .error fault
        | .ok resolved => resolveFrom strict busy resolved rest
      | some _ => resolveFrom strict busy (path ++ [name]) rest
    else .error (.valueError (path ++ [name]))
termination_by rest => (unseen tree busy, rest.length)
decreasing_by
  · exact Prod.Lex.right _ (Nat.lt_succ_self _)
  · exact Prod.Lex.right _ (Nat.lt_succ_self _)
  · exact Prod.Lex.left _ _ (unseen_lt tree (by assumption) (by assumption))
  · exact Prod.Lex.right _ (Nat.lt_succ_self _)
  · exact Prod.Lex.right _ (Nat.lt_succ_self _)

/-- `path.resolve(strict)` -/
def resolve (strict : Bool) (path : Path) : Except Fault Path := resolveFrom tree strict [] [] path

/-! ## One name at a time -/

variable {tree} {strict : Bool} {busy : List Path} {path rest resolved : Path} {name : Str} {node : Node}

theorem resolveFrom_entry (hname : name ≠ lit "..") (hbusy : path ++ [name] ∉ busy)
    (hencodable : isEncodable name = true) (h : tree.walk (path ++ [name]) = some node)
    (hlink : ∀ target, node ≠ .link target) :
    resolveFrom tree strict busy path (name :: rest) = resolveFrom tree strict busy (path ++ [name]) rest := by
  rw [resolveFrom, if_neg hname, if_neg hbusy, if_pos hencodable]
  split
  · rename_i hnone
    rw [h] at hnone
    cases hnone
  · rename_i target htarget
    rw [h] at htarget
    exact absurd (Option.some.inj htarget) (hlink target)
  · rfl

theorem resolveFrom_link {target : Str} (hname : name ≠ lit "..") (hbusy : path ++ [name] ∉ busy)
    (hencodable : isEncodable name = true) (h : tree.walk (path ++ [name]) = some (.link target))
    (htarget : resolveFrom tree strict ((path ++ [name]) :: busy) (if isAbsolute target then [] else path)
      (names target) = .ok resolved) :
    resolveFrom tree strict busy path (name :: rest) = resolveFrom tree strict busy resolved rest := by
  rw [resolveFrom, if_neg hname, if_neg hbusy, if_pos hencodable]
  split
  · rename_i hnone
    rw [h] at hnone
    cases hnone
  · rename_i other hother
    rw [h] at hother
    cases hother
    rw [htarget]
  · rename_i other hnot hother
    rw [h] at hother
    exact absurd (Option.some.inj hother).symm (hnot target)

/-! ## Paths without links -/

/-- Where no link is in the way, a path resolves to itself. -/
theorem eq_of_resolveFrom (hno : ∀ front, front <+: rest → ∀ target, tree.walk (path ++ front) ≠ some (.link target))
    (hdots : lit ".." ∉ rest) (h : resolveFrom tree strict busy path rest = .ok resolved) :
    resolved = path ++ rest := by
  induction rest generalizing path with
  | nil =>
    rw [resolveFrom] at h
    cases h
    simp
  | cons name rest ih =>
    rw [List.mem_cons, not_or] at hdots
    obtain ⟨hname, hdots⟩ := hdots
    have hlater : ∀ front, front <+: rest → ∀ target, tree.walk ((path ++ [name]) ++ front) ≠ some (.link target) := by
      intro front hfront target
      rw [← List.append_cons]
      exact hno (name :: front) ((List.prefix_cons_inj name).mpr hfront) target
    rw [resolveFrom, if_neg (Ne.symm hname)] at h
    rw [List.append_cons]
    split at h
    · cases h
    split at h
    · split at h
      · split at h
        · cases h
        · exact ih hlater hdots h
      · rename_i target hlink
        exact absurd hlink (hno [name] (by simp) target)
      · exact ih hlater hdots h
    · cases h

theorem resolveFrom_of_no_link (hno : ∀ front, front <+: rest → ∀ target,
    tree.walk (path ++ front) ≠ some (.link target)) (hdots : lit ".." ∉ rest)
    (hencodable : rest.all isEncodable = true) : resolveFrom tree false [] path rest = .ok (path ++ rest) := by
  induction rest generalizing path with
  | nil => simp [resolveFrom]
  | cons name rest ih =>
    rw [List.mem_cons, not_or] at hdots
    obtain ⟨hname, hdots⟩ := hdots
    rw [List.all_cons, Bool.and_eq_true] at hencodable
    obtain ⟨hfirst, hencodable⟩ := hencodable
    have hlater : ∀ front, front <+: rest → ∀ target, tree.walk ((path ++ [name]) ++ front) ≠ some (.link target) := by
      intro front hfront target
      rw [← List.append_cons]
      exact hno (name :: front) ((List.prefix_cons_inj name).mpr hfront) target
    rw [resolveFrom, if_neg (Ne.symm hname), if_neg (by simp), if_pos hfirst, List.append_cons path name rest]
    split
    · rw [if_neg (by simp)]
      exact ih hlater hdots hencodable
    · rename_i target hlink
      exact absurd hlink (hno [name] (by simp) target)
    · exact ih hlater hdots hencodable

theorem eq_of_resolve (h : tree.walk path = some node) (hlink : ∀ target, node ≠ .link target)
    (hdots : lit ".." ∉ path) (hresolve : resolve tree strict path = .ok resolved) : resolved = path :=
  eq_of_resolveFrom (Node.no_link_of_walk h hlink) hdots hresolve

theorem resolve_of_walk (h : tree.walk path = some node) (hlink : ∀ target, node ≠ .link target)
    (hdots : lit ".." ∉ path) (hencodable : path.all isEncodable = true) : resolve tree false path = .ok path :=
  resolveFrom_of_no_link (Node.no_link_of_walk h hlink) hdots hencodable

end TurnVector.Posix
