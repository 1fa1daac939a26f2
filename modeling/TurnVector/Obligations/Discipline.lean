import Mathlib.Data.List.Range
import TurnVector.Obligations.Descriptors

/-! # Descriptor discipline

Whatever the calls come to, the walkers and their callers close what they opened, once, and never use it after that.
-/

namespace TurnVector.Obligations.Descriptors

open Python Canonical Effects Action

/-! ## The invariant -/

/-- What holds after each step: open numbers differ, and what was opened is open or closed. -/
structure Sound (s : Os) : Prop where
  proper : s.misused = false
  kept : s.replaced = false
  few : s.most ≤ 3
  distinct : (s.table.map (·.number)).Nodup
  accounted : s.opens.Perm (s.table ++ s.closes)
  serials : s.opens.map (·.serial) = (List.range s.opens.length).reverse

/-- What is open, and what is known of whether a `ContractError` was raised. -/
structure Holds (R : Bool → Prop) (fds : List Descriptor) (s : Os) : Prop where
  sound : Sound s
  table : s.table = fds
  raised : R s.raised

/-- Nothing was raised. -/
abbrev At (fds : List Descriptor) : Os → Prop := Holds (· = false) fds

abbrev Down (fds : List Descriptor) : Os → Prop := Holds (fun _ => True) fds

theorem At.down {fds : List Descriptor} {s : Os} (h : At fds s) : Down fds s := ⟨h.sound, h.table, trivial⟩

theorem sound_start : At [] Os.start where
  sound := {
    proper := rfl
    kept := rfl
    few := Nat.zero_le _
    distinct := List.nodup_nil
    accounted := List.Perm.refl _
    serials := rfl }
  table := rfl
  raised := rfl

theorem Sound.nodup {s : Os} (h : Sound s) : s.table.Nodup := h.distinct.of_map

/-! ## Steps -/

section Steps

variable {R : Bool → Prop} {fds : List Descriptor} {s : Os}

theorem Holds.use (h : Holds R fds s) {fd : Descriptor} (hfd : fd ∈ fds) : Holds R fds (s.use fd) := by
  have hmem : fd ∈ s.table := h.table ▸ hfd
  have hsound := h.sound
  refine ⟨⟨?_, hsound.kept, hsound.few, hsound.distinct, hsound.accounted, hsound.serials⟩, h.table, h.raised⟩
  simp [Os.use, hsound.proper, hmem]

theorem Holds.tick (h : Holds R fds s) : Holds R fds s.tick :=
  ⟨⟨h.sound.proper, h.sound.kept, h.sound.few, h.sound.distinct, h.sound.accounted, h.sound.serials⟩, h.table, h.raised⟩

theorem Holds.opening (h : Holds R fds s) (hfew : fds.length ≤ 2) {number : Nat}
    (hfresh : number ∉ s.table.map (·.number)) :
    Holds R (⟨number, s.opens.length⟩ :: fds) (s.opening number) := by
  have hsound := h.sound
  refine ⟨⟨hsound.proper, hsound.kept, ?_, ?_, ?_, ?_⟩, ?_, h.raised⟩
  · have hlength : s.table.length ≤ 2 := h.table ▸ hfew
    exact max_le hsound.few (by omega)
  · exact List.nodup_cons.mpr ⟨hfresh, hsound.distinct⟩
  · exact hsound.accounted.cons _
  · simp [Os.opening, List.range_succ, hsound.serials]
  · simp [Os.opening, h.table]

theorem Holds.closing (h : Holds R fds s) {fd : Descriptor} (hfd : fd ∈ fds) :
    Holds R (fds.erase fd) (s.closing fd) := by
  have hmem : fd ∈ s.table := h.table ▸ hfd
  have hsound := h.sound
  refine ⟨⟨?_, hsound.kept, hsound.few, ?_, ?_, hsound.serials⟩, ?_, h.raised⟩
  · simp [Os.closing, Os.use, hsound.proper, hmem]
  · exact hsound.distinct.sublist (List.erase_sublist.map _)
  · refine hsound.accounted.trans ?_
    refine ((List.perm_cons_erase hmem).append_right _).trans ?_
    exact List.perm_middle.symm
  · simp [Os.closing, h.table]

/-- A `ContractError` that is raised. -/
theorem Holds.raise (h : Holds R fds s) : Down fds { s with raised := true } :=
  ⟨⟨h.sound.proper, h.sound.kept, h.sound.few, h.sound.distinct, h.sound.accounted, h.sound.serials⟩, h.table, trivial⟩

/-- It replaces nothing where nothing was raised. -/
theorem At.replace (h : At fds s) : At fds { s with replaced := s.replaced || s.raised } := by
  refine ⟨⟨h.sound.proper, ?_, h.sound.few, h.sound.distinct, h.sound.accounted, h.sound.serials⟩, h.table, h.raised⟩
  simp [h.sound.kept, h.raised]

end Steps

/-! ## Calls -/

section Calls

variable (world : World) {R : Bool → Prop} {fds : List Descriptor} {α : Type}

theorem raiseContract_meets {Q : α → Os → Prop} (text : Str) :
    Meets (Holds R fds) (raiseContract text : Call α) Q fun _ => Down fds :=
  Meets.bind (Meets.modify (R := fun _ => Down fds) fun _ hs => hs.raise) fun _ => Meets.throw fun _ hs => hs

theorem raiseClose_meets {Q : α → Os → Prop} (text : Str) :
    Meets (At fds) (raiseClose text : Call α) Q fun _ => Down fds :=
  Meets.bind (Meets.modify (R := fun _ => At fds) fun _ hs => hs.replace) fun _ => raiseContract_meets text

theorem attempt_meets (x : Except Exc α) : Meets (At fds) (attempt x) (fun _ => At fds) fun _ => Down fds := by
  unfold attempt
  split
  · exact Meets.pure fun _ hs => hs
  · exact raiseContract_meets _
  · exact Meets.throw fun _ hs => hs.down

/-- The call left open what was open. -/
theorem translate_meets {P : Os → Prop} {Q : α → Os → Prop} {m : Call α} (text : Str)
    (h : Meets P m Q fun _ => At fds) : Meets P (translate text m) Q fun _ => Down fds := by
  refine h.rescue fun error => ?_
  split
  · exact raiseContract_meets _
  · exact Meets.throw fun _ hs => hs.down

theorem step_meets {P : Os → Prop} {Q : Os → Prop} {E : Exc → Os → Prop} {f : Os → Os} (h : ∀ s, P s → Q (f s)) :
    Meets P (step f) (fun _ => Q) E :=
  Meets.get fun s hs => Meets.bind (Meets.modify (R := fun _ => Q) fun _ ht => ht ▸ h s hs) fun _ =>
    Meets.pure fun _ ht => ht

theorem answer_meets {P : Os → Prop} (fault : Option Fault) (a : α) :
    Meets P (answer fault a) (fun _ => P) fun _ => P := by
  unfold answer
  split
  · exact Meets.pure fun _ hs => hs
  · exact Meets.throw fun _ hs => hs

theorem answered_meets {P : Os → Prop} (result : Except Fault α) :
    Meets P (answered result) (fun _ => P) fun _ => P := by
  unfold answered
  split
  · exact Meets.pure fun _ hs => hs
  · exact Meets.throw fun _ hs => hs

theorem osStat_meets {fd : Descriptor} (hfd : fd ∈ fds) :
    Meets (Holds R fds) (osStat world fd) (fun _ => Holds R fds) fun _ => Holds R fds :=
  Meets.bind (step_meets fun _ hs => hs.use hfd) fun _ => answered_meets _

theorem osRead_meets {fd : Descriptor} (hfd : fd ∈ fds) (size : Nat) :
    Meets (Holds R fds) (osRead world fd size) (fun _ => Holds R fds) fun _ => Holds R fds :=
  Meets.bind (step_meets fun _ hs => hs.use hfd) fun _ => answered_meets _

theorem osLseek_meets {fd : Descriptor} (hfd : fd ∈ fds) :
    Meets (Holds R fds) (osLseek world fd) (fun _ => Holds R fds) fun _ => Holds R fds :=
  Meets.bind (step_meets fun _ hs => hs.use hfd) fun _ => answer_meets _ _

/-- Nothing but `OSError` is raised. -/
theorem osFstat_meets {fd : Descriptor} (hfd : fd ∈ fds) :
    Meets (Holds R fds) (osFstat world fd) (fun _ => Holds R fds) fun error s =>
      (∃ text, error = .osError text) ∧ Holds R fds s := by
  refine Meets.bind (step_meets fun _ hs => hs.use hfd) fun place => ?_
  cases hfstat : world.fstat place with
  | error text => exact Meets.throw fun _ hs => ⟨⟨text, rfl⟩, hs⟩
  | ok stat => exact Meets.pure fun _ hs => hs

theorem osClose_meets {fd : Descriptor} (hfd : fd ∈ fds) :
    Meets (Holds R fds) (osClose world fd) (fun _ => Holds R (fds.erase fd)) fun error s =>
      (∃ text, error = .osError text) ∧ Holds R (fds.erase fd) s := by
  refine Meets.bind (step_meets fun _ hs => hs.closing hfd) fun place => ?_
  cases hclose : world.close place with
  | none => exact Meets.pure fun _ hs => hs
  | some text => exact Meets.throw fun _ hs => ⟨⟨text, rfl⟩, hs⟩

theorem osOpen_meets {parent : Option Descriptor} (hparent : ∀ fd ∈ parent, fd ∈ fds) (hfew : fds.length ≤ 2) :
    Meets (Holds R fds) (osOpen world parent) (fun fd => Holds R (fd :: fds)) fun _ => Holds R fds := by
  have hcall : ∀ s, Holds R fds s → Holds R fds (parent.elim Os.tick (fun fd s => s.use fd) s) := by
    intro s hs
    cases parent with
    | none => exact hs.tick
    | some fd => exact hs.use (hparent fd rfl)
  refine Meets.bind (step_meets hcall) fun place => Meets.bind (answer_meets _ _) fun _ => Meets.get fun s hs => ?_
  have hopened := hs.opening hfew (world.fresh place (s.table.map (·.number)))
  refine Meets.bind (Meets.modify (R := fun _ => Holds R (⟨_, s.opens.length⟩ :: fds)) fun t ht => ?_) fun _ =>
    Meets.pure fun _ ht => ht
  exact ht ▸ hopened

/-- A close with nothing pending may raise, and it closes. -/
theorem closing_meets {fd : Descriptor} (hfd : fd ∈ fds) (text : Str) (pending : Bool) :
    Meets (At fds) (closing world fd text pending) (fun _ => At (fds.erase fd)) fun _ => Down (fds.erase fd) := by
  refine (osClose_meets world hfd).rescue fun error => Meets.given fun ⟨reason, hreason⟩ => ?_
  subst hreason
  cases pending with
  | false => exact raiseClose_meets _
  | true => exact Meets.pure fun _ hs => hs

/-- A close with something pending raises nothing. -/
theorem closing_pending {fd : Descriptor} (hfd : fd ∈ fds) (text : Str) {E : Exc → Os → Prop} :
    Meets (Holds R fds) (closing world fd text true) (fun _ => Holds R (fds.erase fd)) E := by
  refine (osClose_meets world hfd).rescue fun error => Meets.given fun ⟨reason, hreason⟩ => ?_
  subst hreason
  exact Meets.pure fun _ hs => hs

/-- A block below a descriptor that is closed at its end. -/
theorem closed_meets {fd : Descriptor} (outside : Bool) {m : Call α} (named : Str)
    (h : Meets (At (fd :: fds)) m (fun _ => At (fd :: fds)) fun _ => Down (fd :: fds)) :
    Meets (At (fd :: fds)) (always outside m (closeFd world fd named)) (fun _ => At fds) fun _ => Down fds := by
  have hmem : fd ∈ fd :: fds := List.mem_cons_self ..
  have herase : (fd :: fds).erase fd = fds := List.erase_cons_head ..
  refine Meets.always h (fun _ => ?_) fun _ => ?_
  · have hclose := closing_meets world hmem (lit "cannot close " ++ named ++ lit ": ") outside
    rwa [herase] at hclose
  · have hclose := closing_pending world (R := fun _ => True) (E := fun _ => Down fds) hmem
      (lit "cannot close " ++ named ++ lit ": ")
    rwa [herase] at hclose

end Calls

/-! ## Walkers -/

section Walkers

variable (world : World) (outside : Bool) (walker : Walker) (base : Descriptor) (held : List Descriptor)

/-- What of a walker's descriptors stays open for its caller. -/
def Walker.kept : List Descriptor := if walker.closeBase then [] else [base]

/-- Before a component. -/
def Ready (fds : Fds) : Prop := fds.older = walker.kept base ∨ fds.older = [] ∧ fds.newest = base

/-- What is above what stays open. -/
def Above (fds : Fds) : Prop := ∃ front, fds.all = front ++ walker.kept base

def WalkAt (F : Fds → Prop) (s : Os × Fds) : Prop := At (s.2.all ++ held) s.1 ∧ F s.2

def WalkDown (s : Os × Fds) : Prop := Down (s.2.all ++ held) s.1 ∧ Above walker base s.2

theorem Ready.above {fds : Fds} (h : Ready walker base fds) : Above walker base fds := by
  obtain ⟨newest, older⟩ := fds
  rcases h with holder | ⟨holder, hnewest⟩
  · exact ⟨[newest], by simp [Fds.all, show older = _ from holder]⟩
  · simp only at holder hnewest
    subst holder hnewest
    unfold Above Walker.kept
    split
    · exact ⟨[newest], rfl⟩
    · exact ⟨[], rfl⟩

/-- A call that does not touch `open_fds`. -/
theorem apart_meets {α : Type} {fds : Fds} {open_ : List Descriptor} {m : Call α} {Q : α → Os → Prop}
    (h : Meets (At open_) m Q fun _ => Down open_) (hopen : open_ = fds.all ++ held) (habove : Above walker base fds) :
    Meets (fun s => At open_ s.1 ∧ s.2 = fds) (apart m) (fun a s => Q a s.1 ∧ s.2 = fds)
      fun _ => WalkDown walker base held := by
  refine (Meets.apart h).error ?_
  rintro _ ⟨s, _⟩ ⟨hs, rfl⟩
  exact ⟨hopen ▸ hs, habove⟩

theorem Ready.length {fds : Fds} (h : Ready walker base fds) (hfew : (walker.kept base).length + held.length ≤ 1) :
    (fds.all ++ held).length ≤ 2 := by
  rw [List.length_append, Fds.all, List.length_cons]
  rcases h with holder | ⟨holder, -⟩
  · rw [holder]
    omega
  · rw [holder, List.length_nil]
    omega

/-- The last step of a component: the parent is closed unless it is what stays open. -/
theorem closeParent_meets {fds : Fds} (hready : Ready walker base fds) (child : Descriptor) (text : Str) :
    Meets (fun s => At (child :: (fds.all ++ held)) s.1 ∧ s.2 = ⟨child, fds.all⟩)
      (if walker.closeBase ∨ 3 ≤ fds.older.length + 2 then do
        modify fun s => (s.1, ⟨child, fds.older⟩)
        apart (closing world fds.newest text outside)
      else pure ())
      (fun _ => WalkAt held fun fds => fds.older = walker.kept base) fun _ => WalkDown walker base held := by
  refine Meets.assume (p := child ≠ fds.newest) ?_ fun hne => ?_
  · rintro ⟨s, _⟩ ⟨hs, rfl⟩
    have hnodup := hs.table ▸ hs.sound.nodup
    exact fun heq => (List.nodup_cons.mp hnodup).1 (by simp [Fds.all, heq])
  have hmem : fds.newest ∈ child :: (fds.all ++ held) := by simp [Fds.all]
  have herase : (child :: (fds.all ++ held)).erase fds.newest = child :: (fds.older ++ held) := by
    rw [List.erase_cons_tail (by simpa using hne), Fds.all, List.cons_append, List.erase_cons_head]
  split
  · rename_i hcloses
    have holder : fds.older = walker.kept base := by
      rcases hready with holder | ⟨holder, -⟩
      · exact holder
      · rcases hcloses with hbase | hlength
        · rw [holder, Walker.kept, if_pos hbase]
        · simp [holder] at hlength
    have hclosed := closing_meets world hmem text outside
    rw [herase] at hclosed
    refine Meets.bind (Meets.modify (R := fun _ s => At (child :: (fds.all ++ held)) s.1 ∧ s.2 = ⟨child, fds.older⟩)
      fun s hs => ⟨hs.1, rfl⟩) fun _ => (Meets.apart hclosed).weaken (fun s hs => hs) ?_ ?_
    · rintro _ ⟨s, _⟩ ⟨hs, rfl⟩
      exact ⟨hs, holder⟩
    · rintro _ ⟨s, _⟩ ⟨hs, rfl⟩
      exact ⟨hs, [child], by simp [Fds.all, holder]⟩
  · rename_i hstays
    refine Meets.pure ?_
    rintro ⟨s, _⟩ ⟨hs, rfl⟩
    refine ⟨hs, ?_⟩
    obtain ⟨hbase, hlength⟩ := not_or.mp hstays
    have hempty : fds.older = [] := List.length_eq_zero_iff.mp (by omega)
    have hkept : walker.kept base = [base] := by rw [Walker.kept, if_neg hbase]
    rcases hready with holder | ⟨-, hnewest⟩
    · rw [hempty, hkept] at holder
      cases holder
    · simp [Fds.all, hempty, hkept, hnewest]

theorem walkComponent_meets (hfew : (walker.kept base).length + held.length ≤ 1) (component : Str) (final : Bool) :
    Meets (WalkAt held (Ready walker base)) (walkComponent world outside walker component final)
      (fun _ => WalkAt held fun fds => fds.older = walker.kept base) fun _ => WalkDown walker base held := by
  refine Meets.get fun s hs => ?_
  obtain ⟨s, fds⟩ := s
  obtain ⟨hat, hready⟩ := hs
  change At (fds.all ++ held) s at hat
  change Ready walker base fds at hready
  have habove := hready.above
  have hmem : fds.newest ∈ fds.all ++ held := by simp [Fds.all]
  have hlength := hready.length walker base held hfew
  have hnewest : ∀ fd ∈ some fds.newest, fd ∈ fds.all ++ held := by
    rintro fd ⟨⟩
    exact hmem
  have hpre : ∀ t : Os × Fds, t = (s, fds) → At (fds.all ++ held) t.1 ∧ t.2 = fds := by
    rintro _ rfl
    exact ⟨hat, rfl⟩
  refine Meets.bind ((apart_meets walker base held (translate_meets _ (osStat_meets world hmem)) rfl habove).weaken
    hpre (fun _ _ h => h) fun _ _ h => h) fun pre => ?_
  refine Meets.bind (apart_meets walker base held (attempt_meets _) rfl habove) fun _ => ?_
  refine Meets.bind (apart_meets walker base held (attempt_meets _) rfl habove) fun _ => ?_
  refine Meets.bind (apart_meets walker base held (translate_meets _ (osOpen_meets world hnewest hlength)) rfl habove)
    fun child => ?_
  have hchild : child ∈ child :: (fds.all ++ held) := List.mem_cons_self ..
  have hpushed : Above walker base ⟨child, fds.all⟩ := by
    obtain ⟨front, hfront⟩ := habove
    exact ⟨child :: front, by simp [Fds.all, ← hfront]⟩
  have hstat := (osFstat_meets world hchild).error fun _ _ (h : _ ∧ At (child :: (fds.all ++ held)) _) => h.2
  refine Meets.bind (Meets.modify (R := fun _ s => At (child :: (fds.all ++ held)) s.1 ∧ s.2 = ⟨child, fds.all⟩)
    fun s hs => ⟨hs.1, rfl⟩) fun _ => ?_
  refine Meets.bind (apart_meets walker base held (translate_meets _ hstat) rfl hpushed) fun post => ?_
  refine Meets.bind (apart_meets walker base held (attempt_meets _) rfl hpushed) fun _ => ?_
  exact closeParent_meets world outside walker base held hready child _

/-! ## The clean-up -/

theorem diff_front (front rest : List Descriptor) : (front ++ rest).diff front = rest := by
  induction front with
  | nil => rfl
  | cons fd front ih => rw [List.diff_cons, List.cons_append, List.erase_cons_head, ih]

/-- Whether the clean-up closes the descriptor. -/
def Walker.closes (fd : Descriptor) : Bool := walker.closeBase || decide (fd.number ≠ base.number)

theorem closeEach_meets {E : Exc → Os → Prop} (xs open_ : List Descriptor) (hsub : xs ⊆ open_) (hnodup : xs.Nodup) :
    Meets (Down open_)
      (xs.forM fun fd => if walker.closeBase ∨ fd.number ≠ base.number then closing world fd [] true else pure ())
      (fun _ => Down (open_.diff (xs.filter (walker.closes base)))) E := by
  induction xs generalizing open_ with
  | nil => exact Meets.pure fun _ hs => hs
  | cons fd xs ih =>
    obtain ⟨hfd, hxs⟩ := List.cons_subset.mp hsub
    obtain ⟨hnot, hnodup⟩ := List.nodup_cons.mp hnodup
    rw [List.forM]
    by_cases hcloses : walker.closeBase ∨ fd.number ≠ base.number
    · have hfilter : walker.closes base fd = true := by simpa [Walker.closes] using hcloses
      rw [if_pos hcloses, List.filter_cons_of_pos hfilter, List.diff_cons]
      refine Meets.bind (closing_pending world hfd []) fun _ => ih (open_.erase fd) (fun x hx => ?_) hnodup
      have hne : x ≠ fd := fun heq => hnot (heq ▸ hx)
      exact (List.mem_erase_of_ne hne).mpr (hxs hx)
    · have hfilter : ¬ walker.closes base fd = true := by simpa [Walker.closes] using hcloses
      rw [if_neg hcloses, List.filter_cons_of_neg hfilter]
      exact Meets.bind (Meets.pure fun _ hs => hs) fun _ => ih open_ hxs hnodup

/-- All that is above what stays open is closed. -/
theorem closes_above {fds : Fds} {s : Os} (habove : Above walker base fds) (hs : Down (fds.all ++ held) s) :
    (fds.all ++ held).diff (fds.all.reverse.filter (walker.closes base)) = walker.kept base ++ held := by
  obtain ⟨front, hfront⟩ := habove
  have hnumbers : ((fds.all ++ held).map (·.number)).Nodup := hs.table ▸ hs.sound.distinct
  have hfilter : fds.all.filter (walker.closes base) = front := by
    rw [hfront, List.filter_append]
    by_cases hbase : walker.closeBase = true
    · simp [Walker.kept, Walker.closes, hbase]
    · rw [hfront, Walker.kept, if_neg hbase, List.append_assoc, List.map_append] at hnumbers
      have hdisjoint := List.disjoint_of_nodup_append hnumbers
      have hdiffer : ∀ fd ∈ front, fd.number ≠ base.number := fun fd hfd heq =>
        hdisjoint (List.mem_map_of_mem hfd) (by simp [heq])
      have hall : front.filter (walker.closes base) = front :=
        List.filter_eq_self.mpr fun fd hfd => by simp [Walker.closes, hdiffer fd hfd]
      rw [hall, Walker.kept, if_neg hbase]
      simp [Walker.closes, hbase]
  rw [List.filter_reverse, (List.reverse_perm _).diff_left, hfilter, hfront, List.append_assoc, diff_front]

/-- A walker leaves what it kept and, where it returns, the descriptor it returns. -/
theorem walk_meets (hfew : (walker.kept base).length + held.length ≤ 1) (components : List (Str × Bool))
    (hcomponents : components ≠ [] ∨ walker.closeBase = true) :
    Meets (At (base :: held)) (walk world outside walker base components)
      (fun fd => At (fd :: (walker.kept base ++ held))) fun _ => Down (walker.kept base ++ held) := by
  have hstart : Ready walker base ⟨base, []⟩ := .inr ⟨rfl, rfl⟩
  have hturn := fun component : Str × Bool =>
    walkComponent_meets world outside walker base held hfew component.1 component.2
  have hready : ∀ s, WalkAt held (fun fds => fds.older = walker.kept base) s → WalkAt held (Ready walker base) s :=
    fun s hs => ⟨hs.1, .inl hs.2⟩
  have hloop : Meets (WalkAt held (Ready walker base))
      (components.forM fun component => walkComponent world outside walker component.1 component.2)
      (fun _ => WalkAt held fun fds => fds.older = walker.kept base) fun _ => WalkDown walker base held := by
    cases components with
    | nil =>
      have hbase := hcomponents.resolve_left fun h => h rfl
      refine Meets.pure fun s hs => ⟨hs.1, ?_⟩
      rcases hs.2 with holder | ⟨holder, -⟩
      · exact holder
      · rw [holder, Walker.kept, if_pos hbase]
    | cons component components =>
      rw [List.forM]
      refine Meets.bind (hturn component) fun _ => Meets.forM components fun component _ => ?_
      exact (hturn component).weaken hready (fun _ _ h => h) fun _ _ h => h
  refine Meets.locally (Meets.rescue (F := fun _ => WalkDown walker base held) ?_ fun error => ?_)
  · refine Meets.bind (hloop.weaken ?_ (fun _ _ h => h) fun _ _ h => h) fun _ => ?_
    · rintro ⟨s, _⟩ ⟨hs, rfl⟩
      exact ⟨hs, hstart⟩
    · refine Meets.get fun s hs => Meets.pure ?_
      rintro t rfl
      have hat : At (t.2.all ++ held) t.1 := hs.1
      have holder : t.2.older = walker.kept base := hs.2
      rwa [Fds.all, holder] at hat
  · refine Meets.get fun s hs => ?_
    obtain ⟨s, fds⟩ := s
    obtain ⟨hdown, habove⟩ := hs
    change Down (fds.all ++ held) s at hdown
    have hnodup : fds.all.reverse.Nodup := by
      have hall : (fds.all ++ held).Nodup := hdown.table ▸ hdown.sound.nodup
      exact List.nodup_reverse.mpr hall.of_append_left
    have hsub : fds.all.reverse ⊆ fds.all ++ held := fun fd hfd =>
      List.mem_append_left _ (List.mem_reverse.mp hfd)
    have hclosed := closeEach_meets world walker base (E := fun _ => Down (walker.kept base ++ held)) _ _ hsub hnodup
    rw [closes_above walker base held habove hdown] at hclosed
    refine Meets.bind ((Meets.apart (x := fds) hclosed).weaken ?_ (fun _ _ h => h) fun _ _ h => h.1) fun _ => ?_
    · rintro _ rfl
      exact ⟨hdown, rfl⟩
    · exact Meets.throw fun s hs => hs.1

end Walkers

/-! ## The verifier -/

section Verifier

variable (world : World) (outside : Bool) {fds : List Descriptor}

theorem descendDirectories_meets (base : Descriptor) (components : List Str) (pathText what : Str)
    (hfew : fds.length ≤ 1) :
    Meets (At (base :: fds)) (descendDirectories world outside base components pathText what true)
      (fun fd => At (fd :: fds)) fun _ => Down fds :=
  walk_meets world outside _ base fds (by simpa [Walker.kept] using hfew) _ (.inr rfl)

theorem openSourceNoFollow_meets (root : Descriptor) (path what : Str) :
    Meets (At [root]) (openSourceNoFollow world outside root (path.splitOn (cp 47)) what)
      (fun fd => At [fd, root]) fun _ => Down [root] := by
  refine walk_meets world outside _ root [] (by simp [Walker.kept]) _ (.inl ?_)
  simp [List.splitOn_ne_nil]

theorem openCanonicalRoot_meets (root : Str) (hfew : fds.length ≤ 1) :
    Meets (At fds) (openCanonicalRoot world outside root) (fun opened => At (opened.1 :: fds)) fun _ => Down fds := by
  refine Meets.bind (attempt_meets _) fun _ => Meets.bind (attempt_meets _) fun _ => ?_
  have hopen : Meets (At fds) (osOpen world none) (fun fd => At (fd :: fds)) fun _ => At fds :=
    osOpen_meets world (by simp) (by omega)
  refine Meets.bind (translate_meets _ hopen) fun base => ?_
  refine Meets.bind (descendDirectories_meets world outside base _ _ _ hfew) fun rootFd => ?_
  have hmem : rootFd ∈ rootFd :: fds := List.mem_cons_self ..
  have herase : (rootFd :: fds).erase rootFd = fds := List.erase_cons_head ..
  refine Meets.bind (Meets.rescue (osFstat_meets world hmem) fun error => Meets.given fun ⟨text, htext⟩ => ?_)
    fun entry => Meets.pure fun _ hs => hs
  subst htext
  have hclosed := closing_meets world hmem (lit "cannot close " ++ (lit "source root " ++ root) ++ lit ": ") false
  rw [herase] at hclosed
  exact Meets.bind hclosed fun _ => raiseContract_meets _

theorem revalidateRoot_meets (root : Str) (expected : RootIdentity) (hfew : fds.length ≤ 1) :
    Meets (At fds) (revalidateRoot world outside root expected) (fun _ => At fds) fun _ => Down fds := by
  refine Meets.bind (Meets.rescue (openCanonicalRoot_meets world outside root hfew) fun error => ?_) fun opened => ?_
  · split
    · exact raiseContract_meets _
    · exact Meets.throw fun _ hs => hs
  · exact closed_meets world outside _ (attempt_meets _)

theorem readRemaining_meets {fd : Descriptor} (hfd : fd ∈ fds) (hashBuffer remaining : Nat) (place : Str) :
    Meets (At fds) (readRemaining world fd hashBuffer remaining place) (fun _ => At fds) fun _ => Down fds := by
  induction remaining using Nat.strong_induction_on with
  | h remaining ih =>
    rw [readRemaining]
    split
    · exact Meets.pure fun _ hs => hs
    · rename_i hzero
      refine Meets.bind (translate_meets _ (osRead_meets world hfd _)) fun chunk => ?_
      split
      · exact raiseContract_meets _
      · rename_i hempty
        have hless : remaining - chunk.length < remaining :=
          Nat.sub_lt (Nat.pos_of_ne_zero hzero) (List.length_pos_iff.mpr hempty)
        exact Meets.bind (ih _ hless) fun rest => Meets.pure fun _ hs => hs

/-- A `fstat` whose `OSError` is translated. -/
theorem fstat_meets {fd : Descriptor} (hfd : fd ∈ fds) (text : Str) :
    Meets (At fds) (translate text (osFstat world fd)) (fun _ => At fds) fun _ => Down fds :=
  translate_meets text ((osFstat_meets world hfd).error fun _ _ h => h.2)

variable (sha256 : Bytes → Str)

theorem hashFd_meets {fd : Descriptor} (hfd : fd ∈ fds) (maxBytes hashBuffer : Nat) (place : Str) :
    Meets (At fds) (hashFd world sha256 fd maxBytes hashBuffer place) (fun _ => At fds) fun _ => Down fds := by
  refine Meets.bind (fstat_meets world hfd _) fun before => Meets.bind (attempt_meets _) fun _ => ?_
  refine Meets.bind (attempt_meets _) fun _ => Meets.bind (readRemaining_meets world hfd _ _ _) fun raw => ?_
  refine Meets.bind (fstat_meets world hfd _) fun after => Meets.bind (attempt_meets _) fun _ => ?_
  exact Meets.pure fun _ hs => hs

theorem hashRangeFd_meets {fd : Descriptor} (hfd : fd ∈ fds) (start stop : Int) (expected : FileIdentity)
    (hashBuffer : Nat) (place : Str) :
    Meets (At fds) (hashRangeFd world sha256 fd start stop expected hashBuffer place) (fun _ => At fds)
      fun _ => Down fds := by
  refine Meets.bind (fstat_meets world hfd _) fun before => Meets.bind (attempt_meets _) fun _ => ?_
  refine Meets.bind (attempt_meets _) fun _ => Meets.bind (translate_meets _ (osLseek_meets world hfd)) fun _ => ?_
  refine Meets.bind (readRemaining_meets world hfd _ _ _) fun raw => ?_
  refine Meets.bind (fstat_meets world hfd _) fun after => Meets.bind (attempt_meets _) fun _ => ?_
  exact Meets.pure fun _ hs => hs

variable (limits : CompileLimits)

theorem hashSource_meets (rootFd : Descriptor) (obligations : List ObligationRecord) (hashed : Hashed) (path : Str) :
    Meets (At [rootFd]) (hashSource world outside sha256 limits rootFd obligations hashed path)
      (fun _ => At [rootFd]) fun _ => Down [rootFd] := by
  refine Meets.bind (openSourceNoFollow_meets world outside rootFd path _) fun fd => ?_
  have hmem : fd ∈ [fd, rootFd] := List.mem_cons_self ..
  have hhash := hashFd_meets world sha256 hmem limits.authorityFileBytesMax
    limits.authorityHashBufferMax (sourcePlace path)
  refine Meets.bind (closed_meets world outside _ hhash) fun read => Meets.bind (attempt_meets _) fun total => ?_
  refine Meets.bind (attempt_meets _) fun _ => Meets.bind (attempt_meets _) fun _ => ?_
  split
  · exact raiseContract_meets _
  · exact Meets.pure fun _ hs => hs

theorem hashSection_meets (rootFd : Descriptor) (identities : List (Str × FileIdentity)) (sectioned : Sectioned)
    (record : ObligationRecord) :
    Meets (At [rootFd]) (hashSection world outside sha256 limits rootFd identities sectioned record)
      (fun _ => At [rootFd]) fun _ => Down [rootFd] := by
  refine Meets.bind (attempt_meets _) fun identity => Meets.bind (attempt_meets _) fun _ => ?_
  refine Meets.bind (attempt_meets _) fun _ => Meets.bind (attempt_meets _) fun _ => ?_
  refine Meets.bind (attempt_meets _) fun total => Meets.bind (attempt_meets _) fun _ => ?_
  refine Meets.bind (openSourceNoFollow_meets world outside rootFd record.sourcePath _) fun fd => ?_
  have hmem : fd ∈ [fd, rootFd] := List.mem_cons_self ..
  have hhash := hashRangeFd_meets world sha256 hmem record.sectionStart
    record.sectionEnd identity limits.authorityHashBufferMax (lit "record " ++ record.id ++ lit " section")
  refine Meets.bind (closed_meets world outside _ hhash) fun digest => Meets.bind (attempt_meets _) fun _ => ?_
  exact Meets.pure fun _ hs => hs

theorem verifyBelow_meets (rootFd : Descriptor) (obligations : List ObligationRecord) (root : Str)
    (identity : RootIdentity) :
    Meets (At [rootFd]) (verifyBelow world outside sha256 limits rootFd obligations root identity)
      (fun _ => At [rootFd]) fun _ => Down [rootFd] := by
  refine Meets.bind (attempt_meets _) fun _ => Meets.bind (attempt_meets _) fun _ => ?_
  refine Meets.bind (Meets.foldlM _ (fun hashed path _ =>
    hashSource_meets world outside sha256 limits rootFd obligations hashed path) _) fun hashed => ?_
  refine Meets.bind (Meets.foldlM _ (fun sectioned record _ =>
    hashSection_meets world outside sha256 limits rootFd hashed.identities sectioned record) _) fun sectioned => ?_
  refine Meets.bind (revalidateRoot_meets world outside root identity (by simp)) fun _ => ?_
  refine Meets.bind (fstat_meets world (List.mem_cons_self ..) _) fun held => Meets.bind (attempt_meets _) fun _ => ?_
  exact Meets.pure fun _ hs => hs

theorem verify_meets (catalog : ObligationCatalog) (root : Str) (limits : Option CompileLimits) :
    Meets (At []) (verifyObligationSources world outside sha256 catalog root limits) (fun _ => At [])
      fun _ => Down [] := by
  refine Meets.bind (openCanonicalRoot_meets world outside root (by simp)) fun opened => ?_
  exact closed_meets world outside _ (verifyBelow_meets world outside sha256 _ opened.1 _ root opened.2)

end Verifier

theorem Sound.opens_nodup {s : Os} (h : Sound s) : s.opens.Nodup := by
  have hserials : (s.opens.map (·.serial)).Nodup := h.serials ▸ List.nodup_reverse.mpr List.nodup_range
  exact hserials.of_map

/-- Whatever each call comes to, no descriptor is used or closed after it was closed, no more than three are open at
once, each that was opened is closed once when the verifier returns or raises, and no `close` that fails takes the place
of a `ContractError` that was raised before. -/
theorem descriptors_kept (world : World) (outside : Bool) (sha256 : Bytes → Str) (catalog : ObligationCatalog)
    (root : Str) (limits : Option CompileLimits) :
    let s := (run (verifyObligationSources world outside sha256 catalog root limits) Os.start).2
    s.misused = false ∧ s.most ≤ 3 ∧ s.table = [] ∧ (∀ fd ∈ s.opens, s.closes.count fd = 1) ∧
      (∀ fd ∈ s.closes, fd ∈ s.opens) ∧ s.replaced = false := by
  have hdown : Down [] (run (verifyObligationSources world outside sha256 catalog root limits) Os.start).2 := by
    have hrun := verify_meets world outside sha256 catalog root limits Os.start sound_start
    rcases hresult : run (verifyObligationSources world outside sha256 catalog root limits) Os.start with ⟨e | v, t⟩
    · rw [hresult] at hrun
      exact hrun
    · rw [hresult] at hrun
      exact hrun.down
  intro s
  have hsound : Sound s := hdown.sound
  have hperm : s.opens.Perm s.closes := by
    have haccounted := hsound.accounted
    rwa [show s.table = [] from hdown.table, List.nil_append] at haccounted
  refine ⟨hsound.proper, hsound.few, hdown.table, fun fd hfd => ?_, fun fd hfd => hperm.mem_iff.mpr hfd, hsound.kept⟩
  rw [← hperm.count_eq]
  exact List.count_eq_one_of_mem hsound.opens_nodup hfd

end TurnVector.Obligations.Descriptors
