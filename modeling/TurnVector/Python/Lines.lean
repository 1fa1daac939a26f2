import TurnVector.Python.Text

/-! # The lines of a text

Universal newlines and `str.splitlines()`, on a text whose lines end with LF.
-/

namespace TurnVector.Python

/-- What ends a line for `str.splitlines()`. -/
def isLineBoundary (c : CodePoint) : Bool :=
  (10 ≤ c.val && c.val ≤ 13) || (28 ≤ c.val && c.val ≤ 30) || c.val == 0x85 || c.val == 0x2028 || c.val == 0x2029

/-- A text file as it is read: CR and CR LF become LF. -/
def universalNewlines : Str → Str
  | [] => []
  | [c] => [if c.val = 13 then cp 10 else c]
  | c :: d :: s =>
    if c.val = 13 then
      if d.val = 10 then cp 10 :: universalNewlines s else cp 10 :: universalNewlines (d :: s)
    else c :: universalNewlines (d :: s)

def putFirst (c : CodePoint) : List Str → List Str
  | [] => [[c]]
  | line :: lines => (c :: line) :: lines

/-- `s.splitlines()` -/
def splitlines : Str → List Str
  | [] => []
  | [c] => if isLineBoundary c then [[]] else [[c]]
  | c :: d :: s =>
    if c.val = 13 ∧ d.val = 10 then [] :: splitlines s
    else if isLineBoundary c then [] :: splitlines (d :: s)
    else putFirst c (splitlines (d :: s))

/-- The lines that one kind of character ends, and what comes after the last of them. -/
def linesBy (ends : CodePoint → Bool) : Str → List Str
  | [] => []
  | c :: s => if ends c then [] :: linesBy ends s else putFirst c (linesBy ends s)

def isLf (c : CodePoint) : Bool := c.val == 10

/-- The lines of a text file. -/
def lfLines (text : Str) : List Str := linesBy isLf text

/-- The texts, each followed by LF. -/
def lfJoin (texts : List Str) : Str := texts.flatMap fun text => text ++ [cp 10]

/-- A line without the CR at its end. -/
def stripCr (line : Str) : Str := if line.getLast? = some (cp 13) then line.dropLast else line

/-- No character of the line ends a line, but for a CR at its end. -/
def Clean (line : Str) : Prop := ∀ c ∈ stripCr line, isLineBoundary c = false

theorem not_lf {text : Str} (h : cp 10 ∉ text) : ∀ c ∈ text, c.val ≠ 10 := by
  intro c hc hval
  exact h (Fin.ext (hval.trans (cp_val 10 (by omega)).symm) ▸ hc)

/-! ## Lines that one kind of character ends -/

section
variable {ends : CodePoint → Bool} {stop : CodePoint} (hstop : ends stop = true)
include hstop

theorem linesBy_line (line rest : Str) (hline : ∀ c ∈ line, ends c = false) :
    linesBy ends (line ++ stop :: rest) = line :: linesBy ends rest := by
  induction line with
  | nil => simp [linesBy, hstop]
  | cons c line ih =>
    obtain ⟨hc, hline⟩ := List.forall_mem_cons.mp hline
    rw [List.cons_append, linesBy, ih hline, hc]
    rfl

theorem linesBy_length (front rest : Str) :
    (linesBy ends (front ++ stop :: rest)).length = front.countP ends + 1 + (linesBy ends rest).length := by
  induction front with
  | nil => simp [linesBy, hstop, Nat.add_comm]
  | cons c front ih =>
    rw [List.cons_append, linesBy, List.countP_cons]
    split
    · rw [List.length_cons, ih]
      omega
    · cases hlines : linesBy ends (front ++ stop :: rest) with
      | nil =>
        rw [hlines, List.length_nil] at ih
        omega
      | cons line lines =>
        rw [hlines] at ih
        simp only [putFirst, List.length_cons] at ih ⊢
        omega

end

theorem lfLines_lfJoin (texts : List Str) (h : ∀ text ∈ texts, cp 10 ∉ text) : lfLines (lfJoin texts) = texts := by
  induction texts with
  | nil => rfl
  | cons text texts ih =>
    obtain ⟨htext, htexts⟩ := List.forall_mem_cons.mp h
    have hplain : ∀ c ∈ text, isLf c = false := by
      intro c hc
      rw [isLf, beq_eq_false_iff_ne]
      exact not_lf htext c hc
    unfold lfLines lfJoin at ih ⊢
    rw [List.flatMap_cons, List.append_assoc, List.singleton_append, linesBy_line (by decide) text _ hplain,
      ih htexts]

theorem mem_linesBy (ends : CodePoint → Bool) (s : Str) : ∀ line ∈ linesBy ends s, ∀ c ∈ line, ends c = false := by
  induction s with
  | nil => simp [linesBy]
  | cons d s ih =>
    rw [linesBy]
    split
    · exact List.forall_mem_cons.mpr ⟨by simp, ih⟩
    · rename_i hd
      rw [Bool.not_eq_true] at hd
      cases hlines : linesBy ends s with
      | nil => simp [putFirst, hd]
      | cons line lines =>
        rw [hlines] at ih
        obtain ⟨hline, hlines⟩ := List.forall_mem_cons.mp ih
        exact List.forall_mem_cons.mpr ⟨List.forall_mem_cons.mpr ⟨hd, hline⟩, hlines⟩

theorem mem_lfLines (text : Str) : ∀ line ∈ lfLines text, cp 10 ∉ line := by
  intro line hline hmem
  have := mem_linesBy isLf text line hline _ hmem
  exact absurd this (by decide)

theorem lfJoin_getLast (texts : List Str) (h : texts ≠ []) : (lfJoin texts).getLast? = some (cp 10) := by
  obtain ⟨front, last, rfl⟩ := List.eq_nil_or_concat texts |>.resolve_left h
  simp [lfJoin]

theorem lfJoin_putFirst (c : CodePoint) (lines : List Str) (h : lines ≠ []) :
    lfJoin (putFirst c lines) = c :: lfJoin lines := by
  obtain ⟨line, lines, rfl⟩ := List.exists_cons_of_ne_nil h
  rfl

theorem linesBy_ne_nil (ends : CodePoint → Bool) (c : CodePoint) (s : Str) : linesBy ends (c :: s) ≠ [] := by
  rw [linesBy]
  split
  · simp
  · cases linesBy ends s <;> simp [putFirst]

/-- A text that ends with LF is its lines again, each followed by LF. -/
theorem lfJoin_lfLines (text : Str) (h : text.getLast? = some (cp 10)) : lfJoin (lfLines text) = text := by
  have hval : ∀ c : CodePoint, isLf c = true → c = cp 10 := by
    intro c hc
    exact Fin.ext (beq_iff_eq.mp hc |>.trans (cp_val 10 (by omega)).symm)
  induction text with
  | nil => cases h
  | cons c s ih =>
    cases s with
    | nil =>
      obtain rfl : c = cp 10 := Option.some.inj h
      rfl
    | cons d s =>
      have hs := ih (by rwa [List.getLast?_cons_cons] at h)
      unfold lfLines at hs ⊢
      rw [linesBy]
      split
      · rename_i hc
        rw [hval c hc]
        exact congrArg (List.cons (cp 10)) hs
      · rw [lfJoin_putFirst c _ (linesBy_ne_nil isLf d s), hs]

/-! ## Universal newlines -/

theorem universalNewlines_cons (c : CodePoint) (s : Str) (hc : c.val ≠ 13) :
    universalNewlines (c :: s) = c :: universalNewlines s := by
  cases s with
  | nil => simp [universalNewlines, hc]
  | cons d s => simp [universalNewlines, hc]

theorem universalNewlines_cr (c : CodePoint) (s : Str) (hc : c.val = 13) (hs : ∀ d ∈ s.head?, d.val ≠ 10) :
    universalNewlines (c :: s) = cp 10 :: universalNewlines s := by
  cases s with
  | nil => simp [universalNewlines, hc]
  | cons d s =>
    have hd := hs d (by simp)
    simp [universalNewlines, hc, hd]

theorem universalNewlines_noCr (s : Str) : ∀ c ∈ universalNewlines s, c.val ≠ 13 := by
  fun_induction universalNewlines s with
  | case1 => simp
  | case2 c =>
    intro x hx
    rw [List.mem_singleton] at hx
    subst hx
    split
    · decide
    · assumption
  | case3 c d s hc hd ih =>
    exact List.forall_mem_cons.mpr ⟨by decide, ih⟩
  | case4 c d s hc hd ih =>
    exact List.forall_mem_cons.mpr ⟨by decide, ih⟩
  | case5 c d s hc ih =>
    exact List.forall_mem_cons.mpr ⟨hc, ih⟩

theorem stripCr_cons (c d : CodePoint) (s : Str) : stripCr (c :: d :: s) = c :: stripCr (d :: s) := by
  unfold stripCr
  rw [List.getLast?_cons_cons]
  split <;> rfl

/-- LF ends a line with or without a CR before it. -/
theorem universalNewlines_line (line rest : Str) (hline : ∀ c ∈ line, c.val ≠ 10) :
    universalNewlines (line ++ cp 10 :: rest) =
      universalNewlines (stripCr line) ++ cp 10 :: universalNewlines rest := by
  have hlf : universalNewlines (cp 10 :: rest) = cp 10 :: universalNewlines rest :=
    universalNewlines_cons _ _ (by decide)
  induction line with
  | nil => exact hlf
  | cons c line ih =>
    obtain ⟨hc, hline⟩ := List.forall_mem_cons.mp hline
    have hrest := ih hline
    by_cases hcr : c.val = 13
    · have hval : c = cp 13 := Fin.ext (hcr.trans (cp_val 13 (by omega)).symm)
      cases line with
      | nil =>
        rw [hval]
        rfl
      | cons d line =>
        obtain ⟨hd, -⟩ := List.forall_mem_cons.mp hline
        have hhead : ∀ x ∈ (stripCr (d :: line)).head?, x.val ≠ 10 := by
          intro x hx
          have hmem : x ∈ stripCr (d :: line) := List.mem_of_mem_head? hx
          unfold stripCr at hmem
          split at hmem
          · exact hline x (List.dropLast_subset _ hmem)
          · exact hline x hmem
        rw [List.cons_append, universalNewlines_cr c _ hcr (by simpa using hd), hrest, stripCr_cons,
          universalNewlines_cr c _ hcr hhead]
        rfl
    · cases line with
      | nil =>
        have hstrip : stripCr [c] = [c] := by
          unfold stripCr
          rw [List.getLast?_singleton, if_neg]
          intro hlast
          exact hcr (Option.some.inj hlast ▸ cp_val 13 (by omega))
        rw [List.cons_append, universalNewlines_cons c _ hcr, hrest, hstrip, universalNewlines_cons c _ hcr]
        rfl
      | cons d line =>
        rw [List.cons_append, universalNewlines_cons c _ hcr, hrest, stripCr_cons,
          universalNewlines_cons c _ hcr]
        rfl

/-- A text without line boundaries is read as it stands. -/
theorem universalNewlines_clean (s : Str) (h : ∀ c ∈ s, isLineBoundary c = false) : universalNewlines s = s := by
  induction s with
  | nil => rfl
  | cons c s ih =>
    obtain ⟨hc, hs⟩ := List.forall_mem_cons.mp h
    have hcr : c.val ≠ 13 := by
      intro hval
      rw [isLineBoundary, hval] at hc
      cases hc
    rw [universalNewlines_cons c s hcr, ih hs]

/-- A line boundary is still one after the text is read. -/
theorem universalNewlines_boundary (s : Str) (c : CodePoint) (hmem : c ∈ s) (hc : isLineBoundary c = true) :
    0 < (universalNewlines s).countP isLineBoundary := by
  rw [List.countP_pos_iff]
  fun_induction universalNewlines s with
  | case1 => cases hmem
  | case2 d =>
    rw [List.mem_singleton] at hmem
    subst hmem
    split
    · exact ⟨cp 10, by simp, by decide⟩
    · exact ⟨c, by simp, hc⟩
  | case3 d e s hd he ih => exact ⟨cp 10, by simp, by decide⟩
  | case4 d e s hd he ih => exact ⟨cp 10, by simp, by decide⟩
  | case5 d e s hd ih =>
    rcases List.mem_cons.mp hmem with rfl | hmem
    · exact ⟨c, by simp, hc⟩
    · obtain ⟨x, hx, hboundary⟩ := ih hmem
      exact ⟨x, List.mem_cons_of_mem _ hx, hboundary⟩

theorem clean_iff (line : Str) :
    (universalNewlines (stripCr line)).countP isLineBoundary = 0 ↔ Clean line := by
  constructor
  · intro hzero c hc
    by_contra hboundary
    have := universalNewlines_boundary _ c hc (by simpa using hboundary)
    omega
  · intro hclean
    rw [universalNewlines_clean _ hclean, List.countP_eq_zero]
    intro c hc
    rw [hclean c hc]
    decide

/-! ## Lines as they are read -/

/-- `path.read_text().splitlines()` -/
def readLines (text : Str) : List Str := splitlines (universalNewlines text)

theorem splitlines_eq (s : Str) (h : ∀ c ∈ s, c.val ≠ 13) : splitlines s = linesBy isLineBoundary s := by
  fun_induction splitlines s with
  | case1 => rfl
  | case2 c hc => simp [linesBy, hc]
  | case3 c hc => simp [linesBy, hc, putFirst]
  | case4 c d s hcr ih => exact absurd hcr.1 (h c (by simp))
  | case5 c d s hcr hc ih =>
    rw [ih fun x hx => h x (List.mem_cons_of_mem _ hx)]
    conv_rhs => rw [linesBy, if_pos hc]
  | case6 c d s hcr hc ih =>
    rw [ih fun x hx => h x (List.mem_cons_of_mem _ hx)]
    conv_rhs => rw [linesBy, if_neg hc]

theorem readLines_eq (text : Str) : readLines text = linesBy isLineBoundary (universalNewlines text) :=
  splitlines_eq _ (universalNewlines_noCr text)

/-- Every line boundary inside a text makes one more line. -/
theorem readLines_length (texts : List Str) (h : ∀ text ∈ texts, cp 10 ∉ text) :
    (readLines (lfJoin texts)).length =
      texts.length + (texts.map fun text => (universalNewlines (stripCr text)).countP isLineBoundary).sum := by
  rw [readLines_eq]
  induction texts with
  | nil => rfl
  | cons text texts ih =>
    obtain ⟨htext, htexts⟩ := List.forall_mem_cons.mp h
    have hrest := ih htexts
    unfold lfJoin at hrest ⊢
    rw [List.flatMap_cons, List.append_assoc, List.singleton_append, universalNewlines_line text _ (not_lf htext),
      linesBy_length (by decide), hrest, List.map_cons, List.sum_cons, List.length_cons]
    omega

/-- As many lines are read as there are texts exactly when every text is clean. -/
theorem readLines_length_iff (texts : List Str) (h : ∀ text ∈ texts, cp 10 ∉ text) :
    (readLines (lfJoin texts)).length = texts.length ↔ ∀ text ∈ texts, Clean text := by
  rw [readLines_length texts h, Nat.add_eq_left, List.sum_eq_zero_iff]
  simp only [List.mem_map, forall_exists_index, and_imp, forall_apply_eq_imp_iff₂, clean_iff]

/-- Clean texts are read line by line, each without the CR at its end. -/
theorem readLines_clean (texts : List Str) (h : ∀ text ∈ texts, cp 10 ∉ text) (hclean : ∀ text ∈ texts, Clean text) :
    readLines (lfJoin texts) = texts.map stripCr := by
  rw [readLines_eq]
  induction texts with
  | nil => rfl
  | cons text texts ih =>
    obtain ⟨htext, htexts⟩ := List.forall_mem_cons.mp h
    obtain ⟨hfirst, hothers⟩ := List.forall_mem_cons.mp hclean
    have hrest := ih htexts hothers
    unfold lfJoin at hrest ⊢
    rw [List.flatMap_cons, List.append_assoc, List.singleton_append, universalNewlines_line text _ (not_lf htext),
      universalNewlines_clean _ hfirst, linesBy_line (by decide) _ _ hfirst, hrest, List.map_cons]

end TurnVector.Python
