import TurnVector.Python.JsonScan

/-! # `json.loads` within the limits of the interpreter -/

namespace TurnVector.Python.Json

/-- `sys.get_int_max_str_digits()`, and how many brackets can stand open before `RecursionError`. -/
structure Limits where
  digits : Option Nat
  depth : Option Nat

def exceeds (bound : Option Nat) (n : Nat) : Bool := bound.any fun most => most < n

/-- The digits of `str(n)`, without its sign. -/
def digitCount (n : Int) : Nat := (natText n.natAbs).length

/-- What ends a load that is no `JSONDecodeError`. -/
inductive Refusal (ε : Type) where
  | digits
  | depth
  | own (e : ε)
  deriving DecidableEq

section
variable {ε : Type}

/-! ## The scanner -/

def LoadError.lift : LoadError ε → LoadError (Refusal ε)
  | .decode msg => .decode msg
  | .hook e => .hook (.own e)
  | .fuel => .fuel

/-- A part of the scan that has no limit. -/
def lift {α : Type} (r : Except (LoadError ε) α) : Except (LoadError (Refusal ε)) α := r.mapError LoadError.lift

/-- `int(token)`. No hook makes an integer. -/
def checkDigits (limits : Limits) (r : Json × Str) : Except (LoadError (Refusal ε)) (Json × Str) :=
  match r.1 with
  | .int n => if exceeds limits.digits (digitCount n) then .error (.hook .digits) else .ok r
  | _ => .ok r

mutual

/-- `scan_once`, with `level` brackets open. -/
def limitedOnce (limits : Limits) (h : Hooks ε) (level : Nat) :
    Nat → Str → Except (LoadError (Refusal ε)) (Json × Str)
  | 0, _ => .error .fuel
  | _ + 1, [] => .error (.decode "Expecting value")
  | n + 1, c :: s =>
    if c.val = 34 then (lift (scanString s)).map fun r => (.str r.1, r.2)
    else if c.val = 91 then
      if exceeds limits.depth (level + 1) then .error (.hook .depth)
      else match skipWs s with
        | [] => .error (.decode "Expecting value")
        | d :: s' =>
          if d.val = 93 then .ok (.arr [], s')
          else (limitedItems limits h (level + 1) n (d :: s')).map fun r => (.arr r.1, r.2)
    else if c.val = 123 then
      if exceeds limits.depth (level + 1) then .error (.hook .depth)
      else match skipWs s with
        | [] => .error (.decode "Expecting property name enclosed in double quotes")
        | d :: s' =>
          if d.val = 125 then lift (closeObject h [] s')
          else do
            let (pairs, rest) ← limitedMembers limits h (level + 1) n (d :: s')
            lift (closeObject h pairs rest)
    else lift (scanScalar h (c :: s)) >>= checkDigits limits

def limitedItems (limits : Limits) (h : Hooks ε) (level : Nat) :
    Nat → Str → Except (LoadError (Refusal ε)) (List Json × Str)
  | 0, _ => .error .fuel
  | n + 1, s => do
    let (v, rest) ← limitedOnce limits h level n s
    match skipWs rest with
    | [] => .error (.decode "Expecting ',' delimiter")
    | c :: s =>
      if c.val = 93 then .ok ([v], s)
      else if c.val = 44 then (limitedItems limits h level n (skipWs s)).map fun r => (v :: r.1, r.2)
      else .error (.decode "Expecting ',' delimiter")

def limitedMembers (limits : Limits) (h : Hooks ε) (level : Nat) :
    Nat → Str → Except (LoadError (Refusal ε)) (List (Str × Json) × Str)
  | 0, _ => .error .fuel
  | _ + 1, [] => .error (.decode "Expecting property name enclosed in double quotes")
  | n + 1, q :: s =>
    if q.val = 34 then do
      let (key, rest) ← lift (scanString s)
      match skipWs rest with
      | [] => .error (.decode "Expecting ':' delimiter")
      | c :: s =>
        if c.val = 58 then do
          let (v, rest) ← limitedOnce limits h level n (skipWs s)
          match skipWs rest with
          | [] => .error (.decode "Expecting ',' delimiter")
          | c :: s =>
            if c.val = 125 then .ok ([(key, v)], s)
            else if c.val = 44 then (limitedMembers limits h level n (skipWs s)).map fun r => ((key, v) :: r.1, r.2)
            else .error (.decode "Expecting ',' delimiter")
        else .error (.decode "Expecting ':' delimiter")
    else .error (.decode "Expecting property name enclosed in double quotes")

end

/-- `json.loads` of a `str`. -/
def limitedLoads (limits : Limits) (h : Hooks ε) (s : Str) : Except (LoadError (Refusal ε)) Json := do
  if s.head? = some (cp 0xFEFF) then
    throw (.decode "Unexpected UTF-8 BOM (decode using utf-8-sig)")
  let text := skipWs s
  let (v, rest) ← limitedOnce limits h 0 (2 * text.length + 2) text
  if skipWs rest = [] then return v
  throw (.decode "Extra data")

/-! ## What a scan meets -/

/-- An integer that a scan reads, or a bracket that it opens: the brackets open then. -/
inductive Event where
  | integer (n : Int)
  | bracket (level : Nat)

def Event.refused (limits : Limits) : Event → Bool
  | .integer n => exceeds limits.digits (digitCount n)
  | .bracket level => exceeds limits.depth level

def Event.refusal : Event → Refusal ε
  | .integer _ => .digits
  | .bracket _ => .depth

def scalarEvents (r : Except (LoadError ε) (Json × Str)) : List Event :=
  match r with
  | .ok (.int n, _) => [.integer n]
  | _ => []

mutual

/-- What a scan without limits meets up to its end, or up to its first error. -/
def eventsOnce (h : Hooks ε) (level : Nat) : Nat → Str → List Event
  | 0, _ => []
  | _ + 1, [] => []
  | n + 1, c :: s =>
    if c.val = 34 then []
    else if c.val = 91 then
      .bracket (level + 1) :: match skipWs s with
        | [] => []
        | d :: s' => if d.val = 93 then [] else eventsItems h (level + 1) n (d :: s')
    else if c.val = 123 then
      .bracket (level + 1) :: match skipWs s with
        | [] => []
        | d :: s' => if d.val = 125 then [] else eventsMembers h (level + 1) n (d :: s')
    else scalarEvents (scanScalar h (c :: s))

def eventsItems (h : Hooks ε) (level : Nat) : Nat → Str → List Event
  | 0, _ => []
  | n + 1, s =>
    eventsOnce h level n s ++ match scanOnce h n s with
      | .error _ => []
      | .ok (_, rest) =>
        match skipWs rest with
        | [] => []
        | c :: s => if c.val = 93 then [] else if c.val = 44 then eventsItems h level n (skipWs s) else []

def eventsMembers (h : Hooks ε) (level : Nat) : Nat → Str → List Event
  | 0, _ => []
  | _ + 1, [] => []
  | n + 1, q :: s =>
    if q.val = 34 then
      match scanString (ε := ε) s with
      | .error _ => []
      | .ok (_, rest) =>
        match skipWs rest with
        | [] => []
        | c :: s =>
          if c.val = 58 then
            eventsOnce h level n (skipWs s) ++ match scanOnce h n (skipWs s) with
              | .error _ => []
              | .ok (_, rest) =>
                match skipWs rest with
                | [] => []
                | c :: s => if c.val = 125 then [] else if c.val = 44 then eventsMembers h level n (skipWs s) else []
          else []
    else []

end

/-- What a load without limits meets. -/
def loadEvents (h : Hooks ε) (s : Str) : List Event :=
  if s.head? = some (cp 0xFEFF) then []
  else eventsOnce h 0 (2 * (skipWs s).length + 2) (skipWs s)

/-- The first refused event ends a scan. Without one it ends as it would without limits. -/
def within {α : Type} (limits : Limits) (events : List Event) (r : Except (LoadError (Refusal ε)) α) :
    Except (LoadError (Refusal ε)) α :=
  match events.find? (Event.refused limits) with
  | some event => .error (.hook event.refusal)
  | none => r

section Within

variable {α β : Type} (limits : Limits)

@[simp] theorem within_nil (r : Except (LoadError (Refusal ε)) α) : within limits [] r = r := rfl

theorem within_cons (event : Event) (events : List Event) (r : Except (LoadError (Refusal ε)) α) :
    within limits (event :: events) r =
      if event.refused limits then .error (.hook event.refusal) else within limits events r := by
  unfold within
  rw [List.find?_cons]
  cases event.refused limits <;> rfl

theorem within_append (front back : List Event) (r : Except (LoadError (Refusal ε)) α) :
    within limits (front ++ back) r = within limits front (within limits back r) := by
  unfold within
  rw [List.find?_append]
  cases front.find? (Event.refused limits) <;> rfl

theorem within_map (events : List Event) (r : Except (LoadError (Refusal ε)) α) (f : α → β) :
    (within limits events r).map f = within limits events (r.map f) := by
  unfold within
  cases events.find? (Event.refused limits) <;> rfl

theorem within_bind (events : List Event) (r : Except (LoadError (Refusal ε)) α)
    (f : α → Except (LoadError (Refusal ε)) β) :
    (within limits events r >>= f) = within limits events (r >>= f) := by
  unfold within
  cases events.find? (Event.refused limits) <;> rfl

/-- The load ends with `ValueError` when an integer is the first event that is refused. -/
theorem within_lift_digits (events : List Event) (r : Except (LoadError ε) α) :
    within limits events (lift r) = .error (.hook .digits) ↔
      ∃ n, events.find? (Event.refused limits) = some (.integer n) := by
  unfold within
  cases events.find? (Event.refused limits) with
  | none =>
    simp only [reduceCtorEq, exists_const, iff_false]
    cases r with
    | ok a => simp [lift, Except.mapError]
    | error e => cases e <;> simp [lift, Except.mapError, LoadError.lift]
  | some event => cases event <;> simp [Event.refusal]

end Within

theorem lift_map {α β : Type} (r : Except (LoadError ε) α) (f : α → β) : lift (r.map f) = (lift r).map f := by
  cases r <;> rfl

theorem lift_bind {α β : Type} (r : Except (LoadError ε) α) (f : α → Except (LoadError ε) β) :
    lift (r >>= f) = (lift r >>= fun a => lift (f a)) := by
  cases r <;> rfl

theorem checkDigits_eq (limits : Limits) (r : Except (LoadError ε) (Json × Str)) :
    (lift r >>= checkDigits limits) = within limits (scalarEvents r) (lift r) := by
  cases r with
  | error e => rfl
  | ok r =>
    obtain ⟨v, rest⟩ := r
    cases v with
    | int n =>
      rw [scalarEvents, within_cons]
      rfl
    | _ => rfl

/-- The limited scan of each kind is the scan without limits, up to the first refused event. -/
theorem limited_scan (limits : Limits) (h : Hooks ε) (n : Nat) :
    (∀ level s, limitedOnce limits h level n s = within limits (eventsOnce h level n s) (lift (scanOnce h n s))) ∧
    (∀ level s, limitedItems limits h level n s =
      within limits (eventsItems h level n s) (lift (scanItems h n s))) ∧
    (∀ level s, limitedMembers limits h level n s =
      within limits (eventsMembers h level n s) (lift (scanMembers h n s))) := by
  induction n with
  | zero => exact ⟨fun _ _ => rfl, fun _ _ => rfl, fun _ _ => rfl⟩
  | succ n ih =>
    obtain ⟨ihOnce, ihItems, ihMembers⟩ := ih
    refine ⟨?_, ?_, ?_⟩
    · intro level s
      cases s with
      | nil => rfl
      | cons c s =>
        rw [limitedOnce, eventsOnce, scanOnce]
        by_cases hquote : c.val = 34
        · simp only [if_pos hquote, within_nil, lift_map]
        by_cases harray : c.val = 91
        · simp only [if_neg hquote, if_pos harray, within_cons, Event.refused, Event.refusal]
          congr 1
          cases skipWs s with
          | nil => rfl
          | cons d s' =>
            by_cases hclose : d.val = 93
            · simp only [if_pos hclose, within_nil]
              rfl
            · simp only [if_neg hclose, ihItems, within_map, lift_map]
        by_cases hobject : c.val = 123
        · simp only [if_neg hquote, if_neg harray, if_pos hobject, within_cons, Event.refused, Event.refusal]
          congr 1
          cases skipWs s with
          | nil => rfl
          | cons d s' =>
            by_cases hclose : d.val = 125
            · simp only [if_pos hclose, within_nil]
            · simp only [if_neg hclose, ihMembers, within_bind, lift_bind]
        · simp only [if_neg hquote, if_neg harray, if_neg hobject]
          exact checkDigits_eq limits _
    · intro level s
      rw [limitedItems, eventsItems, scanItems, ihOnce, within_bind, within_append, lift_bind]
      congr 1
      cases scanOnce h n s with
      | error e => rfl
      | ok r =>
        obtain ⟨v, rest⟩ := r
        simp only [lift, Except.mapError, bind, Except.bind]
        cases skipWs rest with
        | nil => rfl
        | cons c s =>
          by_cases hclose : c.val = 93
          · simp only [if_pos hclose, within_nil]
          by_cases hcomma : c.val = 44
          · simp only [if_neg hclose, if_pos hcomma, ihItems, within_map]
            rw [← lift_map]
            rfl
          · simp only [if_neg hclose, if_neg hcomma, within_nil]
            rfl
    · intro level s
      cases s with
      | nil => rfl
      | cons q s =>
        rw [limitedMembers, eventsMembers, scanMembers]
        by_cases hquote : q.val = 34
        case neg =>
          simp only [if_neg hquote, within_nil]
          rfl
        simp only [if_pos hquote]
        cases scanString (ε := ε) s with
        | error e => rfl
        | ok r =>
          obtain ⟨key, rest⟩ := r
          simp only [lift, Except.mapError, bind, Except.bind]
          cases skipWs rest with
          | nil => rfl
          | cons c s =>
            by_cases hcolon : c.val = 58
            case neg =>
              simp only [if_neg hcolon, within_nil]
              rfl
            simp only [if_pos hcolon, ihOnce, within_append]
            refine (within_bind limits _ _ _).trans ?_
            congr 1
            cases scanOnce h n (skipWs s) with
            | error e => rfl
            | ok r =>
              obtain ⟨v, rest⟩ := r
              simp only [lift, Except.mapError, bind, Except.bind]
              cases skipWs rest with
              | nil => rfl
              | cons c s =>
                by_cases hclose : c.val = 125
                · simp only [if_pos hclose, within_nil]
                by_cases hcomma : c.val = 44
                · simp only [if_neg hclose, if_pos hcomma, ihMembers, within_map]
                  rw [← lift_map]
                  rfl
                · simp only [if_neg hclose, if_neg hcomma, within_nil]
                  rfl

/-- `json.loads` is the load without limits, up to the first refused event. -/
theorem limitedLoads_eq (limits : Limits) (h : Hooks ε) (s : Str) :
    limitedLoads limits h s = within limits (loadEvents h s) (lift (loads h s)) := by
  unfold limitedLoads loadEvents loads
  split_ifs with hbom
  · rfl
  · simp only [rawDecode, (limited_scan limits h _).1, lift_bind]
    refine (within_bind limits _ _ _).trans ?_
    congr 1
    cases scanOnce h (2 * (skipWs s).length + 2) (skipWs s) with
    | error e => rfl
    | ok r =>
      simp only [lift, Except.mapError, bind, Except.bind]
      split_ifs <;> rfl

/-- A load never ends for want of fuel. -/
theorem limitedLoads_fuel (limits : Limits) (h : Hooks ε) (s : Str) : limitedLoads limits h s ≠ .error .fuel := by
  have hfuel := loads_fuel h s
  rw [limitedLoads_eq]
  unfold within
  split
  · simp
  · cases hload : loads h s with
    | ok v => simp [lift, Except.mapError]
    | error e =>
      rw [hload] at hfuel
      cases e with
      | fuel => exact absurd rfl hfuel
      | _ => simp [lift, Except.mapError, LoadError.lift]

end

end TurnVector.Python.Json
