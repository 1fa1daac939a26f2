import TurnVector.CrossEngine.Lifecycle.Client

/-! # What the validators raise

A response that is refused raises `ContractError`, whatever the adapter wrote. Only a line with a long integer raises
something else.
-/

namespace TurnVector.CrossEngine.Lifecycle

open Python Json Contracts

/-- Nothing but `ContractError` is raised. -/
def Closed {α : Type} (r : Except Raised α) : Prop := ∀ e, r = .error e → e.className = lit "ContractError"

namespace Closed

variable {α β : Type}

@[simp] theorem ok (a : α) : Closed (.ok a : Except Raised α) := nofun

@[simp] theorem reject (text : Str) : Closed (Contracts.reject text : Except Raised α) := by
  intro e h
  cases h
  rfl

@[simp] theorem pure (a : α) : Closed (Pure.pure a : Except Raised α) := nofun

theorem bind {r : Except Raised α} {f : α → Except Raised β} (h : Closed r) (hf : ∀ a, Closed (f a)) :
    Closed (r >>= f) := by
  cases r with
  | ok a => exact hf a
  | error error =>
    intro e he
    cases he
    exact h _ rfl

theorem ite {p : Prop} [Decidable p] {r s : Except Raised α} (hr : Closed r) (hs : Closed s) :
    Closed (if p then r else s) := by
  split
  · exact hr
  · exact hs

theorem refuseIf (p : Prop) [Decidable p] (text : Str) : Closed (Lifecycle.refuseIf p text) := ite (reject text) (ok ())

theorem mapM {f : α → Except Raised β} (h : ∀ a, Closed (f a)) (xs : List α) : Closed (xs.mapM f) := by
  induction xs with
  | nil => exact pure []
  | cons x xs ih =>
    rw [List.mapM_cons]
    exact bind (h x) fun y => bind ih fun ys => pure (y :: ys)

theorem forM {f : α → Except Raised Unit} (h : ∀ a, Closed (f a)) (xs : List α) : Closed (xs.forM f) := by
  induction xs with
  | nil => exact pure ()
  | cons x xs ih => exact bind (h x) fun _ => ih

end Closed

/-! ## Values -/

theorem strictObject_closed (value : Json) (required optional : List String) (place : Str) :
    Closed (strictObject value required optional place) := by
  unfold strictObject
  split
  · exact .ite (.reject _) (.ite (.reject _) (.ok _))
  · exact .reject _

theorem boundedString_closed (value : Json) (place : Str) (maximumBytes : Nat) (allowEmpty : Bool) :
    Closed (boundedString value place maximumBytes allowEmpty) := by
  unfold boundedString
  simp only
  split
  · refine .ite (.reject _) (.ite (.reject _) ?_)
    split
    · exact .reject _
    · exact .ite (.reject _) (.ok _)
  · exact .reject _

theorem identifier_closed (value : Json) (place : Str) : Closed (Contracts.identifier value place) :=
  .bind (boundedString_closed _ _ _ _) fun _ => .ite (.ok _) (.reject _)

theorem sha256Digest_closed (value : Json) (place : Str) : Closed (sha256Digest value place) :=
  .bind (boundedString_closed _ _ _ _) fun _ => .ite (.ok _) (.reject _)

theorem integer_closed (value : Json) (place : Str) (minimum maximum : Int) :
    Closed (integer value place minimum maximum) := by
  unfold integer
  split
  · exact .ite (.reject _) (.ok _)
  · exact .reject _

theorem boundedArray_closed (value : Json) (place : Str) (maximumItems : Nat) (allowEmpty : Bool) :
    Closed (boundedArray value place maximumItems allowEmpty) := by
  unfold boundedArray
  split
  · exact .ite (.reject _) (.ite (.reject _) (.ok _))
  · exact .reject _

theorem boolean_closed (value : Json) (place : Str) : Closed (boolean value place) := by
  unfold boolean
  split
  · exact .ok _
  · exact .reject _

theorem versionAt_closed (members : List (Str × Json)) (place : Str) (name : String) :
    Closed (versionAt members place name) := .refuseIf _ _

theorem identifierAt_closed (payload : List (Str × Json)) (place : Str) (name : String) :
    Closed (identifierAt payload place name) := .bind (identifier_closed _ _) fun _ => .pure ()

theorem sha256At_closed (payload : List (Str × Json)) (place : Str) (name : String) :
    Closed (sha256At payload place name) := .bind (sha256Digest_closed _ _) fun _ => .pure ()

theorem integerAt_closed (payload : List (Str × Json)) (place : Str) (name : String) (minimum maximum : Int) :
    Closed (integerAt payload place name minimum maximum) := .bind (integer_closed _ _ _ _) fun _ => .pure ()

theorem uniqueStrings_closed {parse : Json → Str → Except Raised Str}
    (hparse : ∀ value place, Closed (parse value place)) (value : Json) (place : Str) (maximumItems : Nat) :
    Closed (uniqueStrings value place maximumItems parse) :=
  .bind (boundedArray_closed _ _ _ _) fun raw =>
    .bind (.mapM (fun item => hparse item.1 _) raw.zipIdx) fun _ => .refuseIf _ _

theorem distinctPids_closed (pids : List Int) (place : Str) : Closed (distinctPids pids place) := .refuseIf _ _

theorem processRecord_closed (raw : Json) (place : Str) : Closed (processRecord raw place) :=
  .bind (strictObject_closed _ _ _ _) fun _ => .bind (integer_closed _ _ _ _) fun _ =>
    .bind (boundedString_closed _ _ _ _) fun _ => .bind (sha256Digest_closed _ _) fun _ => .pure _

theorem processRecords_closed (value : Json) (place : Str) : Closed (processRecords value place) :=
  .bind (boundedArray_closed _ _ _ _) fun records =>
    .bind (.mapM (fun item => processRecord_closed item.1 _) records.zipIdx) fun _ => distinctPids_closed _ _

theorem exitRecord_closed (raw : Json) (place : Str) : Closed (exitRecord raw place) :=
  .bind (strictObject_closed _ _ _ _) fun _ => .bind (integer_closed _ _ _ _) fun _ =>
    .bind (integer_closed _ _ _ _) fun _ => .pure _

theorem exitRecords_closed (value : Json) (place : Str) : Closed (exitRecords value place) :=
  .bind (boundedArray_closed _ _ _ _) fun records =>
    .bind (.mapM (fun item => exitRecord_closed item.1 _) records.zipIdx) fun _ => distinctPids_closed _ _

theorem limitedJsonBytes_raises (limits : Limits) (value : Json) : Closed (limitedJsonBytes limits value) := by
  rcases limitedJsonBytes_closed limits value with ⟨text, htext⟩ | ⟨body, hbody⟩
  · exact htext ▸ .reject text
  · exact hbody ▸ .ok body

section Payloads

variable (python : Interpreter)

theorem boundedObject_closed (value : Json) (place : Str) : Closed (boundedObject python value place) := by
  have hbytes : Closed (canonicalBytes python value) := by
    unfold canonicalBytes
    split
    · exact limitedJsonBytes_raises _ _
    · exact .reject _
  exact .bind hbytes fun _ => .refuseIf _ _

theorem checkListenerOwner_closed (value : Json) (place : Str) : Closed (checkListenerOwner value place) :=
  .bind (strictObject_closed _ _ _ _) fun _ => .bind (integerAt_closed _ _ _ _ _) fun _ =>
    .bind (boundedString_closed _ _ _ _) fun _ => integerAt_closed _ _ _ _ _

theorem nothingSurvives_closed (payload : List (Str × Json)) (place : Str) (name : String) :
    Closed (nothingSurvives payload place name) :=
  .bind (boundedArray_closed _ _ _ _) fun _ => .refuseIf _ _

theorem checkResponsePayload_closed (payload : List (Str × Json)) (place : Str) (kind : ResponseKind) :
    Closed (checkResponsePayload python payload place kind) := by
  have hidentifier := identifierAt_closed payload place
  have hsha256 := sha256At_closed payload place
  have hinteger := integerAt_closed payload place
  have hprocesses := fun value name => processRecords_closed value (place ++ lit name)
  unfold checkResponsePayload
  cases kind with
  | helloAck =>
    exact .bind (versionAt_closed _ _ _) fun _ => .bind (.forM hidentifier _) fun _ =>
      uniqueStrings_closed identifier_closed _ _ _
  | prepared =>
    exact .bind (hidentifier _) fun _ => .bind (hidentifier _) fun _ => .bind (.forM hsha256 _) fun _ => hidentifier _
  | targetStarted => exact .bind (hinteger _ _ _) fun _ => .bind (hprocesses _ _) fun _ => hinteger _ _ _
  | endpointReady =>
    refine .bind (hidentifier _) fun _ => .bind (hidentifier _) fun _ => ?_
    refine .bind (.refuseIf _ _) fun _ => ?_
    exact .bind (boundedObject_closed python _ _) fun _ => checkListenerOwner_closed _ _
  | stateReset =>
    refine .bind (hinteger _ _ _) fun _ => .bind (hidentifier _) fun _ => ?_
    exact .bind (hprocesses _ _) fun _ => .bind (hprocesses _ _) fun _ => .bind (hsha256 _) fun _ => hsha256 _
  | targetStopped =>
    refine .bind (hinteger _ _ _) fun _ => .bind (exitRecords_closed _ _) fun _ => ?_
    exact .bind (nothingSurvives_closed _ _ _) fun _ => nothingSurvives_closed _ _ _
  | shutdownAck =>
    refine .bind (hidentifier _) fun _ => .bind (hinteger _ _ _) fun _ => ?_
    exact .bind (boolean_closed _ _) fun _ => .refuseIf _ _

theorem validateResponsePayload_closed (kind : Str) (value : Json) (place : Str) :
    Closed (validateResponsePayload python kind value place) := by
  unfold validateResponsePayload
  split
  · exact .reject _
  · exact .bind (strictObject_closed _ _ _ _) fun _ =>
      .bind (checkResponsePayload_closed python _ _ _) fun _ => .pure _

theorem validateError_closed (obj : List (Str × Json)) (place : Str) : Closed (validateError obj place) := by
  refine .bind (.refuseIf _ _) fun _ => .bind (strictObject_closed _ _ _ _) fun _ => ?_
  refine .bind (identifier_closed _ _) fun _ => .bind (.refuseIf _ _) fun _ => ?_
  exact .bind (boundedString_closed _ _ _ _) fun _ => .pure _

/-- However a response is refused, it is with `ContractError`. -/
theorem validateLifecycleResponse_closed (members : List (Str × Json)) :
    Closed (validateLifecycleResponse python members) := by
  refine .bind (strictObject_closed _ _ _ _) fun obj => .bind (identifier_closed _ _) fun kind => ?_
  refine .bind (versionAt_closed _ _ _) fun _ => .bind (identifier_closed _ _) fun requestId => ?_
  refine .ite ?_ (.ite ?_ (.reject _))
  · exact .bind (.refuseIf _ _) fun _ =>
      .bind (validateResponsePayload_closed python _ _ _) fun _ => .pure _
  · exact .bind (validateError_closed _ _) fun _ => .pure _

theorem compareEchoedIdentities_closed (kind : RequestKind) (requestPayload responsePayload : List (Str × Json)) :
    Closed (compareEchoedIdentities kind requestPayload responsePayload) :=
  .forM (fun _ => .refuseIf _ _) _

end Payloads

/-! ## Lines -/

theorem contract_not_remote : lit "ContractError" ≠ remoteErrorClass := by decide

theorem overflow_not_remote : lit "OverflowError" ≠ remoteErrorClass := by decide

theorem strictJsonLoads_class {limits : Limits} {raw : Bytes} {place : Str} {e : Raised}
    (h : strictJsonLoads limits raw place = .error e) : e.className ≠ remoteErrorClass := by
  unfold strictJsonLoads at h
  split at h
  · cases h
    exact contract_not_remote
  · split at h
    all_goals cases h
    all_goals first
      | exact contract_not_remote
      | exact (by decide : lit "ValueError" ≠ remoteErrorClass)
      | exact (by decide : lit "RuntimeError" ≠ remoteErrorClass)

theorem decodeJsonlLine_class {limits : Limits} {raw : Bytes} {maxBytes : Int} {place : Str} {e : Raised}
    (h : decodeJsonlLine limits raw maxBytes place = .error e) : e.className ≠ remoteErrorClass := by
  have hcontract : ∀ {α : Type} {text : Str} {e : Raised}, (reject text : Except Raised α) = .error e →
      e.className ≠ remoteErrorClass := by
    intro α text e he
    cases he
    exact contract_not_remote
  unfold decodeJsonlLine at h
  cases hinteger : integer (.int maxBytes) (lit "max_bytes") 1 maxInteger with
  | error error =>
    rw [hinteger] at h
    cases h
    rw [integer_closed _ _ _ _ _ hinteger]
    exact contract_not_remote
  | ok n =>
    rw [hinteger] at h
    simp only [bind, Except.bind] at h
    split_ifs at h
    · exact hcontract h
    · exact hcontract h
    · exact hcontract h
    · cases hloads : strictJsonLoads limits raw.dropLast place with
      | error error =>
        rw [hloads] at h
        cases h
        exact strictJsonLoads_class hloads
      | ok value =>
        rw [hloads] at h
        cases value with
        | obj members => cases h
        | _ => exact hcontract h

/-- A line raises something else than `ContractError` when it brings the parser to a long integer. -/
theorem decodeJsonlLine_raises {limits : Limits} {raw : Bytes} {maxBytes : Int} {place : Str} {e : Raised}
    (h : decodeJsonlLine limits raw maxBytes place = .error e) :
    e.className = lit "ContractError" ↔ ¬ MeetsLongInteger limits raw maxBytes place := by
  rw [← failsClosed_iff]
  constructor
  · intro hclass
    refine .inr ⟨e.text, ?_⟩
    rw [h, reject, ← hclass]
  · rintro (⟨members, hmembers⟩ | ⟨text, htext⟩)
    · cases h.symm.trans hmembers
    · cases h.symm.trans htext
      rfl

theorem not_meets_of_ok {limits : Limits} {raw : Bytes} {maxBytes : Int} {place : Str} {members : List (Str × Json)}
    (h : decodeJsonlLine limits raw maxBytes place = .ok members) : ¬ MeetsLongInteger limits raw maxBytes place :=
  (failsClosed_iff _ _ _ _).mp (.inl ⟨members, h⟩)

end TurnVector.CrossEngine.Lifecycle
