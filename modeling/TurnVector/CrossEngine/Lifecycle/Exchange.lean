import TurnVector.CrossEngine.Lifecycle.Closed

/-! # What one request can do

Whether a request is written, and what becomes of one that is. Every end but a registered error fails the client,
unless the request slips: its timeout is too long for the interpreter, or the line it takes brings the parser to a
long integer.
-/

namespace TurnVector.CrossEngine.Lifecycle

open Python Json Contracts Effects Action

/-! ## Clients -/

/-- A line was taken for the answer. -/
def Client.answeredBy (client : Client) (requestId : Str) : Client :=
  (client.answer requestId).note (.answered requestId)

/-- And the transition was made. -/
def Client.acceptedBy (client : Client) (kind : RequestKind) (requestId : Str) (next : LifecycleState) : Client :=
  ((client.answeredBy requestId).enter next).note (.accepted kind requestId)

/-- The same session, with any queue. -/
structure Tracks (client target : Client) : Prop where
  machine : client.machine = target.machine
  log : client.log = target.log

section Exchange

variable (python : Interpreter) (settings : Settings)

/-! ## Accepting -/

/-- A response that is valid for a request: of the kind that is due, and answering that request for the first time. -/
structure ValidAnswer (answered : List Str) (request : Request) (expected : ResponseKind) (members : List (Str × Json))
    (response : Response) : Prop where
  validated : validateLifecycleResponse python members = .ok response
  kind : response.kind = expected.text
  fresh : response.requestId ∉ answered
  echoes : response.requestId = request.requestId

/-- A valid response that says `ok` and echoes what the request named. -/
structure Accepts (answered : List Str) (request : Request) (expected : ResponseKind) (members : List (Str × Json))
    (payload : List (Str × Json)) : Prop where
  valid : ∃ response, ValidAnswer python answered request expected members response ∧ response.status = .ok payload
  echoed : compareEchoedIdentities request.kind request.payload payload = .ok ()

def RefusedWith (error : Raised) : Prop := error.className = lit "ContractError"

theorem contractError_refused (text : Str) : RefusedWith (contractError text) := rfl

theorem acceptResponse_meets (client : Client) (request : Request) (members : List (Str × Json))
    (expected : ResponseKind) (next : LifecycleState) :
    Meets (fun s => s = client) (acceptResponse python request members expected next)
      (fun payload s => Accepts python client.machine.responseIds request expected members payload ∧
        s = client.acceptedBy request.kind request.requestId next)
      (fun e s => s = client ∧ RefusedWith e ∨
        ∃ response, ValidAnswer python client.machine.responseIds request expected members response ∧
          s = client.answeredBy request.requestId ∧
          (RefusedWith e ∨ ∃ code message, response.status = .error code message ∧ e = remoteError code message)) := by
  refine Meets.get fun s hs => ?_
  subst hs
  -- Before the answer is recorded, a refusal leaves the client as it was.
  refine Meets.lift_bind (fun envelope _ => ?_) fun e he t ht => .inl ⟨ht, strictObject_closed _ _ _ _ e he⟩
  refine Meets.lift_bind (fun observed _ => ?_) fun e he t ht => .inl ⟨ht, identifier_closed _ _ e he⟩
  refine Meets.check_bind (fun _ t ht => .inl ⟨ht, contractError_refused _⟩) fun _ => ?_
  refine Meets.lift_bind (fun response hresponse => ?_)
    fun e he t ht => .inl ⟨ht, validateLifecycleResponse_closed python _ e he⟩
  refine Meets.check_bind (fun _ t ht => .inl ⟨ht, contractError_refused _⟩) fun _ => ?_
  refine Meets.check_bind (fun _ t ht => .inl ⟨ht, contractError_refused _⟩) fun hanswered => ?_
  refine Meets.check_bind (fun _ t ht => .inl ⟨ht, contractError_refused _⟩) fun hechoes => ?_
  refine Meets.check_bind (fun _ t ht => .inl ⟨ht, contractError_refused _⟩) fun hkind => ?_
  have hsame : response.requestId = request.requestId := not_not.mp hechoes
  have hvalid : ValidAnswer python s.machine.responseIds request expected members response :=
    ⟨hresponse, not_not.mp hkind, fun hmem => hanswered ((occurs_iff _ _).mpr hmem), hsame⟩
  refine Meets.modify_bind ?_
  rw [hsame]
  cases hstatus : response.status with
  | error code message =>
    refine Meets.throw ?_
    rintro t ⟨u, rfl, rfl⟩
    exact .inr ⟨response, hvalid, rfl, .inr ⟨code, message, hstatus, rfl⟩⟩
  | ok payload =>
    refine Meets.lift_bind (fun _ hecho => ?_) ?_
    · refine Meets.modify_bind (Meets.pure ?_)
      rintro t ⟨u, ⟨v, rfl, rfl⟩, rfl⟩
      exact ⟨⟨⟨response, hvalid, hstatus⟩, hecho⟩, rfl⟩
    · rintro e he t ⟨u, rfl, rfl⟩
      exact .inr ⟨response, hvalid, rfl, .inl (compareEchoedIdentities_closed _ _ _ e he)⟩

/-! ## Responding -/

def responsePlace : Str := lit "lifecycle response line"

/-- The ways in which the `try` around a response ends with an exception. -/
inductive Unaccepted (client : Client) (request : Request) (raw : Bytes) : Raised → Client → Prop
  | slipped (error : Raised) (hinteger : MeetsLongInteger python.limits raw settings.lineLimit responsePlace)
      (hremote : error.className ≠ remoteErrorClass) : Unaccepted client request raw error client
  | refused (error : Raised) (hinteger : ¬ MeetsLongInteger python.limits raw settings.lineLimit responsePlace)
      (hrefused : RefusedWith error) : Unaccepted client request raw error client.fail
  | unechoed (error : Raised) (hinteger : ¬ MeetsLongInteger python.limits raw settings.lineLimit responsePlace)
      (hfresh : request.requestId ∉ client.machine.responseIds) (hrefused : RefusedWith error) :
      Unaccepted client request raw error (client.answeredBy request.requestId).fail
  | remote (code message : Str)
      (hinteger : ¬ MeetsLongInteger python.limits raw settings.lineLimit responsePlace)
      (hfresh : request.requestId ∉ client.machine.responseIds) :
      Unaccepted client request raw (remoteError code message) (client.answeredBy request.requestId)

theorem respond_meets (client : Client) (request : Request) (raw : Bytes) (expected : ResponseKind)
    (next : LifecycleState) :
    Meets (fun s => s = client) (respond python settings request raw expected next)
      (fun payload s =>
        (∃ members, decodeJsonlLine python.limits raw settings.lineLimit responsePlace = .ok members ∧
          Accepts python client.machine.responseIds request expected members payload) ∧
        s = client.acceptedBy request.kind request.requestId next)
      (Unaccepted python settings client request raw) := by
  -- What the block itself ends with.
  let Blocked : Raised → Client → Prop := fun e s =>
    (MeetsLongInteger python.limits raw settings.lineLimit responsePlace ∧ s = client ∧ ¬ RefusedWith e ∧
      e.className ≠ remoteErrorClass) ∨
    ¬ MeetsLongInteger python.limits raw settings.lineLimit responsePlace ∧ (s = client ∧ RefusedWith e ∨
      request.requestId ∉ client.machine.responseIds ∧ s = client.answeredBy request.requestId ∧
        (RefusedWith e ∨ ∃ code message, e = remoteError code message))
  refine Meets.rescue (F := Blocked) ?_ fun e => ?_
  · refine Meets.lift_bind (fun members hmembers => ?_) fun e he s hs => ?_
    · refine (acceptResponse_meets python client request members expected next).weaken (fun s hs => hs)
        (fun payload s h => ⟨⟨members, hmembers, h.1⟩, h.2⟩) fun e s h => .inr ⟨not_meets_of_ok hmembers, ?_⟩
      rcases h with hrefused | ⟨response, hvalid, hs, hend⟩
      · exact .inl hrefused
      · refine .inr ⟨hvalid.echoes ▸ hvalid.fresh, hs, ?_⟩
        rcases hend with hrefused | ⟨code, message, -, hremote⟩
        · exact .inl hrefused
        · exact .inr ⟨code, message, hremote⟩
    · by_cases hinteger : MeetsLongInteger python.limits raw settings.lineLimit responsePlace
      · exact .inl ⟨hinteger, hs, fun hrefused => (decodeJsonlLine_raises he).mp hrefused hinteger,
          decodeJsonlLine_class he⟩
      · exact .inr ⟨hinteger, .inl ⟨hs, (decodeJsonlLine_raises he).mpr hinteger⟩⟩
  · by_cases hrefused : e.className = lit "ContractError"
    · rw [if_pos hrefused]
      refine Meets.modify_bind (Meets.throw ?_)
      rintro t ⟨s, hs, rfl⟩
      rcases hs with ⟨-, -, hnot, -⟩ | ⟨hinteger, ⟨rfl, -⟩ | ⟨hfresh, rfl, -⟩⟩
      · exact absurd hrefused hnot
      · exact .refused e hinteger hrefused
      · exact .unechoed e hinteger hfresh hrefused
    · rw [if_neg hrefused]
      refine Meets.throw fun s hs => ?_
      rcases hs with ⟨hinteger, rfl, -, hremote⟩ | ⟨hinteger, ⟨-, hcontract⟩ | ⟨hfresh, rfl, hend⟩⟩
      · exact .slipped e hinteger hremote
      · exact absurd hcontract hrefused
      · rcases hend with hcontract | ⟨code, message, rfl⟩
        · exact absurd hcontract hrefused
        · exact .remote code message hinteger hfresh

/-! ## Waiting -/

/-- The timeout is an integer that is no float. -/
def Overflows (timeout : Option WaitSeconds) : Prop := ∃ n, timeout = some (.int n) ∧ python.floatOf n = none

/-- The seconds of a timeout that is finite and positive. -/
def acceptedTimeout (kind : RequestKind) : Option WaitSeconds → Option ℚ
  | none => some (settings.timeouts kind)
  | some (.int n) => if n ≤ 0 then none else python.floatOf n
  | some (.float (.finite seconds)) => if seconds ≤ 0 then none else some seconds
  | some _ => none

/-- The request ends with an exception that does not fail the client. -/
inductive Slips (kind : RequestKind) (timeout : Option WaitSeconds) (responses : List Observed) : Prop
  | conversion (hoverflow : Overflows python timeout)
  | wait (seconds : ℚ) (hseconds : acceptedTimeout python settings kind timeout = some seconds)
      (hempty : responses = []) (hlong : python.timeoutMax < seconds)
  | integer (seconds : ℚ) (hseconds : acceptedTimeout python settings kind timeout = some seconds)
      (raw : Bytes) (rest : List Observed) (hline : responses = .line raw :: rest)
      (hinteger : MeetsLongInteger python.limits raw settings.lineLimit responsePlace)

theorem failClosed_meets {α : Type} (client : Client) (error : Raised) {Q : α → Client → Prop}
    {E : Raised → Client → Prop} (h : E error client.fail) :
    Meets (fun s => s = client) (failClosed error : Session α) Q E := by
  refine Meets.modify_bind (Meets.throw ?_)
  rintro t ⟨s, rfl, rfl⟩
  exact h

theorem waitSeconds_meets (client : Client) (kind : RequestKind) (timeout : Option WaitSeconds) :
    Meets (fun s => s = client) (waitSeconds python settings kind timeout)
      (fun seconds s => (acceptedTimeout python settings kind timeout = some seconds ∧ ¬ Overflows python timeout) ∧
        s = client)
      (fun e s => Overflows python timeout ∧ s = client ∧ e.className ≠ remoteErrorClass ∨
        ¬ Overflows python timeout ∧ acceptedTimeout python settings kind timeout = none ∧ s = client.fail ∧
          RefusedWith e) := by
  unfold waitSeconds
  cases timeout with
  | none => exact Meets.pure fun s hs => ⟨⟨rfl, nofun⟩, hs⟩
  | some wait =>
    cases wait with
    | int n =>
      cases hfloat : python.floatOf n with
      | none =>
        simp only [hfloat]
        exact Meets.throw fun s hs => .inl ⟨⟨n, rfl, hfloat⟩, hs, overflow_not_remote⟩
      | some seconds =>
        have hnot : ¬ Overflows python (some (.int n)) := by
          rintro ⟨m, hm, hnone⟩
          cases hm
          cases hfloat.symm.trans hnone
        simp only [hfloat]
        by_cases hn : n ≤ 0
        · rw [if_pos hn]
          exact failClosed_meets client _ (.inr ⟨hnot, if_pos hn, rfl, contractError_refused _⟩)
        · rw [if_neg hn]
          exact Meets.pure fun s hs => ⟨⟨(if_neg hn).trans hfloat, hnot⟩, hs⟩
    | float value =>
      have hnot : ¬ Overflows python (some (.float value)) := nofun
      cases value with
      | finite seconds =>
        by_cases hseconds : seconds ≤ 0
        · simp only [if_pos hseconds]
          exact failClosed_meets client _ (.inr ⟨hnot, if_pos hseconds, rfl, contractError_refused _⟩)
        · simp only [if_neg hseconds]
          exact Meets.pure fun s hs => ⟨⟨if_neg hseconds, hnot⟩, hs⟩
      | nan => exact failClosed_meets client _ (.inr ⟨hnot, rfl, rfl, contractError_refused _⟩)
      | infinite negative => exact failClosed_meets client _ (.inr ⟨hnot, rfl, rfl, contractError_refused _⟩)
    | other => exact failClosed_meets client _ (.inr ⟨nofun, rfl, rfl, contractError_refused _⟩)

theorem takeObserved_meets (client : Client) (kind : RequestKind) (seconds : ℚ) :
    Meets (fun s => s = client) (takeObserved python kind seconds)
      (fun observed s => (∃ rest, client.responses = observed :: rest) ∧ s = client.dequeue)
      (fun e s => client.responses = [] ∧ (python.timeoutMax < seconds ∧ s = client ∧ e.className ≠ remoteErrorClass ∨
        ¬ python.timeoutMax < seconds ∧ s = client.fail ∧ RefusedWith e)) := by
  refine Meets.get fun s hs => ?_
  subst hs
  cases hresponses : s.responses with
  | nil =>
    by_cases hlong : python.timeoutMax < seconds
    · rw [if_pos hlong]
      exact Meets.throw fun t ht => ⟨rfl, .inl ⟨hlong, ht, overflow_not_remote⟩⟩
    · rw [if_neg hlong]
      exact failClosed_meets s _ ⟨rfl, .inr ⟨hlong, rfl, contractError_refused _⟩⟩
  | cons observed rest =>
    refine Meets.modify_bind (Meets.pure ?_)
    rintro t ⟨u, rfl, rfl⟩
    exact ⟨⟨rest, rfl⟩, rfl⟩

/-- The process is checked after a response: the client fails with every exception. -/
theorem checkProcess_meets (client : Client) (next : LifecycleState) (outside : Outside) :
    Meets (fun s => s = client) (checkProcess settings next outside) (fun _ s => s = client)
      (fun e s => s = client.fail ∧ RefusedWith e) := by
  have hfail : ∀ (text : Str), Meets (fun s => s = client) (failClosed (contractError text) : Session Unit)
      (fun _ s => s = client) (fun e s => s = client.fail ∧ RefusedWith e) :=
    fun text => failClosed_meets client _ ⟨rfl, contractError_refused text⟩
  unfold checkProcess
  refine Meets.bind (Meets.onlyIf (fun _ => hfail _) fun _ s hs => hs) fun _ => ?_
  split
  · split
    · exact hfail _
    · refine Meets.bind (Meets.onlyIf (fun _ => hfail _) fun _ s hs => hs) fun _ => ?_
      exact Meets.onlyIf (fun _ => hfail _) fun _ s hs => hs
  · split
    · exact Meets.pure fun s hs => hs
    · exact Meets.onlyIf (fun _ => hfail _) fun _ s hs => hs

/-! ## What becomes of a request that is written -/

/-- The ends of a request, from the client that has written it. -/
inductive Reply (client : Client) (request : Request) (expected : ResponseKind) (next : LifecycleState)
    (timeout : Option WaitSeconds) : Except Raised (List (Str × Json)) → Client → Prop
  | slipped (error : Raised) (client' : Client)
      (hslips : Slips python settings request.kind timeout client.responses)
      (hremote : error.className ≠ remoteErrorClass) (htracks : Tracks client' client)
      (hfailed : client'.failed = client.failed) : Reply client request expected next timeout (.error error) client'
  | failed (error : Raised) (client' : Client)
      (hslips : ¬ Slips python settings request.kind timeout client.responses)
      (hremote : error.className ≠ remoteErrorClass) (htracks : Tracks client' client)
      (hfailed : client'.failed = true) : Reply client request expected next timeout (.error error) client'
  | unechoed (error : Raised) (client' : Client)
      (hslips : ¬ Slips python settings request.kind timeout client.responses)
      (hremote : error.className ≠ remoteErrorClass) (hfresh : request.requestId ∉ client.machine.responseIds)
      (htracks : Tracks client' (client.answeredBy request.requestId)) (hfailed : client'.failed = true) :
      Reply client request expected next timeout (.error error) client'
  | remote (code message : Str) (client' : Client)
      (hslips : ¬ Slips python settings request.kind timeout client.responses)
      (hfresh : request.requestId ∉ client.machine.responseIds)
      (htracks : Tracks client' (client.answeredBy request.requestId)) (hfailed : client'.failed = client.failed) :
      Reply client request expected next timeout (.error (remoteError code message)) client'
  | accepted (raw : Bytes) (rest : List Observed) (members payload : List (Str × Json)) (client' : Client)
      (out : Except Raised (List (Str × Json)))
      (hslips : ¬ Slips python settings request.kind timeout client.responses)
      (hline : client.responses = .line raw :: rest)
      (hdecoded : decodeJsonlLine python.limits raw settings.lineLimit responsePlace = .ok members)
      (haccepts : Accepts python client.machine.responseIds request expected members payload)
      (htracks : Tracks client' (client.acceptedBy request.kind request.requestId next))
      (hout : out = .ok payload ∧ client'.failed = client.failed ∨
        ∃ error, out = .error error ∧ error.className ≠ remoteErrorClass ∧ client'.failed = true) :
      Reply client request expected next timeout out client'

variable {python settings}

/-- A request that takes a line slips only for its long integer. -/
theorem slips_line_iff {kind : RequestKind} {timeout : Option WaitSeconds} {raw : Bytes} {rest : List Observed}
    {seconds : ℚ} (hseconds : acceptedTimeout python settings kind timeout = some seconds)
    (hoverflow : ¬ Overflows python timeout) :
    Slips python settings kind timeout (.line raw :: rest) ↔
      MeetsLongInteger python.limits raw settings.lineLimit responsePlace := by
  constructor
  · intro h
    cases h with
    | conversion h => exact absurd h hoverflow
    | wait _ _ hempty _ => cases hempty
    | integer _ _ _ _ hline hinteger =>
      cases hline
      exact hinteger
  · exact fun h => .integer seconds hseconds raw rest rfl h

/-- An end of the `try` around a response, as an end of the request. -/
theorem Unaccepted.reply {client : Client} {request : Request} {expected : ResponseKind} {next : LifecycleState}
    {timeout : Option WaitSeconds} {raw : Bytes} {rest : List Observed} {seconds : ℚ} {error : Raised}
    {client' : Client} (hline : client.responses = .line raw :: rest)
    (hseconds : acceptedTimeout python settings request.kind timeout = some seconds)
    (hoverflow : ¬ Overflows python timeout)
    (h : Unaccepted python settings client.dequeue request raw error client') :
    Reply python settings client request expected next timeout (.error error) client' := by
  have hslips : Slips python settings request.kind timeout client.responses ↔ _ :=
    hline ▸ slips_line_iff hseconds hoverflow
  cases h with
  | slipped _ hinteger hremote => exact .slipped error _ (hslips.mpr hinteger) hremote ⟨rfl, rfl⟩ rfl
  | refused _ hinteger hrefused =>
    exact .failed error _ (fun h => hinteger (hslips.mp h)) (hrefused ▸ contract_not_remote) ⟨rfl, rfl⟩ rfl
  | unechoed _ hinteger hfresh hrefused =>
    exact .unechoed error _ (fun h => hinteger (hslips.mp h)) (hrefused ▸ contract_not_remote) hfresh ⟨rfl, rfl⟩ rfl
  | remote code message hinteger hfresh =>
    exact .remote code message _ (fun h => hinteger (hslips.mp h)) hfresh ⟨rfl, rfl⟩ rfl

theorem awaitResponse_reply (client : Client) (request : Request) (expected : ResponseKind) (next : LifecycleState)
    (timeout : Option WaitSeconds) (outside : Outside) :
    Meets (fun s => s = client) (awaitResponse python settings request expected next timeout outside)
      (fun payload s => Reply python settings client request expected next timeout (.ok payload) s)
      (fun e s => Reply python settings client request expected next timeout (.error e) s) := by
  refine Meets.bind ((waitSeconds_meets python settings client request.kind timeout).error ?_)
    fun seconds => Meets.given fun ⟨hseconds, hoverflow⟩ => ?_
  · rintro e s (⟨hoverflow, rfl, hremote⟩ | ⟨hoverflow, hnone, rfl, hrefused⟩)
    · exact .slipped e _ (.conversion hoverflow) hremote ⟨rfl, rfl⟩ rfl
    · refine .failed e _ ?_ (hrefused ▸ contract_not_remote) ⟨rfl, rfl⟩ rfl
      rintro (h | ⟨_, hseconds, -, -⟩ | ⟨_, hseconds, _, _, -, -⟩)
      · exact hoverflow h
      · cases hnone.symm.trans hseconds
      · cases hnone.symm.trans hseconds
  refine Meets.bind ((takeObserved_meets python client request.kind seconds).error ?_)
    fun observed => Meets.given fun ⟨rest, hresponses⟩ => ?_
  · rintro e s ⟨hempty, ⟨hlong, rfl, hremote⟩ | ⟨hlong, rfl, hrefused⟩⟩
    · exact .slipped e _ (.wait seconds hseconds hempty hlong) hremote ⟨rfl, rfl⟩ rfl
    · refine .failed e _ ?_ (hrefused ▸ contract_not_remote) ⟨rfl, rfl⟩ rfl
      rintro (h | ⟨other, hother, -, h⟩ | ⟨_, _, raw, rest, hline, -⟩)
      · exact hoverflow h
      · rw [hseconds] at hother
        cases hother
        exact hlong h
      · cases hempty.symm.trans hline
  -- What is no line fails the client.
  have hfail : ∀ (text : Str), (∀ raw, observed ≠ .line raw) →
      Meets (fun s => s = client.dequeue) (failClosed (contractError text) : Session (List (Str × Json)))
        (fun payload s => Reply python settings client request expected next timeout (.ok payload) s)
        (fun e s => Reply python settings client request expected next timeout (.error e) s) := by
    intro text hother
    refine failClosed_meets client.dequeue _ (.failed _ _ ?_ contract_not_remote ⟨rfl, rfl⟩ rfl)
    rintro (h | ⟨_, -, hempty, -⟩ | ⟨_, _, raw, rest, hline, -⟩)
    · exact hoverflow h
    · cases hresponses.symm.trans hempty
    · cases hresponses.symm.trans hline
      exact hother raw rfl
  cases observed with
  | eof => exact hfail _ nofun
  | failed text => exact hfail _ nofun
  | line raw =>
    refine Meets.bind ((respond_meets python settings client.dequeue request raw expected next).error
        fun e s h => h.reply hresponses hseconds hoverflow)
      fun payload => Meets.given fun ⟨members, hdecoded, haccepts⟩ => ?_
    have hslips : ¬ Slips python settings request.kind timeout client.responses := by
      rw [hresponses, slips_line_iff hseconds hoverflow]
      exact not_meets_of_ok hdecoded
    refine Meets.bind ((checkProcess_meets settings _ next outside).error ?_) fun _ => Meets.pure ?_
    · rintro e s ⟨rfl, hrefused⟩
      exact .accepted raw rest members payload _ _ hslips hresponses hdecoded haccepts ⟨rfl, rfl⟩
        (.inr ⟨e, rfl, hrefused ▸ contract_not_remote, rfl⟩)
    · rintro s rfl
      exact .accepted raw rest members payload _ _ hslips hresponses hdecoded haccepts ⟨rfl, rfl⟩ (.inl ⟨rfl, rfl⟩)

/-! ## Whether a request is written -/

theorem requestKind_text {text : Str} {kind : RequestKind} (h : requestKind text = some kind) : kind.text = text :=
  of_decide_eq_true (List.find?_some (p := fun kind : RequestKind => decide (kind.text = text)) h)

/-- A request that was built is the dict of what it was built from. -/
theorem lifecycleRequest_asDict {kind requestId : Str} {payload : List (Str × Json)} {request : Request}
    (h : lifecycleRequest python kind requestId payload = .ok request) :
    request.asDict = envelope kind requestId payload := by
  unfold lifecycleRequest validateLifecycleRequest at h
  simp only [bind_ok_iff] at h
  obtain ⟨obj, hobj, readKind, hkind, -, -, readId, hid, ⟨known, read⟩, hread, h⟩ := h
  cases h
  cases strictObject_ok hobj
  have hkind := identifier_text hkind
  have hid := identifier_text hid
  unfold validateRequestPayload at hread
  split at hread
  · cases hread
  · rename_i found hfound
    simp only [bind_ok_iff] at hread
    obtain ⟨read', hread', -, -, hread⟩ := hread
    cases hread
    have hpayload := strictObject_ok hread'
    have hfields : member [(lit "kind", .str kind), (lit "protocol_version", .str protocolVersion),
        (lit "request_id", .str requestId), (lit "payload", .obj payload)] "payload" = .obj payload := rfl
    rw [hfields] at hpayload
    cases hpayload
    cases hkind
    cases hid
    rw [Request.asDict, requestKind_text hfound]

/-- The checks of a request pass, up to its writing. -/
structure Writes (python : Interpreter) (settings : Settings) (client : Client) (call : Call) (request : Request)
    (expected : ResponseKind) (next : LifecycleState) (raw : Bytes) : Prop where
  alive : client.failed = false
  built : lifecycleRequest python call.kind (currentId call.requestId (client.sequence + 1)) call.payload =
    .ok request
  fresh : request.requestId ∉ client.machine.requestIds
  transition : transitions client.machine.state request.kind = some (expected, next)
  encoded : encodeRequest python settings request = .ok raw

/-- The client that has written a request. -/
def Client.written (client : Client) (request : Request) (raw : Bytes) : Client :=
  (client.count.register request.requestId).note (.sent request raw)

/-- A request that is not written can only add its id. -/
structure Unsent (client client' : Client) : Prop where
  log : client'.log = client.log
  state : client'.machine.state = client.machine.state
  responseIds : client'.machine.responseIds = client.machine.responseIds
  requestIds : client'.machine.requestIds = client.machine.requestIds ∨
    ∃ requestId ∉ client.machine.requestIds,
      client'.machine.requestIds = client.machine.requestIds ++ [requestId]
  failed : client'.failed = client.failed

/-- All that a request can do. -/
inductive Requested (python : Interpreter) (settings : Settings) (client : Client) (call : Call) (outside : Outside) :
    Except Raised (List (Str × Json)) → Client → Prop
  | unsent (error : Raised) (client' : Client)
      (hwrites : ∀ request expected next raw, ¬ Writes python settings client call request expected next raw)
      (hunsent : Unsent client client') :
      Requested python settings client call outside (.error error) client'
  | closed (error : Raised) (client' : Client) (request : Request) (expected : ResponseKind) (next : LifecycleState)
      (raw : Bytes) (hwrites : Writes python settings client call request expected next raw)
      (houtside : outside.writes = false) (hremote : error.className ≠ remoteErrorClass)
      (htracks : Tracks client' (client.written request raw)) (hfailed : client'.failed = true) :
      Requested python settings client call outside (.error error) client'
  | replied (request : Request) (expected : ResponseKind) (next : LifecycleState) (raw : Bytes)
      (out : Except Raised (List (Str × Json))) (client' : Client)
      (hwrites : Writes python settings client call request expected next raw) (houtside : outside.writes = true)
      (hreply : Reply python settings (client.written request raw) request expected next call.timeout out client') :
      Requested python settings client call outside out client'

theorem expectedResponse_meets {request : Request}
    (hrequest : validateLifecycleRequest python request.asDict = .ok request) (client : Client) :
    Meets (fun s => s = client) (expectedResponse python request)
      (fun expected s => (request.requestId ∉ client.machine.requestIds ∧
        transitions client.machine.state request.kind = some expected) ∧ s = client.register request.requestId)
      (fun _ s => s = client ∧
        (request.requestId ∈ client.machine.requestIds ∨ transitions client.machine.state request.kind = none)) := by
  refine Meets.lift_bind (fun validated hvalidated => ?_) fun e he => nomatch hrequest.symm.trans he
  cases hrequest.symm.trans hvalidated
  refine Meets.get fun s hs => ?_
  subst hs
  refine Meets.check_bind (fun hknown t ht => ⟨ht, .inl ((occurs_iff _ _).mp hknown)⟩) fun hknown => ?_
  cases htransition : transitions s.machine.state request.kind with
  | none => exact Meets.throw fun t ht => ⟨ht, .inr rfl⟩
  | some expected =>
    refine Meets.modify_bind (Meets.pure ?_)
    rintro t ⟨u, rfl, rfl⟩
    exact ⟨⟨fun hmem => hknown ((occurs_iff _ _).mpr hmem), rfl⟩, rfl⟩

theorem transitions_terminated (kind : RequestKind) : transitions .terminated kind = none := by cases kind <;> rfl

variable (python settings) in
theorem request_requested (client : Client) (call : Call) (outside : Outside) :
    Meets (fun s => s = client) (request python settings call outside)
      (fun payload s => Requested python settings client call outside (.ok payload) s)
      (fun e s => Requested python settings client call outside (.error e) s) := by
  refine Meets.get fun s hs => ?_
  subst hs
  have hsame : (∀ request expected next raw, ¬ Writes python settings s call request expected next raw) →
      ∀ e t, t = s → Requested python settings s call outside (.error e) t := by
    rintro hwrites e t rfl
    exact .unsent e _ hwrites ⟨rfl, rfl, rfl, .inl rfl, rfl⟩
  have hcounted : (∀ request expected next raw, ¬ Writes python settings s call request expected next raw) →
      ∀ e t, (∃ u, u = s ∧ t = u.count) → Requested python settings s call outside (.error e) t := by
    rintro hwrites e t ⟨u, rfl, rfl⟩
    exact .unsent e _ hwrites ⟨rfl, rfl, rfl, .inl rfl, rfl⟩
  refine Meets.check_bind (fun hfailed => hsame (fun _ _ _ _ h => ?_) _) fun halive => ?_
  · exact Bool.false_ne_true (h.alive.symm.trans hfailed)
  refine Meets.check_bind (fun hterminated => hsame (fun _ _ _ _ h => ?_) _) fun _ => Meets.modify_bind ?_
  · cases (hterminated ▸ transitions_terminated _).symm.trans h.transition
  refine Meets.lift_bind (fun request hrequest => ?_)
    fun e he => hcounted (fun _ _ _ _ h => nomatch he.symm.trans h.built) e
  have hvalidated : validateLifecycleRequest python request.asDict = .ok request := by
    rw [lifecycleRequest_asDict hrequest]
    exact hrequest
  have hbuilt : ∀ {other expected next raw}, Writes python settings s call other expected next raw → other = request :=
    fun h => Except.ok.inj (h.built.symm.trans hrequest)
  have hexpected := (expectedResponse_meets hvalidated s.count).weaken
    (fun t (ht : ∃ u, u = s ∧ t = u.count) => by obtain ⟨u, rfl, rfl⟩ := ht; rfl) (fun _ _ h => h)
    fun e t ⟨ht, hrefused⟩ => hcounted (fun _ _ _ _ h => by
      cases hbuilt h
      rcases hrefused with hknown | hnone
      · exact h.fresh hknown
      · cases hnone.symm.trans h.transition) e t ⟨s, rfl, ht⟩
  refine Meets.bind hexpected fun expected => Meets.given fun ⟨hfresh, htransition⟩ => ?_
  refine Meets.lift_bind (fun raw hraw => ?_) fun e he t ht => ?_
  · have hwrites : Writes python settings s call request expected.1 expected.2 raw :=
      ⟨Bool.eq_false_iff.mpr halive, hrequest, hfresh, htransition, hraw⟩
    have hwrite : Meets (fun t => t = s.count.register request.requestId) (writeRequest request raw outside)
        (fun _ t => outside.writes = true ∧ t = s.written request raw)
        (fun e t => Requested python settings s call outside (.error e) t) := by
      unfold writeRequest
      refine Meets.modify_bind ?_
      by_cases houtside : outside.writes = false
      · refine Meets.onlyIf (fun _ => ?_) fun h => absurd houtside h
        refine Meets.modify_bind (Meets.throw ?_)
        rintro t ⟨u, ⟨v, rfl, rfl⟩, rfl⟩
        exact .closed _ _ request expected.1 expected.2 raw hwrites houtside contract_not_remote ⟨rfl, rfl⟩ rfl
      · refine Meets.onlyIf (fun h => absurd h houtside) ?_
        rintro - t ⟨u, rfl, rfl⟩
        exact ⟨Bool.not_eq_false _ ▸ houtside, rfl⟩
    refine Meets.bind hwrite fun _ => Meets.given fun houtside => ?_
    exact (awaitResponse_reply (s.written request raw) request expected.1 expected.2 call.timeout outside).weaken
      (fun t ht => ht) (fun payload t h => .replied request _ _ raw _ t hwrites houtside h)
      fun e t h => .replied request _ _ raw _ t hwrites houtside h
  · refine .unsent e _ (fun _ _ _ _ h => ?_) (ht ▸ ⟨rfl, rfl, rfl, .inr ⟨request.requestId, hfresh, rfl⟩, rfl⟩)
    cases hbuilt h
    cases he.symm.trans h.encoded

end Exchange

end TurnVector.CrossEngine.Lifecycle
