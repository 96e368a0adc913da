import Jobflow.Proofs.Session.Renewal

/-!
# What a session puts on record

The world keeps the requests that were sent. What a session sends comes on record in order, and
a renewal puts nothing on record but logins. These go to the URL of the server itself, and all
other requests to a path below it, so that the requests for a draft can be told from logins.
-/

namespace Jobflow

/-- Whether a request is one for a draft of a session. Logins are not: their URL is that of the
server alone. -/
def Draft.isSource (draft : Draft) (session : Session) (request : Request) : Bool :=
  request.url == draft.url session

/-- A request that asks to log in at a URL: its form says so, and no file goes with it. -/
structure Request.IsLogin (request : Request) (url : String) : Prop where
  /-- It goes to the URL itself. -/
  url : request.url = url
  /-- It carries no file. -/
  noFile : request.file = none
  /-- Its form says what it is for. -/
  action : (request.data.getD []).lookup "action" = some (.text "login")

namespace Session

open Call

/-- The request of a login is one. -/
theorem isLogin_loginRequest (session : Session) (password : String) :
    (session.loginRequest password).IsLogin session.url :=
  ⟨rfl, rfl, rfl⟩

/-- What a client sends is on record. -/
theorem requests_send (request : Request) (client : Client) :
    (send request client).2.world.requests = client.world.requests ++ [request] := by
  show (act (Action.send request) client).2.world.requests = _
  rw [act, Action.send_apply]

/-- From an earlier to a later client, requests of a kind come on record. -/
def Adds (kind : Request → Prop) (before after : Client) : Prop :=
  ∃ sent, after.world.requests = before.world.requests ++ sent ∧ ∀ request ∈ sent, kind request

/-- Nothing at all may come on record. -/
theorem Adds.of_same {kind : Request → Prop} {before after : Client}
    (requests : after.world.requests = before.world.requests) : Adds kind before after :=
  ⟨[], by rw [requests, List.append_nil], fun _ member => by cases member⟩

/-- Requests of a kind come on record in several steps. -/
theorem Adds.trans {kind : Request → Prop} {first second third : Client}
    (before : Adds kind first second) (after : Adds kind second third) :
    Adds kind first third := by
  obtain ⟨sent, recorded, each⟩ := before
  obtain ⟨others, later, eachOther⟩ := after
  refine ⟨sent ++ others, by rw [later, recorded, List.append_assoc], ?_⟩
  exact List.forall_mem_append.mpr ⟨each, eachOther⟩

/-- From an earlier to a later client, nothing but logins comes on record. -/
def LoginsOnly (before after : Client) : Prop :=
  after.session.url = before.session.url ∧
    ∃ logins, after.world.requests = before.world.requests ++ logins ∧
      ∀ request ∈ logins, request.IsLogin before.session.url

/-- Nothing at all may come on record. -/
theorem LoginsOnly.of_same {before after : Client} (url : after.session.url = before.session.url)
    (requests : after.world.requests = before.world.requests) : LoginsOnly before after :=
  ⟨url, Adds.of_same requests⟩

/-- Nothing but logins comes on record in several steps. -/
theorem LoginsOnly.trans {first second third : Client} (before : LoginsOnly first second)
    (after : LoginsOnly second third) : LoginsOnly first third := by
  obtain ⟨sameUrl, logins⟩ := before
  obtain ⟨laterUrl, others⟩ := after
  exact ⟨laterUrl.trans sameUrl, Adds.trans logins (sameUrl ▸ others)⟩

/-- What sends nothing puts nothing on record. -/
theorem quietFrame_loginsOnly : QuietFrame LoginsOnly where
  refl _ := .of_same rfl rfl
  trans before after := before.trans after
  logged _ _ := .of_same rfl rfl
  prompted _ _ := .of_same rfl rfl

/-- Trying a password puts a login on record. -/
theorem loginsOnly_tryPassword (password : String) : (tryPassword password).Within LoginsOnly := by
  intro client
  rw [tryPassword, bind_of_ok _ (session_apply client)]
  have sent : LoginsOnly client (send (client.session.loginRequest password) client).2 :=
    ⟨congrArg Session.url (frame_session.within_send _ client),
      [client.session.loginRequest password], requests_send _ client, fun _ member => by
        rw [List.mem_singleton.mp member]
        exact isLogin_loginRequest client.session password⟩
  rcases run : send (client.session.loginRequest password) client with ⟨fault | response, after⟩
  · rw [run] at sent
    rw [bind_of_error _ run]
    exact sent
  · rw [run] at sent
    rw [bind_of_ok _ run, act_ofLogged]
    exact sent.trans (.of_same rfl rfl)

/-- Keeping an id puts nothing on record. -/
theorem loginsOnly_keepId : keepId.Within LoginsOnly := by
  apply quietFrame_loginsOnly.within_bind quietFrame_loginsOnly.within_session
  intro session
  cases session.settings with
  | none => exact quietFrame_loginsOnly.within_pure ()
  | some file =>
    refine quietFrame_loginsOnly.within_bind (fun _ => .of_same rfl rfl) fun _ client => ?_
    rw [act, SettingsFile.save, Action.write_apply]
    cases client.world.tree.write client.world.folder _ _ <;> exact .of_same rfl rfl

/-- The steps of a login put nothing but logins on record. -/
theorem renewalFrame_loginsOnly : RenewalFrame LoginsOnly where
  toQuietFrame := quietFrame_loginsOnly
  tried := loginsOnly_tryPassword
  renewed _ _ := .of_same rfl rfl
  idKept := loginsOnly_keepId

/-- A renewal puts logins on record. -/
theorem loginsOnly_renew (expired : Value) : (renew expired).Within LoginsOnly :=
  renewalFrame_loginsOnly.within_renew expired

/-- A login is no request for a draft. -/
theorem isSource_of_login (draft : Draft) (session : Session) (request : Request)
    (login : request.url = session.url) : draft.isSource session request = false := by
  have longer : session.url ≠ draft.url session := by
    intro same
    have lengths := congrArg String.length same
    rw [Draft.url, String.length_append, String.length_append] at lengths
    have slash : "/".length = 1 := rfl
    omega
  rw [Draft.isSource, login]
  exact beq_eq_false_iff_ne.mpr longer

/-- Logins leave the requests for a draft that are on record. -/
theorem LoginsOnly.sources {before after : Client} (only : LoginsOnly before after) (draft : Draft)
    (session : Session) (url : before.session.url = session.url) :
    after.world.requests.filter (draft.isSource session) =
      before.world.requests.filter (draft.isSource session) := by
  obtain ⟨-, logins, recorded, each⟩ := only
  have none : logins.filter (draft.isSource session) = [] := by
    apply List.filter_eq_nil_iff.mpr
    intro request member
    rw [isSource_of_login draft session request ((each request member).url.trans url)]
    exact Bool.false_ne_true
  rw [recorded, List.filter_append, none, List.append_nil]

end Session

end Jobflow
