import Jobflow.Proofs.Session.Course
import Jobflow.Proofs.Session.Saved

/-!
# The first request of a new session

A new session starts with the id that its settings keep for it, if any. That decides how its first
request begins: without an id the session logs in, and the draft is then sent with the new id and
with all renewals that it permits. An id that is kept goes out at once, before any login, and this
includes an empty one. An empty id counts as none, but the renewal that is to replace it takes it
for an id that has been renewed already, so that the server has to reject it first, which
costs one of the renewals.
-/

namespace Jobflow.Session

open Call

variable {draft : Draft} {client : Client}

/-- How a client's request begins by the id that is kept for it, who sends the draft, what that
comes to and which client is left. -/
inductive Opening (draft : Draft) (client : Client) :
    Option String → List Client → Except Fault Response → Client → Prop
  /-- No id is kept. The client logs in; the draft is then sent with the id that the server issued,
  and with all renewals that it permits. -/
  | loggedIn {first asked left : Client} {senders : List Client} {answer id : Value}
    {result : Except Fault Response} (login : login none client = (.ok (), first))
    (answered : loginAnswer client.session.password client.session.attempts.toNat client =
      (.ok answer, asked))
    (issued : idIn answer = .ok id)
    (carried : draft.placement ≠ .nowhere →
      (draft.sentBy first).carried? draft.placement = some id)
    (turns : Turns draft draft.retries.toNat (first :: senders) result left) :
    Opening draft client none (first :: senders) result left
  /-- No id is kept and the client fails to log in, which ends the request before it is sent. -/
  | refused {fault : Fault} {left : Client} (login : login none client = (.error fault, left)) :
    Opening draft client none [] (.error fault) left
  /-- An id is kept, empty or not. The draft is sent with this id before any other request, with all
  renewals that it permits. -/
  | atOnce {id : String} {first left : Client} {senders : List Client}
    {result : Except Fault Response} (session : first.session = client.session)
    (requests : first.world.requests = client.world.requests)
    (carried : draft.placement ≠ .nowhere →
      (draft.sentBy first).carried? draft.placement = some (.text id))
    (turns : Turns draft draft.retries.toNat (first :: senders) result left) :
    Opening draft client (some id) (first :: senders) result left

/-- A login that succeeds takes over the id that the server issued. -/
theorem issued_of_login {first : Client} (login : login none client = (.ok (), first)) :
    ∃ answer asked, loginAnswer client.session.password client.session.attempts.toNat client =
      (.ok answer, asked) ∧ idIn answer = .ok first.session.id := by
  rw [Session.login, bind_of_ok _ (session_apply client), loginWith_eq] at login
  obtain ⟨answer, asked, answered, taken⟩ := exists_of_bind_ok login
  exact ⟨answer, asked, answered, issued_of_takeId taken⟩

/-- Without an id, a renewal logs in. -/
theorem renew_null_of_null (missing : client.session.id = .null) :
    renew .null client = login none client := by
  rw [renew, bind_of_ok _ (session_apply client), missing]
  rfl

/-- An id that is a text has been renewed already, even if it is empty. -/
theorem renew_null_of_text {id : String} (held : client.session.id = .text id) :
    ∃ entries, renew .null client = (.ok (), client.logged entries) := by
  rw [renew, bind_of_ok _ (session_apply client), held]
  exact exists_log_apply .debug "Session already renewed." [] client

/-- The sendings of a draft come on record, besides logins and earlier requests. -/
def Recorded (draft : Draft) (client : Client) (senders : List Client) (left : Client) : Prop :=
  left.world.requests.filter (draft.isSource client.session) =
    client.world.requests.filter (draft.isSource client.session) ++ senders.map draft.sentBy

/-- What turns put on record, after nothing but logins. -/
theorem recorded_of_turns {first left : Client} {senders : List Client}
    {result : Except Fault Response} {renewals : Nat} (only : LoginsOnly client first)
    (turns : Turns draft renewals (first :: senders) result left) :
    Recorded draft client (first :: senders) left := by
  have url : ∀ sender ∈ (first :: senders).head?, sender.session.url = client.session.url := by
    rintro sender ⟨⟩
    exact only.1
  have recorded := turns.recorded url first rfl
  rw [only.sources draft client.session rfl] at recorded
  exact recorded

/-- The request of a client begins by the id that is kept for it. -/
theorem exists_opening (draft : Draft) {cached : Option String}
    (held : client.session.id = Value.ofOption (cached.map .text)) :
    ∃ senders, Opening draft client cached senders (request draft client).1 (request draft client).2 ∧
      Recorded draft client senders (request draft client).2 := by
  -- The id goes out with the first sending, by a client that has done nothing but log.
  have atOnce (id : String) (text : client.session.id = .text id) (entries : Log) :
      ∃ senders, Opening draft client (some id) senders
          (Stage.sending draft draft.retries.toNat (client.logged entries)).1
          (Stage.sending draft draft.retries.toNat (client.logged entries)).2 ∧
        Recorded draft client senders
          (Stage.sending draft draft.retries.toNat (client.logged entries)).2 := by
    obtain ⟨senders, turns⟩ := exists_turns draft draft.retries.toNat (client.logged entries)
    have carried (placed : draft.placement ≠ .nowhere) :
        (draft.sentBy (client.logged entries)).carried? draft.placement = some (.text id) := by
      rw [← text]
      exact carried?_request draft _ _ placed
    exact ⟨client.logged entries :: senders, .atOnce rfl rfl carried turns,
      recorded_of_turns (.of_same rfl rfl) turns⟩
  cases cached with
  | none =>
    have missing : client.session.id = .null := held
    have only := loginsOnly_renew .null client
    rw [request_of_untruthy (by rw [missing]; rfl)]
    rcases login : Session.login none client with ⟨fault | ⟨⟩, first⟩
    · rw [renew_null_of_null missing, login] at only
      rw [bind_of_error _ ((renew_null_of_null missing).trans login)]
      refine ⟨[], .refused login, ?_⟩
      rw [Recorded, only.sources draft client.session rfl]
      exact (List.append_nil _).symm
    · rw [renew_null_of_null missing, login] at only
      rw [bind_of_ok _ ((renew_null_of_null missing).trans login)]
      obtain ⟨senders, turns⟩ := exists_turns draft draft.retries.toNat first
      obtain ⟨answer, asked, answered, issued⟩ := issued_of_login login
      exact ⟨_, .loggedIn login answered issued (carried?_request draft _ _) turns,
        recorded_of_turns only turns⟩
  | some id =>
    have text : client.session.id = .text id := held
    cases known : client.session.id.truthy with
    | true =>
      have unlogged : client.logged [] = client := by
        rw [Client.logged, List.append_nil]
      have sent := atOnce id text []
      rw [unlogged] at sent
      rw [request_of_truthy known]
      exact sent
    | false =>
      obtain ⟨entries, renewed⟩ := renew_null_of_text text
      rw [request_of_untruthy known, bind_of_ok _ renewed]
      exact atOnce id text entries

/-- The first request of a session that starts with the settings in a file: if no id is kept in
them it logs in first, and the draft is then sent with the id that the server issued and with all
renewals. If an id is kept, empty or not, the draft goes out with this id before any login. -/
theorem opening_of_new_session {path : Option String} {world : World} {file : SettingsFile}
    {url : String} {options : SessionOptions} {session : Session} (draft : Draft)
    (loaded : SettingsFile.load path world = (.ok file, world))
    (started : Session.ofUrl url (some file) options world = (.ok session, world)) :
    ∃ cached : Option String,
      file.settings.get? idSection session.idOption = cached.map .text ∧
        ∃ senders,
          Opening draft ⟨session, world⟩ cached senders (request draft ⟨session, world⟩).1
              (request draft ⟨session, world⟩).2 ∧
            Recorded draft ⟨session, world⟩ senders (request draft ⟨session, world⟩).2 := by
  obtain ⟨cached, kept⟩ : ∃ cached : Option String,
      file.settings.get? idSection session.idOption = cached.map .text := by
    cases found : file.settings.get? idSection session.idOption with
    | none => exact ⟨none, rfl⟩
    | some value =>
      obtain ⟨id, same, -⟩ := (SettingsFile.allWritable_of_load loaded).exists_text found
      exact ⟨some id, congrArg some same⟩
  refine ⟨cached, kept, exists_opening draft ?_⟩
  rw [Session.ofUrl_apply] at started
  cases parsed : Server.Address.ofUrl url with
  | error fault =>
    rw [parsed] at started
    cases started
  | ok address =>
    rw [parsed] at started
    obtain rfl := Except.ok.inj (congrArg Prod.fst started)
    exact congrArg Value.ofOption kept

/-- Settings of a user on a server that gives the id `abc` to whoever logs in, accepts this id in a
form field, and serves its login page to an empty one. -/
def gated (settings : String) : World where
  folder := "/"
  tree := { files := .ofList [("/settings", .text settings)] }
  server :=
    [{ conditions := [("action", "login")]
       replies := [.answer 200 (.text "OK") none "\x7b\"session.id\": \"abc\"\x7d"] },
     { conditions := [("session.id", "abc")]
       replies := [.answer 200 (.text "OK") none "ready"] },
     { conditions := [("session.id", "")]
       replies := [.answer 200 (.text "OK") none "<!-- /.login -->"] }]

/-- A draft that is sent only once. -/
def single : Draft where
  method := "POST"
  endpoint := "manager"
  placement := .formField
  retries := 0

/-- Without an id in the settings, the user logs in first. -/
theorem gated_logsIn :
    ∃ file session, SettingsFile.load (some "settings") (gated "[session_id]\n") =
        (.ok file, gated "[session_id]\n") ∧
      Session.ofUrl "http://me:pw@server" (some file) {} (gated "[session_id]\n") =
        (.ok session, gated "[session_id]\n") ∧
      ∃ senders,
        Opening single ⟨session, gated "[session_id]\n"⟩ none senders
            (request single ⟨session, gated "[session_id]\n"⟩).1
            (request single ⟨session, gated "[session_id]\n"⟩).2 ∧
          Recorded single ⟨session, gated "[session_id]\n"⟩ senders
            (request single ⟨session, gated "[session_id]\n"⟩).2 := by
  have unkept : (((SettingsFile.load (some "settings")) >>= fun file =>
      Session.ofUrl "http://me:pw@server" (some file) {} >>= fun session =>
        return (file.settings.get? idSection session.idOption).isNone : Action Bool)
          (gated "[session_id]\n")).1.toOption = some true := by
    decide +kernel
  obtain ⟨file, loaded⟩ := SettingsFile.exists_load
    (show (SettingsFile.load (some "settings") (gated "[session_id]\n")).1.toBool = true by
      decide +kernel)
  have stays := congrArg Prod.snd
    (ofUrl_apply "http://me:pw@server" (some file) {} (gated "[session_id]\n"))
  rcases started : Session.ofUrl "http://me:pw@server" (some file) {} (gated "[session_id]\n") with
    ⟨fault | session, after⟩
  · rw [Action.bind_of_ok _ loaded, Action.bind_of_error _ started] at unkept
    cases unkept
  · rw [Action.bind_of_ok _ loaded, Action.bind_of_ok _ started] at unkept
    have missing : (file.settings.get? idSection session.idOption).isNone = true :=
      Option.some.inj unkept
    rw [started] at stays
    obtain rfl : after = gated "[session_id]\n" := stays
    obtain ⟨cached, kept, opening⟩ := opening_of_new_session single loaded started
    rw [Option.isNone_iff_eq_none, kept, Option.map_eq_none_iff] at missing
    subst missing
    exact ⟨file, session, loaded, started, opening⟩

/-- What a call of the user's new session comes to, and which ids the requests that it sends carry. -/
def idsSent (call : Call Response) (settings : String) :
    Option (Option String) × List (Option String) :=
  match (do Session.ofUrl "http://me:pw@server" (some (← SettingsFile.load (some "settings"))) {} :
      Action Session) (gated settings) with
  | (.error _, _) => (none, [])
  | (.ok session, world) =>
    let ran := call ⟨session, world⟩
    (some (ran.1.toOption.map Response.text),
      ran.2.world.requests.map fun request => (request.carried? .formField).bind Value.text?)

/-- With an empty id in the settings, the user's request is sent with this id and rejected. Had the
session logged in first, it would have been answered. -/
theorem emptyId_goes_out :
    idsSent (request single) "[session_id]\nme@http.//server = \n" = (some none, [some ""]) ∧
      idsSent (do login none; request single) "[session_id]\nme@http.//server = \n" =
        (some (some "ready"), [none, some "abc"]) := by
  decide +kernel

end Jobflow.Session
