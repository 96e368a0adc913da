import Jobflow.Proofs.Session.Course
import Jobflow.Proofs.Session.Uploads

/-!
# What the server answered

A server follows its script, so that the record of requests tells what it answered to each of them:
the script that is left of the first one once the earlier requests are answered gives the reply.

An archive is the last thing that an upload sends, and it is sent once. So what its answer counts
as decides what the upload comes to: should the answer reject the session, or have a status that is
an error, the upload fails with that.
-/

namespace Jobflow

namespace Script

/-- What requests leave of a script. -/
def after (script : Script) (requests : List Request) : Script :=
  requests.foldl (fun left request => (left.reply request).2) script

/-- Requests in a row leave what the later ones leave of what the earlier ones left. -/
theorem after_append (script : Script) (requests others : List Request) :
    script.after (requests ++ others) = (script.after requests).after others :=
  List.foldl_append

/-- What a server answers to a request after earlier ones. -/
def answer (script : Script) (earlier : List Request) (request : Request) :
    Except Fault Response :=
  ((script.after earlier).reply request).1.outcome request

/-- What is answered after requests in a row is what the rest of the script answers. -/
theorem answer_append (script : Script) (requests others : List Request) (request : Request) :
    script.answer (requests ++ others) request = (script.after requests).answer others request := by
  rw [answer, answer, after_append]

end Script

/-- The fault that an answer counts as when its request is not sent again, if it is one. -/
def Response.fault? (response : Response) : Option Fault :=
  match response.rejection? with
  | some reason => some (.sessionRejected reason)
  | none => response.statusFault?

namespace Session

open Call

/-! ## Requests and what they leave of the script -/

/-- Between an earlier and a later client, requests of a kind were sent, and the server has answered
these and no others. -/
structure Sends (kind : Request → Prop) (before after : Client) (sent : List Request) : Prop where
  /-- They come on record. -/
  recorded : after.world.requests = before.world.requests ++ sent
  /-- The server has answered them. -/
  served : after.world.server = before.world.server.after sent
  /-- They are of the kind. -/
  each : ∀ request ∈ sent, kind request

/-- From an earlier to a later client, some requests of a kind are sent and answered. -/
def Exchanges (kind : Request → Prop) (before after : Client) : Prop :=
  ∃ sent, Sends kind before after sent

variable {kind : Request → Prop}

/-- Requests in two steps. -/
theorem Sends.append {first second third : Client} {sent others : List Request}
    (before : Sends kind first second sent) (after : Sends kind second third others) :
    Sends kind first third (sent ++ others) where
  recorded := by rw [after.recorded, before.recorded, List.append_assoc]
  served := by rw [after.served, before.served, Script.after_append]
  each := List.forall_mem_append.mpr ⟨before.each, after.each⟩

/-- Nothing at all may be sent. -/
theorem Exchanges.of_same {before after : Client}
    (requests : after.world.requests = before.world.requests)
    (server : after.world.server = before.world.server) : Exchanges kind before after :=
  ⟨[], by rw [requests, List.append_nil], server, fun _ member => by cases member⟩

/-- Requests in several steps. -/
theorem Exchanges.trans {first second third : Client} (before : Exchanges kind first second)
    (after : Exchanges kind second third) : Exchanges kind first third := by
  obtain ⟨sent, sends⟩ := before
  obtain ⟨others, later⟩ := after
  exact ⟨sent ++ others, sends.append later⟩

/-- What sends nothing is not answered. -/
theorem quietFrame_exchanges : QuietFrame (Exchanges kind) where
  refl _ := .of_same rfl rfl
  trans before after := before.trans after
  logged _ _ := .of_same rfl rfl
  prompted _ _ := .of_same rfl rfl

/-- Sending a request comes to its answer, unless there is none. -/
theorem send_apply (request : Request) (client : Client) :
    send request client =
      (((client.world.server.reply request).1.outcome request).mapError (sendFault request.url),
        { client with world := { client.world with
            server := (client.world.server.reply request).2
            requests := client.world.requests ++ [request] } }) := by
  rw [send, mapFault, act, Action.send_apply]

/-- Sending a request of the kind. -/
theorem exchanges_send {request : Request} (fits : kind request) :
    (send request).Within (Exchanges kind) := by
  intro client
  rw [send_apply]
  exact ⟨[request], rfl, rfl, fun _ member => by rwa [List.mem_singleton.mp member]⟩

/-- Sending a draft whose requests are of the kind. -/
theorem exchanges_sendDraft {draft : Draft} (fits : ∀ session id, kind (draft.request session id)) :
    (sendDraft draft).Within (Exchanges kind) :=
  quietFrame_exchanges.within_bind quietFrame_exchanges.within_session fun _ =>
    quietFrame_exchanges.within_bind (exchanges_send (fits _ _)) fun _ =>
      quietFrame_exchanges.within_pure _

/-- Keeping an id asks the server nothing. -/
theorem exchanges_keepId : keepId.Within (Exchanges kind) := by
  apply quietFrame_exchanges.within_bind quietFrame_exchanges.within_session
  intro session
  cases session.settings with
  | none => exact quietFrame_exchanges.within_pure ()
  | some file =>
    refine quietFrame_exchanges.within_bind (fun _ => .of_same rfl rfl) fun _ client => ?_
    rw [act, SettingsFile.save, Action.write_apply]
    cases client.world.tree.write client.world.folder _ _ <;> exact .of_same rfl rfl

/-- If logins are of a kind, the steps of a login send only such requests. -/
theorem renewalFrame_exchanges (logins : ∀ url request, request.IsLogin url → kind request) :
    RenewalFrame (Exchanges kind) where
  toQuietFrame := quietFrame_exchanges
  tried password := by
    apply quietFrame_exchanges.within_bind quietFrame_exchanges.within_session
    intro session
    refine quietFrame_exchanges.within_bind ?_ fun _ => quietFrame_exchanges.within_ofLogged _
    exact exchanges_send (logins session.url _ (isLogin_loginRequest session password))
  renewed _ _ := .of_same rfl rfl
  idKept := exchanges_keepId

/-! ## The archive and its answer -/

variable {α β : Type}

/-- A run of a call sends requests that prepare an upload, and perhaps one more. If the answer to
this one counts as a fault, the run comes to it. -/
structure Delivery (before : Client) (run : Except Fault α × Client) (sent : List Request)
    (final : Option Request) : Prop where
  /-- These requests come on record. -/
  recorded : run.2.world.requests = before.world.requests ++ (sent ++ final.toList)
  /-- The server has answered them. -/
  served : run.2.world.server = before.world.server.after (sent ++ final.toList)
  /-- All but the last one prepare. -/
  prepares : ∀ request ∈ sent, request.Prepares
  /-- The last one is answered last. -/
  faulty : ∀ request ∈ final, ∀ response, before.world.server.answer sent request = .ok response →
    ∀ fault, response.fault? = some fault → run.1 = .error fault

/-- Without a last request, nothing has to be told of its answer. -/
theorem exists_delivery_of_exchanges {before : Client} {run : Except Fault α × Client}
    (exchanges : Exchanges Request.Prepares before run.2) :
    ∃ sent final, Delivery before run sent final := by
  obtain ⟨sent, sends⟩ := exchanges
  refine ⟨sent, none, ?_, ?_, sends.each, fun _ none => by cases none⟩
  · rw [Option.toList_none, List.append_nil, sends.recorded]
  · rw [Option.toList_none, List.append_nil, sends.served]

/-- Requests of a call before prepare as well. -/
theorem exists_delivery_bind {first : Call α} {next : α → Call β}
    (begins : first.Within (Exchanges Request.Prepares))
    (goesOn : ∀ value client, ∃ sent final, Delivery client (next value client) sent final)
    (client : Client) : ∃ sent final, Delivery client ((first >>= next) client) sent final := by
  have begun := begins client
  rcases run : first client with ⟨fault | value, middle⟩
  · rw [run] at begun
    rw [bind_of_error next run]
    exact exists_delivery_of_exchanges begun
  · rw [run] at begun
    rw [bind_of_ok next run]
    obtain ⟨sent, sends⟩ := begun
    obtain ⟨others, final, delivery⟩ := goesOn value middle
    refine ⟨sent ++ others, final, ?_, ?_,
      List.forall_mem_append.mpr ⟨sends.each, delivery.prepares⟩, ?_⟩
    · rw [delivery.recorded, sends.recorded, List.append_assoc, List.append_assoc]
    · rw [delivery.served, sends.served, ← Script.after_append, List.append_assoc]
    · intro request member response answered
      rw [Script.answer_append, ← sends.served] at answered
      exact delivery.faulty request member response answered

/-- From an earlier to a later client, the server is not asked anything. -/
def Unasked (before after : Client) : Prop :=
  after.world.requests = before.world.requests ∧ after.world.server = before.world.server

/-- What sends nothing does not ask. -/
theorem quietFrame_unasked : QuietFrame Unasked where
  refl _ := ⟨rfl, rfl⟩
  trans before after := ⟨after.1.trans before.1, after.2.trans before.2⟩
  logged _ _ := ⟨rfl, rfl⟩
  prompted _ _ := ⟨rfl, rfl⟩

/-- What sends nothing afterwards does not matter, as it is not reached after a fault. -/
theorem Delivery.bind {first : Call α} {next : α → Call β} {client : Client}
    {sent : List Request} {final : Option Request}
    (delivery : Delivery client (first client) sent final)
    (quiet : ∀ value, (next value).Within Unasked) :
    Delivery client ((first >>= next) client) sent final := by
  rcases run : first client with ⟨fault | value, middle⟩
  · rw [run] at delivery
    rw [bind_of_error next run]
    exact ⟨delivery.recorded, delivery.served, delivery.prepares, fun request member response
      answered other counts =>
        congrArg Except.error (Except.error.inj
          (delivery.faulty request member response answered other counts))⟩
  · rw [run] at delivery
    rw [bind_of_ok next run]
    obtain ⟨requests, server⟩ := quiet value middle
    refine ⟨requests.trans delivery.recorded, server.trans delivery.served, delivery.prepares, ?_⟩
    intro request member response answered fault counts
    cases delivery.faulty request member response answered fault counts

/-- Sending a request last, if its answer is made of as it counts. -/
theorem delivery_of_send {request : Request} {sender middle last : Client}
    {received : Except Fault Response} {result : Except Fault α}
    (sent : send request sender = (received, middle)) (unasked : Unasked middle last)
    (counts : ∀ response fault, received = .ok response → response.fault? = some fault →
      result = .error fault) : Delivery sender (result, last) [] (some request) := by
  rw [send_apply] at sent
  cases sent
  refine ⟨unasked.1, unasked.2, nofun, ?_⟩
  rintro _ ⟨⟩ response answered fault
  refine counts response fault ?_
  change (sender.world.server.reply request).1.outcome request = _ at answered
  rw [answered]
  rfl

/-- Sending a draft that is not sent again comes to the fault that its answer counts as. -/
theorem delivery_sending (draft : Draft) (sender : Client) :
    Delivery sender (Stage.sending draft 0 sender) [] (some (draft.sentBy sender)) := by
  rcases sending_cases draft 0 sender with ends | ⟨left, next, impossible, -, -⟩
  · generalize Stage.sending draft 0 sender = run at ends ⊢
    obtain ⟨result, last⟩ := run
    cases ends with
    | unanswered sent => exact delivery_of_send sent (quietFrame_unasked.refl last) nofun
    | accepted sent accepted fine =>
      refine delivery_of_send sent (quietFrame_unasked.refl last) ?_
      rintro response fault ⟨⟩ counts
      rw [Response.fault?, accepted, fine] at counts
      cases counts
    | @failed _ _ _ middle sent accepted status =>
      refine delivery_of_send sent (quietFrame_unasked.within_log _ _ _ middle) ?_
      rintro response fault ⟨⟩ counts
      rw [Response.fault?, accepted, status] at counts
      cases counts
      rfl
    | rejected rejected =>
      obtain ⟨response, sent, reason⟩ := rejected
      refine delivery_of_send sent (quietFrame_unasked.refl last) ?_
      rintro response fault ⟨⟩ counts
      rw [Response.fault?, reason] at counts
      cases counts
      rfl
  · cases impossible

/-- A request that is not sent again comes to the fault that its answer counts as. -/
theorem exists_delivery_request (draft : Draft) (once : draft.retries = 0) (client : Client) :
    ∃ sent final, Delivery client (request draft client) sent final := by
  have sends (sender : Client) : ∃ sent final,
      Delivery sender (Stage.sending draft draft.retries.toNat sender) sent final := by
    rw [once]
    exact ⟨_, _, delivery_sending draft sender⟩
  rw [request, bind_of_ok _ (session_apply client)]
  cases known : client.session.id.truthy with
  | true => exact sends client
  | false =>
    have renews := renewalFrame_exchanges fun _ _ login => Request.IsLogin.prepares login
    exact exists_delivery_bind (renews.within_renew .null) (fun _ sender => sends sender) client

/-- An upload comes to the fault that the answer to its archive counts as. -/
theorem exists_delivery_upload (project : Value) (path : String) (name : Option String)
    (client : Client) : ∃ sent final, Delivery client (upload project path name client) sent final := by
  have renews := renewalFrame_exchanges fun _ _ login => Request.IsLogin.prepares login
  have stops {stop : Call Value} (quiet : stop.Within (Exchanges Request.Prepares))
      (sender : Client) : ∃ sent final, Delivery sender (stop sender) sent final :=
    exists_delivery_of_exchanges (quiet sender)
  have archives (archive : Upload) (sender : Client) : ∃ sent final,
      Delivery sender (sendArchive project archive sender) sent final := by
    obtain ⟨sent, final, delivery⟩ :=
      exists_delivery_request (uploadDraft project archive) rfl sender
    refine ⟨sent, final, delivery.bind fun _ => ?_⟩
    exact quietFrame_unasked.within_bind (quietFrame_unasked.within_document _) fun _ =>
      quietFrame_unasked.within_bind (quietFrame_unasked.within_log _ _ _) fun _ =>
        quietFrame_unasked.within_pure _
  refine exists_delivery_bind (renews.within_find path) (fun found => ?_) client
  dsimp only
  split
  · exact stops (renews.within_throw _)
  · refine exists_delivery_bind (renews.within_ensureValid fun session =>
      exchanges_send (prepares_probeRequest session)) fun _ => ?_
    refine exists_delivery_bind (renews.within_log _ _ _) fun _ => ?_
    refine exists_delivery_bind (renews.within_find path) fun contents => ?_
    split
    · exact stops (renews.within_throw _)
    · exact stops (renews.within_throw _)
    · exact archives _

/-- The steps of a creation send no archive, and ask for no other project. -/
theorem renewalFrame_creates (project : String) :
    RenewalFrame (Exchanges fun request => request.Creates project) :=
  renewalFrame_exchanges fun _ _ login => Request.IsLogin.creates login project

/-- A draft that is sent until the session is accepted is among the requests. -/
theorem exists_sent_of_sending {draft : Draft} (frame : RenewalFrame (Exchanges kind))
    (fits : ∀ session id, kind (draft.request session id)) (sender : Client) :
    ∃ sent, Sends kind sender (Stage.sending draft draft.retries.toNat sender).2 sent ∧
      draft.sentBy sender ∈ sent := by
  have within : (Stage.sending draft draft.retries.toNat).Within (Exchanges kind) :=
    frame.within_bind (frame.within_exchange _ _ _ (exchanges_sendDraft fits) frame.within_renew)
      (frame.within_checkStatus draft)
  obtain ⟨sent, sends⟩ := within sender
  obtain ⟨senders, turns⟩ := exists_turns draft draft.retries.toNat sender
  have sources := turns.recorded (fun _ first => by cases first; rfl) sender rfl
  rw [sends.recorded, List.filter_append, List.append_cancel_left_eq] at sources
  have first : draft.sentBy sender ∈ (sender :: senders).map draft.sentBy := List.mem_cons_self
  rw [← sources] at first
  exact ⟨sent, sends, List.mem_of_mem_filter first⟩

/-- A request that is answered was sent. -/
theorem exists_sent_of_request {draft : Draft} (frame : RenewalFrame (Exchanges kind))
    (fits : ∀ session id, kind (draft.request session id)) {client after : Client}
    {response : Response} (answered : request draft client = (.ok response, after)) :
    ∃ sent, Sends kind client after sent ∧ ∃ sender, draft.sentBy sender ∈ sent := by
  rw [request, bind_of_ok _ (session_apply client)] at answered
  cases known : client.session.id.truthy with
  | true =>
    rw [known] at answered
    obtain ⟨sent, sends, member⟩ := exists_sent_of_sending frame fits client
    rw [show Stage.sending draft draft.retries.toNat client = _ from answered] at sends
    exact ⟨sent, sends, client, member⟩
  | false =>
    rw [known] at answered
    obtain ⟨⟨⟩, first, renewal, rest⟩ := exists_of_bind_ok answered
    obtain ⟨logins, before⟩ := frame.within_renew .null client
    obtain ⟨sent, sends, member⟩ := exists_sent_of_sending frame fits first
    rw [renewal] at before
    rw [show Stage.sending draft draft.retries.toNat first = _ from rest] at sends
    exact ⟨logins ++ sent, before.append sends, first, List.mem_append_right _ member⟩

/-- A project that was created was asked for. -/
theorem exists_asksToCreate {project : String} {client after : Client} {answer : Value}
    (created : createProject (.text project) (.text project) client = (.ok answer, after)) :
    ∃ sent, Sends (fun request => request.Creates project) client after sent ∧
      ∃ request ∈ sent, request.AsksToCreate := by
  obtain ⟨response, middle, answered, rest⟩ := exists_of_bind_ok created
  have reading (response : Response) : (document response >>= fun result => do
      Call.log .info "Created project %s." [.text project]
      return result).Within Unasked :=
    quietFrame_unasked.within_bind (quietFrame_unasked.within_document _) fun _ =>
      quietFrame_unasked.within_bind (quietFrame_unasked.within_log _ _ _) fun _ =>
        quietFrame_unasked.within_pure _
  obtain ⟨requests, server⟩ := reading response middle
  rw [rest] at requests server
  obtain ⟨sent, sends, sender, member⟩ :=
    exists_sent_of_request (renewalFrame_creates project) (creates_request project) answered
  exact ⟨sent, ⟨requests.trans sends.recorded, server.trans sends.served, sends.each⟩, _, member, rfl⟩

end Session

end Jobflow
