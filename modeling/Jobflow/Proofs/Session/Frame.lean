import Jobflow.Proofs.Session.Call
import Jobflow.Session.Batch

/-!
# What requests leave alone

All that is done for a request is logging, sending, asking for passwords, saving settings and
taking over a new id. A relation between an earlier and a later client that holds across each
of these, and along steps in a row, holds across whatever a session does. Which of these steps
a call can take tells which relations hold across it: a call that neither saves settings nor
takes over an id has fewer of them, and one that sends nothing fewer still.

A relation may hold across some requests only, such as logins, or across saving the id of a
session but not any settings. For such a relation the steps of a login are given as they are.

One relation is that of clients which ask as the same user the same server in the same way, at
the same present. It holds across every request.
-/

namespace Jobflow

/-- Calls leave a client that is related to the one they began with. -/
def Call.Within {α : Type} (related : Client → Client → Prop) (call : Call α) : Prop :=
  ∀ client, related client (call client).2

/-- Calls in a row leave a client that is related if it is after the first one, should that stop,
and after both. -/
theorem Call.within_bind {α β : Type} {first : Call α} {next : α → Call β}
    {started later related : Client → Client → Prop} (starts : first.Within started)
    (goesOn : ∀ value, (next value).Within later)
    (stops : ∀ {before after}, started before after → related before after)
    (joins : ∀ {before middle after}, started before middle → later middle after →
      related before after) :
    (first >>= next).Within related := by
  intro client
  have begun := starts client
  rcases run : first client with ⟨fault | value, middle⟩
  · rw [bind_of_error next run]
    rw [run] at begun
    exact stops begun
  · rw [bind_of_ok next run]
    rw [run] at begun
    exact joins begun (goesOn value middle)

/-- A relation that holds along steps in a row and across logging and asking for passwords. -/
structure QuietFrame (related : Client → Client → Prop) : Prop where
  /-- A client is related to itself. -/
  refl (client : Client) : related client client
  /-- Steps in a row count as one. -/
  trans {first second third : Client} (before : related first second)
    (after : related second third) : related first third
  /-- Logging. -/
  logged (client : Client) (entries : Log) : related client (client.logged entries)
  /-- Asking for a password. -/
  prompted (text : String) : (Call.act (Action.prompt text)).Within related

/-- A relation that holds across sending as well. -/
structure Frame (related : Client → Client → Prop) : Prop extends QuietFrame related where
  /-- Sending. -/
  sent (request : Request) : (Call.act (Action.send request)).Within related

/-- A relation that holds across saving settings as well. -/
structure SavingFrame (related : Client → Client → Prop) : Prop extends Frame related where
  /-- Writing a file. -/
  written (path : String) (file : File) : (Call.act (Action.write path file)).Within related
  /-- Keeping other settings. -/
  kept (client : Client) (file : SettingsFile) :
    related client { client with session := { client.session with settings := some file } }

/-- A relation that holds across the steps of a login, whatever else is sent or saved. -/
structure RenewalFrame (related : Client → Client → Prop) : Prop extends QuietFrame related where
  /-- Trying a password. -/
  tried (password : String) : (Session.tryPassword password).Within related
  /-- Taking over an id. -/
  renewed (client : Client) (id : Value) :
    related client { client with session := { client.session with id } }
  /-- Keeping it in the settings. -/
  idKept : Session.keepId.Within related

/-- A relation that holds across taking over an id as well. -/
structure LoginFrame (related : Client → Client → Prop) : Prop extends SavingFrame related where
  /-- Taking over an id. -/
  renewed (client : Client) (id : Value) :
    related client { client with session := { client.session with id } }

/-! ## Calls that log -/

section

open Call Session

variable {α β : Type} {related : Client → Client → Prop} (frame : QuietFrame related)

include frame

namespace QuietFrame

/-- Giving a value changes nothing. -/
theorem within_pure (value : α) : Within related (pure value) := fun client => frame.refl client

/-- Stopping changes nothing. -/
theorem within_throw (fault : Fault) : Within related (throw fault : Call α) :=
  fun client => frame.refl client

/-- Looking at the session changes nothing. -/
theorem within_session : Within related session := fun client => frame.refl client

/-- Calls in a row do what each of them does. -/
theorem within_bind {first : Call α} {next : α → Call β} (within : first.Within related)
    (later : ∀ value, (next value).Within related) : (first >>= next).Within related :=
  Call.within_bind within later id frame.trans

/-- A result changes nothing. -/
theorem within_ofExcept (result : Except Fault α) : (ofExcept result).Within related := by
  cases result with
  | ok value => exact frame.within_pure value
  | error fault => exact frame.within_throw fault

/-- A result of the world changes nothing. -/
theorem within_ofMishap (result : Except Mishap α) :
    (act (Action.ofMishap result)).Within related := by
  cases result with
  | ok value => exact fun client => frame.refl client
  | error mishap => exact fun client => frame.refl client

/-- Looking for a file changes nothing. -/
theorem within_find (path : String) : (act (Action.find? path)).Within related := by
  intro client
  rw [act, Action.find?_apply]
  exact frame.refl client

/-- A computation that logs only logs. -/
theorem within_ofLogged (computation : Logged α) :
    (act (Action.ofLogged computation)).Within related := by
  intro client
  rw [act_ofLogged]
  exact frame.logged client _

/-- Logging an entry logs. -/
theorem within_logEntry (entry : Option LogEntry) :
    (act (Action.log entry)).Within related := by
  cases entry with
  | none => exact fun client => frame.refl client
  | some entry => exact fun client => frame.logged client [entry]

/-- Logging a message logs. -/
theorem within_log (level : LogLevel) (template : String) (args : List Value) :
    (log level template args).Within related :=
  frame.within_bind frame.within_session fun _ =>
    Action.deliver_eq_log level _ ▸ frame.within_logEntry _

omit frame in
/-- The outcome of a call does what the call does. -/
theorem within_outcome {call : Call α} (within : call.Within related) :
    (outcome call).Within related := within

omit frame in
/-- A call with another fault does what the call does. -/
theorem within_mapFault {call : Call α} (change : Fault → Fault) (within : call.Within related) :
    (mapFault change call).Within related := within

/-- Checking the status of an answer logs at most. -/
theorem within_checkStatus (draft : Draft) (response : Response) :
    (checkStatus draft response).Within related := by
  rw [checkStatus]
  cases response.statusFault? with
  | none => exact frame.within_pure response
  | some fault =>
    exact frame.within_bind frame.within_session fun _ =>
      frame.within_bind (frame.within_log _ _ _) fun _ => frame.within_throw fault

/-- Reading the document in an answer logs at most. -/
theorem within_document (response : Response) : (document response).Within related :=
  frame.within_ofLogged _

/-- Reading an answer about a project logs at most. -/
theorem within_projectDocument (project : Value) (response : Response) :
    (projectDocument project response).Within related := by
  rw [projectDocument]
  split
  · exact frame.within_throw _
  · exact frame.within_document response

/-- Choosing a password asks for one at most. -/
theorem within_choosePassword (password : Option String) :
    (choosePassword password).Within related := by
  rw [choosePassword]
  split
  · exact frame.within_pure _
  · exact frame.within_bind frame.within_session fun _ => frame.prompted _

/-- Sending until the session is accepted does what sending and renewing do. -/
theorem within_exchange (send : Call (Value × Response)) (renew : Value → Call Unit)
    (renewals : Nat) (sending : send.Within related)
    (renewing : ∀ id, (renew id).Within related) :
    (exchange send renew renewals).Within related := by
  induction renewals with
  | zero =>
    rw [exchange]
    apply frame.within_bind sending
    rintro ⟨id, response⟩
    dsimp only
    cases response.rejection? with
    | none => exact frame.within_pure response
    | some reason => exact frame.within_throw _
  | succ renewals inductionHypothesis =>
    rw [exchange]
    apply frame.within_bind sending
    rintro ⟨id, response⟩
    dsimp only
    cases response.rejection? with
    | none => exact frame.within_pure response
    | some reason =>
      exact frame.within_bind (frame.within_logEntry _) fun _ =>
        frame.within_bind (renewing id) fun _ => inductionHypothesis

end QuietFrame

end

/-! ## Calls that send -/

section

open Call Session

variable {related : Client → Client → Prop} (frame : Frame related)

include frame

namespace Frame

/-- Sending a request sends. -/
theorem within_send (request : Request) : (send request).Within related :=
  QuietFrame.within_mapFault _ (frame.sent request)

/-- Sending a draft sends. -/
theorem within_sendDraft (draft : Draft) : (sendDraft draft).Within related :=
  frame.within_bind frame.within_session fun _ =>
    frame.within_bind (frame.within_send _) fun _ => frame.within_pure _

/-- Trying a password sends. -/
theorem within_tryPassword (password : String) : (tryPassword password).Within related :=
  frame.within_bind frame.within_session fun _ =>
    frame.within_bind (frame.within_send _) fun _ => frame.within_ofLogged _

end Frame

end

/-- Keeping an id saves settings at most. -/
theorem SavingFrame.within_keepId {related : Client → Client → Prop}
    (frame : SavingFrame related) : Session.keepId.Within related := by
  apply frame.within_bind frame.within_session
  intro session
  cases session.settings with
  | none => exact frame.within_pure ()
  | some file =>
    exact frame.within_bind (fun client => frame.kept client _) fun _ => frame.written _ _

/-! ## Calls that log in -/

section

open Call Session

variable {related : Client → Client → Prop} (frame : RenewalFrame related)

include frame

namespace RenewalFrame

/-- Taking over the id in the answer to a login. -/
theorem within_takeId (answer : Value) : (takeId answer).Within related := by
  apply frame.within_bind (frame.within_ofExcept _)
  intro id
  exact frame.within_bind (fun client => frame.renewed client id) fun _ =>
    frame.within_bind frame.idKept fun _ => frame.within_log _ _ _

/-- Any number of attempts to log in. -/
theorem within_loginWith (password : Option String) (attempts : Nat) :
    (loginWith password attempts).Within related := by
  induction attempts generalizing password with
  | zero => exact frame.within_throw _
  | succ attempts inductionHypothesis =>
    apply frame.within_bind (frame.within_choosePassword password)
    intro chosen
    apply frame.within_bind (QuietFrame.within_outcome (frame.tried chosen))
    intro outcome
    cases outcome with
    | ok answer => exact frame.within_takeId answer
    | error fault =>
      apply frame.within_bind (frame.within_ofMishap _)
      intro refused
      cases refused with
      | true =>
        exact frame.within_bind frame.within_session fun _ =>
          frame.within_bind (frame.within_log _ _ _) fun _ => inductionHypothesis none
      | false => exact frame.within_throw fault

/-- Renewing a session. -/
theorem within_renew (expired : Value) : (renew expired).Within related := by
  apply frame.within_bind frame.within_session
  intro session
  split
  · exact frame.within_bind frame.within_session fun _ => frame.within_loginWith _ _
  · exact frame.within_log _ _ _

/-- A request, if the relation holds across sending its draft. -/
theorem within_request {draft : Draft} (sending : (sendDraft draft).Within related) :
    (request draft).Within related := by
  have exchanged : (exchange (sendDraft draft) renew draft.retries.toNat).Within related :=
    frame.within_exchange _ _ _ sending frame.within_renew
  have answered := frame.within_bind exchanged (frame.within_checkStatus draft)
  rw [request]
  apply frame.within_bind frame.within_session
  intro session
  dsimp only
  split
  · exact answered
  · exact frame.within_bind (frame.within_renew .null) fun _ => answered

/-- Asking whether the session is accepted, if the relation holds across sending the question. -/
theorem within_isValid (probing : ∀ session : Session, (send session.probeRequest).Within related)
    (response : Option Response) : (isValid response).Within related := by
  apply frame.within_bind frame.within_session
  intro session
  dsimp only
  split
  · exact frame.within_pure false
  · cases response with
    | some given =>
      refine frame.within_bind (frame.within_pure given) fun _ => ?_
      split
      · exact frame.within_pure true
      · exact frame.within_bind (frame.within_log _ _ _) fun _ => frame.within_pure false
    | none =>
      refine frame.within_bind (probing session) fun _ => ?_
      split
      · exact frame.within_pure true
      · exact frame.within_bind (frame.within_log _ _ _) fun _ => frame.within_pure false

/-- Logging in again if the session is not accepted. -/
theorem within_ensureValid
    (probing : ∀ session : Session, (send session.probeRequest).Within related) :
    ensureValid.Within related := by
  refine frame.within_bind (frame.within_isValid probing none) fun valid => ?_
  split
  · exact frame.within_pure ()
  · exact frame.within_bind frame.within_session fun _ => frame.within_renew _

/-- Creating a project, if the relation holds across sending the draft. -/
theorem within_createProject (name description : Value)
    (sending : (sendDraft (creationDraft name description)).Within related) :
    (createProject name description).Within related :=
  frame.within_bind (frame.within_request sending) fun _ =>
    frame.within_bind (frame.within_document _) fun _ =>
      frame.within_bind (frame.within_log _ _ _) fun _ => frame.within_pure _

/-- Uploading an archive once, if the relation holds across sending the draft. -/
theorem within_sendArchive {project : Value} {archive : Upload}
    (sending : (sendDraft (uploadDraft project archive)).Within related) :
    (sendArchive project archive).Within related :=
  frame.within_bind (frame.within_request sending) fun _ =>
    frame.within_bind (frame.within_document _) fun _ =>
      frame.within_bind (frame.within_log _ _ _) fun _ => frame.within_pure _

/-- Uploading an archive, if the relation holds across sending the question and the draft. -/
theorem within_upload (project : Value) (path : String) (name : Option String)
    (probing : ∀ session : Session, (send session.probeRequest).Within related)
    (sending : ∀ archive, (sendDraft (uploadDraft project archive)).Within related) :
    (upload project path name).Within related := by
  refine frame.within_bind (frame.within_find path) fun found => ?_
  dsimp only
  split
  · exact frame.within_throw _
  · refine frame.within_bind (frame.within_ensureValid probing) fun _ => ?_
    refine frame.within_bind (frame.within_log _ _ _) fun _ => ?_
    refine frame.within_bind (frame.within_find path) fun contents => ?_
    split
    · exact frame.within_throw _
    · exact frame.within_throw _
    · exact frame.within_sendArchive (sending _)

end RenewalFrame

end

/-! ## Requests -/

/-- A relation that holds across taking over an id and saving settings holds across logins. -/
theorem LoginFrame.renewal {related : Client → Client → Prop} (frame : LoginFrame related) :
    RenewalFrame related where
  toQuietFrame := frame.toQuietFrame
  tried := frame.within_tryPassword
  renewed := frame.renewed
  idKept := frame.within_keepId

section

open Call Session

variable {related : Client → Client → Prop} (frame : LoginFrame related)

include frame

namespace LoginFrame

/-- A request. -/
theorem within_request (draft : Draft) : (request draft).Within related :=
  frame.renewal.within_request (frame.within_sendDraft draft)

/-- Listing flows. -/
theorem within_flows (project : Value) : (flows project).Within related :=
  frame.within_bind (frame.within_log _ _ _) fun _ =>
    frame.within_bind (QuietFrame.within_mapFault _ (frame.within_request _)) fun _ =>
      frame.within_projectDocument _ _

/-- Listing executions. -/
theorem within_executions (project flow start length : Value) :
    (executions project flow start length).Within related :=
  frame.within_bind (frame.within_log _ _ _) fun _ =>
    frame.within_bind (frame.within_request _) fun _ => frame.within_projectDocument _ _

/-- Fetching the state of an execution. -/
theorem within_execution (id : Value) : (execution id).Within related :=
  frame.within_bind (frame.within_log _ _ _) fun _ =>
    frame.within_bind (frame.within_request _) fun _ => frame.within_document _

end LoginFrame

end

/-! ## Batches -/

section

open Call Session

variable {related : Client → Client → Prop} (frame : QuietFrame related)

include frame

namespace QuietFrame

/-- Sending requests does what each of them does. -/
theorem within_sendAll (ask : Value → Call Value) (asking : ∀ key, (ask key).Within related)
    (keys : List Value) : (sendAll ask keys).Within related := by
  induction keys with
  | nil => exact frame.within_pure []
  | cons key rest inductionHypothesis =>
    rw [sendAll]
    apply frame.within_bind (within_outcome (asking key))
    intro outcome
    cases outcome with
    | ok document => exact frame.within_bind inductionHypothesis fun _ => frame.within_pure _
    | error fault =>
      dsimp only
      split
      · exact frame.within_pure _
      · exact frame.within_bind inductionHypothesis fun _ => frame.within_pure _

/-- Logging outcomes logs at most. -/
theorem within_logResults (outcomes : List Outcome) :
    (outcomes.forM logResult).Within related := by
  induction outcomes with
  | nil => exact frame.within_pure ()
  | cons outcome rest inductionHypothesis =>
    refine frame.within_bind ?_ fun _ => inductionHypothesis
    obtain ⟨key, result⟩ := outcome
    cases result with
    | ok document => exact frame.within_pure ()
    | error fault => exact frame.within_log _ _ _

/-- A batch does what each of its requests does. -/
theorem within_batchIn (schedule : Schedule) (ask : Value → Call Value)
    (asking : ∀ key, (ask key).Within related) (keys : List Value) :
    (batchIn schedule ask keys).Within related := by
  apply frame.within_bind (frame.within_ofMishap _)
  intro kept
  dsimp only
  split
  · exact frame.within_pure _
  · apply frame.within_bind frame.within_session
    intro session
    split
    · exact frame.within_throw _
    · apply frame.within_bind (frame.within_sendAll ask asking _)
      intro outcomes
      apply frame.within_bind (frame.within_logResults _)
      intro _
      split
      · exact frame.within_throw _
      · exact frame.within_pure _

end QuietFrame

end

/-! ## As whom a session asks which server and how -/

/-- What stays of a client: how its session asks, as whom and which server, and the
present. -/
def Client.fixed (client : Client) : SessionOptions × String × String × Value :=
  (client.session.toSessionOptions, client.session.user, client.session.url, client.world.now)

/-- The number of requests that are sent at a time stays. -/
theorem Client.workers_of_fixed {client other : Client} (same : client.fixed = other.fixed) :
    client.session.workers = other.session.workers :=
  congrArg (fun kept => kept.1.workers) same

/-- The present stays. -/
theorem Client.now_of_fixed {client other : Client} (same : client.fixed = other.fixed) :
    client.world.now = other.world.now :=
  congrArg (fun kept => kept.2.2.2) same

/-- What stays of a client stays across every request. -/
theorem loginFrame_fixed : LoginFrame fun before after => after.fixed = before.fixed where
  refl _ := rfl
  trans before after := after.trans before
  logged _ _ := rfl
  sent request client := by
    show Client.fixed (Call.act (Action.send request) client).2 = _
    rw [Call.act, Action.send_apply]
    rfl
  prompted _ _ := rfl
  written path file client := by
    show Client.fixed (Call.act (Action.write path file) client).2 = _
    rw [Call.act, Action.write_apply]
    cases client.world.tree.write client.world.folder path file <;> rfl
  kept _ _ := rfl
  renewed _ _ := rfl

/-! ## What is logged -/

/-- What is logged stays logged across every request. -/
theorem loginFrame_log : LoginFrame fun before after => before.world.log <+: after.world.log where
  refl client := List.prefix_refl _
  trans before after := before.trans after
  logged client entries := List.prefix_append _ _
  sent request client := by
    refine ⟨[], ?_⟩
    show _ = (Call.act (Action.send request) client).2.world.log
    simp only [List.append_nil, Call.act, Action.send_apply]
  prompted _ client := List.prefix_refl client.world.log
  written path file client := by
    have same : (Call.act (Action.write path file) client).2.world.log = client.world.log := by
      rw [Call.act, Action.write_apply]
      cases client.world.tree.write client.world.folder path file <;> rfl
    exact ⟨[], (List.append_nil _).trans same.symm⟩
  kept _ _ := List.prefix_refl _
  renewed _ _ := List.prefix_refl _

end Jobflow
