import Mathlib
import Jobflow.Proofs.Session.Course
import Jobflow.Proofs.Session.Replies
import Jobflow.Proofs.Text.Search

/-!
# Names in answers

The server repeats names in its answers: listings have them, and so have the errors about projects
and flows that are not there. A rejected session is told from other answers by what occurs in them,
so that a name can make an answer look like a rejection. Which answers are mistaken is said here
exactly. All others do what they should: nobody logs in, a listing is returned as it is and an error
is reported in the words of the server.

A sentence about a name in small letters has the word that tells a rejected session only where
the name has it, since the word has no blank.
-/

namespace Jobflow

/-! ## Answers -/

/-- The kinds of answers about a name. -/
inductive Answer
  /-- A document that reports no error. -/
  | listing
  /-- The error of a project that is not there. -/
  | noProject
  /-- The error of a flow that is not there. -/
  | noFlow

namespace Answer

/-- The error in an answer about a name. -/
def message? (name : String) : Answer → Option String
  | listing => none
  | noProject => some ("Project " ++ name ++ " doesn't exist.")
  | noFlow => some ("Flow " ++ name ++ " not found.")

/-- What an answer about a name means: its document, or its error in the words of the server. -/
def meaning (name : String) (document : Value) (answer : Answer) : Except Fault Value :=
  match answer.message? name with
  | none => .ok document
  | some message => .error (.remote (.reported (.text message)))

end Answer

namespace Response

/-- A response gives an answer about a name in a document. -/
structure Gives (response : Response) (name : String) (answer : Answer) (document : Value) :
    Prop where
  /-- The response is the text of the document. -/
  read : response.json? = some document
  /-- The document is a mapping. -/
  mapping : document.isMap = true
  /-- It has the error of the answer. -/
  error : document.field? "error" = (answer.message? name).map .text
  /-- A listing has no error as its status either. -/
  quiet : answer = .listing →
    ((document.field? "status").getD .null).same (.text "error") = false
  /-- The status of the response is no error. -/
  fine : response.statusFault? = none

/-- Whether an answer about a name looks like the rejection of a session: it has a mark of the login
page in its text, or it is an error and the name has the word `session` in small letters. -/
def Mistaken (response : Response) (name : String) (answer : Answer) : Prop :=
  (∃ marker ∈ loginMarkers, Text.holds response.text marker = true) ∨
    (answer.message? name).isSome = true ∧ Text.holds (Text.lower name) "session" = true

/-- The error about a name has the word `session` in small letters exactly if the name has it. -/
theorem holds_message (name message : String) (answer : Answer)
    (error : answer.message? name = some message) :
    Text.holds (Text.lower message) "session" = Text.holds (Text.lower name) "session" := by
  cases answer with
  | listing => cases error
  | noProject =>
    obtain rfl := Option.some.inj error
    exact Text.holds_lower_between "Project " name " doesn't exist." "session"
      (by decide +kernel) (by decide +kernel) (by decide +kernel) (by decide +kernel)
      (show _ = "project".toList ++ [' '] by decide +kernel)
      (show _ = ' ' :: "doesn't exist.".toList by decide +kernel) (by decide +kernel)
      (by decide +kernel)
  | noFlow =>
    obtain rfl := Option.some.inj error
    exact Text.holds_lower_between "Flow " name " not found." "session"
      (by decide +kernel) (by decide +kernel) (by decide +kernel) (by decide +kernel)
      (show _ = "flow".toList ++ [' '] by decide +kernel)
      (show _ = ' ' :: "not found.".toList by decide +kernel) (by decide +kernel)
      (by decide +kernel)

/-- Errors about names are not empty. -/
theorem truthy_message (name message : String) (answer : Answer)
    (error : answer.message? name = some message) : (Value.text message).truthy = true := by
  cases answer with
  | listing => cases error
  | noProject | noFlow =>
    obtain rfl := Option.some.inj error
    simp [Value.truthy]

section

variable {response : Response} {name : String} {answer : Answer} {document : Value}

/-- An answer about a name counts as the rejection of a session exactly if it is mistaken. -/
theorem Gives.rejection?_isSome_iff (gives : response.Gives name answer document) :
    response.rejection?.isSome = true ↔ response.Mistaken name answer := by
  have marked : (loginMarkers.any fun marker => Text.holds response.text marker) = true ↔
      ∃ marker ∈ loginMarkers, Text.holds response.text marker = true := List.any_eq_true
  rw [Mistaken, ← marked, rejection?]
  split
  · next some => exact iff_of_true rfl (Or.inl some)
  · next none =>
    rw [gives.read, Option.bind_some, gives.error]
    cases error : answer.message? name with
    | none => simp [none]
    | some message =>
      simp only [Option.map_some, truthy_message name message answer error, Bool.true_and,
        Value.str, holds_message name message answer error, none]
      cases Text.holds (Text.lower name) "session" <;> simp

/-- What a document that gives an answer reports. -/
theorem Gives.reportedError (gives : response.Gives name answer document) :
    Response.reportedError document = .ok ((answer.message? name).map .text) := by
  cases answer with
  | listing => exact reportedError_of_quiet gives.mapping gives.error (gives.quiet rfl)
  | noProject | noFlow => exact reportedError_of_error gives.error

/-- An answer is read as what it means. -/
theorem Gives.document_fst (gives : response.Gives name answer document) :
    (response.document.run.run []).1 = answer.meaning name document := by
  rw [Response.document_fst, gives.read, Answer.meaning]
  dsimp only
  rw [gives.reportedError]
  cases answer.message? name <;> rfl

/-- An answer has a text. -/
theorem Gives.text_isEmpty (gives : response.Gives name answer document) :
    response.text.isEmpty = false := by
  rw [Bool.eq_false_iff]
  intro empty
  have read := gives.read
  rw [json?, String.isEmpty_iff.mp empty] at read
  have unread : Json.read? "" = none := by decide +kernel
  rw [unread] at read
  cases read

end

end Response

namespace Draft

/-- What a client gets in reply to a draft. -/
def reply (draft : Draft) (client : Client) : Except Fault Response :=
  (client.world.server.reply (draft.sentBy client)).1.outcome (draft.sentBy client)

end Draft

namespace Session

open Call

/-- The operations that send a draft and read the answer. -/
inductive Asks : Draft → Call Value → Prop
  /-- The flows of a project. -/
  | flows (project : Value) : Asks (flowsDraft project) (flows project)
  /-- Executions of a flow. -/
  | executions (project flow start length : Value) :
    Asks (executionsDraft project flow start length) (executions project flow start length)
  /-- The state of an execution. -/
  | execution (id : Value) : Asks (executionDraft id) (execution id)
  /-- The creation of a project. -/
  | creation (name description : Value) :
    Asks (creationDraft name description) (createProject name description)
  /-- The upload of an archive. -/
  | archive (project : Value) (archive : Upload) :
    Asks (uploadDraft project archive) (sendArchive project archive)

/-- What a call comes to that sends one request and does nothing else but log. -/
structure AsksOnce {α : Type} (call : Call α) (client : Client) (request : Request)
    (result : Except Fault α) : Prop where
  /-- The result. -/
  result : (call client).1 = result
  /-- The session stays, with its id. -/
  session : (call client).2.session = client.session
  /-- The request is the only one. -/
  requests : (call client).2.world.requests = client.world.requests ++ [request]

section

variable {draft : Draft} {client : Client} {response : Response} {request : Request}

/-- A draft that is answered is sent once. -/
theorem send_of_reply (replied : draft.reply client = .ok response) :
    ∃ after, send (draft.sentBy client) client = (.ok response, after) ∧
      after.session = client.session ∧
      after.world.requests = client.world.requests ++ [draft.sentBy client] := by
  have sent : send (draft.sentBy client) client =
      (.ok response,
        { client with
          world :=
            { client.world with
              server := (client.world.server.reply (draft.sentBy client)).2
              requests := client.world.requests ++ [draft.sentBy client] } }) := by
    rw [Draft.reply] at replied
    rw [send, mapFault, act, Action.send_apply, replied]
    rfl
  exact ⟨_, sent, rfl, rfl⟩

/-- A request comes to the answer to its first sending, if that is no rejection and no error. -/
theorem request_of_accepted (known : client.session.id.truthy = true)
    (replied : draft.reply client = .ok response) (accepted : response.rejection? = none)
    (fine : response.statusFault? = none) :
    ∃ after, Session.request draft client = (.ok response, after) ∧
      after.session = client.session ∧
      after.world.requests = client.world.requests ++ [draft.sentBy client] := by
  obtain ⟨after, sent, session, requests⟩ := send_of_reply replied
  refine ⟨after, ?_, session, requests⟩
  have sentOut : sendDraft draft client = (.ok (client.session.id, response), after) := by
    rw [sendDraft, bind_of_ok _ (session_apply client)]
    exact bind_of_ok _ sent
  rw [request_of_truthy known, Stage.sending_eq, bind_of_ok _ sentOut]
  simp only [Stage.rest, accepted]
  rw [checkStatus_apply, fine]

variable {α : Type} {result : Except Fault α}

/-- A call comes to a result and does nothing but log. -/
def OnlyLogs (call : Call α) (result : Except Fault α) : Prop :=
  ∀ client, ∃ entries, call client = (result, client.logged entries)

/-- Reading an answer only logs. -/
theorem onlyLogs_document {name : String} {answer : Answer} {document : Value}
    (gives : response.Gives name answer document) :
    OnlyLogs (Session.document response) (answer.meaning name document) := by
  intro client
  rw [Session.document, act_ofLogged, gives.document_fst]
  exact ⟨_, rfl⟩

/-- Log a message after a call. -/
def thenLog (call : Call α) (level : LogLevel) (template : String) (args : List Value) :
    Call α := do
  let value ← call
  Call.log level template args
  return value

/-- Logging after a call that only logs is only logging. -/
theorem OnlyLogs.thenLog {call : Call α} (logs : OnlyLogs call result) (level : LogLevel)
    (template : String) (args : List Value) :
    OnlyLogs (thenLog call level template args) result := by
  intro client
  obtain ⟨entries, run⟩ := logs client
  cases result with
  | error fault => exact ⟨entries, bind_of_error _ run⟩
  | ok value =>
    obtain ⟨further, logged⟩ := exists_log_apply level template args (client.logged entries)
    refine ⟨entries ++ further, ?_⟩
    rw [Session.thenLog, bind_of_ok _ run, bind_of_ok _ logged]
    simp only [Client.logged, List.append_assoc]
    rfl

/-- A request whose answer is read by what only logs is sent once. -/
theorem asksOnce_request (known : client.session.id.truthy = true)
    (replied : draft.reply client = .ok response) (accepted : response.rejection? = none)
    (fine : response.statusFault? = none) (change : Fault → Fault) (read : Response → Call α)
    (logs : OnlyLogs (read response) result) :
    AsksOnce (mapFault change (Session.request draft) >>= read) client (draft.sentBy client)
      result := by
  obtain ⟨after, came, session, requests⟩ := request_of_accepted known replied accepted fine
  obtain ⟨entries, run⟩ := logs after
  have unchanged : mapFault change (Session.request draft) client = (.ok response, after) := by
    rw [mapFault, came]
    rfl
  have whole : (mapFault change (Session.request draft) >>= read) client =
      (result, after.logged entries) := (bind_of_ok _ unchanged).trans run
  exact ⟨congrArg Prod.fst whole, (congrArg (Client.session ∘ Prod.snd) whole).trans session,
    (congrArg (fun ran => ran.2.world.requests) whole).trans requests⟩

/-- What only logs before asks as often as what comes after it. -/
theorem AsksOnce.after_log {next : Call α} (level : LogLevel) (template : String)
    (args : List Value)
    (asks : ∀ entries, AsksOnce next (client.logged entries) request result) :
    AsksOnce (do Call.log level template args; next) client request result := by
  obtain ⟨entries, run⟩ := exists_log_apply level template args client
  obtain ⟨given, session, requests⟩ := asks entries
  have goesOn : (do Call.log level template args; next : Call α) client =
      next (client.logged entries) := bind_of_ok _ run
  exact ⟨goesOn ▸ given, goesOn ▸ session, goesOn ▸ requests⟩

/-- Faults that are not changed stay. -/
theorem mapFault_same (call : Call α) : mapFault (fun fault => fault) call = call := by
  funext client
  rw [mapFault]
  rcases call client with ⟨fault | value, after⟩ <;> rfl

end

/-- An answer about a name counts as the rejection of the session exactly if it is mistaken.
Otherwise the operation that asked for it does not log in and sends nothing else, and it comes to what
the answer means: the listing as it is, or the error in the words of the server. -/
theorem answer_about_name {draft : Draft} {call : Call Value} (asks : Asks draft call)
    {client : Client} {response : Response} {name : String} {answer : Answer} {document : Value}
    (known : client.session.id.truthy = true) (replied : draft.reply client = .ok response)
    (gives : response.Gives name answer document) :
    ((∃ reason after, RejectedInto draft client reason after) ↔ response.Mistaken name answer) ∧
      (¬ response.Mistaken name answer →
        AsksOnce call client (draft.sentBy client) (answer.meaning name document)) := by
  constructor
  · obtain ⟨after, sent, -⟩ := send_of_reply replied
    rw [← gives.rejection?_isSome_iff, Option.isSome_iff_exists]
    constructor
    · rintro ⟨reason, _, other, answered, rejected⟩
      rw [sent] at answered
      cases answered
      exact ⟨reason, rejected⟩
    · rintro ⟨reason, rejected⟩
      exact ⟨reason, after, response, sent, rejected⟩
  · intro right
    rw [← gives.rejection?_isSome_iff, Bool.not_eq_true, Option.isSome_eq_false_iff,
      Option.isNone_iff_eq_none] at right
    have reads := onlyLogs_document gives
    have readsProject (project : Value) :
        OnlyLogs (projectDocument project response) (answer.meaning name document) := by
      rw [projectDocument, gives.text_isEmpty]
      exact reads
    -- Messages before a request change nothing about it.
    have known' (entries : Log) : (client.logged entries).session.id.truthy = true := known
    have replied' (entries : Log) : draft.reply (client.logged entries) = .ok response := replied
    cases asks with
    | flows project =>
      exact .after_log _ _ _ fun entries => asksOnce_request (known' entries) (replied' entries)
        right gives.fine (listingFault project) _ (readsProject project)
    | executions project flow start length =>
      refine .after_log _ _ _ fun entries => ?_
      have once := asksOnce_request (known' entries) (replied' entries) right gives.fine
        (fun fault => fault) _ (readsProject project)
      rwa [mapFault_same] at once
    | execution id =>
      refine .after_log _ _ _ fun entries => ?_
      have once := asksOnce_request (known' entries) (replied' entries) right gives.fine
        (fun fault => fault) _ reads
      rwa [mapFault_same] at once
    | creation title description =>
      have once := asksOnce_request known replied right gives.fine (fun fault => fault)
        (fun response => thenLog (Session.document response) .info "Created project %s." [title])
        (reads.thenLog _ _ _)
      rwa [mapFault_same] at once
    | archive project archive =>
      have once := asksOnce_request known replied right gives.fine (fun fault => fault)
        (fun response => thenLog (Session.document response) .info "Uploaded %s to project %s."
          [.text archive.name, project]) (reads.thenLog _ _ _)
      rwa [mapFault_same] at once

/-- A client whose id the server accepts, and who is told something about a project. The server gives
another id to whoever logs in. -/
def told (text : String) : Client where
  session :=
    { user := "me", password := some "pw", url := "http://server", id := .text "abc" }
  world :=
    { folder := "/"
      tree := { files := .ofList [] }
      server :=
        [{ conditions := [("action", "login")]
           replies := [.answer 200 (.text "OK") none "\x7b\"session.id\": \"def\"\x7d"] },
         { conditions := [("ajax", "fetchprojectflows")]
           replies := [.answer 200 (.text "OK") none text] }] }

/-- The answer that there is no project `load`. -/
def loadMissing : Response where
  url := "http://server/manager"
  text := "\x7b\"error\": \"Project load doesn't exist.\"\x7d"

/-- That there is no project `load` is reported, without a login. -/
theorem told_reports :
    let client := told loadMissing.text
    AsksOnce (flows (.text "load")) client ((flowsDraft (.text "load")).sentBy client)
      (.error (.remote (.reported (.text "Project load doesn't exist.")))) := by
  intro client
  have gives : loadMissing.Gives "load" .noProject
      (.map (some 0) [("error", .text "Project load doesn't exist.")]) :=
    { read := by cbv
      mapping := rfl
      error := by cbv
      quiet := fun impossible => nomatch impossible
      fine := by rfl }
  have right : ¬ loadMissing.Mistaken "load" .noProject := by
    rw [Response.Mistaken]
    decide +kernel
  exact (answer_about_name (.flows (.text "load")) rfl (by cbv) gives).2 right

/-- What listing the flows of a project comes to, the id of the session afterwards, and which requests
were sent: the actions in their forms, or what they ask for. -/
def listed (project text : String) : Option String × Option String × List (Option String) :=
  let ran := flows (.text project) (told text)
  (match ran.1 with
    | .ok _ => none
    | .error fault => some fault.text,
    ran.2.session.id.text?,
    ran.2.world.requests.map fun request =>
      (request.field? "action").or (request.field? "ajax"))

/-- That there is no project `session` is mistaken for a rejection, and so is a listing with a flow
`Login error`: the client logs in, asks again and gives up. -/
theorem names_end_session :
    listed "session" "\x7b\"error\": \"Project session doesn't exist.\"\x7d" =
        (some "Session rejected by Azkaban server: Project session doesn't exist.", some "def",
          [some "fetchprojectflows", some "login", some "fetchprojectflows"]) ∧
      listed "load" "\x7b\"flows\": [\x7b\"flowId\": \"Login error\"\x7d]\x7d" =
        (some "Session rejected by Azkaban server: Login required.", some "def",
          [some "fetchprojectflows", some "login", some "fetchprojectflows"]) := by
  decide +kernel

end Session

end Jobflow
