import Jobflow.Proofs.Session.Call
import Jobflow.Session.Api

/-!
# Servers that always answer alike

A server that has one reply in each of its rules answers a request the same way at any time.
While the session has an id that this server accepts, what a call comes to does not depend
on which other requests were sent before it.
-/

namespace Jobflow

/-- A rule that has answered no request yet. -/
def Rule.fresh (rule : Rule) : Rule := { rule with used := 0 }

/-- A server that has at most one reply in each rule. -/
def Script.Single (script : Script) : Prop := ∀ rule ∈ script, rule.replies.length ≤ 1

/-- The first rule that a request meets answers it. -/
theorem Script.reply_cons_fst (request : Request) (rule : Rule) (rest : Script) :
    (Script.reply request (rule :: rest)).1 =
      if rule.matches request then rule.next?.getD noRoute else (Script.reply request rest).1 := by
  rw [Script.reply]
  split <;> rfl

/-- Answering a request does not change what the rules say. -/
theorem Script.map_fresh_reply (request : Request) (script : Script) :
    (script.reply request).2.map Rule.fresh = script.map Rule.fresh := by
  induction script with
  | nil => rfl
  | cons rule rest inductionHypothesis =>
    rw [Script.reply]
    split
    · rfl
    · exact congrArg (rule.fresh :: ·) inductionHypothesis

/-- A server with one reply in each rule answers as if it had answered no request yet. -/
theorem Script.reply_map_fresh (request : Request) (script : Script) (single : script.Single) :
    (Script.reply request (script.map Rule.fresh)).1 = (script.reply request).1 := by
  induction script with
  | nil => rfl
  | cons rule rest inductionHypothesis =>
    have later := inductionHypothesis fun other member => single other (List.mem_cons_of_mem _ member)
    have next : rule.fresh.next? = rule.next? := by
      have few := single rule List.mem_cons_self
      have last : rule.replies.length - 1 = 0 := by omega
      simp only [Rule.next?, Rule.fresh, last, Nat.min_zero]
    have same : rule.fresh.matches request = rule.matches request := rfl
    rw [List.map_cons, Script.reply_cons_fst, Script.reply_cons_fst, same, next, later]

/-- A client of a session and of a server, which may have answered requests before. -/
structure Serving (session : Session) (script : Script) (client : Client) : Prop where
  /-- The session. -/
  session : client.session = session
  /-- The server. -/
  server : client.world.server.map Rule.fresh = script

namespace Call

variable {α β : Type}

/-- A call comes to a result for every client of a kind, and leaves one of the kind. -/
def Runs (kind : Client → Prop) (call : Call α) (result : Except Fault α) : Prop :=
  ∀ client, kind client → (call client).1 = result ∧ kind (call client).2

section

variable {kind : Client → Prop}

/-- A value comes to itself. -/
theorem runs_pure (value : α) : Runs kind (pure value) (.ok value) :=
  fun _ ready => ⟨rfl, ready⟩

/-- After a call that comes to a value, the next one goes on. -/
theorem runs_bind {first : Call α} {next : α → Call β} {value : α} {result : Except Fault β}
    (runs : Runs kind first (.ok value)) (later : Runs kind (next value) result) :
    Runs kind (first >>= next) result := by
  intro client ready
  obtain ⟨given, middle⟩ := runs client ready
  rw [bind_of_ok next (Prod.ext given rfl : first client = (.ok value, (first client).2))]
  exact later _ middle

/-- After a call that comes to a fault, nothing is done. -/
theorem runs_bind_error {first : Call α} {next : α → Call β} {fault : Fault}
    (runs : Runs kind first (.error fault)) : Runs kind (first >>= next) (.error fault) := by
  intro client ready
  obtain ⟨failed, middle⟩ := runs client ready
  rw [bind_of_error next (Prod.ext failed rfl : first client = (.error fault, (first client).2))]
  exact ⟨rfl, middle⟩

/-- A call comes to its fault under another name. -/
theorem runs_mapFault {call : Call α} {result : Except Fault α} (change : Fault → Fault)
    (runs : Runs kind call result) : Runs kind (mapFault change call) (result.mapError change) := by
  intro client ready
  obtain ⟨given, after⟩ := runs client ready
  exact ⟨congrArg (Except.mapError change) given, after⟩

end

section

variable {session : Session} {script : Script}

/-- A client still serves after logging. -/
theorem serving_logged {client : Client} (entries : Log) (serving : Serving session script client) :
    Serving session script (client.logged entries) := ⟨serving.session, serving.server⟩

/-- The session is at hand. -/
theorem runs_session : Runs (Serving session script) Call.session (.ok session) :=
  fun _ serving => ⟨congrArg Except.ok serving.session, serving⟩

/-- Logging comes to nothing of interest. -/
theorem runs_log (level : LogLevel) (template : String) (args : List Value) :
    Runs (Serving session script) (log level template args) (.ok ()) := by
  intro client serving
  obtain ⟨entries, run⟩ := exists_log_apply level template args client
  rw [run]
  exact ⟨rfl, serving_logged entries serving⟩

/-- A computation that logs comes to its value. -/
theorem runs_act {computation : Logged α} {value : α} (gives : computation.Gives value) :
    Runs (Serving session script) (act (Action.ofLogged computation)) (.ok value) := by
  intro client serving
  obtain ⟨entries, run⟩ := exists_act_apply gives client
  rw [run]
  exact ⟨rfl, serving_logged entries serving⟩

/-- Sending a request comes to what the server's reply means. -/
theorem runs_send (request : Request) (single : script.Single) :
    Runs (Serving session script) (send request)
      (((script.reply request).1.outcome request).mapError (sendFault request.url)) := by
  apply runs_mapFault
  intro client serving
  have singleHere : Script.Single client.world.server := by
    intro rule member
    have known : rule.fresh ∈ script := serving.server ▸ List.mem_map_of_mem member
    exact single rule.fresh known
  have alike : (client.world.server.reply request).1 = (script.reply request).1 := by
    rw [← Script.reply_map_fresh request _ singleHere, serving.server]
  have left : (client.world.server.reply request).2.map Rule.fresh = script := by
    rw [Script.map_fresh_reply, serving.server]
  rw [act, Action.send_apply, alike]
  exact ⟨rfl, serving.session, left⟩

end

end Call

/-! ## Requests -/

/-- A text that is read as a document which accepts the session and reports no error. -/
structure Accepted (text : String) (document : Value) : Prop where
  /-- The text is not empty. -/
  some : text.isEmpty = false
  /-- The text is not that of a login page. -/
  unmarked : (loginMarkers.any fun marker => Text.holds text marker) = false
  /-- The text is that of the document. -/
  read : Json.read? text = Option.some document
  /-- The document mentions no error. -/
  quiet : document.field? "error" = none
  /-- The document reports no error. -/
  unreported : Response.reportedError document = .ok none

namespace Session

open Call

section

variable {session : Session} {script : Script} {text : String} {document : Value}

/-- An answer with an accepted text is no rejection. -/
theorem rejection?_of_accepted (accepted : Accepted text document) (response : Response)
    (same : response.text = text) : response.rejection? = none := by
  rw [Response.rejection?, Response.json?, same, accepted.unmarked, accepted.read]
  simp [accepted.quiet]

/-- The document of an accepted text is read. -/
theorem runs_document (accepted : Accepted text document) (response : Response)
    (same : response.text = text) :
    Runs (Serving session script) (Session.document response) (.ok document) := by
  apply runs_act
  rw [Response.document, Response.json?, same, accepted.read]
  exact Logged.gives_bind (Logged.gives_ofMishap accepted.unreported) (Logged.gives_pure _)

/-- The document of an accepted text about a project is read. -/
theorem runs_projectDocument (accepted : Accepted text document) (project : Value)
    (response : Response) (same : response.text = text) :
    Runs (Serving session script) (projectDocument project response) (.ok document) := by
  rw [projectDocument, if_neg (by rw [same, accepted.some]; simp)]
  exact runs_document accepted response same

/-- A draft is sent with the id of the session. -/
theorem runs_sendDraft (draft : Draft) (single : script.Single) (result : Except Fault Response)
    (answer : (script.reply (draft.request session session.id)).1.outcome
      (draft.request session session.id) = result) :
    Runs (Serving session script) (sendDraft draft)
      (result.map (session.id, ·) |>.mapError (sendFault (draft.request session session.id).url)) := by
  have sent : Runs (Serving session script) (send (draft.request session session.id)) _ :=
    runs_send _ single
  rw [answer] at sent
  cases result with
  | ok response => exact runs_bind runs_session (runs_bind sent (runs_pure _))
  | error fault => exact runs_bind runs_session (runs_bind_error sent)

/-- A request that is answered with an accepted text comes to that answer. -/
theorem runs_request_of_accepted (draft : Draft) (single : script.Single)
    (known : session.id.truthy = true) (accepted : Accepted text document) (reason : Value)
    (url : Option String)
    (answer : (script.reply (draft.request session session.id)).1 = .answer 200 reason url text) :
    Runs (Serving session script) (request draft)
      (.ok ⟨200, reason, url.getD (draft.request session session.id).url, text⟩) := by
  have sent := runs_sendDraft draft single _ (congrArg (Reply.outcome _) answer)
  have exchanged : Runs (Serving session script)
      (exchange (sendDraft draft) renew draft.retries.toNat)
      (.ok ⟨200, reason, url.getD (draft.request session session.id).url, text⟩) := by
    rw [exchange]
    apply runs_bind sent
    dsimp only
    rw [rejection?_of_accepted accepted _ rfl]
    exact runs_pure _
  rw [request]
  apply runs_bind runs_session
  dsimp only
  rw [if_pos known]
  exact runs_bind exchanged (runs_pure _)

/-- A request that gets no answer comes to what that means. -/
theorem runs_request_of_failure (draft : Draft) (single : script.Single)
    (known : session.id.truthy = true) (fault : Fault)
    (answer : (script.reply (draft.request session session.id)).1.outcome
      (draft.request session session.id) = .error fault) :
    Runs (Serving session script) (request draft)
      (.error (sendFault (draft.request session session.id).url fault)) := by
  have sent := runs_sendDraft draft single (.error fault) answer
  have exchanged : Runs (Serving session script)
      (exchange (sendDraft draft) renew draft.retries.toNat)
      (.error (sendFault (draft.request session session.id).url fault)) := by
    rw [exchange]
    exact runs_bind_error sent
  rw [request]
  apply runs_bind runs_session
  dsimp only
  rw [if_pos known]
  exact runs_bind_error exchanged

/-- The flows in an accepted listing are listed. -/
theorem runs_flows (project : Value) (single : script.Single) (known : session.id.truthy = true)
    (accepted : Accepted text document) (reason : Value) (url : Option String)
    (answer : ∀ request, request.field? "ajax" = some "fetchprojectflows" →
      (script.reply request).1 = .answer 200 reason url text) :
    Runs (Serving session script) (flows project) (.ok document) := by
  apply runs_bind (runs_log _ _ _)
  apply runs_bind (runs_mapFault (listingFault project) (runs_request_of_accepted _ single known
    accepted reason url (answer _ rfl)))
  exact runs_projectDocument accepted project _ rfl

/-- The executions in an accepted listing are listed. -/
theorem runs_executions_of_accepted (project start length : Value) (flow : String)
    (single : script.Single) (known : session.id.truthy = true)
    (accepted : Accepted text document) (reason : Value) (url : Option String)
    (answer : ∀ request, request.field? "ajax" = some "fetchFlowExecutions" →
      request.field? "flow" = some flow →
      (script.reply request).1 = .answer 200 reason url text) :
    Runs (Serving session script) (executions project (.text flow) start length)
      (.ok document) := by
  apply runs_bind (runs_log _ _ _)
  apply runs_bind (runs_request_of_accepted _ single known accepted reason url (answer _ rfl rfl))
  exact runs_projectDocument accepted project _ rfl

/-- Executions that the server gives no answer about are not listed. -/
theorem runs_executions_of_failure (project start length : Value) (flow : String)
    (single : script.Single) (known : session.id.truthy = true) (kind : Transport)
    (message : String)
    (answer : ∀ request, request.field? "ajax" = some "fetchFlowExecutions" →
      request.field? "flow" = some flow → (script.reply request).1 = .failure kind message) :
    ∃ url, Runs (Serving session script) (executions project (.text flow) start length)
      (.error (sendFault url (.transport kind none message))) := by
  refine ⟨_, runs_bind (runs_log _ _ _) (runs_bind_error (runs_request_of_failure _ single known _
    (congrArg (Reply.outcome _) (answer _ rfl rfl))))⟩

/-- The state of an execution in an accepted answer is fetched. -/
theorem runs_execution_of_accepted (id : Value) (single : script.Single)
    (known : session.id.truthy = true) (accepted : Accepted text document) (reason : Value)
    (url : Option String)
    (answer : ∀ request, request.field? "ajax" = some "fetchexecflow" →
      request.field? "execid" = some id.str →
      (script.reply request).1 = .answer 200 reason url text) :
    Runs (Serving session script) (execution id) (.ok document) := by
  apply runs_bind (runs_log _ _ _)
  apply runs_bind (runs_request_of_accepted _ single known accepted reason url (answer _ rfl rfl))
  exact runs_document accepted _ rfl

/-- A state that the server gives no answer about is not fetched. -/
theorem runs_execution_of_failure (id : Value) (single : script.Single)
    (known : session.id.truthy = true) (kind : Transport) (message : String)
    (answer : ∀ request, request.field? "ajax" = some "fetchexecflow" →
      request.field? "execid" = some id.str → (script.reply request).1 = .failure kind message) :
    ∃ url, Runs (Serving session script) (execution id)
      (.error (sendFault url (.transport kind none message))) := by
  refine ⟨_, runs_bind (runs_log _ _ _) (runs_bind_error (runs_request_of_failure _ single known _
    (congrArg (Reply.outcome _) (answer _ rfl rfl))))⟩

end

end Session

end Jobflow
