import Jobflow.Proofs.OrderedMap
import Jobflow.Proofs.Session.Batch
import Jobflow.Proofs.Session.Frame
import Jobflow.Proofs.Session.Rejection
import Jobflow.Proofs.Session.Serving

/-!
# What replies mean

The reply that a request is answered with, once the session is accepted, decides by its status
and text alone what the operation comes to. An error status, a text that is no document and a
document that reports an error are faults of the request, which do not concern others. A
garbled document, in which no report of an error can be looked for, is a fault without wording
instead, and such a fault stops a batch.
-/

namespace Jobflow

namespace Response

/-- A document in which no report of an error can be looked for: it is no mapping, or it has the
status of an error but no message. -/
def Garbled (document : Value) : Prop :=
  document.isMap = false ∨ document.field? "error" = none ∧
    ((document.field? "status").getD .null).same (.text "error") = true ∧
    document.field? "message" = none

/-- A mapping mentions a name if it has a value under it. -/
theorem mentions_map (label : Option Nat) (entries : List (String × Value)) (name : String) :
    (Value.map label entries).mentions name = .ok (entries.lookup name).isSome := by
  have same : (entries.any fun entry => entry.1 == name) = (entries.lookup name).isSome := by
    rw [Bool.eq_iff_iff, lookup_isSome_iff]
    simp
  rw [Value.mentions, same]

/-- A document with an error reports it. -/
theorem reportedError_of_error {document message : Value}
    (error : document.field? "error" = some message) :
    reportedError document = .ok (some message) := by
  cases document with
  | map label entries =>
    have found : entries.lookup "error" = some message := error
    rw [reportedError, mentions_map, found]
    rfl
  | _ => cases error

/-- A mapping without an error, whose status is none either, reports no error. -/
theorem reportedError_of_quiet {document : Value} (mapping : document.isMap = true)
    (quiet : document.field? "error" = none)
    (calm : ((document.field? "status").getD .null).same (.text "error") = false) :
    reportedError document = .ok none := by
  cases document with
  | map label entries =>
    have none : entries.lookup "error" = none := quiet
    have status : ((entries.lookup "status").getD .null).same (.text "error") = false := calm
    rw [reportedError, mentions_map, none]
    simp only [Option.isSome_none, status]
    rfl
  | _ => cases mapping

/-- Looking for the report of an error fails in garbled documents only. -/
theorem exists_reportedError_eq_error_iff (document : Value) :
    (∃ mishap, reportedError document = .error mishap) ↔ Garbled document := by
  cases document with
  | map label entries =>
    unfold reportedError
    rw [mentions_map, Garbled]
    simp only [Value.isMap, Value.field?, Bool.true_eq_false, false_or]
    cases error : entries.lookup "error" with
    | some message => simp [bind, Except.bind, pure, Except.pure]
    | none =>
      cases status : ((entries.lookup "status").getD .null).same (.text "error") with
      | false => simp [bind, Except.bind, pure, Except.pure]
      | true =>
        cases message : entries.lookup "message" with
        | some reason => simp [bind, Except.bind, pure, Except.pure]
        | none => simp [bind, Except.bind, throw, throwThe, MonadExceptOf.throw]
  | list label items | tuple label items =>
    refine iff_of_true ?_ (Or.inl rfl)
    unfold reportedError
    dsimp only [Value.mentions]
    cases items.any fun item => item.same (.text "error") <;> exact ⟨_, rfl⟩
  | text whole =>
    refine iff_of_true ?_ (Or.inl rfl)
    unfold reportedError
    dsimp only [Value.mentions]
    cases Text.holds whole "error" <;> exact ⟨_, rfl⟩
  | _ => exact iff_of_true ⟨_, rfl⟩ (Or.inl rfl)

/-- A reply accepts the session if it is no login page and its text no document with an error. -/
theorem rejection?_eq_none (response : Response)
    (unmarked : (loginMarkers.any fun marker => Text.holds response.text marker) = false)
    (quiet : response.json?.bind (Value.field? "error") = none) : response.rejection? = none := by
  rw [rejection?, unmarked, quiet]
  rfl

/-- What a reply means for an operation. In a reply about a project, an empty text means that
there is no such project. -/
def meaning (project : Option Value) (response : Response) : Except Fault Value :=
  match response.statusFault?, project.filter fun _ => response.text.isEmpty with
  | some fault, _ => .error fault
  | none, some project => .error (.remote (.unknownProject project.str))
  | none, none => (response.document.run.run []).1

/-- A reply that counts as no error and has a garbled document as its text. -/
def IsGarbled (response : Response) : Prop :=
  response.statusFault? = none ∧ ∃ document, response.json? = some document ∧ Garbled document

/-- The text of a reply is no document, or else it is decided by what the document reports. -/
theorem document_fst (response : Response) :
    (response.document.run.run []).1 =
      match response.json? with
      | none => .error (.remote (.undecodable response.url))
      | some document =>
        match reportedError document with
        | .error mishap => .error (.mishap mishap)
        | .ok (some message) => .error (.remote (.reported message))
        | .ok none => .ok document := by
  rw [Response.document]
  cases response.json? with
  | none => rfl
  | some document =>
    dsimp only
    rcases reportedError document with mishap | _ | message <;> rfl

/-- A reply whose text is no document means a fault. -/
theorem exists_meaning_of_unread (project : Option Value) (response : Response)
    (unread : response.json? = none) : ∃ fault, meaning project response = .error fault := by
  rw [meaning, document_fst, unread]
  rcases response.statusFault?, project.filter _ with ⟨_ | fault, _ | name⟩ <;> exact ⟨_, rfl⟩

/-- The fault of a status is a result. -/
theorem isResult_of_statusFault? (response : Response) (fault : Fault)
    (failed : response.statusFault? = some fault) : Session.isResult fault = true := by
  rw [statusFault?] at failed
  split at failed
  · cases failed
  · obtain rfl := Option.some.inj failed
    rfl

/-- A reply without an error status whose text is a document means what that reports. -/
theorem meaning_of_read (project : Option Value) (response : Response) (document : Value)
    (fine : response.statusFault? = none) (filled : response.text.isEmpty = false)
    (read : response.json? = some document) :
    meaning project response =
      match reportedError document with
      | .error mishap => .error (.mishap mishap)
      | .ok (some message) => .error (.remote (.reported message))
      | .ok none => .ok document := by
  rw [meaning, fine, filled, document_fst, read]
  cases project <;> rfl

/-- Every reply is an answer or a garbled one. -/
theorem isAnswer_meaning_iff (project : Option Value) (response : Response) :
    Session.IsAnswer (meaning project response) ↔ ¬ response.IsGarbled := by
  rw [meaning, IsGarbled]
  cases status : response.statusFault? with
  | some fault =>
    refine iff_of_true ?_ (by simp)
    rintro _ ⟨⟩
    exact isResult_of_statusFault? response fault status
  | none =>
    cases unknown : project.filter fun _ => response.text.isEmpty with
    | some name =>
      -- An empty text is no document.
      have empty : response.text = "" := by
        obtain ⟨-, blank⟩ := Option.filter_eq_some_iff.mp unknown
        exact String.isEmpty_iff.mp blank
      have unread : response.json? = none := by
        rw [json?, empty]
        decide +kernel
      refine iff_of_true ?_ fun garbled => ?_
      · rintro _ ⟨⟩
        rfl
      · obtain ⟨-, document, read, -⟩ := garbled
        rw [unread] at read
        cases read
    | none =>
      dsimp only
      rw [document_fst]
      cases read : response.json? with
      | none =>
        refine iff_of_true ?_ (by simp)
        rintro _ ⟨⟩
        rfl
      | some document =>
        have shape := exists_reportedError_eq_error_iff document
        simp only [true_and, Option.some.injEq, exists_eq_left', ← shape]
        rcases found : reportedError document with mishap | _ | message
        · refine iff_of_false (fun answer => ?_) (by simp)
          have counts := answer (.mishap mishap) rfl
          cases counts
        · refine iff_of_true (fun fault failed => ?_) (by simp)
          cases failed
        · refine iff_of_true ?_ (by simp)
          rintro _ ⟨⟩
          rfl

end Response

namespace Session

open Call

/-- Send a draft until the session is accepted: the answer, whatever its status is. -/
def accepted (draft : Draft) : Call Response := do
  let session ← Call.session
  unless session.id.truthy do renew .null
  exchange (sendDraft draft) renew draft.retries.toNat

/-- A request waits for an answer that accepts the session and checks its status. -/
theorem request_eq (draft : Draft) : request draft = accepted draft >>= checkStatus draft := by
  rw [request, accepted, bind_assoc]
  congr 1
  funext session
  cases session.id.truthy with
  | true => rfl
  | false => simp only [Bool.false_eq_true, if_false, bind_assoc]

/-- After the status of an answer is checked, an error status stops, and otherwise the answer
is read. -/
theorem checkStatus_bind_fst (draft : Draft) (response : Response)
    (read : Response → Call Value) (client : Client) :
    ((checkStatus draft response >>= read) client).1 =
      match response.statusFault? with
      | some fault => .error fault
      | none => (read response client).1 := by
  rw [checkStatus]
  cases response.statusFault? with
  | none => rfl
  | some fault =>
    dsimp only
    rw [bind_assoc, bind_of_ok _ (session_apply client), bind_assoc,
      bind_of_ok _ (log_apply _ _ _ client)]
    rfl

/-- An answer about a project is read as its document, unless its text is empty. -/
theorem projectDocument_fst (project : Value) (response : Response) (client : Client) :
    (projectDocument project response client).1 =
      if response.text.isEmpty then .error (.remote (.unknownProject project.str))
      else (response.document.run.run []).1 := by
  rw [projectDocument]
  split
  · rfl
  · rw [document, act_ofLogged]

/-- Listing executions comes to what the reply means. -/
theorem executions_fst (project flow start length : Value) (client after : Client)
    (response : Response)
    (replied : accepted (executionsDraft project flow start length)
      (client.noted .debug "Listing executions of %s/%s." [project, flow]) =
        (.ok response, after)) :
    (executions project flow start length client).1 = response.meaning (some project) := by
  rw [executions, bind_of_ok _ (log_apply _ _ _ client)]
  show ((request (executionsDraft project flow start length) >>= projectDocument project) _).1 = _
  rw [request_eq, bind_assoc, bind_of_ok _ replied, checkStatus_bind_fst, projectDocument_fst,
    Response.meaning]
  cases response.statusFault? with
  | some fault => rfl
  | none => cases response.text.isEmpty <;> rfl

/-- Fetching the state of an execution comes to what the reply means. -/
theorem execution_fst (id : Value) (client after : Client) (response : Response)
    (replied : accepted (executionDraft id) (client.noted .debug "Fetching execution %s." [id]) =
      (.ok response, after)) :
    (execution id client).1 = response.meaning none := by
  rw [execution, bind_of_ok _ (log_apply _ _ _ client)]
  show ((request (executionDraft id) >>= document) _).1 = _
  rw [request_eq, bind_assoc, bind_of_ok _ replied, checkStatus_bind_fst, Response.meaning]
  cases response.statusFault? with
  | some fault => rfl
  | none => rw [document, act_ofLogged]; rfl

/-! ## Servers that always answer alike -/

section

variable {session : Session} {script : Script}

/-- Logging and sending keep a session and what its server says. -/
theorem frame_serving : Frame fun before after => after.session = before.session ∧
    after.world.server.map Rule.fresh = before.world.server.map Rule.fresh where
  refl _ := ⟨rfl, rfl⟩
  trans before after := ⟨after.1.trans before.1, after.2.trans before.2⟩
  logged _ _ := ⟨rfl, rfl⟩
  sent request client := by
    rw [act, Action.send_apply]
    exact ⟨rfl, Script.map_fresh_reply request client.world.server⟩
  prompted _ _ := ⟨rfl, rfl⟩

/-- A call that logs and sends only leaves a client that the server still serves. -/
theorem serving_of_within {α : Type} {call : Call α}
    (within : call.Within fun before after => after.session = before.session ∧
      after.world.server.map Rule.fresh = before.world.server.map Rule.fresh)
    (client : Client) (serving : Serving session script client) :
    Serving session script (call client).2 :=
  ⟨(within client).1.trans serving.session, (within client).2.trans serving.server⟩

/-- A draft is answered with the server's reply, if that accepts the session. -/
theorem runs_accepted (draft : Draft) (single : script.Single)
    (known : session.id.truthy = true) (status : Int) (reason : Value) (url : Option String)
    (text : String)
    (answer : (script.reply (draft.request session session.id)).1 = .answer status reason url text)
    (unrejected : Response.rejection?
      ⟨status, reason, url.getD (draft.request session session.id).url, text⟩ = none) :
    Runs (Serving session script) (accepted draft)
      (.ok ⟨status, reason, url.getD (draft.request session session.id).url, text⟩) := by
  rw [accepted]
  apply runs_bind runs_session
  dsimp only
  rw [if_pos known, exchange]
  apply runs_bind (runs_sendDraft draft single _ (congrArg (Reply.outcome _) answer))
  dsimp only
  rw [unrejected]
  exact runs_pure _

/-- Listing executions comes to what the server's reply means. -/
theorem runs_executions_of_reply (project flow start length : Value) (response : Response)
    (replies : Runs (Serving session script)
      (accepted (executionsDraft project flow start length)) (.ok response)) :
    Runs (Serving session script) (executions project flow start length)
      (response.meaning (some project)) := by
  intro client serving
  obtain ⟨-, ready⟩ := runs_log .debug "Listing executions of %s/%s." [project, flow] client serving
  obtain ⟨given, after⟩ := replies _ ready
  have replied : accepted (executionsDraft project flow start length)
      (client.noted .debug "Listing executions of %s/%s." [project, flow]) = (.ok response, _) :=
    Prod.ext given rfl
  refine ⟨executions_fst project flow start length client _ response replied, ?_⟩
  rw [executions, bind_of_ok _ (log_apply _ _ _ client)]
  show Serving session script ((request (executionsDraft project flow start length) >>=
    projectDocument project) _).2
  rw [request_eq, bind_assoc, bind_of_ok _ replied]
  exact serving_of_within (frame_serving.within_bind (frame_serving.within_checkStatus _ _) fun _ =>
    frame_serving.within_projectDocument project _) _ after

/-- Fetching the state of an execution comes to what the server's reply means. -/
theorem runs_execution_of_reply (id : Value) (response : Response)
    (replies : Runs (Serving session script) (accepted (executionDraft id)) (.ok response)) :
    Runs (Serving session script) (execution id) (response.meaning none) := by
  intro client serving
  obtain ⟨-, ready⟩ := runs_log .debug "Fetching execution %s." [id] client serving
  obtain ⟨given, after⟩ := replies _ ready
  have replied : accepted (executionDraft id)
      (client.noted .debug "Fetching execution %s." [id]) = (.ok response, _) :=
    Prod.ext given rfl
  refine ⟨execution_fst id client _ response replied, ?_⟩
  rw [execution, bind_of_ok _ (log_apply _ _ _ client)]
  show Serving session script ((request (executionDraft id) >>= document) _).2
  rw [request_eq, bind_assoc, bind_of_ok _ replied]
  exact serving_of_within (frame_serving.within_bind (frame_serving.within_checkStatus _ _) fun _ =>
    frame_serving.within_document _) _ after

end

end Session

end Jobflow
