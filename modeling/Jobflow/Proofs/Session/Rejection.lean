import Jobflow.Proofs.Session.Call
import Jobflow.Session.Api

/-!
# Sessions that stay rejected

A request whose session is rejected is sent again with a renewed session, as often as its
draft permits. If every sending is rejected though every renewal succeeds, the session stays
rejected. That is what the request comes to then, and with it each operation that rests on it.
-/

namespace Jobflow

/-- A client after a message was logged. -/
def Client.noted (client : Client) (level : LogLevel) (template : String) (args : List Value) :
    Client :=
  (Call.log level template args client).2

/-- Logging a message gives nothing. -/
theorem Call.log_apply (level : LogLevel) (template : String) (args : List Value)
    (client : Client) :
    log level template args client = (.ok (), client.noted level template args) := by
  obtain ⟨entries, run⟩ := exists_log_apply level template args client
  rw [Client.noted, run]

namespace Session

open Call

/-- A draft is rejected at each of its sendings, with a number of renewals in between, which
all succeed. The reason is that of the last rejection. -/
inductive StaysRejected (draft : Draft) (reason : String) : Nat → Client → Prop
  /-- The last sending is rejected. -/
  | last {client after : Client} {id : Value} {response : Response}
    (sent : sendDraft draft client = (.ok (id, response), after))
    (rejected : response.rejection? = some reason) : StaysRejected draft reason 0 client
  /-- A sending is rejected, and the session is renewed. -/
  | again {renewals : Nat} {client after renewed : Client} {id : Value} {response : Response}
    {former : String} (sent : sendDraft draft client = (.ok (id, response), after))
    (rejected : response.rejection? = some former)
    (renewal : renew id (after.logged [expiredEntry id]) = (.ok (), renewed))
    (later : StaysRejected draft reason renewals renewed) :
    StaysRejected draft reason (renewals + 1) client

/-- A client that sends a draft is rejected for good. Without an id it logs in first. -/
inductive Rejected (draft : Draft) (reason : String) (client : Client) : Prop
  /-- The client has an id. -/
  | known (some : client.session.id.truthy = true)
    (stays : StaysRejected draft reason draft.retries.toNat client)
  /-- The client has none and comes by one. -/
  | missing {ready : Client} (none : client.session.id.truthy = false)
    (login : renew .null client = (.ok (), ready))
    (stays : StaysRejected draft reason draft.retries.toNat ready)

/-- The reason of the last rejection, if a draft is rejected at each of its sendings. -/
def lastRejection? (draft : Draft) : Nat → Client → Option String
  | 0, client =>
    match sendDraft draft client with
    | (.ok (_, response), _) => response.rejection?
    | (.error _, _) => none
  | renewals + 1, client =>
    match sendDraft draft client with
    | (.ok (id, response), after) =>
      response.rejection?.bind fun _ =>
        match renew id (after.logged [expiredEntry id]) with
        | (.ok (), renewed) => lastRejection? draft renewals renewed
        | (.error _, _) => none
    | (.error _, _) => none

/-- Whether a draft is rejected at each of its sendings can be computed. -/
theorem staysRejected_iff (draft : Draft) (reason : String) (renewals : Nat) (client : Client) :
    StaysRejected draft reason renewals client ↔
      lastRejection? draft renewals client = some reason := by
  constructor
  · intro stays
    induction stays with
    | last sent rejected => rw [lastRejection?, sent]; exact rejected
    | again sent rejected renewal later inductionHypothesis =>
      rw [lastRejection?, sent]
      simp only [rejected, Option.bind_some, renewal]
      exact inductionHypothesis
  · induction renewals generalizing client with
    | zero =>
      rcases sent : sendDraft draft client with ⟨_ | ⟨id, response⟩, after⟩
      · simp [lastRejection?, sent]
      · intro rejected
        rw [lastRejection?, sent] at rejected
        exact .last sent rejected
    | succ renewals inductionHypothesis =>
      rcases sent : sendDraft draft client with ⟨_ | ⟨id, response⟩, after⟩
      · simp [lastRejection?, sent]
      · intro found
        rw [lastRejection?, sent] at found
        obtain ⟨former, rejected, found⟩ := Option.bind_eq_some_iff.mp found
        rcases renewal : renew id (after.logged [expiredEntry id]) with ⟨_ | ⟨⟩, renewed⟩
        · rw [renewal] at found
          cases found
        · rw [renewal] at found
          exact .again sent rejected renewal (inductionHypothesis renewed found)

instance (draft : Draft) (reason : String) (renewals : Nat) (client : Client) :
    Decidable (StaysRejected draft reason renewals client) :=
  decidable_of_iff _ (staysRejected_iff draft reason renewals client).symm

/-- A client with an id is rejected for good if the draft stays rejected. -/
theorem rejected_iff_of_known (draft : Draft) (reason : String) (client : Client)
    (known : client.session.id.truthy = true) :
    Rejected draft reason client ↔ StaysRejected draft reason draft.retries.toNat client := by
  refine ⟨fun rejected => ?_, .known known⟩
  cases rejected with
  | known _ stays => exact stays
  | missing none _ _ => rw [none] at known; cases known

/-- Sending comes to a rejected session if it stays rejected. -/
theorem exists_exchange_of_staysRejected {draft : Draft} {reason : String} {renewals : Nat}
    {client : Client} (stays : StaysRejected draft reason renewals client) :
    ∃ after, exchange (sendDraft draft) renew renewals client =
      (.error (.sessionRejected reason), after) := by
  induction stays with
  | @last client after id response sent rejected =>
    refine ⟨after, ?_⟩
    rw [exchange, bind_of_ok _ sent]
    simp only [rejected]
    rfl
  | @again renewals client after renewed id response former sent rejected renewal later
      inductionHypothesis =>
    obtain ⟨last, failed⟩ := inductionHypothesis
    refine ⟨last, ?_⟩
    rw [exchange, bind_of_ok _ sent]
    simp only [rejected]
    have noted : act (Action.log (some (expiredEntry id))) after =
      (.ok (), after.logged [expiredEntry id]) := rfl
    rw [bind_of_ok _ noted, bind_of_ok _ renewal, failed]

/-- A request comes to a rejected session if it is rejected for good. -/
theorem exists_request_of_rejected {draft : Draft} {reason : String} {client : Client}
    (rejected : Rejected draft reason client) :
    ∃ after, request draft client = (.error (.sessionRejected reason), after) := by
  rw [request, bind_of_ok _ (session_apply client)]
  cases rejected with
  | known some stays =>
    obtain ⟨after, failed⟩ := exists_exchange_of_staysRejected stays
    refine ⟨after, ?_⟩
    rw [if_pos some]
    exact bind_of_error _ failed
  | @missing ready none login stays =>
    obtain ⟨after, failed⟩ := exists_exchange_of_staysRejected stays
    refine ⟨after, ?_⟩
    rw [none, if_neg Bool.false_ne_true]
    show (renew .null >>= fun _ => _) client = _
    rw [bind_of_ok _ login]
    exact bind_of_error _ failed

/-! ## Operations -/

/-- The request for the flows of a project. -/
def flowsDraft (project : Value) : Draft where
  method := "GET"
  endpoint := "manager"
  params := some [("ajax", .text "fetchprojectflows"), ("project", project)]

/-- The request for executions of a flow. -/
def executionsDraft (project flow start length : Value) : Draft where
  method := "GET"
  endpoint := "manager"
  params := some [("ajax", .text "fetchFlowExecutions"), ("project", project), ("flow", flow),
    ("start", start), ("length", length)]

/-- The request for the state of an execution. -/
def executionDraft (id : Value) : Draft where
  method := "GET"
  endpoint := "executor"
  params := some [("ajax", .text "fetchexecflow"), ("execid", id)]

/-- Listing flows comes to a rejected session if the request does. -/
theorem exists_flows_of_rejected (project : Value) (reason : String) (client : Client)
    (rejected : Rejected (flowsDraft project) reason
      (client.noted .debug "Listing flows of project %s." [project])) :
    ∃ after, flows project client = (.error (.sessionRejected reason), after) := by
  obtain ⟨after, failed⟩ := exists_request_of_rejected rejected
  refine ⟨after, ?_⟩
  rw [flows, bind_of_ok _ (log_apply _ _ _ client)]
  have listed : mapFault (listingFault project) (request (flowsDraft project))
      (client.noted .debug "Listing flows of project %s." [project]) =
      (.error (.sessionRejected reason), after) := by
    rw [mapFault, failed]
    rfl
  exact bind_of_error _ listed

/-- Listing executions comes to a rejected session if the request does. -/
theorem exists_executions_of_rejected (project flow start length : Value) (reason : String)
    (client : Client)
    (rejected : Rejected (executionsDraft project flow start length) reason
      (client.noted .debug "Listing executions of %s/%s." [project, flow])) :
    ∃ after, executions project flow start length client =
      (.error (.sessionRejected reason), after) := by
  obtain ⟨after, failed⟩ := exists_request_of_rejected rejected
  refine ⟨after, ?_⟩
  rw [executions, bind_of_ok _ (log_apply _ _ _ client)]
  exact bind_of_error _ failed

/-- Fetching the state of an execution comes to a rejected session if the request does. -/
theorem exists_execution_of_rejected (id : Value) (reason : String) (client : Client)
    (rejected : Rejected (executionDraft id) reason
      (client.noted .debug "Fetching execution %s." [id])) :
    ∃ after, execution id client = (.error (.sessionRejected reason), after) := by
  obtain ⟨after, failed⟩ := exists_request_of_rejected rejected
  refine ⟨after, ?_⟩
  rw [execution, bind_of_ok _ (log_apply _ _ _ client)]
  exact bind_of_error _ failed

end Session

end Jobflow
