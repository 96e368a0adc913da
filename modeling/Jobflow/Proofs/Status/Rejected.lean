import Jobflow.Proofs.Session.Rejection
import Jobflow.Proofs.Session.Senders
import Jobflow.Proofs.Session.Workers
import Jobflow.Proofs.Status.Query

/-!
# Queries whose session stays rejected

A query sends requests at three stages: it lists the flows, asks for their latest executions,
and asks for the states of these. If the session stays rejected in a request of either batch,
that is what the query comes to, whichever results the requests completed before it have and
whatever the others come to. In the listing of the flows it counts as trouble with the server
instead, and the query comes to another fault.
-/

namespace Jobflow.Status

open Session (Outcome Schedule Rejected StoppedBy senders completed)

/-- A request of one of the two batches of a query is rejected for good, before anything else
stops the query. -/
inductive StopsRejected (first second : Schedule) (project : Value) (flows : List Value)
    (listed : Client) (reason : String) : Prop
  /-- The request for the latest execution of a flow. -/
  | latest (rejected : StoppedBy first (askLatest project) flows listed fun flow sender =>
      Rejected (Session.executionsDraft project flow (.int 0) (.int 1)) reason
        (sender.noted .debug "Listing executions of %s/%s." [project, flow]))
  /-- The request for the state of a latest execution. -/
  | state {outcomes : List Outcome} {fetched noted : Client} {ids byId : List (Value × Value)}
    (latest : Session.latestExecutionsIn first project flows listed = (.ok outcomes, fetched))
    (read : Call.act (Action.ofLogged (latestIds outcomes)) fetched = (.ok ids, noted))
    (executed : (ids.all fun entry => entry.2.same .null) = false)
    (found : flowsById ids = .ok byId)
    (rejected : StoppedBy second Session.execution (byId.map Prod.fst) noted fun id sender =>
      Rejected (Session.executionDraft id) reason
        (sender.noted .debug "Fetching execution %s." [id]))

/-- Listing the flows of a query only does what requests do. -/
theorem within_sortedFlows {related : Client → Client → Prop} (frame : LoginFrame related)
    (project : Value) : (sortedFlows project).Within related :=
  frame.within_bind frame.within_session fun _ =>
    frame.within_bind (QuietFrame.within_mapFault _ (frame.within_flows project)) fun _ =>
      frame.within_ofMishap _

/-- Listing the flows leaves the session as many workers. -/
theorem workers_sortedFlows (project : Value) (start : Client) :
    (sortedFlows project start).2.session.workers = start.session.workers :=
  Client.workers_of_fixed (within_sortedFlows loginFrame_fixed project start)

/-- Asking for the latest executions only does what requests do. -/
theorem within_latestExecutionsIn {related : Client → Client → Prop} (frame : LoginFrame related)
    (schedule : Schedule) (project : Value) (flows : List Value) :
    (Session.latestExecutionsIn schedule project flows).Within related :=
  frame.within_batchIn schedule _ (fun _ => frame.within_executions _ _ _ _) flows

/-- A query stops with what stops its first batch. -/
theorem queryIn_of_latest_error (first second : Schedule) (project : Value)
    (options : QueryOptions) (start listed : Client) (flows : List Value) (fault : Fault)
    (listing : sortedFlows project start = (.ok flows, listed)) (some : flows ≠ [])
    (failed : (Session.latestExecutionsIn first project flows listed).1 = .error fault) :
    (queryIn first second project options start).1 = .error fault := by
  rw [queryIn, Call.bind_of_ok _ listing, if_neg (mt List.isEmpty_iff.mp some)]
  show ((Session.latestExecutionsIn first project flows >>= fun outcomes => _) listed).1 = _
  rw [Call.bind_of_error _ (Prod.ext failed rfl :
    Session.latestExecutionsIn first project flows listed = (.error fault, _))]

/-- A query stops with what stops its second batch. -/
theorem queryIn_of_states_error (first second : Schedule) (project : Value)
    (options : QueryOptions) (start listed fetched noted : Client) (flows : List Value)
    (outcomes : List Outcome) (ids byId : List (Value × Value)) (fault : Fault)
    (listing : sortedFlows project start = (.ok flows, listed)) (some : flows ≠ [])
    (latest : Session.latestExecutionsIn first project flows listed = (.ok outcomes, fetched))
    (read : Call.act (Action.ofLogged (latestIds outcomes)) fetched = (.ok ids, noted))
    (executed : (ids.all fun entry => entry.2.same .null) = false)
    (found : flowsById ids = .ok byId)
    (failed : (Session.executionStatesIn second (byId.map Prod.fst) noted).1 = .error fault) :
    (queryIn first second project options start).1 = .error fault := by
  rw [queryIn, Call.bind_of_ok _ listing, if_neg (mt List.isEmpty_iff.mp some)]
  show ((Session.latestExecutionsIn first project flows >>= fun outcomes => _) listed).1 = _
  rw [Call.bind_of_ok _ latest, Call.bind_of_ok _ read, executed, if_neg Bool.false_ne_true]
  show ((Call.act (Action.ofMishap (flowsById ids)) >>= fun byId => _) noted).1 = _
  rw [found, Call.bind_of_ok _ (Call.act_ofMishap_ok _ noted),
    Call.bind_of_error _ (Prod.ext failed rfl :
      Session.executionStatesIn second (byId.map Prod.fst) noted = (.error fault, _))]

/-- If the session stays rejected in a request of either batch and no request completed before
it stops the query, the query comes to the rejected session, by whatever schedules and whatever
the other requests come to. -/
theorem queryIn_sessionRejected (first second : Schedule) (project : Value)
    (options : QueryOptions) (start listed : Client) (flows : List Value) (reason : String)
    (listing : sortedFlows project start = (.ok flows, listed)) (some : flows ≠ [])
    (workers : 0 < start.session.workers)
    (stops : StopsRejected first second project flows listed reason) :
    (queryIn first second project options start).1 = .error (.sessionRejected reason) := by
  have workersThen : 0 < listed.session.workers := by
    rw [← workers_sortedFlows project start, listing] at workers
    exact workers
  cases stops with
  | latest rejected =>
    apply queryIn_of_latest_error first second project options start listed flows _ listing some
    refine rejected.batchIn_fst workersThen (fun flow sender rejects => ?_) rfl
    obtain ⟨after, failed⟩ := Session.exists_executions_of_rejected project flow (.int 0) (.int 1)
      reason sender rejects
    exact congrArg Prod.fst failed
  | @state outcomes fetched noted ids byId latest read executed found rejected =>
    have asked := within_latestExecutionsIn loginFrame_fixed first project flows listed
    rw [latest] at asked
    have told := loginFrame_fixed.within_ofLogged (latestIds outcomes) fetched
    rw [read] at told
    have workersLast : 0 < noted.session.workers := by
      rw [Client.workers_of_fixed (told.trans asked)]
      exact workersThen
    apply queryIn_of_states_error first second project options start listed fetched noted flows
      outcomes ids byId _ listing some latest read executed found
    refine rejected.batchIn_fst workersLast (fun id sender rejects => ?_) rfl
    obtain ⟨after, failed⟩ := Session.exists_execution_of_rejected id reason sender rejects
    exact congrArg Prod.fst failed

/-! ## A server that accepts no session any more -/

/-- A server that lists three flows and answers nothing else, though it issues ids. -/
def evicting : Script :=
  [{ conditions := [("ajax", "fetchprojectflows")], replies := [plain flowsText] },
   { conditions := [("action", "login")], replies := [Session.issuingReply] },
   { conditions := [], replies := [Session.rejectingReply] }]

/-- A session in front of a server, with an id and a password. -/
def returning (server : Script) : Client where
  session :=
    { user := "me", password := some "secret", url := "http://server:8081", id := .text "abc" }
  world := { folder := "/", tree := { files := .empty }, server }

/-- The request about the last flow, which is sent first, is rejected for good and stops the
query. -/
theorem evicting_stops :
    ∃ listed, sortedFlows (.text "etl") (returning evicting) =
        (.ok [.text "clean", .text "load", .text "report"], listed) ∧
      StopsRejected reversing reversing (.text "etl")
        [.text "clean", .text "load", .text "report"] listed "session" ∧
      (queryIn reversing reversing (.text "etl") {} (returning evicting)).1 =
        .error (.sessionRejected "session") := by
  have single : evicting.Single := by
    intro rule member
    simp only [evicting, List.mem_cons, List.not_mem_nil, or_false] at member
    rcases member with rfl | rfl | rfl <;> exact Nat.le_refl _
  obtain ⟨listing, -⟩ := sortedFlows_threeFlows single
    (rfl : (returning evicting).session.id.truthy = true)
    (fun request ajax => by
      simp [evicting, Script.reply_cons_fst, Rule.matches, Rule.next?, ajax])
    (returning evicting) ⟨rfl, rfl⟩
  have rejected : Rejected
      (Session.executionsDraft (.text "etl") (.text "report") (.int 0) (.int 1)) "session"
      ((Session.flows (.text "etl") (returning evicting)).2.noted .debug
        "Listing executions of %s/%s." [.text "etl", .text "report"]) := by
    rw [Session.rejected_iff_of_known _ _ _ (by decide +kernel)]
    decide +kernel
  have stops : StopsRejected reversing reversing (.text "etl")
      [.text "clean", .text "load", .text "report"]
      (Session.flows (.text "etl") (returning evicting)).2 "session" := by
    obtain ⟨after, failed⟩ := Session.exists_executions_of_rejected _ _ _ _ _ _ rejected
    have distinct : Value.distinct [.text "clean", .text "load", .text "report"] =
        [.text "clean", .text "load", .text "report"] := by cbv
    have sent : senders (askLatest (.text "etl")) [.text "report", .text "load", .text "clean"]
        (Session.flows (.text "etl") (returning evicting)).2 =
        [(.text "report", (Session.flows (.text "etl") (returning evicting)).2)] := by
      rw [senders, askLatest, failed]
      rfl
    refine .latest ⟨by simp [Value.isKey], .text "report", _, [], [], ?_, rejected, ?_, by simp⟩
    · rw [distinct]
      show _ ∈ senders _ [.text "report", .text "load", .text "clean"] _
      rw [sent]
      exact List.mem_cons_self
    · rw [completed, distinct]
      show ((senders _ [.text "report", .text "load", .text "clean"] _).map _).reverse = _
      rw [sent]
      rfl
  exact ⟨_, listing, stops, queryIn_sessionRejected reversing reversing (.text "etl") {}
    (returning evicting) _ _ "session" listing (by simp) (by decide) stops⟩

/-- If the session stays rejected in the listing of the flows, a query comes to trouble with
the server that only mentions it. -/
theorem queryIn_of_rejected_listing (first second : Schedule) (project : Value)
    (options : QueryOptions) (start : Client) (reason : String)
    (rejected : Rejected (Session.flowsDraft project) reason
      (start.noted .debug "Listing flows of project %s." [project])) :
    (queryIn first second project options start).1 =
      .error (.remote (.flowsUnavailable start.session.url
        ("Session rejected by Azkaban server: " ++ reason))) := by
  obtain ⟨after, failed⟩ := Session.exists_flows_of_rejected project reason start rejected
  have renamed : Call.mapFault (flowsFault start.session.url) (Session.flows project) start =
      (.error (flowsFault start.session.url (.sessionRejected reason)), after) := by
    rw [Call.mapFault, failed]
    rfl
  have stopped : sortedFlows project start =
      (.error (flowsFault start.session.url (.sessionRejected reason)), after) := by
    rw [sortedFlows, Call.bind_of_ok _ (Call.session_apply start)]
    exact Call.bind_of_error _ renamed
  rw [queryIn, Call.bind_of_error _ stopped]
  rfl

/-- A server that issues ids but accepts none. -/
def unforgiving : Script :=
  [{ conditions := [("action", "login")], replies := [Session.issuingReply] },
   { conditions := [], replies := [Session.rejectingReply] }]

/-- The session stays rejected in the listing of the flows, and yet no query comes to a
rejected session. -/
theorem unforgiving_hides_rejection :
    Rejected (Session.flowsDraft (.text "etl")) "session"
        ((returning unforgiving).noted .debug "Listing flows of project %s." [.text "etl"]) ∧
      ∀ options reason, (query (.text "etl") options (returning unforgiving)).1 ≠
        .error (.sessionRejected reason) := by
  have rejected : Rejected (Session.flowsDraft (.text "etl")) "session"
      ((returning unforgiving).noted .debug "Listing flows of project %s." [.text "etl"]) := by
    rw [Session.rejected_iff_of_known _ _ _ (by decide +kernel)]
    decide +kernel
  refine ⟨rejected, fun options reason stopped => ?_⟩
  have hidden := queryIn_of_rejected_listing .inOrder .inOrder (.text "etl") options
    (returning unforgiving) "session" rejected
  rw [query, hidden] at stopped
  cases stopped

end Jobflow.Status
