import Jobflow.Proofs.Session.Replies
import Jobflow.Proofs.Session.Senders
import Jobflow.Proofs.Status.Rejected

/-!
# Bad replies to single requests

A bad reply to a request about one flow does not keep a query from reporting on the others: its
status is an error, its text is no document, or the document reports an error. The failure is
logged and the row of the flow is left empty. Garbled documents are another matter: one of them
stops the whole query. A document that reports no error is to be a listing or a state, as the
case may be.
-/

namespace Jobflow.Status

open Session (Outcome Schedule StoppedBy)

/-- A request is answered, or gets a reply that is not garbled and well formed if it is a
document that reports no error. -/
def Bearable (wellFormed : Value → Prop) (project : Option Value) (draft : Draft)
    (sender : Client) (result : Except Fault Value) : Prop :=
  Answers wellFormed result ∨
    ∃ response after, Session.accepted draft sender = (.ok response, after) ∧
      ¬ response.IsGarbled ∧
      ∀ document, response.meaning project = .ok document → wellFormed document

/-- A request that is answered or gets a bearable reply comes to an answer. -/
theorem Bearable.answers {wellFormed : Value → Prop} {project : Option Value} {draft : Draft}
    {sender : Client} {result : Except Fault Value}
    (bearable : Bearable wellFormed project draft sender result)
    (means : ∀ response after, Session.accepted draft sender = (.ok response, after) →
      result = response.meaning project) : Answers wellFormed result := by
  rcases bearable with answers | ⟨response, after, replied, clean, formed⟩
  · exact answers
  · have same := means response after replied
    have answer := (Response.isAnswer_meaning_iff project response).mpr clean
    rw [← same] at answer formed
    cases result with
    | ok document => exact formed document rfl
    | error fault => exact answer fault rfl

/-- Each request about one of some flows is answered or gets a bearable reply. -/
structure BearableReplies (project : Value) (names : List String) (start : Client) : Prop where
  /-- The replies about the latest executions. -/
  listings : ∀ client, Later project start client → ∀ name ∈ names,
    Bearable IsListing (some project)
      (Session.executionsDraft project (.text name) (.int 0) (.int 1))
      (client.noted .debug "Listing executions of %s/%s." [project, .text name])
      (askLatest project (.text name) client).1
  /-- The replies about the states of executions. -/
  states : ∀ client, Later project start client → ∀ id,
    Bearable IsState none (Session.executionDraft id)
      (client.noted .debug "Fetching execution %s." [id]) (Session.execution id client).1
  /-- The latest executions of two flows are two executions. -/
  apart : ∀ name ∈ names, ∀ other ∈ names, name ≠ other →
    ∀ client, Later project start client → ∀ later, Later project start later →
    ∀ listing rival, (askLatest project (.text name) client).1 = .ok listing →
      (askLatest project (.text other) later).1 = .ok rival →
      latestOf listing ≠ .null → (latestOf listing).same (latestOf rival) = false

/-- Bearable replies answer the requests. -/
theorem BearableReplies.serves {project : Value} {names : List String} {start : Client}
    (replies : BearableReplies project names start) : Serves project names start where
  listings client later name known :=
    (replies.listings client later name known).answers fun response after replied =>
      Session.executions_fst project (.text name) (.int 0) (.int 1) client after response replied
  states client later id :=
    (replies.states client later id).answers fun response after replied =>
      Session.execution_fst id client after response replied
  apart := replies.apart

/-! ## What stays in the log -/

/-- What is logged before the second batch is still logged after it. -/
theorem Batches.log_fetched {first second : Schedule} {project : Value} {names : List String}
    {listed : Client} (batches : Batches first second project names listed) :
    (batches.fetched.logged batches.entries).world.log <+: batches.ended.world.log := by
  have within := loginFrame_log.within_batchIn second Session.execution
    (fun id => loginFrame_log.within_execution id)
    ((flowsOf (idsOf batches.outcomes)).map Prod.fst) (batches.fetched.logged batches.entries)
  have followed : Session.batchIn second Session.execution
    ((flowsOf (idsOf batches.outcomes)).map Prod.fst) (batches.fetched.logged batches.entries) =
      (.ok batches.others, batches.ended) := batches.followed
  rw [followed] at within
  exact within

/-- A failure is logged under the key of its request. -/
theorem mem_failures (what : String) (outcomes : List Outcome) (key : Value) (fault : Fault)
    (failed : (key, .error fault) ∈ outcomes) :
    failureEntry what key fault ∈ failures what outcomes :=
  List.mem_filterMap.mpr ⟨_, failed, rfl⟩

/-- Whatever the replies to requests about single flows are, as long as they are bearable: once a
flow has an execution, a query reports on the flows it is to report on and shows each of them by
the replies to its own requests. The row of a flow about which a request failed is empty, and the
failure is logged. -/
theorem queryIn_shows_despite_bad_replies (first second : Schedule) (project : Value)
    (options : QueryOptions) (document : Value) (start listed : Client)
    (answer : Session.flows project start = (.ok document, listed))
    (flowList : IsFlowList document)
    (replies : BearableReplies project (flowsIn document) listed)
    (named : options.Named) (workers : 0 < start.session.workers)
    (present : IsPresent start.world.now) :
    ∃ batches : Batches first second project (flowsIn document) listed,
      (∃ name ∈ flowsIn document, ∃ listing, batches.latest name = .ok listing ∧
        latestOf listing ≠ .null) →
      ∃ targets report after,
        selectFlows ((flowsIn document).map .text) options.flowFilter options.defaultFlows =
          .ok (targets.map .text) ∧
        queryIn first second project options start = (.ok report, after) ∧
        report.Shows options start.world.now targets
          (stateOf (flowsIn document) batches.latest batches.states) ∧
        ∀ flow ∈ flowsIn document,
          (∀ fault, batches.latest flow = .error fault →
            stateOf (flowsIn document) batches.latest batches.states flow = none ∧
              failureEntry "executions of flow" (.text flow) fault ∈ after.world.log) ∧
          ∀ listing fault, batches.latest flow = .ok listing → latestOf listing ≠ .null →
            batches.states (latestOf listing) = .error fault →
            stateOf (flowsIn document) batches.latest batches.states flow = none ∧
              failureEntry "status of execution" (latestOf listing) fault ∈ after.world.log := by
  have serves := replies.serves
  have fixed := loginFrame_fixed.within_flows project start
  rw [answer] at fixed
  have workersThen : 0 < listed.session.workers := by
    rw [Client.workers_of_fixed fixed]
    exact workers
  obtain ⟨batches⟩ := serves.nonempty_batches workersThen first second
  refine ⟨batches, fun executed => ?_⟩
  obtain ⟨targets, shown, last, selected, run, shows⟩ :=
    batches.exists_shown serves options answer flowList named present executed
  refine ⟨targets, shown, _, selected, run, shows, fun flow known => ⟨?_, ?_⟩⟩
  · intro fault failed
    refine ⟨by simp [stateOf, failed], ?_⟩
    have member : (.text flow, .error fault) ∈ batches.outcomes :=
      (batches.answer.latest _ _).mpr ⟨flow, known, rfl, failed.symm⟩
    have entry := mem_failures "executions of flow" _ _ _ member
    rw [← batches.entries_eq serves] at entry
    exact List.mem_append_left _ (List.mem_append_left _
      (batches.log_fetched.subset (List.mem_append_right _ entry)))
  · intro listing fault found some failed
    refine ⟨by simp [stateOf, found, failed, Except.toOption], ?_⟩
    have owned := batches.mem_idsOf flow known listing found
    have member : (latestOf listing, .error fault) ∈ batches.others :=
      (batches.answer.states _ _).mpr ⟨⟨_, owned⟩, some, failed.symm⟩
    have entry := mem_failures "status of execution" _ _ _ member
    exact List.mem_append_left _ (List.mem_append_right _ entry)

/-! ## A server that fails now and then -/

/-- A reply that is no document. -/
def brokenReply : Reply := plain "Out of order."

/-- A reply with an error status. -/
def failingReply : Reply := .answer 500 (.text "Internal Server Error") none "[]"

/-- A server that replies with no document about the flow `clean` and with an error status about
the execution of `report`. -/
def clumsy : Script :=
  { conditions := [("ajax", "fetchFlowExecutions"), ("flow", "clean")]
    replies := [brokenReply] } ::
  { conditions := [("ajax", "fetchexecflow"), ("execid", "8")], replies := [failingReply] } ::
  outage

/-- The session in front of the server. -/
def patient : Client where
  session := watcher
  world := { folder := "/", tree := { files := .empty }, server := clumsy, now := .int 1500000000 }

/-- The server has one reply in each rule. -/
theorem single_clumsy : clumsy.Single := by
  intro rule member
  rcases List.mem_cons.mp member with rfl | member
  · exact Nat.le_refl _
  · rcases List.mem_cons.mp member with rfl | member
    · exact Nat.le_refl _
    · exact single_outage rule member

/-- What the server replies to a request. -/
theorem clumsy_reply (request : Request) :
    (clumsy.reply request).1 =
      if request.field? "ajax" = some "fetchFlowExecutions" ∧
        request.field? "flow" = some "clean" then brokenReply
      else if request.field? "ajax" = some "fetchexecflow" ∧
        request.field? "execid" = some "8" then failingReply
      else (outage.reply request).1 := by
  simp [clumsy, Script.reply_cons_fst, Rule.matches, Rule.next?]

/-- The reply about the flow `clean` accepts the session and is no document. -/
theorem exists_runs_clean :
    ∃ response, Call.Runs (Serving watcher clumsy)
        (Session.accepted (Session.executionsDraft (.text "etl") (.text "clean") (.int 0) (.int 1)))
        (.ok response) ∧ response.statusFault? = none ∧ response.json? = none := by
  have unread : Json.read? "Out of order." = none := by cbv
  refine ⟨_, Session.runs_accepted _ single_clumsy rfl 200 (.text "OK") none "Out of order." ?_ ?_,
    rfl, unread⟩
  · rw [clumsy_reply, if_pos ⟨rfl, rfl⟩]
    rfl
  · apply Response.rejection?_eq_none
    · cbv
    · rw [Response.json?, unread]
      rfl

/-- The reply about the execution of `report` accepts the session and has an error status. -/
theorem exists_runs_report (id : Value) (named : id.str = "8") :
    ∃ response, Call.Runs (Serving watcher clumsy)
        (Session.accepted (Session.executionDraft id)) (.ok response) ∧
      ∃ fault, response.statusFault? = some fault := by
  have read : Json.read? "[]" = some (.list (some 0) []) := by cbv
  refine ⟨_, Session.runs_accepted _ single_clumsy rfl 500 (.text "Internal Server Error") none
    "[]" ?_ ?_, _, rfl⟩
  · have ajax : ((Session.executionDraft id).request watcher watcher.id).field? "ajax" =
        some "fetchexecflow" := rfl
    have execid : ((Session.executionDraft id).request watcher watcher.id).field? "execid" =
        some "8" := congrArg some named
    rw [clumsy_reply, if_neg (by simp [ajax]), if_pos ⟨ajax, execid⟩]
    rfl
  · apply Response.rejection?_eq_none
    · cbv
    · rw [Response.json?, read]
      rfl

/-- What a request for the latest execution of a flow comes to: a listing for `load` and `report`
only. -/
theorem exists_runs_askLatest_clumsy (flow : String) :
    ∃ result, Call.Runs (Serving watcher clumsy) (askLatest (.text "etl") (.text flow)) result ∧
      (flow ≠ "clean" → Answers IsListing result) ∧
      ∀ listing, result = .ok listing → IsOutageListing flow listing := by
  obtain ⟨_, load, report, _⟩ := accepted_texts
  by_cases broken : flow = "clean"
  · subst broken
    obtain ⟨response, runs, clean, unread⟩ := exists_runs_clean
    obtain ⟨fault, failed⟩ :=
      Response.exists_meaning_of_unread (some (.text "etl")) response unread
    refine ⟨_, Session.runs_executions_of_reply (.text "etl") (.text "clean") (.int 0) (.int 1)
      response runs, fun other => absurd rfl other, fun listing same => ?_⟩
    rw [failed] at same
    cases same
  · by_cases first : flow = "load"
    · refine ⟨.ok (listingOf 7), ?_, fun _ => isListing_listingOf 7, fun listing same => ?_⟩
      · apply Session.runs_executions_of_accepted _ _ _ _ single_clumsy rfl load (.text "OK") none
        intro request ajax name
        simp [clumsy_reply, outage_reply, ajax, name, first, plain]
      · exact Or.inl ⟨first, (Except.ok.inj same).symm⟩
    · by_cases second : flow = "report"
      · refine ⟨.ok (listingOf 8), ?_, fun _ => isListing_listingOf 8, fun listing same => ?_⟩
        · apply Session.runs_executions_of_accepted _ _ _ _ single_clumsy rfl report (.text "OK")
            none
          intro request ajax name
          simp [clumsy_reply, outage_reply, ajax, name, second, plain]
        · exact Or.inr ⟨second, (Except.ok.inj same).symm⟩
      · obtain ⟨url, runs⟩ := Session.runs_executions_of_failure (.text "etl") (.int 0) (.int 1)
          flow single_clumsy (rfl : watcher.id.truthy = true) .connection "no route" (by
            intro request ajax name
            simp [clumsy_reply, outage_reply, ajax, name, broken, first, second, Script.noRoute])
        refine ⟨_, runs, fun _ => rfl, fun listing same => ?_⟩
        cases same

/-- What a request for the state of an execution comes to. -/
theorem exists_runs_execution_clumsy (id : Value) :
    ∃ result, Call.Runs (Serving watcher clumsy) (Session.execution id) result ∧
      (id.str ≠ "8" → Answers IsState result) := by
  obtain ⟨_, _, _, state⟩ := accepted_texts
  by_cases failing : id.str = "8"
  · obtain ⟨response, runs, _⟩ := exists_runs_report id failing
    exact ⟨_, Session.runs_execution_of_reply id response runs, fun other => absurd failing other⟩
  · by_cases known : id.str = "7"
    · refine ⟨.ok failedState, ?_, fun _ => isState_failedState⟩
      apply Session.runs_execution_of_accepted _ single_clumsy rfl state (.text "OK") none
      intro request ajax execid
      simp [clumsy_reply, outage_reply, ajax, execid, known, plain]
    · obtain ⟨url, runs⟩ := Session.runs_execution_of_failure id single_clumsy
        (rfl : watcher.id.truthy = true) .connection "no route" (by
          intro request ajax execid
          simp [clumsy_reply, outage_reply, ajax, execid, failing, known, Script.noRoute])
      exact ⟨_, runs, fun _ => rfl⟩

/-- The server serves whatever clients a query comes to. -/
theorem serving_clumsy_of_later (listed client : Client) (start : Serving watcher clumsy listed)
    (later : Later (.text "etl") listed client) : Serving watcher clumsy client := by
  refine later.serving start (fun flow => ?_) fun id => ?_
  · obtain ⟨result, runs, _⟩ := exists_runs_askLatest_clumsy flow
    exact ⟨result, runs⟩
  · obtain ⟨result, runs, _⟩ := exists_runs_execution_clumsy id
    exact ⟨result, runs⟩

/-- The replies of the server are bearable. -/
theorem bearableReplies_clumsy (names : List String) (listed : Client)
    (start : Serving watcher clumsy listed) : BearableReplies (.text "etl") names listed where
  listings client later name _ := by
    have serving := serving_clumsy_of_later listed client start later
    by_cases broken : name = "clean"
    · subst broken
      obtain ⟨response, runs, clean, unread⟩ := exists_runs_clean
      obtain ⟨_, noted⟩ := Call.runs_log .debug "Listing executions of %s/%s."
        [.text "etl", .text "clean"] client serving
      obtain ⟨fault, failed⟩ :=
        Response.exists_meaning_of_unread (some (.text "etl")) response unread
      refine Or.inr ⟨response, _, Prod.ext (runs _ noted).1 rfl, ?_, fun document means => ?_⟩
      · rintro ⟨-, document, read, -⟩
        rw [unread] at read
        cases read
      · rw [failed] at means
        cases means
    · obtain ⟨_, runs, answers, _⟩ := exists_runs_askLatest_clumsy name
      rw [(runs client serving).1]
      exact Or.inl (answers broken)
  states client later id := by
    have serving := serving_clumsy_of_later listed client start later
    by_cases failing : id.str = "8"
    · obtain ⟨response, runs, fault, status⟩ := exists_runs_report id failing
      obtain ⟨_, noted⟩ := Call.runs_log .debug "Fetching execution %s." [id] client serving
      refine Or.inr ⟨response, _, Prod.ext (runs _ noted).1 rfl, ?_, fun document means => ?_⟩
      · rintro ⟨fine, -⟩
        rw [status] at fine
        cases fine
      · rw [Response.meaning, status] at means
        cases means
    · obtain ⟨_, runs, answers⟩ := exists_runs_execution_clumsy id
      rw [(runs client serving).1]
      exact Or.inl (answers failing)
  apart name _ other _ different client later rival rivalLater listing rivalListing answer
      rivalAnswer _ := by
    obtain ⟨_, runs, _, only⟩ := exists_runs_askLatest_clumsy name
    obtain ⟨_, rivalRuns, _, rivalOnly⟩ := exists_runs_askLatest_clumsy other
    have first := only listing
      ((runs client (serving_clumsy_of_later listed client start later)).1.symm.trans answer)
    have second := rivalOnly rivalListing ((rivalRuns rival
      (serving_clumsy_of_later listed rival start rivalLater)).1.symm.trans rivalAnswer)
    exact first.apart second different

/-- The flow `load` is shown though the replies about both other flows are bad. The failure to
list the executions of `clean` is logged. -/
theorem clumsy_shows :
    ∃ listed, Session.flows (.text "etl") patient = (.ok threeFlows, listed) ∧
      ∃ batches : Batches reversing reversing (.text "etl") (flowsIn threeFlows) listed,
        ∃ targets report after fault,
          queryIn reversing reversing (.text "etl") {} patient = (.ok report, after) ∧
          report.Shows {} patient.world.now targets
            (stateOf (flowsIn threeFlows) batches.latest batches.states) ∧
          stateOf (flowsIn threeFlows) batches.latest batches.states "clean" = none ∧
          failureEntry "executions of flow" (.text "clean") fault ∈ after.world.log := by
  obtain ⟨flows, load, _, _⟩ := accepted_texts
  have lists : Call.Runs (Serving watcher clumsy) (Session.flows (.text "etl")) (.ok threeFlows) :=
    Session.runs_flows (.text "etl") single_clumsy rfl flows (.text "OK") none
      fun request ajax => by simp [clumsy_reply, outage_reply, ajax, plain]
  obtain ⟨given, listed⟩ := lists patient ⟨rfl, rfl⟩
  obtain ⟨batches, shows⟩ := queryIn_shows_despite_bad_replies reversing reversing (.text "etl") {}
    threeFlows patient _ (Prod.ext given rfl) isFlowList_threeFlows
    (bearableReplies_clumsy _ _ listed) ⟨.inl rfl, .inl rfl⟩ (by decide)
    ⟨1500000000000, by cbv, by decide⟩
  have serving (client : Client) (later : Later (.text "etl") _ client) :
      Serving watcher clumsy client := serving_clumsy_of_later _ client listed later
  have known (name : String) (among : name ∈ ["clean", "load", "report"]) :
      name ∈ flowsIn threeFlows := flowsIn_threeFlows ▸ among
  -- The flow `load` has an execution.
  have executed : latestOf (listingOf 7) ≠ .null := by
    show Value.int 7 ≠ .null
    simp
  have found : batches.latest "load" = .ok (listingOf 7) := by
    apply batches.latest_eq serving "load" (known "load" (by simp))
    exact Session.runs_executions_of_accepted (.text "etl") (.int 0) (.int 1) "load"
      single_clumsy (rfl : watcher.id.truthy = true) load (.text "OK") none
      (fun request ajax name => by simp [clumsy_reply, outage_reply, ajax, name, plain])
  obtain ⟨targets, report, after, _, run, shown, failures⟩ :=
    shows ⟨"load", known "load" (by simp), listingOf 7, found, executed⟩
  -- The request about `clean` failed.
  have failed : ∃ fault, batches.latest "clean" = .error fault := by
    obtain ⟨response, runs, _, unread⟩ := exists_runs_clean
    obtain ⟨fault, means⟩ := Response.exists_meaning_of_unread (some (.text "etl")) response unread
    refine ⟨fault, batches.latest_eq serving "clean" (known "clean" (by simp)) _ ?_⟩
    rw [← means]
    exact Session.runs_executions_of_reply (.text "etl") (.text "clean") (.int 0) (.int 1) response
      runs
  obtain ⟨fault, failed⟩ := failed
  obtain ⟨empty, logged⟩ := (failures "clean" (known "clean" (by simp))).1 fault failed
  exact ⟨_, Prod.ext given rfl, batches, targets, report, after, fault, run, shown, empty, logged⟩

/-! ## Garbled replies -/

/-- A garbled reply about a flow stops the query, unless another request stops it before. -/
theorem queryIn_of_garbled (first second : Schedule) (project : Value) (options : QueryOptions)
    (start listed : Client) (flows : List Value) (mishap : Mishap)
    (listing : sortedFlows project start = (.ok flows, listed)) (nonempty : flows ≠ [])
    (workers : 0 < start.session.workers)
    (stops : StoppedBy first (askLatest project) flows listed fun flow sender =>
      ∃ response after, Session.accepted
          (Session.executionsDraft project flow (.int 0) (.int 1))
          (sender.noted .debug "Listing executions of %s/%s." [project, flow]) =
            (.ok response, after) ∧
        response.meaning (some project) = .error (.mishap mishap)) :
    (queryIn first second project options start).1 = .error (.mishap mishap) := by
  have workersThen : 0 < listed.session.workers := by
    rw [← workers_sortedFlows project start, listing] at workers
    exact workers
  apply queryIn_of_latest_error first second project options start listed flows _ listing nonempty
  refine stops.batchIn_fst workersThen (fun flow sender stands => ?_) rfl
  obtain ⟨response, after, replied, means⟩ := stands
  exact (Session.executions_fst project flow (.int 0) (.int 1) sender after response replied).trans
    means

/-- A garbled reply. -/
def garbledReply : Reply := plain "[]"

/-- A server whose reply about the flow `clean` is garbled. -/
def confusing : Script :=
  { conditions := [("ajax", "fetchFlowExecutions"), ("flow", "clean")]
    replies := [garbledReply] } ::
  outage

/-- The session in front of the server. -/
def confused : Client where
  session := watcher
  world := { folder := "/", tree := { files := .empty }, server := confusing, now := .int 1500000000 }

/-- The reply about one flow is no rejection of the session, and the request about another one
is answered with an execution, and yet the query comes to no report. -/
theorem garbledReply_stops_query :
    (∀ request, ∃ response, garbledReply.outcome request = .ok response ∧
      response.rejection? = none) ∧
    (∀ client, Serving watcher confusing client →
      (askLatest (.text "etl") (.text "load") client).1 = .ok (listingOf 7)) ∧
    ∀ shown, (query (.text "etl") {} confused).1 ≠ .ok shown := by
  obtain ⟨_, load, _, _⟩ := accepted_texts
  have single : confusing.Single := by
    intro rule member
    rcases List.mem_cons.mp member with rfl | member
    · exact Nat.le_refl _
    · exact single_outage rule member
  have replies (request : Request) : (confusing.reply request).1 =
      if request.field? "ajax" = some "fetchFlowExecutions" ∧
        request.field? "flow" = some "clean" then garbledReply
      else (outage.reply request).1 := by
    simp [confusing, Script.reply_cons_fst, Rule.matches, Rule.next?]
  have read : Json.read? "[]" = some (.list (some 0) []) := by cbv
  have unrejected (status : Int) (reason : Value) (url : String) :
      Response.rejection? ⟨status, reason, url, "[]"⟩ = none := by
    apply Response.rejection?_eq_none
    · cbv
    · rw [Response.json?, read]
      rfl
  refine ⟨fun request => ⟨_, rfl, unrejected _ _ _⟩, fun client serving => ?_, ?_⟩
  · have asked := Session.runs_executions_of_accepted (.text "etl") (.int 0) (.int 1) "load"
      single (rfl : watcher.id.truthy = true) load (.text "OK") none
      (fun request ajax name => by simp [replies, outage_reply, ajax, name, plain])
    exact (asked client serving).1
  · obtain ⟨listing, listed⟩ := sortedFlows_threeFlows single (rfl : watcher.id.truthy = true)
      (fun request ajax => by simp [replies, outage_reply, ajax]) confused ⟨rfl, rfl⟩
    -- The reply is accepted, and nothing can be made of what it holds.
    have accepts : Call.Runs (Serving watcher confusing)
        (Session.accepted (Session.executionsDraft (.text "etl") (.text "clean") (.int 0) (.int 1)))
        (.ok ⟨200, .text "OK", _, "[]"⟩) :=
      Session.runs_accepted _ single rfl 200 (.text "OK") none "[]"
        (by rw [replies, if_pos ⟨rfl, rfl⟩]; rfl) (unrejected _ _ _)
    have means (url : String) : Response.meaning (some (.text "etl"))
        ⟨200, .text "OK", url, "[]"⟩ = .error (.mishap .missingOperation) :=
      Response.meaning_of_read _ _ (.list (some 0) []) rfl rfl read
    obtain ⟨_, noted⟩ := Call.runs_log .debug "Listing executions of %s/%s."
      [.text "etl", .text "clean"] _ listed
    have stops : StoppedBy .inOrder (askLatest (.text "etl"))
        (["clean", "load", "report"].map .text) (Session.flows (.text "etl") confused).2
        fun flow sender => ∃ response after, Session.accepted
            (Session.executionsDraft (.text "etl") flow (.int 0) (.int 1))
            (sender.noted .debug "Listing executions of %s/%s." [.text "etl", flow]) =
              (.ok response, after) ∧
          response.meaning (some (.text "etl")) = .error (.mishap .missingOperation) :=
      ⟨by simp [Value.isKey], .text "clean", _, [], _, List.mem_cons_self,
        ⟨_, _, Prod.ext (accepts _ noted).1 rfl, means _⟩, rfl, by simp⟩
    have stopped := queryIn_of_garbled .inOrder .inOrder (.text "etl") {} confused _ _
      .missingOperation listing (by simp) (by decide) stops
    intro shown answer
    rw [query, stopped] at answer
    cases answer

end Jobflow.Status
