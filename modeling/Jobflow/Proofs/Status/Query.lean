import Jobflow.Proofs.Session.Serving
import Jobflow.Proofs.Status.Batches
import Jobflow.Proofs.Status.Overview
import Jobflow.Proofs.Status.Targets

/-!
# Reports of status queries

Once a flow has an execution, the report of a query shows each flow it is about by the
answers to the two requests about that flow, whatever the orders of the two batches are and
whichever requests fail. This rests on no execution being the latest one of two flows.
-/

namespace Jobflow.Status

open Session (Schedule)

/-- A report shows flows by the states of their latest executions: a row for each, or a table
for each if it is detailed. -/
def Report.Shows (report : Report) (options : QueryOptions) (now : Value) (targets : List String)
    (state : String → Option Value) : Prop :=
  if isDetailed options then
    report.message = .null ∧
      List.Forall₂ (fun flow table => IsTableOf now (.text flow) (state flow) table)
        targets report.tables
  else
    report = { tables := [{
      title := "Job Statistics for individual flow"
      headers := (["Flow Name", "Latest Exec ID", "Status"] ++ labels).map .text
      rows := targets.map fun flow => rowOf (.text flow) (state flow) }] }

/-- A report shows the flows it is about, if their executions are found by their names. -/
theorem gives_report (options : QueryOptions) (flows : List Value) (executions : Executions)
    (link : Value → String) (now : Value) (targets : List String)
    (state : String → Option Value)
    (selected : selectFlows flows options.flowFilter options.defaultFlows =
      .ok (targets.map .text))
    (found : ∀ flow, executions.of (.text flow) = .ok ((state flow).map executionOf))
    (wellFormed : ∀ flow document, state flow = some document → IsState document)
    (present : IsPresent now) :
    ∃ shown, (report options flows executions link now).Gives shown ∧
      shown.Shows options now targets state := by
  let stateFor (flow : Value) : Option Value := flow.text?.bind state
  have foundFor : ∀ flow ∈ targets.map Value.text,
      executions.of flow = .ok ((stateFor flow).map executionOf) := by
    intro flow member
    obtain ⟨name, _, rfl⟩ := List.mem_map.mp member
    exact found name
  have wellFormedFor : ∀ flow ∈ targets.map Value.text, ∀ document,
      stateFor flow = some document → IsState document := by
    intro flow member
    obtain ⟨name, _, rfl⟩ := List.mem_map.mp member
    exact wellFormed name
  have chosen := Logged.gives_ofMishap selected
  simp only [Report.Shows, report]
  cases detailed : isDetailed options with
  | true =>
    obtain ⟨tables, given, related⟩ := exists_jobTables (targets.map .text) executions stateFor
      (some ⟨link, options.performance⟩) now present foundFor wellFormedFor
    refine ⟨{ tables }, ?_, rfl, List.forall₂_map_left_iff.mp related⟩
    exact Logged.gives_bind chosen
      (Logged.gives_bind (Logged.gives_ofMishap given) (Logged.gives_pure _))
  | false =>
    have summarized := gives_summary (targets.map .text) executions stateFor foundFor wellFormedFor
    rw [List.map_map] at summarized
    exact ⟨_, Logged.gives_bind chosen (Logged.gives_bind summarized (Logged.gives_pure _)), rfl⟩

/-- Once a flow has an execution, a query comes to the report on the executions that its two
batches meet, and logs what failed in the second one. -/
theorem Batches.exists_queryIn_apply {first second : Schedule} {project : Value}
    {names : List String} {listed : Client}
    (batches : Batches first second project names listed) (serves : Serves project names listed)
    (options : QueryOptions) (start : Client)
    (listing : sortedFlows project start = (.ok (names.map .text), listed))
    (executed : ∃ name ∈ names, ∃ listing, batches.latest name = .ok listing ∧
      latestOf listing ≠ .null) (shown : Report)
    (reported : (report options (names.map .text)
      (executionsIn (idsOf batches.outcomes) batches.others)
      batches.ended.session.executionUrl batches.ended.world.now).Gives shown) :
    ∃ last, queryIn first second project options start = (.ok shown,
      (batches.ended.logged (failures "status of execution" batches.others)).logged last) := by
  obtain ⟨name, known, latestListing, result, some⟩ := executed
  have notEmpty : ¬ (names.map Value.text).isEmpty = true := by
    rw [List.isEmpty_iff, List.map_eq_nil_iff]
    exact List.ne_nil_of_mem known
  have notAll : ¬ ((idsOf batches.outcomes).all fun entry => entry.2.same .null) = true := by
    intro all
    have null := List.all_eq_true.mp all _ (batches.mem_idsOf name known latestListing result)
    exact some ((Value.same_null_iff _).mp null)
  have flows := flowsById_eq _ (batches.apart serves)
  have executions := Call.act_of_writes (batches.writes_executions serves) batches.ended
  obtain ⟨last, done⟩ := Call.exists_act_apply reported
    (batches.ended.logged (failures "status of execution" batches.others))
  refine ⟨last, ?_⟩
  rw [queryIn, Call.bind_of_ok _ listing, if_neg notEmpty]
  show (Session.latestExecutionsIn first project _ >>= fun outcomes => _) listed = _
  rw [Call.bind_of_ok _ batches.asked, Call.bind_of_ok _ batches.read, if_neg notAll]
  show (Call.act (Action.ofMishap (flowsById (idsOf batches.outcomes))) >>= fun flows => _)
    (batches.fetched.logged batches.entries) = _
  rw [flows, Call.bind_of_ok _ (Call.act_ofMishap_ok _ _), Call.bind_of_ok _ batches.followed,
    Call.bind_of_ok _ executions]
  exact done

/-- Once a flow has an execution, the report that a query comes to shows each flow it is about by
the answers that its batches meet. -/
theorem Batches.exists_shown {first second : Schedule} {project document : Value}
    {start listed : Client} (batches : Batches first second project (flowsIn document) listed)
    (serves : Serves project (flowsIn document) listed) (options : QueryOptions)
    (answer : Session.flows project start = (.ok document, listed))
    (flowList : IsFlowList document) (named : options.Named) (present : IsPresent start.world.now)
    (executed : ∃ name ∈ flowsIn document, ∃ listing, batches.latest name = .ok listing ∧
      latestOf listing ≠ .null) :
    ∃ targets shown last,
      selectFlows ((flowsIn document).map .text) options.flowFilter options.defaultFlows =
        .ok (targets.map .text) ∧
      queryIn first second project options start = (.ok shown,
        (batches.ended.logged (failures "status of execution" batches.others)).logged last) ∧
      shown.Shows options start.world.now targets
        (stateOf (flowsIn document) batches.latest batches.states) := by
  have fixed := loginFrame_fixed.within_flows project start
  rw [answer] at fixed
  obtain ⟨targets, selected⟩ := exists_selectFlows (flowsIn document) options named
  have now := Client.now_of_fixed (batches.later.fixed.trans fixed)
  have states (flow : String) (state : Value)
      (found : stateOf (flowsIn document) batches.latest batches.states flow = some state) :
      IsState state := by
    obtain ⟨known, listing, result, executed, fetched⟩ := (stateOf_eq_some_iff _ _ _ _ _).mp found
    exact batches.isState serves _ _ state (batches.mem_idsOf flow known listing result) executed
      fetched
  obtain ⟨shown, reported, shows⟩ := gives_report options ((flowsIn document).map .text)
    (executionsIn (idsOf batches.outcomes) batches.others) batches.ended.session.executionUrl
    batches.ended.world.now targets _ selected (batches.answer.of_executionsIn
      (batches.apart serves)) states (now ▸ present)
  have listing := sortedFlows_apply project document start listed answer flowList
  obtain ⟨last, run⟩ :=
    batches.exists_queryIn_apply serves options start listing executed shown reported
  exact ⟨targets, shown, last, selected, run, now ▸ shows⟩

/-- Whatever the orders are in which the requests of the two batches are sent and completed,
and whichever of them fail: once a flow has an execution, a query reports on the flows it is
to report on, in their order, and shows each of them by the answers to its own requests. -/
theorem queryIn_shows (first second : Schedule) (project : Value) (options : QueryOptions)
    (document : Value) (start listed : Client)
    (answer : Session.flows project start = (.ok document, listed))
    (flowList : IsFlowList document) (serves : Serves project (flowsIn document) listed)
    (named : options.Named) (workers : 0 < start.session.workers)
    (present : IsPresent start.world.now) :
    ∃ batches : Batches first second project (flowsIn document) listed,
      (∃ name ∈ flowsIn document, ∃ listing, batches.latest name = .ok listing ∧
        latestOf listing ≠ .null) →
      ∃ targets report,
        selectFlows ((flowsIn document).map .text) options.flowFilter options.defaultFlows =
          .ok (targets.map .text) ∧
        (queryIn first second project options start).1 = .ok report ∧
        report.Shows options start.world.now targets
          (stateOf (flowsIn document) batches.latest batches.states) := by
  have fixed := loginFrame_fixed.within_flows project start
  rw [answer] at fixed
  have workersThen : 0 < listed.session.workers := by
    rw [Client.workers_of_fixed fixed]
    exact workers
  obtain ⟨batches⟩ := serves.nonempty_batches workersThen first second
  refine ⟨batches, fun executed => ?_⟩
  obtain ⟨targets, shown, last, selected, run, shows⟩ :=
    batches.exists_shown serves options answer flowList named present executed
  exact ⟨targets, shown, selected, congrArg Prod.fst run, shows⟩

/-! ## Servers that always answer alike -/

section

variable {session : Session} {script : Script} {project : Value} {listed : Client}

/-- Such a server serves whatever clients a query comes to. -/
theorem Later.serving {client : Client} (later : Later project listed client)
    (start : Serving session script listed)
    (asks : ∀ flow, ∃ result,
      Call.Runs (Serving session script) (askLatest project (.text flow)) result)
    (fetches : ∀ id, ∃ result, Call.Runs (Serving session script) (Session.execution id) result) :
    Serving session script client := by
  induction later with
  | start => exact start
  | asked client flow _ inductionHypothesis =>
    obtain ⟨_, runs⟩ := asks flow
    exact (runs client inductionHypothesis).2
  | fetched client id _ inductionHypothesis =>
    obtain ⟨_, runs⟩ := fetches id
    exact (runs client inductionHypothesis).2
  | logged client entries _ inductionHypothesis =>
    exact Call.serving_logged entries inductionHypothesis

/-- The answer about a flow is what its request always comes to. -/
theorem Batches.latest_eq {first second : Schedule} {names : List String}
    (batches : Batches first second project names listed)
    (serves : ∀ client, Later project listed client → Serving session script client)
    (name : String) (known : name ∈ names) (result : Except Fault Value)
    (runs : Call.Runs (Serving session script) (askLatest project (.text name)) result) :
    batches.latest name = result := by
  obtain ⟨client, later, answer⟩ := batches.ofFlow name known
  rw [← answer]
  exact (runs client (serves client later)).1

end

/-! ## A server with an outage -/

/-- The text of the listing of three flows. -/
def flowsText : String :=
  "\x7b\"flows\": [\x7b\"flowId\": \"report\"\x7d, \x7b\"flowId\": \"load\"\x7d, " ++
    "\x7b\"flowId\": \"clean\"\x7d]\x7d"

/-- The text of the listing of one execution of the flow `load`. -/
def loadText : String := "\x7b\"executions\": [\x7b\"execId\": 7\x7d]\x7d"

/-- The text of the listing of one execution of the flow `report`. -/
def reportText : String := "\x7b\"executions\": [\x7b\"execId\": 8\x7d]\x7d"

/-- The text of the state of the execution of `load`. -/
def stateText : String :=
  "\x7b\"execid\": 7, \"nodes\": [\x7b\"id\": \"fetch\", \"status\": \"FAILED\"\x7d]\x7d"

/-- An answer with a text. -/
def plain (text : String) : Reply := .answer 200 (.text "OK") none text

/-- A server that knows of no listing for the flow `clean` and of no state for the execution
of `report`. -/
def outage : Script :=
  [{ conditions := [("ajax", "fetchprojectflows")], replies := [plain flowsText] },
   { conditions := [("ajax", "fetchFlowExecutions"), ("flow", "load")]
     replies := [plain loadText] },
   { conditions := [("ajax", "fetchFlowExecutions"), ("flow", "report")]
     replies := [plain reportText] },
   { conditions := [("ajax", "fetchexecflow"), ("execid", "7")], replies := [plain stateText] }]

/-- The listing of three flows. -/
def threeFlows : Value :=
  .map (some 0) [("flows", .list (some 1) [.map (some 2) [("flowId", .text "report")],
    .map (some 3) [("flowId", .text "load")], .map (some 4) [("flowId", .text "clean")]])]

/-- The listing of an execution. -/
def listingOf (id : Int) : Value :=
  .map (some 0) [("executions", .list (some 1) [.map (some 2) [("execId", .int id)]])]

/-- The listing of the executions of `load` or of `report`. -/
def IsOutageListing (flow : String) (listing : Value) : Prop :=
  flow = "load" ∧ listing = listingOf 7 ∨ flow = "report" ∧ listing = listingOf 8

/-- The state of the execution of `load`. -/
def failedState : Value :=
  .map (some 0) [("execid", .int 7),
    ("nodes", .list (some 1) [.map (some 2) [("id", .text "fetch"), ("status", .text "FAILED")]])]

/-- A session that the server accepts. -/
def watcher : Session where
  user := "me"
  password := none
  url := "http://server:8081"
  id := .text "abc"

/-- The session in front of the server. -/
def watching : Client where
  session := watcher
  world := { folder := "/", tree := { files := .empty }, server := outage, now := .int 1500000000 }

/-- The server has one reply in each rule. -/
theorem single_outage : outage.Single := by
  intro rule member
  simp only [outage, List.mem_cons, List.not_mem_nil, or_false] at member
  rcases member with rfl | rfl | rfl | rfl <;> exact Nat.le_refl _

/-- What the server replies to a request. -/
theorem outage_reply (request : Request) :
    (outage.reply request).1 =
      if request.field? "ajax" = some "fetchprojectflows" then plain flowsText
      else if request.field? "ajax" = some "fetchFlowExecutions" ∧
        request.field? "flow" = some "load" then plain loadText
      else if request.field? "ajax" = some "fetchFlowExecutions" ∧
        request.field? "flow" = some "report" then plain reportText
      else if request.field? "ajax" = some "fetchexecflow" ∧
        request.field? "execid" = some "7" then plain stateText
      else Script.noRoute := by
  have none : (Script.reply request []).1 = Script.noRoute := rfl
  simp [outage, Script.reply_cons_fst, Rule.matches, Rule.next?, none]

/-- The listings of `load` and `report` are accepted, and so are the state of the former and
the listing of the flows. -/
theorem accepted_texts :
    Accepted flowsText threeFlows ∧ Accepted loadText (listingOf 7) ∧
      Accepted reportText (listingOf 8) ∧ Accepted stateText failedState := by
  refine ⟨?_, ?_, ?_, ?_⟩ <;> constructor <;> cbv

/-- The listing of an execution is well formed. -/
theorem isListing_listingOf (id : Int) : IsListing (listingOf id) where
  listed := .inr ⟨_, _, rfl⟩
  named latest first := by
    obtain rfl := Option.some.inj first
    rfl
  keyable := rfl
  equal := by
    show (Value.int id).same (Value.int id) = true
    simp [Value.same, Value.numeric?, Value.Numeric.same]

/-- The executions that are listed of two flows are two executions. -/
theorem IsOutageListing.apart {flow other : String} {listing rival : Value}
    (first : IsOutageListing flow listing) (second : IsOutageListing other rival)
    (different : flow ≠ other) : (latestOf listing).same (latestOf rival) = false := by
  rcases first with ⟨rfl, rfl⟩ | ⟨rfl, rfl⟩ <;> rcases second with ⟨rfl, rfl⟩ | ⟨rfl, rfl⟩
  · exact absurd rfl different
  · cbv
  · cbv
  · exact absurd rfl different

/-- The state of the execution of `load` is well formed. -/
theorem isState_failedState : IsState failedState where
  mapping := rfl
  listed := .inr ⟨_, _, rfl⟩
  nodes node member := by
    obtain rfl := List.mem_singleton.mp member
    exact ⟨rfl, rfl, .inr ⟨-1, rfl, by decide⟩, .inr ⟨-1, rfl, by decide⟩⟩
  submitted := .inr ⟨-1, rfl, by decide⟩
  started := .inr ⟨-1, rfl, by decide⟩
  ended := .inr ⟨-1, rfl, by decide⟩

/-- The listing of three flows is well formed. -/
theorem isFlowList_threeFlows : IsFlowList threeFlows where
  listed := .inr ⟨_, _, rfl⟩
  named flow member := by
    have items : listOf threeFlows "flows" = [.map (some 2) [("flowId", .text "report")],
      .map (some 3) [("flowId", .text "load")], .map (some 4) [("flowId", .text "clean")]] := rfl
    rw [items] at member
    simp only [List.mem_cons, List.not_mem_nil, or_false] at member
    rcases member with rfl | rfl | rfl <;> exact ⟨_, rfl⟩

/-- The flows in the listing, in order. -/
theorem flowsIn_threeFlows : flowsIn threeFlows = ["clean", "load", "report"] := by cbv

/-- A query of a server that lists three flows comes to these, in order. -/
theorem sortedFlows_threeFlows {session : Session} {script : Script} (single : script.Single)
    (known : session.id.truthy = true)
    (lists : ∀ request, request.field? "ajax" = some "fetchprojectflows" →
      (script.reply request).1 = plain flowsText)
    (client : Client) (serving : Serving session script client) :
    sortedFlows (.text "etl") client = (.ok (["clean", "load", "report"].map .text),
        (Session.flows (.text "etl") client).2) ∧
      Serving session script (Session.flows (.text "etl") client).2 := by
  obtain ⟨flows, _, _, _⟩ := accepted_texts
  obtain ⟨given, listed⟩ := Session.runs_flows (.text "etl") single known flows (.text "OK") none
    lists client serving
  have listing := sortedFlows_apply (.text "etl") threeFlows client _ (Prod.ext given rfl)
    isFlowList_threeFlows
  rw [flowsIn_threeFlows] at listing
  exact ⟨listing, listed⟩

/-- What a request for the latest execution of a flow comes to: an answer, and a listing for
`load` and `report` only. -/
theorem exists_runs_askLatest (flow : String) :
    ∃ result, Call.Runs (Serving watcher outage) (askLatest (.text "etl") (.text flow)) result ∧
      Answers IsListing result ∧
      ∀ listing, result = .ok listing → IsOutageListing flow listing := by
  obtain ⟨_, load, report, _⟩ := accepted_texts
  by_cases first : flow = "load"
  · refine ⟨.ok (listingOf 7), ?_, isListing_listingOf 7, fun listing same => ?_⟩
    · apply Session.runs_executions_of_accepted _ _ _ _ single_outage rfl load (.text "OK") none
      intro request ajax name
      simp [outage_reply, ajax, name, first, plain]
    · exact Or.inl ⟨first, (Except.ok.inj same).symm⟩
  · by_cases second : flow = "report"
    · refine ⟨.ok (listingOf 8), ?_, isListing_listingOf 8, fun listing same => ?_⟩
      · apply Session.runs_executions_of_accepted _ _ _ _ single_outage rfl report (.text "OK") none
        intro request ajax name
        simp [outage_reply, ajax, name, second, plain]
      · exact Or.inr ⟨second, (Except.ok.inj same).symm⟩
    · obtain ⟨url, runs⟩ := Session.runs_executions_of_failure (.text "etl") (.int 0) (.int 1) flow
        single_outage (rfl : watcher.id.truthy = true) .connection "no route" (by
          intro request ajax name
          simp [outage_reply, ajax, name, first, second, Script.noRoute])
      exact ⟨_, runs, rfl, fun listing same => nomatch same⟩

/-- What a request for the state of an execution comes to: an answer. -/
theorem exists_runs_execution (id : Value) :
    ∃ result, Call.Runs (Serving watcher outage) (Session.execution id) result ∧
      Answers IsState result := by
  obtain ⟨_, _, _, state⟩ := accepted_texts
  by_cases known : id.str = "7"
  · refine ⟨.ok failedState, ?_, isState_failedState⟩
    apply Session.runs_execution_of_accepted _ single_outage rfl state (.text "OK") none
    intro request ajax execid
    simp [outage_reply, ajax, execid, known, plain]
  · obtain ⟨url, runs⟩ := Session.runs_execution_of_failure id single_outage
      (rfl : watcher.id.truthy = true) .connection "no route" (by
        intro request ajax execid
        simp [outage_reply, ajax, execid, known, Script.noRoute])
    exact ⟨_, runs, rfl⟩

/-- The server serves whatever clients a query comes to. -/
theorem serving_of_later (listed client : Client) (start : Serving watcher outage listed)
    (later : Later (.text "etl") listed client) : Serving watcher outage client := by
  refine later.serving start (fun flow => ?_) fun id => ?_
  · obtain ⟨result, runs, _⟩ := exists_runs_askLatest flow
    exact ⟨result, runs⟩
  · obtain ⟨result, runs, _⟩ := exists_runs_execution id
    exact ⟨result, runs⟩

/-- The server answers all requests about executions. -/
theorem serves_outage (names : List String) (listed : Client)
    (start : Serving watcher outage listed) : Serves (.text "etl") names listed where
  listings client later name _ := by
    obtain ⟨_, runs, answers, _⟩ := exists_runs_askLatest name
    rw [(runs client (serving_of_later listed client start later)).1]
    exact answers
  states client later id := by
    obtain ⟨_, runs, answers⟩ := exists_runs_execution id
    rw [(runs client (serving_of_later listed client start later)).1]
    exact answers
  apart name _ other _ different client later rival rivalLater listing rivalListing answer
      rivalAnswer _ := by
    obtain ⟨_, runs, _, only⟩ := exists_runs_askLatest name
    obtain ⟨_, rivalRuns, _, rivalOnly⟩ := exists_runs_askLatest other
    have first := only listing
      ((runs client (serving_of_later listed client start later)).1.symm.trans answer)
    have second := rivalOnly rivalListing
      ((rivalRuns rival (serving_of_later listed rival start rivalLater)).1.symm.trans rivalAnswer)
    exact first.apart second different

/-- Last come, first served. -/
def reversing : Schedule where
  sending := List.reverse
  completing := List.reverse
  sending_perm := List.reverse_perm
  completing_perm := List.reverse_perm

/-- Three flows are shown though two requests fail and all orders are reversed. -/
theorem outage_shows :
    ∃ listed, Session.flows (.text "etl") watching = (.ok threeFlows, listed) ∧
      ∃ batches : Batches reversing reversing (.text "etl") (flowsIn threeFlows) listed,
        ∃ targets report,
          selectFlows ((flowsIn threeFlows).map .text) .null .null = .ok (targets.map .text) ∧
          (queryIn reversing reversing (.text "etl") {} watching).1 = .ok report ∧
          report.Shows {} watching.world.now targets
            (stateOf (flowsIn threeFlows) batches.latest batches.states) := by
  obtain ⟨flows, load, _, _⟩ := accepted_texts
  obtain ⟨given, listed⟩ := Session.runs_flows (.text "etl") single_outage rfl flows (.text "OK")
    none (fun request ajax => by simp [outage_reply, ajax, plain]) watching ⟨rfl, rfl⟩
  obtain ⟨batches, shows⟩ := queryIn_shows reversing reversing (.text "etl") {}
    threeFlows watching _ (Prod.ext given rfl) isFlowList_threeFlows (serves_outage _ _ listed)
    ⟨.inl rfl, .inl rfl⟩ (by decide) ⟨1500000000000, by cbv, by decide⟩
  refine ⟨_, Prod.ext given rfl, batches, shows ?_⟩
  -- The flow `load` has an execution.
  have known : "load" ∈ flowsIn threeFlows := by
    have names : (listOf threeFlows "flows").filterMap nameOf? = ["report", "load", "clean"] := rfl
    rw [flowsIn, names, Names.sorted, List.mem_mergeSort]
    exact List.mem_cons_of_mem _ List.mem_cons_self
  have executed : latestOf (listingOf 7) ≠ .null := by
    show Value.int 7 ≠ .null
    simp
  refine ⟨"load", known, listingOf 7, ?_, executed⟩
  obtain ⟨client, later, answer⟩ := batches.ofFlow "load" known
  have asked := Session.runs_executions_of_accepted (.text "etl") (.int 0) (.int 1) "load"
    single_outage (rfl : watcher.id.truthy = true) load (.text "OK") none
    (fun request ajax name => by simp [outage_reply, ajax, name, plain])
  rw [← answer]
  exact (asked client (serving_of_later _ client listed later)).1

end Jobflow.Status
