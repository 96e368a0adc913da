import Jobflow.Session.Batch
import Jobflow.Status.Overview

/-!
# Status queries

A query reports on the latest execution of each flow of a project. It asks the server for
the flows, for the latest execution of each, and for the state of these executions. What
cannot be fetched is logged and left out; it does not keep the rest from being reported.
-/

namespace Jobflow.Status

variable [Handlers]

open Session (Outcome Schedule)

/-- What a query is to report on. -/
structure QueryOptions where
  /-- The flows asked for: a comma separated text or a list. -/
  flowFilter : Value := .null
  /-- The flows reported on when none are asked for. -/
  defaultFlows : Value := .null
  /-- Whether to report on each job. By default this depends on whether flows are asked
  for. -/
  detailed : Value := .null
  /-- The server of performance reports. -/
  performance : Option String := none

/-- The text of a filter. -/
def filterText (flowFilter : Value) : Except Mishap String :=
  match flowFilter with
  | .text text => .ok text
  | other => do
    let names ← (← Execution.itemsOf other).mapM fun item =>
      match item with
      | .text name => .ok name
      | _ => .error .wrongShape
    return Text.join "," names

/-- The flows to report on: those of the filter if it has any, else the default ones if
there are any, else all. -/
def selectFlows (flows : List Value) (flowFilter defaultFlows : Value) :
    Except Mishap (List Value) := do
  let names ←
    if flowFilter.truthy then (filterText flowFilter).map Names.split else pure []
  if names.isEmpty then
    if defaultFlows.truthy then Execution.itemsOf defaultFlows else return flows
  else return names.map Value.text

/-- The value of a key in an item that has to be a mapping. -/
def entryIn (key : String) (item : Value) : Except Mishap Value :=
  match item with
  | .map _ entries =>
    match entries.lookup key with
    | some value => .ok value
    | none => .error .missingKey
  | _ => .error .wrongShape

/-- The names of flows in a document, sorted. -/
def flowNames (document : Value) : Except Mishap (List Value) := do
  let flows ← Execution.itemsOf ((document.field? "flows").getD .null)
  let names ← flows.mapM (entryIn "flowId")
  match Value.sorted? names with
  | some sorted => .ok sorted
  | none => .error .wrongShape

/-- What a trouble with the server means for a query as a whole. -/
def flowsFault (server : String) (fault : Fault) : Fault :=
  if fault.isRemote then .remote (.flowsUnavailable server fault.text) else fault

/-- The flows of a project, sorted by name. -/
def sortedFlows (project : Value) : Call (List Value) := do
  let session ← Call.session
  let document ← Call.mapFault (flowsFault session.url) (Session.flows project)
  Call.act (Action.ofMishap (flowNames document))

/-- The latest execution's id in a document, nothing if there is no execution. -/
def latestId (document : Value) : Except Mishap Value :=
  let found := (document.field? "executions").getD .null
  if !found.truthy then .ok .null
  else
    match found with
    | .list _ (latest :: _) => entryIn "execId" latest
    | .map .. => .error .missingKey
    | _ => .error .wrongShape

/-- The log entry of a failure to fetch something. -/
def failureEntry (what : String) (key : Value) (fault : Fault) : LogEntry :=
  ⟨.error, "Could not get " ++ what ++ " " ++ key.str ++ ": " ++ fault.text⟩

/-- The ids of the latest executions by flow, from the outcomes of asking for them. Flows
whose executions could not be fetched are logged and left out. -/
def latestIds : List Outcome → Logged (List (Value × Value))
  | [] => pure []
  | (flow, .ok document) :: rest => do
    let id ← Logged.ofMishap (latestId document)
    return (flow, id) :: (← latestIds rest)
  | (flow, .error fault) :: rest => do
    Logged.log (some (failureEntry "executions of flow" flow fault))
    latestIds rest

/-- Give a key a value among entries whose keys are values. -/
def put (key value : Value) : List (Value × Value) → List (Value × Value)
  | [] => [(key, value)]
  | (other, old) :: rest =>
    if key.same other then (other, value) :: rest else (other, old) :: put key value rest

/-- The flow of each execution id; of flows with one id the last one counts. -/
def flowsById (ids : List (Value × Value)) : Except Mishap (List (Value × Value)) :=
  if ids.all fun entry => entry.2.isKey then
    .ok ((ids.foldl (fun found (flow, id) => put id flow found) []).filter
      fun entry => !entry.1.same .null)
  else .error .wrongShape

/-- The flow of an execution id. -/
def flowOf (flows : List (Value × Value)) (id : Value) : Except Mishap Value :=
  match flows.find? fun entry => id.same entry.1 with
  | some (_, flow) => .ok flow
  | none => .error .missingKey

/-- The executions by flow, from the outcomes of asking for their states. Those that could
not be fetched are logged and left out. -/
def executionsOf (flows : List (Value × Value)) : List Outcome → Logged Executions
  | [] => pure []
  | (id, .ok document) :: rest => do
    let execution ← Logged.ofMishap (Execution.ofDocument document)
    let flow ← Logged.ofMishap (flowOf flows id)
    return (flow, execution) :: (← executionsOf flows rest)
  | (id, .error fault) :: rest => do
    Logged.log (some (failureEntry "status of execution" id fault))
    executionsOf flows rest

/-- Whether a report is about jobs rather than flows. -/
def isDetailed (options : QueryOptions) : Bool :=
  match options.detailed with
  | .null => !options.flowFilter.same .null
  | chosen => chosen.truthy

/-- The report on some executions. -/
def report (options : QueryOptions) (flows : List Value) (executions : Executions)
    (link : Value → String) (now : Value) : Logged Report := do
  let targets ← Logged.ofMishap (selectFlows flows options.flowFilter options.defaultFlows)
  if isDetailed options then
    let links : Links := ⟨link, options.performance⟩
    return { tables := ← Logged.ofMishap (jobTables targets executions (some links) now) }
  else return { tables := [← summary targets executions] }

/-- The report on the latest executions of a project's flows. The first schedule is that of
asking for the latest executions, the second one that of asking for their states. -/
def queryIn (first second : Schedule) (project : Value) (options : QueryOptions) :
    Call Report := do
  let flows ← sortedFlows project
  if flows.isEmpty then return { message := .text "No flows defined in current project" }
  let outcomes ← Session.latestExecutionsIn first project flows
  let ids ← Call.act (Action.ofLogged (latestIds outcomes))
  if ids.all fun entry => entry.2.same .null then
    return { message := .text ("Project " ++ project.str ++ " has no previously executed flows.") }
  let flowsById ← Call.act (Action.ofMishap (flowsById ids))
  let outcomes ← Session.executionStatesIn second (flowsById.map Prod.fst)
  let executions ← Call.act (Action.ofLogged (executionsOf flowsById outcomes))
  let client ← get
  Call.act (Action.ofLogged
    (report options flows executions client.session.executionUrl client.world.now))

/-- The report on the latest executions of a project's flows, one request after the
other. -/
def query (project : Value) (options : QueryOptions) : Call Report :=
  queryIn .inOrder .inOrder project options

end Jobflow.Status
