import Jobflow.Properties
import Jobflow.Status.Tally

/-!
# Executions

The state of an execution of a flow and of each of its jobs, taken from the server's
documents. Their fields can hold any value; times that are missing count as unset.
-/

namespace Jobflow.Status

/-- The time of what has not happened. -/
def unsetTime : Value := .int (-1)

/-- The value of a key in a mapping, nothing if it is missing. -/
def entryOr (entries : Entries) (key : String) (default : Value) : Value :=
  (entries.lookup key).getD default

/-- The state of a job inside an execution. -/
structure JobState where
  /-- The name. -/
  name : Value
  /-- The type. -/
  type : Value
  /-- The status. -/
  status : Value
  /-- When the job started, in milliseconds. -/
  started : Value
  /-- When the job ended, in milliseconds. -/
  ended : Value

/-- The state of a job in a document. -/
def JobState.ofDocument (document : Value) : Except Mishap JobState :=
  match document with
  | .map _ entries => .ok
    { name := entryOr entries "id" .null
      type := entryOr entries "type" .null
      status := entryOr entries "status" .null
      started := entryOr entries "startTime" unsetTime
      ended := entryOr entries "endTime" unsetTime }
  | _ => .error .missingOperation

/-- The state of an execution. -/
structure Execution where
  /-- The flow that is executed. -/
  flow : Value
  /-- The id. -/
  id : Value
  /-- The status. -/
  status : Value
  /-- When the execution was asked for, in milliseconds. -/
  submitted : Value
  /-- When the execution started. -/
  started : Value
  /-- When the execution ended. -/
  ended : Value
  /-- The jobs. -/
  jobs : List JobState

namespace Execution

/-- The items of a value that is met as a list: the keys of a mapping and the characters of
a text. -/
def listed (value : Value) : Except Mishap (List Value) :=
  match value with
  | .list _ items | .tuple _ items => .ok items
  | .map _ entries => .ok (entries.map fun entry => .text entry.1)
  | .text text => .ok (text.toList.map fun c => .text (String.singleton c))
  | _ => .error .wrongShape

/-- The items of a value that is met as a list, none if it counts as empty. -/
def itemsOf (value : Value) : Except Mishap (List Value) :=
  if value.truthy then listed value else .ok []

/-- The state of an execution in a document. -/
def ofDocument (document : Value) : Except Mishap Execution :=
  match document with
  | .map _ entries => do
    let flow := entryOr entries "flow" .null
    let jobs ← (← itemsOf (entryOr entries "nodes" .null)).mapM JobState.ofDocument
    return {
      flow := if flow.truthy then flow else entryOr entries "flowId" .null
      id := entryOr entries "execid" .null
      status := entryOr entries "status" .null
      submitted := entryOr entries "submitTime" unsetTime
      started := entryOr entries "startTime" unsetTime
      ended := entryOr entries "endTime" unsetTime
      jobs }
  | _ => .error .missingOperation

/-- How many jobs have each status. -/
def tally (execution : Execution) : Logged Tally :=
  Tally.ofStatuses (execution.jobs.map JobState.status)

end Execution

end Jobflow.Status
