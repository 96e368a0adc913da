import Jobflow.Files.Path
import Jobflow.Status.Execution
import Jobflow.Status.Table
import Jobflow.Status.Time
import Jobflow.Text.Percent

/-!
# Overviews of executions

The latest executions of some flows, either in one table with a row for each flow, or in a
table for each flow with a row for each of its jobs. Flows are looked up among the
executions that are known; those without one are shown all the same.
-/

namespace Jobflow.Status

open Text (join)

/-- Executions by the flows that they are the latest ones of. -/
abbrev Executions := List (Value × Execution)

/-- The execution of a flow, if there is one. A list or mapping is no name of a flow. -/
def Executions.of (executions : Executions) (flow : Value) : Except Mishap (Option Execution) :=
  if flow.isKey then
    .ok ((List.find? (fun entry => flow.same entry.1) executions).map Prod.snd)
  else .error .wrongShape

/-- The row of a flow without an execution. -/
def emptyRow (flow : Value) : List Value :=
  [flow, .text "NONE", .text "-"] ++ labels.map fun _ => .int 0

/-- The row of a flow. -/
def summaryRow (executions : Executions) (flow : Value) : Logged (List Value) := do
  match ← Logged.ofMishap (executions.of flow) with
  | none => return emptyRow flow
  | some execution =>
    let tally ← execution.tally
    return [flow, execution.id, execution.status] ++ tally.values.map Value.ofNat

/-- The table with a row for each flow. -/
def summary (flows : List Value) (executions : Executions) : Logged Table := do
  let rows ← flows.mapM (summaryRow executions)
  return {
    title := "Job Statistics for individual flow"
    headers := (["Flow Name", "Latest Exec ID", "Status"] ++ labels).map Value.text
    rows }

/-- The link to the performance report of an execution, given by its own link. -/
def performanceLink (base link : String) : String :=
  Path.withoutTrailingSlashes base ++ "/search?flow-exec-id=" ++ Text.Percent.encode link

/-- What tables of jobs link to. -/
structure Links where
  /-- The link to an execution. -/
  execution : Value → String
  /-- The server of performance reports, if there is one. -/
  performance : Option String

/-- The notes below the table of an execution. -/
def linkNotes (links : Option Links) (execution : Value) : List String :=
  match links with
  | none => []
  | some links =>
    let link := links.execution execution
    ("Execution URL: " ++ link) ::
      (match links.performance with
        | some base => ["Dr. Elephant URL: " ++ performanceLink base link]
        | none => [])

/-- The title of the table of an execution. -/
def executionTitle (flow : Value) (execution : Execution) (now : Value) :
    Except Mishap String := do
  let submitted ← formatTime execution.submitted
  let started ← formatTime execution.started
  let ended ← formatTime execution.ended
  let elapsed ← formatElapsed execution.started execution.ended now
  return join " | " [
    "Flow: " ++ flow.str, "Exec Id: " ++ execution.id.str, "Status: " ++ execution.status.str,
    "Submitted: " ++ submitted, "Started: " ++ started, "Ended: " ++ ended,
    "Elapsed: " ++ elapsed]

/-- The row of a job. -/
def jobRow (now : Value) (job : JobState) : Except Mishap (List Value) := do
  let started ← formatTime job.started
  let ended ← formatTime job.ended
  let elapsed ← formatElapsed job.started job.ended now
  return [job.name, job.type, job.status, .text started, .text ended, .text elapsed]

/-- The headers of a table of jobs. -/
def jobHeaders : List Value :=
  ["Job Name", "Job Type", "Job Status", "Job Start Time", "Job End Time", "Elapsed"].map
    Value.text

/-- The table of a flow. -/
def jobTable (executions : Executions) (links : Option Links) (now flow : Value) :
    Except Mishap Table := do
  match ← executions.of flow with
  | none => return { title := "Flow: " ++ flow.str, notes := ["No execution yet."] }
  | some execution =>
    let title ← executionTitle flow execution now
    let rows ← execution.jobs.mapM (jobRow now)
    return { title, headers := jobHeaders, rows, notes := linkNotes links execution.id }

/-- The tables with a row for each job, one for each flow. -/
def jobTables (flows : List Value) (executions : Executions) (links : Option Links)
    (now : Value) : Except Mishap (List Table) :=
  flows.mapM (jobTable executions links now)

end Jobflow.Status
