import Jobflow.Logged
import Jobflow.Workflow

/-!
# Plans of workflows

A plan says how a workflow is put together: its name, options and property files, and the
nodes to add to it in order. A node is a new job, a job of the same workflow under a
further name, or a workflow with a plan of its own. Carrying out a plan logs every node
that is added, innermost ones first.
-/

namespace Jobflow

/-- The log entry of adding a job to a workflow. -/
def Header.jobAdded (header : Header) (name : String) : Except TemplateError LogEntry :=
  LogEntry.ofTagged .debug header.repr "Added job %r." [.text name]

/-- The log entry of embedding a workflow into another one. -/
def Header.workflowEmbedded (header : Header) (name : String) : Except TemplateError LogEntry :=
  LogEntry.ofTagged .debug header.repr "Embedded workflow %r." [.text name]

/-- What a workflow is made of, apart from its nodes. -/
structure HeaderPlan where
  /-- The name. -/
  name : String
  /-- The sources of the properties. -/
  options : List Value := []
  /-- The condition. -/
  condition : Option String := none
  /-- The names of the property files. -/
  propertyFiles : List String := []
  /-- Nodes of the enclosing workflow that it depends on. -/
  dependencies : List String := []
  /-- Nodes that its own node depends on. -/
  targets : List String := []

/-- A node to add to a workflow. -/
inductive NodePlan
  /-- A new job, with the names of its property files. -/
  | job (name : String) (spec : Job.Spec) (propertyFiles : List String)
  /-- The last job of a name, under a further name. -/
  | again (name earlier : String)
  /-- An embedded workflow. -/
  | workflow (plan : HeaderPlan) (nodes : List NodePlan)

/-- How a workflow is put together. -/
structure WorkflowPlan where
  /-- What it is made of, apart from its nodes. -/
  header : HeaderPlan
  /-- The nodes to add. -/
  nodes : List NodePlan

/-- Property files by name. -/
abbrev Library := List (String × PropertyFile)

/-- The property files of some names. -/
def Library.named (library : Library) (names : List String) : Logged (List PropertyFile) :=
  names.mapM fun name =>
    match List.lookup name library with
    | some file => pure file
    | none => throw (.mishap .missingKey)

/-- Property files made from sources of properties. -/
def Library.ofSources (sources : List (String × List Value)) : Logged Library :=
  sources.mapM fun (name, options) => do
    let entries ← Logged.ofMishap (options.mapM entriesOf)
    return (name, PropertyFile.ofSources name entries)

/-- Make the header of a workflow. -/
def HeaderPlan.make (plan : HeaderPlan) (library : Library) : Logged Header := do
  let sources ← Logged.ofMishap (plan.options.mapM entriesOf)
  let files ← library.named plan.propertyFiles
  let header : Header :=
    { name := plan.name
      condition := plan.condition
      properties := Properties.ofSources sources
      propertyFiles := files }
  return (header.depends plan.dependencies).target plan.targets

/-- The last job of a name among declared nodes. -/
def lastJob? (nodes : List Declaration) (name : String) : Option Job :=
  nodes.reverse.findSome? fun declaration =>
    match declaration with
    | .job other job => if other = name then some job else none
    | .workflow .. => none

variable [Handlers]

mutual

/-- Add nodes to a workflow, after those it has. -/
def addNodes (library : Library) (header : Header) (added : List Declaration) :
    List NodePlan → Logged (List Declaration)
  | [] => pure added
  | plan :: rest => do
    let declaration ← addNode library header added plan
    addNodes library header (added ++ [declaration]) rest

/-- Make the declaration of a node to add. -/
def addNode (library : Library) (header : Header) (added : List Declaration) :
    NodePlan → Logged Declaration
  | .job name spec files => do
    let files ← library.named files
    let job ← Logged.ofExcept (Job.ofSpec { spec with propertyFiles := files })
    Logged.deliver .debug (header.jobAdded name)
    return .job name job
  | .again name earlier => do
    match lastJob? added earlier with
    | some job =>
      Logged.deliver .debug (header.jobAdded name)
      return .job name job
    | none => throw (.mishap .missingKey)
  | .workflow plan nodes => do
    let inner ← plan.make library
    let declarations ← addNodes library inner [] nodes
    Logged.deliver .debug (header.workflowEmbedded inner.name)
    return .workflow inner declarations

end

/-- Carry out a plan. -/
def WorkflowPlan.make (plan : WorkflowPlan) (library : Library) : Logged Workflow := do
  let header ← plan.header.make library
  return ⟨header, ← addNodes library header [] plan.nodes⟩

end Jobflow
