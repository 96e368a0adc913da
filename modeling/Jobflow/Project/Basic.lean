import Jobflow.Definitions.Profile

/-!
# Projects

A project is what is packaged in one archive: workflows and files. It has a name, under
which the server knows it, an optional version, properties that all its jobs inherit, and
definitions that its parts share. Relative paths of its files start from its root.
-/

namespace Jobflow

/-- Workflows and files to be packaged in one archive. -/
structure Project where
  /-- The name. -/
  name : String
  /-- The version; a value that counts as empty is none. -/
  version : Value := .null
  /-- The folder that relative paths start from: an absolute path. -/
  root : Option String := none
  /-- The properties that all jobs inherit. -/
  properties : Value := .ofEntries []
  /-- The definitions. -/
  definitions : Definitions := .initial
  /-- The workflows, in the order in which they were added. -/
  workflows : List Workflow := []
  /-- The added files: for each archive path, the absolute path of the file. -/
  files : OrderedMap String := .empty

namespace Project

variable [Handlers]

/-- The quoted form of a project. -/
def repr (project : Project) : String := "<Project(name=" ++ Text.quote project.name ++ ")>"

/-- The name with the version, if there is one. -/
def versionedName (project : Project) : String :=
  if project.version.truthy then project.name ++ "-" ++ project.version.str else project.name

/-- The names of the workflows. -/
def workflowNames (project : Project) : List String :=
  project.workflows.map fun workflow => workflow.header.name

/-- The folder that a root stands for: itself, or the folder of a file. -/
def rootFolder (tree : FileTree) (folder root : String) : String :=
  Path.real folder (if tree.hasFolder folder root then root else Path.folder root)

/-- A project with a root, none if it is empty. -/
def create (name : String) (version : Value) (root : String) : Action Project := do
  let world ← get
  let root := if root.isEmpty then none else some (rootFolder world.tree world.folder root)
  return { name, version, root }

/-- Log a message tagged with a project. -/
def log (project : Project) (level : LogLevel) (template : String) (args : List Value) :
    Action Unit :=
  Action.deliver level (LogEntry.ofTagged level project.repr template args)

/-- Look up a workflow by its name. -/
def workflow (project : Project) (name : String) : Except Refusal Workflow :=
  match project.workflows.find? fun workflow => workflow.header.name == name with
  | some workflow => .ok workflow
  | none => .error (.unknownWorkflow name (Names.sorted project.workflowNames))

/-- A project with a further workflow, whose name must be new. -/
def withWorkflow (project : Project) (workflow : Workflow) : Except Refusal Project :=
  if project.workflowNames.contains workflow.header.name then
    .error (.duplicateWorkflow workflow.header.name)
  else .ok { project with workflows := project.workflows ++ [workflow] }

/-- Log that a workflow was added. -/
def logAdded (project : Project) (workflow : Workflow) : Action Unit :=
  project.log .debug "Added workflow %r." [.text workflow.header.name]

/-- Add a workflow, whose name must be new. -/
def addWorkflow (project : Project) (workflow : Workflow) : Action Project := do
  match project.withWorkflow workflow with
  | .error reason => Action.refuse reason
  | .ok changed =>
    project.logAdded workflow
    return changed

/-- Apply a profile to the definitions of a project. Relative paths start from its root. -/
def applyProfile (project : Project) (path : String) : Action (Project × Except Fault Bool) := do
  let path :=
    match project.root with
    | some root => Path.join root path
    | none => path
  let (definitions, result) ← project.definitions.applyProfile path
  return ({ project with definitions }, result)

end Project

end Jobflow
