import Jobflow.Project.Registry

/-!
# Workspaces

A workspace holds jobs, property files, workflows, projects and definitions under names.
Its objects are shared: a job can be a node of several workflows, a property file can
serve several jobs, and a change of one shows wherever it is used. Objects refer to others
by their positions; following these references gives the plain values that they stand for.

A workflow can be made to embed itself by way of others. Such a workflow stands for no
tree, and following its references stops at a depth that no other one reaches.
-/

namespace Jobflow

/-- A reference to an object. -/
inductive Ref
  /-- A property file. -/
  | propertyFile (index : Nat)
  /-- A job. -/
  | job (index : Nat)
  /-- A workflow. -/
  | workflow (index : Nat)
  /-- A project. -/
  | project (index : Nat)
  /-- Definitions that belong to no project. -/
  | definitions (index : Nat)
deriving DecidableEq, Repr

/-- A job with references to its property files. -/
structure SharedJob where
  /-- The job, apart from its property files. -/
  job : Job
  /-- The property files. -/
  propertyFiles : List Nat := []

/-- A node with a reference to what it is. -/
inductive SharedNode
  /-- A job under a name. -/
  | job (name : String) (index : Nat)
  /-- An embedded workflow. -/
  | workflow (index : Nat)
deriving DecidableEq, Repr

/-- A workflow with references to its parts. -/
structure SharedWorkflow where
  /-- The header, apart from the property files. -/
  header : Header
  /-- The property files. -/
  propertyFiles : List Nat := []
  /-- The nodes, in order. -/
  nodes : List SharedNode := []

/-- A workflow of a project. -/
inductive SharedMember
  /-- One that nothing else refers to. -/
  | own (workflow : Workflow)
  /-- One of the workspace. -/
  | shared (index : Nat)

/-- A project with references to its workflows. -/
structure SharedProject where
  /-- The project, apart from its workflows. -/
  project : Project
  /-- The workflows, in order. -/
  workflows : List SharedMember := []
  /-- Whether its module keeps it, whatever happens to its name. -/
  isKept : Bool := false

/-- Shared objects, some of them under names, in a world. -/
structure Workspace where
  /-- The world. -/
  world : World
  /-- The property files. -/
  propertyFiles : Array PropertyFile := #[]
  /-- The jobs. -/
  jobs : Array SharedJob := #[]
  /-- The workflows. -/
  workflows : Array SharedWorkflow := #[]
  /-- The projects. -/
  projects : Array SharedProject := #[]
  /-- The definitions that belong to no project. -/
  definitions : Array Definitions := #[]
  /-- The objects that have names. -/
  names : OrderedMap Ref := .empty
  /-- The registered projects. -/
  registry : Registry Nat := {}

namespace Workspace

/-- The property files at some positions. -/
def propertyFilesAt (space : Workspace) (indices : List Nat) : List PropertyFile :=
  indices.filterMap fun index => space.propertyFiles[index]?

/-- The job that a shared job stands for. -/
def plainJob (space : Workspace) (shared : SharedJob) : Job :=
  { shared.job with propertyFiles := space.propertyFilesAt shared.propertyFiles }

/-- The job at a position. -/
def jobAt? (space : Workspace) (index : Nat) : Option Job :=
  (space.jobs[index]?).map space.plainJob

/-- The header that a shared workflow stands for. -/
def plainHeader (space : Workspace) (shared : SharedWorkflow) : Header :=
  { shared.header with propertyFiles := space.propertyFilesAt shared.propertyFiles }

/-- The workflow at a position, followed down to a depth. -/
def workflowAt? (space : Workspace) : Nat → Nat → Option Workflow
  | 0, _ => none
  | depth + 1, index =>
    (space.workflows[index]?).map fun shared =>
      { header := space.plainHeader shared
        nodes := shared.nodes.filterMap fun node =>
          match node with
          | .job name job => (space.jobAt? job).map (Declaration.job name)
          | .workflow inner =>
            (space.workflowAt? depth inner).map fun workflow =>
              .workflow workflow.header workflow.nodes }

/-- The depth that following references does not exceed unless a workflow embeds itself. -/
def depth (space : Workspace) : Nat := space.workflows.size + 1

/-- Whether following the embedded workflows of one exceeds a depth. -/
def exceeds (space : Workspace) : Nat → Nat → Bool
  | 0, _ => true
  | depth + 1, index =>
    match space.workflows[index]? with
    | none => false
    | some shared =>
      shared.nodes.any fun node =>
        match node with
        | .job .. => false
        | .workflow inner => space.exceeds depth inner

/-- Whether a workflow, or one that it embeds, embeds itself. -/
def isEndless (space : Workspace) (index : Nat) : Bool := space.exceeds space.depth index

/-- The workflow that a member of a project stands for. -/
def memberAt? (space : Workspace) : SharedMember → Option Workflow
  | .own workflow => some workflow
  | .shared index => space.workflowAt? space.depth index

/-- The project that a shared project stands for. -/
def plainProject (space : Workspace) (shared : SharedProject) : Project :=
  { shared.project with workflows := shared.workflows.filterMap space.memberAt? }

/-- Whether a project is in use: it has a name, or its module keeps it. -/
def isUsed (space : Workspace) (index : Nat) : Bool :=
  space.names.values.contains (.project index) ||
    ((space.projects[index]?).map SharedProject.isKept).getD false

/-- The registry without the projects that are not in use any more. -/
def liveRegistry (space : Workspace) : Registry Nat :=
  { space.registry with
    projects := space.registry.projects.filter fun _ index => space.isUsed index }

/-- The project at a position. -/
def projectAt? (space : Workspace) (index : Nat) : Option Project :=
  (space.projects[index]?).map space.plainProject

/-- A workspace with a further project, kept by the module that made it, and registered in place of
another one of its name. -/
def keep (space : Workspace) (project : Project) : Workspace :=
  let shared : SharedProject :=
    { project := { project with workflows := [] }
      workflows := project.workflows.map SharedMember.own
      isKept := true }
  { space with
    projects := space.projects.push shared
    registry :=
      { space.registry with
        projects := space.registry.projects.insert project.name space.projects.size } }

end Workspace

/-- An action on a workspace. -/
abbrev Work (α : Type) := ExceptT Fault (StateM Workspace) α

namespace Work

/-- Act on the world. -/
def act {α : Type} (action : Action α) : Work α := fun space =>
  let (result, world) := action space.world
  (result, { space with world })

/-- The outcome of an action, which itself never stops. -/
def outcome {α : Type} (action : Work α) : Work (Except Fault α) := fun space =>
  let (result, space) := action space
  (.ok result, space)

/-- Give the result of a computation without wording for its faults. -/
def ofMishap {α : Type} (result : Except Mishap α) : Work α := act (Action.ofMishap result)

/-- Give an object a name, which another one may have had. -/
def bind (name : String) (ref : Ref) : Work Unit :=
  modify fun space => { space with names := space.names.insert name ref }

/-- The object of a name. -/
def ref (name : String) : Work Ref := do
  match (← get).names.find? name with
  | some ref => return ref
  | none => throw (.mishap .missingKey)

/-- A value that has to be there. -/
def need {α : Type} (value : Option α) : Work α :=
  match value with
  | some value => return value
  | none => throw (.mishap .missingOperation)

/-- The position of the property file of a name. -/
def propertyFileIndex (name : String) : Work Nat := do
  match ← ref name with
  | .propertyFile index => return index
  | _ => throw (.mishap .missingOperation)

/-- The position of the job of a name. -/
def jobIndex (name : String) : Work Nat := do
  match ← ref name with
  | .job index => return index
  | _ => throw (.mishap .missingOperation)

/-- The position of the workflow of a name. -/
def workflowIndex (name : String) : Work Nat := do
  match ← ref name with
  | .workflow index => return index
  | _ => throw (.mishap .missingOperation)

/-- The position of the project of a name. -/
def projectIndex (name : String) : Work Nat := do
  match ← ref name with
  | .project index => return index
  | _ => throw (.mishap .missingOperation)

/-- The property file of a name. -/
def propertyFile (name : String) : Work PropertyFile := do
  need (← get).propertyFiles[← propertyFileIndex name]?

/-- The job of a name. -/
def job (name : String) : Work Job := do
  need ((← get).jobAt? (← jobIndex name))

/-- The workflow of a name. -/
def workflow (name : String) : Work Workflow := do
  let space ← get
  need (space.workflowAt? space.depth (← workflowIndex name))

/-- The project of a name. -/
def project (name : String) : Work Project := do
  let space ← get
  return space.plainProject (← need space.projects[← projectIndex name]?)

end Work

end Jobflow
