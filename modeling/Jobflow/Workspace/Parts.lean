import Jobflow.Properties.Load
import Jobflow.Workspace.Basic

/-!
# Jobs and workflows of a workspace

Operations on the shared property files, jobs and workflows of a workspace.
-/

namespace Jobflow.Work

variable [Handlers]

/-- The entries of sources of properties. -/
def sources (values : List Value) : Work (List Entries) := ofMishap (values.mapM entriesOf)

/-- Put a property file under a name. -/
def putPropertyFile (name : String) (file : PropertyFile) : Work Unit := do
  let space ← get
  set { space with propertyFiles := space.propertyFiles.push file }
  bind name (.propertyFile space.propertyFiles.size)

/-- Make a property file from sources of properties. -/
def newPropertyFile (name title : String) (options : List Value) : Work Unit := do
  putPropertyFile name (PropertyFile.ofSources title (← sources options))

/-- Make a property file from files on disk. -/
def readPropertyFile (name title : String) (paths : List String) : Work Unit := do
  let entries ← act (PropertiesFile.load paths)
  putPropertyFile name ⟨title, PropertiesFile.toProperties entries⟩

/-- Set properties of a property file. -/
def setPropertyFile (name : String) (options : List Value) : Work Unit := do
  let index ← propertyFileIndex name
  let entries ← sources options
  modify fun space =>
    { space with
      propertyFiles := space.propertyFiles.modify index fun file =>
        { file with properties := file.properties.merge entries } }

/-- Make a job that inherits from some property files. -/
def newJob (name : String) (spec : Job.Spec) (propertyFiles : List String) : Work Unit := do
  let indices ← propertyFiles.mapM propertyFileIndex
  let job ← act (Action.ofExcept (Job.ofSpec spec))
  let space ← get
  set { space with jobs := space.jobs.push ⟨job, indices⟩ }
  bind name (.job space.jobs.size)

/-- Change a job. The change is kept even when it stops with a fault. -/
def changeJob (name : String) (change : Job → Job × Option Fault) : Work Unit := do
  let index ← jobIndex name
  let shared ← need (← get).jobs[index]?
  let (changed, stop) := change shared.job
  modify fun space =>
    { space with jobs := space.jobs.modify index fun shared => { shared with job := changed } }
  match stop with
  | some fault => throw fault
  | none => return

/-- Set options of a job. -/
def setJob (name : String) (options : List Value) : Work Unit := do
  let _ ← jobIndex name
  let entries ← sources options
  changeJob name fun job =>
    let (changed, stop) := job.set entries
    (changed, stop.map Fault.mishap)

/-- Let a job inherit from a further property file. -/
def addFileToJob (name file : String) : Work Unit := do
  let index ← jobIndex name
  let file ← propertyFileIndex file
  modify fun space =>
    { space with
      jobs := space.jobs.modify index fun shared =>
        { shared with propertyFiles := shared.propertyFiles ++ [file] } }

/-- Join the items of a list option of a job. -/
def joinOption (name option separator template : String) : Work Unit :=
  changeJob name fun job =>
    match job.joinOption option separator template with
    | .ok changed => (changed, none)
    | .error fault => (job, some fault)

/-- The properties visible to a job inside enclosing scopes. -/
def resolveJob (name : String) (inherited : List Value) : Work Properties := do
  let job ← job name
  return job.resolve (← sources inherited)

/-- Make a workflow without nodes. -/
def newWorkflow (name title : String) (options : List Value) (condition : Option String) :
    Work Unit := do
  let header : Header :=
    { name := title, condition, properties := Properties.ofSources (← sources options) }
  let space ← get
  set { space with workflows := space.workflows.push { header } }
  bind name (.workflow space.workflows.size)

/-- Change a shared workflow. -/
def changeWorkflow (name : String) (change : SharedWorkflow → SharedWorkflow) : Work Unit := do
  let index ← workflowIndex name
  modify fun space => { space with workflows := space.workflows.modify index change }

/-- Change the header of a workflow. -/
def changeHeader (name : String) (change : Header → Header) : Work Unit :=
  changeWorkflow name fun shared => { shared with header := change shared.header }

/-- The header of a workflow. -/
def header (name : String) : Work Header := do
  let index ← workflowIndex name
  return (← need (← get).workflows[index]?).header

/-- Set properties of a workflow. -/
def setWorkflow (name : String) (options : List Value) : Work Unit := do
  let _ ← workflowIndex name
  let entries ← sources options
  changeHeader name fun header => header.set entries

/-- Add a job to a workflow under a name. -/
def addJob (name title job : String) : Work Unit := do
  let header ← header name
  let job ← jobIndex job
  changeWorkflow name fun shared => { shared with nodes := shared.nodes ++ [.job title job] }
  act (Action.deliver .debug (header.jobAdded title))

/-- Embed a workflow into another one. -/
def embedWorkflow (name inner : String) : Work Unit := do
  let outer ← workflowIndex name
  let header ← header name
  let inner ← workflowIndex inner
  if inner = outer then act (Action.refuse (.selfEmbedding header.name))
  let embedded ← need (← get).workflows[inner]?
  changeWorkflow name fun shared => { shared with nodes := shared.nodes ++ [.workflow inner] }
  act (Action.deliver .debug (header.workflowEmbedded embedded.header.name))

/-- Let a workflow inherit from a further property file. -/
def addFileToWorkflow (name file : String) : Work Unit := do
  let file ← propertyFileIndex file
  changeWorkflow name fun shared => { shared with propertyFiles := shared.propertyFiles ++ [file] }

/-- Compile a workflow with the properties of a project. -/
def compileWorkflow (name : String) (properties : Value) : Work Flow := do
  let workflow ← workflow name
  if (← get).isEndless (← workflowIndex name) then
    act (Action.log (some (Flow.Notice.compiling workflow.header.name).entry))
    throw (.mishap .endless)
  act (Action.ofLogged (Flow.compileLogged workflow properties))

end Jobflow.Work
