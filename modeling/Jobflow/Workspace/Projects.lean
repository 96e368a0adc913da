import Jobflow.Workspace.Parts

/-!
# Projects of a workspace

Operations on the projects and definitions of a workspace, and loading of modules.
-/

namespace Jobflow.Work

variable [Handlers]

/-- Make a project, and register it if asked to. -/
def newProject (name title : String) (version : Value) (root : String) (register : Bool) :
    Work Unit := do
  let project ← act (Project.create title version root)
  let space ← get
  let index := space.projects.size
  let registry :=
    if register then
      { space.registry with projects := space.registry.projects.insert title index }
    else space.registry
  set { space with projects := space.projects.push { project }, registry }
  bind name (.project index)

/-- Change a shared project. -/
def changeProject (name : String) (change : SharedProject → SharedProject) : Work Unit := do
  let index ← projectIndex name
  modify fun space => { space with projects := space.projects.modify index change }

/-- Replace what a project is apart from its workflows. -/
def updateProject (name : String) (project : Project) : Work Unit :=
  changeProject name fun shared => { shared with project := { project with workflows := [] } }

/-- Assign the properties of a project. -/
def assignProperties (name : String) (properties : Value) : Work Unit := do
  updateProject name { ← project name with properties }

/-- Add a workflow to a project, which has it before that is logged. -/
def addToProject (name workflow : String) : Work Unit := do
  let project ← project name
  let index ← workflowIndex workflow
  let added ← Work.workflow workflow
  match project.withWorkflow added with
  | .error reason => act (Action.refuse reason)
  | .ok _ =>
    changeProject name fun shared =>
      { shared with workflows := shared.workflows ++ [.shared index] }
    act (project.logAdded added)

/-- Add a file to a project, which has it before that is logged. -/
def addFile (name : String) (file : FilePlan) : Work Unit := do
  let project ← project name
  match project.withFile (← get).world.tree file with
  | .error reason => act (Action.refuse reason)
  | .ok (changed, place, archivePath) =>
    updateProject name changed
    act (project.logFile place archivePath)

/-- The name of the workflow that a project knows by a name. -/
def projectWorkflow (name workflow : String) : Work String := do
  match (← project name).workflow workflow with
  | .ok found => return found.header.name
  | .error reason => act (Action.refuse reason)

/-- Whether a project has a workflow that embeds itself. -/
def isEndlessProject (name : String) : Work Bool := do
  let space ← get
  let shared ← need space.projects[← projectIndex name]?
  return shared.workflows.any fun member =>
    match member with
    | .own _ => false
    | .shared index => space.isEndless index

/-- Compile the workflows of a project. -/
def compileProject (name : String) : Work (List Flow) := do
  let project ← project name
  if ← isEndlessProject name then throw (.mishap .endless)
  act (Action.ofLogged project.compile)

/-- Build the archive of a project. What is in its way counts before its workflows do. -/
def buildProject (name path : String) (overwrite : Bool) : Work Unit := do
  let project ← project name
  let blocked := (← act (Action.find? path)).isSome && !overwrite
  if !blocked && (← isEndlessProject name) then throw (.mishap .endless)
  act (project.build path overwrite)

/-- Make definitions that belong to no project. -/
def newDefinitions (name : String) : Work Unit := do
  let space ← get
  set { space with definitions := space.definitions.push .initial }
  bind name (.definitions space.definitions.size)

/-- The definitions of a name, or of the project of a name. -/
def definitions (name : String) : Work Definitions := do
  match ← ref name with
  | .definitions index => need (← get).definitions[index]?
  | .project index => return (← need (← get).projects[index]?).project.definitions
  | _ => throw (.mishap .missingOperation)

/-- Replace the definitions of a name, or of the project of a name. -/
def updateDefinitions (name : String) (definitions : Definitions) : Work Unit := do
  match ← ref name with
  | .definitions index =>
    modify fun space =>
      { space with definitions := space.definitions.modify index fun _ => definitions }
  | .project index =>
    modify fun space =>
      { space with
        projects := space.projects.modify index fun shared =>
          { shared with project := { shared.project with definitions } } }
  | _ => throw (.mishap .missingOperation)

/-- Give definitions to a set: the definitions that the set has then. -/
def declare (name : String) (entries : KeyMap Value) (setName : Value) : Work (KeyMap Value) := do
  let (changed, logged, stop) := (← definitions name).declare entries setName
  updateDefinitions name changed
  act (Action.logAll logged)
  match stop with
  | some fault => throw fault
  | none => return (setName.key?.map changed.set).getD .empty

/-- Select the current set of definitions. -/
def selectSet (name : String) (setName : Value) : Work Unit := do
  updateDefinitions name (← act (Action.ofExcept ((← definitions name).select setName)))

/-- The value of a definition. -/
def lookup (name : String) (definition : Value) : Work Value := do
  act (Action.ofExcept ((← definitions name).lookup definition))

/-- Apply a profile to definitions. Steps before one that stops with an error are kept. -/
def applyProfile (name path : String) : Work Bool := do
  let (changed, result) ← act ((← definitions name).applyProfile path)
  updateDefinitions name changed
  act (Action.ofExcept result)

/-- Apply a profile to the definitions of a project, seen from its root. -/
def applyProjectProfile (name path : String) : Work Bool := do
  let (changed, result) ← act ((← project name).applyProfile path)
  updateDefinitions name changed.definitions
  act (Action.ofExcept result)

/-- Carry out a plan of a module, and register the project unless it is not to be. -/
def makeProject (moduleFile : String) (plan : ProjectPlan) : Work Unit := do
  let made ← act (plan.make moduleFile)
  if plan.register then modify fun space => space.keep made

/-- Carry out the plans of a module one after the other. Projects are registered as they are made,
before it is known whether the module stops with an error. -/
def runModule (plan : ModulePlan) (moduleFile : String) : Work Unit := do
  plan.projects.forM (makeProject moduleFile)
  match plan.stop with
  | some fault => throw fault
  | none => return

/-- Import the module of a name, unless it was imported. One that stops with an error counts as
never imported. -/
def importModule (name : String) : Work Unit := do
  let space ← get
  if space.registry.imported.contains name then return
  match ModulePlace.nameMishap? name with
  | some mishap => throw (.mishap mishap)
  | none =>
    match ModulePlace.find? space.world.tree space.registry.searchPath name with
    | none => throw (.mishap .missingModule)
    | some (file, plan) =>
      runModule plan file
      modify fun space =>
        { space with registry := { space.registry with imported := name :: space.registry.imported } }

/-- Carry out an action while projects are registered apart from the others, and modules are looked
for in a further folder first. The registered projects and the folders are put back however the
action ends. The projects that were registered meanwhile are given. -/
def capture (folder : String) (action : Work Unit) : Work (OrderedMap Nat) := do
  let previous := (← get).registry.projects
  modify fun space => { space with registry := space.registry.opened folder }
  let result ← outcome action
  let captured := (← get).registry.projects
  modify fun space => { space with registry := space.registry.closed folder previous }
  act (Action.ofExcept result)
  return captured

/-- Register the projects of a module that was loaded, and give these projects, or all that are
registered then. -/
def registerLoaded (path : String) (onlyNew : Bool) (loaded : OrderedMap Nat) :
    Work (OrderedMap Nat) := do
  let registry := (← get).liveRegistry
  act (Action.log (Registry.clashWarning? path registry.projects.keys loaded.keys))
  modify fun space => { space with registry := registry.register loaded }
  act (Action.log (some (Registry.loadedEntry path loaded.keys)))
  return if onlyNew then loaded else (registry.register loaded).projects

/-- Load the module at a path: the projects that it registers, or all that are registered then. -/
def load (path : String) (onlyNew : Bool) : Work (OrderedMap Nat) := do
  if path.isEmpty then throw (.noModulePath path)
  let place := ModulePlace.ofPath (← get).world.folder path
  act (Action.log (some (Registry.importingEntry place)))
  let loaded ← capture place.folder (importModule place.name)
  registerLoaded path onlyNew loaded

/-- Load the module at a path and give the names of the registered projects, or only of
those that it registers, to the projects: these names with their projects. -/
def loadProjects (path : String) (onlyNew : Bool) : Work (List (String × Project)) := do
  let loaded ← load path onlyNew
  loaded.entries.mapM fun (name, index) => do
    bind name (.project index)
    return (name, ← project name)

/-- The projects that the module at a path registers, loaded into a workspace of its own. -/
def projectsAt (path : String) : Action (OrderedMap Project) := fun world =>
  let (result, space) := load path true { world }
  let projects (loaded : OrderedMap Nat) := loaded.entries.filterMap fun (name, index) =>
    (space.projectAt? index).map (name, ·)
  (result.map fun loaded => OrderedMap.ofList (projects loaded), space.world)

end Jobflow.Work
