import Jobflow.Project.Archive

/-!
# Project modules

A project module makes projects by carrying out a number of plans. It is looked for by its
name, in one folder after the other.
-/

namespace Jobflow

namespace ProjectPlan

variable [Handlers]

/-- The root of a planned project whose module is in a file. -/
def rootPath (plan : ProjectPlan) (moduleFile : String) : String :=
  match plan.root with
  | .none => ""
  | .ofModule => moduleFile
  | .path path => path

/-- Give a project its definitions. -/
def define (plan : ProjectPlan) (project : Project) : Action Project := do
  let (definitions, entries, stop) := project.definitions.run
    (plan.definitions.map fun (name, entries) => .declare entries name)
  Action.logAll entries
  match stop with
  | some fault => throw fault
  | none => return { project with definitions }

/-- Apply the profile of a plan, if it has one. -/
def profiled (plan : ProjectPlan) (project : Project) : Action Project := do
  match plan.profile with
  | none => return project
  | some path =>
    let (project, result) ← project.applyProfile path
    let _ ← Action.ofExcept result
    return project

/-- Give a project its properties, those looked up among the definitions included. -/
def withProperties (plan : ProjectPlan) (project : Project) : Action Project := do
  let given := plan.properties.getD project.properties
  let found ← plan.lookups.mapM fun (key, name) => do
    return (key, ← Action.ofExcept (project.definitions.lookup name))
  if found.isEmpty then return { project with properties := given }
  match given with
  | .map label entries =>
    let properties := (OrderedMap.ofList entries).insertAll found
    return { project with properties := .map label properties.entries }
  | _ => throw (.mishap .wrongShape)

/-- Carry out a plan whose module is in a file. -/
def make (plan : ProjectPlan) (moduleFile : String) : Action Project := do
  let project ← Project.create plan.name plan.version (plan.rootPath moduleFile)
  let project ← plan.define project
  let project ← plan.profiled project
  let project ← plan.withProperties project
  let project ← plan.files.foldlM Project.addFile project
  let library ← Action.ofLogged (Library.ofSources plan.propertyFiles)
  plan.workflows.foldlM
    (fun project workflow => do
      project.addWorkflow (← Action.ofLogged (workflow.make library))) project

end ProjectPlan

/-- Where a module is: its folder, and its name. -/
structure ModulePlace where
  /-- The folder. -/
  folder : String
  /-- The name. -/
  name : String

namespace ModulePlace

/-- The place that a path stands for, with or without an extension. -/
def ofPath (folder path : String) : ModulePlace :=
  let (folder, fileName) :=
    Path.split (Path.withoutTrailingSlashes (Path.absolute folder path))
  ⟨folder, Path.stem fileName⟩

/-- The plan of the module in the file at a path, if there is a file; other files than
modules make nothing. -/
def planAt? (tree : FileTree) (path : String) : Option ModulePlan :=
  match tree.find "/" path with
  | .ok (_, .folder) => none
  | .ok (_, .module plan) => some plan
  | .ok _ => some {}
  | .error _ => none

/-- The file and plan of the module of a name in a folder: the initial file of a package comes
before a file with the module's name. -/
def fileIn? (tree : FileTree) (name folder : String) : Option (String × ModulePlan) :=
  let package := Path.join folder name
  [Path.join package "__init__.py", package ++ ".py"].findSome? fun path =>
    (planAt? tree path).map (path, ·)

/-- The file and plan of the module of a name, from the first of some folders that has it. Where
none does, a folder of that name makes nothing. -/
def find? (tree : FileTree) (folders : List String) (name : String) :
    Option (String × ModulePlan) :=
  match folders.findSome? (fileIn? tree name) with
  | some found => some found
  | none =>
    (folders.map fun folder => Path.join folder name).findSome? fun package =>
      if tree.hasFolder "/" package then some (package, {}) else none

/-- Why a module of a name can never be imported, if that is so. -/
def nameMishap? (name : String) : Option Mishap :=
  if name.isEmpty then some .badValue
  else if Text.startsWith name "." then some .wrongShape
  else if name.toList.contains '.' then some .missingModule
  else none

end ModulePlace

end Jobflow
