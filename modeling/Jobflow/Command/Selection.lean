import Jobflow.Command.Arguments
import Jobflow.Session.Alias
import Jobflow.Workspace.Projects

/-!
# What commands work on

A project is named by the path of its module, by that path and a name, or just by its name
where the module is not needed. A server is named by its URL or in the settings. Both have
defaults in the settings.
-/

namespace Jobflow.Command

variable [Handlers]

/-- The section of settings that defaults are in. -/
def defaultsSection : String := "hadoopdsl"

/-- The path of a module and the name of a project in an argument. -/
structure ProjectChoice where
  /-- The path of the module, which may turn out to be just a name. -/
  path : String
  /-- The name of the project in the module. -/
  name : Option String
deriving DecidableEq, Repr

/-- The choice that an argument stands for: the module and the name are before and after
the last colon, the default module coming before a leading one. -/
def ProjectChoice.ofArgument (argument : Option String) (default : String) : ProjectChoice :=
  let text := (argument.filter fun text => !text.isEmpty).getD default
  match Text.cutLast? (· == ':') text.toList with
  | none => ⟨text, none⟩
  | some (path, name) =>
    ⟨if path.isEmpty then default else String.ofList path,
      if name.isEmpty then none else some (String.ofList name)⟩

/-- Whether there may be a module at a path. -/
def hasModule (path : String) : Action Bool := do
  return (← Action.find? path).isSome || (← Action.find? (path ++ ".py")).isSome

/-- The project chosen among those of a module: the one of the name, or the only one. -/
def chooseProject (choice : ProjectChoice) (projects : OrderedMap Project) :
    Except Refusal Project :=
  match choice.name with
  | some name =>
    match projects.find? name with
    | some project => .ok project
    | none => .error (.unknownProject name choice.path (Names.sorted projects.keys))
  | none =>
    match projects.values with
    | [project] => .ok project
    | others => .error (.ambiguousModule others.length choice.path)

/-- The project that an argument stands for: its name, and the project itself if there is a
module. -/
def findProject (argument : Option String) (needsModule : Bool) :
    Action (String × Option Project) := do
  let settings ← SettingsFile.load none
  let default := settings.optionText defaultsSection "default.project" "jobs"
  let choice := ProjectChoice.ofArgument argument default
  if ← hasModule choice.path then
    match chooseProject choice (← Work.projectsAt choice.path) with
    | .ok project => return (project.name, some project)
    | .error reason => Action.refuse reason
  else if choice.name.isSome || needsModule then Action.refuse (.noProjectModule choice.path)
  else return (choice.path, none)

/-- A project whose properties are overridden by those given by options. -/
def overridden (project : Project) (options : List String) : Action Project := do
  if options.isEmpty then return project
  let given ← optionProperties options
  let own ← Action.ofMishap (entriesOf project.properties)
  return { project with properties := (Properties.ofSources [own, given.entries]).toValue }

/-- Load the project that an argument stands for, overriding its properties. -/
def loadProject (argument : Option String) (options : List String) : Action Project := do
  match (← findProject argument true).2 with
  | some project => overridden project options
  | none => throw (.mishap .missingOperation)

/-- The session of the server that is chosen. -/
def openSession (url name : Option String) : Action Session := do
  let settings ← SettingsFile.load none
  match url.filter fun text => !text.isEmpty with
  | some url => Session.ofUrl url (some settings) {}
  | none =>
    match name.filter fun text => !text.isEmpty with
    | some name => Session.ofAlias name settings
    | none =>
      match settings.getOption defaultsSection "default.alias" none with
      | .ok name => Session.ofAlias name.str settings
      | .error reason => Action.refuse reason

end Jobflow.Command
