import Jobflow.Command.Line
import Jobflow.Command.Upload
import Jobflow.Command.Usage
import Jobflow.Status.Query

/-!
# The program

Carrying out a command line: what it prints, whether it fails, and with what message.
-/

namespace Jobflow.Command

variable [Handlers]

/-- The value of a field in an answer of the server. -/
def fieldOf (answer : Value) (name : String) : Action String :=
  match answer.field? name with
  | some value => return value.str
  | none => throw (.mishap .missingKey)

/-- Build the archive of a project. Inside a folder it gets the project's name. -/
def build (showSize : Nat → String) (project : Project) (path : String) (replace : Bool) :
    Action String := do
  let world ← get
  let path :=
    if world.tree.hasFolder world.folder path then
      Path.join path (project.versionedName ++ ".zip")
    else path
  project.build path replace
  return "Project " ++ project.name ++ " successfully built as " ++ path ++ " (" ++
    showSize (← sizeAt path) ++ ").\n"

/-- What a command prints, and what stops it afterwards. -/
abbrev Printed := String × Option Fault

/-- The texts of compiled flows under their names, up to one that cannot be written. Values may be
nested as deep as there is room. -/
def flowTexts (room : Nat) : List Flow → Printed
  | [] => ("", none)
  | flow :: rest =>
    match Yaml.render room flow.toValue with
    | .error mishap => ("", some (.mishap mishap))
    | .ok text =>
      let (texts, stop) := flowTexts room rest
      ("# " ++ flow.name ++ ".flow\n" ++ text ++ texts, stop)

/-- The compiled flows of a project, or the one of a workflow, which has to be there. -/
def info (project : Project) (workflow : Option String) : Action Printed := do
  match workflow.filter fun name => !name.isEmpty with
  | some name => let _ ← Action.ofExcept ((project.workflow name).mapError Fault.refused)
  | none => pure ()
  let flows ← Action.ofLogged project.compile
  let shown := flows.filter fun flow => workflow == none || workflow == some flow.name
  return flowTexts (← get).room shown

/-- Upload a project. -/
def upload (showSize : Nat → String) (project : Project) (server : ServerChoice)
    (create : Bool) : Action String := do
  let uploaded ← uploadProject project server.url server.name create
  let id ← fieldOf uploaded.answer "projectId"
  let version ← fieldOf uploaded.answer "version"
  return "Project " ++ project.name ++ " successfully uploaded (id: " ++ id ++ ", version: " ++
    version ++ ", size: " ++ showSize uploaded.size ++ ").\nDetails at " ++ uploaded.url ++
    "/manager?project=" ++ project.name ++ "\n"

/-- The flows reported on when none are asked for: those in the settings, or else the
workflows of the project. -/
def defaultFlows (settings : SettingsFile) (project : Option Project) : Action (List String) := do
  let flows ← Action.ofMishap (settings.listOption "status" "default.flows")
  match flows, project with
  | [], some project => return Names.sorted (Names.distinct project.workflowNames)
  | flows, _ => return flows

/-- Report on the latest executions of a project. -/
def status (argument : Option String) (server : ServerChoice) (detailed : Bool)
    (flows : Option String) : Action String := do
  let (name, project) ← findProject argument false
  let settings ← SettingsFile.load none
  let defaults ← defaultFlows settings project
  let session ← openSession server.url server.name
  let performance := settings.optionText "status" "dr.elephant.url" ""
  let flowFilter := if detailed && flows.isNone then some "" else flows
  let report ← withSession session (Status.query (.text name)
    { flowFilter := Value.ofOption (flowFilter.map Value.text)
      defaultFlows := Value.ofTexts defaults
      performance := if performance.isEmpty then none else some performance })
  Action.ofMishap report.render

/-- Carry out a command line, given the log file if there is one: what is printed. Only flows are
printed one by one. -/
def carryOut (showSize : Nat → String) (logFile : Option String) (line : CommandLine) :
    Action Printed := do
  match line with
  | .help => return (helpText ++ "\n", none)
  | .version => return (version ++ "\n", none)
  | .log =>
    match logFile with
    | some path => return (path ++ "\n", none)
    | none => Action.refuse .noLogFile
  | .build project options replace path =>
    return (← build showSize (← loadProject project options) path replace, none)
  | .info project options workflow => info (← loadProject project options) workflow
  | .upload project options server create =>
    return (← upload showSize (← loadProject project options) server create, none)
  | .status project server detailed flows =>
    return (← status project server detailed flows, none)

/-- How a run ends. -/
inductive Ending
  /-- The command line is not valid. -/
  | misuse
  /-- The command was carried out and printed a text. -/
  | done (text : String)
  /-- The command failed after printing a text. -/
  | failed (text : String) (fault : Fault)

/-- A run of the program. -/
structure Run where
  /-- How it ended. -/
  ending : Ending
  /-- The log file. -/
  logFile : Option String
  /-- Warnings about the log file. -/
  warnings : List String

/-- The log entry of a run that starts. -/
def startingEntry (arguments : List String) (folder : String) : LogEntry :=
  ⟨.debug, "Running \x60hadoopdsl " ++ Text.join " " arguments ++ "\x60 in " ++ folder ++ "."⟩

/-- Set up the log file: its path, or a warning. -/
def openLog : Action (Except String String) := do
  (← SettingsFile.load none).logFile defaultsSection

/-- Run the program in a world. Sizes are shown by a function. -/
def run (showSize : Nat → String) (arguments : List String) (world : World) : Run × World :=
  match openLog world with
  | (.error fault, world) => (⟨.failed "" fault, none, []⟩, world)
  | (.ok opened, world) =>
    let (logFile, warnings) :=
      match opened with
      | .ok path => (some path, [])
      | .error warning => (none, [warning])
    let world := { world with log := world.log ++ [startingEntry arguments world.folder] }
    match readLine arguments with
    | none => (⟨.misuse, logFile, warnings⟩, world)
    | some line =>
      match carryOut showSize logFile line world with
      | (.ok (text, none), world) => (⟨.done text, logFile, warnings⟩, world)
      | (.ok (text, some fault), world) => (⟨.failed text fault, logFile, warnings⟩, world)
      | (.error fault, world) => (⟨.failed "" fault, logFile, warnings⟩, world)

end Jobflow.Command
