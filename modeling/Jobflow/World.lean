import Jobflow.Files.FileTree
import Jobflow.Http

/-!
# The world around the library

Everything that the library reads and changes outside of its own values: files, the
server, the clock, the user and the passwords they type; and what it leaves behind: log
messages, the requests sent and the prompts shown. An action on the world either gives a
value or stops with a fault, and what it did before stays done.
-/

namespace Jobflow

/-- The surroundings of the library. -/
structure World where
  /-- The current folder, which is also the home and the temporary folder. -/
  folder : String
  /-- The files. -/
  tree : FileTree
  /-- The server. -/
  server : Script := []
  /-- The passwords that the user will type. -/
  passwords : List String := []
  /-- The name of the user. -/
  user : String := ""
  /-- The present, in seconds. -/
  now : Value := .int 0
  /-- The year that the clock shows. -/
  year : Nat := 2020
  /-- How many values deep a document may be nested. -/
  room : Nat := 328
  /-- What was logged. -/
  log : Log := []
  /-- The requests sent, in order. -/
  requests : List Request := []
  /-- The prompts shown, in order. -/
  prompts : List String := []

/-- The year in which the file at a place changed last. -/
def World.yearOf (world : World) (names : List String) : Nat :=
  (world.tree.years.find? (FileTree.pathOf names)).getD world.year

/-- An action on the world. -/
abbrev Action (α : Type) := ExceptT Fault (StateM World) α

namespace Action

/-- Log an entry, unless there is none to log. -/
def log (entry : Option LogEntry) : Action Unit :=
  match entry with
  | some entry => modify fun world => { world with log := world.log ++ [entry] }
  | none => pure ()

/-- Deliver a message of a level, which stops the action if its template cannot be filled and the
handlers say so. -/
def deliver [Handlers] (level : LogLevel) (message : Except TemplateError LogEntry) :
    Action Unit :=
  match message with
  | .ok entry => log (some entry)
  | .error reason => if Handlers.stops level then throw reason.fault else pure ()

/-- Log several entries. -/
def logAll (entries : Log) : Action Unit :=
  modify fun world => { world with log := world.log ++ entries }

/-- Carry out a computation that logs. -/
def ofLogged {α : Type} (computation : Logged α) : Action α := do
  let (result, entries) := computation.run.run []
  logAll entries
  match result with
  | .ok value => return value
  | .error fault => throw fault

/-- Give the result of a computation. -/
def ofExcept {α : Type} (result : Except Fault α) : Action α :=
  match result with
  | .ok value => pure value
  | .error fault => throw fault

/-- Give the result of a computation whose faults have no wording. -/
def ofMishap {α : Type} (result : Except Mishap α) : Action α :=
  match result with
  | .ok value => pure value
  | .error mishap => throw (.mishap mishap)

/-- Refuse a request. -/
def refuse {α : Type} (reason : Refusal) : Action α := throw (.refused reason)

/-- What a path leads to, if anything. -/
def find? (path : String) : Action (Option File) := do
  let world ← get
  match world.tree.find world.folder path with
  | .ok (_, file) => return some file
  | .error _ => return none

/-- Write a file. -/
def write (path : String) (file : File) : Action Unit := do
  let world ← get
  let tree ← ofMishap (world.tree.write world.folder path file)
  set { world with tree }

/-- Ask the user for a password; once they have no more to type, it is empty. -/
def prompt (text : String) : Action String := do
  let world ← get
  set { world with prompts := world.prompts ++ [text], passwords := world.passwords.drop 1 }
  return world.passwords.headD ""

/-- Send a request to the server. -/
def send (request : Request) : Action Response := do
  let world ← get
  let (reply, server) := world.server.reply request
  set { world with server, requests := world.requests ++ [request] }
  ofExcept (reply.outcome request)

/-- The outcome of an action, which itself never stops. -/
def outcome {α : Type} (action : Action α) : Action (Except Fault α) :=
  fun world =>
    let (result, world) := action world
    (.ok result, world)

end Action

end Jobflow
