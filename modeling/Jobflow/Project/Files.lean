import Jobflow.Project.Basic

/-!
# Files of projects

A file is added to a project by its path, which is absolute or starts from the root, and
gets a path inside the archive: the one that is given, or else its path below the root. A
file outside of the root needs an archive path, and two different files cannot have one,
unless the second is to replace the first.
-/

namespace Jobflow.Project

variable [Handlers]

/-- The place of a file given by its path. -/
def place (project : Project) (path : String) : Except Refusal String :=
  if Path.isAbsolute path then .ok (Path.real "/" path)
  else
    match project.root with
    | none => .error (.noProjectRoot path)
    | some root => .ok (Path.real root path)

/-- Whether a place is below a folder. -/
def isBelow (folder place : String) : Bool := Text.startsWith place (folder ++ "/")

/-- The archive path of the file at a place when none is given. -/
def derivedPath (project : Project) (place : String) : Except Refusal String :=
  match project.root with
  | none => .ok place
  | some root =>
    if isBelow root place then .ok (Path.relative root place) else .error (.outsideRoot place)

/-- The path inside the archive of the file at a place. Archive paths are relative. -/
def archivePath (project : Project) (given place : String) : Except Refusal String :=
  (if given.isEmpty then project.derivedPath place else .ok given).map Text.dropSlashes

/-- Give an archive path to the file at a place. -/
def assign (project : Project) (archivePath place : String) (overwrite : Bool) :
    Except Refusal Project :=
  match project.files.find? archivePath with
  | some current =>
    if current = place ∨ overwrite then
      .ok { project with files := project.files.insert archivePath place }
    else .error (.archivePathTaken archivePath current)
  | none => .ok { project with files := project.files.insert archivePath place }

/-- A project with a further file, and what the file is and where it goes. -/
def withFile (project : Project) (tree : FileTree) (file : FilePlan) :
    Except Refusal (Project × String × String) := do
  let place ← project.place file.path
  unless tree.hasPath "/" place do throw (.fileNotFound place)
  let archivePath ← project.archivePath file.archivePath place
  return (← project.assign archivePath place file.overwrite, place, archivePath)

/-- Log that a file was added. -/
def logFile (project : Project) (place archivePath : String) : Action Unit :=
  project.log .debug "Added file %r as %r." [.text place, .text archivePath]

/-- Add a file. -/
def addFile (project : Project) (file : FilePlan) : Action Project := do
  match project.withFile (← get).tree file with
  | .error reason => Action.refuse reason
  | .ok (changed, place, archivePath) =>
    project.logFile place archivePath
    return changed

end Jobflow.Project
