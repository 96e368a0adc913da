import Jobflow.Flow.Compile
import Jobflow.Project.Files
import Jobflow.Yaml.Document

/-!
# Archives of projects

The archive of a project has an entry that marks it, an entry for every workflow with the
document of its compiled flow, and an entry for every added file. Nothing is written when
a workflow is invalid, or when something is in the way of the archive.

Entries are made while the archive is open. What stops the making of one, such as a name or date
that does not fit or a value without a form in documents, leaves an archive of those before it. A
folder is listed before its name and date are looked at, and breaks the archive off without its end.
-/

namespace Jobflow.Project

variable [Handlers]

/-- The flows that the workflows of a project are compiled to. -/
def compile (project : Project) : Logged (List Flow) := do
  let entries ← Logged.ofMishap (entriesOf project.properties)
  let properties := (Properties.ofSources [entries]).toValue
  project.workflows.mapM fun workflow => Flow.compileLogged workflow properties

/-- What stops the writing of an archive. -/
structure Halt where
  /-- The mishap. -/
  mishap : Mishap
  /-- Whether the archive is left without its end. -/
  unended : Bool := false
deriving DecidableEq, Repr

/-- An entry of a year under a name that fits. -/
def entryOf (year : Nat) (name : String) (file : File) : Except Halt (String × File) :=
  if !Zip.fits name then .error ⟨.longName, file.isFolder⟩
  else if Zip.lastYear < year then .error ⟨.lateDate, file.isFolder⟩
  else .ok (name, file)

/-- The entry of a text under a name, nothing of which may be left once it is stored. -/
def textEntry (year : Nat) (name text : String) : Except Halt (String × File) :=
  let stored := Zip.storedName name
  if year < Zip.firstYear then .error { mishap := .badValue }
  else if stored.isEmpty then .error { mishap := .emptyName }
  else entryOf year stored (.text text)

/-- The entry that marks the archive of a project. -/
def markEntry (project : Project) (world : World) : Except Halt (String × File) :=
  textEntry world.year (project.name ++ ".project") "azkaban-flow-version: 2.0\n"

/-- The entry of a compiled flow, whose document is written first. -/
def flowEntry (world : World) (flow : Flow) : Except Halt (String × File) := do
  let text ← (Yaml.render world.room flow.toValue).mapError fun mishap => { mishap }
  textEntry world.year (flow.name ++ ".flow") text

/-- The entry of a file of a year under its archive path, which is written in its normal form. A
name that ends in a slash stands for a folder, and has to do so for every folder. -/
def fileEntry (year : Nat) (archivePath : String) (file : File) : Except Halt (String × File) :=
  let ending := if file.isFolder then "/" else ""
  let name := Zip.storedName (Path.normal archivePath ++ ending)
  if year < Zip.firstYear then .error { mishap := .badValue }
  else if Text.endsWith name "/" then entryOf year name .folder
  else if file.isFolder then .error { mishap := .isFolder }
  else entryOf year name file

/-- The entry of an added file, which has to be there still. -/
def addedEntry (world : World) (added : String × String) : Except Halt (String × File) := do
  let (names, file) ← (world.tree.find "/" added.2).mapError fun mishap => { mishap }
  fileEntry (world.yearOf names) added.1 file

/-- The added files in the order of their archive paths. -/
def sortedFiles (project : Project) : List (String × String) :=
  project.files.entries.mergeSort fun a b => !decide (b.1 < a.1)

/-- The entries of the archive of a project with its compiled flows. -/
def archiveEntries (project : Project) (flows : List Flow) (world : World) :
    List (Except Halt (String × File)) :=
  project.markEntry world :: flows.map (flowEntry world) ++
    project.sortedFiles.map (addedEntry world)

/-- The values in a list up to the first that is stopped, and what stops it. -/
def untilHalt {α : Type} : List (Except Halt α) → List α × Option Halt
  | [] => ([], none)
  | .error halt :: _ => ([], some halt)
  | .ok value :: rest =>
    let (values, halt) := untilHalt rest
    (value :: values, halt)

/-- What is at the path of an archive with some entries after its writing was stopped, if it was. -/
def archiveFile (entries : List (String × File)) : Option Halt → File
  | some ⟨_, true⟩ => .unended entries
  | _ => .archive entries

/-- Write the archive of a project with its compiled flows. If the making of an entry is stopped, it
has those that came before. -/
def writeArchive (project : Project) (flows : List Flow) (path : String) : Action Unit := do
  let (entries, halt) := untilHalt (project.archiveEntries flows (← get))
  Action.write path (archiveFile entries halt)
  match halt with
  | some halt => throw (.mishap halt.mishap)
  | none => pure ()

/-- Build the archive of a project at a path where there is nothing, unless it is to be
replaced. -/
def build (project : Project) (path : String) (overwrite : Bool) : Action Unit := do
  if (← Action.find? path).isSome && !overwrite then Action.refuse (.pathExists path)
  if project.workflows.isEmpty then Action.refuse (.noWorkflows project.name)
  let flows ← Action.ofLogged project.compile
  project.writeArchive flows path
  project.log .info "Built %s flows and %s files into %s."
    [.ofNat flows.length, .ofNat project.files.size, .text path]

end Jobflow.Project
