import Jobflow.ByteSize
import Jobflow.Command.Program
import Jobflow.Description.File

/-!
# The program in a folder

The program runs in the current folder: its files are read beforehand, and what a run
changes is written back afterwards. Project modules and profiles are documents that
describe them. No server can be reached from here.
-/

namespace Jobflow.Main

/-- The fault that a described module or profile stops with. -/
def describedFault (document : Value) : Fault :=
  .raised .general (.text (document.textField "message"))

/-- The file of some bytes: a described module or profile, a text, or just bytes. -/
def fileOf (bytes : List Nat) : File :=
  match Text.Utf8.decode bytes with
  | .error _ => .bytes bytes
  | .ok cs =>
    let text := String.ofList cs
    match Json.read? text with
    | some document =>
      if document.has "module" || document.has "profile" then
        Description.file describedFault document
      else .text text
    | none => .text text

/-- Read an entry of a folder into a tree, the folder being given by its names. What cannot
be read is left out. -/
partial def readEntry (names : List String) (tree : FileTree) (entry : IO.FS.DirEntry) :
    IO FileTree := do
  let names := names ++ [entry.fileName]
  match ← entry.path.readDir.toBaseIO with
  | .ok entries => entries.foldlM (readEntry names) (tree.put names .folder)
  | .error _ =>
    match ← (IO.FS.readBinFile entry.path).toBaseIO with
    | .ok bytes => return tree.put names (fileOf (bytes.toList.map UInt8.toNat))
    | .error _ => return tree

/-- The world around the program. -/
def readWorld : IO World := do
  let current ← IO.currentDir
  let folder := current.toString
  let above := ({ files := .empty } : FileTree).create "/" folder .folder
  let entries ← current.readDir
  let tree ← entries.foldlM (readEntry (Path.normalNames folder)) above
  return { folder, tree, user := (← IO.getEnv "USER").getD "" }

/-- Write the files that differ from what they were. -/
def writeChanges (before after : FileTree) : IO Unit :=
  after.files.entries.forM fun (path, file) => do
    match file.bytes? with
    | none => return
    | some bytes =>
      if (before.files.find? path).bind File.bytes? != some bytes then
        IO.FS.writeBinFile path ⟨(bytes.map UInt8.ofNat).toArray⟩

/-- Append messages to the log file. -/
def appendLog (path : String) (log : Log) : IO Unit := do
  let handle ← IO.FS.Handle.mk path .append
  log.forM fun entry => handle.putStrLn (entry.level.name ++ " " ++ entry.message)

/-- Show how a run ended: the exit status. -/
def finish : Command.Ending → IO UInt32
  | .misuse => do
    IO.eprintln Command.usageText
    return 1
  | .done text => do
    IO.print text
    return 0
  | .failed text fault => do
    IO.print text
    IO.eprintln (if fault.kind?.isSome then fault.text else "Command failed unexpectedly.")
    return 1

end Jobflow.Main

open Jobflow in
/-- Run the program on the arguments of its command line. -/
def main (arguments : List String) : IO UInt32 := do
  let world ← Main.readWorld
  let (run, after) := Command.run ByteSize.ofNat arguments world
  Main.writeChanges world.tree after.tree
  run.warnings.forM fun warning => IO.eprintln warning
  match run.logFile with
  | some path => Main.appendLog path after.log
  | none => pure ()
  Main.finish run.ending
