import Jobflow.Files.Path
import Jobflow.Files.Zip
import Jobflow.Project.Plan

/-!
# File trees

The files that the library reads and writes, by their absolute paths. A path is followed
name by name, so that every name before the last has to be a folder that is there, even
one that `..` takes back. There are no links.
-/

namespace Jobflow

/-- What a path can lead to. -/
inductive File
  /-- A folder. -/
  | folder
  /-- A file that holds text. -/
  | text (contents : String)
  /-- A file that holds any bytes. -/
  | bytes (contents : List Nat)
  /-- An archive: the names of its entries and what they hold, in order. -/
  | archive (entries : List (String × File))
  /-- A profile. -/
  | profile (steps : List ProfileStep)
  /-- A project module. -/
  | module (plan : ModulePlan)

/-- Whether a file is a folder. -/
def File.isFolder : File → Bool
  | .folder => true
  | _ => false

mutual

/-- The bytes of a file, if it is made of bytes. -/
def File.bytes? : File → Option (List Nat)
  | .text contents => some (Text.Utf8.encode contents.toList)
  | .bytes contents => some contents
  | .archive entries => some (Zip.encode (File.stored entries))
  | _ => none

/-- The entries of an archive with the bytes that they hold. -/
def File.stored : List (String × File) → List (String × List Nat)
  | [] => []
  | (name, file) :: rest => (name, (File.bytes? file).getD []) :: File.stored rest

end

/-- What is left of an archive whose writing broke off without its end. -/
def File.unended (entries : List (String × File)) : File :=
  .bytes (Zip.unended ((File.stored entries).map Zip.entryOf))

/-- The size of a file in bytes. -/
def File.size (file : File) : Nat := (file.bytes?.getD []).length

/-- The characters of a file, which bytes may fail to be. -/
def File.characters : File → Except Text.Utf8.Failure (List Char)
  | .text contents => .ok contents.toList
  | .bytes contents => Text.Utf8.decode contents
  | _ => .ok []

/-- Files by absolute path. The root is a folder that is always there. -/
structure FileTree where
  /-- All files and folders below the root. -/
  files : OrderedMap File
  /-- The years in which files changed last, unless it was the present one. -/
  years : OrderedMap Nat := .empty

namespace FileTree

/-- The absolute path of some names. -/
def pathOf (names : List String) : String := "/" ++ Text.join "/" names

/-- What is at the end of some names from the root. -/
def at? (tree : FileTree) (names : List String) : Option File :=
  if names.isEmpty then some .folder else tree.files.find? (pathOf names)

/-- Follow names from a folder, given by the names that lead to it. Each name needs a
folder to start from. -/
def follow (tree : FileTree) (here : List String) : List String →
    Except Mishap (List String × File)
  | [] =>
    match tree.at? here with
    | some file => .ok (here, file)
    | none => .error .missingFile
  | name :: rest =>
    match tree.at? here with
    | none => .error .missingFile
    | some .folder =>
      if name = "" ∨ name = "." then follow tree here rest
      else if name = ".." then follow tree here.dropLast rest
      else follow tree (here ++ [name]) rest
    | some _ => .error .notFolder

/-- What a path leads to from a folder: its place and what is there. -/
def find (tree : FileTree) (folder path : String) : Except Mishap (List String × File) :=
  if path.isEmpty then .error .missingFile
  else tree.follow [] (Path.names (Path.join folder path))

/-- Whether a path leads to anything. -/
def hasPath (tree : FileTree) (folder path : String) : Bool := (tree.find folder path).isOk

/-- Whether a path leads to a folder. -/
def hasFolder (tree : FileTree) (folder path : String) : Bool :=
  match tree.find folder path with
  | .ok (_, .folder) => true
  | _ => false

/-- Whether a path leads to a file that is no folder. -/
def hasFile (tree : FileTree) (folder path : String) : Bool :=
  match tree.find folder path with
  | .ok (_, .folder) => false
  | .ok _ => true
  | .error _ => false

/-- The place that a file can be written to at a path: its folder is there, and it is no
folder itself. -/
def placeFor (tree : FileTree) (folder path : String) : Except Mishap (List String) :=
  match tree.find folder path with
  | .ok (_, .folder) => .error .isFolder
  | .ok (names, _) => .ok names
  | .error .notFolder => .error .notFolder
  | .error _ =>
    let names := Path.names (Path.join folder path)
    match names.getLast? with
    | none => .error .missingFile
    | some name =>
      if path.isEmpty ∨ name = "" ∨ name = "." ∨ name = ".." then .error .missingFile
      else
        match tree.follow [] names.dropLast with
        | .ok (here, .folder) => .ok (here ++ [name])
        | .ok _ => .error .notFolder
        | .error mishap => .error mishap

/-- Put a file at a place. -/
def put (tree : FileTree) (names : List String) (file : File) : FileTree :=
  { files := tree.files.insert (pathOf names) file, years := tree.years.erase (pathOf names) }

/-- Write a file at a path. -/
def write (tree : FileTree) (folder path : String) (file : File) : Except Mishap FileTree := do
  return tree.put (← tree.placeFor folder path) file

/-- Take away the file at a place. -/
def remove (tree : FileTree) (names : List String) : FileTree :=
  { files := tree.files.erase (pathOf names), years := tree.years.erase (pathOf names) }

/-- Make a folder and those above it, where there is nothing yet. -/
def makeFolders (tree : FileTree) (names : List String) : FileTree :=
  (List.range names.length).foldl
    (fun tree count =>
      let above := names.take (count + 1)
      if (tree.at? above).isSome then tree else tree.put above .folder) tree

/-- Put a file at a path below a folder, making the folders that lead to it. -/
def create (tree : FileTree) (folder path : String) (file : File) : FileTree :=
  let names := Path.normalNames (Path.join folder path)
  match file with
  | .folder => tree.makeFolders names
  | file => (tree.makeFolders names.dropLast).put names file

end FileTree

end Jobflow
