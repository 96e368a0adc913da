import Jobflow.Description.Workflow
import Jobflow.Files.FileTree
import Jobflow.Text.Hex

/-!
# Describing files

Documents that describe files: a text stands for a file that holds it, and mappings stand
for bytes, folders, profiles and project modules.
-/

namespace Jobflow.Description

/-- A step of a profile. What stops a profile is described by the field `raise`, for which
a fault is given. -/
def profileStep (fault : Value → Fault) (document : Value) : ProfileStep :=
  if document.has "select" then .select (document.fieldOr "select")
  else if document.has "raise" then .raise (fault document)
  else
    .declare (.ofTexts (document.fieldOr "defs").members)
      ((document.field? "name").getD defaultSet.value)

/-- A file of a project, described by a list. -/
def filePlan (document : Value) : FilePlan where
  path := document.textAt 0
  archivePath := document.textAt 1
  overwrite := (document.itemAt 2).truthy

/-- The root of a project. -/
def rootPlan : Value → RootPlan
  | .bool true => .ofModule
  | .text path => .path path
  | _ => .none

/-- A described project. -/
def projectPlan (document : Value) : ProjectPlan where
  name := document.textField "name"
  register := document.flagField "register" true
  version := document.fieldOr "version"
  root := rootPlan (document.fieldOr "root")
  definitions := (document.listField "definitions").map fun pair =>
    (pair.itemAt 0, .ofTexts (pair.itemAt 1).members)
  profile := document.textField? "profile"
  properties := document.field? "properties"
  lookups := (document.listField "lookups").map fun pair => (pair.textAt 0, pair.itemAt 1)
  files := (document.listField "files").map filePlan
  propertyFiles := librarySources document
  workflows := (document.listField "workflows").map workflowPlan

/-- A described project module. -/
def modulePlan (fault : Value → Fault) (document : Value) : ModulePlan where
  projects := (document.listField "projects").map projectPlan
  stop := if document.has "raise" then some (fault document) else none

/-- The bytes written by pairs of hexadecimal digits. -/
def bytesOf : List Char → List Nat
  | first :: second :: rest => (Text.readHex? [first, second]).getD 0 :: bytesOf rest
  | _ => []

/-- A described file. -/
def file (fault : Value → Fault) (document : Value) : File :=
  match document with
  | .text contents => .text contents
  | other =>
    if other.has "hex" then .bytes (bytesOf (other.textField "hex").toList)
    else if other.has "dir" then .folder
    else if other.has "profile" then
      .profile ((other.listField "profile").map (profileStep fault))
    else .module (modulePlan fault (other.fieldOr "module"))

/-- A tree with described files below a folder. -/
def addFiles (fault : Value → Fault) (tree : FileTree) (folder : String) (documents : Value) :
    FileTree :=
  documents.members.foldl
    (fun tree (path, document) => tree.create folder path (file fault document)) tree

end Jobflow.Description
