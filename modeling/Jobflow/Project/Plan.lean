import Jobflow.Definitions
import Jobflow.Workflow.Plan

/-!
# Plans of projects

A plan says how a project is put together, step by step: its definitions and profile, its
properties, of which some are looked up among the definitions, its files and its
workflows. A project module is a number of such plans, after which it may stop with an
error.
-/

namespace Jobflow

/-- Where the relative paths of a project start. -/
inductive RootPlan
  /-- Nowhere: relative paths are refused. -/
  | none
  /-- Beside the module that defines the project. -/
  | ofModule
  /-- At a file or folder. -/
  | path (path : String)

/-- A file to add to a project. -/
structure FilePlan where
  /-- The path of the file. -/
  path : String
  /-- The path inside the archive; an empty one is derived from the file's. -/
  archivePath : String := ""
  /-- Whether another file at the same archive path is replaced. -/
  overwrite : Bool := false

/-- How a project is put together. -/
structure ProjectPlan where
  /-- The name. -/
  name : String
  /-- Whether the project can be found by its name. -/
  register : Bool := true
  /-- The version. -/
  version : Value := .null
  /-- Where relative paths start. -/
  root : RootPlan := .none
  /-- Definitions and the sets that they go to. -/
  definitions : List (Value × KeyMap Value) := []
  /-- The path of a profile. -/
  profile : Option String := Option.none
  /-- The properties. -/
  properties : Option Value := Option.none
  /-- Properties to look up: the key, and the name of the definition. -/
  lookups : List (String × Value) := []
  /-- The files. -/
  files : List FilePlan := []
  /-- The sources of property files. -/
  propertyFiles : List (String × List Value) := []
  /-- The workflows. -/
  workflows : List WorkflowPlan := []

/-- A project module: the projects it makes, and what stops it afterwards. -/
structure ModulePlan where
  /-- The projects, in the order in which they are made. -/
  projects : List ProjectPlan := []
  /-- What stops the module once they are made. -/
  stop : Option Fault := Option.none

end Jobflow
