import Jobflow.Job

/-!
# Workflows

A workflow is a tree: it declares nodes in order, each a named job or an embedded
workflow. What a workflow says about itself apart from its nodes is its header: its name,
the properties and property files that its nodes inherit, the targets that it depends on,
and, for when it is embedded, a condition and dependencies on nodes of the enclosing
workflow.
-/

namespace Jobflow

/-- What a workflow says about itself. -/
structure Header where
  /-- The name, which is also the name of the workflow's own node. -/
  name : String
  /-- The condition under which it is run when embedded. -/
  condition : Option String := none
  /-- The properties that its nodes inherit. -/
  properties : Properties := .empty
  /-- The property files that its nodes inherit from. -/
  propertyFiles : List PropertyFile := []
  /-- The nodes of the enclosing workflow that it depends on, without repetition. -/
  dependencies : Names.Distinct := .empty
  /-- The nodes that its own node depends on, without repetition. -/
  targets : Names.Distinct := .empty

namespace Header

/-- The quoted form of a workflow. -/
def repr (header : Header) : String := "<Workflow(name=" ++ Text.quote header.name ++ ")>"

/-- The properties passed down to the nodes of a workflow: its property files override
what it inherits, and its own properties override both. -/
def inherit (header : Header) (inherited : List Entries) : Properties :=
  Properties.ofSources
    (inherited ++ header.propertyFiles.map (·.properties.entries) ++ [header.properties.entries])

/-- The properties defined by a workflow itself. -/
def ownProperties (header : Header) : Properties := header.inherit []

/-- Declare targets; repeated ones are ignored. -/
def target (header : Header) (names : List String) : Header :=
  { header with targets := header.targets.addAll names }

/-- Declare dependencies on nodes of the enclosing workflow; repeated ones are ignored. -/
def depends (header : Header) (names : List String) : Header :=
  { header with dependencies := header.dependencies.addAll names }

/-- Set properties from sources, later ones overriding earlier ones. -/
def set (header : Header) (sources : List Entries) : Header :=
  { header with properties := header.properties.merge sources }

/-- Inherit from a further property file. -/
def addPropertyFile (header : Header) (file : PropertyFile) : Header :=
  { header with propertyFiles := header.propertyFiles ++ [file] }

end Header

/-- A node declared in a workflow. -/
inductive Declaration
  /-- A job under a name. -/
  | job (name : String) (job : Job)
  /-- An embedded workflow, under its own name. -/
  | workflow (header : Header) (nodes : List Declaration)

/-- The name of a declared node. -/
def Declaration.name : Declaration → String
  | .job name _ => name
  | .workflow header _ => header.name

/-- Whether a declared node is an embedded workflow. -/
def Declaration.isWorkflow : Declaration → Bool
  | .job .. => false
  | .workflow .. => true

/-- A workflow: its header and the nodes it declares, in order. -/
structure Workflow where
  /-- What the workflow says about itself. -/
  header : Header
  /-- The declared nodes. -/
  nodes : List Declaration

end Jobflow
