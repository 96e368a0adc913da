import Jobflow.Description.Fields
import Jobflow.Workflow.Plan

/-!
# Describing workflows

Documents that describe workflows: mappings with the fields that plans of workflows have.
A node is described by the name of a job and the fields of that job, or by its workflow.
-/

namespace Jobflow.Description

/-- The class of jobs of a name; jobs that do nothing if it is no such name. -/
def jobClass (name : String) : JobClass :=
  match [JobClass.plain, .command, .pig, .hadoopJava].find? fun known => known.name == name with
  | some known => known
  | none => .noop

/-- What a described job is made of. -/
def jobSpec (document : Value) : Job.Spec where
  jobClass := jobClass (document.textField "class")
  main := document.fieldOr "main"
  options := document.listField "options"
  dependencies := document.textsField "dependencies"
  required := document.textsField "required"
  condition := document.textField? "condition"

/-- The header of a described workflow. -/
def headerPlan (document : Value) : HeaderPlan where
  name := document.textField "name"
  options := document.listField "options"
  condition := document.textField? "condition"
  propertyFiles := document.textsField "property_files"
  dependencies := document.textsField "depends"
  targets := document.textsField "targets"

/-- A described node other than a workflow: a job, or the same job as an earlier one. -/
def jobPlan (document : Value) : NodePlan :=
  match document.textField? "same_as" with
  | some earlier => .again (document.textField "job") earlier
  | none =>
    .job (document.textField "job") (jobSpec document) (document.textsField "property_files")

mutual

/-- A described node. -/
def nodePlan : Value → NodePlan
  | .map label entries => (workflowIn entries).getD (jobPlan (.map label entries))
  | other => jobPlan other

/-- The workflow among the fields of a node. -/
def workflowIn : List (String × Value) → Option NodePlan
  | [] => none
  | (name, value) :: rest =>
    if name = "workflow" then some (.workflow (headerPlan value) (nodesOf value))
    else workflowIn rest

/-- The nodes of a described workflow. -/
def nodesOf : Value → List NodePlan
  | .map _ entries => nodesIn entries
  | _ => []

/-- The nodes among the fields of a workflow. -/
def nodesIn : List (String × Value) → List NodePlan
  | [] => []
  | (name, value) :: rest => if name = "nodes" then nodeItems value else nodesIn rest

/-- The nodes in a list. -/
def nodeItems : Value → List NodePlan
  | .list _ items => nodePlans items
  | _ => []

/-- The nodes that documents describe. -/
def nodePlans : List Value → List NodePlan
  | [] => []
  | document :: rest => nodePlan document :: nodePlans rest

end

/-- A described workflow. -/
def workflowPlan (document : Value) : WorkflowPlan := ⟨headerPlan document, nodesOf document⟩

/-- The sources of the described property files. -/
def librarySources (document : Value) : List (String × List Value) :=
  (document.fieldOr "property_files").members.map fun (name, options) => (name, options.items)

end Jobflow.Description
