import Jobflow.Text.Cut
import Jobflow.Text.Quoted

/-!
# Defects of workflows

What makes a workflow impossible to compile, and how each defect is reported.
-/

namespace Jobflow.Flow

open Text (quote)

/-- Why a workflow cannot be compiled. -/
inductive Defect
  /-- A node is declared twice, or has the name of its own workflow. -/
  | duplicateName (node workflow : String)
  /-- A job has no type. -/
  | noType (job workflow : String)
  /-- Parameters that a job requires have no value. -/
  | missingParameters (job workflow : String) (names : List String)
  /-- A target is not declared. -/
  | undefinedTarget (target workflow : String)
  /-- A node depends on a node that is not declared. -/
  | undefinedDependency (node workflow dependency : String)
  /-- Nodes depend on each other in a circle, whose first node is repeated at the end. -/
  | cycle (workflow : String) (nodes : List String)
  /-- A node has a condition but nothing to base it on. -/
  | conditionWithoutDependencies (node workflow : String)
  /-- A condition refers to a node that its own node does not depend on. -/
  | foreignReference (node workflow reference : String)
deriving DecidableEq, Repr

/-- The report of a defect. -/
def Defect.message : Defect → String
  | .duplicateName node workflow =>
    "Duplicate node name " ++ quote node ++ " in workflow " ++ quote workflow ++ "."
  | .noType job workflow =>
    "Job " ++ quote job ++ " in workflow " ++ quote workflow ++ " has no type."
  | .missingParameters job workflow names =>
    "Job " ++ quote job ++ " in workflow " ++ quote workflow ++
      " is missing required parameters: " ++ Text.join ", " names ++ "."
  | .undefinedTarget target workflow =>
    "Target " ++ quote target ++ " of workflow " ++ quote workflow ++ " is not defined."
  | .undefinedDependency node workflow dependency =>
    "Node " ++ quote node ++ " in workflow " ++ quote workflow ++
      " depends on undefined node " ++ quote dependency ++ "."
  | .cycle workflow nodes =>
    "Cycle detected in workflow " ++ quote workflow ++ ": " ++ Text.join " -> " nodes ++ "."
  | .conditionWithoutDependencies node workflow =>
    "Node " ++ quote node ++ " in workflow " ++ quote workflow ++
      " has a condition but no dependencies."
  | .foreignReference node workflow reference =>
    "Condition of node " ++ quote node ++ " in workflow " ++ quote workflow ++
      " refers to " ++ quote reference ++ " which is not one of its ancestors."

end Jobflow.Flow
