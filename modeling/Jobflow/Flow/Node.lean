import Jobflow.Workflow

/-!
# Compiled flows

A compiled flow has a name, a configuration and nodes. A node is a job with its own
configuration, or an embedded flow with nodes of its own; the last node of every scope
stands for the scope itself. As a document, a node leaves out the fields that are empty.
-/

namespace Jobflow.Flow

/-- A compiled job or embedded workflow. -/
structure Node where
  /-- The name, unique among the nodes of its scope. -/
  name : String
  /-- The type. -/
  type : Value
  /-- The nodes of the same scope it depends on. -/
  dependsOn : List String
  /-- The condition under which it is run. -/
  condition : Option String
  /-- The configuration. -/
  config : Properties
  /-- The nodes of an embedded workflow. -/
  nodes : List Node

namespace Node

/-- The type of the nodes of embedded workflows. -/
def flowType : Value := .text "flow"

/-- The type of the nodes that stand for a scope. -/
def ownType : Value := .text "noop"

/-- The condition, unless it is empty. -/
def activeCondition (node : Node) : Option String := node.condition.filter fun text => !text.isEmpty

/-- The fields of a node before its nodes, leaving out the empty ones. -/
def leadingFields (name : String) (type : Value) (dependsOn : List String)
    (condition : Option String) (config : Properties) : Entries :=
  [("name", .text name), ("type", type)] ++
    (if dependsOn.isEmpty then [] else [("dependsOn", Value.ofTexts dependsOn)]) ++
    (match condition.filter fun text => !text.isEmpty with
      | some text => [("condition", .text text)]
      | none => []) ++
    (if config.isEmpty then [] else [("config", config.toValue)])

mutual

/-- The document of a node. -/
def toValue : Node → Value
  | ⟨name, type, dependsOn, condition, config, nodes⟩ =>
    .ofEntries (leadingFields name type dependsOn condition config ++
      (match nodes with
        | [] => []
        | node :: rest => [("nodes", .ofList (toValue node :: toValues rest))]))

/-- The documents of nodes. -/
def toValues : List Node → List Value
  | [] => []
  | node :: rest => toValue node :: toValues rest

end

end Node

end Jobflow.Flow

namespace Jobflow

/-- A compiled workflow. The last node is the flow's own. -/
structure Flow where
  /-- The name. -/
  name : String
  /-- The properties that all its jobs inherit. -/
  config : Properties
  /-- The nodes, in the order of their declaration. -/
  nodes : List Flow.Node

namespace Flow

/-- The quoted form of a flow. -/
def repr (flow : Flow) : String := "<FlowDefinition(name=" ++ Text.quote flow.name ++ ")>"

/-- The node of a name among those of the outermost scope. -/
def node? (flow : Flow) (name : String) : Option Node :=
  flow.nodes.find? fun node => node.name == name

/-- The document of a flow, its configuration first. -/
def toValue (flow : Flow) : Value :=
  .ofEntries
    [("config", flow.config.toValue), ("nodes", .ofList (Node.toValues flow.nodes))]

end Flow

end Jobflow
