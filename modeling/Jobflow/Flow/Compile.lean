import Jobflow.Flow.Condition
import Jobflow.Flow.Defect
import Jobflow.Flow.Graph
import Jobflow.Flow.Node
import Jobflow.Logged

/-!
# Compiling workflows

Compiling a workflow turns its tree of declarations into a flow, or finds a defect. Every
scope is checked on its own: names are distinct, every job has a type and values for the
parameters it requires, targets and dependencies are declared, there is no circle of
dependencies, and conditions refer to what their node depends on. Embedded workflows are
compiled where they are declared, before the graph of the scope around them is checked.

On the way, notices are given of what is worth a look without being a defect. They stay
when a defect follows.
-/

namespace Jobflow.Flow

/-- What compiling a workflow gives notice of. -/
inductive Notice
  /-- A workflow is about to be compiled. -/
  | compiling (workflow : String)
  /-- A workflow was compiled into a number of nodes. -/
  | compiled (workflow : String) (nodes : Nat)
  /-- A workflow has no targets. -/
  | noTargets (workflow : String)
  /-- The targets of a workflow do not depend on a node. -/
  | unreachable (node workflow : String)
  /-- A condition is an expression. -/
  | expression (node workflow condition : String)
deriving DecidableEq, Repr

open Text (quote)

/-- The log entry of a notice. -/
def Notice.entry : Notice → LogEntry
  | .compiling workflow => ⟨.debug, "Compiling workflow " ++ quote workflow ++ "."⟩
  | .compiled workflow nodes =>
    ⟨.info, "Compiled workflow " ++ quote workflow ++ " (" ++ toString nodes ++ " nodes)."⟩
  | .noTargets workflow => ⟨.warning, "Workflow " ++ quote workflow ++ " has no targets."⟩
  | .unreachable node workflow =>
    ⟨.warning, "Node " ++ quote node ++ " in workflow " ++ quote workflow ++
      " is not reachable from its targets."⟩
  | .expression node workflow condition =>
    ⟨.debug, "Node " ++ quote node ++ " in workflow " ++ quote workflow ++
      " uses condition expression " ++ quote condition ++ "."⟩

/-- A step of compiling: it may find a defect, and gives notices either way. -/
abbrev Compiling (α : Type) := ExceptT Defect (StateM (List Notice)) α

/-- Give a notice. -/
def notify (notice : Notice) : Compiling Unit := modify (· ++ [notice])

/-- Stop at a defect, if there is one. -/
def stopAt (defect : Option Defect) : Compiling Unit :=
  match defect with
  | some defect => throw defect
  | none => pure ()

/-- The first name of a list that is among the names before it or those already taken. -/
def firstRepeated? (taken : List String) : List String → Option String
  | [] => none
  | name :: rest => if name ∈ taken then some name else firstRepeated? (name :: taken) rest

/-- A name declared twice in a scope, or taken by the workflow itself. -/
def nameDefect? (workflow : String) (names : List String) : Option Defect :=
  (firstRepeated? [workflow] names).map fun name => .duplicateName name workflow

/-- What a job lacks inside the properties of its scope. -/
def jobDefect? (workflow name : String) (job : Job) (scope : Properties) : Option Defect :=
  if !job.type.truthy then some (.noType name workflow)
  else
    let missing := (job.resolve [scope.entries]).missing job.required.toList
    if missing.isEmpty then none else some (.missingParameters name workflow missing)

/-- The node of a job, with its own configuration. -/
def jobNode (name : String) (job : Job) : Node where
  name
  type := job.type
  dependsOn := job.dependencies.toList
  condition := job.condition
  config := job.resolve []
  nodes := []

/-- The node of an embedded workflow. -/
def flowNode (header : Header) (nodes : List Node) : Node where
  name := header.name
  type := Node.flowType
  dependsOn := header.dependencies.toList
  condition := header.condition
  config := header.ownProperties
  nodes

/-- The node that stands for a workflow in its own scope. -/
def ownNode (header : Header) : Node where
  name := header.name
  type := Node.ownType
  dependsOn := header.targets.toList
  condition := none
  config := .empty
  nodes := []

/-- The first dependency of a scope's nodes that is not declared. The last node is the
workflow's own, whose dependencies are its targets. -/
def referenceDefect? (workflow : String) (declared : List String) (nodes : List Node) :
    Option Defect :=
  nodes.findSome? fun node =>
    (node.dependsOn.find? fun name => !declared.contains name).map fun name =>
      if node.name = workflow then .undefinedTarget name workflow
      else .undefinedDependency node.name workflow name

/-- The dependencies of each node of a scope. -/
def graphOf (nodes : List Node) : Graph :=
  OrderedMap.ofList (nodes.map fun node => (node.name, node.dependsOn))

/-- What is wrong with the condition of a node. -/
def conditionDefect? (workflow : String) (graph : Graph) (node : Node) (condition : String) :
    Option Defect :=
  if node.dependsOn.isEmpty then some (.conditionWithoutDependencies node.name workflow)
  else
    let ancestors := graph.ancestors node.name
    ((Condition.referenced condition).find? fun name => !ancestors.contains name).map
      fun name => .foreignReference node.name workflow name

/-- Check the condition of a node, if it has one. -/
def checkCondition (workflow : String) (graph : Graph) (node : Node) : Compiling Unit :=
  match node.activeCondition with
  | none => pure ()
  | some condition => do
    stopAt (conditionDefect? workflow graph node condition)
    unless Condition.outcomes.contains condition do
      notify (.expression node.name workflow condition)

/-- The declared nodes that the targets do not depend on, in order. -/
def unreachable (workflow : String) (declared : List String) (graph : Graph) : List String :=
  let reached := graph.ancestors workflow
  declared.filter fun name => !reached.contains name

/-- Check the graph of a scope: references, circles and conditions, and give notice of
nodes out of reach. -/
def checkGraph (workflow : String) (declared : List String) (nodes : List Node) :
    Compiling Unit := do
  stopAt (referenceDefect? workflow declared nodes)
  let graph := graphOf nodes
  stopAt ((graph.cycle? (nodes.map Node.name)).map (Defect.cycle workflow))
  nodes.forM (checkCondition workflow graph)
  (unreachable workflow declared graph).forM fun name => notify (.unreachable name workflow)

/-- Complete a scope whose declared nodes are compiled: add the workflow's own node and
check the graph. -/
def closeScope (header : Header) (compiled : List Node) : Compiling (List Node) := do
  if header.targets.toList.isEmpty then notify (.noTargets header.name)
  let nodes := compiled ++ [ownNode header]
  checkGraph header.name (compiled.map Node.name) nodes
  return nodes

mutual

/-- Compile declared nodes, in order. -/
def compileNodes (workflow : String) (scope : Properties) :
    List Declaration → Compiling (List Node)
  | [] => pure []
  | declaration :: rest => do
    let node ← compileNode workflow scope declaration
    let nodes ← compileNodes workflow scope rest
    return node :: nodes

/-- Compile a declared node. -/
def compileNode (workflow : String) (scope : Properties) : Declaration → Compiling Node
  | .job name job => do
    stopAt (jobDefect? workflow name job scope)
    return jobNode name job
  | .workflow header declarations => do
    stopAt (nameDefect? header.name (declarations.map Declaration.name))
    let compiled ← compileNodes header.name (header.inherit [scope.entries]) declarations
    return flowNode header (← closeScope header compiled)

end

/-- Compile the scope of a workflow inside the properties it inherits. -/
def compileScope (workflow : Workflow) (inherited : Properties) : Compiling (List Node) := do
  let header := workflow.header
  stopAt (nameDefect? header.name (workflow.nodes.map Declaration.name))
  let compiled ←
    compileNodes header.name (header.inherit [inherited.entries]) workflow.nodes
  closeScope header compiled

/-- Compile a workflow with the properties of its project. -/
def compile (workflow : Workflow) (properties : Entries) : Compiling Flow := do
  let header := workflow.header
  notify (.compiling header.name)
  let inherited := Properties.ofSources [properties]
  let nodes ← compileScope workflow inherited
  notify (.compiled header.name nodes.length)
  return { name := header.name, config := header.inherit [inherited.entries], nodes }

/-- The outcome of compiling a workflow, and the notices given on the way. -/
def compileRun (workflow : Workflow) (properties : Entries) :
    Except Defect Flow × List Notice :=
  (compile workflow properties).run.run []

/-- Compile a workflow with the properties of its project, logging the notices. -/
def compileLogged (workflow : Workflow) (properties : Value) : Logged Flow := do
  match entriesOf properties with
  | .error mishap =>
    Logged.log (some (Notice.compiling workflow.header.name).entry)
    throw (.mishap mishap)
  | .ok entries =>
    let (result, notices) := compileRun workflow entries
    modify (· ++ notices.map Notice.entry)
    Logged.ofExcept (result.mapError Fault.invalidFlow)

end Jobflow.Flow
