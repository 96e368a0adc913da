import Jobflow.Flow.Compile
import Jobflow.Proofs.Flow.Scope

/-!
# What compiling gives

A step of compiling finds a defect or gives a value, and adds to the notices either way.
For each step there is a condition under which it gives a value, and one value that it can
give; neither depends on the notices before it. The steps are put together from a few that
have lemmas here, so no later argument runs a step.

Compiling a scope gives the nodes of its declarations and the scope's own node, on the
condition that every check passes, in the scope and in all scopes embedded in it.
-/

namespace Jobflow.Flow

namespace Compiling

variable {α β : Type}

/-- A step gives a value exactly under a condition, whatever notices were given before, and
no other value. -/
def GivesIff (step : Compiling α) (condition : Prop) (value : α) : Prop :=
  ∀ (before : List Notice) (result : α),
    (step.run.run before).1 = .ok result ↔ condition ∧ result = value

/-- The condition can be put in other words. -/
theorem GivesIff.congr {step : Compiling α} {condition other : Prop} {value : α}
    (gives : step.GivesIff condition value) (same : condition ↔ other) :
    step.GivesIff other value := by
  intro before result
  rw [gives before result, same]

/-- A step that has nothing to check gives its value. -/
theorem givesIff_pure (value : α) : GivesIff (pure value : Compiling α) True value := by
  intro before result
  show Except.ok value = Except.ok result ↔ True ∧ result = value
  rw [true_and, Except.ok.injEq, eq_comm]

/-- Two steps in a row give the value of the second one under both conditions. -/
theorem givesIff_bind {first : Compiling α} {next : α → Compiling β} {condition other : Prop}
    {value : α} {last : β} (gives : first.GivesIff condition value)
    (later : (next value).GivesIff other last) :
    GivesIff (first >>= next) (condition ∧ other) last := by
  intro before result
  have run : (first >>= next).run.run before =
      match first.run.run before with
      | (.ok middle, after) => (next middle).run.run after
      | (.error defect, after) => (.error defect, after) := by
    rw [ExceptT.run_bind, StateT.run_bind]
    rcases first.run.run before with ⟨_ | _, after⟩ <;> rfl
  have decided := gives before
  rw [run]
  rcases outcome : first.run.run before with ⟨defect | middle, after⟩
  · rw [outcome] at decided
    constructor
    · intro impossible
      cases impossible
    · rintro ⟨⟨holds, _⟩, _⟩
      exact absurd ((decided value).mpr ⟨holds, rfl⟩) (by simp)
  · rw [outcome] at decided
    obtain ⟨holds, rfl⟩ := (decided middle).mp rfl
    exact (later after result).trans (by simp [holds])

/-- What is made of the value of a step has the condition of the step. -/
theorem givesIff_return {step : Compiling α} {condition : Prop} {value : α} (make : α → β)
    (gives : step.GivesIff condition value) :
    GivesIff (step >>= fun result => pure (make result)) condition (make value) :=
  (givesIff_bind gives (givesIff_pure (make value))).congr (by simp)

/-- A notice is given without a condition. -/
theorem givesIff_notify (notice : Notice) : GivesIff (notify notice) True () := by
  intro before result
  exact ⟨fun _ => ⟨trivial, rfl⟩, fun _ => rfl⟩

/-- Compiling goes on where there is no defect to stop at. -/
theorem givesIff_stopAt (defect : Option Defect) : GivesIff (stopAt defect) (defect = none) () := by
  intro before result
  cases defect with
  | none => exact ⟨fun _ => ⟨rfl, rfl⟩, fun _ => rfl⟩
  | some found =>
    constructor
    · intro impossible
      cases impossible
    · rintro ⟨impossible, _⟩
      cases impossible

/-- Steps over a list need the conditions of all its members. -/
theorem givesIff_forM (items : List α) (step : α → Compiling Unit) (condition : α → Prop)
    (each : ∀ item ∈ items, (step item).GivesIff (condition item) ()) :
    GivesIff (items.forM step) (∀ item ∈ items, condition item) () := by
  induction items with
  | nil => exact (givesIff_pure ()).congr (by simp)
  | cons item rest inductionHypothesis =>
    have first := each item List.mem_cons_self
    have later := inductionHypothesis fun other member => each other (List.mem_cons_of_mem _ member)
    exact (givesIff_bind first later).congr List.forall_mem_cons.symm

end Compiling

open Compiling

/-! ## The nodes of declarations -/

mutual

/-- The nodes of declarations, in order. -/
def emitNodes : List Declaration → List Node
  | [] => []
  | declaration :: rest => emitNode declaration :: emitNodes rest

/-- The node of a declaration; that of an embedded workflow has the nodes of its scope. -/
def emitNode : Declaration → Node
  | .job name job => jobNode name job
  | .workflow header declarations => flowNode header (emitNodes declarations ++ [ownNode header])

end


/-- Nodes are emitted one by one. -/
theorem emitNodes_eq_map (declarations : List Declaration) :
    emitNodes declarations = declarations.map emitNode := by
  induction declarations with
  | nil => rfl
  | cons declaration rest inductionHypothesis =>
    rw [emitNodes, inductionHypothesis, List.map_cons]

/-- The node of a declaration keeps its name. -/
@[simp] theorem emitNode_name (declaration : Declaration) :
    (emitNode declaration).name = declaration.name := by
  cases declaration <;> rfl

/-- The node of a declaration keeps its dependencies. -/
@[simp] theorem emitNode_dependsOn (declaration : Declaration) :
    (emitNode declaration).dependsOn = declaration.dependencies := by
  cases declaration <;> rfl

/-- The node of a declaration keeps its condition. -/
@[simp] theorem emitNode_condition (declaration : Declaration) :
    (emitNode declaration).condition = declaration.condition := by
  cases declaration <;> rfl

/-- The names of emitted nodes are those of the declarations. -/
@[simp] theorem map_name_emitNodes (declarations : List Declaration) :
    (emitNodes declarations).map Node.name = declarations.map Declaration.name := by
  simp [emitNodes_eq_map, Function.comp_def]

/-! ## The checks of a scope -/

/-- No check of the graph of a scope finds a defect. -/
structure GraphPasses (workflow : String) (declared : List String) (nodes : List Node) : Prop where
  /-- Every dependency is declared. -/
  references : referenceDefect? workflow declared nodes = none
  /-- The search finds no circle. -/
  cycles : (graphOf nodes).cycle? (nodes.map Node.name) = none
  /-- Every condition can be decided. -/
  conditions : ∀ node ∈ nodes, ∀ condition, node.activeCondition = some condition →
    conditionDefect? workflow (graphOf nodes) node condition = none

/-- Checking the condition of a node, if it has one. -/
theorem givesIff_checkCondition (workflow : String) (graph : Graph) (node : Node) :
    (checkCondition workflow graph node).GivesIff
      (∀ condition, node.activeCondition = some condition →
        conditionDefect? workflow graph node condition = none) () := by
  rw [checkCondition]
  cases node.activeCondition with
  | none => exact (givesIff_pure ()).congr (by simp)
  | some condition =>
    have checked := givesIff_stopAt (conditionDefect? workflow graph node condition)
    have noticed : GivesIff (unless Condition.outcomes.contains condition do
        notify (.expression node.name workflow condition)) True () := by
      split
      · exact givesIff_pure ()
      · exact givesIff_notify _
    exact (givesIff_bind checked noticed).congr (by simp)

/-- Checking the graph of a scope. -/
theorem givesIff_checkGraph (workflow : String) (declared : List String) (nodes : List Node) :
    (checkGraph workflow declared nodes).GivesIff (GraphPasses workflow declared nodes) () := by
  have references := givesIff_stopAt (referenceDefect? workflow declared nodes)
  have cycles := givesIff_stopAt
    (((graphOf nodes).cycle? (nodes.map Node.name)).map (Defect.cycle workflow))
  have conditions := givesIff_forM nodes (checkCondition workflow (graphOf nodes)) _
    fun node _ => givesIff_checkCondition workflow (graphOf nodes) node
  have notices := givesIff_forM (unreachable workflow declared (graphOf nodes))
    (fun name => notify (.unreachable name workflow)) (fun _ => True)
    fun name _ => givesIff_notify _
  refine (givesIff_bind references (givesIff_bind cycles
    (givesIff_bind conditions notices))).congr ?_
  rw [Option.map_eq_none_iff]
  constructor
  · rintro ⟨referencesPass, cyclesPass, conditionsPass, _⟩
    exact ⟨referencesPass, cyclesPass, conditionsPass⟩
  · intro passes
    exact ⟨passes.references, passes.cycles, passes.conditions, fun _ _ => trivial⟩

/-- Completing a scope adds its own node. -/
theorem givesIff_closeScope (header : Header) (compiled : List Node) :
    (closeScope header compiled).GivesIff
      (GraphPasses header.name (compiled.map Node.name) (compiled ++ [ownNode header]))
      (compiled ++ [ownNode header]) := by
  have checked := givesIff_return (fun _ => compiled ++ [ownNode header])
    (givesIff_checkGraph header.name (compiled.map Node.name) (compiled ++ [ownNode header]))
  unfold closeScope
  split
  · exact (givesIff_bind (givesIff_notify _) checked).congr (by simp)
  · exact checked

end Jobflow.Flow

namespace Jobflow.Scope

open Jobflow.Flow Jobflow.Flow.Compiling

/-- The nodes that a scope is compiled to: those of its declarations, and its own. -/
def emitted (scope : Scope) : List Node := emitNodes scope.nodes ++ [ownNode scope.header]

/-- No check of a scope finds a defect, those of the scopes embedded in it left aside. -/
structure Passes (scope : Scope) (given : Entries) : Prop where
  /-- The names are distinct. -/
  names : nameDefect? scope.header.name (scope.nodes.map Declaration.name) = none
  /-- No job lacks anything. -/
  jobs : ∀ name job, .job name job ∈ scope.nodes →
    jobDefect? scope.header.name name job (scope.properties given) = none
  /-- The graph is in order. -/
  graph : GraphPasses scope.header.name (scope.nodes.map Declaration.name) scope.emitted

/-- What it takes to compile a node declared in a scope. -/
def NodePasses (scope : Scope) (given : Entries) : Declaration → Prop
  | .job name job => jobDefect? scope.header.name name job (scope.properties given) = none
  | .workflow header nodes => ∀ other, (scope.inner header nodes).Holds other → other.Passes given

/-- All scopes of a scope pass if its names are distinct, its declared nodes can be compiled
and its graph is in order. -/
theorem forall_passes_iff (scope : Scope) (given : Entries) :
    (∀ other, scope.Holds other → other.Passes given) ↔
      nameDefect? scope.header.name (scope.nodes.map Declaration.name) = none ∧
        (∀ node ∈ scope.nodes, scope.NodePasses given node) ∧
        GraphPasses scope.header.name (scope.nodes.map Declaration.name) scope.emitted := by
  rw [forall_holds_iff]
  constructor
  · rintro ⟨here, below⟩
    refine ⟨here.names, ?_, here.graph⟩
    intro node declared
    cases node with
    | job name job => exact here.jobs name job declared
    | workflow header nodes => exact below header nodes declared
  · rintro ⟨names, nodes, graph⟩
    refine ⟨⟨names, fun name job declared => nodes (.job name job) declared, graph⟩, ?_⟩
    intro header inner declared
    exact nodes (.workflow header inner) declared

mutual

/-- Compiling declared nodes gives their nodes if each of them can be compiled. -/
theorem givesIff_compileNodes (scope : Scope) (given : Entries) :
    ∀ declarations : List Declaration,
      (compileNodes scope.header.name (scope.properties given) declarations).GivesIff
        (∀ node ∈ declarations, scope.NodePasses given node) (emitNodes declarations)
  | [] => by
    rw [compileNodes]
    exact (givesIff_pure _).congr (by simp)
  | declaration :: rest => by
    have first := givesIff_compileNode scope given declaration
    have later := givesIff_compileNodes scope given rest
    rw [compileNodes]
    exact (givesIff_bind first (givesIff_return (emitNode declaration :: ·) later)).congr
      List.forall_mem_cons.symm

/-- Compiling a declared node gives its node if it can be compiled. Inside an embedded
workflow, the properties are those of the embedded scope. -/
theorem givesIff_compileNode (scope : Scope) (given : Entries) :
    ∀ declaration : Declaration,
      (compileNode scope.header.name (scope.properties given) declaration).GivesIff
        (scope.NodePasses given declaration) (emitNode declaration)
  | .job name job => by
    have checked := givesIff_stopAt (jobDefect? scope.header.name name job (scope.properties given))
    rw [compileNode]
    exact givesIff_return (fun _ => jobNode name job) checked
  | .workflow header declarations => by
    have names := givesIff_stopAt (nameDefect? header.name (declarations.map Declaration.name))
    have nodes := givesIff_compileNodes (scope.inner header declarations) given declarations
    have closed := givesIff_closeScope header (emitNodes declarations)
    rw [compileNode, ← scope.properties_inner header declarations given]
    refine (givesIff_bind names (givesIff_bind nodes
      (givesIff_return (flowNode header) closed))).congr ?_
    rw [map_name_emitNodes]
    exact (forall_passes_iff (scope.inner header declarations) given).symm

end

end Jobflow.Scope

namespace Jobflow.Flow

open Compiling

/-- Compiling a workflow gives the nodes of its scope if all its scopes pass their checks. -/
theorem givesIff_compile (workflow : Workflow) (given : Entries) :
    (compile workflow given).GivesIff
      (∀ scope, workflow.scope.Holds scope → scope.Passes given)
      { name := workflow.header.name
        config := workflow.scope.properties given
        nodes := workflow.scope.emitted } := by
  have names := givesIff_stopAt
    (nameDefect? workflow.header.name (workflow.nodes.map Declaration.name))
  have nodes := Scope.givesIff_compileNodes workflow.scope given workflow.nodes
  have closed := givesIff_closeScope workflow.header (emitNodes workflow.nodes)
  have scopeGives : GivesIff (compileScope workflow (.ofSources [given])) _ _ :=
    givesIff_bind names (givesIff_bind nodes closed)
  have whole : GivesIff (compile workflow given) _ _ :=
    givesIff_bind (givesIff_notify (.compiling workflow.header.name))
      (givesIff_bind scopeGives (givesIff_bind
        (givesIff_notify (.compiled workflow.header.name workflow.scope.emitted.length))
        (givesIff_pure _)))
  refine whole.congr ?_
  rw [true_and, true_and, and_true, map_name_emitNodes]
  exact (Scope.forall_passes_iff workflow.scope given).symm

/-- A run gives a flow exactly if all scopes pass their checks, and no other flow than that
of the scope. -/
theorem compileRun_eq_ok_iff (workflow : Workflow) (given : Entries) (flow : Flow) :
    (compileRun workflow given).1 = .ok flow ↔
      (∀ scope, workflow.scope.Holds scope → scope.Passes given) ∧
        flow = { name := workflow.header.name
                 config := workflow.scope.properties given
                 nodes := workflow.scope.emitted } :=
  givesIff_compile workflow given [] flow

end Jobflow.Flow
