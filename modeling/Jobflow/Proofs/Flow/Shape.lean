import Mathlib
import Jobflow.Proofs.Flow.Validity

/-!
# The shape of compiled flows

What a compiled flow looks like is said from its workflow alone: in every scope there is one
node for each declaration, in the same order, and the workflow's own node after them; what a
node depends on is declared in its scope; and the nodes can be brought into an order in which
each comes after everything it depends on.

Such an order is what the search for circles leaves behind: it finishes a node only after
all its dependencies.
-/

namespace Jobflow.Flow

/-- Nodes in an order in which each comes after everything it depends on. -/
inductive InOrder : List Node → Prop
  /-- No nodes. -/
  | nil : InOrder []
  /-- A further node, all of whose dependencies came before. -/
  | snoc {before : List Node} {node : Node} (earlier : InOrder before)
      (known : ∀ name ∈ node.dependsOn, ∃ other ∈ before, other.name = name) :
      InOrder (before ++ [node])

/-- The nodes of a scope fit together: those of its declarations, and the workflow's own. -/
structure Arranged (header : Header) (nodes : List Node) (own : Node) : Prop where
  /-- The own node does nothing but depend on the targets. -/
  last : own.name = header.name ∧ own.type = Node.ownType ∧ own.dependsOn = header.targets ∧
    own.condition = none ∧ own.nodes = []
  /-- All names are distinct. -/
  distinct : ((nodes ++ [own]).map Node.name).Nodup
  /-- No node names a dependency twice, and each dependency is a declared node. -/
  dependencies : ∀ node ∈ nodes ++ [own], node.dependsOn.Nodup ∧
    ∀ name ∈ node.dependsOn, ∃ sibling ∈ nodes, sibling.name = name
  /-- Some order of the nodes respects all dependencies. -/
  ordered : ∃ order, order.Perm (nodes ++ [own]) ∧ InOrder order

/-- A node is what a declaration is compiled to, whatever its configuration is. The nodes of
an embedded workflow are those of its declarations and its own, which fit together. -/
inductive Represents : Declaration → Node → Prop
  /-- A job keeps its name, type, dependencies and condition. -/
  | job (name : String) (job : Job) (config : Properties) :
      Represents (.job name job)
        { name, type := job.type, dependsOn := job.dependencies, condition := job.condition,
          config, nodes := [] }
  /-- An embedded workflow keeps its name, dependencies and condition. -/
  | workflow (header : Header) (declarations : List Declaration) (config : Properties)
      (nodes : List Node) (own : Node) (inner : List.Forall₂ Represents declarations nodes)
      (arranged : Arranged header nodes own) :
      Represents (.workflow header declarations)
        { name := header.name, type := Node.flowType, dependsOn := header.dependencies,
          condition := header.condition, config, nodes := nodes ++ [own] }

/-- A flow has the shape of a workflow: its nodes are those of the declarations, one for
each and in the same order, and the workflow's own node. -/
def HasShapeOf (flow : Flow) (workflow : Workflow) : Prop :=
  flow.name = workflow.header.name ∧
    ∃ nodes own, flow.nodes = nodes ++ [own] ∧
      List.Forall₂ Represents workflow.nodes nodes ∧ Arranged workflow.header nodes own

/-- Nodes whose names are settled, latest first, are in order when read from the end. -/
theorem inOrder_of_settled (graph : Graph) (nodes : List Node)
    (edges : ∀ node ∈ nodes, ∀ name ∈ node.dependsOn, graph.Edge node.name name)
    (settled : graph.Settled (nodes.map Node.name)) : InOrder nodes.reverse := by
  induction nodes with
  | nil => exact .nil
  | cons node rest inductionHypothesis =>
    obtain ⟨_, before, restSettled⟩ := settled
    have earlier := inductionHypothesis
      (fun other member => edges other (List.mem_cons_of_mem _ member)) restSettled
    rw [List.reverse_cons]
    refine .snoc earlier ?_
    intro name depends
    obtain ⟨other, member, same⟩ := List.mem_map.mp
      (before name (edges node List.mem_cons_self name depends))
    exact ⟨other, List.mem_reverse.mpr member, same⟩

/-- Nodes can be brought into any order of their names. -/
theorem exists_perm_of_names (nodes : List Node) (names : List String)
    (same : names.Perm (nodes.map Node.name)) :
    ∃ order : List Node, order.Perm nodes ∧ order.map Node.name = names := by
  have paired : List.Forall₂ (fun name node => name = Node.name node) (nodes.map Node.name) nodes := by
    rw [List.forall₂_map_left_iff]
    exact List.forall₂_same.mpr fun node _ => rfl
  obtain ⟨order, matched, perm⟩ := List.perm_comp_forall₂ same paired
  refine ⟨order, perm, ?_⟩
  rw [← List.forall₂_eq_eq_eq, List.forall₂_map_left_iff]
  exact matched.flip.imp fun _ _ => Eq.symm

end Jobflow.Flow

namespace Jobflow.Scope

open Jobflow.Flow

/-- The dependencies of an emitted node are those of a job or header, without repetition. -/
theorem nodup_dependsOn (scope : Scope) (node : Node) (member : node ∈ scope.emitted) :
    node.dependsOn.Nodup := by
  rcases List.mem_append.mp member with inside | own
  · rw [emitNodes_eq_map] at inside
    obtain ⟨declaration, _, rfl⟩ := List.mem_map.mp inside
    rw [emitNode_dependsOn]
    cases declaration with
    | job name job => exact job.dependencies.nodup
    | workflow header declarations => exact header.dependencies.nodup
  · rw [List.mem_singleton.mp own]
    exact scope.header.targets.nodup

/-- The nodes of a scope that passes its checks fit together. -/
theorem arranged_of_passes (scope : Scope) (given : Entries) (passes : scope.Passes given) :
    Arranged scope.header (emitNodes scope.nodes) (ownNode scope.header) := by
  have valid := (scope.passes_iff_valid given).mp passes
  have distinct : (scope.emitted.map Node.name).Nodup := by
    rw [map_name_emitted, List.nodup_append_comm]
    exact valid.distinct
  have closed := scope.closed_graphOf distinct valid.declared
  refine ⟨⟨rfl, rfl, rfl, rfl, rfl⟩, distinct, ?_, ?_⟩
  · intro node member
    refine ⟨scope.nodup_dependsOn node member, ?_⟩
    intro name depends
    obtain ⟨declaration, declared, rfl⟩ := valid.declared node.name name
      ((scope.exists_emitted_iff _ _).mp ⟨node, member, rfl, depends⟩)
    refine ⟨emitNode declaration, ?_, emitNode_name declaration⟩
    rw [emitNodes_eq_map]
    exact List.mem_map_of_mem declared
  · obtain ⟨finished, settled, perm⟩ := Graph.settled_of_cycle? _ closed
      (scope.emitted.map Node.name) (fun name => by rw [keys_graphOf _ distinct])
      passes.graph.cycles
    rw [keys_graphOf _ distinct] at perm
    obtain ⟨order, sameNodes, rfl⟩ := exists_perm_of_names scope.emitted finished perm
    refine ⟨order.reverse, order.reverse_perm.trans sameNodes, ?_⟩
    apply inOrder_of_settled (graphOf scope.emitted) order _ settled
    intro node member name depends
    exact (edge_graphOf_iff _ distinct _ _).mpr
      ⟨node, sameNodes.mem_iff.mp member, rfl, depends⟩

mutual

/-- Declared nodes that can be compiled are represented by their nodes. -/
theorem represents_emitNodes (scope : Scope) (given : Entries) :
    ∀ declarations : List Declaration,
      (∀ declaration ∈ declarations, scope.NodePasses given declaration) →
      List.Forall₂ Represents declarations (emitNodes declarations)
  | [], _ => .nil
  | declaration :: rest, passes =>
    .cons (represents_emitNode scope given declaration (passes _ List.mem_cons_self))
      (represents_emitNodes scope given rest fun other member =>
        passes other (List.mem_cons_of_mem _ member))

/-- A declared node that can be compiled is represented by its node. -/
theorem represents_emitNode (scope : Scope) (given : Entries) :
    ∀ declaration : Declaration, scope.NodePasses given declaration →
      Represents declaration (emitNode declaration)
  | .job name job, _ => .job name job (job.resolve [])
  | .workflow header declarations, passes => by
    have nodes := ((scope.inner header declarations).forall_passes_iff given).mp passes |>.2.1
    have inner := represents_emitNodes (scope.inner header declarations) given declarations nodes
    exact .workflow header declarations header.ownProperties _ _ inner
      (arranged_of_passes (scope.inner header declarations) given (passes _ (.self _)))

end

end Jobflow.Scope

namespace Jobflow.Flow

/-- A compiled flow has the shape of its workflow, at every depth. -/
theorem hasShapeOf_of_compileRun (workflow : Workflow) (given : Entries) (flow : Flow)
    (compiled : (compileRun workflow given).1 = .ok flow) : flow.HasShapeOf workflow := by
  obtain ⟨passes, rfl⟩ := (compileRun_eq_ok_iff workflow given flow).mp compiled
  have nodes := (workflow.scope.forall_passes_iff given).mp passes |>.2.1
  exact ⟨rfl, emitNodes workflow.nodes, ownNode workflow.header, rfl,
    Scope.represents_emitNodes workflow.scope given workflow.nodes nodes,
    workflow.scope.arranged_of_passes given (passes _ (.self _))⟩

/-- A workflow with an embedded one: its nodes are not declared in the order in which they
can be run, and a condition refers to a node. -/
def nightly : Workflow where
  header :=
    { name := "nightly"
      properties := .ofList [("queue", .text "default"), ("day", .text "any")]
      targets := ⟨["report"], by decide⟩ }
  nodes :=
    [ .job "report"
        { jobClass := .plain, type := .text "command", dependencies := ⟨["clean", "fetch"], by decide⟩,
          required := ⟨["queue"], by decide⟩ },
      .workflow
        { name := "clean", condition := some "all_done",
          properties := .ofList [("queue", .text "low")],
          dependencies := ⟨["fetch"], by decide⟩, targets := ⟨["dedupe"], by decide⟩ }
        [ .job "dedupe"
            { jobClass := .plain, type := .text "pig", dependencies := ⟨["sort"], by decide⟩,
              required := ⟨["queue", "retries"], by decide⟩,
              condition := some "$\x7bsort:n\x7d",
              options := .ofList [("retries", .int 3)] },
          .job "sort" { jobClass := .noop, type := .text "noop" } ],
      .job "fetch" { jobClass := .plain, type := .text "command" } ]

/-- The workflow can be compiled. -/
theorem nightly_compiles : ∃ flow, (compileRun nightly [("day", .text "monday")]).1 = .ok flow := by
  have accepted : (compileRun nightly [("day", .text "monday")]).1.isOk = true := by cbv
  cases result : (compileRun nightly [("day", .text "monday")]).1 with
  | error defect => simp [result, Except.isOk, Except.toBool] at accepted
  | ok flow => exact ⟨flow, rfl⟩

/-- Both scopes of the workflow are kept. -/
theorem nightly_hasShape :
    ∃ flow, (compileRun nightly [("day", .text "monday")]).1 = .ok flow ∧
      flow.HasShapeOf nightly := by
  obtain ⟨flow, compiled⟩ := nightly_compiles
  exact ⟨flow, compiled, hasShapeOf_of_compileRun nightly _ flow compiled⟩

end Jobflow.Flow
