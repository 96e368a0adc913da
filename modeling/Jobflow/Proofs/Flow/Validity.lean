import Jobflow.Proofs.Flow.Compile
import Jobflow.Proofs.Flow.Graph

/-!
# Compilable workflows

A workflow can be compiled exactly if all its scopes are valid. Each check of the compiler
is shown to decide one part of validity. The checks of the graph work on the names of
compiled nodes: once these are known to be distinct and declared, an edge of the graph is a
dependency of the scope, and what the search for circles and the collected ancestors say of
the graph holds of the scope.
-/

namespace Jobflow.Flow

/-- No name is repeated exactly if the names are distinct and none is taken. -/
theorem firstRepeated?_eq_none_iff (taken names : List String) :
    firstRepeated? taken names = none ↔ names.Nodup ∧ ∀ name ∈ names, name ∉ taken := by
  induction names generalizing taken with
  | nil => simp [firstRepeated?]
  | cons name rest inductionHypothesis =>
    rw [firstRepeated?]
    by_cases old : name ∈ taken
    · simp [old]
    · rw [if_neg old, inductionHypothesis, List.nodup_cons]
      constructor
      · rintro ⟨distinct, fresh⟩
        have new : name ∉ rest := fun member => fresh name member List.mem_cons_self
        refine ⟨⟨new, distinct⟩, ?_⟩
        intro other member
        rcases List.mem_cons.mp member with rfl | later
        · exact old
        · exact fun there => fresh other later (List.mem_cons_of_mem _ there)
      · rintro ⟨⟨new, distinct⟩, fresh⟩
        refine ⟨distinct, ?_⟩
        intro other member there
        rcases List.mem_cons.mp there with rfl | there
        · exact new member
        · exact fresh other (List.mem_cons_of_mem _ member) there

/-- The names of a scope pass if they are distinct and differ from that of the workflow. -/
theorem nameDefect?_eq_none_iff (workflow : String) (names : List String) :
    nameDefect? workflow names = none ↔ (workflow :: names).Nodup := by
  rw [nameDefect?, Option.map_eq_none_iff, firstRepeated?_eq_none_iff, List.nodup_cons]
  constructor
  · rintro ⟨distinct, fresh⟩
    exact ⟨fun member => fresh workflow member List.mem_cons_self, distinct⟩
  · rintro ⟨new, distinct⟩
    refine ⟨distinct, fun name member taken => new ?_⟩
    rwa [List.mem_singleton.mp taken] at member

/-- A job lacks nothing if it has a type and sees all parameters that it requires. -/
theorem jobDefect?_eq_none_iff (workflow name : String) (job : Job) (scope : Properties) :
    jobDefect? workflow name job scope = none ↔ job.type.truthy = true ∧
      ∀ parameter ∈ job.required.toList, (job.resolve [scope.entries]).contains parameter = true := by
  rw [jobDefect?]
  cases typed : job.type.truthy with
  | false => simp
  | true =>
    have missing : ((job.resolve [scope.entries]).missing job.required.toList).isEmpty = true ↔
        ∀ parameter ∈ job.required.toList, (job.resolve [scope.entries]).contains parameter = true := by
      simp [Properties.missing]
    simp only [Bool.not_true, Bool.false_eq_true, if_false, true_and, ← missing]
    split
    · simp [*]
    · simp [*]

/-- References pass if every dependency is among the declared names. -/
theorem referenceDefect?_eq_none_iff (workflow : String) (declared : List String)
    (nodes : List Node) :
    referenceDefect? workflow declared nodes = none ↔
      ∀ node ∈ nodes, ∀ name ∈ node.dependsOn, name ∈ declared := by
  simp [referenceDefect?, List.findSome?_eq_none_iff]

/-- With distinct names, the edges of the graph are the dependencies of the nodes. -/
theorem edge_graphOf_iff (nodes : List Node) (distinct : (nodes.map Node.name).Nodup)
    (name other : String) :
    (graphOf nodes).Edge name other ↔ ∃ node ∈ nodes, node.name = name ∧ other ∈ node.dependsOn := by
  have keys : (nodes.map fun node => (node.name, node.dependsOn)).map Prod.fst =
      nodes.map Node.name := by
    rw [List.map_map]
    rfl
  have entries : (graphOf nodes).entries = nodes.map fun node => (node.name, node.dependsOn) :=
    OrderedMap.entries_ofList _ (keys ▸ distinct)
  have next : ∀ node ∈ nodes, (graphOf nodes).next node.name = node.dependsOn := by
    intro node member
    have found : (graphOf nodes).find? node.name = some node.dependsOn :=
      lookup_of_mem _ _ _ (graphOf nodes).nodup
        (entries ▸ List.mem_map.mpr ⟨node, member, rfl⟩)
    rw [Graph.next, found]
    rfl
  constructor
  · intro edge
    have inside := (graphOf nodes).mem_keys_of_edge name other edge
    rw [OrderedMap.keys, entries, keys] at inside
    obtain ⟨node, member, rfl⟩ := List.mem_map.mp inside
    exact ⟨node, member, rfl, next node member ▸ edge⟩
  · rintro ⟨node, member, rfl, depends⟩
    rw [Graph.Edge, next node member]
    exact depends

/-- The nodes of the graph are those of the scope. -/
theorem keys_graphOf (nodes : List Node) (distinct : (nodes.map Node.name).Nodup) :
    (graphOf nodes).keys = nodes.map Node.name := by
  have keys : (nodes.map fun node => (node.name, node.dependsOn)).map Prod.fst =
      nodes.map Node.name := by
    rw [List.map_map]
    rfl
  rw [OrderedMap.keys, graphOf, OrderedMap.entries_ofList _ (keys ▸ distinct), keys]

/-- A condition passes if its node depends on something and the condition refers only to
what the node reaches. -/
theorem conditionDefect?_eq_none_iff (workflow : String) (graph : Graph) (node : Node)
    (condition : String) :
    conditionDefect? workflow graph node condition = none ↔ node.dependsOn ≠ [] ∧
      ∀ reference, Condition.RefersTo condition reference → graph.Reaches node.name reference := by
  rw [conditionDefect?]
  cases empty : node.dependsOn.isEmpty with
  | true =>
    have none := List.isEmpty_iff.mp empty
    simp [none]
  | false =>
    have some : node.dependsOn ≠ [] := by
      intro none
      simp [none] at empty
    simp only [Bool.false_eq_true, if_false, Option.map_eq_none_iff, List.find?_eq_none,
      Bool.not_eq_true', Bool.not_eq_false, List.contains_iff_mem, Graph.mem_ancestors_iff,
      Condition.mem_referenced_iff]
    exact ⟨fun all => ⟨some, all⟩, fun both => both.2⟩

/-- A condition is active if it is there and not empty. -/
theorem activeCondition_eq_some_iff (node : Node) (condition : String) :
    node.activeCondition = some condition ↔ node.condition = some condition ∧ condition ≠ "" := by
  simp [Node.activeCondition, Option.filter_eq_some_iff]

end Jobflow.Flow

namespace Jobflow.Scope

open Jobflow.Flow

/-- The names of the nodes of a scope: those declared, and the workflow's own. -/
theorem map_name_emitted (scope : Scope) :
    scope.emitted.map Node.name = scope.nodes.map Declaration.name ++ [scope.header.name] := by
  rw [emitted, List.map_append, map_name_emitNodes]
  rfl

/-- A compiled node of the scope depends on another name exactly if its name does so in the
scope. -/
theorem exists_emitted_iff (scope : Scope) (name other : String) :
    (∃ node ∈ scope.emitted, node.name = name ∧ other ∈ node.dependsOn) ↔
      scope.DependsOn name other := by
  rw [emitted, emitNodes_eq_map, DependsOn]
  constructor
  · rintro ⟨node, member, rfl, depends⟩
    rcases List.mem_append.mp member with inside | own
    · obtain ⟨declaration, declared, rfl⟩ := List.mem_map.mp inside
      exact Or.inl ⟨declaration, declared, by simp, by simpa using depends⟩
    · rw [List.mem_singleton.mp own] at depends ⊢
      exact Or.inr ⟨rfl, depends⟩
  · rintro (⟨declaration, declared, rfl, depends⟩ | ⟨rfl, depends⟩)
    · exact ⟨emitNode declaration, List.mem_append_left _ (List.mem_map_of_mem declared), by simp,
        by simpa using depends⟩
    · exact ⟨ownNode scope.header, List.mem_append_right _ List.mem_cons_self, rfl, depends⟩

/-- What the compiled nodes of a scope depend on is declared exactly if what its names
depend on is. -/
theorem references_iff (scope : Scope) :
    referenceDefect? scope.header.name (scope.nodes.map Declaration.name) scope.emitted = none ↔
      ∀ name other, scope.DependsOn name other → ∃ node ∈ scope.nodes, node.name = other := by
  rw [referenceDefect?_eq_none_iff]
  constructor
  · intro all name other depends
    obtain ⟨node, member, _, inside⟩ := (scope.exists_emitted_iff name other).mpr depends
    exact List.mem_map.mp (all node member other inside)
  · intro all node member other inside
    exact List.mem_map.mpr
      (all node.name other ((scope.exists_emitted_iff _ _).mp ⟨node, member, rfl, inside⟩))

/-- Among distinct names, the graph of a scope reaches what the scope does. -/
theorem reaches_graphOf (scope : Scope) (distinct : (scope.emitted.map Node.name).Nodup) :
    (graphOf scope.emitted).Reaches = scope.Reaches := by
  have same : (graphOf scope.emitted).Edge = scope.DependsOn := by
    funext name other
    exact propext ((edge_graphOf_iff _ distinct name other).trans
      (scope.exists_emitted_iff name other))
  rw [Reaches, ← same]
  rfl

/-- The graph of a scope is closed if its names are distinct and everything they depend on
is declared. -/
theorem closed_graphOf (scope : Scope) (distinct : (scope.emitted.map Node.name).Nodup)
    (declared : ∀ name other, scope.DependsOn name other →
      ∃ node ∈ scope.nodes, node.name = other) : (graphOf scope.emitted).Closed := by
  intro name other edge
  have depends := (scope.exists_emitted_iff name other).mp
    ((edge_graphOf_iff _ distinct name other).mp edge)
  obtain ⟨node, member, rfl⟩ := declared name other depends
  rw [keys_graphOf _ distinct, map_name_emitted]
  exact List.mem_append_left _ (List.mem_map_of_mem member)

/-- Conditions pass on all compiled nodes exactly if they are decidable on all declared
ones; the workflow's own node has none. -/
theorem conditions_iff (scope : Scope) (distinct : (scope.emitted.map Node.name).Nodup) :
    (∀ node ∈ scope.emitted, ∀ condition, node.activeCondition = some condition →
        conditionDefect? scope.header.name (graphOf scope.emitted) node condition = none) ↔
      ∀ node ∈ scope.nodes, ∀ condition, node.condition = some condition → condition ≠ "" →
        node.dependencies ≠ [] ∧
          ∀ reference, Condition.RefersTo condition reference →
            scope.Reaches node.name reference := by
  simp only [activeCondition_eq_some_iff, conditionDefect?_eq_none_iff,
    scope.reaches_graphOf distinct]
  constructor
  · intro all node declared condition given nonempty
    have passes := all (emitNode node)
      (List.mem_append_left _ (emitNodes_eq_map _ ▸ List.mem_map_of_mem declared)) condition
      ⟨by simpa using given, nonempty⟩
    simpa using passes
  · rintro all node member condition ⟨given, nonempty⟩
    rcases List.mem_append.mp member with inside | own
    · rw [emitNodes_eq_map] at inside
      obtain ⟨declaration, declared, rfl⟩ := List.mem_map.mp inside
      have passes := all declaration declared condition (by simpa using given) nonempty
      simpa using passes
    · rw [List.mem_singleton.mp own] at given
      cases given

/-- The checks of a scope decide whether it is valid. -/
theorem passes_iff_valid (scope : Scope) (given : Entries) :
    scope.Passes given ↔ scope.Valid given := by
  have own : (scope.header.name :: scope.nodes.map Declaration.name).Nodup ↔
      (scope.emitted.map Node.name).Nodup := by
    rw [map_name_emitted, List.nodup_append_comm]
    rfl
  have cycles (distinct : (scope.emitted.map Node.name).Nodup)
      (declared : ∀ name other, scope.DependsOn name other →
        ∃ node ∈ scope.nodes, node.name = other) :
      (graphOf scope.emitted).cycle? (scope.emitted.map Node.name) = none ↔
        ∀ name, ¬ scope.Reaches name name := by
    rw [← scope.reaches_graphOf distinct]
    apply Graph.cycle?_eq_none_iff _ (scope.closed_graphOf distinct declared)
    intro name
    rw [keys_graphOf _ distinct]
  constructor
  · intro passes
    have names := (nameDefect?_eq_none_iff _ _).mp passes.names
    have distinct := own.mp names
    have declared := scope.references_iff.mp passes.graph.references
    refine ⟨names, ?_, ?_, declared, (cycles distinct declared).mp passes.graph.cycles,
      (scope.conditions_iff distinct).mp passes.graph.conditions⟩
    · intro name job member
      exact ((jobDefect?_eq_none_iff _ _ _ _).mp (passes.jobs name job member)).1
    · intro name job member parameter required
      have found := ((jobDefect?_eq_none_iff _ _ _ _).mp (passes.jobs name job member)).2
      exact (scope.contains_resolve_iff given job parameter).mp (found parameter required)
  · intro valid
    have distinct := own.mp valid.distinct
    refine ⟨(nameDefect?_eq_none_iff _ _).mpr valid.distinct, ?_,
      scope.references_iff.mpr valid.declared, (cycles distinct valid.declared).mpr valid.acyclic,
      (scope.conditions_iff distinct).mpr valid.conditions⟩
    intro name job member
    refine (jobDefect?_eq_none_iff _ _ _ _).mpr ⟨valid.typed name job member, ?_⟩
    intro parameter required
    exact (scope.contains_resolve_iff given job parameter).mpr
      (valid.provided name job member parameter required)

end Jobflow.Scope

namespace Jobflow.Flow

/-- A workflow can be compiled with the properties of its project exactly if all its scopes,
at any depth, are valid. -/
theorem compiles_iff_valid (workflow : Workflow) (given : Entries) :
    (∃ flow, (compileRun workflow given).1 = .ok flow) ↔
      ∀ scope, workflow.scope.Holds scope → scope.Valid given := by
  simp only [compileRun_eq_ok_iff, Scope.passes_iff_valid]
  constructor
  · rintro ⟨flow, valid, _⟩
    exact valid
  · intro valid
    exact ⟨_, valid, rfl⟩

end Jobflow.Flow
