import Jobflow.Proofs.Flow.Shape

/-!
# The layers of configuration in a compiled flow

A compiled flow writes only what each level of a workflow defines itself: the flow's
configuration, that of each embedded workflow, and that of the job. Laid over each other
along the way to a job, these are exactly the properties against which the job's required
parameters were checked, in the same order.
-/

namespace Jobflow.Flow

/-- Configurations laid over each other, later ones on top: a later value of a name takes
the place of an earlier one, and new names come at the end. -/
def layered (configs : List Properties) : Properties :=
  configs.foldl (fun below config => below.insertAll config.entries) .empty

/-- The nodes on the way that a path of names leads, each among the nodes of the one
before. -/
def nodesAlong : List Node → List String → Option (List Node)
  | _, [] => some []
  | nodes, name :: rest => do
    let node ← nodes.find? fun node => node.name == name
    let further ← nodesAlong node.nodes rest
    return node :: further

/-- Laying properties that were merged from sources over others merges all the sources. -/
theorem layered_ofSources (groups : List (List Entries)) :
    layered (groups.map Properties.ofSources) = Properties.ofSources groups.flatten := by
  have onto (below : Properties) :
      (groups.map Properties.ofSources).foldl
        (fun below config => below.insertAll config.entries) below =
      below.merge groups.flatten := by
    induction groups generalizing below with
    | nil => rfl
    | cons group rest inductionHypothesis =>
      have first : below.insertAll (Properties.ofSources group).entries = below.merge group := by
        rw [Properties.ofSources, Properties.insertAll_merge]
        rfl
      rw [List.map_cons, List.foldl_cons, first, inductionHypothesis, List.flatten_cons,
        Properties.merge_append]
  exact onto .empty

/-- A name is defined by layers if one of them defines it. -/
theorem contains_layered_iff (configs : List Properties) (name : String) :
    (layered configs).contains name = true ↔ ∃ config ∈ configs, config.contains name = true := by
  have onto (below : Properties) :
      name ∈ (configs.foldl (fun below config => below.insertAll config.entries) below).keys ↔
        name ∈ below.keys ∨ ∃ config ∈ configs, name ∈ config.keys := by
    induction configs generalizing below with
    | nil => simp
    | cons config rest inductionHypothesis =>
      rw [List.foldl_cons, inductionHypothesis, OrderedMap.mem_keys_insertAll, or_assoc]
      simp [OrderedMap.keys]
  simp only [OrderedMap.contains_iff]
  exact (onto .empty).trans (by simp [OrderedMap.keys, OrderedMap.empty])

/-- Among distinct names, a node is found under its own. -/
theorem find?_name_of_nodup (nodes : List Node) (distinct : (nodes.map Node.name).Nodup)
    (node : Node) (member : node ∈ nodes) :
    nodes.find? (fun other => other.name == node.name) = some node := by
  induction nodes with
  | nil => simp at member
  | cons first rest inductionHypothesis =>
    rw [List.map_cons, List.nodup_cons] at distinct
    rcases List.mem_cons.mp member with rfl | later
    · exact List.find?_cons_of_pos (beq_self_eq_true _)
    · have different : first.name ≠ node.name := by
        intro same
        exact distinct.1 (same ▸ List.mem_map_of_mem later)
      rw [List.find?_cons_of_neg (by simpa using different)]
      exact inductionHypothesis distinct.2 later

end Jobflow.Flow

namespace Jobflow.Scope

open Jobflow.Flow

/-- The names on the way from the outermost scope to a node declared in a scope. -/
def pathTo (scope : Scope) (name : String) : List String :=
  scope.workflows.tail.map Header.name ++ [name]

/-- The way to a node declared in a scope that passes its checks starts at that node. -/
theorem nodesAlong_emitted (scope : Scope) (given : Entries) (passes : scope.Passes given)
    (declaration : Declaration) (declared : declaration ∈ scope.nodes) (rest : List String)
    (further : List Node) (later : nodesAlong (emitNode declaration).nodes rest = some further) :
    nodesAlong scope.emitted (declaration.name :: rest) = some (emitNode declaration :: further) := by
  have distinct : (scope.emitted.map Node.name).Nodup := by
    rw [map_name_emitted, List.nodup_append_comm]
    exact ((scope.passes_iff_valid given).mp passes).distinct
  have member : emitNode declaration ∈ scope.emitted :=
    List.mem_append_left _ (emitNodes_eq_map scope.nodes ▸ List.mem_map_of_mem declared)
  have found := find?_name_of_nodup scope.emitted distinct (emitNode declaration) member
  rw [emitNode_name] at found
  simp [nodesAlong, found, later]

/-- The way from a scope to a node of a scope inside it leads through the nodes of the
workflows in between, which have their own properties as configurations. -/
theorem nodesAlong_of_holds (given : Entries) (start scope : Scope) (held : start.Holds scope)
    (passes : ∀ other, start.Holds other → other.Passes given) (declaration : Declaration)
    (declared : declaration ∈ scope.nodes) :
    ∃ (between : List Header) (around : List Node),
      scope.workflows = start.workflows ++ between ∧
      nodesAlong start.emitted (between.map Header.name ++ [declaration.name]) =
        some (around ++ [emitNode declaration]) ∧
      around.map Node.config = between.map Header.ownProperties ∧
      ∀ node ∈ around, node.type = Node.flowType := by
  induction held with
  | self scope =>
    refine ⟨[], [], (List.append_nil _).symm, ?_, rfl, by simp⟩
    exact scope.nodesAlong_emitted given (passes scope (.self scope)) declaration declared [] [] rfl
  | @embedded start scope header nodes inside deeper inductionHypothesis =>
    obtain ⟨between, around, workflows, way, configs, flows⟩ := inductionHypothesis
      (fun other below => passes other (.embedded inside below)) declared
    refine ⟨header :: between, flowNode header (start.inner header nodes).emitted :: around,
      ?_, ?_, ?_, ?_⟩
    · rw [workflows]
      exact List.append_assoc start.workflows [header] between
    · exact start.nodesAlong_emitted given (passes start (.self start)) (.workflow header nodes)
        inside _ _ way
    · rw [List.map_cons, List.map_cons, configs]
      rfl
    · intro node member
      rcases List.mem_cons.mp member with rfl | later
      · rfl
      · exact flows node later

end Jobflow.Scope

namespace Jobflow.Flow

/-- The configurations on the way to a job, laid over each other, are the properties that
the compiler checked the job's required parameters against; each of these parameters is
defined by one of the configurations. -/
theorem layered_configs_eq_resolve (workflow : Workflow) (given : Entries) (flow : Flow)
    (compiled : (compileRun workflow given).1 = .ok flow) (scope : Scope)
    (held : workflow.scope.Holds scope) (name : String) (job : Job)
    (declared : .job name job ∈ scope.nodes) :
    ∃ (around : List Node) (node : Node),
      nodesAlong flow.nodes (scope.pathTo name) = some (around ++ [node]) ∧
      Represents (.job name job) node ∧ (∀ outer ∈ around, outer.type = Node.flowType) ∧
      layered (flow.config :: around.map Node.config ++ [node.config]) =
        job.resolve [(scope.properties given).entries] ∧
      ∀ parameter ∈ job.required.toList,
        ∃ config ∈ flow.config :: around.map Node.config ++ [node.config],
          config.contains parameter = true := by
  obtain ⟨passes, rfl⟩ := (compileRun_eq_ok_iff workflow given flow).mp compiled
  obtain ⟨between, around, workflows, way, configs, flows⟩ :=
    workflow.scope.nodesAlong_of_holds given scope held passes (.job name job) declared
  have path : scope.pathTo name = between.map Header.name ++ [name] := by
    rw [Scope.pathTo, workflows]
    rfl
  have own (header : Header) : header.ownProperties = Properties.ofSources header.sources := by
    rw [Header.ownProperties, Header.inherit_eq, List.nil_append]
  have layers : layered (workflow.scope.properties given :: around.map Node.config ++
      [(jobNode name job).config]) = job.resolve [(scope.properties given).entries] := by
    have groups : workflow.scope.properties given :: around.map Node.config ++
        [(jobNode name job).config] =
        (([given] ++ workflow.header.sources) :: between.map Header.sources ++ [job.sources]).map
          Properties.ofSources := by
      have jobConfig : (jobNode name job).config = Properties.ofSources job.sources := by
        rw [jobNode, Job.resolve_eq, List.nil_append]
      rw [configs, jobConfig, Scope.properties_eq]
      simp [Scope.workflows, Workflow.scope, own, Function.comp_def]
    rw [groups, layered_ofSources, Scope.resolve_eq, workflows]
    simp [Scope.workflows, Workflow.scope, List.flatMap_def]
  refine ⟨around, jobNode name job, path ▸ way, .job name job _, flows, layers, ?_⟩
  intro parameter required
  rw [← contains_layered_iff, layers]
  exact ((jobDefect?_eq_none_iff _ _ _ _).mp
    ((passes scope held).jobs name job declared)).2 parameter required

/-- On the way to the inner job of the example there are three layers, one of them from
outside; the innermost one defines a parameter that no other does. -/
theorem nightly_layers :
    ∃ flow scope job, (compileRun nightly [("day", .text "monday")]).1 = .ok flow ∧
      nightly.scope.Holds scope ∧ .job "dedupe" job ∈ scope.nodes ∧
      job.required.toList = ["queue", "retries"] ∧
      ∃ around node, nodesAlong flow.nodes ["clean", "dedupe"] = some (around ++ [node]) ∧
        layered (flow.config :: around.map Node.config ++ [node.config]) =
          job.resolve [(scope.properties [("day", .text "monday")]).entries] := by
  obtain ⟨flow, compiled⟩ := nightly_compiles
  have embedded := nightly.scope.holds_inner _ _ (List.mem_cons_of_mem _ List.mem_cons_self)
  obtain ⟨around, node, way, _, _, layers, _⟩ :=
    layered_configs_eq_resolve nightly _ flow compiled _ embedded _ _ List.mem_cons_self
  exact ⟨flow, _, _, compiled, embedded, List.mem_cons_self, rfl, around, node, way, layers⟩

end Jobflow.Flow
