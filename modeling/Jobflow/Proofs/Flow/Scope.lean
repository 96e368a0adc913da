import Mathlib.Logic.Relation
import Jobflow.Proofs.Flow.Condition
import Jobflow.Proofs.Properties
import Jobflow.Workflow

/-!
# Scopes of workflows

A scope is a workflow together with the workflows around it. The scopes of a workflow are
its own and, at any depth, those of the workflows embedded in it.

What makes a scope valid is said of its declarations alone: names are distinct, jobs have a
type and values for the parameters they require, dependencies and targets are declared, no
node reaches itself, and conditions refer to what their node depends on. Nothing here
mentions how a workflow is compiled.
-/

namespace Jobflow

/-- The nodes of its scope that a declared node depends on. -/
def Declaration.dependencies : Declaration → List String
  | .job _ declared => declared.dependencies.toList
  | .workflow header _ => header.dependencies.toList

/-- The condition of a declared node. -/
def Declaration.condition : Declaration → Option String
  | .job _ declared => declared.condition
  | .workflow header _ => header.condition

/-- The sources of the properties that a workflow defines, in increasing order of
precedence. -/
def Header.sources (header : Header) : List Entries :=
  header.propertyFiles.map (·.properties.entries) ++ [header.properties.entries]

/-- The sources of the properties that a job defines, in increasing order of precedence. -/
def Job.sources (job : Job) : List Entries :=
  job.propertyFiles.map (·.properties.entries) ++ [job.options.entries]

/-- Property files and own entries define what one of the files does, or the entries. -/
theorem exists_source_iff (files : List PropertyFile) (own : Entries) (name : String) :
    (∃ source ∈ files.map (·.properties.entries) ++ [own],
      Properties.Defines Properties.separator source name) ↔
    (∃ file ∈ files, Properties.Defines Properties.separator file.properties.entries name) ∨
      Properties.Defines Properties.separator own name := by
  constructor
  · rintro ⟨source, member, defined⟩
    rcases List.mem_append.mp member with inFile | here
    · obtain ⟨file, inside, rfl⟩ := List.mem_map.mp inFile
      exact Or.inl ⟨file, inside, defined⟩
    · exact Or.inr (List.mem_singleton.mp here ▸ defined)
  · rintro (⟨file, inside, defined⟩ | defined)
    · exact ⟨_, List.mem_append_left _ (List.mem_map_of_mem inside), defined⟩
    · exact ⟨own, List.mem_append_right _ List.mem_cons_self, defined⟩

/-- What a workflow defines overrides what it inherits. -/
theorem Header.inherit_eq (header : Header) (inherited : List Entries) :
    header.inherit inherited = Properties.ofSources (inherited ++ header.sources) := by
  rw [Header.inherit, Header.sources, List.append_assoc]

/-- What a job defines overrides what it inherits. -/
theorem Job.resolve_eq (job : Job) (inherited : List Entries) :
    job.resolve inherited = Properties.ofSources (inherited ++ job.sources) := by
  rw [Job.resolve, Job.sources, List.append_assoc]

/-- A workflow and the workflows around it. -/
structure Scope where
  /-- The workflows around it, the outermost one first. -/
  outer : List Header
  /-- The workflow. -/
  header : Header
  /-- The nodes declared in it. -/
  nodes : List Declaration

/-- The outermost scope of a workflow. -/
def Workflow.scope (workflow : Workflow) : Scope := ⟨[], workflow.header, workflow.nodes⟩

namespace Scope

/-- The workflows of a scope, the outermost one first and its own last. -/
def workflows (scope : Scope) : List Header := scope.outer ++ [scope.header]

/-- The scope of a workflow embedded in another scope. -/
def inner (scope : Scope) (header : Header) (nodes : List Declaration) : Scope :=
  ⟨scope.workflows, header, nodes⟩

/-- A scope holds itself and, at any depth, the scopes of the workflows embedded in it. -/
inductive Holds : Scope → Scope → Prop
  /-- The scope itself. -/
  | self (scope : Scope) : Holds scope scope
  /-- A scope held by an embedded workflow. -/
  | embedded {scope other : Scope} {header : Header} {nodes : List Declaration}
      (declared : .workflow header nodes ∈ scope.nodes)
      (deeper : Holds (scope.inner header nodes) other) : Holds scope other

/-- A scope holds those of the workflows embedded in it. -/
theorem holds_inner (scope : Scope) (header : Header) (nodes : List Declaration)
    (declared : .workflow header nodes ∈ scope.nodes) : scope.Holds (scope.inner header nodes) :=
  .embedded declared (.self _)

/-- Something holds of all scopes that a scope holds if it holds of the scope itself and of
all that the embedded workflows hold. -/
theorem forall_holds_iff (scope : Scope) (property : Scope → Prop) :
    (∀ other, scope.Holds other → property other) ↔
      property scope ∧ ∀ header nodes, .workflow header nodes ∈ scope.nodes →
        ∀ other, (scope.inner header nodes).Holds other → property other := by
  constructor
  · intro all
    exact ⟨all scope (.self scope), fun header nodes declared other deeper =>
      all other (.embedded declared deeper)⟩
  · rintro ⟨here, below⟩ other held
    cases held with
    | self => exact here
    | embedded declared deeper => exact below _ _ declared other deeper

/-- The properties that the nodes of a scope inherit: those given from outside, overridden by
those of each workflow from the outermost one in. -/
def properties (scope : Scope) (given : Entries) : Properties :=
  scope.workflows.foldl (fun inherited header => header.inherit [inherited.entries])
    (Properties.ofSources [given])

/-- An embedded workflow passes on what it inherits, overridden by what it defines. -/
theorem properties_inner (scope : Scope) (header : Header) (nodes : List Declaration)
    (given : Entries) :
    (scope.inner header nodes).properties given =
      header.inherit [(scope.properties given).entries] :=
  List.foldl_append

/-- Inheriting through workflows one after the other merges all that they define. -/
theorem foldl_inherit (headers : List Header) (sources : List Entries) :
    headers.foldl (fun inherited header => header.inherit [inherited.entries])
        (Properties.ofSources sources) =
      Properties.ofSources (sources ++ headers.flatMap Header.sources) := by
  induction headers generalizing sources with
  | nil => simp
  | cons header rest inductionHypothesis =>
    have first : header.inherit [(Properties.ofSources sources).entries] =
        Properties.ofSources (sources ++ header.sources) := by
      rw [Header.inherit_eq, Properties.ofSources, Properties.merge_append,
        Properties.merge_group, ← Properties.merge_append]
      rfl
    rw [List.foldl_cons, first, inductionHypothesis, List.flatMap_cons, List.append_assoc]

/-- The properties of a scope are merged from all sources around it at once. -/
theorem properties_eq (scope : Scope) (given : Entries) :
    scope.properties given =
      Properties.ofSources ([given] ++ scope.workflows.flatMap Header.sources) :=
  foldl_inherit scope.workflows [given]

/-- A job inside a scope sees the properties merged from all sources around it and its
own. -/
theorem resolve_eq (scope : Scope) (given : Entries) (job : Job) :
    job.resolve [(scope.properties given).entries] =
      Properties.ofSources ([given] ++ scope.workflows.flatMap Header.sources ++ job.sources) := by
  rw [Job.resolve_eq, properties_eq, Properties.ofSources, Properties.merge_append,
    Properties.merge_group, ← Properties.merge_append]
  rfl

/-- A name is defined for a job of a scope: outside of all workflows, by a workflow of the
scope or one of its property files, by a property file of the job, or among the job's own
options. -/
def Provides (scope : Scope) (given : Entries) (job : Job) (name : String) : Prop :=
  Properties.Defines Properties.separator given name ∨
    (∃ header ∈ scope.workflows,
      (∃ file ∈ header.propertyFiles,
        Properties.Defines Properties.separator file.properties.entries name) ∨
      Properties.Defines Properties.separator header.properties.entries name) ∨
    (∃ file ∈ job.propertyFiles,
      Properties.Defines Properties.separator file.properties.entries name) ∨
    Properties.Defines Properties.separator job.options.entries name

/-- A job sees exactly the names that are defined for it. -/
theorem contains_resolve_iff (scope : Scope) (given : Entries) (job : Job) (name : String) :
    (job.resolve [(scope.properties given).entries]).contains name = true ↔
      scope.Provides given job name := by
  have around : (∃ source ∈ scope.workflows.flatMap Header.sources,
      Properties.Defines Properties.separator source name) ↔
      ∃ header ∈ scope.workflows, (∃ file ∈ header.propertyFiles,
        Properties.Defines Properties.separator file.properties.entries name) ∨
        Properties.Defines Properties.separator header.properties.entries name := by
    constructor
    · rintro ⟨source, member, defined⟩
      obtain ⟨header, inside, own⟩ := List.mem_flatMap.mp member
      exact ⟨header, inside, (exists_source_iff _ _ name).mp ⟨source, own, defined⟩⟩
    · rintro ⟨header, inside, defined⟩
      obtain ⟨source, own, defines⟩ := (exists_source_iff _ _ name).mpr defined
      exact ⟨source, List.mem_flatMap.mpr ⟨header, inside, own⟩, defines⟩
  have own := exists_source_iff job.propertyFiles job.options.entries name
  rw [resolve_eq, Properties.contains_ofSources, Provides, ← around, ← own, List.append_assoc]
  simp only [List.mem_append, List.mem_singleton, or_and_right, exists_or, exists_eq_left,
    Job.sources]

/-- A name of a scope depends directly on another one: a declared node on what it depends
on, and the workflow's own node on the targets. -/
def DependsOn (scope : Scope) (name other : String) : Prop :=
  (∃ node ∈ scope.nodes, node.name = name ∧ other ∈ node.dependencies) ∨
    (name = scope.header.name ∧ other ∈ scope.header.targets.toList)

/-- A name of a scope depends on another one, directly or through others. -/
def Reaches (scope : Scope) : String → String → Prop := Relation.TransGen scope.DependsOn

/-- What makes a scope valid. -/
structure Valid (scope : Scope) (given : Entries) : Prop where
  /-- The declared names are distinct, and different from the workflow's own. -/
  distinct : (scope.header.name :: scope.nodes.map Declaration.name).Nodup
  /-- Every job has a type. -/
  typed : ∀ name job, .job name job ∈ scope.nodes → job.type.truthy = true
  /-- Every parameter that a job requires is defined for it. -/
  provided : ∀ name job, .job name job ∈ scope.nodes →
    ∀ parameter ∈ job.required.toList, scope.Provides given job parameter
  /-- Every dependency and every target is a declared node. -/
  declared : ∀ name other, scope.DependsOn name other → ∃ node ∈ scope.nodes, node.name = other
  /-- No node reaches itself. -/
  acyclic : ∀ name, ¬ scope.Reaches name name
  /-- A node with a condition depends on something, and its condition refers only to nodes
  that it reaches. -/
  conditions : ∀ node ∈ scope.nodes, ∀ condition, node.condition = some condition →
    condition ≠ "" → node.dependencies ≠ [] ∧
      ∀ reference, Flow.Condition.RefersTo condition reference → scope.Reaches node.name reference

end Scope

end Jobflow
