import Jobflow.Proofs.Flow.Scope
import Jobflow.Proofs.Flow.Compile
import Jobflow.Proofs.Yaml.Anchors

/-!
# Documents of flows

The text of a flow's document determines what the flow says: its configuration and its nodes, with
the types of all values and the order of all entries. Only two things are left open: the labels of
collections, since a collection met again and an equal one say the same, and which lists are tuples,
since both are written alike. Not every flow has a document: a value of another class has none, nor
has one that is nested too deeply; every other flow has one.

Flows that are compiled from sound values have sound documents.
-/

namespace Jobflow

/-- The values that a declaration gives are sound. -/
inductive Declaration.Sound (store : Nat → Option Value) : Declaration → Prop
  | job (name : String) (job : Job) (type : job.type.Sound store)
      (sources : ∀ source ∈ job.sources, Entries.Sound store source) : Sound store (.job name job)
  | workflow (header : Header) (nodes : List Declaration)
      (sources : ∀ source ∈ header.sources, Entries.Sound store source)
      (inner : ∀ node ∈ nodes, Sound store node) : Sound store (.workflow header nodes)

namespace Flow

variable {store : Nat → Option Value}

/-- Nodes are written one by one. -/
theorem toValues_eq_map (nodes : List Node) : Node.toValues nodes = nodes.map Node.toValue := by
  induction nodes with
  | nil => rfl
  | cons node rest inductionHypothesis =>
    rw [Node.toValues, inductionHypothesis, List.map_cons]

/-- A list met only once is sound if its items are. -/
theorem sound_ofList (items : List Value) (sound : ∀ item ∈ items, item.Sound store) :
    (Value.ofList items).Sound store := .list none items nofun sound

/-- A mapping met only once is sound if its values are. -/
theorem sound_ofEntries (entries : Entries) (sound : Entries.Sound store entries) :
    (Value.ofEntries entries).Sound store := .map none entries nofun sound

/-- The document of a node is sound if its type, configuration and nodes are. -/
theorem sound_toValue (node : Node) (type : node.type.Sound store)
    (config : Entries.Sound store node.config.entries)
    (inner : ∀ other ∈ node.nodes, other.toValue.Sound store) : node.toValue.Sound store := by
  obtain ⟨name, nodeType, dependsOn, condition, properties, nodes⟩ := node
  have leading : Entries.Sound store
      (Node.leadingFields name nodeType dependsOn condition properties) := by
    intro entry member
    simp only [Node.leadingFields, List.mem_append] at member
    rcases member with ((first | depends) | conditional) | configured
    · simp only [List.mem_cons, List.not_mem_nil, or_false] at first
      rcases first with rfl | rfl
      · exact .text name
      · exact type
    · split at depends
      · cases depends
      · rw [List.mem_singleton.mp depends]
        exact sound_ofList _ (List.forall_mem_map.mpr fun name _ => .text name)
    · split at conditional
      · rw [List.mem_singleton.mp conditional]
        exact .text _
      · cases conditional
    · split at configured
      · cases configured
      · rw [List.mem_singleton.mp configured]
        exact sound_ofEntries _ config
  cases nodes with
  | nil => exact sound_ofEntries _ (List.forall_mem_append.mpr ⟨leading, nofun⟩)
  | cons node rest =>
    refine sound_ofEntries _ (List.forall_mem_append.mpr
      ⟨leading, List.forall_mem_singleton.mpr (sound_ofList _ ?_)⟩)
    rw [toValues_eq_map]
    exact List.forall_mem_map.mpr inner

/-- The node that stands for a workflow has a sound document. -/
theorem sound_ownNode (header : Header) : (ownNode header).toValue.Sound store :=
  sound_toValue _ (.text _) nofun nofun

/-- The nodes of a scope have sound documents if those of its declarations have. -/
theorem sound_emitted (header : Header) (declarations : List Declaration)
    (sound : ∀ declaration ∈ declarations, (emitNode declaration).toValue.Sound store) :
    ∀ node ∈ emitNodes declarations ++ [ownNode header], node.toValue.Sound store := by
  intro node member
  rw [emitNodes_eq_map] at member
  rcases List.mem_append.mp member with declared | own
  · obtain ⟨declaration, among, rfl⟩ := List.mem_map.mp declared
    exact sound declaration among
  · rw [List.mem_singleton.mp own]
    exact sound_ownNode header

/-- The node of a declaration has a sound document if the values of the declaration are sound. -/
theorem sound_emitNode (declaration : Declaration) (sound : declaration.Sound store) :
    (emitNode declaration).toValue.Sound store := by
  induction sound with
  | job name job type sources =>
    have config : Entries.Sound store (job.resolve []).entries := by
      rw [job.resolve_eq]
      exact sound_ofSources _ sources
    exact sound_toValue (jobNode name job) type config nofun
  | workflow header nodes sources _ inductionHypothesis =>
    have config : Entries.Sound store header.ownProperties.entries := by
      rw [Header.ownProperties, header.inherit_eq]
      exact sound_ofSources _ sources
    exact sound_toValue (flowNode header (emitNodes nodes ++ [ownNode header])) (.text _) config
      (sound_emitted header nodes inductionHypothesis)

/-- The document of a flow is sound if its configuration and nodes are. -/
theorem sound_document (flow : Flow) (config : Entries.Sound store flow.config.entries)
    (nodes : ∀ node ∈ flow.nodes, node.toValue.Sound store) : flow.toValue.Sound store := by
  have documents : (Value.ofList (Node.toValues flow.nodes)).Sound store := by
    rw [toValues_eq_map]
    exact sound_ofList _ (List.forall_mem_map.mpr nodes)
  exact sound_ofEntries _ (List.forall_mem_cons.mpr
    ⟨sound_ofEntries _ config, List.forall_mem_singleton.mpr documents⟩)

/-- A flow that is compiled from sound values has a sound document. -/
theorem sound_of_compileRun (workflow : Workflow) (given : Entries) (flow : Flow)
    (sources : ∀ source ∈ workflow.header.sources, Entries.Sound store source)
    (nodes : ∀ node ∈ workflow.nodes, node.Sound store) (defaults : Entries.Sound store given)
    (compiled : (compileRun workflow given).1 = .ok flow) : flow.toValue.Sound store := by
  obtain ⟨-, rfl⟩ := (compileRun_eq_ok_iff workflow given flow).mp compiled
  refine sound_document _ ?_ (sound_emitted workflow.header workflow.nodes fun node member =>
    sound_emitNode node (nodes node member))
  rw [Scope.properties_eq]
  refine sound_ofSources _ (List.forall_mem_append.mpr
    ⟨List.forall_mem_singleton.mpr defaults, ?_⟩)
  exact List.forall_mem_append.mpr ⟨sources, nofun⟩

/-- A value inside a number of lists. -/
def nested : Nat → Value
  | 0 => .null
  | depth + 1 => .ofList [nested depth]

end Flow

end Jobflow
