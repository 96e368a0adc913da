import Mathlib.Data.List.Chain
import Mathlib.Data.List.Nodup
import Mathlib.Data.List.Perm.Subperm
import Mathlib.Data.List.TakeWhile
import Mathlib.Order.WellFounded
import Jobflow.Flow.Graph
import Jobflow.Proofs.OrderedMap

/-!
# Reachability and circles of dependency graphs

A node reaches another one through one or more dependencies. Collecting dependencies finds
exactly the nodes that are reached; the search for circles finds one exactly if some node
reaches itself, provided that everything a node depends on is in the graph.

The search keeps the finished nodes in an order in which every node comes after all it
depends on. This order is both the reason why no circle can go through finished nodes and
what is left of a search without a result: a topological order of the graph.
-/

namespace Jobflow.Flow.Graph

/-- A node depends on another one directly. -/
def Edge (graph : Graph) (name other : String) : Prop := other ∈ graph.next name

/-- A node depends on another one, directly or through others. -/
def Reaches (graph : Graph) : String → String → Prop := Relation.TransGen graph.Edge

/-- Everything that a node depends on is a node of the graph. -/
def Closed (graph : Graph) : Prop := ∀ name other, graph.Edge name other → other ∈ graph.keys

/-- Only nodes of the graph depend on others. -/
theorem mem_keys_of_edge (graph : Graph) (name other : String) (edge : graph.Edge name other) :
    name ∈ graph.keys := by
  rw [← OrderedMap.contains_iff]
  cases found : graph.find? name with
  | none => simp [Edge, next, found] at edge
  | some names => simp [OrderedMap.contains, found]

/-! ## Collecting dependencies -/

/-- What is collected was there before, or is reached from a pending name. -/
theorem collect_origin (graph : Graph) (pending seen : List String) (other : String)
    (member : other ∈ graph.collect pending seen) :
    other ∈ seen ∨ ∃ start ∈ pending, Relation.ReflTransGen graph.Edge start other := by
  fun_induction collect graph pending seen with
  | case1 seen => exact Or.inl member
  | case2 seen name rest old inductionHypothesis =>
    rcases inductionHypothesis member with there | ⟨start, pending, path⟩
    · exact Or.inl there
    · exact Or.inr ⟨start, List.mem_cons_of_mem _ pending, path⟩
  | case3 seen name rest new inside inductionHypothesis =>
    rcases inductionHypothesis member with there | ⟨start, pending, path⟩
    · rcases List.mem_cons.mp there with here | there
      · exact Or.inr ⟨name, List.mem_cons_self, here ▸ .refl⟩
      · exact Or.inl there
    · rcases List.mem_append.mp pending with edge | later
      · exact Or.inr ⟨name, List.mem_cons_self, .head edge path⟩
      · exact Or.inr ⟨start, List.mem_cons_of_mem _ later, path⟩
  | case4 seen name rest new foreign inductionHypothesis =>
    rcases inductionHypothesis member with there | ⟨start, pending, path⟩
    · rcases List.mem_cons.mp there with here | there
      · exact Or.inr ⟨name, List.mem_cons_self, here ▸ .refl⟩
      · exact Or.inl there
    · exact Or.inr ⟨start, List.mem_cons_of_mem _ pending, path⟩

/-- Dropping a pending name that was seen before loses nothing that is seen or pending. -/
theorem met_of_drop {first name : String} {seen rest : List String} (old : first ∈ seen)
    (met : name ∈ seen ∨ name ∈ first :: rest) : name ∈ seen ∨ name ∈ rest := by
  rcases met with there | there
  · exact Or.inl there
  · rcases List.mem_cons.mp there with rfl | later
    · exact Or.inl old
    · exact Or.inr later

/-- Nor does seeing a pending name, whatever becomes pending in its place. -/
theorem met_of_see {first name : String} {seen rest : List String} (instead : List String)
    (met : name ∈ seen ∨ name ∈ first :: rest) :
    name ∈ first :: seen ∨ name ∈ instead ++ rest := by
  rcases met with there | there
  · exact Or.inl (List.mem_cons_of_mem _ there)
  · rcases List.mem_cons.mp there with rfl | later
    · exact Or.inl List.mem_cons_self
    · exact Or.inr (List.mem_append_right _ later)

/-- Whatever was seen or pending is collected. -/
theorem collect_retains (graph : Graph) (pending seen : List String) (name : String)
    (member : name ∈ seen ∨ name ∈ pending) : name ∈ graph.collect pending seen := by
  fun_induction collect graph pending seen with
  | case1 seen => simpa using member
  | case2 seen first rest old inductionHypothesis =>
    exact inductionHypothesis (met_of_drop old member)
  | case3 seen first rest new inside inductionHypothesis =>
    exact inductionHypothesis (met_of_see (graph.next first) member)
  | case4 seen first rest new foreign inductionHypothesis =>
    exact inductionHypothesis (met_of_see [] member)

/-- What is collected is closed under dependencies, as soon as the dependencies of the nodes
seen before are seen or pending. -/
theorem collect_closed (graph : Graph) (pending seen : List String)
    (before : ∀ name ∈ seen, ∀ other, graph.Edge name other → other ∈ seen ∨ other ∈ pending) :
    ∀ name ∈ graph.collect pending seen, ∀ other, graph.Edge name other →
      other ∈ graph.collect pending seen := by
  fun_induction collect graph pending seen with
  | case1 seen => simpa using before
  | case2 seen first rest old inductionHypothesis =>
    apply inductionHypothesis
    intro name member other edge
    exact met_of_drop old (before name member other edge)
  | case3 seen first rest new inside inductionHypothesis =>
    apply inductionHypothesis
    intro name member other edge
    rcases List.mem_cons.mp member with rfl | there
    · exact Or.inr (List.mem_append_left _ edge)
    · exact met_of_see _ (before name there other edge)
  | case4 seen first rest new foreign inductionHypothesis =>
    apply inductionHypothesis
    intro name member other edge
    rcases List.mem_cons.mp member with rfl | there
    · exact absurd (graph.mem_keys_of_edge name other edge) foreign
    · exact met_of_see [] (before name there other edge)

/-- The collected dependencies of a node are exactly the nodes that it reaches. -/
theorem mem_ancestors_iff (graph : Graph) (name other : String) :
    other ∈ graph.ancestors name ↔ graph.Reaches name other := by
  constructor
  · intro member
    rcases graph.collect_origin _ _ other member with there | ⟨start, edge, path⟩
    · simp at there
    · exact Relation.TransGen.head' edge path
  · intro reached
    induction reached with
    | single edge => exact graph.collect_retains _ _ _ (Or.inr edge)
    | tail _ edge inductionHypothesis =>
      exact graph.collect_closed _ _ (by simp) _ inductionHypothesis _ edge

/-! ## Circles -/

/-- A circle comes back to the node it starts with and meets no other node twice. -/
def IsCircle (graph : Graph) (circle : List String) : Prop :=
  ∃ first between, circle = first :: between ++ [first] ∧ circle.IsChain graph.Edge ∧
    (first :: between).Nodup

/-- The first node of a circle reaches itself. -/
theorem reaches_self_of_circle (graph : Graph) (circle : List String)
    (round : graph.IsCircle circle) : ∃ name, graph.Reaches name name := by
  obtain ⟨first, between, rfl, chain, _⟩ := round
  cases between with
  | nil =>
    have edge : graph.Edge first first := (List.isChain_cons_cons.mp chain).1
    exact ⟨first, .single edge⟩
  | cons second rest =>
    obtain ⟨edge, later⟩ := List.isChain_cons_cons.mp chain
    have path : Relation.ReflTransGen graph.Edge second first :=
      List.relationReflTransGen_of_exists_isChain_cons (rest ++ [first]) later (by simp)
    exact ⟨first, .head' edge path⟩

/-- A path that goes on to one of its own nodes closes a circle. -/
theorem closing_isCircle (graph : Graph) (path : List String) (name : String)
    (member : name ∈ path) (chain : (path ++ [name]).IsChain graph.Edge)
    (distinct : path.Nodup) : graph.IsCircle (closing path name) := by
  have suffix : path.dropWhile (· != name) <:+ path := List.dropWhile_suffix _
  cases left : path.dropWhile (· != name) with
  | nil =>
    have passed := List.dropWhile_eq_nil_iff.mp left name member
    simp at passed
  | cons first between =>
    have same : first = name := by
      have stops := List.head?_dropWhile_not (· != name) path
      rw [left] at stops
      simpa using stops
    subst same
    rw [left] at suffix
    have sublist : (first :: between).Sublist path := suffix.sublist
    have whole : closing path first = first :: between ++ [first] := by rw [closing, left]
    refine ⟨first, between, whole, ?_, distinct.sublist sublist⟩
    obtain ⟨before, split⟩ := suffix
    rw [whole]
    rw [← split, List.append_assoc] at chain
    exact chain.right_of_append

/-! ## Settled nodes -/

/-- Nodes in an order, latest first, in which each one depends only on nodes before it. -/
def Settled (graph : Graph) : List String → Prop
  | [] => True
  | name :: rest => name ∉ rest ∧ (∀ other, graph.Edge name other → other ∈ rest) ∧
      graph.Settled rest

/-- Settled nodes are distinct. -/
theorem settled_nodup (graph : Graph) (finished : List String)
    (settled : graph.Settled finished) : finished.Nodup := by
  induction finished with
  | nil => exact List.nodup_nil
  | cons name rest inductionHypothesis =>
    exact List.nodup_cons.mpr ⟨settled.1, inductionHypothesis settled.2.2⟩

/-- What a settled node depends on is settled. -/
theorem settled_edge (graph : Graph) (finished : List String) (settled : graph.Settled finished)
    (name other : String) (member : name ∈ finished) (edge : graph.Edge name other) :
    other ∈ finished := by
  induction finished with
  | nil => simp at member
  | cons first rest inductionHypothesis =>
    rcases List.mem_cons.mp member with rfl | later
    · exact List.mem_cons_of_mem _ (settled.2.1 other edge)
    · exact List.mem_cons_of_mem _ (inductionHypothesis settled.2.2 later)

/-- No settled node reaches itself: all that the latest one reaches was settled before. -/
theorem settled_acyclic (graph : Graph) (finished : List String)
    (settled : graph.Settled finished) (name : String) (member : name ∈ finished) :
    ¬ graph.Reaches name name := by
  induction finished with
  | nil => simp at member
  | cons first rest inductionHypothesis =>
    rcases List.mem_cons.mp member with rfl | later
    · have before : ∀ other, graph.Reaches name other → other ∈ rest := by
        intro other reached
        induction reached with
        | single edge => exact settled.2.1 _ edge
        | tail _ edge earlier => exact graph.settled_edge rest settled.2.2 _ _ earlier edge
      exact fun reached => settled.1 (before name reached)
    · exact inductionHypothesis settled.2.2 later

/-! ## The search -/

/-- The stack of a search, below a node that was visited from it if there is one: the
dependencies that a node has left are the last of its dependencies, and those before them are
settled, except that the node above can be one of them. -/
def Stacked (graph : Graph) (finished : List String) :
    (above : Option String) → List (String × List String) → Prop
  | _, [] => True
  | above, (name, rest) :: below =>
    (∃ seen, graph.next name = seen ++ rest ∧
      ∀ other ∈ seen, other ∈ finished ∨ above = some other) ∧
    graph.Stacked finished (some name) below

/-- The state of a search: the nodes that are done are settled nodes, and those in progress
are a path of the graph, whose nodes are on the stack. -/
structure Searching (graph : Graph) (search : Search) (finished : List String) : Prop where
  /-- Exactly the nodes of the graph have a stage. -/
  known : ∀ name, search.stages.contains name = true ↔ name ∈ graph.keys
  /-- The nodes that are done are in an order in which each depends only on those before it. -/
  settled : graph.Settled finished
  /-- They are the settled ones. -/
  done : ∀ name, search.stages.find? name = some .done ↔ name ∈ finished
  /-- The nodes in progress are those of the path. -/
  inProgress : ∀ name, search.stages.find? name = some .inProgress ↔ name ∈ search.path
  /-- The path meets no node twice. -/
  distinct : search.path.Nodup
  /-- The stack holds the nodes of the path, the last one at its top. -/
  along : search.path = (search.stack.map Prod.fst).reverse
  /-- Each node of the path depends on the next one. -/
  chain : search.path.IsChain graph.Edge
  /-- The stack holds what is left to look at. -/
  stacked : graph.Stacked finished none search.stack

/-- A search has reason to halt at a circle, and at nothing else. -/
def HasReason (graph : Graph) : Halt → Prop
  | .circle circle => graph.IsCircle circle
  | _ => False

/-- What a part of a search comes to: it halts for a reason, or settles further nodes. -/
def Explored (graph : Graph) (names before : List String) :
    Except Halt (OrderedMap Stage) → Prop
  | .ok stages =>
    ∃ after, graph.Searching ⟨stages, [], []⟩ after ∧ before ⊆ after ∧ names ⊆ after
  | .error reason => graph.HasReason reason

/-- What a step of a search comes to: the nodes of the path stay on the path or are settled. -/
def Advanced (graph : Graph) (path before : List String) : Move → Prop
  | .over => path = []
  | .on later => ∃ after, graph.Searching later after ∧ before ⊆ after ∧
      ∀ name ∈ path, name ∈ later.path ∨ name ∈ after
  | .halt reason => graph.HasReason reason

/-- A stack stays one when further nodes are settled, among them the node above. -/
theorem stacked_mono (graph : Graph) (before after : List String) (above other : Option String)
    (stack : List (String × List String)) (grown : before ⊆ after)
    (settled : ∀ name, above = some name → name ∈ after ∨ other = some name)
    (stacked : graph.Stacked before above stack) : graph.Stacked after other stack := by
  induction stack generalizing above other with
  | nil => trivial
  | cons entry below inductionHypothesis =>
    obtain ⟨name, rest⟩ := entry
    obtain ⟨⟨seen, whole, looked⟩, lower⟩ := stacked
    refine ⟨⟨seen, whole, ?_⟩, inductionHypothesis _ _ (fun _ same => Or.inr same) lower⟩
    intro dependency member
    rcases looked dependency member with there | here
    · exact Or.inl (grown there)
    · exact settled dependency here

/-- Giving a node of the graph a stage leaves exactly the nodes with one. -/
theorem known_insert (graph : Graph) (stages : OrderedMap Stage)
    (known : ∀ name, stages.contains name = true ↔ name ∈ graph.keys) (node : String)
    (inside : node ∈ graph.keys) (stage : Stage) (name : String) :
    (stages.insert node stage).contains name = true ↔ name ∈ graph.keys := by
  rw [OrderedMap.contains_iff, OrderedMap.mem_keys_insert, ← OrderedMap.contains_iff, known]
  exact ⟨fun member => member.elim id fun same => same ▸ inside, Or.inl⟩

/-- A node that was not met yet is put at the end of the path and on the stack, above a node that
depends on it if there is one. -/
theorem searching_visit (graph : Graph) (stages : OrderedMap Stage) (path finished : List String)
    (name : String) (dependencies : List String) (before stack : List (String × List String))
    (state : graph.Searching ⟨stages, path, before⟩ finished)
    (found : stages.find? name = some .unvisited) (next : graph.find? name = some dependencies)
    (along : path = (stack.map Prod.fst).reverse) (longer : (path ++ [name]).IsChain graph.Edge)
    (stacked : graph.Stacked finished (some name) stack) :
    graph.Searching
      ⟨stages.insert name .inProgress, path ++ [name], (name, dependencies) :: stack⟩ finished := by
  have inside : name ∈ graph.keys := by
    rw [← state.known, OrderedMap.contains, found]
    rfl
  have offPath : name ∉ path := by
    rw [← state.inProgress name, found]
    simp
  have new : name ∉ finished := by
    rw [← state.done name, found]
    simp
  have whole : graph.next name = dependencies := by
    rw [Graph.next, next]
    rfl
  exact
    { known := graph.known_insert stages state.known name inside .inProgress
      settled := state.settled
      done := by
        intro other
        rw [OrderedMap.find?_insert]
        by_cases same : other = name
        · simp [same, new]
        · rw [if_neg same, state.done]
      inProgress := by
        intro other
        rw [OrderedMap.find?_insert, List.mem_append, List.mem_singleton]
        by_cases same : other = name
        · simp [same]
        · rw [if_neg same, state.inProgress]
          exact ⟨Or.inl, fun member => member.resolve_right same⟩
      distinct := by
        rw [List.nodup_append]
        refine ⟨state.distinct, List.nodup_singleton _, ?_⟩
        intro other there last here same
        rw [List.mem_singleton.mp here] at same
        exact offPath (same ▸ there)
      along := by simp [along]
      chain := longer
      stacked := ⟨⟨[], whole, by simp⟩, stacked⟩ }

/-- A dependency that is settled is passed over. -/
theorem searching_passOver (graph : Graph) (stages : OrderedMap Stage) (path finished : List String)
    (name dependency : String) (rest : List String) (below : List (String × List String))
    (state : graph.Searching ⟨stages, path, (name, dependency :: rest) :: below⟩ finished)
    (old : dependency ∈ finished) :
    graph.Searching ⟨stages, path, (name, rest) :: below⟩ finished := by
  obtain ⟨⟨seen, whole, looked⟩, lower⟩ := state.stacked
  refine { state with stacked := ⟨⟨seen ++ [dependency], by simp [whole], ?_⟩, lower⟩ }
  intro other member
  rcases List.mem_append.mp member with there | here
  · exact looked other there
  · exact Or.inl (List.mem_singleton.mp here ▸ old)

/-- A node all of whose dependencies were looked at is settled, and taken off the path and the
stack. -/
theorem searching_leave (graph : Graph) (stages : OrderedMap Stage) (path finished : List String)
    (name : String) (below : List (String × List String))
    (state : graph.Searching ⟨stages, path, (name, []) :: below⟩ finished) :
    graph.Searching ⟨stages.insert name .done, path.dropLast, below⟩ (name :: finished) := by
  have split : path = (below.map Prod.fst).reverse ++ [name] := by simpa using state.along
  have shorter : path.dropLast = (below.map Prod.fst).reverse := by
    rw [split, List.dropLast_concat]
  have distinct := state.distinct
  simp only [split, List.nodup_append, List.mem_singleton] at distinct
  have onPath : name ∈ path := by simp [split]
  have inside : name ∈ graph.keys := by
    rw [← state.known, OrderedMap.contains, (state.inProgress name).mpr onPath]
    rfl
  have unfinished : name ∉ finished := by
    rw [← state.done, (state.inProgress name).mpr onPath]
    simp
  obtain ⟨⟨seen, whole, looked⟩, lower⟩ := state.stacked
  have dependencies : ∀ other, graph.Edge name other → other ∈ finished := by
    intro other edge
    rw [Edge, whole, List.append_nil] at edge
    simpa using looked other edge
  exact
    { known := graph.known_insert stages state.known name inside .done
      settled := ⟨unfinished, dependencies, state.settled⟩
      done := by
        intro other
        rw [OrderedMap.find?_insert, List.mem_cons]
        by_cases same : other = name
        · simp [same]
        · rw [if_neg same, state.done]
          exact ⟨Or.inr, fun member => member.resolve_left same⟩
      inProgress := by
        intro other
        show (stages.insert name .done).find? other = _ ↔ other ∈ path.dropLast
        rw [OrderedMap.find?_insert, shorter]
        by_cases same : other = name
        · rw [if_pos same]
          refine ⟨fun impossible => by simp at impossible, fun member => ?_⟩
          exact absurd same (distinct.2.2 other member name rfl)
        · rw [if_neg same, state.inProgress]
          show other ∈ path ↔ _
          rw [split, List.mem_append, List.mem_singleton]
          exact ⟨fun member => member.resolve_right same, Or.inl⟩
      distinct := state.distinct.sublist (List.dropLast_sublist _)
      along := shorter
      chain := state.chain.dropLast
      stacked := by
        apply graph.stacked_mono _ _ _ _ _ (List.subset_cons_self _ _) _ lower
        rintro other ⟨⟩
        exact Or.inl List.mem_cons_self }

/-- Leaving the last node on the path settles it. -/
theorem advanced_leave (graph : Graph) (stages : OrderedMap Stage) (path finished : List String)
    (name : String) (below : List (String × List String))
    (state : graph.Searching ⟨stages, path, (name, []) :: below⟩ finished) :
    graph.Advanced path finished (graph.step ⟨stages, path, (name, []) :: below⟩) := by
  have left := graph.searching_leave stages path finished name below state
  have split : path = (below.map Prod.fst).reverse ++ [name] := by simpa using state.along
  refine ⟨name :: finished, left, List.subset_cons_self _ _, ?_⟩
  intro other member
  rw [split, List.mem_append, List.mem_singleton] at member
  rcases member with there | here
  · exact Or.inl (left.along ▸ there)
  · exact Or.inr (here ▸ List.mem_cons_self)

/-- Looking at the next dependency of the last node on the path closes a circle, passes over
a settled node or puts a new one on the path. -/
theorem advanced_lookAt (graph : Graph) (closed : graph.Closed) (stages : OrderedMap Stage)
    (path finished : List String) (name dependency : String) (rest : List String)
    (below : List (String × List String))
    (state : graph.Searching ⟨stages, path, (name, dependency :: rest) :: below⟩ finished) :
    graph.Advanced path finished
      (graph.step ⟨stages, path, (name, dependency :: rest) :: below⟩) := by
  have split : path = (below.map Prod.fst).reverse ++ [name] := by simpa using state.along
  obtain ⟨⟨seen, whole, looked⟩, lower⟩ := state.stacked
  have edge : graph.Edge name dependency := by simp [Edge, whole]
  have inside : dependency ∈ graph.keys := closed name dependency edge
  have longer : (path ++ [dependency]).IsChain graph.Edge := by
    have chain := state.chain
    simp only [split] at chain ⊢
    rw [List.append_assoc, List.singleton_append, List.isChain_append_cons_cons]
    exact ⟨chain, edge, List.isChain_singleton _⟩
  show graph.Advanced path finished
    (graph.lookAt ⟨stages, path, (name, rest) :: below⟩ dependency)
  have staged := (state.known dependency).mpr inside
  unfold lookAt
  cases found : stages.find? dependency with
  | none => simp [OrderedMap.contains, found] at staged
  | some stage =>
    cases stage with
    | inProgress =>
      have onPath : dependency ∈ path := (state.inProgress dependency).mp found
      simp only [if_pos onPath]
      exact graph.closing_isCircle path dependency onPath longer state.distinct
    | done =>
      have old : dependency ∈ finished := (state.done dependency).mp found
      exact ⟨finished,
        graph.searching_passOver stages path finished name dependency rest below state old,
        List.Subset.refl _, fun other member => Or.inl member⟩
    | unvisited =>
      obtain ⟨dependencies, next⟩ : ∃ dependencies, graph.find? dependency = some dependencies :=
        Option.isSome_iff_exists.mp ((OrderedMap.contains_iff _ _).mpr inside)
      have stacked : graph.Stacked finished (some dependency) ((name, rest) :: below) := by
        refine ⟨⟨seen ++ [dependency], by simp [whole], fun other member => ?_⟩, lower⟩
        rcases List.mem_append.mp member with there | here
        · exact Or.inl ((looked other there).resolve_right (by simp))
        · exact Or.inr (by rw [List.mem_singleton.mp here])
      simp only [next]
      exact ⟨finished, graph.searching_visit stages path finished dependency dependencies _ _ state
        found next state.along longer stacked, List.Subset.refl _,
        fun other member => Or.inl (List.mem_append_left _ member)⟩

/-- A step of a search. -/
theorem advanced_step (graph : Graph) (closed : graph.Closed) (search : Search)
    (finished : List String) (state : graph.Searching search finished) :
    graph.Advanced search.path finished (graph.step search) := by
  rcases search with ⟨stages, path, stack⟩
  match stack, state with
  | [], state =>
    have along : path = [] := by simpa using state.along
    exact along
  | (name, []) :: below, state => exact graph.advanced_leave stages path finished name below state
  | (name, dependency :: rest) :: below, state =>
    exact graph.advanced_lookAt closed stages path finished name dependency rest below state

/-- A whole search from a state settles the nodes of its path, unless it finds a circle. -/
theorem explored_run (graph : Graph) (closed : graph.Closed) (search : Search)
    (finished : List String) (state : graph.Searching search finished) :
    graph.Explored search.path finished (graph.run search) := by
  fun_induction run graph search generalizing finished with
  | case1 search ended =>
    have advanced := graph.advanced_step closed search finished state
    rw [ended] at advanced
    have empty : search.path = [] := advanced
    have bare : search = ⟨search.stages, [], []⟩ := by
      have along := state.along
      rw [empty] at along
      rcases search with ⟨stages, path, stack⟩
      simp_all
    exact ⟨finished, bare ▸ state, List.Subset.refl _, by simp [empty]⟩
  | case2 search reason halted =>
    have advanced := graph.advanced_step closed search finished state
    rw [halted] at advanced
    exact advanced
  | case3 search later moved inductionHypothesis =>
    have advanced := graph.advanced_step closed search finished state
    rw [moved] at advanced
    obtain ⟨middle, laterState, grown, kept⟩ := advanced
    have explored := inductionHypothesis middle laterState
    cases result : graph.run later with
    | error reason =>
      rw [result] at explored
      exact explored
    | ok stages =>
      rw [result] at explored
      obtain ⟨after, afterState, further, settled⟩ := explored
      refine ⟨after, afterState, fun other member => further (grown member), ?_⟩
      intro other member
      rcases kept other member with there | there
      · exact settled there
      · exact further there

/-- A search from a node of the graph settles it, unless it finds a circle. -/
theorem explored_searchFrom (graph : Graph) (closed : graph.Closed) (stages : OrderedMap Stage)
    (finished : List String) (start : String) (inside : start ∈ graph.keys)
    (state : graph.Searching ⟨stages, [], []⟩ finished) :
    graph.Explored [start] finished (graph.searchFrom stages start) := by
  have staged := (state.known start).mpr inside
  unfold searchFrom
  cases found : stages.find? start with
  | none => simp [OrderedMap.contains, found] at staged
  | some stage =>
    cases stage with
    | inProgress => exact absurd ((state.inProgress start).mp found) (by simp)
    | done =>
      exact ⟨finished, state, List.Subset.refl _, by simpa using (state.done start).mp found⟩
    | unvisited =>
      obtain ⟨dependencies, next⟩ : ∃ dependencies, graph.find? start = some dependencies :=
        Option.isSome_iff_exists.mp ((OrderedMap.contains_iff _ _).mpr inside)
      simp only [next]
      exact graph.explored_run closed _ finished (graph.searching_visit stages [] finished start
        dependencies [] [] state found next rfl (List.isChain_singleton _) trivial)

/-- Searching from nodes of the graph in order settles them all, unless a circle is found. -/
theorem explored_each (graph : Graph) (closed : graph.Closed) (names : List String)
    (inside : ∀ name ∈ names, name ∈ graph.keys) (stages : OrderedMap Stage)
    (finished : List String) (state : graph.Searching ⟨stages, [], []⟩ finished) :
    graph.Explored names finished (names.foldlM graph.searchFrom stages) := by
  induction names generalizing stages finished with
  | nil => exact ⟨finished, state, List.Subset.refl _, by simp⟩
  | cons name rest inductionHypothesis =>
    have first := graph.explored_searchFrom closed stages finished name
      (inside name List.mem_cons_self) state
    rw [List.foldlM_cons]
    cases result : graph.searchFrom stages name with
    | error reason =>
      rw [result] at first
      exact first
    | ok middle =>
      rw [result] at first
      obtain ⟨settled, middleState, grown, found⟩ := first
      have later := inductionHypothesis
        (fun other member => inside other (List.mem_cons_of_mem _ member)) middle settled middleState
      show graph.Explored (name :: rest) finished (rest.foldlM graph.searchFrom middle)
      cases last : rest.foldlM graph.searchFrom middle with
      | error reason =>
        rw [last] at later
        exact later
      | ok final =>
        rw [last] at later
        obtain ⟨after, afterState, further, restFound⟩ := later
        refine ⟨after, afterState, fun other member => further (grown member), ?_⟩
        intro other member
        rcases List.mem_cons.mp member with rfl | tail
        · exact further (found List.mem_cons_self)
        · exact restFound tail

/-- At first no node was met. -/
theorem searching_start (graph : Graph) (names : List String)
    (all : ∀ name, name ∈ names ↔ name ∈ graph.keys) :
    graph.Searching ⟨OrderedMap.ofList (names.map fun name => (name, .unvisited)), [], []⟩ [] := by
  have unvisited : ∀ name stage,
      (OrderedMap.ofList (names.map fun name => (name, Stage.unvisited))).find? name = some stage →
        stage = .unvisited := by
    intro name stage found
    obtain ⟨_, _, same⟩ := List.mem_map.mp (OrderedMap.mem_of_find?_ofList found)
    exact (congrArg Prod.snd same).symm
  refine ⟨?_, trivial, ?_, ?_, List.nodup_nil, rfl, List.isChain_nil, trivial⟩
  · intro name
    rw [← all, OrderedMap.contains_iff, OrderedMap.keys_ofList]
    simp
  · refine fun name => ⟨fun found => ?_, fun member => by simp at member⟩
    cases unvisited name _ found
  · refine fun name => ⟨fun found => ?_, fun member => by simp at member⟩
    cases unvisited name _ found

/-- Searching a closed graph settles all its nodes, unless a circle is found. -/
theorem explored_search (graph : Graph) (closed : graph.Closed) (names : List String)
    (all : ∀ name, name ∈ names ↔ name ∈ graph.keys) :
    graph.Explored names [] (graph.search names) :=
  graph.explored_each closed names (fun name => (all name).mp) _ _ (graph.searching_start names all)

/-- A circle that the search finds is one. -/
theorem isCircle_of_search (graph : Graph) (closed : graph.Closed) (names : List String)
    (all : ∀ name, name ∈ names ↔ name ∈ graph.keys) (circle : List String)
    (found : graph.search names = .error (.circle circle)) : graph.IsCircle circle := by
  have explored := graph.explored_search closed names all
  rw [found] at explored
  exact explored

/-- A search without a circle leaves the graph in an order in which each node depends only
on nodes before it. -/
theorem settled_of_search (graph : Graph) (closed : graph.Closed) (names : List String)
    (all : ∀ name, name ∈ names ↔ name ∈ graph.keys) (stages : OrderedMap Stage)
    (found : graph.search names = .ok stages) :
    ∃ finished, graph.Settled finished ∧ finished.Perm graph.keys := by
  have explored := graph.explored_search closed names all
  rw [found] at explored
  obtain ⟨finished, state, _, whole⟩ := explored
  refine ⟨finished, state.settled, ?_⟩
  apply (List.perm_ext_iff_of_nodup (graph.settled_nodup finished state.settled) graph.nodup).mpr
  intro name
  constructor
  · intro member
    have stage := (state.done name).mpr member
    exact (state.known name).mp (by rw [OrderedMap.contains, stage]; rfl)
  · exact fun member => whole ((all name).mpr member)

/-- The search of a closed graph ends in all its nodes settled or in a circle. -/
theorem search_cases (graph : Graph) (closed : graph.Closed) (names : List String)
    (all : ∀ name, name ∈ names ↔ name ∈ graph.keys) :
    (∃ stages, graph.search names = .ok stages) ∨
      ∃ circle, graph.search names = .error (.circle circle) := by
  have explored := graph.explored_search closed names all
  cases result : graph.search names with
  | ok stages => exact Or.inl ⟨stages, rfl⟩
  | error reason =>
    rw [result] at explored
    cases reason with
    | circle circle => exact Or.inr ⟨circle, rfl⟩
    | unknown name => exact explored.elim
    | offPath name => exact explored.elim

/-- If the search finds no circle, no node reaches itself. -/
theorem acyclic_of_search (graph : Graph) (closed : graph.Closed) (names : List String)
    (all : ∀ name, name ∈ names ↔ name ∈ graph.keys) (stages : OrderedMap Stage)
    (found : graph.search names = .ok stages) (name : String) : ¬ graph.Reaches name name := by
  intro reached
  obtain ⟨finished, settled, same⟩ := graph.settled_of_search closed names all stages found
  have inside : name ∈ graph.keys := by
    obtain ⟨other, edge, _⟩ := Relation.TransGen.head'_iff.mp reached
    exact graph.mem_keys_of_edge name other edge
  exact graph.settled_acyclic finished settled name (same.mem_iff.mpr inside) reached

/-- A search without a result leaves the graph in an order in which each node depends only
on nodes before it. -/
theorem settled_of_cycle? (graph : Graph) (closed : graph.Closed) (names : List String)
    (all : ∀ name, name ∈ names ↔ name ∈ graph.keys) (none : graph.cycle? names = none) :
    ∃ finished, graph.Settled finished ∧ finished.Perm graph.keys := by
  rcases graph.search_cases closed names all with ⟨stages, found⟩ | ⟨circle, found⟩
  · exact graph.settled_of_search closed names all stages found
  · simp [cycle?, found] at none

/-- The search of a closed graph finds a circle exactly if some node reaches itself. -/
theorem cycle?_eq_none_iff (graph : Graph) (closed : graph.Closed) (names : List String)
    (all : ∀ name, name ∈ names ↔ name ∈ graph.keys) :
    graph.cycle? names = none ↔ ∀ name, ¬ graph.Reaches name name := by
  rcases graph.search_cases closed names all with ⟨stages, found⟩ | ⟨circle, found⟩
  · simpa [cycle?, found] using graph.acyclic_of_search closed names all stages found
  · obtain ⟨name, reached⟩ := graph.reaches_self_of_circle circle
      (graph.isCircle_of_search closed names all circle found)
    simpa [cycle?, found] using ⟨name, reached⟩

/-- No run of steps goes on forever. -/
theorem no_endless_run (graph : Graph) :
    ¬ ∃ searches : Nat → Search, ∀ n, graph.step (searches n) = .on (searches (n + 1)) := by
  rintro ⟨searches, moves⟩
  have wellFounded : WellFounded Search.Before :=
    InvImage.wf _ (Prod.lex Nat.lt_wfRel Nat.lt_wfRel).wf
  exact (wellFounded_iff_isEmpty_descending_chain.mp wellFounded).false
    ⟨searches, fun n => graph.before_of_step _ _ (moves n)⟩

/-- Searching a closed graph from its nodes, in any order, comes to an end, and never looks for
a name that is no node or for a node on the path that is not there. It halts at a circle exactly
if some node depends on itself, and the circle it names is one of the graph. -/
theorem search_finds_circles (graph : Graph) (closed : graph.Closed) (names : List String)
    (all : ∀ name, name ∈ names ↔ name ∈ graph.keys) :
    (¬ ∃ searches : Nat → Search, ∀ n, graph.step (searches n) = .on (searches (n + 1))) ∧
      (∀ name, graph.search names ≠ .error (.unknown name)) ∧
      (∀ name, graph.search names ≠ .error (.offPath name)) ∧
      ((∃ circle, graph.search names = .error (.circle circle)) ↔
        ∃ name, graph.Reaches name name) ∧
      ∀ circle, graph.search names = .error (.circle circle) → graph.IsCircle circle := by
  refine ⟨graph.no_endless_run, ?_, ?_, ?_, graph.isCircle_of_search closed names all⟩
  · intro name unknown
    have explored := graph.explored_search closed names all
    rw [unknown] at explored
    exact explored
  · intro name offPath
    have explored := graph.explored_search closed names all
    rw [offPath] at explored
    exact explored
  · constructor
    · rintro ⟨circle, found⟩
      exact graph.reaches_self_of_circle circle
        (graph.isCircle_of_search closed names all circle found)
    · rintro ⟨name, reached⟩
      rcases graph.search_cases closed names all with ⟨stages, found⟩ | halted
      · exact absurd reached (graph.acyclic_of_search closed names all stages found name)
      · exact halted

/-- A load and a report that wait for each other. -/
def loadAndReport : Graph :=
  OrderedMap.ofList [("fetch", []), ("load", ["fetch", "report"]), ("report", ["load"])]

/-- The search finds that they do, and names a circle of them. -/
theorem loadAndReport_circle :
    loadAndReport.Closed ∧
      (∀ name, name ∈ ["fetch", "load", "report"] ↔ name ∈ loadAndReport.keys) ∧
      ∃ circle, loadAndReport.search ["fetch", "load", "report"] = .error (.circle circle) ∧
        loadAndReport.IsCircle circle := by
  have keys : loadAndReport.keys = ["fetch", "load", "report"] := by decide
  have nodes : ∀ name ∈ loadAndReport.keys,
      ∀ other ∈ loadAndReport.next name, other ∈ loadAndReport.keys := by decide
  have closed : loadAndReport.Closed := fun name other edge =>
    nodes name (loadAndReport.mem_keys_of_edge name other edge) other edge
  have all : ∀ name, name ∈ ["fetch", "load", "report"] ↔ name ∈ loadAndReport.keys :=
    fun name => by rw [keys]
  have first : loadAndReport.Edge "load" "report" := by
    show "report" ∈ loadAndReport.next "load"
    decide
  have second : loadAndReport.Edge "report" "load" := by
    show "load" ∈ loadAndReport.next "report"
    decide
  obtain ⟨_, _, _, halts, simple⟩ := loadAndReport.search_finds_circles closed _ all
  obtain ⟨circle, found⟩ := halts.mpr ⟨"load", .tail (.single first) second⟩
  exact ⟨closed, all, circle, found, simple circle found⟩

end Jobflow.Flow.Graph
