import Jobflow.OrderedMap

/-!
# Dependency graphs

A dependency graph maps the name of each node to the names it depends on. Two questions
are asked of it: does it have a circle of dependencies, and which nodes does a node depend
on, directly or through others?

The search for circles goes depth first, in the order of the names and of their
dependencies, along a path of nodes whose dependencies are being looked at. A dependency in
progress closes a circle; a node is done once all its dependencies are. The search keeps a
stack of what is left to look at for each node of the path, and goes on step by step: a step
either visits a node or leaves less on the stack, so it ends.

A graph that mentions nodes it does not have makes the search halt at them.
-/

namespace Jobflow.Flow

/-- The dependencies of each node by name. -/
abbrev Graph := OrderedMap (List String)

namespace Graph

/-- The names a node depends on directly. -/
def next (graph : Graph) (name : String) : List String := (graph.find? name).getD []

/-! ## Searching circles -/

/-- How far the search has come with a node. -/
inductive Stage
  /-- The node was not met yet. -/
  | unvisited
  /-- The node is on the path. -/
  | inProgress
  /-- The node and all that it depends on are visited. -/
  | done
deriving DecidableEq, Repr

/-- The state of a search. -/
structure Search where
  /-- How far the search has come with each node. -/
  stages : OrderedMap Stage
  /-- The nodes in progress, from the one the search started at on. -/
  path : List String
  /-- The nodes in progress, latest first, each with the dependencies left to look at. -/
  stack : List (String × List String)

/-- Why a search halts. -/
inductive Halt
  /-- There is a circle: its nodes, the first one again at the end. -/
  | circle (names : List String)
  /-- A name is not that of a node. -/
  | unknown (name : String)
  /-- A node in progress is not on the path. -/
  | offPath (name : String)
deriving DecidableEq, Repr

/-- What a step of a search comes to. -/
inductive Move
  /-- There is nothing left to look at. -/
  | over
  /-- The search goes on. -/
  | on (search : Search)
  /-- The search halts. -/
  | halt (reason : Halt)

/-- The circle that a step from the end of a path to one of its nodes closes: the path
from that node on, and the node again. -/
def closing (path : List String) (name : String) : List String :=
  path.dropWhile (fun other => other != name) ++ [name]

/-- Go on from the node at the end of the path to one of its dependencies. -/
def lookAt (graph : Graph) (search : Search) (dependency : String) : Move :=
  match search.stages.find? dependency with
  | none => .halt (.unknown dependency)
  | some .done => .on search
  | some .inProgress =>
    if dependency ∈ search.path then .halt (.circle (closing search.path dependency))
    else .halt (.offPath dependency)
  | some .unvisited =>
    match graph.find? dependency with
    | none => .halt (.unknown dependency)
    | some dependencies =>
      .on {
        stages := search.stages.insert dependency .inProgress
        path := search.path ++ [dependency]
        stack := (dependency, dependencies) :: search.stack }

/-- A step of a search: look at the next dependency of the node at the end of the path, or
leave the node if there is none. -/
def step (graph : Graph) (search : Search) : Move :=
  match search.stack with
  | [] => .over
  | (name, []) :: below =>
    .on {
      stages := search.stages.insert name .done
      path := search.path.dropLast
      stack := below }
  | (name, dependency :: rest) :: below =>
    graph.lookAt { search with stack := (name, rest) :: below } dependency

/-- The number of nodes not met yet. -/
def Search.unvisited (search : Search) : Nat :=
  search.stages.entries.countP fun entry => entry.2 == .unvisited

/-- The number of dependencies and nodes left on the stack. -/
def Search.pending (search : Search) : Nat :=
  search.stack.foldr (fun entry count => entry.2.length + 1 + count) 0

/-- A node that is given a stage is no longer among those not met yet. -/
theorem countP_insert (stage : Stage) (met : stage ≠ .unvisited) (name : String)
    (stages : OrderedMap Stage) :
    (stages.insert name stage).entries.countP (fun entry => entry.2 == .unvisited) +
        (if stages.find? name = some .unvisited then 1 else 0) =
      stages.entries.countP fun entry => entry.2 == .unvisited := by
  show (insertEntry name stage stages.entries).countP (fun entry => entry.2 == .unvisited) +
      (if stages.entries.lookup name = some .unvisited then 1 else 0) = _
  induction stages.entries with
  | nil => simp [insertEntry, met]
  | cons entry rest inductionHypothesis =>
    obtain ⟨other, old⟩ := entry
    by_cases same : other = name
    · subst same
      rw [insertEntry, if_pos rfl, List.countP_cons, List.countP_cons, List.lookup_cons_self]
      cases old <;> simp [met]
    · have apart : ((other, old) :: rest).lookup name = rest.lookup name := by
        have different : (name == other) = false := by simpa using Ne.symm same
        rw [List.lookup_cons, different]
      rw [insertEntry, if_neg same, List.countP_cons, List.countP_cons, apart]
      omega

/-- The states of a search, by what is left to visit and then by what is left to look at. -/
abbrev Search.Before : Search → Search → Prop :=
  InvImage (Prod.Lex (· < ·) (· < ·)) fun search => (search.unvisited, search.pending)

/-- A step leaves less to visit, or as much to visit and less to look at. -/
theorem before_of_step (graph : Graph) (search later : Search)
    (moved : graph.step search = .on later) : later.Before search := by
  rcases search with ⟨stages, path, stack⟩
  cases stack with
  | nil => simp [step] at moved
  | cons top below =>
    obtain ⟨name, dependencies⟩ := top
    cases dependencies with
    | nil =>
      simp only [step, Move.on.injEq] at moved
      subst moved
      have fewer := countP_insert .done (by decide) name stages
      rcases Nat.lt_or_eq_of_le (Nat.le.intro fewer) with less | same
      · exact Prod.Lex.left _ _ less
      · exact Prod.lex_def.mpr (Or.inr ⟨same, by simp [Search.pending]⟩)
    | cons dependency rest =>
      simp only [step, lookAt] at moved
      split at moved
      · cases moved
      · cases moved
        exact Prod.Lex.right _ (by simp [Search.pending])
      · split at moved <;> cases moved
      · rename_i unvisited
        split at moved
        · cases moved
        · cases moved
          have fewer := countP_insert .inProgress (by decide) dependency stages
          rw [if_pos unvisited] at fewer
          exact Prod.Lex.left _ _ (Nat.lt_of_succ_le (Nat.le_of_eq fewer))

/-- Search on until there is nothing left to look at: how far the search has come then, or why
it halted. -/
def run (graph : Graph) (search : Search) : Except Halt (OrderedMap Stage) :=
  match _moved : graph.step search with
  | .over => .ok search.stages
  | .halt reason => .error reason
  | .on later => run graph later
termination_by (search.unvisited, search.pending)
decreasing_by exact graph.before_of_step search later _moved

/-- Search from a node that was not met yet. -/
def searchFrom (graph : Graph) (stages : OrderedMap Stage) (start : String) :
    Except Halt (OrderedMap Stage) :=
  match stages.find? start with
  | none => .error (.unknown start)
  | some .unvisited =>
    match graph.find? start with
    | none => .error (.unknown start)
    | some dependencies =>
      graph.run {
        stages := stages.insert start .inProgress
        path := [start]
        stack := [(start, dependencies)] }
  | some _ => .ok stages

/-- Search from nodes in order. -/
def search (graph : Graph) (names : List String) : Except Halt (OrderedMap Stage) :=
  names.foldlM graph.searchFrom (OrderedMap.ofList (names.map fun name => (name, .unvisited)))

/-- A circle of dependencies among nodes visited in order, with its first node again at
the end. -/
def cycle? (graph : Graph) (names : List String) : Option (List String) :=
  match graph.search names with
  | .error (.circle circle) => some circle
  | _ => none

/-! ## Collecting dependencies -/

/-- The number of nodes that are not among the given ones. -/
def unseen (graph : Graph) (seen : List String) : Nat :=
  (graph.keys.filter fun name => !seen.contains name).length

/-- Seeing a new node of the graph leaves fewer unseen. -/
theorem unseen_cons_lt (graph : Graph) (seen : List String) (name : String)
    (member : name ∈ graph.keys) (new : name ∉ seen) :
    graph.unseen (name :: seen) < graph.unseen seen := by
  unfold unseen
  generalize graph.keys = keys at member
  induction keys with
  | nil => simp at member
  | cons other rest inductionHypothesis =>
    have monotone : ∀ keys : List String,
        (keys.filter fun key => !(name :: seen).contains key).length ≤
          (keys.filter fun key => !seen.contains key).length := by
      intro keys
      rw [← List.countP_eq_length_filter, ← List.countP_eq_length_filter]
      apply List.countP_mono_left
      intro key _ unseenKey
      simp only [List.contains_cons, Bool.not_eq_true', Bool.or_eq_false_iff] at unseenKey ⊢
      exact unseenKey.2
    by_cases same : other = name
    · subst same
      have fresh : seen.contains other = false := by simpa using new
      rw [List.filter_cons_of_neg (by simp), List.filter_cons_of_pos (by simp [new])]
      exact Nat.lt_succ_of_le (monotone rest)
    · have there : name ∈ rest := by
        rcases List.mem_cons.mp member with here | there
        · exact absurd here.symm same
        · exact there
      have smaller := inductionHypothesis there
      by_cases old : other ∈ seen
      · rw [List.filter_cons_of_neg (by simp [old]), List.filter_cons_of_neg (by simp [old])]
        exact smaller
      · rw [List.filter_cons_of_pos (by simp [old, same]), List.filter_cons_of_pos (by simp [old])]
        simpa using smaller

/-- Collect nodes and all they depend on: of the pending names, each new one is kept and
its dependencies become pending. -/
def collect (graph : Graph) (pending seen : List String) : List String :=
  match pending with
  | [] => seen
  | name :: rest =>
    if name ∈ seen then collect graph rest seen
    else if name ∈ graph.keys then collect graph (graph.next name ++ rest) (name :: seen)
    else collect graph rest (name :: seen)
termination_by (graph.unseen seen, pending.length)
decreasing_by
  · exact Prod.Lex.right _ (by simp)
  · rename_i new member
    exact Prod.Lex.left _ _ (unseen_cons_lt graph seen name member new)
  · rename_i new foreign
    have same : graph.unseen (name :: seen) = graph.unseen seen := by
      unfold unseen
      congr 1
      apply List.filter_congr
      intro key member
      have different : key ≠ name := fun same => foreign (same ▸ member)
      simp [different]
    rw [same]
    exact Prod.Lex.right _ (by simp)

/-- The names that a node depends on, directly or through others. -/
def ancestors (graph : Graph) (name : String) : List String :=
  graph.collect (graph.next name) []

end Graph

end Jobflow.Flow
