import Jobflow.Proofs.Flow.Graph

/-!
# Collecting dependencies step by step

The dependencies of a node are collected by way of pending names, one of which is looked at in
each step. A name that was seen before is dropped; that of a new node is kept, and its
dependencies become pending. A name can be pending several times. Which pending name is looked at
next is left open: the last one, as on a stack, the first one, or any other.

Whatever is chosen, no collection goes on forever. In a closed graph none of them meets a name that
is no node, and each one has seen exactly the reached nodes in the end, each of them once. The
collection that finds the ancestors of a node is one of them.
-/

namespace Jobflow.Flow.Graph

variable {graph : Graph}

/-- A collection under way. -/
structure Collection where
  /-- The names to look at. -/
  pending : List String
  /-- The names of the nodes that were looked at, latest first. -/
  seen : List String

/-- At first the dependencies of a node are pending. -/
def Collection.start (graph : Graph) (name : String) : Collection := ⟨graph.next name, []⟩

/-- A step of a collection, which looks at one of the pending names. There is none for a name
that is new and no node. -/
inductive Looks (graph : Graph) : Collection → Collection → Prop
  /-- A name that was seen before is dropped. -/
  | again {before after seen : List String} {name : String} (old : name ∈ seen) :
      Looks graph ⟨before ++ name :: after, seen⟩ ⟨before ++ after, seen⟩
  /-- A new node is seen, and its dependencies take its place. -/
  | first {before after seen dependencies : List String} {name : String} (new : name ∉ seen)
      (node : graph.find? name = some dependencies) :
      Looks graph ⟨before ++ name :: after, seen⟩
        ⟨before ++ dependencies ++ after, name :: seen⟩

/-- The first of the pending names may be dropped if it was seen before. -/
theorem Looks.again_head {graph : Graph} {name : String} {seen : List String} (old : name ∈ seen)
    (rest : List String) : graph.Looks ⟨name :: rest, seen⟩ ⟨rest, seen⟩ :=
  @Looks.again graph [] rest seen name old

/-- The first of the pending names may be looked at if it is new. -/
theorem Looks.first_head {graph : Graph} {name : String} {seen dependencies : List String}
    (new : name ∉ seen) (node : graph.find? name = some dependencies) (rest : List String) :
    graph.Looks ⟨name :: rest, seen⟩ ⟨dependencies ++ rest, name :: seen⟩ :=
  @Looks.first graph [] rest seen dependencies name new node

/-! ## Termination -/

/-- Collections, by how many nodes are unseen and then by how many names are pending. -/
abbrev Collection.Before (graph : Graph) : Collection → Collection → Prop :=
  InvImage (Prod.Lex (· < ·) (· < ·)) fun state => (graph.unseen state.seen, state.pending.length)

/-- A step leaves fewer nodes unseen, or as many and fewer names pending. -/
theorem Looks.before {state later : Collection} (looks : graph.Looks state later) :
    later.Before graph state := by
  cases looks with
  | again old =>
    apply Prod.Lex.right
    simp
  | @first before after seen dependencies name new node =>
    have inside : name ∈ graph.keys := by
      apply (OrderedMap.contains_iff graph name).mp
      simp [OrderedMap.contains, node]
    exact Prod.Lex.left _ _ (graph.unseen_cons_lt seen name inside new)

/-- No collection goes on forever. -/
theorem no_endless_collection (graph : Graph) :
    ¬ ∃ states : Nat → Collection, ∀ n, graph.Looks (states n) (states (n + 1)) := by
  rintro ⟨states, looks⟩
  have wellFounded : WellFounded (Collection.Before graph) :=
    InvImage.wf _ (Prod.lex Nat.lt_wfRel Nat.lt_wfRel).wf
  exact (wellFounded_iff_isEmpty_descending_chain.mp wellFounded).false
    ⟨states, fun n => (looks n).before⟩

/-! ## What is seen in the end -/

/-- A collection has met the names that it has seen and those that are pending. -/
def Collection.Meets (state : Collection) (name : String) : Prop :=
  name ∈ state.seen ∨ name ∈ state.pending

/-- What a collection of the dependencies of a node has met at any time. -/
structure Collecting (graph : Graph) (name : String) (state : Collection) : Prop where
  /-- All of it is reached from the node. -/
  reached : ∀ other, state.Meets other → graph.Reaches name other
  /-- The direct dependencies of the node are among it. -/
  begun : ∀ other, graph.Edge name other → state.Meets other
  /-- So are the dependencies of everything that was seen. -/
  followed : ∀ other ∈ state.seen, ∀ further, graph.Edge other further → state.Meets further
  /-- Nothing was seen twice. -/
  distinct : state.seen.Nodup

/-- What was met stays so. -/
theorem Looks.meets {state later : Collection} (looks : graph.Looks state later) {name : String}
    (met : state.Meets name) : later.Meets name := by
  cases looks with
  | @again before after seen looked old =>
    rcases met with there | there
    · exact Or.inl there
    · rcases List.mem_append.mp there with earlier | here
      · exact Or.inr (List.mem_append_left _ earlier)
      · rcases List.mem_cons.mp here with rfl | behind
        · exact Or.inl old
        · exact Or.inr (List.mem_append_right _ behind)
  | @first before after seen dependencies looked new node =>
    rcases met with there | there
    · exact Or.inl (List.mem_cons_of_mem _ there)
    · rcases List.mem_append.mp there with earlier | here
      · exact Or.inr (List.mem_append_left _ (List.mem_append_left _ earlier))
      · rcases List.mem_cons.mp here with rfl | behind
        · exact Or.inl List.mem_cons_self
        · exact Or.inr (List.mem_append_right _ behind)

/-- At first the direct dependencies were met. -/
theorem collecting_start (graph : Graph) (name : String) :
    graph.Collecting name (Collection.start graph name) where
  reached := by
    rintro other (there | edge)
    · cases there
    · exact .single edge
  begun := fun _ edge => Or.inr edge
  followed := by
    intro other there
    cases there
  distinct := List.nodup_nil

/-- A step keeps all that was met reached, and meets the dependencies of what it sees. -/
theorem Looks.collecting {state later : Collection} (looks : graph.Looks state later)
    {name : String} (collecting : graph.Collecting name state) : graph.Collecting name later := by
  have begun : ∀ other, graph.Edge name other → later.Meets other :=
    fun other edge => looks.meets (collecting.begun other edge)
  have followed : ∀ other ∈ state.seen, ∀ further, graph.Edge other further →
      later.Meets further :=
    fun other there further edge => looks.meets (collecting.followed other there further edge)
  cases looks with
  | @again before after seen looked old =>
    refine ⟨?_, begun, followed, collecting.distinct⟩
    rintro other (there | there)
    · exact collecting.reached other (Or.inl there)
    · apply collecting.reached other
      rcases List.mem_append.mp there with earlier | behind
      · exact Or.inr (List.mem_append_left _ earlier)
      · exact Or.inr (List.mem_append_right _ (List.mem_cons_of_mem _ behind))
  | @first before after seen dependencies looked new node =>
    have edges : graph.next looked = dependencies := by rw [next, node, Option.getD_some]
    have here : graph.Reaches name looked :=
      collecting.reached looked (Or.inr (List.mem_append_right _ List.mem_cons_self))
    refine ⟨?_, begun, ?_, List.nodup_cons.mpr ⟨new, collecting.distinct⟩⟩
    · rintro other (there | there)
      · rcases List.mem_cons.mp there with rfl | earlier
        · exact here
        · exact collecting.reached other (Or.inl earlier)
      · rcases List.mem_append.mp there with among | behind
        · rcases List.mem_append.mp among with earlier | dependency
          · exact collecting.reached other (Or.inr (List.mem_append_left _ earlier))
          · have edge : graph.Edge looked other := by
              rw [Edge, edges]
              exact dependency
            exact .tail here edge
        · exact collecting.reached other
            (Or.inr (List.mem_append_right _ (List.mem_cons_of_mem _ behind)))
    · intro other there further edge
      rcases List.mem_cons.mp there with rfl | earlier
      · rw [Edge, edges] at edge
        exact Or.inr (List.mem_append_left _ (List.mem_append_right _ edge))
      · exact followed other earlier further edge

/-- A run of steps from the direct dependencies of a node. -/
theorem collecting_run {name : String} {state : Collection}
    (run : Relation.ReflTransGen graph.Looks (Collection.start graph name) state) :
    graph.Collecting name state := by
  induction run with
  | refl => exact graph.collecting_start name
  | tail _ looks inductionHypothesis => exact looks.collecting inductionHypothesis

/-- Once nothing is pending, exactly the reached nodes were seen. -/
theorem Collecting.mem_seen_iff {name : String} {state : Collection}
    (collecting : graph.Collecting name state) (finished : state.pending = []) (other : String) :
    other ∈ state.seen ↔ graph.Reaches name other := by
  have seen : ∀ met, state.Meets met → met ∈ state.seen := by
    rintro met (there | there)
    · exact there
    · rw [finished] at there
      cases there
  constructor
  · exact fun there => collecting.reached other (Or.inl there)
  · intro reached
    induction reached with
    | single edge => exact seen _ (collecting.begun _ edge)
    | tail _ edge earlier => exact seen _ (collecting.followed _ earlier _ edge)

/-- In a closed graph a collection can go on as long as anything is pending. -/
theorem Collecting.exists_looks {name : String} {state : Collection}
    (collecting : graph.Collecting name state) (closed : graph.Closed)
    (some : state.pending ≠ []) : ∃ later, graph.Looks state later := by
  rcases state with ⟨pending, seen⟩
  cases pending with
  | nil => exact absurd rfl some
  | cons first rest =>
    by_cases old : first ∈ seen
    · exact ⟨_, .again_head old rest⟩
    · -- What is reached is a dependency of something, and so a node.
      have reached : graph.Reaches name first :=
        collecting.reached first (Or.inr List.mem_cons_self)
      obtain ⟨last, _, edge⟩ := Relation.TransGen.tail'_iff.mp reached
      have inside := closed last first edge
      obtain ⟨dependencies, node⟩ : ∃ dependencies, graph.find? first = Option.some dependencies :=
        Option.isSome_iff_exists.mp ((OrderedMap.contains_iff _ _).mpr inside)
      exact ⟨_, .first_head old node rest⟩

/-- Looking at the first of the pending names each time is a collection. -/
theorem looks_collect (closed : graph.Closed) (pending seen : List String)
    (nodes : ∀ name ∈ pending, name ∈ graph.keys) :
    Relation.ReflTransGen graph.Looks ⟨pending, seen⟩ ⟨[], graph.collect pending seen⟩ := by
  fun_induction collect graph pending seen with
  | case1 seen => exact .refl
  | case2 seen name rest old inductionHypothesis =>
    have later := inductionHypothesis fun other there => nodes other (List.mem_cons_of_mem _ there)
    exact .head (.again_head old rest) later
  | case3 seen name rest new inside inductionHypothesis =>
    obtain ⟨dependencies, node⟩ : ∃ dependencies, graph.find? name = some dependencies :=
      Option.isSome_iff_exists.mp ((OrderedMap.contains_iff _ _).mpr inside)
    have edges : graph.next name = dependencies := by rw [next, node, Option.getD_some]
    have later := inductionHypothesis fun other there => by
      rcases List.mem_append.mp there with edge | behind
      · exact closed name other edge
      · exact nodes other (List.mem_cons_of_mem _ behind)
    rw [edges] at later ⊢
    exact .head (.first_head new node rest) later
  | case4 seen name rest new foreign inductionHypothesis =>
    exact absurd (nodes name List.mem_cons_self) foreign

/-- The ancestors of a node are what a collection of its dependencies has seen in the end. -/
theorem looks_ancestors (closed : graph.Closed) (name : String) :
    Relation.ReflTransGen graph.Looks (Collection.start graph name)
      ⟨[], graph.ancestors name⟩ :=
  looks_collect closed _ [] fun other edge => closed name other edge

end Jobflow.Flow.Graph
