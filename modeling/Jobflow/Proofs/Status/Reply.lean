import Jobflow.Proofs.Status.Tally
import Jobflow.Proofs.Status.Time
import Jobflow.Status.Query

/-!
# Well-formed replies to status requests

What is expected of the documents that a server answers with: the listing of a flow's
executions, and the state of an execution with its nodes. Both may leave out most of what
they could say. What is read from a well-formed document is said here by looking up its
keys, and reading it succeeds with just that.
-/

namespace Jobflow.Status

/-- The value of a key in a document, nothing if it is missing. -/
def valueOf (document : Value) (key : String) : Value := (document.field? key).getD .null

/-- The time under a key in a document, unset if it is missing. -/
def timeOf (document : Value) (key : String) : Value := (document.field? key).getD unsetTime

/-- The items of a list under a key in a document. -/
def listOf (document : Value) (key : String) : List Value :=
  match valueOf document key with
  | .list _ items => items
  | _ => []

/-- A list under a key of a document, which may be missing. -/
def HasList (document : Value) (key : String) : Prop :=
  valueOf document key = .null ∨ ∃ label items, valueOf document key = .list label items

/-- The items of a list under a key are at hand. -/
theorem itemsOf_valueOf (document : Value) (key : String) (listed : HasList document key) :
    Execution.itemsOf (valueOf document key) = .ok (listOf document key) := by
  rw [listOf]
  rcases listed with missing | ⟨label, items, found⟩
  · rw [missing]
    rfl
  · rw [found]
    cases items <;> rfl

/-! ## Listings of executions -/

/-- The id of the latest execution in a listing, nothing if there is none. -/
def latestOf (document : Value) : Value :=
  match listOf document "executions" with
  | [] => .null
  | latest :: _ => valueOf latest "execId"

/-- The listing of a flow's executions: a list that may be missing, whose first item has an
id that can be looked up. -/
structure IsListing (document : Value) : Prop where
  /-- The executions are listed, or not there. -/
  listed : HasList document "executions"
  /-- The latest one has an id. -/
  named : ∀ latest ∈ (listOf document "executions").head?, (latest.field? "execId").isSome = true
  /-- The id can be a key. -/
  keyable : (latestOf document).isKey = true
  /-- The id is found again. -/
  equal : (latestOf document).same (latestOf document) = true

/-- The id of the latest execution is read from a listing. -/
theorem latestId_eq (document : Value) (listing : IsListing document) :
    latestId document = .ok (latestOf document) := by
  rcases listing.listed with missing | ⟨label, items, found⟩
  · have none : listOf document "executions" = [] := by rw [listOf, missing]
    simp only [valueOf] at missing
    simp [latestId, latestOf, missing, none, Value.truthy]
  · have listed : listOf document "executions" = items := by rw [listOf, found]
    have named := listing.named
    simp only [valueOf] at found
    cases items with
    | nil => simp [latestId, latestOf, found, listed, Value.truthy]
    | cons latest rest =>
      rw [listed] at named
      have present := named latest rfl
      simp only [latestId, latestOf, found, listed, Value.truthy]
      cases latest with
      | map _ entries =>
        obtain ⟨id, lookup⟩ := Option.isSome_iff_exists.mp present
        simp only [Value.field?] at lookup
        simp [entryIn, valueOf, Value.field?, lookup]
      | _ => simp [Value.field?] at present

/-! ## States of executions -/

/-- A node in the state of an execution. -/
structure IsNode (node : Value) : Prop where
  /-- A node is a mapping. -/
  mapping : node.isMap = true
  /-- The status can be counted. -/
  status : (valueOf node "status").isKey = true
  /-- The start is a time. -/
  started : IsTime (timeOf node "startTime")
  /-- The end is a time. -/
  ended : IsTime (timeOf node "endTime")

/-- The state of an execution. -/
structure IsState (document : Value) : Prop where
  /-- A state is a mapping. -/
  mapping : document.isMap = true
  /-- The nodes are listed, or not there. -/
  listed : HasList document "nodes"
  /-- The nodes are well formed. -/
  nodes : ∀ node ∈ listOf document "nodes", IsNode node
  /-- The submission is a time. -/
  submitted : IsTime (timeOf document "submitTime")
  /-- The start is a time. -/
  started : IsTime (timeOf document "startTime")
  /-- The end is a time. -/
  ended : IsTime (timeOf document "endTime")

/-- The state of the job of a node. -/
def jobOf (node : Value) : JobState where
  name := valueOf node "id"
  type := valueOf node "type"
  status := valueOf node "status"
  started := timeOf node "startTime"
  ended := timeOf node "endTime"

/-- The execution that a document is about. -/
def executionOf (document : Value) : Execution where
  flow :=
    if (valueOf document "flow").truthy then valueOf document "flow"
    else valueOf document "flowId"
  id := valueOf document "execid"
  status := valueOf document "status"
  submitted := timeOf document "submitTime"
  started := timeOf document "startTime"
  ended := timeOf document "endTime"
  jobs := (listOf document "nodes").map jobOf

/-- The state of a job is read from its node. -/
theorem ofDocument_jobOf (node : Value) (mapping : node.isMap = true) :
    JobState.ofDocument node = .ok (jobOf node) := by
  cases node with
  | map label entries => rfl
  | _ => simp [Value.isMap] at mapping

/-- The state of an execution is read from its document. -/
theorem ofDocument_executionOf (document : Value) (state : IsState document) :
    Execution.ofDocument document = .ok (executionOf document) := by
  have items := itemsOf_valueOf document "nodes" state.listed
  have jobs := mapM_eq_ok (listOf document "nodes") JobState.ofDocument jobOf
    fun node member => ofDocument_jobOf node (state.nodes node member).mapping
  have mapping := state.mapping
  cases document with
  | map label entries =>
    have nodes : entryOr entries "nodes" .null = valueOf (.map label entries) "nodes" := rfl
    rw [Execution.ofDocument, nodes, items]
    show (do
      let jobs ← (listOf (.map label entries) "nodes").mapM JobState.ofDocument
      return _) = _
    rw [jobs]
    rfl
  | _ => simp [Value.isMap] at mapping

end Jobflow.Status
