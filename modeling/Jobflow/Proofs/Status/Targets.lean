import Jobflow.Proofs.Names
import Jobflow.Proofs.Session.Call
import Jobflow.Proofs.Status.Reply
import Jobflow.Proofs.Value

/-!
# What a query is about

A query learns the flows of a project from a listing of the server, and reports on some of
them: those of a filter, those asked for by default, or all. From a well-formed listing and
well-formed options there always are such flows.
-/

namespace Jobflow.Status

/-- The listing of a project's flows: a list that may be missing, whose items have the names
of flows. -/
structure IsFlowList (document : Value) : Prop where
  /-- The flows are listed, or not there. -/
  listed : HasList document "flows"
  /-- Each has a name. -/
  named : ∀ flow ∈ listOf document "flows", ∃ name : String, flow.field? "flowId" = some (.text name)

/-- The name of a listed flow. -/
def nameOf? (flow : Value) : Option String := (valueOf flow "flowId").text?

/-- The names of the flows in a listing, sorted. -/
def flowsIn (document : Value) : List String :=
  Names.sorted ((listOf document "flows").filterMap nameOf?)

/-- The names of listed flows are read in order. -/
theorem mapM_entryIn (flows : List Value)
    (named : ∀ flow ∈ flows, ∃ name : String, flow.field? "flowId" = some (.text name)) :
    flows.mapM (entryIn "flowId") = .ok ((flows.filterMap nameOf?).map Value.text) := by
  induction flows with
  | nil => rfl
  | cons flow rest inductionHypothesis =>
    obtain ⟨name, found⟩ := named flow List.mem_cons_self
    have later := inductionHypothesis fun other member => named other (List.mem_cons_of_mem _ member)
    have first : entryIn "flowId" flow = .ok (.text name) := by
      cases flow with
      | map label entries =>
        simp only [Value.field?] at found
        rw [entryIn, found]
      | _ => simp [Value.field?] at found
    have kept : nameOf? flow = some name := by
      rw [nameOf?, valueOf, found]
      rfl
    rw [List.mapM_cons, first, later, List.filterMap_cons, kept]
    rfl

/-- The names in a listing are read. -/
theorem flowNames_eq (document : Value) (flowList : IsFlowList document) :
    flowNames document = .ok ((flowsIn document).map Value.text) := by
  obtain ⟨sorted, found, perm, increasing⟩ :=
    Value.exists_sorted?_texts ((listOf document "flows").filterMap nameOf?)
  have items := itemsOf_valueOf document "flows" flowList.listed
  have same : sorted = flowsIn document := Names.eq_sorted perm increasing
  rw [flowNames, ← valueOf, items]
  show ((listOf document "flows").mapM (entryIn "flowId") >>= fun names => _) = _
  rw [mapM_entryIn _ flowList.named]
  simp only [bind, Except.bind, found, same]

/-- The flows of a project are those in the listing that the server answers with. -/
theorem sortedFlows_apply (project document : Value) (start listed : Client)
    (answer : Session.flows project start = (.ok document, listed))
    (flowList : IsFlowList document) :
    sortedFlows project start = (.ok ((flowsIn document).map Value.text), listed) := by
  have asked : Call.mapFault (flowsFault start.session.url) (Session.flows project) start =
      (.ok document, listed) := by
    rw [Call.mapFault, answer]
    rfl
  rw [sortedFlows, Call.bind_of_ok _ (Call.session_apply start), Call.bind_of_ok _ asked,
    flowNames_eq document flowList, Call.act_ofMishap_ok]

/-! ## The flows to report on -/

/-- Options that ask for flows by name: the filter, if there is one, is a text or a list of
texts, and so are the flows to report on without one. -/
structure QueryOptions.Named (options : QueryOptions) : Prop where
  /-- The filter. -/
  filter : options.flowFilter = .null ∨ (∃ names : String, options.flowFilter = .text names) ∨
    ∃ label, ∃ names : List String, options.flowFilter = .list label (names.map .text)
  /-- The flows without a filter. -/
  defaults : options.defaultFlows = .null ∨
    ∃ label, ∃ names : List String, options.defaultFlows = .list label (names.map .text)

/-- The text of a filter by name is at hand. -/
theorem exists_filterText (options : QueryOptions) (named : options.Named)
    (asked : options.flowFilter.truthy = true) :
    ∃ text, filterText options.flowFilter = .ok text := by
  rcases named.filter with missing | ⟨names, found⟩ | ⟨label, names, found⟩
  · rw [missing] at asked
    cases asked
  · rw [found]
    exact ⟨names, rfl⟩
  · have items : Execution.itemsOf (.list label (names.map .text)) = .ok (names.map Value.text) := by
      cases names <;> rfl
    refine ⟨Text.join "," names, ?_⟩
    rw [found, filterText, items]
    · show ((List.mapM _ (names.map Value.text) : Except Mishap (List String)) >>= fun _ => _) = _
      rw [List.mapM_map, mapM_eq_ok names _ id, List.map_id]
      · rfl
      · exact fun name _ => rfl
    · intro name same
      cases same

/-- Options that ask for flows by name have flows to report on. -/
theorem exists_selectFlows (flows : List String) (options : QueryOptions)
    (named : options.Named) :
    ∃ targets : List String, selectFlows (flows.map .text) options.flowFilter
      options.defaultFlows = .ok (targets.map .text) := by
  have chosen (names : List String) : ∃ targets : List String,
      (if names.isEmpty then
        if options.defaultFlows.truthy then Execution.itemsOf options.defaultFlows
        else pure (flows.map Value.text)
      else pure (names.map Value.text)) = (.ok (targets.map .text) : Except Mishap _) := by
    split
    · split
      · rename_i asked
        rcases named.defaults with missing | ⟨label, targets, found⟩
        · rw [missing] at asked
          cases asked
        · refine ⟨targets, ?_⟩
          rw [found]
          cases targets <;> rfl
      · exact ⟨flows, rfl⟩
    · exact ⟨names, rfl⟩
  rw [selectFlows]
  split
  · rename_i asked
    obtain ⟨text, filter⟩ := exists_filterText options named asked
    rw [filter]
    exact chosen (Names.split text)
  · exact chosen []

end Jobflow.Status
