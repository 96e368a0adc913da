import Jobflow.Proofs.Status.Reply

/-!
# From outcomes to executions

A status query goes from flows to the ids of their latest executions, turns the ids back
into flows, and goes from ids to the states of executions, which it files under the flows
again. Both batches give their outcomes in any order, some of them faults.

What is filed under a flow depends on the outcomes of its own two requests alone, as long as
no id belongs to two flows.
-/

namespace Jobflow.Status

open Session (Outcome)

/-- A search with only one possible result finds it. -/
theorem find?_eq_some_of_unique {α : Type} (items : List α) (test : α → Bool) (item : α)
    (member : item ∈ items) (passes : test item = true)
    (unique : ∀ other ∈ items, test other = true → other = item) :
    items.find? test = some item := by
  cases found : items.find? test with
  | none => exact absurd passes (List.find?_eq_none.mp found item member)
  | some other =>
    rw [unique other (List.mem_of_find?_eq_some found) (List.find?_some found)]

/-- Keys and the documents that they were answered with. -/
def documents (outcomes : List Outcome) : List (Value × Value) :=
  outcomes.filterMap fun outcome =>
    match outcome.2 with
    | .ok document => some (outcome.1, document)
    | .error _ => none

/-- A document belongs to a key if it is the outcome of the key. -/
theorem mem_documents_iff (outcomes : List Outcome) (key document : Value) :
    (key, document) ∈ documents outcomes ↔ (key, .ok document) ∈ outcomes := by
  rw [documents, List.mem_filterMap]
  constructor
  · rintro ⟨⟨other, result⟩, member, found⟩
    cases result with
    | ok found' =>
      obtain ⟨rfl, rfl⟩ := Prod.mk.inj (Option.some.inj found)
      exact member
    | error fault => cases found
  · intro member
    exact ⟨_, member, rfl⟩

/-- Keys keep their order. -/
theorem keys_documents (outcomes : List Outcome) :
    ((documents outcomes).map Prod.fst).Sublist (outcomes.map Prod.fst) := by
  induction outcomes with
  | nil => exact .slnil
  | cons outcome rest inductionHypothesis =>
    obtain ⟨key, result⟩ := outcome
    cases result with
    | ok document => exact inductionHypothesis.cons_cons key
    | error fault => exact inductionHypothesis.cons key

/-- Outcomes under distinct keys are the answers of a function. -/
theorem exists_answers (outcomes : List Outcome) (distinct : (outcomes.map Prod.fst).Nodup) :
    ∃ answers : Value → Except Fault Value, ∀ key result,
      (key, result) ∈ outcomes ↔ key ∈ outcomes.map Prod.fst ∧ result = answers key := by
  have each (key : Value) : ∃ answer, ∀ result,
      (key, result) ∈ outcomes ↔ key ∈ outcomes.map Prod.fst ∧ result = answer := by
    by_cases member : key ∈ outcomes.map Prod.fst
    · obtain ⟨⟨_, answer⟩, inside, rfl⟩ := List.mem_map.mp member
      refine ⟨answer, fun result => ⟨fun other => ⟨member, ?_⟩, ?_⟩⟩
      · exact (Prod.mk.inj (List.inj_on_of_nodup_map distinct other inside rfl)).2
      · rintro ⟨_, rfl⟩
        exact inside
    · refine ⟨.error (.mishap .missingKey), fun result => ⟨?_, fun both => absurd both.1 member⟩⟩
      intro inside
      exact absurd (List.mem_map_of_mem inside) member
  exact ⟨fun key => (each key).choose, fun key => (each key).choose_spec⟩

/-! ## The latest executions -/

/-- The ids of the latest executions by flow. -/
def idsOf (outcomes : List Outcome) : List (Value × Value) :=
  (documents outcomes).map fun (flow, document) => (flow, latestOf document)

/-- What is logged about requests that failed. -/
def failures (what : String) (outcomes : List Outcome) : Log :=
  outcomes.filterMap fun outcome =>
    match outcome.2 with
    | .ok _ => none
    | .error fault => some (failureEntry what outcome.1 fault)

/-- A request that was answered is no failure. -/
theorem failures_cons_ok (what : String) (key document : Value) (rest : List Outcome) :
    failures what ((key, .ok document) :: rest) = failures what rest := rfl

/-- A request that failed is a failure. -/
theorem failures_cons_error (what : String) (key : Value) (fault : Fault) (rest : List Outcome) :
    failures what ((key, .error fault) :: rest) =
      [failureEntry what key fault] ++ failures what rest := rfl

/-- The ids are read from listings, and the failures are logged. -/
theorem writes_latestIds (outcomes : List Outcome)
    (listings : ∀ flow document, (flow, .ok document) ∈ outcomes → IsListing document) :
    (latestIds outcomes).Writes (idsOf outcomes) (failures "executions of flow" outcomes) := by
  induction outcomes with
  | nil => exact Logged.writes_pure []
  | cons outcome rest inductionHypothesis =>
    have later := inductionHypothesis fun flow document member =>
      listings flow document (List.mem_cons_of_mem _ member)
    obtain ⟨flow, result⟩ := outcome
    cases result with
    | ok document =>
      have id := Logged.writes_ofMishap
        (latestId_eq document (listings flow document List.mem_cons_self))
      rw [latestIds, failures_cons_ok, ← List.nil_append (failures _ rest),
        ← List.append_nil (failures _ rest)]
      exact Logged.writes_bind id (Logged.writes_bind later (Logged.writes_pure _))
    | error fault =>
      rw [latestIds, failures_cons_error]
      exact Logged.writes_bind (Logged.writes_log _) later

/-- A new key is put at the end. -/
theorem put_new (key value : Value) (entries : List (Value × Value))
    (new : ∀ entry ∈ entries, key.same entry.1 = false) :
    put key value entries = entries ++ [(key, value)] := by
  induction entries with
  | nil => rfl
  | cons entry rest inductionHypothesis =>
    have first := new entry List.mem_cons_self
    rw [put, first, if_neg (by simp),
      inductionHypothesis fun other member => new other (List.mem_cons_of_mem _ member)]
    rfl

/-- Entries under a key other than nothing. -/
def present (entries : List (Value × Value)) : List (Value × Value) :=
  entries.filter fun entry => !entry.1.same .null

/-- An entry is present unless its key is nothing. -/
theorem present_cons (entry : Value × Value) (rest : List (Value × Value)) :
    present (entry :: rest) =
      if entry.1.same .null = true then present rest else entry :: present rest := by
  rw [present, List.filter_cons]
  cases entry.1.same .null <;> rfl

/-- What is put under nothing is not present. -/
theorem present_put_null (value : Value) (entries : List (Value × Value)) :
    present (put .null value entries) = present entries := by
  induction entries with
  | nil => rfl
  | cons entry rest inductionHypothesis =>
    obtain ⟨other, old⟩ := entry
    rw [put]
    split
    · rename_i met
      have null : other = .null := (Value.null_same_iff other).mp met
      subst null
      rfl
    · rw [present_cons, present_cons, inductionHypothesis]

/-- The flows by the ids of their latest executions. -/
def flowsOf (ids : List (Value × Value)) : List (Value × Value) := present (ids.map Prod.swap)

/-- Ids of which none belongs to two flows. -/
structure Apart (ids : List (Value × Value)) : Prop where
  /-- Each flow has one id. -/
  nodup : (ids.map Prod.fst).Nodup
  /-- Ids can be keys. -/
  keyable : ∀ entry ∈ ids, entry.2.isKey = true
  /-- Ids are found again. -/
  equal : ∀ entry ∈ ids, entry.2.same entry.2 = true
  /-- The ids of different flows are different, unless there is no execution. -/
  apart : ∀ entry ∈ ids, ∀ other ∈ ids, entry.1 ≠ other.1 → entry.2 ≠ .null →
    entry.2.same other.2 = false

/-- Ids that are apart are apart without the first one. -/
theorem Apart.tail {entry : Value × Value} {rest : List (Value × Value)}
    (apart : Apart (entry :: rest)) : Apart rest where
  nodup := (List.nodup_cons.mp apart.nodup).2
  keyable other member := apart.keyable other (List.mem_cons_of_mem _ member)
  equal other member := apart.equal other (List.mem_cons_of_mem _ member)
  apart one there other member :=
    apart.apart one (List.mem_cons_of_mem _ there) other (List.mem_cons_of_mem _ member)

/-- Putting flows under ids one after the other keeps all that are present. -/
theorem present_foldl_put (ids found : List (Value × Value)) (apart : Apart ids)
    (fresh : ∀ entry ∈ ids, entry.2 ≠ .null → ∀ old ∈ present found, entry.2.same old.1 = false) :
    present (ids.foldl (fun found (flow, id) => put id flow found) found) =
      present found ++ flowsOf ids := by
  induction ids generalizing found with
  | nil => simp [flowsOf, present]
  | cons entry rest inductionHypothesis =>
    obtain ⟨flow, id⟩ := entry
    rw [List.foldl_cons, flowsOf, List.map_cons, present_cons, ← flowsOf]
    by_cases null : id = .null
    · subst null
      rw [inductionHypothesis _ apart.tail, present_put_null]
      · rfl
      · intro other member some
        rw [present_put_null]
        exact fresh other (List.mem_cons_of_mem _ member) some
    · have some : ¬ id.same .null = true := fun same => null ((Value.same_null_iff id).mp same)
      have new : ∀ old ∈ found, id.same old.1 = false := by
        intro old member
        by_cases empty : old.1 = .null
        · rw [empty]
          exact Bool.eq_false_iff.mpr some
        · apply fresh (flow, id) List.mem_cons_self null
          rw [present, List.mem_filter]
          refine ⟨member, ?_⟩
          have there : old.1.same .null = false :=
            Bool.eq_false_iff.mpr fun same => empty ((Value.same_null_iff old.1).mp same)
          rw [there]
          rfl
      have grown : present (found ++ [(id, flow)]) = present found ++ [(id, flow)] := by
        rw [present, List.filter_append, ← present, List.filter_cons, Bool.eq_false_iff.mpr some]
        rfl
      show present (rest.foldl (fun found (flow, id) => put id flow found) (put id flow found)) = _
      rw [put_new id flow found new, inductionHypothesis _ apart.tail, grown, List.append_assoc,
        Prod.fst_swap, if_neg some]
      · rfl
      · intro other member otherSome old there
        rw [grown] at there
        rcases List.mem_append.mp there with before | here
        · exact fresh other (List.mem_cons_of_mem _ member) otherSome old before
        · rw [List.mem_singleton.mp here]
          have different : other.1 ≠ flow := by
            intro same
            have inside : other.1 ∈ rest.map Prod.fst := List.mem_map_of_mem member
            exact (List.nodup_cons.mp apart.nodup).1 (same ▸ inside)
          exact apart.apart other (List.mem_cons_of_mem _ member) (flow, id) List.mem_cons_self
            different otherSome

/-- Turning ids that are apart into flows loses none. -/
theorem flowsById_eq (ids : List (Value × Value)) (apart : Apart ids) :
    flowsById ids = .ok (flowsOf ids) := by
  have all : (ids.all fun entry => entry.2.isKey) = true := List.all_eq_true.mpr apart.keyable
  rw [flowsById, if_pos all]
  exact congrArg Except.ok (present_foldl_put ids [] apart (by simp [present]))

/-- The flows by id are those whose latest execution has the id. -/
theorem mem_flowsOf_iff (ids : List (Value × Value)) (id flow : Value) :
    (id, flow) ∈ flowsOf ids ↔ (flow, id) ∈ ids ∧ id ≠ .null := by
  rw [flowsOf, present, List.mem_filter]
  constructor
  · rintro ⟨member, some⟩
    obtain ⟨entry, inside, same⟩ := List.mem_map.mp member
    refine ⟨?_, ?_⟩
    · rw [← Prod.swap_swap entry, same] at inside
      exact inside
    · rintro rfl
      simp [Value.same] at some
  · rintro ⟨member, some⟩
    refine ⟨List.mem_map.mpr ⟨_, member, rfl⟩, ?_⟩
    have there : id.same .null = false :=
      Bool.eq_false_iff.mpr fun same => some ((Value.same_null_iff id).mp same)
    rw [there]
    rfl

/-- No two of the ids that are turned into flows are equal. -/
theorem pairwise_flowsOf (ids : List (Value × Value)) (apart : Apart ids) :
    ((flowsOf ids).map Prod.fst).Pairwise fun earlier later => later.same earlier = false := by
  induction ids with
  | nil => exact .nil
  | cons entry rest inductionHypothesis =>
    obtain ⟨flow, id⟩ := entry
    have later := inductionHypothesis apart.tail
    rw [flowsOf, List.map_cons, present_cons, ← flowsOf]
    split
    · exact later
    · rw [List.map_cons, List.pairwise_cons]
      refine ⟨?_, later⟩
      intro other member
      obtain ⟨⟨otherId, rival⟩, inside, rfl⟩ := List.mem_map.mp member
      obtain ⟨owned, some⟩ := (mem_flowsOf_iff rest otherId rival).mp inside
      have different : rival ≠ flow := by
        intro same
        have there : rival ∈ rest.map Prod.fst := List.mem_map_of_mem owned
        exact (List.nodup_cons.mp apart.nodup).1 (same ▸ there)
      exact apart.apart _ (List.mem_cons_of_mem _ owned) _ List.mem_cons_self different some

/-- The ids that are turned into flows are distinct. -/
theorem nodup_flowsOf (ids : List (Value × Value)) (apart : Apart ids) :
    ((flowsOf ids).map Prod.fst).Nodup := by
  refine (pairwise_flowsOf ids apart).imp_of_mem ?_
  rintro id other member _ unequal rfl
  obtain ⟨⟨_, flow⟩, inside, rfl⟩ := List.mem_map.mp member
  have owned := ((mem_flowsOf_iff ids _ flow).mp inside).1
  exact Bool.false_ne_true (unequal.symm.trans (apart.equal _ owned))

/-- Two ids of one flow are one id. -/
theorem Apart.id_unique {ids : List (Value × Value)} (apart : Apart ids) {flow id other : Value}
    (one : (flow, id) ∈ ids) (two : (flow, other) ∈ ids) : id = other :=
  (Prod.mk.inj (List.inj_on_of_nodup_map apart.nodup one two rfl)).2

/-- The flow of an id is found by the id. -/
theorem flowOf_eq (ids : List (Value × Value)) (apart : Apart ids) (flow id : Value)
    (member : (flow, id) ∈ ids) (some : id ≠ .null) : flowOf (flowsOf ids) id = .ok flow := by
  have found : (flowsOf ids).find? (fun entry => id.same entry.1) = Option.some (id, flow) := by
    apply find?_eq_some_of_unique _ _ _ ((mem_flowsOf_iff ids id flow).mpr ⟨member, some⟩)
    · exact apart.equal _ member
    · rintro ⟨other, rival⟩ there same
      obtain ⟨inside, _⟩ := (mem_flowsOf_iff ids other rival).mp there
      have own : flow = rival := by
        by_contra different
        have apartIds := apart.apart _ member _ inside different some
        exact Bool.false_ne_true (apartIds.symm.trans same)
      subst own
      rw [apart.id_unique inside member]
  rw [flowOf, found]

/-! ## The states of executions -/

/-- The flow of an id, nothing for an id that is none of the given ones. -/
def flowFor (ids : List (Value × Value)) (id : Value) : Value :=
  (flowOf (flowsOf ids) id).toOption.getD .null

/-- The executions by flow. -/
def executionsIn (ids : List (Value × Value)) (outcomes : List Outcome) : Executions :=
  (documents outcomes).map fun (id, document) => (flowFor ids id, executionOf document)

/-- The executions are read from states, and the failures are logged. -/
theorem writes_executionsOf (ids : List (Value × Value)) (outcomes : List Outcome)
    (states : ∀ id document, (id, .ok document) ∈ outcomes → IsState document)
    (known : ∀ outcome ∈ outcomes, ∃ flow, flowOf (flowsOf ids) outcome.1 = .ok flow) :
    (executionsOf (flowsOf ids) outcomes).Writes (executionsIn ids outcomes)
      (failures "status of execution" outcomes) := by
  induction outcomes with
  | nil => exact Logged.writes_pure []
  | cons outcome rest inductionHypothesis =>
    have later := inductionHypothesis
      (fun id document member => states id document (List.mem_cons_of_mem _ member))
      fun other member => known other (List.mem_cons_of_mem _ member)
    obtain ⟨flow, found⟩ := known outcome List.mem_cons_self
    obtain ⟨id, result⟩ := outcome
    cases result with
    | ok document =>
      have execution := Logged.writes_ofMishap
        (ofDocument_executionOf document (states id document List.mem_cons_self))
      have whole : executionsIn ids ((id, .ok document) :: rest) =
          (flow, executionOf document) :: executionsIn ids rest := by
        have filed : flowFor ids id = flow := by
          rw [flowFor, found]
          rfl
        rw [← filed]
        rfl
      rw [executionsOf, whole, failures_cons_ok, ← List.nil_append (failures _ rest),
        ← List.nil_append (failures _ rest), ← List.append_nil (failures _ rest)]
      exact Logged.writes_bind execution (Logged.writes_bind (Logged.writes_ofMishap found)
        (Logged.writes_bind later (Logged.writes_pure _)))
    | error fault =>
      rw [executionsOf, failures_cons_error]
      exact Logged.writes_bind (Logged.writes_log _) later

/-- The state of the latest execution of a flow, by the answers about the latest executions
of flows and about the states of executions. There is none for other flows, if either
request failed, and if the flow was never executed. -/
def stateOf (names : List String) (latest : String → Except Fault Value)
    (states : Value → Except Fault Value) (flow : String) : Option Value :=
  if flow ∈ names then
    match latest flow with
    | .ok listing =>
      if (latestOf listing).same .null then none else (states (latestOf listing)).toOption
    | .error _ => none
  else none

/-- The latest execution of a flow has a state if both requests about it were answered. -/
theorem stateOf_eq_some_iff (names : List String) (latest : String → Except Fault Value)
    (states : Value → Except Fault Value) (flow : String) (document : Value) :
    stateOf names latest states flow = some document ↔
      flow ∈ names ∧ ∃ listing, latest flow = .ok listing ∧ latestOf listing ≠ .null ∧
        states (latestOf listing) = .ok document := by
  rw [stateOf]
  by_cases known : flow ∈ names
  · rw [if_pos known]
    cases answer : latest flow with
    | error fault => simp
    | ok listing =>
      by_cases null : latestOf listing = .null
      · simp [null, Value.same]
      · have some : ¬ (latestOf listing).same .null = true := fun same =>
          null ((Value.same_null_iff _).mp same)
        simp only [if_neg some]
        cases state : states (latestOf listing) with
        | error fault => simp [Except.toOption, state]
        | ok found => simp [Except.toOption, known, null, state]
  · simp [known]

/-- Outcomes are the answers to the two requests about each flow. -/
structure Answer (names : List String) (latest : String → Except Fault Value)
    (states : Value → Except Fault Value) (first second : List Outcome) : Prop where
  /-- The first outcomes are about the flows. -/
  latest : ∀ flow result, (flow, result) ∈ first ↔
    ∃ name ∈ names, flow = .text name ∧ result = latest name
  /-- The second outcomes are about their latest executions. -/
  states : ∀ id result, (id, result) ∈ second ↔
    (∃ flow, (flow, id) ∈ idsOf first) ∧ id ≠ .null ∧ result = states id

section

variable {names : List String} {latest : String → Except Fault Value}
  {states : Value → Except Fault Value} {first second : List Outcome}

/-- The ids are those in the listings of the flows. -/
theorem Answer.mem_idsOf_iff (answer : Answer names latest states first second)
    (flow id : Value) :
    (flow, id) ∈ idsOf first ↔ ∃ name ∈ names, flow = .text name ∧
      ∃ listing, latest name = .ok listing ∧ latestOf listing = id := by
  rw [idsOf, List.mem_map]
  constructor
  · rintro ⟨⟨other, listing⟩, member, same⟩
    obtain ⟨rfl, rfl⟩ := Prod.mk.inj same
    obtain ⟨name, known, named, result⟩ :=
      (answer.latest _ _).mp ((mem_documents_iff _ _ _).mp member)
    exact ⟨name, known, named, listing, result.symm, rfl⟩
  · rintro ⟨name, known, rfl, listing, result, rfl⟩
    have member := (answer.latest _ _).mpr ⟨name, known, rfl, result.symm⟩
    exact ⟨_, (mem_documents_iff _ _ _).mpr member, rfl⟩

/-- An execution is filed under a flow if it is in the state of the flow's latest one. -/
theorem Answer.mem_executionsIn_iff (answer : Answer names latest states first second)
    (apart : Apart (idsOf first)) (flow : String) (execution : Execution) :
    (.text flow, execution) ∈ executionsIn (idsOf first) second ↔
      ∃ document, stateOf names latest states flow = some document ∧
        execution = executionOf document := by
  have filed (flow id : Value) (member : (flow, id) ∈ idsOf first) (some : id ≠ .null) :
      flowFor (idsOf first) id = flow := by
    rw [flowFor, flowOf_eq _ apart flow id member some]
    rfl
  rw [executionsIn, List.mem_map]
  constructor
  · rintro ⟨⟨id, document⟩, member, same⟩
    obtain ⟨named, rfl⟩ := Prod.mk.inj same
    obtain ⟨⟨owner, owned⟩, some, state⟩ :=
      (answer.states _ _).mp ((mem_documents_iff _ _ _).mp member)
    rw [filed owner id owned some] at named
    subst named
    obtain ⟨name, known, ownerName, listing, listed, rfl⟩ := (answer.mem_idsOf_iff _ _).mp owned
    obtain rfl := Value.text.inj ownerName
    exact ⟨document, (stateOf_eq_some_iff _ _ _ _ _).mpr
      ⟨known, listing, listed, some, state.symm⟩, rfl⟩
  · rintro ⟨document, found, rfl⟩
    obtain ⟨known, listing, listed, some, state⟩ := (stateOf_eq_some_iff _ _ _ _ _).mp found
    have owned : (Value.text flow, latestOf listing) ∈ idsOf first :=
      (answer.mem_idsOf_iff _ _).mpr ⟨flow, known, rfl, listing, listed, rfl⟩
    refine ⟨(latestOf listing, document), ?_, ?_⟩
    · exact (mem_documents_iff _ _ _).mpr ((answer.states _ _).mpr ⟨⟨_, owned⟩, some, state.symm⟩)
    · exact congrArg (fun key => (key, executionOf document)) (filed _ _ owned some)

/-- Under each flow the execution in the state of its latest one is found, if any. -/
theorem Answer.of_executionsIn (answer : Answer names latest states first second)
    (apart : Apart (idsOf first)) (flow : String) :
    (executionsIn (idsOf first) second).of (.text flow) =
      .ok ((stateOf names latest states flow).map executionOf) := by
  have keyable : (Value.text flow).isKey = true := rfl
  rw [Executions.of, if_pos keyable]
  cases found : stateOf names latest states flow with
  | none =>
    have absent : (executionsIn (idsOf first) second).find?
        (fun entry => (Value.text flow).same entry.1) = none := by
      rw [List.find?_eq_none]
      rintro ⟨key, execution⟩ member same
      rw [(Value.text_same_iff flow key).mp same] at member
      obtain ⟨document, state, _⟩ := (answer.mem_executionsIn_iff apart _ _).mp member
      rw [found] at state
      cases state
    rw [absent]
    rfl
  | some document =>
    have there : (executionsIn (idsOf first) second).find?
        (fun entry => (Value.text flow).same entry.1) =
          some (.text flow, executionOf document) := by
      apply find?_eq_some_of_unique
      · exact (answer.mem_executionsIn_iff apart _ _).mpr ⟨document, found, rfl⟩
      · exact (Value.text_same_iff flow _).mpr rfl
      · rintro ⟨key, execution⟩ member same
        obtain rfl := (Value.text_same_iff flow key).mp same
        obtain ⟨other, state, rfl⟩ := (answer.mem_executionsIn_iff apart _ _).mp member
        rw [found] at state
        rw [Option.some.inj state]
    rw [there]
    rfl

end

end Jobflow.Status
