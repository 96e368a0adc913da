import Jobflow.Proofs.Session.Batch
import Jobflow.Proofs.Session.Frame
import Jobflow.Proofs.Status.Outcomes

/-!
# The two batches of a query

A query asks for the latest executions of some flows in one batch and for the states of
these executions in another one, each by a schedule of its own. If the server answers every
request with a well-formed document or with a fault that concerns that request alone, both
batches come to their answers, and each answer belongs to the flow or execution it is about.
Which client a request is sent by depends on the schedules; the server has to answer all
clients that the query can come to.
-/

namespace Jobflow.Status

open Session (Outcome Schedule)

/-- Ask for the latest execution of a flow. -/
def askLatest (project flow : Value) : Call Value :=
  Session.executions project flow (.int 0) (.int 1)

/-- Clients that a query can come to once the flows are listed. -/
inductive Later (project : Value) (start : Client) : Client → Prop
  /-- The client that listed the flows. -/
  | start : Later project start start
  /-- A client that asked for the latest execution of a flow. -/
  | asked (client : Client) (flow : String) (later : Later project start client) :
    Later project start (askLatest project (.text flow) client).2
  /-- A client that fetched the state of an execution. -/
  | fetched (client : Client) (id : Value) (later : Later project start client) :
    Later project start (Session.execution id client).2
  /-- A client that logged something. -/
  | logged (client : Client) (entries : Log) (later : Later project start client) :
    Later project start (client.logged entries)

/-- The session keeps its options, and the present stays. -/
theorem Later.fixed {project : Value} {start client : Client} (later : Later project start client) :
    client.fixed = start.fixed := by
  induction later with
  | start => rfl
  | asked client flow _ inductionHypothesis =>
    exact (loginFrame_fixed.within_executions _ _ _ _ client).trans inductionHypothesis
  | fetched client id _ inductionHypothesis =>
    exact (loginFrame_fixed.within_execution id client).trans inductionHypothesis
  | logged client entries _ inductionHypothesis => exact inductionHypothesis

/-- A request is answered with a well-formed document, or with a fault that is its result. -/
def Answers (wellFormed : Value → Prop) (result : Except Fault Value) : Prop :=
  match result with
  | .ok document => wellFormed document
  | .error fault => Session.isResult fault = true

/-- Answers are results of their requests. -/
theorem Answers.isAnswer {wellFormed : Value → Prop} {result : Except Fault Value}
    (answers : Answers wellFormed result) : Session.IsAnswer result := by
  intro fault failed
  rw [failed] at answers
  exact answers

/-- A server answers the requests about the executions of some flows. -/
structure Serves (project : Value) (names : List String) (start : Client) : Prop where
  /-- Requests for the latest executions are answered with listings. -/
  listings : ∀ client, Later project start client → ∀ name ∈ names,
    Answers IsListing (askLatest project (.text name) client).1
  /-- Requests for the states of executions are answered with states. -/
  states : ∀ client, Later project start client → ∀ id,
    Answers IsState (Session.execution id client).1
  /-- The latest executions of two flows are two executions. -/
  apart : ∀ name ∈ names, ∀ other ∈ names, name ≠ other →
    ∀ client, Later project start client → ∀ later, Later project start later →
    ∀ listing rival, (askLatest project (.text name) client).1 = .ok listing →
      (askLatest project (.text other) later).1 = .ok rival →
      latestOf listing ≠ .null → (latestOf listing).same (latestOf rival) = false

/-- The two batches of a query by some schedules, each of whose requests is answered. -/
structure Batches (first second : Schedule) (project : Value) (names : List String)
    (start : Client) where
  /-- The answers about the latest executions of flows. -/
  latest : String → Except Fault Value
  /-- The answers about the states of executions. -/
  states : Value → Except Fault Value
  /-- What the first batch comes to. -/
  outcomes : List Outcome
  /-- The client after it. -/
  fetched : Client
  /-- What is logged about it. -/
  entries : Log
  /-- What the second batch comes to. -/
  others : List Outcome
  /-- The client after it. -/
  ended : Client
  /-- The first batch asks for the latest execution of each flow. -/
  asked : Session.latestExecutionsIn first project (names.map .text) start = (.ok outcomes, fetched)
  /-- The ids of the latest executions are read from its answers. -/
  read : Call.act (Action.ofLogged (latestIds outcomes)) fetched =
    (.ok (idsOf outcomes), fetched.logged entries)
  /-- The second batch asks for the states of these executions. -/
  followed : Session.executionStatesIn second ((flowsOf (idsOf outcomes)).map Prod.fst)
    (fetched.logged entries) = (.ok others, ended)
  /-- Each flow is asked about once. -/
  distinct : (outcomes.map Prod.fst).Nodup
  /-- The outcomes of both are the answers. -/
  answer : Answer names latest states outcomes others
  /-- Each flow has the answer to its own request. -/
  ofFlow : ∀ name ∈ names, ∃ client, Later project start client ∧
    (askLatest project (.text name) client).1 = latest name
  /-- Each latest execution has the answer to its own request. -/
  ofExecution : ∀ flow id, (flow, id) ∈ idsOf outcomes → id ≠ .null →
    ∃ client, Later project start client ∧ (Session.execution id client).1 = states id
  /-- The client after both is one that the query comes to. -/
  later : Later project start ended

/-- A batch of answered requests gives each distinct key the answer to its own request. -/
theorem exists_batch_answers (ready : Client → Prop) (schedule : Schedule)
    (ask : Value → Call Value) (keys : List Value) (client : Client) (start : ready client)
    (keyable : ∀ key ∈ keys, key.isKey = true) (nodup : (Value.distinct keys).Nodup)
    (answering : Session.Answering ready ask keys) :
    ∃ (outcomes : List Outcome) (after : Client) (answers : Value → Except Fault Value),
      Session.batchIn schedule ask keys client = (.ok outcomes, after) ∧ ready after ∧
      (∀ key result, (key, result) ∈ outcomes ↔
        key ∈ Value.distinct keys ∧ result = answers key) ∧
      (∀ key ∈ Value.distinct keys, ∃ sender, ready sender ∧ (ask key sender).1 = answers key) ∧
      (outcomes.map Prod.fst).Nodup := by
  obtain ⟨outcomes, after, run, ready', perm, found⟩ :=
    Session.exists_batchIn_apply ready schedule ask keys client start keyable answering
  have distinct : (outcomes.map Prod.fst).Nodup := perm.nodup_iff.mpr nodup
  obtain ⟨answers, answered⟩ := exists_answers outcomes distinct
  have each (key : Value) (result : Except Fault Value) : (key, result) ∈ outcomes ↔
      key ∈ Value.distinct keys ∧ result = answers key := by
    rw [answered, perm.mem_iff]
  refine ⟨outcomes, after, answers, run, ready', each, ?_, distinct⟩
  intro key member
  exact found (key, answers key) ((each key (answers key)).mpr ⟨member, rfl⟩)

section

variable {project : Value} {names : List String} {start : Client}

/-- The requests for the latest executions of flows are answered. -/
theorem Serves.answering_latest (serves : Serves project names start)
    (workers : 0 < start.session.workers) :
    Session.Answering (Later project start) (askLatest project) (names.map .text) where
  asked key member client later := by
    obtain ⟨name, _, rfl⟩ := List.mem_map.mp member
    exact .asked client name later
  answered key member client later := by
    obtain ⟨name, known, rfl⟩ := List.mem_map.mp member
    exact (serves.listings client later name known).isAnswer
  logged client entries later := .logged client entries later
  workers client later := by
    rw [Client.workers_of_fixed later.fixed]
    exact workers

/-- The requests for the states of executions are answered. -/
theorem Serves.answering_states (serves : Serves project names start)
    (workers : 0 < start.session.workers) (ids : List Value) :
    Session.Answering (Later project start) Session.execution ids where
  asked key _ client later := .fetched client key later
  answered key _ client later := (serves.states client later key).isAnswer
  logged := (serves.answering_latest workers).logged
  workers := (serves.answering_latest workers).workers

/-- The first batch gives each flow the answer about its own latest execution. -/
theorem Serves.exists_latest (serves : Serves project names start)
    (workers : 0 < start.session.workers) (first : Schedule) :
    ∃ (outcomes : List Outcome) (fetched : Client) (latest : String → Except Fault Value),
      Session.latestExecutionsIn first project (names.map .text) start =
        (.ok outcomes, fetched) ∧ Later project start fetched ∧
      (∀ flow result, (flow, result) ∈ outcomes ↔
        ∃ name ∈ names, flow = .text name ∧ result = latest name) ∧
      (∀ name ∈ names, ∃ client, Later project start client ∧
        (askLatest project (.text name) client).1 = latest name) ∧
      (outcomes.map Prod.fst).Nodup := by
  obtain ⟨kept, distinct, nodup, members⟩ := Value.exists_distinct_texts names
  have known (flow : Value) : flow ∈ Value.distinct (names.map .text) ↔
      ∃ name ∈ names, flow = .text name := by
    rw [distinct, List.mem_map]
    simp only [members, eq_comm]
  have keyable : ∀ key ∈ names.map Value.text, key.isKey = true := by
    intro key member
    obtain ⟨name, _, rfl⟩ := List.mem_map.mp member
    rfl
  have distinctKeys : (Value.distinct (names.map .text)).Nodup := by
    rw [distinct]
    exact nodup.map fun _ _ => Value.text.inj
  obtain ⟨outcomes, fetched, answers, run, later, each, own, apart⟩ :=
    exists_batch_answers (Later project start) first (askLatest project) (names.map .text) start
      .start keyable distinctKeys (serves.answering_latest workers)
  refine ⟨outcomes, fetched, fun name => answers (.text name), run, later, ?_, ?_, apart⟩
  · intro flow result
    rw [each, known]
    constructor
    · rintro ⟨⟨name, member, rfl⟩, same⟩
      exact ⟨name, member, rfl, same⟩
    · rintro ⟨name, member, rfl, same⟩
      exact ⟨⟨name, member, rfl⟩, same⟩
  · intro name member
    exact own (.text name) ((known _).mpr ⟨name, member, rfl⟩)

section

variable {outcomes : List Outcome} {latest : String → Except Fault Value}

/-- The documents of the first batch are listings. -/
theorem Serves.isListing (serves : Serves project names start)
    (own : ∀ name ∈ names, ∃ client, Later project start client ∧
      (askLatest project (.text name) client).1 = latest name)
    (name : String) (member : name ∈ names) (listing : Value)
    (answer : latest name = .ok listing) : IsListing listing := by
  obtain ⟨client, later, asked⟩ := own name member
  have answers := serves.listings client later name member
  rw [asked, answer] at answers
  exact answers

/-- The ids of the latest executions are apart. -/
theorem Serves.apart_idsOf (serves : Serves project names start)
    (each : ∀ flow result, (flow, result) ∈ outcomes ↔
      ∃ name ∈ names, flow = .text name ∧ result = latest name)
    (own : ∀ name ∈ names, ∃ client, Later project start client ∧
      (askLatest project (.text name) client).1 = latest name)
    (distinct : (outcomes.map Prod.fst).Nodup) : Apart (idsOf outcomes) := by
  have source (entry : Value × Value) (member : entry ∈ idsOf outcomes) :
      ∃ name ∈ names, entry.1 = .text name ∧
        ∃ listing, latest name = .ok listing ∧ entry.2 = latestOf listing := by
    obtain ⟨⟨flow, listing⟩, inside, rfl⟩ := List.mem_map.mp member
    obtain ⟨name, known, named, result⟩ := (each _ _).mp ((mem_documents_iff _ _ _).mp inside)
    exact ⟨name, known, named, listing, result.symm, rfl⟩
  constructor
  · have flows : (idsOf outcomes).map Prod.fst = (documents outcomes).map Prod.fst := by
      rw [idsOf, List.map_map]
      rfl
    rw [flows]
    exact distinct.sublist (keys_documents outcomes)
  · intro entry member
    obtain ⟨name, known, _, listing, answer, same⟩ := source entry member
    rw [same]
    exact (serves.isListing own name known listing answer).keyable
  · intro entry member
    obtain ⟨name, known, _, listing, answer, same⟩ := source entry member
    rw [same]
    exact (serves.isListing own name known listing answer).equal
  · intro entry member other inside different some
    obtain ⟨name, known, named, listing, answer, id⟩ := source entry member
    obtain ⟨rival, rivalKnown, rivalNamed, rivalListing, rivalAnswer, rivalId⟩ :=
      source other inside
    obtain ⟨client, later, asked⟩ := own name known
    obtain ⟨rivalClient, rivalLater, rivalAsked⟩ := own rival rivalKnown
    have unequal : name ≠ rival := by
      rintro rfl
      exact different (named.trans rivalNamed.symm)
    rw [id, rivalId]
    exact serves.apart name known rival rivalKnown unequal client later rivalClient rivalLater
      listing rivalListing (asked.trans answer) (rivalAsked.trans rivalAnswer) (id ▸ some)

end

/-- The second batch gives each latest execution the answer about its own state. -/
theorem Serves.exists_states (serves : Serves project names start)
    (workers : 0 < start.session.workers) (second : Schedule) (ids : List (Value × Value))
    (apart : Apart ids) (client : Client) (later : Later project start client) :
    ∃ (others : List Outcome) (ended : Client) (states : Value → Except Fault Value),
      Session.executionStatesIn second ((flowsOf ids).map Prod.fst) client = (.ok others, ended) ∧
      Later project start ended ∧
      (∀ id result, (id, result) ∈ others ↔
        (∃ flow, (flow, id) ∈ ids) ∧ id ≠ .null ∧ result = states id) ∧
      (∀ flow id, (flow, id) ∈ ids → id ≠ .null → ∃ sender, Later project start sender ∧
        (Session.execution id sender).1 = states id) := by
  have known (id : Value) : id ∈ (flowsOf ids).map Prod.fst ↔
      (∃ flow, (flow, id) ∈ ids) ∧ id ≠ .null := by
    rw [List.mem_map]
    constructor
    · rintro ⟨⟨_, flow⟩, member, rfl⟩
      obtain ⟨inside, some⟩ := (mem_flowsOf_iff ids _ flow).mp member
      exact ⟨⟨flow, inside⟩, some⟩
    · rintro ⟨⟨flow, member⟩, some⟩
      exact ⟨(id, flow), (mem_flowsOf_iff ids id flow).mpr ⟨member, some⟩, rfl⟩
  have same := Value.distinct_eq_self _ (pairwise_flowsOf ids apart)
  have keyable : ∀ key ∈ (flowsOf ids).map Prod.fst, key.isKey = true := by
    intro key member
    obtain ⟨⟨flow, owned⟩, _⟩ := (known key).mp member
    exact apart.keyable _ owned
  have nodup : (Value.distinct ((flowsOf ids).map Prod.fst)).Nodup := by
    rw [same]
    exact nodup_flowsOf ids apart
  obtain ⟨others, ended, states, run, later', each, own, _⟩ :=
    exists_batch_answers (Later project start) second Session.execution
      ((flowsOf ids).map Prod.fst) client later keyable nodup (serves.answering_states workers _)
  rw [same] at each own
  refine ⟨others, ended, states, run, later', ?_, ?_⟩
  · intro id result
    rw [each, known, and_assoc]
  · intro flow id member some
    exact own id ((known id).mpr ⟨⟨flow, member⟩, some⟩)

/-- All requests of the two batches are answered, by whatever schedules. -/
theorem Serves.nonempty_batches (serves : Serves project names start)
    (workers : 0 < start.session.workers) (first second : Schedule) :
    Nonempty (Batches first second project names start) := by
  obtain ⟨outcomes, fetched, latest, asked, later, each, own, distinct⟩ :=
    serves.exists_latest workers first
  have listings : ∀ flow listing, (flow, .ok listing) ∈ outcomes → IsListing listing := by
    intro flow listing member
    obtain ⟨name, known, _, result⟩ := (each _ _).mp member
    exact serves.isListing own name known listing result.symm
  have read := Call.act_of_writes (writes_latestIds outcomes listings) fetched
  obtain ⟨others, ended, states, followed, last, eachState, ownState⟩ :=
    serves.exists_states workers second (idsOf outcomes) (serves.apart_idsOf each own distinct) _
      (.logged _ (failures "executions of flow" outcomes) later)
  exact ⟨⟨latest, states, outcomes, fetched, _, others, ended, asked, read, followed, distinct,
    ⟨each, eachState⟩, own, ownState, last⟩⟩

end

section

variable {first second : Schedule} {project : Value} {names : List String} {listed : Client}
  (batches : Batches first second project names listed)

include batches

/-- The ids that the batches meet are apart. -/
theorem Batches.apart (serves : Serves project names listed) : Apart (idsOf batches.outcomes) :=
  serves.apart_idsOf batches.answer.latest batches.ofFlow batches.distinct

/-- The id in the listing of a flow is one of those that the batches meet. -/
theorem Batches.mem_idsOf (name : String) (known : name ∈ names) (listing : Value)
    (result : batches.latest name = .ok listing) :
    (.text name, latestOf listing) ∈ idsOf batches.outcomes :=
  (batches.answer.mem_idsOf_iff _ _).mpr ⟨name, known, rfl, listing, result, rfl⟩

/-- The documents of the second batch are states. -/
theorem Batches.isState (serves : Serves project names listed) (flow id state : Value)
    (member : (flow, id) ∈ idsOf batches.outcomes) (some : id ≠ .null)
    (found : batches.states id = .ok state) : IsState state := by
  obtain ⟨client, later, result⟩ := batches.ofExecution flow id member some
  have answers := serves.states client later id
  rw [result, found] at answers
  exact answers

/-- The documents of the first batch are listings. -/
theorem Batches.isListing (serves : Serves project names listed) (flow listing : Value)
    (member : (flow, .ok listing) ∈ batches.outcomes) : IsListing listing := by
  obtain ⟨name, known, _, result⟩ := (batches.answer.latest _ _).mp member
  exact serves.isListing batches.ofFlow name known listing result.symm

/-- What is logged about the first batch are its failures. -/
theorem Batches.entries_eq (serves : Serves project names listed) :
    batches.entries = failures "executions of flow" batches.outcomes := by
  have read := Call.act_of_writes (writes_latestIds batches.outcomes fun flow listing member =>
    batches.isListing serves flow listing member) batches.fetched
  have same := congrArg (fun run => run.2.world.log) (batches.read.symm.trans read)
  exact List.append_cancel_left same

/-- The executions are read from the answers of the second batch, and its failures are
logged. -/
theorem Batches.writes_executions (serves : Serves project names listed) :
    (executionsOf (flowsOf (idsOf batches.outcomes)) batches.others).Writes
      (executionsIn (idsOf batches.outcomes) batches.others)
      (failures "status of execution" batches.others) := by
  apply writes_executionsOf
  · intro id state member
    obtain ⟨⟨flow, owned⟩, some, result⟩ := (batches.answer.states _ _).mp member
    exact batches.isState serves flow id state owned some result.symm
  · rintro ⟨id, result⟩ member
    obtain ⟨⟨flow, owned⟩, some, _⟩ := (batches.answer.states _ _).mp member
    exact ⟨flow, flowOf_eq _ (batches.apart serves) flow id owned some⟩

end

end Jobflow.Status
