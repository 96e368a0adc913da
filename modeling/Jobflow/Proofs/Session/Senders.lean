import Jobflow.Proofs.Session.Batch

/-!
# What a batch comes to

A batch sends its requests one after the other until one of them is rejected for good. Which
client sends the request of which key is determined by what the requests before it come to,
and with it the outcome of each key. The batch comes to all of these outcomes if each is a
result of its request. Otherwise it stops with the first fault in the order of completion that
is none, whatever the other requests come to.
-/

namespace Jobflow.Session

/-- Whether a request is rejected for good. -/
def isRejected : Except Fault Value → Bool
  | .ok _ => false
  | .error fault => fault.isSessionRejected

/-- The keys whose requests are sent, each with the client that sends it. -/
def senders (ask : Value → Call Value) : List Value → Client → List (Value × Client)
  | [], _ => []
  | key :: rest, client =>
    (key, client) ::
      if isRejected (ask key client).1 then [] else senders ask rest (ask key client).2

/-- The outcomes of the requests that are sent. -/
def outcomesOf (ask : Value → Call Value) (keys : List Value) (client : Client) : List Outcome :=
  (senders ask keys client).map fun (key, sender) => (key, (ask key sender).1)

section

variable (ask : Value → Call Value)

/-- The client after it asked for some keys, one after the other. -/
def askAll (keys : List Value) (client : Client) : Client :=
  keys.foldl (fun client key => (ask key client).2) client

/-- Sending requests comes to their outcomes. -/
theorem sendAll_apply (keys : List Value) (client : Client) :
    sendAll ask keys client =
      (.ok (outcomesOf ask keys client),
        askAll ask ((senders ask keys client).map Prod.fst) client) := by
  induction keys generalizing client with
  | nil => rfl
  | cons key rest inductionHypothesis =>
    have sent := inductionHypothesis (ask key client).2
    rw [sendAll, Call.bind_of_ok _ (Call.outcome_apply (ask key) client), outcomesOf, senders]
    cases answer : (ask key client).1 with
    | ok document =>
      refine (Call.bind_of_ok _ sent).trans ?_
      simp only [isRejected, Bool.false_eq_true, if_false, List.map_cons, answer]
      rfl
    | error fault =>
      cases rejected : fault.isSessionRejected with
      | true =>
        simp only [rejected, isRejected, if_true, List.map_cons, List.map_nil, answer]
        rfl
      | false =>
        simp only [rejected, isRejected, Bool.false_eq_true, if_false, List.map_cons, answer]
        exact Call.bind_of_ok _ sent

/-- Requests are sent for given keys only, and by clients of a kind that requests keep. -/
theorem of_mem_senders {kind : Client → Prop} (keys : List Value) (client : Client)
    (start : kind client) (asked : ∀ key ∈ keys, ∀ sender, kind sender → kind (ask key sender).2)
    (entry : Value × Client) (member : entry ∈ senders ask keys client) :
    entry.1 ∈ keys ∧ kind entry.2 := by
  induction keys generalizing client with
  | nil => cases member
  | cons key rest inductionHypothesis =>
    rw [senders] at member
    rcases List.mem_cons.mp member with rfl | later
    · exact ⟨List.mem_cons_self, start⟩
    · split at later
      · cases later
      · have next := asked key List.mem_cons_self client start
        obtain ⟨there, ready⟩ := inductionHypothesis _ next
          (fun other inside => asked other (List.mem_cons_of_mem _ inside)) later
        exact ⟨List.mem_cons_of_mem _ there, ready⟩

end

/-- The first outcome that is no answer stops the collecting. -/
theorem collect_of_first (before after : List Outcome) (key : Value) (fault : Fault)
    (answers : ∀ outcome ∈ before, IsAnswer outcome.2) (stops : isResult fault = false) :
    collect (before ++ (key, .error fault) :: after) = (before, some fault) := by
  induction before with
  | nil => rw [List.nil_append, collect, if_neg (by simp [stops])]
  | cons outcome rest inductionHypothesis =>
    obtain ⟨here, later⟩ := List.forall_mem_cons.mp answers
    rw [List.cons_append, collect_cons outcome.1 here, inductionHypothesis later]

/-- Outcomes are all answers, or there is a first one that is none. -/
theorem answers_or_first (outcomes : List Outcome) :
    (∀ outcome ∈ outcomes, IsAnswer outcome.2) ∨
      ∃ before key fault after, outcomes = before ++ (key, .error fault) :: after ∧
        (∀ outcome ∈ before, IsAnswer outcome.2) ∧ isResult fault = false := by
  induction outcomes with
  | nil => exact Or.inl (List.forall_mem_nil _)
  | cons outcome rest inductionHypothesis =>
    obtain ⟨key, result⟩ := outcome
    by_cases answer : IsAnswer result
    · refine inductionHypothesis.imp (fun later => ?_) ?_
      · exact List.forall_mem_cons.mpr ⟨answer, later⟩
      · rintro ⟨before, other, fault, after, rfl, answers, stops⟩
        exact ⟨(key, result) :: before, other, fault, after, rfl,
          List.forall_mem_cons.mpr ⟨answer, answers⟩, stops⟩
    · obtain ⟨fault, rfl, stops⟩ := exists_of_not_isAnswer answer
      exact Or.inr ⟨[], key, fault, rest, rfl, List.forall_mem_nil _, stops⟩

section

variable (schedule : Schedule) (ask : Value → Call Value) (keys : List Value) (client : Client)

/-- The outcomes of the requests of a batch, in the order of their completion. -/
def completed : List Outcome :=
  schedule.completing (outcomesOf ask (schedule.sending (Value.distinct keys)) client)

/-- What holds of the results of all requests holds of the completed outcomes. -/
theorem forall_completed_iff (holds : Except Fault Value → Prop) :
    (∀ outcome ∈ completed schedule ask keys client, holds outcome.2) ↔
      ∀ entry ∈ senders ask (schedule.sending (Value.distinct keys)) client,
        holds (ask entry.1 entry.2).1 := by
  have perm := schedule.completing_perm
    (outcomesOf ask (schedule.sending (Value.distinct keys)) client)
  simp only [completed, perm.mem_iff]
  exact List.forall_mem_map

/-- The client after all requests of a batch. -/
def askedBy : Client :=
  askAll ask ((senders ask (schedule.sending (Value.distinct keys)) client).map Prod.fst) client

/-- A batch comes to what is collected of the outcomes of its requests, and warns of each failure
among these. -/
theorem batchIn_apply (keyable : ∀ key ∈ keys, key.isKey = true)
    (workers : 0 < client.session.workers) :
    batchIn schedule ask keys client =
      (match collect (completed schedule ask keys client) with
        | (results, none) => .ok results
        | (_, some fault) => .error fault,
        (askedBy schedule ask keys client).logged
          (((collect (completed schedule ask keys client)).1.filterMap failure?).filterMap
            (warning? (askedBy schedule ask keys client).session))) := by
  have kept : distinctKeys keys = .ok (Value.distinct keys) := by
    rw [distinctKeys, if_pos (List.all_eq_true.mpr keyable)]
  rw [batchIn, kept, Call.bind_of_ok _ (Call.act_ofMishap_ok _ client), completed, askedBy]
  by_cases empty : (Value.distinct keys).isEmpty = true
  · have nothing : schedule.sending [] = [] := (schedule.sending_perm []).eq_nil
    have none : schedule.completing [] = [] := (schedule.completing_perm []).eq_nil
    rw [if_pos empty, List.isEmpty_iff.mp empty, nothing, outcomesOf, senders, List.map_nil, none]
    simp only [collect, List.filterMap_nil, Client.logged, List.append_nil]
    rfl
  · have sent := sendAll_apply ask (schedule.sending (Value.distinct keys)) client
    rw [if_neg empty, Call.bind_of_ok _ (Call.session_apply client),
      if_neg (by omega : ¬ client.session.workers ≤ 0)]
    show (sendAll ask (schedule.sending (Value.distinct keys)) >>= _) client = _
    rw [Call.bind_of_ok _ sent]
    rcases collect (schedule.completing _) with ⟨results, stop⟩
    show (results.forM logResult >>= _) _ = _
    rw [Call.bind_of_ok _ (forM_logResult_apply results _)]
    cases stop <;> rfl

/-- A batch comes to what is collected of the outcomes of its requests. -/
theorem batchIn_fst (keyable : ∀ key ∈ keys, key.isKey = true)
    (workers : 0 < client.session.workers) :
    (batchIn schedule ask keys client).1 =
      match collect (completed schedule ask keys client) with
      | (results, none) => .ok results
      | (_, some fault) => .error fault :=
  congrArg Prod.fst (batchIn_apply schedule ask keys client keyable workers)

/-- A batch comes to the outcomes of its requests if all of these are answered. -/
theorem batchIn_eq_ok_iff (keyable : ∀ key ∈ keys, key.isKey = true)
    (workers : 0 < client.session.workers) (results : List Outcome) :
    (batchIn schedule ask keys client).1 = .ok results ↔
      (∀ entry ∈ senders ask (schedule.sending (Value.distinct keys)) client,
        IsAnswer (ask entry.1 entry.2).1) ∧ results = completed schedule ask keys client := by
  rw [batchIn_fst schedule ask keys client keyable workers, ← forall_completed_iff]
  rcases answers_or_first (completed schedule ask keys client) with
    answers | ⟨before, key, fault, after, split, answers, stops⟩
  · rw [collect_of_answers _ answers]
    exact ⟨fun equal => ⟨answers, (Except.ok.inj equal).symm⟩,
      fun both => congrArg Except.ok both.2.symm⟩
  · rw [split, collect_of_first before after key fault answers stops]
    refine ⟨fun equal => (by cases equal), fun both => ?_⟩
    have counts := both.1 (key, .error fault) (List.mem_append_right _ List.mem_cons_self) fault rfl
    rw [stops] at counts
    cases counts

/-- A batch stops with the first fault, in the order of completion, that is no result of its
request. -/
theorem batchIn_eq_error_iff (keyable : ∀ key ∈ keys, key.isKey = true)
    (workers : 0 < client.session.workers) (fault : Fault) :
    (batchIn schedule ask keys client).1 = .error fault ↔
      ∃ before key after,
        completed schedule ask keys client = before ++ (key, .error fault) :: after ∧
        (∀ outcome ∈ before, IsAnswer outcome.2) ∧ isResult fault = false := by
  rw [batchIn_fst schedule ask keys client keyable workers]
  constructor
  · rcases answers_or_first (completed schedule ask keys client) with
      answers | ⟨before, key, other, after, split, answers, stops⟩
    · rw [collect_of_answers _ answers]
      rintro ⟨⟩
    · rw [split, collect_of_first before after key other answers stops]
      rintro ⟨⟩
      exact ⟨before, key, after, rfl, answers, stops⟩
  · rintro ⟨before, key, after, split, answers, stops⟩
    rw [split, collect_of_first before after key fault answers stops]

/-- A batch that comes to outcomes has keys that can be looked up, and if there is any, its
requests can be sent. -/
theorem ready_of_batchIn_eq_ok (results : List Outcome)
    (done : (batchIn schedule ask keys client).1 = .ok results) :
    (∀ key ∈ keys, key.isKey = true) ∧ (keys ≠ [] → 0 < client.session.workers) := by
  rw [batchIn, distinctKeys] at done
  by_cases keyable : keys.all Value.isKey = true
  · refine ⟨List.all_eq_true.mp keyable, fun some => ?_⟩
    rw [if_pos keyable, Call.bind_of_ok _ (Call.act_ofMishap_ok _ client)] at done
    have notEmpty : ¬ (Value.distinct keys).isEmpty = true := by
      obtain ⟨key, member⟩ := List.exists_mem_of_ne_nil keys some
      obtain ⟨kept, there, -⟩ := Value.exists_mem_distinct keys key member
      exact fun empty => List.not_mem_nil (List.isEmpty_iff.mp empty ▸ there)
    rw [if_neg notEmpty, Call.bind_of_ok _ (Call.session_apply client)] at done
    by_contra few
    rw [if_pos (by omega : client.session.workers ≤ 0)] at done
    cases done
  · rw [if_neg keyable] at done
    cases done

end

/-- The request of a key stops a batch: it is sent by a client for which something stands, and
the requests that are completed before it are answered. -/
structure StoppedBy (schedule : Schedule) (ask : Value → Call Value) (keys : List Value)
    (client : Client) (stands : Value → Client → Prop) : Prop where
  /-- The keys can be looked up. -/
  keyable : ∀ key ∈ keys, key.isKey = true
  /-- The request is sent and completed. -/
  stopped : ∃ key sender before after,
    (key, sender) ∈ senders ask (schedule.sending (Value.distinct keys)) client ∧
      stands key sender ∧
      completed schedule ask keys client = before ++ (key, (ask key sender).1) :: after ∧
      ∀ outcome ∈ before, IsAnswer outcome.2

/-- A batch stops with the fault of the request that stops it. -/
theorem StoppedBy.batchIn_fst {schedule : Schedule} {ask : Value → Call Value}
    {keys : List Value} {client : Client} {stands : Value → Client → Prop} {fault : Fault}
    (stops : StoppedBy schedule ask keys client stands) (workers : 0 < client.session.workers)
    (fails : ∀ key sender, stands key sender → (ask key sender).1 = .error fault)
    (final : isResult fault = false) :
    (batchIn schedule ask keys client).1 = .error fault := by
  obtain ⟨key, sender, before, after, -, there, split, answers⟩ := stops.stopped
  rw [fails key sender there] at split
  exact (batchIn_eq_error_iff schedule ask keys client stops.keyable workers fault).mpr
    ⟨before, key, after, split, answers, final⟩

end Jobflow.Session
