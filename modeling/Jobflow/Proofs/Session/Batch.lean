import Jobflow.Proofs.Session.Call
import Jobflow.Proofs.Value
import Jobflow.Session.Batch

/-!
# Batches whose requests are all answered

If every request of a batch comes to a document or to a fault that counts as its result,
the batch gives one outcome for each distinct key, by whatever schedule. Which clients the
requests are sent by depends on the schedule; a property of clients that requests and
logging keep stands for all of them.
-/

namespace Jobflow.Session

/-- A document, or a fault that is the result of its request. -/
def IsAnswer (result : Except Fault Value) : Prop :=
  ∀ fault, result = .error fault → isResult fault = true

/-- What is no answer is a fault that stops a batch. -/
theorem exists_of_not_isAnswer {result : Except Fault Value} (other : ¬ IsAnswer result) :
    ∃ fault, result = .error fault ∧ isResult fault = false := by
  simpa [IsAnswer] using other

/-- Requests under some keys keep clients ready for more, and are answered. -/
structure Answering (ready : Client → Prop) (ask : Value → Call Value) (keys : List Value) :
    Prop where
  /-- A request keeps a client ready. -/
  asked : ∀ key ∈ keys, ∀ client, ready client → ready (ask key client).2
  /-- A request is answered. -/
  answered : ∀ key ∈ keys, ∀ client, ready client → IsAnswer (ask key client).1
  /-- Logging keeps a client ready. -/
  logged : ∀ client entries, ready client → ready (client.logged entries)
  /-- Requests can be sent. -/
  workers : ∀ client, ready client → 0 < client.session.workers

/-- Requests under some of the keys are answered too. -/
theorem Answering.of_subset {ready : Client → Prop} {ask : Value → Call Value}
    {keys others : List Value} (answering : Answering ready ask keys)
    (inside : ∀ key ∈ others, key ∈ keys) : Answering ready ask others where
  asked key member := answering.asked key (inside key member)
  answered key member := answering.answered key (inside key member)
  logged := answering.logged
  workers := answering.workers

/-- Outcomes of requests that ready clients sent. -/
def FromReady (ready : Client → Prop) (ask : Value → Call Value) (outcomes : List Outcome) : Prop :=
  ∀ outcome ∈ outcomes, ∃ client, ready client ∧ (ask outcome.1 client).1 = outcome.2

/-- The result of a request is no rejected session. -/
theorem isSessionRejected_of_isResult (fault : Fault) (result : isResult fault = true) :
    fault.isSessionRejected = false := by
  cases fault <;> simp_all [isResult, Fault.isSessionRejected, Fault.kind?]

/-- Answered requests are all sent, one for each key. -/
theorem exists_sendAll_apply (ready : Client → Prop) (ask : Value → Call Value)
    (keys : List Value) (client : Client) (start : ready client)
    (answering : Answering ready ask keys) :
    ∃ outcomes after, sendAll ask keys client = (.ok outcomes, after) ∧ ready after ∧
      outcomes.map Prod.fst = keys ∧ FromReady ready ask outcomes := by
  induction keys generalizing client with
  | nil => exact ⟨[], client, rfl, start, rfl, by simp [FromReady]⟩
  | cons key rest inductionHypothesis =>
    have next := answering.asked key List.mem_cons_self client start
    obtain ⟨outcomes, after, sent, ready', keys, found⟩ := inductionHypothesis
      (ask key client).2 next
      (answering.of_subset fun _ member => List.mem_cons_of_mem _ member)
    refine ⟨(key, (ask key client).1) :: outcomes, after, ?_, ready', ?_, ?_⟩
    · rw [sendAll, Call.bind_of_ok _ (Call.outcome_apply (ask key) client)]
      cases answer : (ask key client).1 with
      | ok document => exact Call.bind_of_ok _ sent
      | error fault =>
        have accepted : fault.isSessionRejected = false := isSessionRejected_of_isResult fault
          (answering.answered key List.mem_cons_self client start fault answer)
        simp only [accepted, Bool.false_eq_true, if_false]
        exact Call.bind_of_ok _ sent
    · rw [List.map_cons, keys]
    · intro outcome member
      rcases List.mem_cons.mp member with rfl | later
      · exact ⟨client, start, rfl⟩
      · exact found outcome later

/-- An answer is collected before what follows it. -/
theorem collect_cons (key : Value) {result : Except Fault Value} (answer : IsAnswer result)
    (rest : List Outcome) :
    collect ((key, result) :: rest) = ((key, result) :: (collect rest).1, (collect rest).2) := by
  cases result with
  | ok document => rfl
  | error fault => rw [collect, if_pos (answer fault rfl)]

/-- Outcomes that are all results are all collected. -/
theorem collect_of_answers (outcomes : List Outcome)
    (answers : ∀ outcome ∈ outcomes, IsAnswer outcome.2) : collect outcomes = (outcomes, none) := by
  induction outcomes with
  | nil => rfl
  | cons outcome rest inductionHypothesis =>
    obtain ⟨here, later⟩ := List.forall_mem_cons.mp answers
    rw [collect_cons outcome.1 here, inductionHypothesis later]

/-- The failure in an outcome, with its key. -/
def failure? : Outcome → Option (Value × Fault)
  | (_, .ok _) => none
  | (key, .error fault) => some (key, fault)

/-- The entry of the warning of a failure, unless it cannot be filled in. -/
def warning? (session : Session) (failure : Value × Fault) : Option LogEntry :=
  (LogEntry.ofTagged .warning session.repr "Request for %s failed: %s"
    [failure.1, .text failure.2.text]).toOption

/-- Logging a failure logs its warning. -/
theorem logResult_of_error (key : Value) (fault : Fault) (client : Client) :
    logResult (key, .error fault) client =
      (.ok (), client.logged (warning? client.session (key, fault)).toList) := by
  rw [logResult, Call.log, Call.bind_of_ok _ (Call.session_apply client), Action.deliver_eq_log]
  show Call.act (Action.log (warning? client.session (key, fault))) client = _
  cases warning? client.session (key, fault) with
  | none =>
    rw [Option.toList_none, Client.logged, List.append_nil]
    rfl
  | some entry => rfl

/-- Logging outcomes logs a warning of each failure. -/
theorem forM_logResult_apply (outcomes : List Outcome) (client : Client) :
    outcomes.forM logResult client =
      (.ok (), client.logged
        ((outcomes.filterMap failure?).filterMap (warning? client.session))) := by
  induction outcomes generalizing client with
  | nil =>
    rw [List.filterMap_nil, List.filterMap_nil, Client.logged, List.append_nil]
    rfl
  | cons outcome rest inductionHypothesis =>
    obtain ⟨key, result⟩ := outcome
    show (logResult (key, result) >>= fun _ => rest.forM logResult) client = _
    cases result with
    | ok document =>
      have unlogged : logResult (key, .ok document) client = (.ok (), client) := rfl
      rw [Call.bind_of_ok _ unlogged, inductionHypothesis]
      rfl
    | error fault =>
      rw [Call.bind_of_ok _ (logResult_of_error key fault client), inductionHypothesis]
      cases warned : warning? client.session (key, fault) <;>
        simp [Client.logged, failure?, warned]

/-- Logging outcomes only logs. -/
theorem exists_forM_logResult_apply (outcomes : List Outcome) (client : Client) :
    ∃ entries, outcomes.forM logResult client = (.ok (), client.logged entries) :=
  ⟨_, forM_logResult_apply outcomes client⟩

/-- A batch of answered requests has one outcome for each distinct key, in some order. -/
theorem exists_batchIn_apply (ready : Client → Prop) (schedule : Schedule)
    (ask : Value → Call Value) (keys : List Value) (client : Client) (start : ready client)
    (keyable : ∀ key ∈ keys, key.isKey = true) (answering : Answering ready ask keys) :
    ∃ outcomes after, batchIn schedule ask keys client = (.ok outcomes, after) ∧ ready after ∧
      (outcomes.map Prod.fst).Perm (Value.distinct keys) ∧ FromReady ready ask outcomes := by
  have kept : distinctKeys keys = .ok (Value.distinct keys) := by
    rw [distinctKeys, if_pos (List.all_eq_true.mpr keyable)]
  rw [batchIn, kept, Call.bind_of_ok _ (Call.act_ofMishap_ok _ client)]
  by_cases empty : (Value.distinct keys).isEmpty = true
  · refine ⟨[], client, ?_, start, ?_, ?_⟩
    · rw [if_pos empty]
      rfl
    · rw [List.isEmpty_iff.mp empty]
      exact .refl _
    · intro outcome member
      cases member
  · have some : ¬ client.session.workers ≤ 0 := by
      have positive := answering.workers client start
      omega
    have asked : ∀ key ∈ schedule.sending (Value.distinct keys), key ∈ keys := fun key member =>
      Value.mem_of_mem_distinct keys key ((schedule.sending_perm _).mem_iff.mp member)
    obtain ⟨sent, after, run, ready', sentKeys, found⟩ :=
      exists_sendAll_apply ready ask (schedule.sending (Value.distinct keys)) client start
        (answering.of_subset asked)
    have perm := schedule.completing_perm sent
    have completed : FromReady ready ask (schedule.completing sent) :=
      fun outcome member => found outcome (perm.mem_iff.mp member)
    have answers : ∀ outcome ∈ schedule.completing sent, IsAnswer outcome.2 := by
      intro outcome member
      obtain ⟨sender, ready'', answer⟩ := completed outcome member
      have key : outcome.1 ∈ keys :=
        asked _ (sentKeys ▸ List.mem_map_of_mem (perm.mem_iff.mp member))
      rw [← answer]
      exact answering.answered _ key sender ready''
    obtain ⟨entries, logged⟩ := exists_forM_logResult_apply (schedule.completing sent) after
    refine ⟨schedule.completing sent, after.logged entries, ?_,
      answering.logged after entries ready', ?_, completed⟩
    · rw [if_neg empty, Call.bind_of_ok _ (Call.session_apply client), if_neg some]
      show (sendAll ask (schedule.sending (Value.distinct keys)) >>= _) client = _
      rw [Call.bind_of_ok _ run, collect_of_answers _ answers]
      exact Call.bind_of_ok _ logged
    · exact (perm.map Prod.fst).trans (sentKeys ▸ schedule.sending_perm _)

end Jobflow.Session
