import Jobflow.Proofs.Session.Call
import Jobflow.Session.Request

/-!
# The steps of a request

A worker carries out one request in steps, between which other workers of the same session
may take theirs: it looks whether there is an id, sends the request with the id that the
session has at that time, looks at the answer, and renews the session with the id it has
sent. Each step is one call of the session at most. A renewal is one step, since it is done
under a lock.

The steps are those of the request: what is left to do comes to the same before and after a
step, so that a worker which is alone ends with what the request comes to.
-/

namespace Jobflow.Session

open Call

/-- How far a worker has come with its request. -/
inductive Stage
  /-- The request begins. -/
  | start
  /-- There was no id, so that the worker logs in first. -/
  | missing
  /-- The request is to be sent; after that the session can be renewed a number of times. -/
  | ready (renewals : Nat)
  /-- The request was sent with an id and answered. -/
  | answered (renewals : Nat) (id : Value) (response : Response)
  /-- The server did not accept the id, so that the worker renews the session. -/
  | expired (renewals : Nat) (id : Value)
  /-- The request has come to its end. -/
  | done (result : Except Fault Response)

namespace Stage

/-- The stage after a call, and the client: a fault ends the request. -/
def after {α : Type} (call : Call α) (following : α → Stage) (client : Client) : Stage × Client :=
  match call client with
  | (.ok value, client) => (following value, client)
  | (.error fault, client) => (done (.error fault), client)

/-- A step of a worker. -/
def step (draft : Draft) : Stage → Client → Stage × Client
  | start, client =>
    (if client.session.id.truthy then ready draft.retries.toNat else missing, client)
  | missing, client => after (renew .null) (fun _ => ready draft.retries.toNat) client
  | ready renewals, client =>
    after (sendDraft draft) (fun (id, response) => answered renewals id response) client
  | answered renewals id response, client =>
    match response.rejection?, renewals with
    | none, _ => after (checkStatus draft response) (fun response => done (.ok response)) client
    | some reason, 0 => (done (.error (.sessionRejected reason)), client)
    | some _, renewals + 1 =>
      after (act (Action.log (some (expiredEntry id)))) (fun _ => expired renewals id) client
  | expired renewals id, client => after (renew id) (fun _ => ready renewals) client
  | done result, client => (done result, client)

/-- A number of steps of a worker that is alone. -/
def steps (draft : Draft) : Nat → Stage → Client → Stage × Client
  | 0, stage, client => (stage, client)
  | count + 1, stage, client =>
    steps draft count (stage.step draft client).1 (stage.step draft client).2

/-- After a call, all stages that it may lead to and the end have a property in common. -/
theorem after_induction {α : Type} {motive : Stage → Prop} (call : Call α) (following : α → Stage)
    (client : Client) (failed : ∀ fault, motive (done (.error fault)))
    (given : ∀ value, motive (following value)) : motive (after call following client).1 := by
  rw [after]
  rcases call client with ⟨fault | value, _⟩
  · exact failed fault
  · exact given value

/-- After a call, the client is the one that the call leaves. -/
theorem after_snd {α : Type} (call : Call α) (following : α → Stage) (client : Client) :
    (after call following client).2 = (call client).2 := by
  rw [after]
  rcases call client with ⟨_ | _, _⟩ <;> rfl

section

variable (draft : Draft)

/-- If the server accepts the session, the status of the answer is checked. -/
theorem step_accepted (renewals : Nat) (id : Value) (response : Response) (client : Client)
    (accepted : response.rejection? = none) :
    step draft (answered renewals id response) client =
      after (checkStatus draft response) (fun response => done (.ok response)) client := by
  simp only [step, accepted]

/-- If the server rejects the session and it cannot be renewed any more, the request ends. -/
theorem step_rejected_last (id : Value) (response : Response) (client : Client) (reason : String)
    (rejected : response.rejection? = some reason) :
    step draft (answered 0 id response) client =
      (done (.error (.sessionRejected reason)), client) := by
  simp only [step, rejected]

/-- If the server rejects the session, that is logged. -/
theorem step_rejected (renewals : Nat) (id : Value) (response : Response) (client : Client)
    (reason : String) (rejected : response.rejection? = some reason) :
    step draft (answered (renewals + 1) id response) client =
      after (act (Action.log (some (expiredEntry id)))) (fun _ => expired renewals id) client := by
  simp only [step, rejected]

/-! ## What a request comes to -/

/-- What is left to do once the request is to be sent. -/
def sending (renewals : Nat) : Call Response := do
  checkStatus draft (← exchange (sendDraft draft) renew renewals)

/-- What is left to do from a stage on. -/
def rest : Stage → Call Response
  | start => request draft
  | missing => do
    renew .null
    sending draft draft.retries.toNat
  | ready renewals => sending draft renewals
  | answered renewals id response =>
    match response.rejection?, renewals with
    | none, _ => checkStatus draft response
    | some reason, 0 => throw (.sessionRejected reason)
    | some _, renewals + 1 => do
      act (Action.log (some (expiredEntry id)))
      renew id
      sending draft renewals
  | expired renewals id => do
    renew id
    sending draft renewals
  | done result => Call.ofExcept result

/-- What is left to do after a call is what follows it. -/
theorem rest_after {α : Type} (call : Call α) (following : α → Stage) (client : Client) :
    (after call following client).1.rest draft (after call following client).2 =
      (call >>= fun value => (following value).rest draft) client := by
  rcases run : call client with ⟨result, left⟩
  cases result with
  | ok value => rw [bind_of_ok _ run, after, run]
  | error fault => rw [bind_of_error _ run, after, run]; rfl

/-- Sending is sending once and doing what is left after that. -/
theorem sending_eq (renewals : Nat) :
    sending draft renewals =
      sendDraft draft >>= fun sent => (answered renewals sent.1 sent.2).rest draft := by
  rw [sending]
  cases renewals with
  | zero =>
    rw [exchange, bind_assoc]
    congr 1
    funext sent
    cases found : sent.2.rejection? with
    | none => simp only [rest, found, pure_bind]
    | some reason => simp only [rest, found]; rfl
  | succ renewals =>
    rw [exchange, bind_assoc]
    congr 1
    funext sent
    cases found : sent.2.rejection? with
    | none => simp only [rest, found, pure_bind]
    | some reason => simp only [rest, found, sending, bind_assoc]

/-- A step does not change what the request comes to. -/
theorem rest_step (stage : Stage) (client : Client) :
    (stage.step draft client).1.rest draft (stage.step draft client).2 =
      stage.rest draft client := by
  cases stage with
  | start =>
    show _ = request draft client
    rw [request, bind_of_ok _ (session_apply client), step]
    cases client.session.id.truthy <;> rfl
  | missing => exact rest_after draft _ _ client
  | ready renewals =>
    show _ = sending draft renewals client
    rw [step, rest_after, sending_eq]
  | answered renewals id response =>
    cases found : response.rejection? with
    | none =>
      have due : rest draft (answered renewals id response) = checkStatus draft response := by
        simp only [rest, found]
      rw [step_accepted draft renewals id response client found, due, rest_after]
      exact congrFun (bind_pure (checkStatus draft response)) client
    | some reason =>
      cases renewals with
      | zero =>
        rw [step_rejected_last draft id response client reason found]
        simp only [rest, found]
        rfl
      | succ renewals =>
        rw [step_rejected draft renewals id response client reason found, rest_after]
        simp only [rest, found]
  | expired renewals id => exact rest_after draft _ _ client
  | done result => rfl

/-- Steps do not change what the request comes to. -/
theorem rest_steps (count : Nat) (stage : Stage) (client : Client) :
    (steps draft count stage client).1.rest draft (steps draft count stage client).2 =
      stage.rest draft client := by
  induction count generalizing stage client with
  | zero => rfl
  | succ count inductionHypothesis => rw [steps, inductionHypothesis, rest_step]

/-! ## How many steps there are -/

/-- How many steps there are left at most. -/
def left : Stage → Nat
  | start => 3 * draft.retries.toNat + 4
  | missing => 3 * draft.retries.toNat + 3
  | ready renewals => 3 * renewals + 2
  | answered renewals _ _ => 3 * renewals + 1
  | expired renewals _ => 3 * renewals + 3
  | done _ => 0

/-- After a step there are fewer steps left. -/
theorem left_step (stage : Stage) (client : Client) :
    (stage.step draft client).1.left draft ≤ stage.left draft - 1 := by
  have few {α : Type} (call : Call α) (following : α → Stage) (bound : Nat)
      (each : ∀ value, (following value).left draft ≤ bound) :
      (after call following client).1.left draft ≤ bound :=
    after_induction (motive := fun stage => stage.left draft ≤ bound) call following client
      (fun _ => Nat.zero_le bound) each
  cases stage with
  | start =>
    rw [step]
    cases client.session.id.truthy <;> simp [left]
  | missing => exact few _ _ _ fun _ => Nat.le_refl _
  | ready renewals => exact few _ _ _ fun _ => Nat.le_refl _
  | answered renewals id response =>
    cases found : response.rejection? with
    | none =>
      rw [step_accepted draft renewals id response client found]
      exact few _ _ _ fun _ => Nat.zero_le _
    | some reason =>
      cases renewals with
      | zero =>
        rw [step_rejected_last draft id response client reason found]
        exact Nat.zero_le _
      | succ renewals =>
        rw [step_rejected draft renewals id response client reason found]
        exact few _ _ _ fun _ => Nat.le_refl _
  | expired renewals id => exact few _ _ _ fun _ => Nat.le_refl _
  | done result => exact Nat.zero_le _

/-- A stage with no steps left is the end. -/
theorem eq_done_of_left {stage : Stage} (none : stage.left draft = 0) :
    ∃ result, stage = done result := by
  cases stage with
  | done result => exact ⟨result, rfl⟩
  | _ => simp [left] at none

/-- After enough steps the end is reached. -/
theorem exists_steps_done (count : Nat) (stage : Stage) (client : Client)
    (enough : stage.left draft ≤ count) :
    ∃ result, (steps draft count stage client).1 = done result := by
  induction count generalizing stage client with
  | zero => exact eq_done_of_left draft (Nat.le_zero.mp enough)
  | succ count inductionHypothesis =>
    have fewer := left_step draft stage client
    exact inductionHypothesis _ _ (by omega)

/-- A worker that is alone ends with what the request comes to. -/
theorem steps_request (client : Client) :
    steps draft (3 * draft.retries.toNat + 4) start client =
      (done (request draft client).1, (request draft client).2) := by
  obtain ⟨result, ended⟩ := exists_steps_done draft (3 * draft.retries.toNat + 4) start client
    (Nat.le_refl _)
  have same := rest_steps draft (3 * draft.retries.toNat + 4) start client
  generalize steps draft (3 * draft.retries.toNat + 4) start client = last at *
  obtain ⟨stage, after⟩ := last
  dsimp only at ended same
  subst ended
  have whole : (result, after) = request draft client := by
    rw [← show rest draft start = request draft from rfl, ← same]
    cases result <;> rfl
  rw [← whole]

end

end Stage

section

variable {draft : Draft} {client : Client}

/-- A client that has an id sends its draft. -/
theorem request_of_truthy (known : client.session.id.truthy = true) :
    request draft client = Stage.sending draft draft.retries.toNat client := by
  rw [request, bind_of_ok _ (session_apply client), known]
  rfl

/-- A client that has none renews its session before. -/
theorem request_of_untruthy (missing : client.session.id.truthy = false) :
    request draft client =
      (renew .null >>= fun _ => Stage.sending draft draft.retries.toNat) client := by
  rw [request, bind_of_ok _ (session_apply client), missing]
  rfl

end

end Jobflow.Session
