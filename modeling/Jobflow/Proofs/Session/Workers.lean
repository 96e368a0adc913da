import Mathlib.Logic.Function.Basic
import Jobflow.Proofs.Session.History
import Jobflow.Proofs.Session.Renewal
import Jobflow.Proofs.Session.Worker

/-!
# Workers that share a session

Any number of workers share a session, each with a request of its own. They take their steps
in any order: a schedule lists whose step comes next. Whatever the schedule, the history of
the session is an orderly one, and no worker sends its request more often than it may renew
the session and once more.
-/

namespace Jobflow.Session

open Call

/-! ## What a step records -/

/-- The login of a worker that means to renew an id, if it makes one. -/
def login? (expired : Value) (client : Client) : Option Login :=
  if client.session.id.same expired then
    some ⟨expired, client.session.id, obtainedId? expired client⟩
  else none

namespace Stage

/-- What a worker does in its next step, if it is of interest. -/
def event? : Stage → Client → Option Event
  | missing, client => (login? .null client).map .login
  | ready _, client => some (.sent client.session.id)
  | answered _ id response, _ => response.rejection?.map fun _ => .rejected id
  | expired _ id, client => (login? id client).map .login
  | start, _ | done _, _ => none

/-- What a worker did in its last step, as far as it needs it for the next one. -/
def memory? : Stage → Option Event
  | answered _ id _ => some (.sent id)
  | expired _ id => some (.rejected id)
  | start | missing | ready _ | done _ => none

/-- How many times the request is still sent at most. -/
def sendingsLeft (draft : Draft) : Stage → Nat
  | start | missing => draft.retries.toNat + 1
  | ready renewals => renewals + 1
  | answered renewals _ _ => renewals
  | expired renewals _ => renewals + 1
  | done _ => 0

section

variable (draft : Draft)

/-- A renewal brings the id that its login brings. -/
theorem issued?_login? (expired : Value) (client : Client) :
    ((login? expired client).map Event.login).bind Event.issued? = obtainedId? expired client := by
  rw [login?, obtainedId?]
  split <;> rfl

/-- After a step the session has the id that the step brought, or else its old one. -/
theorem id_step (stage : Stage) (client : Client) :
    (stage.step draft client).2.session.id =
      ((stage.event? client).bind Event.issued?).getD client.session.id := by
  cases stage with
  | start => rfl
  | missing =>
    rw [event?, issued?_login?, step, after_snd]
    exact id_renew .null client
  | ready renewals =>
    rw [step, after_snd]
    exact congrArg Session.id (frame_session.within_sendDraft draft client)
  | answered renewals id response =>
    cases found : response.rejection? with
    | none =>
      rw [step_accepted draft renewals id response client found, after_snd, event?, found]
      exact congrArg Session.id (frame_session.within_checkStatus draft response client)
    | some reason =>
      rw [event?, found]
      cases renewals with
      | zero => rw [step_rejected_last draft id response client reason found]; rfl
      | succ renewals =>
        rw [step_rejected draft renewals id response client reason found, after_snd]
        exact congrArg Session.id (frame_session.within_logEntry _ client)
  | expired renewals id =>
    rw [event?, issued?_login?, step, after_snd]
    exact id_renew id client
  | done result => rfl

/-- A draft is sent with the present id. -/
theorem after_sendDraft (following : Value × Response → Stage) (client : Client) :
    after (sendDraft draft) following client =
      after (send (draft.request client.session client.session.id))
        (fun response => following (client.session.id, response)) client := by
  rw [after, after]
  rcases run : send (draft.request client.session client.session.id) client with ⟨result, left⟩
  rw [sendDraft, bind_of_ok _ (session_apply client)]
  cases result with
  | ok response => rw [bind_of_ok _ run]; rfl
  | error fault => rw [bind_of_error _ run]

/-- What a worker needs for its next step is what it did in the last one. -/
theorem memory?_step (stage : Stage) (client : Client) (event : Event)
    (remembered : (stage.step draft client).1.memory? = some event) :
    stage.event? client = some event := by
  have forgets {α : Type} (call : Call α) (following : α → Stage) (client : Client)
      (blank : ∀ value, (following value).memory? = none) :
      (after call following client).1.memory? = none :=
    after_induction (motive := fun stage => stage.memory? = none) call following client
      (fun _ => rfl) blank
  cases stage with
  | start =>
    rw [step] at remembered
    cases known : client.session.id.truthy <;> simp [known, memory?] at remembered
  | missing =>
    rw [step, forgets _ _ _ fun _ => rfl] at remembered
    cases remembered
  | ready renewals =>
    rw [step, after_sendDraft] at remembered
    refine after_induction (motive := fun stage => stage.memory? = some event → _) _ _ client
      (fun _ memory => ?_) (fun _ memory => ?_) remembered
    · cases memory
    · exact memory
  | answered renewals id response =>
    cases found : response.rejection? with
    | none =>
      rw [step_accepted draft renewals id response client found, forgets _ _ _ fun _ => rfl]
        at remembered
      cases remembered
    | some reason =>
      cases renewals with
      | zero =>
        rw [step_rejected_last draft id response client reason found] at remembered
        cases remembered
      | succ renewals =>
        rw [step_rejected draft renewals id response client reason found] at remembered
        rw [event?, found]
        refine after_induction (motive := fun stage => stage.memory? = some event → _) _ _ client
          (fun _ memory => ?_) (fun _ memory => ?_) remembered
        · cases memory
        · exact memory
  | expired renewals id =>
    rw [step, forgets _ _ _ fun _ => rfl] at remembered
    cases remembered
  | done result => cases remembered

/-- A step in which the request is sent leaves one sending less. -/
theorem sendingsLeft_step (stage : Stage) (client : Client) :
    (stage.step draft client).1.sendingsLeft draft +
        (if ((stage.event? client).any Event.isSent) then 1 else 0) ≤ stage.sendingsLeft draft := by
  have few {α : Type} (call : Call α) (following : α → Stage) (bound : Nat)
      (each : ∀ value, (following value).sendingsLeft draft ≤ bound) :
      (after call following client).1.sendingsLeft draft ≤ bound :=
    after_induction (motive := fun stage => stage.sendingsLeft draft ≤ bound) call following client
      (fun _ => Nat.zero_le bound) each
  have quiet (expired : Value) :
      ((login? expired client).map Event.login).any Event.isSent = false := by
    cases login? expired client <;> rfl
  cases stage with
  | start =>
    rw [step]
    cases client.session.id.truthy <;> exact Nat.le_refl _
  | missing =>
    rw [event?, quiet, if_neg Bool.false_ne_true, Nat.add_zero]
    exact few _ _ _ fun _ => Nat.le_refl _
  | ready renewals =>
    have sent := few (sendDraft draft) (fun answer => answered renewals answer.1 answer.2)
      renewals fun _ => Nat.le_refl _
    exact Nat.add_le_add_right sent 1
  | answered renewals id response =>
    have unsent :
        (response.rejection?.map fun _ => Event.rejected id).any Event.isSent = false := by
      cases response.rejection? <;> rfl
    rw [event?, unsent, if_neg Bool.false_ne_true, Nat.add_zero]
    cases found : response.rejection? with
    | none =>
      rw [step_accepted draft renewals id response client found]
      exact few _ _ _ fun _ => Nat.zero_le _
    | some reason =>
      cases renewals with
      | zero => rw [step_rejected_last draft id response client reason found]; exact Nat.zero_le _
      | succ renewals =>
        rw [step_rejected draft renewals id response client reason found]
        exact few _ _ _ fun _ => Nat.le_refl _
  | expired renewals id =>
    rw [event?, quiet, if_neg Bool.false_ne_true, Nat.add_zero]
    exact few _ _ _ fun _ => Nat.le_refl _
  | done result => exact Nat.le_refl _

end

/-- A history stays orderly if a worker does what it does next, with the id that the session
has and what it remembers from before. -/
theorem orderly_event {ι : Type} {first : Value} {history : History ι} {worker : ι} {stage : Stage}
    {client : Client} (orderly : history.Orderly first)
    (current : client.session.id = history.present first)
    (remembered : ∀ event, stage.memory? = some event → (worker, event) ∈ history) (event : Event)
    (done : stage.event? client = some event) :
    History.Orderly first ((worker, event) :: history) := by
  have renewal (expired : Value) (cause : expired = .null ∨ (worker, .rejected expired) ∈ history)
      (made : (login? expired client).map Event.login = some event) :
      History.Orderly first ((worker, event) :: history) := by
    rw [login?] at made
    split at made
    · rename_i same
      cases made
      exact .login orderly worker _ current same cause
    · cases made
  cases stage with
  | missing => exact renewal .null (Or.inl rfl) done
  | ready renewals =>
    cases done
    rw [current]
    exact .sent orderly worker
  | answered renewals id response =>
    rw [event?] at done
    obtain ⟨reason, -, rfl⟩ := Option.map_eq_some_iff.mp done
    exact .rejected orderly worker id (remembered _ rfl)
  | expired renewals id => exact renewal id (Or.inr (remembered _ rfl)) done
  | start => cases done
  | done result => cases done

end Stage

/-! ## Schedules -/

/-- Workers that share a session. -/
structure Pool (ι : Type) where
  /-- The session and the world. -/
  client : Client
  /-- How far each worker has come. -/
  stage : ι → Stage
  /-- What they did. -/
  history : History ι

namespace Pool

variable {ι : Type} [DecidableEq ι]

/-- Workers that all begin. -/
def start (client : Client) : Pool ι := ⟨client, fun _ => .start, []⟩

/-- A step of one worker, with the request that it carries out. -/
def step (drafts : ι → Draft) (pool : Pool ι) (worker : ι) : Pool ι where
  client := ((pool.stage worker).step (drafts worker) pool.client).2
  stage := Function.update pool.stage worker
    ((pool.stage worker).step (drafts worker) pool.client).1
  history :=
    match (pool.stage worker).event? pool.client with
    | some event => (worker, event) :: pool.history
    | none => pool.history

/-- The steps of workers that all begin, in the order of a schedule. -/
def run (drafts : ι → Draft) (client : Client) (schedule : List ι) : Pool ι :=
  schedule.foldl (step drafts) (start client)

/-- What stands at any time for workers of a session that began with the given id. -/
structure Sound (drafts : ι → Draft) (first : Value) (pool : Pool ι) : Prop where
  /-- The history is orderly. -/
  orderly : pool.history.Orderly first
  /-- The session has the id that the history tells. -/
  current : pool.client.session.id = pool.history.present first
  /-- What a worker remembers was done. -/
  remembered : ∀ worker event, (pool.stage worker).memory? = some event →
    (worker, event) ∈ pool.history
  /-- The request of a worker was and will be sent one time more than the session is renewed. -/
  budget : ∀ worker,
    pool.history.sendings worker + (pool.stage worker).sendingsLeft (drafts worker) ≤
      (drafts worker).retries.toNat + 1

/-- Workers that begin have done nothing. -/
theorem sound_start (drafts : ι → Draft) (client : Client) :
    Sound drafts client.session.id (start client) where
  orderly := .nil
  current := rfl
  remembered _ _ memory := by cases memory
  budget _ := by simp [start, History.sendings, Stage.sendingsLeft]

/-- A step of a worker leads to its next stage. -/
theorem stage_step_self (drafts : ι → Draft) (pool : Pool ι) (worker : ι) :
    (pool.step drafts worker).stage worker =
      ((pool.stage worker).step (drafts worker) pool.client).1 := Function.update_self ..

/-- A step of a worker leaves the others where they are. -/
theorem stage_step_of_ne (drafts : ι → Draft) (pool : Pool ι) {worker other : ι}
    (apart : other ≠ worker) : (pool.step drafts worker).stage other = pool.stage other :=
  Function.update_of_ne apart ..

/-- What was done before a step was done after it. -/
theorem mem_history_step (drafts : ι → Draft) (pool : Pool ι) (worker : ι) (entry : ι × Event)
    (member : entry ∈ pool.history) : entry ∈ (pool.step drafts worker).history := by
  dsimp only [step]
  split
  · exact List.mem_cons_of_mem _ member
  · exact member

/-- A step counts as one more sending for the worker that sends in it. -/
theorem sendings_step (drafts : ι → Draft) (pool : Pool ι) (worker other : ι) :
    (pool.step drafts worker).history.sendings other = pool.history.sendings other +
      if worker = other ∧ ((pool.stage worker).event? pool.client).any Event.isSent then 1
      else 0 := by
  dsimp only [step]
  cases (pool.stage worker).event? pool.client with
  | none => simp
  | some event => simp [History.sendings, List.countP_cons]

/-- A step keeps what stands at any time. -/
theorem sound_step (drafts : ι → Draft) (first : Value) (pool : Pool ι) (worker : ι)
    (sound : Sound drafts first pool) : Sound drafts first (pool.step drafts worker) where
  orderly := by
    dsimp only [step]
    split
    · exact Stage.orderly_event sound.orderly sound.current (sound.remembered worker) _ ‹_›
    · exact sound.orderly
  current := by
    dsimp only [step]
    rw [Stage.id_step]
    cases (pool.stage worker).event? pool.client with
    | none => exact sound.current
    | some event => rw [History.present_cons, ← sound.current]; rfl
  remembered other event memory := by
    by_cases same : other = worker
    · subst same
      rw [stage_step_self] at memory
      have done := Stage.memory?_step _ _ _ event memory
      rw [step, done]
      exact List.mem_cons_self
    · rw [stage_step_of_ne drafts pool same] at memory
      exact mem_history_step drafts pool worker _ (sound.remembered other event memory)
  budget other := by
    have before := sound.budget other
    rw [sendings_step]
    by_cases same : other = worker
    · subst same
      have spent := Stage.sendingsLeft_step (drafts other) (pool.stage other) pool.client
      rw [stage_step_self]
      simp only [true_and]
      omega
    · have idle : ¬ (worker = other ∧
          ((pool.stage worker).event? pool.client).any Event.isSent = true) :=
        fun both => same both.1.symm
      rw [if_neg idle, stage_step_of_ne drafts pool same]
      exact before

/-- What stands at any time stands after every schedule. -/
theorem sound_run (drafts : ι → Draft) (client : Client) (schedule : List ι) :
    Sound drafts client.session.id (run drafts client schedule) := by
  have onto (schedule : List ι) (pool : Pool ι) (sound : Sound drafts client.session.id pool) :
      Sound drafts client.session.id (schedule.foldl (step drafts) pool) := by
    induction schedule generalizing pool with
    | nil => exact sound
    | cons worker rest inductionHypothesis =>
      exact inductionHypothesis _ (sound_step drafts _ pool worker sound)
  exact onto schedule _ (sound_start drafts client)

/-- Whatever the order of their steps, workers of a session whose logins bring new ids renew
each id at most once: no login is made because of an id that was renewed already, there are
at most as many logins that bring an id as different ids were rejected, and one more if there
was none at first. Each worker sends its request once, and once more for each time that it may
renew the session, which is two times unless the draft says otherwise. -/
theorem run_renews_once (drafts : ι → Draft) (client : Client) (schedule : List ι)
    (fresh : (run drafts client schedule).history.Fresh client.session.id) :
    (run drafts client schedule).history.RenewsOnce client.session.id ∧
      (run drafts client schedule).client.session.id =
        (run drafts client schedule).history.present client.session.id ∧
      ∀ worker, (run drafts client schedule).history.sendings worker ≤
        (drafts worker).retries.toNat + 1 := by
  have sound := sound_run drafts client schedule
  refine ⟨sound.orderly.renewsOnce fresh, sound.current, fun worker => ?_⟩
  have bound := sound.budget worker
  omega

end Pool

/-! ## Two workers and an expired id -/

/-- The answer of a server that does not accept a session. -/
def rejectingReply : Reply :=
  .answer 200 (.text "OK") none "\x7b\"error\": \"session\"\x7d"

/-- The answer of a server that issues an id. -/
def issuingReply : Reply :=
  .answer 200 (.text "OK") none "\x7b\"session.id\": \"def\"\x7d"

/-- A server that rejects the session in its first two answers and issues an id. -/
def forgetful : Script :=
  [{ conditions := [("action", "login")], replies := [issuingReply] },
   { conditions := []
     replies := [rejectingReply, rejectingReply, .answer 200 (.text "OK") none "\x7b\x7d"] }]

/-- A session with an old id in front of the server. -/
def forgotten : Client where
  session :=
    { user := "me", password := some "secret", url := "http://server:8081", id := .text "abc" }
  world := { folder := "/", tree := { files := .empty }, server := forgetful }

/-- The request of one of two workers. -/
def pageOf (worker : Bool) : Draft where
  method := "GET"
  endpoint := "manager"
  params := some [("second", .bool worker)]

/-- Two workers that take turns. -/
def turns : List Bool := (List.replicate 6 [false, true]).flatten

/-- Both workers send with the old id, which only one of them renews, and send again. -/
theorem turns_renew_once :
    (Pool.run pageOf forgotten turns).history.Fresh (.text "abc") ∧
      (Pool.run pageOf forgotten turns).history.RenewsOnce (.text "abc") ∧
      (Pool.run pageOf forgotten turns).client.session.id = .text "def" ∧
      ∀ worker, (Pool.run pageOf forgotten turns).history.sendings worker = 2 := by
  have brought :
      (Pool.run pageOf forgotten turns).history.issued.map Value.text? = [some "def"] := by
    decide +kernel
  have sent : ∀ worker, (Pool.run pageOf forgotten turns).history.sendings worker = 2 := by
    decide +kernel
  have issued : (Pool.run pageOf forgotten turns).history.issued = [.text "def"] := by
    obtain ⟨id, only, text⟩ := List.map_eq_singleton_iff.mp brought
    rw [only, (Value.text?_eq_some_iff id "def").mp text]
  have fresh : (Pool.run pageOf forgotten turns).history.Fresh (.text "abc") := by
    refine ⟨?_, ?_⟩
    · rw [issued]
      simp
    · rw [History.ids, issued]
      exact List.pairwise_pair.mpr ⟨rfl, rfl⟩
  obtain ⟨once, current, -⟩ := Pool.run_renews_once pageOf forgotten turns fresh
  refine ⟨fresh, once, ?_, sent⟩
  rw [current, History.present, issued]
  rfl

end Jobflow.Session
