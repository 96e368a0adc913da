import Jobflow.Proofs.Session.Renewal
import Jobflow.Proofs.Session.Replies

/-!
# Faults that are not about the session

Sending, logging in and keeping an id can stop for many reasons, none of which is about the
session: there is trouble with the server, with the exchange of messages or with a value. That
a session has expired or stays rejected is said by nobody but the loop that renews it.
-/

namespace Jobflow

/-- Trouble with the server, with the exchange of messages or with a value. -/
inductive Fault.IsOrdinary : Fault → Prop
  /-- Trouble with the server. -/
  | remote (trouble : RemoteTrouble) : IsOrdinary (.remote trouble)
  /-- A request that was not answered, or with an error status. -/
  | transport (failure : Transport) (status : Option Int) (message : String) :
    IsOrdinary (.transport failure status message)
  /-- A fault without wording. -/
  | mishap (kind : Mishap) : IsOrdinary (.mishap kind)

/-- An ordinary fault is no rejection of the session. -/
theorem Fault.IsOrdinary.ne_sessionRejected {fault : Fault} (ordinary : fault.IsOrdinary)
    (reason : String) : fault ≠ .sessionRejected reason := by
  cases ordinary <;> intro same <;> cases same

/-- An ordinary fault does not tell that the session has expired. -/
theorem Fault.IsOrdinary.kind?_ne {fault : Fault} (ordinary : fault.IsOrdinary) :
    fault.kind? ≠ some .sessionExpired := by
  cases ordinary <;> intro same <;> cases same

namespace Call

open Session

variable {α β : Type}

/-- A call stops with ordinary faults only. -/
def Ordinary (call : Call α) : Prop :=
  ∀ client fault, (call client).1 = .error fault → fault.IsOrdinary

/-- A value is no fault. -/
theorem ordinary_pure (value : α) : Ordinary (pure value) := fun _ _ stopped => by cases stopped

/-- Stopping with an ordinary fault. -/
theorem ordinary_throw {fault : Fault} (ordinary : fault.IsOrdinary) :
    Ordinary (throw fault : Call α) := by
  intro client other stopped
  obtain rfl := Except.error.inj stopped
  exact ordinary

/-- Calls in a row stop as each of them does. -/
theorem ordinary_bind {first : Call α} {next : α → Call β} (ordinary : first.Ordinary)
    (later : ∀ value, (next value).Ordinary) : (first >>= next).Ordinary := by
  intro client fault stopped
  rcases run : first client with ⟨result, middle⟩
  cases result with
  | ok value =>
    rw [bind_of_ok _ run] at stopped
    exact later value middle fault stopped
  | error cause =>
    rw [bind_of_error _ run] at stopped
    obtain rfl := Except.error.inj stopped
    exact ordinary client cause (congrArg Prod.fst run)

/-- Looking at the session does not stop. -/
theorem ordinary_session : Ordinary session := fun _ _ stopped => by cases stopped

/-- Logging does not stop. -/
theorem ordinary_log (level : LogLevel) (template : String) (args : List Value) :
    Ordinary (log level template args) := by
  intro client fault stopped
  rw [log_apply] at stopped
  cases stopped

/-- A mishap of the world is ordinary. -/
theorem ordinary_ofMishap (result : Except Mishap α) : Ordinary (act (Action.ofMishap result)) := by
  intro client fault stopped
  cases result with
  | ok value => cases stopped
  | error mishap =>
    obtain rfl := Except.error.inj stopped
    exact .mishap mishap

/-- A request that gets no answer is ordinary trouble. -/
theorem ordinary_send (request : Request) : Ordinary (send request) := by
  intro client fault stopped
  rw [send, mapFault, act, Action.send_apply] at stopped
  cases reply : (client.world.server.reply request).1 with
  | answer status reason url text =>
    rw [reply] at stopped
    cases stopped
  | failure kind message =>
    rw [reply] at stopped
    obtain rfl := Except.error.inj stopped
    rw [sendFault]
    split
    · exact .remote _
    · split
      · exact .remote _
      · split
        · exact .remote _
        · exact .transport ..

/-- An answer that is no document, or that reports an error, is ordinary trouble. -/
theorem ordinary_document (response : Response) :
    Ordinary (act (Action.ofLogged response.document)) := by
  intro client fault stopped
  rw [act_ofLogged, Response.document_fst] at stopped
  revert stopped
  rcases response.json? with _ | document
  · rintro ⟨⟩
    exact .remote _
  · dsimp only
    rcases Response.reportedError document with mishap | _ | message <;> rintro ⟨⟩
    · exact .mishap _
    · exact .remote _

/-- Choosing a password does not stop. -/
theorem ordinary_choosePassword (password : Option String) : Ordinary (choosePassword password) := by
  rw [choosePassword]
  split
  · exact ordinary_pure _
  · exact ordinary_bind ordinary_session fun _ _ _ stopped => by cases stopped

/-- Asking the server to log in stops with ordinary faults. -/
theorem ordinary_loginAnswer (password : Option String) (attempts : Nat) :
    Ordinary (loginAnswer password attempts) := by
  induction attempts generalizing password with
  | zero => exact ordinary_throw (.remote _)
  | succ attempts inductionHypothesis =>
    apply ordinary_bind (ordinary_choosePassword password)
    intro chosen client fault stopped
    rw [bind_of_ok _ (outcome_apply (tryPassword chosen) client)] at stopped
    revert stopped
    rcases run : tryPassword chosen client with ⟨cause | answer, after⟩
    · have cause_ordinary : cause.IsOrdinary := by
        refine ordinary_bind ordinary_session (fun _ => ?_) client cause (congrArg Prod.fst run)
        exact ordinary_bind (ordinary_send _) fun _ => ordinary_document _
      have refusal : Ordinary (do
          if ← act (Action.ofMishap (isRefusedLogin cause)) then
            let session ← Call.session
            Call.log .warning "Login refused for %s." [.text session.user]
            loginAnswer none attempts
          else throw cause) := by
        apply ordinary_bind (ordinary_ofMishap _)
        intro refused
        cases refused with
        | true =>
          exact ordinary_bind ordinary_session fun _ =>
            ordinary_bind (ordinary_log _ _ _) fun _ => inductionHypothesis none
        | false => exact ordinary_throw cause_ordinary
      exact refusal after fault
    · exact ordinary_pure answer after fault

/-- Keeping an id stops with ordinary faults. -/
theorem ordinary_keepId : Ordinary keepId := by
  apply ordinary_bind ordinary_session
  intro session
  cases session.settings with
  | none => exact ordinary_pure ()
  | some file =>
    refine ordinary_bind (fun _ _ stopped => by cases stopped) fun _ client fault stopped => ?_
    rw [act, SettingsFile.save, Action.write_apply] at stopped
    generalize client.world.tree.write _ _ _ = written at stopped
    cases written with
    | ok tree => cases stopped
    | error mishap =>
      obtain rfl := Except.error.inj stopped
      exact .mishap mishap

/-- A renewal stops with ordinary faults. -/
theorem ordinary_renew (expired : Value) : Ordinary (renew expired) := by
  apply ordinary_bind ordinary_session
  intro session
  split
  · refine ordinary_bind ordinary_session fun _ => ?_
    rw [loginWith_eq]
    refine ordinary_bind (ordinary_loginAnswer _ _) fun answer => ?_
    rw [takeId]
    cases found : idIn answer with
    | ok id =>
      refine ordinary_bind (ordinary_pure id) fun _ => ?_
      refine ordinary_bind (fun _ _ stopped => by cases stopped) fun _ => ?_
      exact ordinary_bind ordinary_keepId fun _ => ordinary_log _ _ _
    | error fault =>
      have missing : fault.IsOrdinary := by
        rw [idIn] at found
        split at found
        · cases found
        · obtain rfl := Except.error.inj found
          exact .mishap _
      exact ordinary_bind (ordinary_throw missing) fun _ =>
        ordinary_bind (fun _ _ stopped => by cases stopped) fun _ =>
          ordinary_bind ordinary_keepId fun _ => ordinary_log _ _ _
  · exact ordinary_log _ _ _

end Call

end Jobflow
