import Jobflow.Proofs.Session.Frame

/-!
# The id that a renewal takes over

Logging in has two parts: asking the server until it answers, and taking over the id in its
answer. The first part leaves the session as it is. So what a renewal does to the id of a
session is said by the answer alone: the id is replaced by the one in the answer, even if
saving it fails afterwards, and otherwise it stays.
-/

namespace Jobflow.Session

open Call

/-- Ask the server to log in, with a number of attempts left: its answer. -/
def loginAnswer (password : Option String) : Nat → Call Value
  | 0 => trouble .tooManyAttempts
  | attempts + 1 => do
    let chosen ← choosePassword password
    match ← (tryPassword chosen).outcome with
    | .ok answer => return answer
    | .error fault =>
      if ← act (Action.ofMishap (isRefusedLogin fault)) then
        let session ← Call.session
        Call.log .warning "Login refused for %s." [.text session.user]
        loginAnswer none attempts
      else throw fault

/-- Logging in is asking the server and taking over the id in its answer. -/
theorem loginWith_eq (password : Option String) (attempts : Nat) :
    loginWith password attempts = loginAnswer password attempts >>= takeId := by
  induction attempts generalizing password with
  | zero => rfl
  | succ attempts inductionHypothesis =>
    rw [loginWith, loginAnswer, bind_assoc]
    congr 1
    funext chosen
    rw [bind_assoc]
    congr 1
    funext outcome
    cases outcome with
    | ok answer => rfl
    | error fault =>
      dsimp only
      rw [bind_assoc]
      congr 1
      funext refused
      cases refused with
      | false => rfl
      | true =>
        simp only [if_true, bind_assoc, inductionHypothesis]

/-- The id that a renewal comes by: the session still has the expired one, and the server
answers the login with an id. -/
def obtainedId? (expired : Value) (client : Client) : Option Value :=
  if client.session.id.same expired then
    match loginAnswer client.session.password client.session.attempts.toNat client with
    | (.ok answer, _) => (idIn answer).toOption
    | (.error _, _) => none
  else none

/-! ## What stays of a session -/

/-- Logging, sending and asking for passwords leave a session as it is. -/
theorem frame_session : Frame fun before after => after.session = before.session where
  refl _ := rfl
  trans before after := after.trans before
  logged _ _ := rfl
  sent _ _ := rfl
  prompted _ _ := rfl

/-- Saving settings leaves the id of a session as it is. -/
theorem savingFrame_id : SavingFrame fun before after => after.session.id = before.session.id where
  refl _ := rfl
  trans before after := after.trans before
  logged _ _ := rfl
  sent _ _ := rfl
  prompted _ _ := rfl
  written _ _ _ := rfl
  kept _ _ := rfl

/-- Asking the server to log in is logging, sending and asking for passwords. -/
theorem within_loginAnswer {related : Client → Client → Prop} (frame : Frame related)
    (password : Option String) (attempts : Nat) :
    (loginAnswer password attempts).Within related := by
  induction attempts generalizing password with
  | zero => exact frame.within_throw _
  | succ attempts inductionHypothesis =>
    apply frame.within_bind (frame.within_choosePassword password)
    intro chosen
    apply frame.within_bind (QuietFrame.within_outcome (frame.within_tryPassword chosen))
    intro outcome
    cases outcome with
    | ok answer => exact frame.within_pure answer
    | error fault =>
      apply frame.within_bind (frame.within_ofMishap _)
      intro refused
      cases refused with
      | true =>
        exact frame.within_bind frame.within_session fun _ =>
          frame.within_bind (frame.within_log _ _ _) fun _ => inductionHypothesis none
      | false => exact frame.within_throw fault

/-- Asking the server to log in leaves a session as it is. -/
theorem session_loginAnswer (password : Option String) (attempts : Nat) (client : Client) :
    (loginAnswer password attempts client).2.session = client.session :=
  within_loginAnswer frame_session password attempts client

/-! ## What a renewal does to the id -/

/-- The id of the session is the one in the answer to a login, if there is one in it. -/
theorem id_takeId (answer : Value) (client : Client) :
    (takeId answer client).2.session.id = (idIn answer).toOption.getD client.session.id := by
  rw [takeId]
  cases found : idIn answer with
  | error fault => rfl
  | ok id =>
    have kept : (do keepId; Call.log .info "Logged in." [] : Call Unit).Within
        fun before after => after.session.id = before.session.id :=
      savingFrame_id.within_bind savingFrame_id.within_keepId fun _ =>
        savingFrame_id.within_log _ _ _
    exact kept { client with session := { client.session with id } }

/-- An id that is taken over is the one in the answer. -/
theorem issued_of_takeId {answer : Value} {asked next : Client}
    (taken : takeId answer asked = (.ok (), next)) : idIn answer = .ok next.session.id := by
  have found := id_takeId answer asked
  rw [taken] at found
  rw [takeId] at taken
  cases issued : idIn answer with
  | ok id => rw [found, issued]; rfl
  | error fault => rw [issued] at taken; cases taken

/-- A renewal logs in if the session still has the expired id. -/
theorem renew_of_same (expired : Value) (client : Client)
    (same : client.session.id.same expired = true) :
    renew expired client =
      (loginAnswer client.session.password client.session.attempts.toNat >>= takeId) client := by
  rw [← loginWith_eq, renew, bind_of_ok _ (session_apply client), if_pos same]
  rfl

/-- A renewal leaves the session as it is if the session has another id by now. -/
theorem session_renew_of_not_same (expired : Value) (client : Client)
    (other : ¬ client.session.id.same expired = true) :
    (renew expired client).2.session = client.session := by
  rw [renew, bind_of_ok _ (session_apply client), if_neg other]
  exact frame_session.within_log _ _ _ client

/-- After a renewal the session has the id that the renewal came by, or else its old one. -/
theorem id_renew (expired : Value) (client : Client) :
    (renew expired client).2.session.id = (obtainedId? expired client).getD client.session.id := by
  rw [obtainedId?]
  by_cases same : client.session.id.same expired = true
  · have asked := session_loginAnswer client.session.password client.session.attempts.toNat client
    rw [renew_of_same expired client same, if_pos same]
    rcases run : loginAnswer client.session.password client.session.attempts.toNat client with
      ⟨result, after⟩
    rw [run] at asked
    cases result with
    | ok answer => rw [bind_of_ok _ run, id_takeId, asked]
    | error fault => rw [bind_of_error _ run, asked]; rfl
  · rw [session_renew_of_not_same expired client same, if_neg same]
    rfl

end Jobflow.Session
