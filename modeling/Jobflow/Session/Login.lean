import Jobflow.Session.Answer
import Jobflow.Session.Call

/-!
# Logging in

Logging in obtains a new id from the server. The first password is the one that is given
or known, if any; further ones are asked for, as long as the server refuses them and there
are attempts left. The new id is kept in the settings.

An expired id is renewed by logging in, unless it has been renewed already.
-/

namespace Jobflow.Session

variable [Handlers]

/-- What the server reports when it refuses a password. -/
def refusedLogin : String := "Incorrect Login."

/-- The prompt for a password. -/
def passwordPrompt (session : Session) : String :=
  "Azkaban password for " ++ session.text ++ ": "

/-- The request that logs in. -/
def loginRequest (session : Session) (password : String) : Request where
  method := "POST"
  url := session.url
  data := some [("action", .text "login"), ("username", .text session.user),
    ("password", .text password)]
  verify := session.verify
  timeout := session.timeout

/-- The settings with the id of a session in them. -/
def settingsWithId (session : Session) (file : SettingsFile) : SettingsFile :=
  { file with
    settings := (file.settings.addSection idSection).set idSection session.idOption session.id }

/-- Keep the id in the settings, and save these. -/
def keepId : Call Unit := do
  let session ← Call.session
  match session.settings with
  | none => return
  | some file =>
    let file := session.settingsWithId file
    Call.update fun session => { session with settings := some file }
    Call.act file.save

/-- The id in the answer to a login. -/
def idIn (document : Value) : Except Fault Value :=
  match document.field? "session.id" with
  | some id => .ok id
  | none => .error (.mishap .missingKey)

/-- Whether a fault is the refusal of a password. Troubles whose message cannot be searched
are none. -/
def isRefusedLogin (fault : Fault) : Except Mishap Bool :=
  if fault.isRemote then fault.message.mentions refusedLogin else .ok false

/-- The password to try: the one at hand, or else one that the user types. -/
def choosePassword (password : Option String) : Call String :=
  match password.filter fun text => !text.isEmpty with
  | some text => return text
  | none => do
    let session ← Call.session
    Call.act (Action.prompt session.passwordPrompt)

/-- Send a password and read the answer. -/
def tryPassword (password : String) : Call Value := do
  let session ← Call.session
  let response ← Call.send (session.loginRequest password)
  Call.act (Action.ofLogged response.document)

/-- Take over the id in the answer to a login. -/
def takeId (document : Value) : Call Unit := do
  let id ← Call.ofExcept (idIn document)
  Call.update fun session => { session with id }
  keepId
  Call.log .info "Logged in." []

/-- Log in with a number of attempts left, the first one with the password at hand. -/
def loginWith (password : Option String) : Nat → Call Unit
  | 0 => Call.trouble .tooManyAttempts
  | attempts + 1 => do
    let chosen ← choosePassword password
    match ← (tryPassword chosen).outcome with
    | .ok document => takeId document
    | .error fault =>
      if ← Call.act (Action.ofMishap (isRefusedLogin fault)) then
        let session ← Call.session
        Call.log .warning "Login refused for %s." [.text session.user]
        loginWith none attempts
      else throw fault

/-- Log in, with the given password or else the known one at first. -/
def login (password : Option String) : Call Unit := do
  let session ← Call.session
  loginWith ((password.filter fun text => !text.isEmpty).or session.password)
    session.attempts.toNat

/-- Log in if the session still has the given id. -/
def renew (expired : Value) : Call Unit := do
  let session ← Call.session
  if session.id.same expired then login none
  else Call.log .debug "Session already renewed." []

end Jobflow.Session
