import Jobflow.Server.Address
import Jobflow.Settings.Store

/-!
# Sessions

A session is a connection of a user to a server: who is connected to what, how requests
are sent, and the id that the server knows the session by. Ids are kept in the settings,
so that a later session of the same user on the same server starts with the last one.
-/

namespace Jobflow

/-- How requests are sent. -/
structure SessionOptions where
  /-- How many passwords are tried before giving up. -/
  attempts : Int := 3
  /-- Whether the certificate of the server is verified. -/
  verify : Bool := true
  /-- How many requests of a batch are sent at a time. -/
  workers : Int := 8
  /-- The time to wait for each answer, in seconds. -/
  timeout : Int := 60

/-- A connection of a user to a server. -/
structure Session extends SessionOptions where
  /-- The user. -/
  user : String
  /-- The password, if it is known. -/
  password : Option String
  /-- The server's URL. -/
  url : String
  /-- The settings that ids are kept in. -/
  settings : Option SettingsFile := none
  /-- The id; a value that counts as empty is none. -/
  id : Value := .null

namespace Session

/-- The text of a session: its user and server. -/
def text (session : Session) : String := session.user ++ "@" ++ session.url

/-- The quoted form of a session. -/
def repr (session : Session) : String := "<Session(url=" ++ Text.quote session.text ++ ")>"

/-- The link to the page of an execution. -/
def executionUrl (session : Session) (execution : Value) : String :=
  session.url ++ "/executor?execid=" ++ execution.str

/-- The section of settings that ids are kept in. -/
def idSection : String := "session_id"

/-- The option that the id of a session is kept in. A colon would end the option's name,
so that a point stands in its place. -/
def idOption (session : Session) : String :=
  String.ofList (session.text.toList.map fun c => if c = ':' then '.' else c)

/-- The id that is kept for a session, if any. -/
def keptId (session : Session) : Value :=
  Value.ofOption (session.settings.bind fun file => file.settings.get? idSection session.idOption)

/-- A session of the user in an address, or else of the given one, with the id that is kept
for it. -/
def ofAddress (address : Server.Address) (currentUser : String) (settings : Option SettingsFile)
    (options : SessionOptions) : Session :=
  let session : Session :=
    { toSessionOptions := options
      user := (address.user.filter fun user => !user.isEmpty).getD currentUser
      password := address.password
      url := address.url
      settings }
  { session with id := session.keptId }

/-- The session of a server's URL. -/
def ofUrl (url : String) (settings : Option SettingsFile) (options : SessionOptions) :
    Action Session := do
  let address ← Action.ofExcept (Server.Address.ofUrl url)
  return ofAddress address (← get).user settings options

end Session

end Jobflow
