import Jobflow.Session.Basic

/-!
# Calls

A call is an action of a session on the world: it can also change the session, above all
its id. What a call changed before it stops with a fault stays changed.
-/

namespace Jobflow

/-- A session in its world. -/
structure Client where
  /-- The session. -/
  session : Session
  /-- The world. -/
  world : World

/-- An action of a session. -/
abbrev Call (α : Type) := ExceptT Fault (StateM Client) α

namespace Call

/-- Act on the world. -/
def act {α : Type} (action : Action α) : Call α := fun client =>
  let (result, world) := action client.world
  (result, { client with world })

/-- The session as it is now. -/
def session : Call Session := return (← get).session

/-- Change the session. -/
def update (change : Session → Session) : Call Unit :=
  modify fun client => { client with session := change client.session }

/-- Stop with a trouble with the server. -/
def trouble {α : Type} (trouble : RemoteTrouble) : Call α := throw (.remote trouble)

/-- Give the result of a computation. -/
def ofExcept {α : Type} (result : Except Fault α) : Call α :=
  match result with
  | .ok value => pure value
  | .error fault => throw fault

/-- Log a message tagged with the session. -/
def log [Handlers] (level : LogLevel) (template : String) (args : List Value) : Call Unit := do
  let session ← session
  act (Action.deliver level (LogEntry.ofTagged level session.repr template args))

/-- The outcome of a call, which itself never stops. -/
def outcome {α : Type} (call : Call α) : Call (Except Fault α) := fun client =>
  let (result, client) := call client
  (.ok result, client)

/-- Replace the fault that a call stops with. -/
def mapFault {α : Type} (change : Fault → Fault) (call : Call α) : Call α := fun client =>
  let (result, client) := call client
  (result.mapError change, client)

/-- What a failure to send a request means: a wrong URL, a lack of time and a lack of a
connection are trouble with the server. -/
def sendFault (url : String) : Fault → Fault
  | .transport failure status message =>
    if failure = .missingScheme then .remote (.invalidServer url)
    else if failure.isTimeout then .remote (.timedOut url message)
    else if failure.isConnection then .remote (.unreachable url message)
    else .transport failure status message
  | other => other

/-- Send a request. -/
def send (request : Request) : Call Response :=
  mapFault (sendFault request.url) (act (Action.send request))

end Call

end Jobflow
