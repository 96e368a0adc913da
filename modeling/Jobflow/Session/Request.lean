import Jobflow.Session.Login

/-!
# Authenticated requests

A request carries the id of its session, as a cookie or as a form field. When the server
does not accept the id, the session is renewed with the id that was sent, and the request
is sent again, a limited number of times. A request whose last sending is not accepted
either is rejected for good.
-/

namespace Jobflow

/-- Where a request carries the id of its session. -/
inductive Placement
  /-- In a cookie. -/
  | cookie
  /-- In a form field. -/
  | formField
  /-- Nowhere. -/
  | nowhere
deriving DecidableEq, Repr

/-- The placement that a value stands for. -/
def Placement.ofValue (value : Value) : Except Fault Placement :=
  if value.same (.text "cookies") then .ok .cookie
  else if value.same (.text "params") then .ok .formField
  else if value.same (.bool false) then .ok .nowhere
  else .error (.invalidPlacement value)

/-- A request to be sent by a session. -/
structure Draft where
  /-- The method. -/
  method : String
  /-- The path below the server's URL. -/
  endpoint : String
  /-- The parameters of the URL. -/
  params : Option Entries := none
  /-- The form fields. -/
  data : Option Entries := none
  /-- The cookies. -/
  cookies : Option Entries := none
  /-- A file sent along. -/
  file : Option Upload := none
  /-- Where the id goes. -/
  placement : Placement := .cookie
  /-- How many times the session is renewed at most. -/
  retries : Int := 1

namespace Draft

/-- The cookie of an id. -/
def idCookie : String := "azkaban.browser.session.id"

/-- The form field of an id. -/
def idField : String := "session.id"

/-- The URL of a draft. -/
def url (draft : Draft) (session : Session) : String :=
  session.url ++ "/" ++ Text.dropSlashes draft.endpoint

/-- The request of a draft that carries an id. -/
def request (draft : Draft) (session : Session) (id : Value) : Request :=
  let plain : Request :=
    { method := draft.method
      url := draft.url session
      params := draft.params
      data := draft.data
      cookies := draft.cookies
      verify := session.verify
      timeout := session.timeout
      file := draft.file }
  match draft.placement with
  | .cookie => { plain with cookies := some (insertEntry idCookie id (draft.cookies.getD [])) }
  | .formField => { plain with data := some (insertEntry idField id (draft.data.getD [])) }
  | .nowhere => plain

end Draft

namespace Session

variable [Handlers]

/-- Send a draft with the present id: the id, and the answer. -/
def sendDraft (draft : Draft) : Call (Value × Response) := do
  let session ← Call.session
  let response ← Call.send (draft.request session session.id)
  return (session.id, response)

/-- The log entry of an expired id. -/
def expiredEntry (id : Value) : LogEntry :=
  ⟨.info, "Session " ++ id.str ++ " expired, logging back in."⟩

/-- Send until the server accepts the session, renewing it at most a number of times. -/
def exchange (send : Call (Value × Response)) (renew : Value → Call Unit) (renewals : Nat) :
    Call Response := do
  let (id, response) ← send
  match response.rejection? with
  | none => return response
  | some reason =>
    match renewals with
    | 0 => throw (.sessionRejected reason)
    | renewals + 1 =>
      Call.act (Action.log (some (expiredEntry id)))
      renew id
      exchange send renew renewals

/-- The response to a draft, unless its status is an error, which is logged. -/
def checkStatus (draft : Draft) (response : Response) : Call Response := do
  match response.statusFault? with
  | none => return response
  | some fault =>
    let session ← Call.session
    Call.log .warning "HTTP %s from %s:\n%s"
      [.int response.status, .text (draft.url session), .text response.text]
    throw fault

/-- Send a draft and wait for an answer that accepts the session and is no error. Without
an id the session logs in first. -/
def request (draft : Draft) : Call Response := do
  let session ← Call.session
  unless session.id.truthy do renew .null
  checkStatus draft (← exchange (sendDraft draft) renew draft.retries.toNat)

end Session

end Jobflow
