import Jobflow.Http
import Jobflow.Logged
import Jobflow.Text.Lowercase

/-!
# Answers of the server

The server answers with documents, and reports most errors in documents too, whatever the
status of the answer. When it does not accept the session it serves a login page instead,
or reports an error that mentions the session.
-/

namespace Jobflow

/-- What occurs in the login page and in the report of a failed login. -/
def loginMarkers : List String := ["<!-- /.login -->", "Login error"]

/-- Whether a value has an item or key of some name; texts have every text in them. -/
def Value.mentions (value : Value) (name : String) : Except Mishap Bool :=
  match value with
  | .map _ entries => .ok (entries.any fun entry => entry.1 == name)
  | .list _ items | .tuple _ items => .ok (items.any fun item => item.same (.text name))
  | .text whole => .ok (Text.holds whole name)
  | _ => .error .wrongShape

namespace Response

/-- The error that a document reports: its `error`, or the message of one whose status is
an error. Other values than mappings report none that could be understood. -/
def reportedError (document : Value) : Except Mishap (Option Value) := do
  if ← document.mentions "error" then
    match document with
    | .map _ entries => return entries.lookup "error"
    | _ => throw .wrongShape
  match document with
  | .map _ entries =>
    if ((entries.lookup "status").getD .null).same (.text "error") then
      match entries.lookup "message" with
      | some message => return some message
      | none => throw .missingKey
    else return none
  | _ => throw .missingOperation

/-- The log entry of an answer that is no document. -/
def undecodableEntry (response : Response) : LogEntry :=
  ⟨.error, "Undecodable response from " ++ response.url ++ ":\n" ++ response.text⟩

/-- The document in an answer, unless it reports an error. -/
def document (response : Response) : Logged Value := do
  match response.json? with
  | none =>
    Logged.log (some response.undecodableEntry)
    throw (.remote (.undecodable response.url))
  | some body =>
    match ← Logged.ofMishap (reportedError body) with
    | some message => throw (.remote (.reported message))
    | none => return body

/-- Why the server did not accept the session that an answer was requested with, if it did
not. -/
def rejection? (response : Response) : Option String :=
  if loginMarkers.any fun marker => Text.holds response.text marker then some "Login required."
  else
    match response.json?.bind (Value.field? "error") with
    | none => none
    | some error =>
      if error.truthy && Text.holds (Text.lower error.str) "session" then some error.str
      else none

end Response

end Jobflow
