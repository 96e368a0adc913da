import Jobflow.Files.FileTree
import Jobflow.Json

/-!
# HTTP exchanges

Requests, responses, and servers that follow a script. A script is a list of rules; the
first rule whose conditions a request meets answers it. A rule gives its replies one after
the other and repeats the last one for ever. A request that meets no rule has no route.
-/

namespace Jobflow

/-- A file sent along with a request. -/
structure Upload where
  /-- The name that the server is told. -/
  name : String
  /-- The media type. -/
  mediaType : String
  /-- The file. -/
  contents : File

/-- A request. -/
structure Request where
  /-- The method. -/
  method : String
  /-- The URL, without parameters. -/
  url : String
  /-- The parameters of the URL. -/
  params : Option Entries := none
  /-- The form fields. -/
  data : Option Entries := none
  /-- The cookies. -/
  cookies : Option Entries := none
  /-- Whether the certificate of the server is verified. -/
  verify : Bool := true
  /-- The time to wait for an answer, in seconds. -/
  timeout : Int := 60
  /-- A file sent along. -/
  file : Option Upload := none

/-- The text of a field of a request: its method, its URL, a form field or a parameter. -/
def Request.field? (request : Request) (name : String) : Option String :=
  if name = "method" then some request.method
  else if name = "url" then some request.url
  else
    let form : Entries := request.data.getD []
    let parameters : Entries := request.params.getD []
    ((form.lookup name).or (parameters.lookup name)).map Value.str

/-- An answer to a request. -/
structure Response where
  /-- The status. -/
  status : Int := 200
  /-- The words for the status. -/
  reason : Value := .text "OK"
  /-- The URL that the answer comes from. -/
  url : String
  /-- The text. -/
  text : String

namespace Response

/-- Whether the status is no error. -/
def isOk (response : Response) : Bool := response.status < 400 || 600 ≤ response.status

/-- The text as a document. -/
def json? (response : Response) : Option Value := Json.read? response.text

/-- The fault of a status that counts as an error. -/
def statusFault? (response : Response) : Option Fault :=
  if response.isOk then none
  else
    let side := if response.status < 500 then " Client Error: " else " Server Error: "
    some (.transport .status (some response.status)
      (toString response.status ++ side ++ response.reason.str ++ " for url: " ++ response.url))

end Response

/-- What a rule answers. -/
inductive Reply
  /-- An answer; without a URL of its own it comes from that of the request. -/
  | answer (status : Int) (reason : Value) (url : Option String) (text : String)
  /-- No answer, but a failure. -/
  | failure (kind : Transport) (message : String)

/-- A rule of a script. -/
structure Rule where
  /-- The fields that a request has to have. -/
  conditions : List (String × String)
  /-- The replies, in order. -/
  replies : List Reply
  /-- How many requests were answered so far. -/
  used : Nat := 0

/-- Whether a request meets the conditions of a rule. -/
def Rule.matches (rule : Rule) (request : Request) : Bool :=
  rule.conditions.all fun (name, value) => request.field? name == some value

/-- The reply to the next request. -/
def Rule.next? (rule : Rule) : Option Reply :=
  rule.replies[min rule.used (rule.replies.length - 1)]?

/-- A server that follows a script. -/
abbrev Script := List Rule

namespace Script

/-- The failure of a request without a route. -/
def noRoute : Reply := .failure .connection "no route"

/-- Answer a request: the reply, and the script with the replies that are left. -/
def reply (request : Request) : Script → Reply × Script
  | [] => (noRoute, [])
  | rule :: rest =>
    if rule.matches request then
      ((rule.next?).getD noRoute, { rule with used := rule.used + 1 } :: rest)
    else
      let (answer, left) := reply request rest
      (answer, rule :: left)

end Script

/-- What a reply means for its request: a response, or the failure to get one. -/
def Reply.outcome (request : Request) : Reply → Except Fault Response
  | .answer status reason url text => .ok ⟨status, reason, url.getD request.url, text⟩
  | .failure kind message => .error (.transport kind none message)

end Jobflow
