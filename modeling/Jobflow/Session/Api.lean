import Jobflow.Session.Request

/-!
# Operations of the server

What a session asks the server for: the flows of a project, the executions of a flow, the
state of an execution, and the creation and upload of projects.
-/

namespace Jobflow.Session

variable [Handlers]

/-- The document in an answer, unless it reports an error. -/
def document (response : Response) : Call Value := Call.act (Action.ofLogged response.document)

/-- The request that asks whether the server accepts a session. -/
def probeRequest (session : Session) : Request where
  method := "POST"
  url := session.url ++ "/manager"
  data := some [(Draft.idField, session.id)]
  verify := session.verify
  timeout := session.timeout

/-- Whether the server accepts the session, by the given answer or else by asking it. -/
def isValid (response : Option Response) : Call Bool := do
  let session ← Call.session
  if !session.id.truthy then return false
  let response ←
    match response with
    | some response => pure response
    | none => Call.send session.probeRequest
  match response.rejection? with
  | none => return true
  | some _ =>
    Call.log .debug "Session %s was rejected." [session.id]
    return false

/-- What a failure to list the flows of a project means: a status that is an error is
trouble with the server. -/
def listingFault (project : Value) : Fault → Fault
  | .transport .status _ message => .remote (.flowsNotListed project.str message)
  | other => other

/-- The document in an answer about a project; one without text means that there is no such
project. -/
def projectDocument (project : Value) (response : Response) : Call Value :=
  if response.text.isEmpty then Call.trouble (.unknownProject project.str)
  else document response

/-- The flows of a project. -/
def flows (project : Value) : Call Value := do
  Call.log .debug "Listing flows of project %s." [project]
  let response ← Call.mapFault (listingFault project) (request
    { method := "GET", endpoint := "manager"
      params := some [("ajax", .text "fetchprojectflows"), ("project", project)] })
  projectDocument project response

/-- Executions of a flow, latest ones first, from a position on and up to a number. -/
def executions (project flow start length : Value) : Call Value := do
  Call.log .debug "Listing executions of %s/%s." [project, flow]
  let response ← request
    { method := "GET", endpoint := "manager"
      params := some [("ajax", .text "fetchFlowExecutions"), ("project", project),
        ("flow", flow), ("start", start), ("length", length)] }
  projectDocument project response

/-- The state of an execution and its jobs. -/
def execution (id : Value) : Call Value := do
  Call.log .debug "Fetching execution %s." [id]
  let response ← request
    { method := "GET", endpoint := "executor"
      params := some [("ajax", .text "fetchexecflow"), ("execid", id)] }
  document response

/-- The draft that creates a project. -/
def creationDraft (name description : Value) : Draft where
  method := "POST"
  endpoint := "manager"
  data := some [("action", .text "create"), ("name", name), ("description", description)]

/-- Create an empty project. -/
def createProject (name description : Value) : Call Value := do
  let response ← request (creationDraft name description)
  let result ← document response
  Call.log .info "Created project %s." [name]
  return result

/-- The name under which an archive is uploaded: the given one, or else that of its file,
with the usual extension. -/
def archiveName (given : Option String) (path : String) : String :=
  let name := (given.filter fun name => !name.isEmpty).getD (Path.fileName path)
  if Text.endsWith name ".zip" then name else name ++ ".zip"

/-- The draft that uploads an archive in place of the contents of a project. -/
def uploadDraft (project : Value) (archive : Upload) : Draft where
  method := "POST"
  endpoint := "manager"
  placement := .formField
  retries := 0
  data := some [("ajax", .text "upload"), ("project", project)]
  file := some archive

/-- Upload an archive once. -/
def sendArchive (project : Value) (archive : Upload) : Call Value := do
  let response ← request (uploadDraft project archive)
  let result ← document response
  Call.log .info "Uploaded %s to project %s." [.text archive.name, project]
  return result

/-- Log in again if the server does not accept the session. -/
def ensureValid : Call Unit := do
  unless ← isValid none do renew (← Call.session).id

/-- Upload the archive at a path in place of the contents of a project. It is sent only once, so
that a session the server does not accept is renewed beforehand. -/
def upload (project : Value) (path : String) (name : Option String) : Call Value := do
  if (← Call.act (Action.find? path)).isNone then
    throw (.refused (.noArchive path))
  ensureValid
  let name := archiveName name path
  Call.log .debug "Uploading %s to project %s." [.text path, project]
  match ← Call.act (Action.find? path) with
  | none => throw (.mishap .missingFile)
  | some .folder => throw (.mishap .isFolder)
  | some contents => sendArchive project ⟨name, "application/zip", contents⟩

end Jobflow.Session
