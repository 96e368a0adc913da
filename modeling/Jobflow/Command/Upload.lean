import Jobflow.Command.Selection
import Jobflow.Files.Temporary
import Jobflow.Session.Api

/-!
# Uploading projects

The archive of a project is built at a temporary path and uploaded. When the server does
not know the project, it can be created on the way, and the archive is uploaded again.
-/

namespace Jobflow.Command

variable [Handlers]

/-- What follows a failed upload. -/
inductive Recovery
  /-- The project is created, and the archive uploaded again. -/
  | createProject
  /-- The command fails. -/
  | fail (fault : Fault)

/-- What the end of a message says about a project that the server does not know. -/
def missingProjectEnding : String := "doesn't exist."

/-- What follows an upload that failed, when projects may be created. -/
def recovery (create : Bool) (project : String) (fault : Fault) : Recovery :=
  if fault.isRemote then
    if !create then .fail fault
    else
      match fault.message with
      | .text message =>
        if Text.endsWith message missingProjectEnding then .createProject else .fail fault
      | _ => .fail (.mishap .missingOperation)
  else
    match fault with
    | .transport .status none _ => .fail (.mishap .missingOperation)
    | .transport .status (some status) _ =>
      if status = 400 then .fail (.refused (.uploadRejected project))
      else if status = 401 then .fail (.refused (.uploadForbidden project))
      else if create && status = 410 then .createProject
      else .fail fault
    | other => .fail other

/-- The log entry of a project that is about to be created. -/
def creatingEntry (project : String) : LogEntry :=
  ⟨.info, "Project " ++ project ++ " is missing, creating it."⟩

/-- Upload the archive at a path, creating the project if that is needed and allowed. -/
def uploadArchive (project path archiveName : String) (create : Bool) : Call Value := do
  let upload := Session.upload (.text project) path (some archiveName)
  match ← upload.outcome with
  | .ok result => return result
  | .error fault =>
    match recovery create project fault with
    | .fail fault => throw fault
    | .createProject =>
      Call.act (Action.log (some (creatingEntry project)))
      let _ ← Session.createProject (.text project) (.text project)
      upload

/-- What an upload comes to: the server's answer, the server's URL, and the size of the
archive. -/
structure Uploaded where
  /-- The answer. -/
  answer : Value
  /-- The server's URL. -/
  url : String
  /-- The size in bytes. -/
  size : Nat

/-- Make a call with a new session. -/
def withSession {α : Type} (session : Session) (call : Call α) : Action α := fun world =>
  let (result, client) := call ⟨session, world⟩
  (result, client.world)

/-- The size of the file at a path. -/
def sizeAt (path : String) : Action Nat := do
  match ← Action.find? path with
  | some file => return file.size
  | none => throw (.mishap .missingFile)

/-- Build the archive of a project at a path, and upload it from there. -/
def uploadAt (project : Project) (url name : Option String) (create : Bool) (path : String) :
    Action Uploaded := do
  project.build path false
  let session ← openSession url name
  let answer ← withSession session
    (uploadArchive project.name path (project.versionedName ++ ".zip") create)
  return ⟨answer, session.url, ← sizeAt path⟩

/-- Build and upload the archive of a project. -/
def uploadProject (project : Project) (url name : Option String) (create : Bool) :
    Action Uploaded :=
  Action.withTemporary (uploadAt project url name create)

end Jobflow.Command
