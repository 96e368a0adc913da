import Jobflow.Flow.Defect
import Jobflow.Template

/-!
# Faults

What stops an operation. The library refuses a request, finds a workflow defective, or
passes on what the server said or what kept it from answering; each cause has its own
constructor, and its wording is one function. Other faults come from values of a shape
that an operation cannot work with, or from files that are not there; they have a kind
and no wording.
-/

namespace Jobflow

open Text (quote join)

/-- Why the library refuses a request. -/
inductive Refusal
  /-- The settings file is not well formed. -/
  | unreadableSettings (path reason : String)
  /-- A setting without a default has no value. -/
  | unsetOption (name sectionName path : String)
  /-- There is no properties file at a path. -/
  | noPropertiesFile (path : String)
  /-- A properties file cannot be read. -/
  | unreadableProperties (path reason : String)
  /-- A definition set, given by its quoted name, was not declared. -/
  | unknownSet (quoted : String) (available : List String)
  /-- A definition is in neither the current nor the default set; names are quoted. -/
  | unknownDefinition (quoted quotedSet : String)
  /-- A workflow would contain itself. -/
  | selfEmbedding (workflow : String)
  /-- A project has no workflow of a name. -/
  | unknownWorkflow (name : String) (available : List String)
  /-- Workflows are added to a project by its own operation only. -/
  | directAssignment (workflow : String)
  /-- A project has two workflows of one name. -/
  | duplicateWorkflow (name : String)
  /-- A relative path is given to a project without a root. -/
  | noProjectRoot (path : String)
  /-- There is no file at a path. -/
  | fileNotFound (path : String)
  /-- A file is outside of the project root and has no archive path. -/
  | outsideRoot (path : String)
  /-- Two files have one archive path. -/
  | archivePathTaken (archivePath current : String)
  /-- Something exists where an archive is to be written. -/
  | pathExists (path : String)
  /-- A project has nothing to package. -/
  | noWorkflows (project : String)
  /-- A server URL has no host. -/
  | malformedUrl (url : String)
  /-- The archive to upload is not there. -/
  | noArchive (path : String)
  /-- A server alias has no section in the settings. -/
  | unknownAlias (name : String)
  /-- A server alias has no URL. -/
  | aliasWithoutUrl (name : String)
  /-- There is no project module at a path. -/
  | noProjectModule (path : String)
  /-- A module does not define the project asked for. -/
  | unknownProject (name path : String) (available : List String)
  /-- A module defines no project, or several. -/
  | ambiguousModule (count : Nat) (path : String)
  /-- The server rejected an archive. -/
  | uploadRejected (project : String)
  /-- The server did not allow an upload. -/
  | uploadForbidden (project : String)
  /-- There is no log file. -/
  | noLogFile
deriving DecidableEq, Repr

/-- The names joined by commas, or a word for their absence. -/
def listed (names : List String) : String :=
  if names.isEmpty then "none" else join ", " names

/-- The wording of a refusal. -/
def Refusal.message : Refusal → String
  | .unreadableSettings path reason => "Unable to parse " ++ quote path ++ ": " ++ reason
  | .unsetOption name sectionName path =>
    "Option `" ++ name ++ "` is not set in section `" ++ sectionName ++ "` of " ++
      quote path ++ "."
  | .noPropertiesFile path => "No properties file found at " ++ path ++ "."
  | .unreadableProperties path reason =>
    "Unable to read properties from " ++ quote path ++ ": " ++ reason
  | .unknownSet quoted available =>
    "Definition set " ++ quoted ++ " not found. Available sets: " ++ join ", " available
  | .unknownDefinition quoted quotedSet =>
    "Definition " ++ quoted ++ " not found in set " ++ quotedSet ++ "."
  | .selfEmbedding workflow => "Cannot embed workflow " ++ quote workflow ++ " in itself."
  | .unknownWorkflow name available =>
    "Workflow " ++ quote name ++ " not found. Available workflows: " ++ listed available
  | .directAssignment workflow =>
    "Use `Project.add_workflow` to add workflow " ++ quote workflow ++ "."
  | .duplicateWorkflow name => "Duplicate workflow: " ++ quote name ++ "."
  | .noProjectRoot path => "Relative path " ++ quote path ++ " requires a project root."
  | .fileNotFound path => "File not found: " ++ quote path ++ "."
  | .outsideRoot path =>
    "File " ++ quote path ++ " is outside of the project root, an archive path is required."
  | .archivePathTaken archivePath current =>
    "Archive path " ++ quote archivePath ++ " is already used by " ++ quote current ++ "."
  | .pathExists path => "Path " ++ quote path ++ " already exists."
  | .noWorkflows project => "Project " ++ project ++ " has no workflows."
  | .malformedUrl url => "Malformed url: " ++ quote url
  | .noArchive path => "Unable to find archive at " ++ quote path ++ "."
  | .unknownAlias name => "Alias not found: " ++ quote name
  | .aliasWithoutUrl name => "No url defined for alias " ++ quote name ++ "."
  | .noProjectModule path =>
    "No project module found at " ++ quote path ++
      ". Use `--project` to specify another location."
  | .unknownProject name path available =>
    "Project " ++ quote name ++ " not found in " ++ quote path ++ ". Available projects: " ++
      listed available
  | .ambiguousModule count path =>
    toString count ++ " registered projects found in " ++ quote path ++
      ", exactly one is required. Use `--project=module:name` to select one."
  | .uploadRejected project =>
    "Upload of " ++ project ++ " rejected (HTTP 400). Check that the project exists, " ++
      "is not locked, and that you are allowed to write to it."
  | .uploadForbidden project =>
    "Not allowed to upload " ++ project ++ " (HTTP 401). Check that you are allowed to " ++
      "write to it."
  | .noLogFile => "No log file active."

/-- What the server said, or why it could not be heard. -/
inductive RemoteTrouble
  /-- The server URL has no scheme to send a request with. -/
  | invalidServer (url : String)
  /-- A request got no answer in time. -/
  | timedOut (url reason : String)
  /-- The server could not be reached. -/
  | unreachable (url reason : String)
  /-- An answer is not a document. -/
  | undecodable (url : String)
  /-- The server reports an error, whose message can be any value. -/
  | reported (message : Value)
  /-- The flows of a project cannot be listed. -/
  | flowsNotListed (project reason : String)
  /-- The server knows no project of a name. -/
  | unknownProject (project : String)
  /-- Every attempt to log in was refused. -/
  | tooManyAttempts
  /-- The flows to report on are not known. -/
  | flowsUnavailable (server reason : String)
deriving Repr

/-- The wording of a trouble with the server; a reported message stays the value it is. -/
def RemoteTrouble.message : RemoteTrouble → Value
  | .invalidServer url => .text ("Invalid Azkaban server url: " ++ quote url ++ ".")
  | .timedOut url reason => .text ("Request to " ++ url ++ " timed out: " ++ reason)
  | .unreachable url reason => .text ("Unable to reach Azkaban at " ++ url ++ ": " ++ reason)
  | .undecodable url => .text ("Invalid response from " ++ url ++ ".")
  | .reported message => message
  | .flowsNotListed project reason =>
    .text ("Unable to list flows of " ++ project ++ ": " ++ reason)
  | .unknownProject project => .text ("Project " ++ project ++ " not found.")
  | .tooManyAttempts => .text "Too many unsuccessful login attempts. Aborting."
  | .flowsUnavailable server reason =>
    .text ("Fetching flows from " ++ server ++ " failed. Reason: " ++ reason)

/-- What keeps a request from being answered. -/
inductive Transport
  /-- No answer came in time. -/
  | timeout
  /-- No connection came up in time. -/
  | connectTimeout
  /-- A connection came up but its answer did not come in time. -/
  | readTimeout
  /-- There is no connection. -/
  | connection
  /-- The connection is not secure. -/
  | insecure
  /-- There is no connection to the proxy. -/
  | proxy
  /-- The answer has a status that counts as an error. -/
  | status
  /-- The URL is not valid. -/
  | invalidUrl
  /-- The URL has a scheme that cannot be used. -/
  | invalidScheme
  /-- The URL has no scheme. -/
  | missingScheme
  /-- The server redirects without end. -/
  | tooManyRedirects
  /-- A part of the answer is not well formed. -/
  | brokenChunk
  /-- The content of the answer cannot be decoded. -/
  | brokenContent
  /-- The request was repeated in vain. -/
  | retriesExhausted
  /-- Any other failure to exchange messages. -/
  | other
deriving DecidableEq, Repr

/-- Whether a failure is a lack of time. -/
def Transport.isTimeout : Transport → Bool
  | .timeout | .connectTimeout | .readTimeout => true
  | _ => false

/-- Whether a failure is a lack of a connection. -/
def Transport.isConnection : Transport → Bool
  | .connection | .connectTimeout | .insecure | .proxy => true
  | _ => false

/-- The kinds of faults that carry no wording. -/
inductive Mishap
  /-- A value has not the shape that an operation works on. -/
  | wrongShape
  /-- A mapping lacks a key. -/
  | missingKey
  /-- A value lacks an operation. -/
  | missingOperation
  /-- A value has the right shape but no meaning. -/
  | badValue
  /-- A row has more cells than there are columns. -/
  | missingCell
  /-- A number is too large. -/
  | tooLarge
  /-- A time is beyond the years that the system counts. -/
  | beyondClock
  /-- There is no file at a path. -/
  | missingFile
  /-- There is a folder where a file is needed. -/
  | isFolder
  /-- There is a file where a folder is needed. -/
  | notFolder
  /-- A name is empty. -/
  | emptyName
  /-- A name is too long for an archive. -/
  | longName
  /-- A date is beyond the years that archives count. -/
  | lateDate
  /-- There is no module of a name. -/
  | missingModule
  /-- Bytes are no text. -/
  | undecodable
  /-- A settings section has two values for one option. -/
  | repeatedOption
  /-- A settings file has two sections of one name. -/
  | repeatedSection
  /-- A value or workflow is nested too deeply, or in itself. -/
  | endless
  /-- Documents have no form for the class of a value. -/
  | unrepresentable
deriving DecidableEq, Repr

/-- The kinds of errors with a wording that the library distinguishes. -/
inductive ErrorKind
  /-- Any error of the library. -/
  | general
  /-- A defective workflow. -/
  | validation
  /-- Trouble with the server. -/
  | remote
  /-- The server does not accept the session. -/
  | sessionExpired
  /-- The server does not accept the session right after logging in. -/
  | sessionRejected
deriving DecidableEq, Repr

/-- The kinds that an error of a kind belongs to: a rejected session is also trouble with
the server, and all are errors of the library. -/
def ErrorKind.kinds : ErrorKind → List ErrorKind
  | .general => [.general]
  | .validation => [.general, .validation]
  | .remote => [.general, .remote]
  | .sessionExpired => [.general, .sessionExpired]
  | .sessionRejected => [.general, .remote, .sessionRejected]

/-- What stops an operation. -/
inductive Fault
  /-- The library refuses a request. -/
  | refused (reason : Refusal)
  /-- A workflow is defective. -/
  | invalidFlow (defect : Flow.Defect)
  /-- There is trouble with the server. -/
  | remote (trouble : RemoteTrouble)
  /-- The server does not accept the session. -/
  | sessionExpired (reason : String)
  /-- The server does not accept the session right after logging in. -/
  | sessionRejected (reason : String)
  /-- A profile or module stops with an error of the library. -/
  | raised (kind : ErrorKind) (message : Value)
  /-- A request was not answered. The status is known when the answer itself counts as an
  error. -/
  | transport (failure : Transport) (status : Option Int) (message : String)
  /-- A session can be passed as a cookie or a form field only. -/
  | invalidPlacement (placement : Value)
  /-- A project module has no path. -/
  | noModulePath (path : String)
  /-- A fault without wording. -/
  | mishap (kind : Mishap)
deriving Repr

/-- The kind of an error of the library; other faults have none. -/
def Fault.kind? : Fault → Option ErrorKind
  | .refused _ => some .general
  | .invalidFlow _ => some .validation
  | .remote _ => some .remote
  | .sessionExpired _ => some .sessionExpired
  | .sessionRejected _ => some .sessionRejected
  | .raised kind _ => some kind
  | _ => none

/-- Whether a fault is trouble with the server, a rejected session included. -/
def Fault.isRemote (fault : Fault) : Bool :=
  match fault.kind? with
  | some kind => kind.kinds.contains .remote
  | none => false

/-- Whether a fault is a session rejected after logging in. -/
def Fault.isSessionRejected (fault : Fault) : Bool :=
  fault.kind? == some .sessionRejected

/-- The wording of a fault, as the value it was given. -/
def Fault.message : Fault → Value
  | .refused reason => .text reason.message
  | .invalidFlow defect => .text defect.message
  | .remote trouble => trouble.message
  | .sessionExpired reason => .text reason
  | .sessionRejected reason => .text ("Session rejected by Azkaban server: " ++ reason)
  | .raised _ message => message
  | .transport _ _ message => .text message
  | .invalidPlacement placement => .text ("Invalid `include_session`: " ++ placement.repr)
  | .noModulePath path => .text ("Invalid project module path: " ++ quote path)
  | .mishap _ => .text ""

/-- The text of a fault in messages. -/
def Fault.text (fault : Fault) : String := fault.message.str

/-- The fault of a template that cannot be filled. -/
def TemplateError.fault : TemplateError → Fault
  | .argumentCount | .argumentKind | .namedPlace => .mishap .wrongShape
  | .argumentSize => .mishap .tooLarge
  | .malformedPlace => .mishap .badValue

end Jobflow
