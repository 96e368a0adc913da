import Jobflow.Proofs.Files.Temporary
import Jobflow.Proofs.Session.Records
import Jobflow.Proofs.Session.Saved

/-!
# What an upload puts on record

An upload sends its archive once. Whatever else it sends comes before: the question whether the
session is accepted, and logins. None of these carries a file, and none asks for a project to be
created. An upload may stop before the archive is sent, but it cannot succeed without sending it,
and it sends nothing afterwards.

Creating a project puts requests on record that carry no file, and none of them asks for another
project.

An archive at a temporary path is what is sent, however often: of all files only the settings are
written in between, at a path of another name.
-/

namespace Jobflow

/-- The field of a request's form. -/
def Request.formField? (request : Request) (name : String) : Option Value :=
  (request.data.getD []).lookup name

/-- A request that asks for a project to be created. -/
def Request.AsksToCreate (request : Request) : Prop :=
  request.formField? "action" = some (.text "create")

/-- A request that neither carries a file nor asks for a project to be created. -/
structure Request.Prepares (request : Request) : Prop where
  /-- It carries no file. -/
  noFile : request.file = none
  /-- It does not ask for a project. -/
  noCreation : ¬ request.AsksToCreate

/-- A request that uploads an archive of a project. -/
structure Request.IsUpload (request : Request) (project : String) (archive : Upload) : Prop where
  /-- It carries the archive. -/
  file : request.file = some archive
  /-- Its form says what it is for. -/
  ajax : request.formField? "ajax" = some (.text "upload")
  /-- Its form names the project. -/
  project : request.formField? "project" = some (.text project)
  /-- It does not ask for a project to be created. -/
  noCreation : ¬ request.AsksToCreate

/-- A request for the creation of a project: it carries no file, and if it asks for a project to be
created, it is that one. -/
structure Request.Creates (request : Request) (project : String) : Prop where
  /-- It carries no file. -/
  noFile : request.file = none
  /-- It asks for no other project. -/
  name : request.AsksToCreate → request.formField? "name" = some (.text project)

/-- A login asks for nothing else. -/
theorem Request.IsLogin.prepares {request : Request} {url : String} (login : request.IsLogin url) :
    request.Prepares where
  noFile := login.noFile
  noCreation := by
    rw [AsksToCreate, formField?, login.action]
    simp

/-- A login creates nothing else. -/
theorem Request.IsLogin.creates {request : Request} {url : String} (login : request.IsLogin url)
    (project : String) : request.Creates project :=
  ⟨login.noFile, fun asks => absurd asks login.prepares.noCreation⟩

/-- The path of the usual settings ends in their name. -/
theorem SettingsFile.endsIn_place (here folder : String) :
    FileTree.EndsIn here (place none folder) defaultName :=
  FileTree.endsIn_join (by decide) (by decide) here folder

namespace Session

open Call

/-! ## Requests of a kind -/

variable {kind : Request → Prop}

/-- Nothing but logins comes on record, and these are of the kind. -/
theorem LoginsOnly.adds {before after : Client} (only : LoginsOnly before after)
    (logins : ∀ url request, request.IsLogin url → kind request) : Adds kind before after := by
  obtain ⟨-, sent, recorded, each⟩ := only
  exact ⟨sent, recorded, fun request member => logins _ request (each request member)⟩

/-- If logins are of a kind, the steps of a login put only such requests on record. -/
theorem renewalFrame_adds (logins : ∀ url request, request.IsLogin url → kind request) :
    RenewalFrame (Adds kind) where
  refl _ := .of_same rfl
  trans before after := before.trans after
  logged _ _ := .of_same rfl
  prompted _ _ := .of_same rfl
  tried password client := (loginsOnly_tryPassword password client).adds logins
  renewed _ _ := .of_same rfl
  idKept client := (loginsOnly_keepId client).adds logins

/-- From an earlier to a later client, one request of a kind comes on record. -/
def AddsOne (kind : Request → Prop) (before after : Client) : Prop :=
  ∃ request, after.world.requests = before.world.requests ++ [request] ∧ kind request

/-- One request is some requests. -/
theorem AddsOne.adds {before after : Client} (one : AddsOne kind before after) :
    Adds kind before after := by
  obtain ⟨request, recorded, fits⟩ := one
  exact ⟨[request], recorded, by simpa using fits⟩

/-- From an earlier to a later client, nothing comes on record. -/
def Silent (before after : Client) : Prop := after.world.requests = before.world.requests

/-- What does not send is silent. -/
theorem quietFrame_silent : QuietFrame Silent where
  refl _ := rfl
  trans before after := after.trans before
  logged _ _ := rfl
  prompted _ _ := rfl

/-- A call that is silent after one request sends one request. -/
theorem AddsOne.silent {first second third : Client} (one : AddsOne kind first second)
    (silent : Silent second third) : AddsOne kind first third := by
  obtain ⟨request, recorded, fits⟩ := one
  exact ⟨request, silent.trans recorded, fits⟩

/-- Sending a request of the kind. -/
theorem addsOne_send {request : Request} (fits : kind request) :
    (send request).Within (AddsOne kind) :=
  fun client => ⟨request, requests_send request client, fits⟩

/-- Sending a draft whose requests are of the kind. -/
theorem addsOne_sendDraft {draft : Draft} (fits : ∀ session id, kind (draft.request session id)) :
    (sendDraft draft).Within (AddsOne kind) := by
  intro client
  rw [sendDraft, bind_of_ok _ (session_apply client)]
  exact Call.within_bind (addsOne_send (fits _ _)) (fun _ => quietFrame_silent.within_pure _)
    (fun one => one) AddsOne.silent client

/-! ## One request after others -/

/-- A run of a call puts requests of a kind on record, and at most one of another kind after them.
If it comes to a value, there is one. -/
def AddsThen {α : Type} (kind last : Request → Prop) (before : Client)
    (run : Except Fault α × Client) : Prop :=
  ∃ sent, ∃ final : Option Request,
    run.2.world.requests = before.world.requests ++ sent ++ final.toList ∧
      (∀ request ∈ sent, kind request) ∧ (∀ request ∈ final, last request) ∧
      (run.1.isOk = true → final.isSome = true)

variable {α β : Type} {last : Request → Prop}

/-- There may be no requests before it. -/
theorem AddsOne.addsThen {before : Client} {run : Except Fault α × Client}
    (one : AddsOne last before run.2) : AddsThen kind last before run := by
  obtain ⟨request, recorded, fits⟩ := one
  exact ⟨[], some request, by simpa using recorded, by simp, by simpa using fits, fun _ => rfl⟩

/-- Requests of a call before are further ones; should that call stop, there is no last one. -/
theorem addsThen_bind {first : Call α} {next : α → Call β} (adds : first.Within (Adds kind))
    (goesOn : ∀ value client, AddsThen kind last client (next value client)) (client : Client) :
    AddsThen kind last client ((first >>= next) client) := by
  obtain ⟨sent, recorded, each⟩ := adds client
  rcases run : first client with ⟨fault | value, middle⟩
  · rw [run] at recorded
    rw [bind_of_error next run]
    exact ⟨sent, none, by simpa using recorded, each, by simp, nofun⟩
  · rw [run] at recorded
    obtain ⟨others, final, later, eachOther, ends, reached⟩ := goesOn value middle
    rw [bind_of_ok next run]
    refine ⟨sent ++ others, final, ?_, List.forall_mem_append.mpr ⟨each, eachOther⟩, ends, reached⟩
    rw [later, recorded, List.append_assoc client.world.requests]

/-- A call that is silent afterwards adds no others. -/
theorem AddsThen.bind {first : Call α} {next : α → Call β} {client : Client}
    (adds : AddsThen kind last client (first client))
    (silent : ∀ value, (next value).Within Silent) :
    AddsThen kind last client ((first >>= next) client) := by
  obtain ⟨sent, final, recorded, each, ends, reached⟩ := adds
  rcases run : first client with ⟨fault | value, middle⟩
  · rw [run] at recorded
    rw [bind_of_error next run]
    exact ⟨sent, final, recorded, each, ends, nofun⟩
  · rw [run] at recorded reached
    rw [bind_of_ok next run]
    exact ⟨sent, final, (silent value middle).trans recorded, each, ends, fun _ => reached rfl⟩

/-- A request that is never sent again comes after all logins. -/
theorem addsThen_request {draft : Draft} (once : draft.retries = 0)
    (logins : ∀ url request, request.IsLogin url → kind request)
    (fits : ∀ session id, last (draft.request session id)) (client : Client) :
    AddsThen kind last client (request draft client) := by
  have exchanged :
      (exchange (sendDraft draft) renew draft.retries.toNat).Within (AddsOne last) := by
    rw [once, Int.toNat_zero, exchange]
    refine Call.within_bind (addsOne_sendDraft fits) (fun sent => ?_) (fun one => one)
      AddsOne.silent
    dsimp only
    split
    · exact quietFrame_silent.within_pure _
    · exact quietFrame_silent.within_throw _
  have answered := Call.within_bind exchanged (quietFrame_silent.within_checkStatus draft)
    (fun one => one) AddsOne.silent
  rw [request, bind_of_ok _ (session_apply client)]
  dsimp only
  split
  · exact (answered client).addsThen
  · exact addsThen_bind ((renewalFrame_adds logins).within_renew .null)
      (fun _ client => (answered client).addsThen) client

/-! ## Uploads and creations -/

/-- The form of a request for a draft that carries the id there. -/
theorem formField?_request {draft : Draft} (placed : draft.placement = .formField)
    (session : Session) (id : Value) {name : String} (other : name ≠ Draft.idField) :
    (draft.request session id).formField? name = (draft.data.getD []).lookup name := by
  rw [Draft.request, placed]
  exact (lookup_insertEntry Draft.idField id (draft.data.getD []) name).trans (if_neg other)

/-- The request of an upload uploads the archive. -/
theorem isUpload_request (project : String) (archive : Upload) (session : Session) (id : Value) :
    ((uploadDraft (.text project) archive).request session id).IsUpload project archive where
  file := rfl
  ajax := formField?_request rfl session id (by decide)
  project := formField?_request rfl session id (by decide)
  noCreation := by
    rw [Request.AsksToCreate, formField?_request rfl session id (by decide)]
    exact nofun

/-- Asking whether the session is accepted prepares at most. -/
theorem prepares_probeRequest (session : Session) : session.probeRequest.Prepares where
  noFile := rfl
  noCreation := nofun

/-- The request of a creation creates the project. -/
theorem creates_request (project : String) (session : Session) (id : Value) :
    ((creationDraft (.text project) (.text project)).request session id).Creates project :=
  ⟨rfl, fun _ => rfl⟩

/-- Uploading an archive once puts it on record at most once, after logins. -/
theorem addsThen_sendArchive (project : String) (archive : Upload) (client : Client) :
    AddsThen Request.Prepares (fun request => request.IsUpload project archive) client
      (sendArchive (.text project) archive client) := by
  refine (addsThen_request rfl (fun _ _ login => login.prepares)
    (isUpload_request project archive) client).bind fun _ => ?_
  exact quietFrame_silent.within_bind (quietFrame_silent.within_document _) fun _ =>
    quietFrame_silent.within_bind (quietFrame_silent.within_log _ _ _) fun _ =>
      quietFrame_silent.within_pure _

/-- Logging in again if the session is not accepted prepares at most. -/
theorem adds_ensureValid : ensureValid.Within (Adds Request.Prepares) :=
  (renewalFrame_adds fun _ _ login => login.prepares).within_ensureValid fun session client =>
    (addsOne_send (prepares_probeRequest session) client).adds

/-- Creating a project puts nothing else on record. -/
theorem adds_createProject (project : String) :
    (createProject (.text project) (.text project)).Within
      (Adds fun request => request.Creates project) :=
  (renewalFrame_adds fun _ _ login => login.creates project).within_createProject _ _ fun client =>
    (addsOne_sendDraft (creates_request project) client).adds

/-! ## The archive stays as it is -/

/-- A client works in a folder, finds a file at its temporary path, and saves its settings, if it
has any, at the usual place. -/
structure Holds (folder : String) (place : List String) (file : File) (client : Client) : Prop where
  /-- The folder. -/
  here : client.world.folder = folder
  /-- The file. -/
  found : client.world.tree.find folder (Action.temporaryPath folder) = .ok (place, file)
  /-- The settings. -/
  settings : ∀ settings ∈ client.session.settings, settings.path = SettingsFile.place none folder

variable {folder : String} {place : List String} {file : File}

/-- The file stays as long as files and settings stay. -/
theorem Holds.of_same {before after : Client} (holds : Holds folder place file before)
    (files : files after = files before)
    (settings : after.session.settings = before.session.settings) :
    Holds folder place file after where
  here := (congrArg (fun seen => seen.2.1) files).trans holds.here
  found := by
    have tree : after.world.tree = before.world.tree := congrArg Prod.fst files
    rw [tree]
    exact holds.found
  settings := settings ▸ holds.settings

/-- The file is still there if it was. -/
def StillHolds (folder : String) (place : List String) (file : File) (before after : Client) :
    Prop :=
  Holds folder place file before → Holds folder place file after

/-- Sending leaves the file. -/
theorem frame_holds : Frame (StillHolds folder place file) where
  refl _ := fun holds => holds
  trans before after := fun holds => after (before holds)
  logged _ _ := fun holds => holds.of_same rfl rfl
  prompted _ _ := fun holds => holds.of_same rfl rfl
  sent request client := fun holds =>
    holds.of_same (frame_files.sent request client)
      (congrArg Session.settings (frame_session.sent request client))

/-- Keeping an id writes elsewhere. -/
theorem holds_keepId : keepId.Within (StillHolds folder place file) := by
  intro client holds
  cases settings : client.session.settings with
  | none =>
    rw [keepId, bind_of_ok _ (session_apply client)]
    simp only [settings]
    exact holds
  | some kept =>
    have path : kept.path = SettingsFile.place none folder := holds.settings kept settings
    have known : ∀ file ∈ some (client.session.settingsWithId kept),
        file.path = SettingsFile.place none folder := by
      rintro file ⟨⟩
      exact path
    rw [keepId_apply settings, holds.here, path]
    split
    · next tree written =>
      exact ⟨holds.here, FileTree.find_write_other (FileTree.endsIn_temporaryPath folder folder)
        (SettingsFile.endsIn_place folder folder) (by decide) holds.found written, known⟩
    · exact ⟨holds.here, holds.found, known⟩

/-- The steps of a login leave the file. -/
theorem renewalFrame_holds : RenewalFrame (StillHolds folder place file) where
  toQuietFrame := frame_holds.toQuietFrame
  tried := frame_holds.within_tryPassword
  renewed _ _ := fun holds => holds.of_same rfl rfl
  idKept := holds_keepId

/-- An upload leaves the file. -/
theorem holds_upload (project : Value) (path : String) (name : Option String) :
    (upload project path name).Within (StillHolds folder place file) :=
  renewalFrame_holds.within_upload _ _ _ (fun _ => frame_holds.within_send _) fun _ =>
    frame_holds.within_sendDraft _

/-- A creation leaves the file. -/
theorem holds_createProject (name description : Value) :
    (createProject name description).Within (StillHolds folder place file) :=
  renewalFrame_holds.within_createProject _ _ (frame_holds.within_sendDraft _)

/-- Looking for the file finds it. -/
theorem find?_of_holds {client : Client} (holds : Holds folder place file client) :
    act (Action.find? (Action.temporaryPath folder)) client = (.ok (some file), client) := by
  rw [act, Action.find?_apply, holds.here, holds.found]
  rfl

/-- An upload of a file that is there sends it once the session is accepted. -/
theorem upload_of_holds {client : Client} (holds : Holds folder place file client)
    (notFolder : file ≠ .folder) (project : Value) (name : Option String) :
    upload project (Action.temporaryPath folder) name client =
      (do
        ensureValid
        Call.log .debug "Uploading %s to project %s."
          [.text (Action.temporaryPath folder), project]
        sendArchive project
          ⟨archiveName name (Action.temporaryPath folder), "application/zip", file⟩) client := by
  have stays : Holds folder place file (ensureValid client).2 :=
    renewalFrame_holds.within_ensureValid (fun _ => frame_holds.within_send _) client holds
  rw [upload, bind_of_ok _ (find?_of_holds holds)]
  show (ensureValid >>= _) client = _
  rcases run : ensureValid client with ⟨fault | _, middle⟩
  · rw [bind_of_error _ run, bind_of_error _ run]
  · rw [run] at stays
    rw [bind_of_ok _ run, bind_of_ok _ run]
    obtain ⟨entries, logged⟩ := exists_log_apply .debug "Uploading %s to project %s."
      [.text (Action.temporaryPath folder), project] middle
    have there : Holds folder place file (middle.logged entries) := stays.of_same rfl rfl
    rw [bind_of_ok _ logged, bind_of_ok _ logged, bind_of_ok _ (find?_of_holds there)]
    cases file with
    | folder => exact absurd rfl notFolder
    | _ => rfl

/-- An upload puts an archive that is there on record at most once, after requests that prepare
it. -/
theorem addsThen_upload {client : Client} (holds : Holds folder place file client)
    (notFolder : file ≠ .folder) (project : String) (name : Option String) :
    AddsThen Request.Prepares
      (fun request => request.IsUpload project
        ⟨archiveName name (Action.temporaryPath folder), "application/zip", file⟩) client
      (upload (.text project) (Action.temporaryPath folder) name client) := by
  rw [upload_of_holds holds notFolder]
  refine addsThen_bind adds_ensureValid (fun _ middle => ?_) client
  refine addsThen_bind (fun _ => ?_) (fun _ => addsThen_sendArchive project _) middle
  exact .of_same (quietFrame_silent.within_log _ _ _ _)

end Session

end Jobflow
