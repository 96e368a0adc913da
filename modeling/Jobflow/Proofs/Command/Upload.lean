import Jobflow.Command.Upload
import Jobflow.Proofs.Project.Archive
import Jobflow.Proofs.Session.Uploads

/-!
# Uploads of projects

The archive of a project is built at a temporary path, uploaded from there, and taken away again.
Before it is built, nothing is sent, so that nothing is sent at all for a project with a workflow
that has no flow. What is sent then is the course of an upload: one attempt, and if that fails
because the server does not know the project and the project may be created, its creation and,
after that, a second attempt. An attempt may fail before the archive is sent, be it because the
server cannot be asked whether it accepts the session or because no password is accepted; such an
attempt counts like any other one.

The archive is the same in both attempts, as nothing but the settings is written in between, and
these have another name.
-/

namespace Jobflow.Command

open Session

/-! ## The session of a server -/

/-- An action chooses a session with the given settings, and changes nothing. -/
def Chooses (settings : SettingsFile) (action : Action Session) : Prop :=
  ∀ world, ∃ result, action world = (result, world) ∧
    ∀ session, result = .ok session → session.settings = some settings

/-- A refusal chooses none. -/
theorem chooses_refuse (settings : SettingsFile) (reason : Refusal) :
    Chooses settings (Action.refuse reason) := fun _ => ⟨.error (.refused reason), rfl, nofun⟩

/-- A session of a server has the given settings. -/
theorem chooses_ofUrl (url : String) (settings : SettingsFile) (options : SessionOptions) :
    Chooses settings (Session.ofUrl url (some settings) options) := by
  intro world
  rw [ofUrl_apply]
  refine ⟨_, rfl, fun session given => ?_⟩
  cases read : Server.Address.ofUrl url with
  | error fault => rw [read] at given; cases given
  | ok address => rw [read] at given; cases given; rfl

/-- So does a session of a server's name. -/
theorem chooses_ofAlias (name : String) (settings : SettingsFile) :
    Chooses settings (Session.ofAlias name settings) := by
  intro world
  unfold Session.ofAlias
  dsimp only
  split
  · cases settings.settings.get? ("alias." ++ name) "url" with
    | none => exact chooses_refuse settings _ world
    | some url =>
      dsimp only
      rcases settings.sessionOptions ("alias." ++ name) with mishap | options
      · have given : Action.ofMishap (.error mishap : Except Mishap SessionOptions) world =
            (.error (.mishap mishap), world) := rfl
        rw [Action.bind_of_error _ given]
        exact ⟨_, rfl, nofun⟩
      · have given : Action.ofMishap (.ok options) world = (.ok options, world) := rfl
        rw [Action.bind_of_ok _ given]
        exact chooses_ofUrl url.str settings options world
  · exact chooses_refuse settings (.unknownAlias name) world

/-- A chosen session has the usual settings, and choosing it changes nothing. -/
theorem exists_openSession_apply (url name : Option String) (world : World) :
    ∃ result, openSession url name world = (result, world) ∧
      ∀ session, result = .ok session →
        ∀ settings ∈ session.settings, settings.path = SettingsFile.place none world.folder := by
  have load := SettingsFile.load_apply none world
  cases read : SettingsFile.contents (SettingsFile.place none world.folder)
      ((world.tree.find world.folder (SettingsFile.place none world.folder)).toOption.map
        Prod.snd) with
  | error fault =>
    rw [read] at load
    exact ⟨.error fault, Action.bind_of_error _ load, nofun⟩
  | ok kept =>
    rw [read] at load
    obtain ⟨result, opened, given⟩ : ∃ result, openSession url name world = (result, world) ∧
        ∀ session, result = .ok session → session.settings = some _ := by
      rw [openSession, Action.bind_of_ok _ load]
      cases url.filter fun text => !text.isEmpty with
      | some url => exact chooses_ofUrl url _ {} world
      | none =>
        cases name.filter fun text => !text.isEmpty with
        | some name => exact chooses_ofAlias name _ world
        | none =>
          dsimp only
          cases SettingsFile.getOption _ defaultsSection "default.alias" none with
          | ok name => exact chooses_ofAlias name.str _ world
          | error reason => exact chooses_refuse _ reason world
    refine ⟨result, opened, fun session same settings member => ?_⟩
    rw [given session same] at member
    cases member
    rfl

/-! ## What follows a failed upload -/

/-- What an upload may fail with when the server does not know the project. -/
inductive Missing : Fault → Prop
  /-- The server says so. -/
  | reported {fault : Fault} {message : String} (remote : fault.isRemote = true)
    (words : fault.message = .text message)
    (ending : Text.endsWith message missingProjectEnding = true) : Missing fault
  /-- The status says so. -/
  | gone (message : String) : Missing (.transport .status (some 410) message)

/-- A project is created if that is allowed and the project is missing; otherwise the command
fails. -/
theorem recovery_eq_createProject_iff (create : Bool) (project : String) (fault : Fault) :
    recovery create project fault = .createProject ↔ create = true ∧ Missing fault := by
  constructor
  · intro recovers
    unfold recovery at recovers
    split at recovers
    · next remote =>
      split at recovers
      · cases recovers
      · next allowed =>
        split at recovers
        · next message words =>
          split at recovers
          · next ending => exact ⟨by simpa using allowed, .reported remote words ending⟩
          · cases recovers
        · cases recovers
    · split at recovers
      · cases recovers
      · next status message _ =>
        split at recovers
        · cases recovers
        · split at recovers
          · cases recovers
          · split at recovers
            · next condition =>
              obtain ⟨allowed, rfl⟩ : create = true ∧ status = 410 := by simpa using condition
              exact ⟨allowed, .gone message⟩
            · cases recovers
      · cases recovers
  · rintro ⟨rfl, missing⟩
    cases missing with
    | reported remote words ending => simp [recovery, remote, words, ending]
    | gone message => rfl

/-! ## The course of an upload -/

/-- An upload of an archive at a path, with what it puts on record: the archive at most once, after
requests that prepare it, and exactly once if it succeeds. -/
structure Attempt (project path : String) (archive : Upload) (before : Client)
    (result : Except Fault Value) (after : Client) : Prop where
  /-- The upload. -/
  run : Session.upload (.text project) path (some archive.name) before = (result, after)
  /-- What it sends. -/
  sent : AddsThen Request.Prepares (fun request => request.IsUpload project archive) before
    (result, after)

/-- A creation of a project, with what it puts on record. -/
structure Creation (project : String) (before : Client) (result : Except Fault Value)
    (after : Client) : Prop where
  /-- The creation, which is logged first. -/
  run : Session.createProject (.text project) (.text project)
    (before.logged [creatingEntry project]) = (result, after)
  /-- What it sends. -/
  sent : Adds (fun request => request.Creates project) before after

/-- How an archive is uploaded. The project is created only if that is allowed and the upload failed
because it is missing, and there is a second upload exactly if it was created. -/
inductive Course (project path : String) (archive : Upload) (create : Bool) (before : Client) :
    Except Fault Value → Client → Prop
  /-- The upload succeeds. -/
  | uploaded {answer : Value} {after : Client}
    (first : Attempt project path archive before (.ok answer) after) :
    Course project path archive create before (.ok answer) after
  /-- The upload fails for good. -/
  | failed {fault raised : Fault} {after : Client}
    (first : Attempt project path archive before (.error fault) after)
    (final : ¬ (create = true ∧ Missing fault))
    (fails : recovery create project fault = .fail raised) :
    Course project path archive create before (.error raised) after
  /-- The upload fails, and so does the creation. -/
  | uncreated {fault raised : Fault} {middle after : Client}
    (first : Attempt project path archive before (.error fault) middle)
    (allowed : create = true) (missing : Missing fault)
    (creation : Creation project middle (.error raised) after) :
    Course project path archive create before (.error raised) after
  /-- The upload fails, and there is another one after the creation. -/
  | repeated {fault : Fault} {answer : Value} {result : Except Fault Value}
    {middle later after : Client}
    (first : Attempt project path archive before (.error fault) middle)
    (allowed : create = true) (missing : Missing fault)
    (creation : Creation project middle (.ok answer) later)
    (second : Attempt project path archive later result after) :
    Course project path archive create before result after

section

variable {folder : String} {place : List String} {file : File}

/-- A name with the usual extension is the name of an archive. -/
theorem archiveName_append_zip (name path : String) :
    Session.archiveName (some (name ++ ".zip")) path = name ++ ".zip" := by
  have given : (some (name ++ ".zip")).filter (fun name => !name.isEmpty) =
      some (name ++ ".zip") := by simp
  rw [archiveName, given]
  exact if_pos (Text.endsWith_append name ".zip")

/-- An upload of an archive at a temporary path is an attempt, and leaves the archive. -/
theorem attempt_of_holds {client : Client} (holds : Holds folder place file client)
    (notFolder : file ≠ .folder) (project name : String) {result : Except Fault Value}
    {after : Client}
    (run : Session.upload (.text project) (Action.temporaryPath folder) (some (name ++ ".zip"))
      client = (result, after)) :
    Attempt project (Action.temporaryPath folder) ⟨name ++ ".zip", "application/zip", file⟩ client
        result after ∧
      Holds folder place file after := by
  have sent := addsThen_upload holds notFolder project (some (name ++ ".zip"))
  have still : Holds folder place file (Session.upload (.text project)
      (Action.temporaryPath folder) (some (name ++ ".zip")) client).2 :=
    holds_upload _ _ _ client holds
  rw [run] at sent still
  rw [archiveName_append_zip] at sent
  exact ⟨⟨run, sent⟩, still⟩

/-- What is logged before a creation is no request, and the creation leaves the archive. -/
theorem creation_of_holds {client : Client} (holds : Holds folder place file client)
    (project : String) {result : Except Fault Value} {after : Client}
    (run : Session.createProject (.text project) (.text project)
      (client.logged [creatingEntry project]) = (result, after)) :
    Creation project client result after ∧ Holds folder place file after := by
  have sent := adds_createProject project (client.logged [creatingEntry project])
  have still : Holds folder place file (Session.createProject (.text project) (.text project)
      (client.logged [creatingEntry project])).2 :=
    holds_createProject _ _ _ (holds.of_same rfl rfl)
  rw [run] at sent still
  exact ⟨⟨run, sent⟩, still⟩

/-- After an upload that failed because the project is missing, the course goes on with its
creation, and the archive is left. -/
theorem course_of_missing {before client : Client} {project name : String} {create : Bool}
    {fault : Fault} (holds : Holds folder place file client) (notFolder : file ≠ .folder)
    (first : Attempt project (Action.temporaryPath folder)
      ⟨name ++ ".zip", "application/zip", file⟩ before (.error fault) client)
    (allowed : create = true) (missing : Missing fault) :
    ∃ result after,
      (do
        let _ ← Session.createProject (.text project) (.text project)
        Session.upload (.text project) (Action.temporaryPath folder) (some (name ++ ".zip")))
          (client.logged [creatingEntry project]) = (result, after) ∧
      Course project (Action.temporaryPath folder) ⟨name ++ ".zip", "application/zip", file⟩ create
        before result after ∧
      Holds folder place file after := by
  rcases created : Session.createProject (.text project) (.text project)
    (client.logged [creatingEntry project]) with ⟨raised | answer, later⟩
  · obtain ⟨creation, there⟩ := creation_of_holds holds project created
    exact ⟨_, _, Call.bind_of_error _ created, .uncreated first allowed missing creation, there⟩
  · obtain ⟨creation, there⟩ := creation_of_holds holds project created
    rcases again : Session.upload (.text project) (Action.temporaryPath folder)
      (some (name ++ ".zip")) later with ⟨result, after⟩
    obtain ⟨second, kept⟩ := attempt_of_holds there notFolder project name again
    exact ⟨result, after, (Call.bind_of_ok _ created).trans again,
      .repeated first allowed missing creation second, kept⟩

/-- Uploading an archive takes its course, and leaves the archive. -/
theorem course_uploadArchive {client : Client} (holds : Holds folder place file client)
    (notFolder : file ≠ .folder) (project name : String) (create : Bool) :
    ∃ result after,
      uploadArchive project (Action.temporaryPath folder) (name ++ ".zip") create client =
        (result, after) ∧
      Course project (Action.temporaryPath folder) ⟨name ++ ".zip", "application/zip", file⟩ create
        client result after ∧
      Holds folder place file after := by
  rcases run : Session.upload (.text project) (Action.temporaryPath folder)
    (some (name ++ ".zip")) client with ⟨result, middle⟩
  obtain ⟨first, still⟩ := attempt_of_holds holds notFolder project name run
  have outcome : (Session.upload (.text project) (Action.temporaryPath folder)
      (some (name ++ ".zip"))).outcome client = (.ok result, middle) := by
    rw [Call.outcome_apply, run]
  rw [uploadArchive, Call.bind_of_ok _ outcome]
  cases result with
  | ok answer => exact ⟨_, _, rfl, .uploaded first, still⟩
  | error fault =>
    dsimp only
    cases recovers : recovery create project fault with
    | fail raised =>
      have final : ¬ (create = true ∧ Missing fault) := by
        intro condition
        rw [(recovery_eq_createProject_iff create project fault).mpr condition] at recovers
        cases recovers
      exact ⟨.error raised, middle, rfl, .failed first final recovers, still⟩
    | createProject =>
      obtain ⟨allowed, missing⟩ := (recovery_eq_createProject_iff create project fault).mp recovers
      exact course_of_missing still notFolder first allowed missing

end

/-- A client whose server knows no project until it is asked for one. -/
def unknowing : Client where
  session := { user := "me", password := some "pw", url := "http://server:8081" }
  world :=
    { folder := "/"
      tree := { files := .ofList [("/hadoopdsl-TEMP", .archive [])] }
      server :=
        [{ conditions := [("action", "login")]
           replies := [.answer 200 (.text "OK") none "\x7b\"session.id\": \"abc\"\x7d"] },
         { conditions := [("ajax", "upload")]
           replies :=
             [.answer 200 (.text "OK") none "\x7b\"error\": \"Project load doesn't exist.\"\x7d",
              .answer 200 (.text "OK") none "\x7b\"projectId\": 1, \"version\": 1\x7d"] },
         { conditions := [("method", "POST")]
           replies := [.answer 200 (.text "OK") none "\x7b\x7d"] }] }

/-- The project is created and its archive uploaded again, once the session was asked for. -/
example :
    (uploadArchive "load" "/hadoopdsl-TEMP" "load.zip" true unknowing).2.world.requests.map
        (fun request => (((request.formField? "action").or (request.formField? "ajax")).map
          Value.str, request.file.map Upload.name)) =
      [(some "login", none), (some "upload", some "load.zip"), (some "create", none), (none, none),
        (some "upload", some "load.zip")] := by
  decide +kernel

/-! ## How often the archive is sent -/

/-- From an earlier to a later client, at most a number of the requests that come on record carry a
file. -/
def Carries (most : Nat) (before after : Client) : Prop :=
  ∃ sent, after.world.requests = before.world.requests ++ sent ∧
    (sent.filter fun request => request.file.isSome).length ≤ most

/-- Requests in a row carry as many files as there are in all. -/
theorem Carries.trans {most more : Nat} {first second third : Client}
    (before : Carries most first second) (after : Carries more second third) :
    Carries (most + more) first third := by
  obtain ⟨sent, recorded, few⟩ := before
  obtain ⟨others, later, fewOthers⟩ := after
  refine ⟨sent ++ others, by rw [later, recorded, List.append_assoc], ?_⟩
  rw [List.filter_append, List.length_append]
  exact Nat.add_le_add few fewOthers

/-- There may be more of them. -/
theorem Carries.mono {most more : Nat} {before after : Client} (carries : Carries most before after)
    (fewer : most ≤ more) : Carries more before after := by
  obtain ⟨sent, recorded, few⟩ := carries
  exact ⟨sent, recorded, few.trans fewer⟩

/-- Requests without a file carry none. -/
theorem filter_file_eq_nil {sent : List Request} (noFile : ∀ request ∈ sent, request.file = none) :
    sent.filter (fun request => request.file.isSome) = [] := by
  apply List.filter_eq_nil_iff.mpr
  intro request member
  simp [noFile request member]

/-- An attempt carries one file at most. -/
theorem Attempt.carries {project path : String} {archive : Upload} {before after : Client}
    {result : Except Fault Value} (attempt : Attempt project path archive before result after) :
    Carries 1 before after := by
  obtain ⟨sent, final, recorded, each, -, -⟩ := attempt.sent
  refine ⟨sent ++ final.toList, by rw [recorded, List.append_assoc], ?_⟩
  rw [List.filter_append, filter_file_eq_nil fun request member => (each request member).noFile,
    List.nil_append]
  exact (List.length_filter_le _ _).trans (by cases final <;> simp)

/-- A creation carries none. -/
theorem Creation.carries {project : String} {before after : Client} {result : Except Fault Value}
    (creation : Creation project before result after) : Carries 0 before after := by
  obtain ⟨sent, recorded, each⟩ := creation.sent
  refine ⟨sent, recorded, ?_⟩
  rw [filter_file_eq_nil fun request member => (each request member).noFile]
  exact Nat.le_refl 0

/-- An upload carries two at most. -/
theorem Course.carries {project path : String} {archive : Upload} {create : Bool}
    {before after : Client} {result : Except Fault Value}
    (course : Course project path archive create before result after) :
    Carries 2 before after := by
  have once : 1 ≤ 2 := by decide
  cases course with
  | uploaded first => exact first.carries.mono once
  | failed first final fails => exact first.carries.mono once
  | uncreated first allowed missing creation =>
    exact (first.carries.trans creation.carries).mono once
  | repeated first allowed missing creation second =>
    exact (first.carries.trans creation.carries).trans second.carries

/-! ## The whole command -/

/-- Calls of a session leave their world. -/
theorem withSession_apply {α : Type} (session : Session) (call : Call α) (world : World) :
    withSession session call world =
      ((call ⟨session, world⟩).1, (call ⟨session, world⟩).2.world) := rfl

/-- Looking at the size of an archive that is there changes nothing. -/
theorem sizeAt_of_holds {folder : String} {place : List String} {file : File} {client : Client}
    (holds : Holds folder place file client) :
    sizeAt (Action.temporaryPath folder) client.world = (.ok file.size, client.world) := by
  have found : Action.find? (Action.temporaryPath folder) client.world =
      (.ok (some file), client.world) := by
    rw [Action.find?_apply, holds.here, holds.found]
    rfl
  rw [sizeAt, Action.bind_of_ok _ found]
  rfl

/-- How far an upload of a project gets, and what it leaves at its temporary path. Nothing is sent
before the archive is built and a session is chosen; then the upload of that archive takes its
course and decides what the whole comes to. -/
inductive Stages (project : Project) (url name : Option String) (create : Bool) (world : World) :
    Except Fault Uploaded → World → Prop
  /-- The archive is not built. -/
  | unbuilt {fault : Fault} {after : World}
    (building : project.build (Action.temporaryPath world.folder) false world =
      (.error fault, after))
    (silent : after.requests = world.requests) :
    Stages project url name create world (.error fault) after
  /-- The archive is built, but no session is chosen. -/
  | unopened {fault : Fault} {built : World}
    (building : project.build (Action.temporaryPath world.folder) false world = (.ok (), built))
    (silent : built.requests = world.requests)
    (opened : openSession url name built = (.error fault, built)) :
    Stages project url name create world (.error fault) built
  /-- The archive is built and uploaded with a session. -/
  | uploaded {built : World} {place : List String} {entries : List (String × File)}
    {session : Session} {result : Except Fault Value} {last : Client}
    (building : project.build (Action.temporaryPath world.folder) false world = (.ok (), built))
    (silent : built.requests = world.requests)
    (found : built.tree.find world.folder (Action.temporaryPath world.folder) =
      .ok (place, .archive entries))
    (opened : openSession url name built = (.ok session, built))
    (course : Course project.name (Action.temporaryPath world.folder)
      ⟨project.versionedName ++ ".zip", "application/zip", .archive entries⟩ create
      ⟨session, built⟩ result last) :
    Stages project url name create world
      (result.map fun answer => ⟨answer, session.url, (File.archive entries).size⟩) last.world

/-- An upload of a project goes through its stages, and stays in its folder. -/
theorem stages_uploadAt (project : Project) (url name : Option String) (create : Bool)
    (world : World) :
    ∃ outcome after,
      uploadAt project url name create (Action.temporaryPath world.folder) world =
        (outcome, after) ∧
      Stages project url name create world outcome after ∧ after.folder = world.folder := by
  obtain ⟨tree, notices, changed⟩ :=
    Project.exists_build_world project (Action.temporaryPath world.folder) false world
  have folder := congrArg World.folder changed
  have silent := congrArg World.requests changed
  rcases building : project.build (Action.temporaryPath world.folder) false world with
    ⟨fault | _, built⟩
  · rw [building] at folder silent
    exact ⟨_, _, Action.bind_of_error _ building, .unbuilt building silent, folder⟩
  rw [building] at folder silent
  obtain ⟨-, place, entries, found⟩ := Project.build_eq_ok building
  obtain ⟨chosen, opened, usual⟩ := exists_openSession_apply url name built
  rw [uploadAt, Action.bind_of_ok _ building]
  cases chosen with
  | error fault =>
    exact ⟨_, _, Action.bind_of_error _ opened, .unopened building silent opened, folder⟩
  | ok session =>
    have usualHere : ∀ settings ∈ session.settings,
        settings.path = SettingsFile.place none world.folder := by
      rw [← show built.folder = world.folder from folder]
      exact usual session rfl
    have holds : Holds world.folder place (.archive entries) ⟨session, built⟩ :=
      ⟨folder, found, usualHere⟩
    obtain ⟨result, last, ran, course, still⟩ :=
      course_uploadArchive holds nofun project.name project.versionedName create
    have uploads := withSession_apply session
      (uploadArchive project.name (Action.temporaryPath world.folder)
        (project.versionedName ++ ".zip") create) built
    rw [ran] at uploads
    refine ⟨_, _, ?_, .uploaded building silent found opened course, still.here⟩
    rw [Action.bind_of_ok _ opened]
    cases result with
    | error fault => exact Action.bind_of_error _ uploads
    | ok answer =>
      rw [Action.bind_of_ok _ uploads, Action.bind_of_ok _ (sizeAt_of_holds still)]
      rfl

/-- What is sent in all stages: nothing unless all workflows have flows, and at most two files. -/
theorem Stages.exists_sent {project : Project} {url name : Option String} {create : Bool}
    {world after : World} {outcome : Except Fault Uploaded}
    (stages : Stages project url name create world outcome after) :
    ∃ sent, after.requests = world.requests ++ sent ∧
      (sent = [] ∨ ∀ workflow ∈ project.workflows, ∃ flow, project.CompilesTo workflow flow) ∧
      (sent.filter fun request => request.file.isSome).length ≤ 2 := by
  cases stages with
  | unbuilt building silent => exact ⟨[], by rw [silent, List.append_nil], .inl rfl, by simp⟩
  | unopened building silent opened =>
    exact ⟨[], by rw [silent, List.append_nil], .inl rfl, by simp⟩
  | uploaded building silent found opened course =>
    obtain ⟨sent, recorded, few⟩ := course.carries
    exact ⟨sent, recorded.trans (by rw [silent]), .inr (Project.build_eq_ok building).1, few⟩

/-- Uploading a project goes through its stages, and then takes its temporary archive away again,
whatever they came to. Nothing is sent unless all workflows have flows, and at most two of the
requests that are sent carry a file. -/
theorem uploadProject_stages (project : Project) (url name : Option String) (create : Bool)
    (world : World) :
    ∃ outcome used after sent,
      uploadProject project url name create world = (outcome, after) ∧
      Stages project url name create world outcome used ∧
      after.requests = used.requests ∧
      after.requests = world.requests ++ sent ∧
      (sent = [] ∨ ∀ workflow ∈ project.workflows, ∃ flow, project.CompilesTo workflow flow) ∧
      (sent.filter fun request => request.file.isSome).length ≤ 2 ∧
      after.tree.hasPath world.folder (Action.temporaryPath world.folder) = false := by
  obtain ⟨outcome, used, ran, stages, folder⟩ := stages_uploadAt project url name create world
  obtain ⟨sent, recorded, compile, few⟩ := stages.exists_sent
  have applied := Action.withTemporary_apply (uploadAt project url name create) world
  rw [ran] at applied
  have kept := congrArg World.requests
    (Action.discarded_eq (Action.temporaryPath world.folder) used)
  have gone := Action.hasPath_discarded world.folder used
  rw [folder] at gone
  exact ⟨outcome, used, _, sent, applied, stages, kept, kept.trans recorded, compile, few, gone⟩

end Jobflow.Command
