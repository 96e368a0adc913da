import Jobflow.Proofs.Session.Renewal
import Jobflow.Proofs.Settings.Options
import Jobflow.Proofs.Settings.Store
import Jobflow.Proofs.Value

/-!
# Ids that are saved

A login begins with the settings on disk and leaves them with the new id in them. Whether the
next session of the same user on the same server starts with that id is a question of what can be
written: the name of the option is made of the user and the server, and the id is what the server
says. If they can be written as an option, the file is read again with this option and all others
as they were; and if not, then not. An equals sign in the name of a user is enough for that, as
only colons are taken out of the names of options.

What is said of a login that succeeds holds of its files as well if it stops: it leaves them as
they were.
-/

namespace Jobflow

/-- A login that begins with the settings on disk. -/
structure Login where
  /-- The URL of the server. -/
  url : String
  /-- The options of the session. -/
  options : SessionOptions := {}
  /-- The password, if it is given beside the URL. -/
  password : Option String := none

namespace Login

/-- The session that a login begins with. -/
def session (login : Login) (path : Option String) : Action Session := do
  Session.ofUrl login.url (some (← SettingsFile.load path)) login.options

/-- Log in: the session with its new id. -/
def run (login : Login) (path : Option String) : Action Session := do
  let session ← login.session path
  fun world =>
    let ran := Session.login login.password ⟨session, world⟩
    (ran.1.map fun _ => ran.2.session, ran.2.world)

end Login

namespace Session

open Call

/-! ## What a login does to the files -/

/-- The files that a client sees, from where, and as whom. -/
def files (client : Client) : FileTree × String × String :=
  (client.world.tree, client.world.folder, client.world.user)

/-- Logging, sending and asking for passwords leave the files as they are. -/
theorem frame_files : Frame fun before after => files after = files before where
  refl _ := rfl
  trans before after := after.trans before
  logged _ _ := rfl
  sent request client := by
    show files (act (Action.send request) client).2 = files client
    rw [act, Action.send_apply]
    rfl
  prompted _ _ := rfl

/-- Keeping an id writes the settings with the id, unless there is trouble with the file. -/
theorem keepId_apply {client : Client} {file : SettingsFile}
    (settings : client.session.settings = some file) :
    keepId client =
      match client.world.tree.write client.world.folder file.path
          (.text (String.ofList (client.session.settingsWithId file).settings.write)) with
      | .ok tree =>
        (.ok (),
          { session := { client.session with settings := some (client.session.settingsWithId file) }
            world := { client.world with tree } })
      | .error mishap =>
        (.error (.mishap mishap),
          { client with
            session :=
              { client.session with settings := some (client.session.settingsWithId file) } }) := by
  rw [keepId, bind_of_ok _ (session_apply client)]
  simp only [settings]
  show act (SettingsFile.save (client.session.settingsWithId file)) _ = _
  rw [act, SettingsFile.save, Action.write_apply]
  have path : (client.session.settingsWithId file).path = file.path := rfl
  dsimp only
  rw [path]
  cases client.world.tree.write client.world.folder file.path
    (.text (String.ofList (client.session.settingsWithId file).settings.write)) <;> rfl

/-- A client saved its id: the settings with the id are in its session and in their file, and
nothing else of the session and of what it sees is other than before. -/
structure Saved (file : SettingsFile) (before after : Client) : Prop where
  /-- The session has the id, and settings with it. -/
  session : after.session =
    { before.session with
      id := after.session.id
      settings :=
        some { file with
          settings := file.settings.set idSection before.session.idOption after.session.id } }
  /-- The settings are in their file. -/
  written :
    before.world.tree.write before.world.folder file.path
      (.text (String.ofList
        (file.settings.set idSection before.session.idOption after.session.id).write)) =
      .ok after.world.tree
  /-- The current folder. -/
  folder : after.world.folder = before.world.folder
  /-- The user of the system. -/
  user : after.world.user = before.world.user

/-- Only the session and the files that a client begins with matter. -/
theorem Saved.of_same {file : SettingsFile} {before asked after : Client}
    (saved : Saved file asked after) (session : asked.session = before.session)
    (same : files asked = files before) : Saved file before after := by
  obtain ⟨tree, folder, user⟩ : asked.world.tree = before.world.tree ∧
      asked.world.folder = before.world.folder ∧ asked.world.user = before.world.user := by
    simpa only [files, Prod.mk.injEq] using same
  exact
    { session := session ▸ saved.session
      written := by
        rw [← session, ← tree, ← folder]
        exact saved.written
      folder := saved.folder.trans folder
      user := saved.user.trans user }

/-- The settings of a session with its id in them. -/
theorem settingsWithId_eq (session : Session) (file : SettingsFile) :
    session.settingsWithId file =
      { file with settings := file.settings.set idSection session.idOption session.id } := by
  rw [settingsWithId, Settings.set_addSection]

/-- A call of a client with settings saves the id of the session in them, or else stops and leaves
the files as they are. -/
def SavesId (call : Call Unit) (file : SettingsFile) (before : Client) : Prop :=
  match call before with
  | (.ok (), after) => Saved file before after
  | (.error _, after) => files after = files before

/-- Taking over an id saves it. -/
theorem savesId_takeId (answer : Value) {file : SettingsFile} {before : Client}
    (settings : before.session.settings = some file) : SavesId (takeId answer) file before := by
  cases answered : idIn answer with
  | error fault =>
    rw [SavesId, takeId, answered]
    rfl
  | ok id =>
    have taken : takeId answer before =
        (keepId >>= fun _ => Call.log .info "Logged in." [])
          { before with session := { before.session with id } } := by
      rw [takeId, answered]
      rfl
    have renewed : ({ before with session := { before.session with id } } : Client).session.settings =
        some file := settings
    have saving := keepId_apply renewed
    rw [settingsWithId_eq] at saving
    rw [SavesId, taken]
    split at saving
    · next tree written =>
      obtain ⟨entries, logged⟩ := exists_log_apply .info "Logged in." [] _
      rw [bind_of_ok _ saving, logged]
      exact ⟨rfl, written, rfl, rfl⟩
    · rw [bind_of_error _ saving]
      rfl

/-- Any number of attempts to log in save the id that the server gives. -/
theorem savesId_loginWith (password : Option String) (attempts : Nat) {file : SettingsFile}
    {before : Client} (settings : before.session.settings = some file) :
    SavesId (loginWith password attempts) file before := by
  have session := session_loginAnswer password attempts before
  have left := within_loginAnswer frame_files password attempts before
  rw [SavesId, loginWith_eq]
  rcases answered : loginAnswer password attempts before with ⟨outcome, client⟩
  rw [answered] at session left
  dsimp only at session left
  cases outcome with
  | error fault =>
    rw [bind_of_error _ answered]
    exact left
  | ok answer =>
    have saved : SavesId (takeId answer) file client := savesId_takeId answer (session ▸ settings)
    rw [bind_of_ok _ answered]
    rw [SavesId] at saved
    split at saved
    · exact saved.of_same session left
    · exact saved.trans left

/-- Logging in saves the id that the server gives. -/
theorem savesId_login (password : Option String) {file : SettingsFile} {before : Client}
    (settings : before.session.settings = some file) : SavesId (login password) file before := by
  rw [SavesId, login, bind_of_ok _ (session_apply before)]
  exact savesId_loginWith _ _ settings

/-- A saved id is kept under the same option. -/
theorem Saved.idOption {file : SettingsFile} {before after : Client} (saved : Saved file before after) :
    after.session.idOption = before.session.idOption := by
  rw [saved.session]
  rfl

end Session

namespace Login

open Session

variable (login : Login) {path : Option String} {world after : World} {file : SettingsFile}

/-! ## Logins and the sessions after them -/

/-- A login begins with the session of the address, the user and the settings. -/
theorem session_apply (loaded : SettingsFile.load path world = (.ok file, world)) :
    login.session path world =
      ((Server.Address.ofUrl login.url).map fun address =>
        ofAddress address world.user (some file) login.options, world) := by
  rw [session, Action.bind_of_ok _ loaded, ofUrl_apply]

/-- A login saves the id of its session, or else stops and leaves the files as they are. -/
theorem run_cases (loaded : SettingsFile.load path world = (.ok file, world)) :
    match login.run path world with
    | (.ok session, after) =>
      ∃ address, Server.Address.ofUrl login.url = .ok address ∧
        Saved file ⟨ofAddress address world.user (some file) login.options, world⟩ ⟨session, after⟩
    | (.error _, after) =>
      after.tree = world.tree ∧ after.folder = world.folder ∧ after.user = world.user := by
  have begun := session_apply login loaded
  cases parsed : Server.Address.ofUrl login.url with
  | error fault =>
    rw [parsed] at begun
    rw [run, Action.bind_of_error _ begun]
    exact ⟨rfl, rfl, rfl⟩
  | ok address =>
    have saving : SavesId (Session.login login.password) file
        ⟨ofAddress address world.user (some file) login.options, world⟩ :=
      savesId_login login.password rfl
    rw [parsed] at begun
    rw [run, Action.bind_of_ok _ begun]
    rw [SavesId] at saving
    dsimp only
    split at saving
    · next client ran =>
      rw [ran]
      exact ⟨address, rfl, saving⟩
    · next fault client ran =>
      rw [ran]
      exact ⟨congrArg Prod.fst saving, congrArg (fun files => files.2.1) saving,
        congrArg (fun files => files.2.2) saving⟩

/-- The file of a login that succeeded has settings with the id of its session. -/
theorem saved_of_run {session : Session} (loaded : SettingsFile.load path world = (.ok file, world))
    (ran : login.run path world = (.ok session, after)) :
    ∃ address, Server.Address.ofUrl login.url = .ok address ∧
      Saved file ⟨ofAddress address world.user (some file) login.options, world⟩ ⟨session, after⟩ := by
  have outcome := run_cases login loaded
  rw [ran] at outcome
  exact outcome

/-! ## Starting with the id that was saved -/

/-- The settings of a login that succeeded, with its id in them, are loaded as they were saved if
the id can be written. -/
theorem load_of_run {session : Session} {id : String}
    (loaded : SettingsFile.load path world = (.ok file, world))
    (ran : login.run path world = (.ok session, after)) (given : session.id = .text id)
    (writable : Settings.Writable (Settings.optionName session.idOption) id) :
    SettingsFile.load path after =
      (.ok ⟨file.path, file.settings.set idSection session.idOption (.text id)⟩, after) := by
  obtain ⟨address, -, saved⟩ := saved_of_run login loaded ran
  have place : file.path = SettingsFile.place path after.folder := by
    rw [(SettingsFile.of_load loaded).1, saved.folder]
  have header : Settings.WritableHeader idSection := ⟨by decide, by decide, by decide⟩
  have all := (SettingsFile.allWritable_of_load loaded).set header writable
  have written := saved.written
  rw [← saved.idOption, given, ← saved.folder, place] at written
  rw [place]
  exact SettingsFile.load_of_write all written

/-- A session that starts after a login is again that of its user and server, with the id that
is kept for them. -/
theorem session_after_run {session : Session} {saved : SettingsFile}
    (loaded : SettingsFile.load path world = (.ok file, world))
    (ran : login.run path world = (.ok session, after))
    (reloaded : SettingsFile.load path after = (.ok saved, after)) :
    ∃ again, login.session path after = (.ok again, after) ∧
      again.user = session.user ∧ again.url = session.url ∧
      again.id = Value.ofOption (saved.settings.get? idSection session.idOption) := by
  obtain ⟨address, parsed, kept⟩ := saved_of_run login loaded ran
  have user : after.user = world.user := kept.user
  have option : session.idOption =
      (ofAddress address world.user (some file) login.options).idOption := kept.idOption
  refine ⟨ofAddress address after.user (some saved) login.options, ?_, ?_, ?_, ?_⟩
  · rw [session_apply login reloaded, parsed]
    rfl
  · rw [user]
    exact (congrArg Session.user kept.session).symm
  · exact (congrArg Session.url kept.session).symm
  · rw [option, user]
    rfl

/-- After a login that saved the id it was given, the settings are loaded again, the next session
of the user on the server starts with the id, and all other options are as before the login,
exactly if the id can be written as the option that is made of the user and the server. -/
theorem starts_again_iff {session : Session} {id : String}
    (loaded : SettingsFile.load path world = (.ok file, world))
    (ran : login.run path world = (.ok session, after)) (given : session.id = .text id) :
    (∃ saved again, SettingsFile.load path after = (.ok saved, after) ∧
        login.session path after = (.ok again, after) ∧
        again.user = session.user ∧ again.url = session.url ∧ again.id = .text id ∧
        file.settings.SameBut saved.settings idSection session.idOption) ↔
      Settings.Writable (Settings.optionName session.idOption) id := by
  constructor
  · rintro ⟨saved, again, reloaded, begun, -, -, same, -⟩
    obtain ⟨other, started, -, -, kept⟩ := session_after_run login loaded ran reloaded
    rw [started] at begun
    cases begun
    rw [same] at kept
    apply (SettingsFile.allWritable_of_load reloaded).writable
    cases found : saved.settings.get? idSection session.idOption with
    | none =>
      rw [found] at kept
      cases kept
    | some value =>
      rw [found] at kept
      exact congrArg some kept.symm
  · intro writable
    have reloaded := load_of_run login loaded ran given writable
    obtain ⟨again, begun, user, url, kept⟩ := session_after_run login loaded ran reloaded
    rw [Settings.get?_set_self] at kept
    exact ⟨_, again, reloaded, begun, user, url, kept, Settings.sameBut_set _ _ _ _⟩

/-- A world with settings, and a server that gives the id `abc` to whoever logs in. -/
def welcoming : World where
  folder := "/"
  tree := { files := .ofList [("/settings", .text "[alias]\nprod = http://server:8081\n")] }
  server :=
    [{ conditions := [("action", "login")]
       replies := [.answer 200 (.text "OK") none "\x7b\"session.id\": \"abc\"\x7d"] }]

/-- A login of a user. -/
def me : Login where
  url := "http://me:pw@server:8081"

/-- The user starts again with the id, and the settings still have the alias. -/
theorem me_starts_again :
    ∃ file session after, SettingsFile.load (some "settings") welcoming = (.ok file, welcoming) ∧
      me.run (some "settings") welcoming = (.ok session, after) ∧ session.id = .text "abc" ∧
      ∃ saved again, SettingsFile.load (some "settings") after = (.ok saved, after) ∧
        me.session (some "settings") after = (.ok again, after) ∧
        again.user = session.user ∧ again.url = session.url ∧ again.id = .text "abc" ∧
        file.settings.SameBut saved.settings idSection session.idOption := by
  obtain ⟨file, loaded⟩ := SettingsFile.exists_load
    (show (SettingsFile.load (some "settings") welcoming).1.toBool = true by decide +kernel)
  have runs : (me.run (some "settings") welcoming).1.toOption.map
      (fun session => (session.id.text?, session.idOption)) =
        some (some "abc", "me@http.//server.8081") := by decide +kernel
  rcases ran : me.run (some "settings") welcoming with ⟨_ | session, after⟩
  · rw [ran] at runs
    cases runs
  · rw [ran] at runs
    simp only [Except.toOption, Option.map_some, Option.some.injEq, Prod.mk.injEq,
      Value.text?_eq_some_iff] at runs
    obtain ⟨given, option⟩ := runs
    refine ⟨file, session, after, loaded, rfl, given, ?_⟩
    apply (starts_again_iff me loaded ran given).mpr
    rw [option]
    decide +kernel

/-- A login of a user with an equals sign in the name. -/
def divided : Login where
  url := "http://a=b:pw@server:8081"

/-- The user with an equals sign in the name starts again without the id. -/
theorem divided_forgets :
    let ran := divided.run (some "settings") welcoming
    ran.1.toOption.map (fun session => session.id.text?) = some (some "abc") ∧
      (divided.session (some "settings") ran.2).1.toOption.map (fun again => again.id.text?) =
        some none := by
  decide +kernel

end Login

end Jobflow
