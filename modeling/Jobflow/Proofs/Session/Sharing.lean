import Jobflow.Proofs.Session.Identity
import Jobflow.Proofs.Session.Saved

/-!
# Whose id a session starts with

Logins of any users on any servers, one after the other, leave ids in one file of settings. A new
session starts with the id that was saved last under its option, whoever logged in. What the
induction over the logins carries is look-up in the section of ids, as a function of the name of
the option: each login that succeeds changes it at one name.

That an id is not shared takes users and servers that can be told from their options. Logins that
save ids which cannot be written are left out, since the file may not be read again after them.
-/

namespace Jobflow

open Session (idSection)
open Settings (optionName)

/-! ## Ids in settings -/

/-- Settings keep ids under the names of options, and a section for ids adds none to them. -/
structure Settings.Keeps (settings : Settings) (ids : String → Option Value) : Prop where
  /-- The ids that are found. -/
  now (name : String) : settings.get? idSection name = ids (optionName name)
  /-- The ids that are found once there is a section for them. -/
  added (name : String) : (settings.addSection idSection).get? idSection name = ids (optionName name)

namespace Settings

/-- Settings keep no ids if not even a section for them has any. -/
theorem keeps_none {settings : Settings}
    (fresh : ∀ name, (settings.addSection idSection).get? idSection name = none) :
    settings.Keeps fun _ => none where
  added := fresh
  now name := by
    by_cases there : settings.hasSection idSection = true
    · rw [← fresh name, addSection, if_pos there]
    · have nothing : settings.sections.find? idSection = none := by
        rwa [hasSection, OrderedMap.contains, Option.not_isSome_iff_eq_none] at there
      rw [get?_eq, nothing]
      exact if_neg (by decide)

/-- An id that is set is kept under its option, and the others as before. -/
theorem Keeps.set {settings : Settings} {ids : String → Option Value} (keeps : settings.Keeps ids)
    (option : String) (id : Value) :
    (settings.set idSection option id).Keeps fun name =>
      if name = optionName option then some id else ids name := by
  have now : ∀ name, (settings.set idSection option id).get? idSection name =
      if optionName name = optionName option then some id else ids (optionName name) := by
    intro name
    rw [get?_set, keeps.added]
  refine ⟨now, fun name => ?_⟩
  rw [addSection, if_pos (hasSection_set _ _ _ _)]
  exact now name

end Settings

/-- Loading reads the files, and nothing else of the world. -/
theorem SettingsFile.load_congr {path : Option String} {world other : World}
    (tree : other.tree = world.tree) (folder : other.folder = world.folder) :
    load path other = ((load path world).1, other) := by
  rw [load_apply, load_apply, tree, folder]

namespace Login

/-! ## Logins one after the other -/

/-- Log in one after the other: the sessions of the logins that succeed, in order. -/
def runAll (path : Option String) : List Login → World → List Session × World
  | [], world => ([], world)
  | login :: later, world =>
    match login.run path world with
    | (.ok session, world) =>
      let (sessions, world) := runAll path later world
      (session :: sessions, world)
    | (.error _, world) => runAll path later world

/-- The id of the last session whose option has a name. -/
def lastId (sessions : List Session) (name : String) : Option Value :=
  (sessions.reverse.find? fun session => optionName session.idOption = name).map Session.id

/-- The last id is that of a later session, or else that of the first one. -/
theorem lastId_cons (session : Session) (later : List Session) (name : String) :
    lastId (session :: later) name =
      (lastId later name).or (if name = optionName session.idOption then some session.id else none) := by
  have first : (([session] : List Session).find? fun session =>
      optionName session.idOption = name).map Session.id =
        if name = optionName session.idOption then some session.id else none := by
    by_cases same : optionName session.idOption = name
    · simp only [List.find?_singleton, same, decide_true, if_true, Option.map_some]
    · simp only [List.find?_singleton, same, decide_false, Bool.false_eq_true, if_false,
        Option.map_none, Ne.symm same]
  rw [lastId, List.reverse_cons, List.find?_append, Option.map_or, first, lastId]

/-- The last id of an option is that of a session with the option. -/
theorem exists_of_lastId {sessions : List Session} {name : String} {id : Value}
    (found : lastId sessions name = some id) :
    ∃ session ∈ sessions, optionName session.idOption = name ∧ session.id = id := by
  obtain ⟨session, last, same⟩ := Option.map_eq_some_iff.mp found
  have option := List.find?_some last
  rw [decide_eq_true_eq] at option
  exact ⟨session, List.mem_reverse.mp (List.mem_of_find?_eq_some last), option, same⟩

/-- The id of a session can be written under its option. -/
def WritableId (session : Session) : Prop :=
  ∃ id, session.id = .text id ∧ Settings.Writable (optionName session.idOption) id

/-- After logins whose ids can be written, settings keep the last id of each option. -/
theorem keeps_runAll (logins : List Login) {path : Option String} {world : World}
    {file : SettingsFile} {ids : String → Option Value}
    (loaded : SettingsFile.load path world = (.ok file, world)) (keeps : file.settings.Keeps ids)
    (writable : ∀ session ∈ (runAll path logins world).1, WritableId session) :
    ∃ saved, SettingsFile.load path (runAll path logins world).2 =
        (.ok saved, (runAll path logins world).2) ∧
      saved.settings.Keeps fun name => (lastId (runAll path logins world).1 name).or (ids name) := by
  induction logins generalizing world file ids with
  | nil => exact ⟨file, loaded, keeps⟩
  | cons login later inductionHypothesis =>
    have outcome := run_cases login loaded
    rcases ran : login.run path world with ⟨fault | session, after⟩
    · rw [ran] at outcome
      rw [runAll, ran] at writable ⊢
      obtain ⟨tree, folder, -⟩ := outcome
      have still : SettingsFile.load path after = (.ok file, after) := by
        rw [SettingsFile.load_congr tree folder, loaded]
      exact inductionHypothesis still keeps writable
    · rw [runAll, ran] at writable ⊢
      obtain ⟨id, given, option⟩ := writable session List.mem_cons_self
      have reloaded := load_of_run login loaded ran given option
      obtain ⟨saved, still, kept⟩ := inductionHypothesis reloaded (keeps.set session.idOption (.text id))
        fun other member => writable other (List.mem_cons_of_mem session member)
      have last : (fun name => (lastId (session :: (runAll path later after).1) name).or (ids name)) =
          fun name => (lastId (runAll path later after).1 name).or
            (if name = optionName session.idOption then some (.text id) else ids name) := by
        funext name
        rw [lastId_cons, Option.or_assoc, given]
        split <;> rfl
      refine ⟨saved, still, ?_⟩
      dsimp only
      rw [last]
      exact kept

/-- After any logins whose ids can be written, from settings without ids, a new session starts
with the last id that was saved under its option, if any. So if the users are in small letters
and the servers are called by names, an id that it starts with is one that the same user got from
the same server. -/
theorem starts_with_last (login : Login) (logins : List Login) {path : Option String}
    {world last : World} {file : SettingsFile} {sessions : List Session} {address : Server.Address}
    (loaded : SettingsFile.load path world = (.ok file, world))
    (fresh : ∀ name, (file.settings.addSection idSection).get? idSection name = none)
    (ran : runAll path logins world = (sessions, last))
    (writable : ∀ session ∈ sessions, WritableId session)
    (parsed : Server.Address.ofUrl login.url = .ok address) :
    ∃ again, login.session path last = (.ok again, last) ∧
      again.id = Value.ofOption (lastId sessions (optionName again.idOption)) ∧
      (again.Plain → (∀ session ∈ sessions, session.Plain) → again.id ≠ .null →
        ∃ session ∈ sessions, session.user = again.user ∧ session.url = again.url ∧
          session.id = again.id) := by
  have kept := keeps_runAll logins loaded (Settings.keeps_none fresh)
  rw [ran] at kept
  obtain ⟨saved, reloaded, keeps⟩ := kept writable
  obtain ⟨again, begun, id⟩ : ∃ again, login.session path last = (.ok again, last) ∧
      again.id = Value.ofOption (lastId sessions (optionName again.idOption)) := by
    refine ⟨Session.ofAddress address last.user (some saved) login.options, ?_, ?_⟩
    · rw [session_apply login reloaded, parsed]
      rfl
    · show Value.ofOption (saved.settings.get? idSection _) = _
      rw [keeps.now, Option.or_none]
      rfl
  refine ⟨again, begun, id, fun plain others there => ?_⟩
  rcases last : lastId sessions (optionName again.idOption) with _ | value
  · rw [last] at id
    exact absurd id there
  · rw [last] at id
    obtain ⟨session, member, option, same⟩ := exists_of_lastId last
    obtain ⟨user, url⟩ := (others session member).eq_of_option plain option
    exact ⟨session, member, user, url, same.trans id.symm⟩

/-- A world without settings, and a server that gives one user an id and all others another. -/
def guarded : World where
  folder := "/"
  tree := { files := .empty }
  server :=
    [{ conditions := [("username", "me")]
       replies := [.answer 200 (.text "OK") none "\x7b\"session.id\": \"abc\"\x7d"] },
     { conditions := [("action", "login")]
       replies := [.answer 200 (.text "OK") none "\x7b\"session.id\": \"def\"\x7d"] }]

/-- The server. -/
def guardedServer : NamedServer where
  scheme := "http"
  host := "server"
  port := some 8081
  letters := by decide
  unmarked := by decide
  named := by decide

/-- A login of another user. -/
def you : Login where
  url := "http://you:pw@server:8081"

/-- The two users of the server are in small letters, and it is called by a name. -/
theorem plain_of_guarded {session : Session} (user : session.user = "me" ∨ session.user = "you")
    (url : session.url = "http://server:8081") : session.Plain where
  small := by
    rcases user with user | user
    · simp only [Session.idOption, Session.text, user, url]
      decide +kernel
    · simp only [Session.idOption, Session.text, user, url]
      decide +kernel
  uncut := by
    rcases user with user | user
    · rw [user]
      decide
    · rw [user]
      decide
  server := ⟨guardedServer, url.trans (by decide +kernel)⟩

/-- Two users log in, and the first one starts with the id of its own login. -/
theorem me_starts_apart :
    let ran := runAll (some "settings") [me, you] guarded
    ∃ again, me.session (some "settings") ran.2 = (.ok again, ran.2) ∧ again.id = .text "abc" ∧
      ∃ session ∈ ran.1, session.user = again.user ∧ session.url = again.url ∧
        session.id = again.id := by
  intro ran
  obtain ⟨obtained, started⟩ :
      ran.1.map (fun session => (session.user, session.url, session.id.text?)) =
          [("me", "http://server:8081", some "abc"), ("you", "http://server:8081", some "def")] ∧
        (me.session (some "settings") ran.2).1.toOption.map
          (fun session => (session.user, session.url, session.id.text?)) =
            some ("me", "http://server:8081", some "abc") := by decide +kernel
  have known : ∀ session ∈ ran.1, WritableId session ∧ session.Plain := by
    intro session member
    have among := List.mem_map_of_mem (f := fun session : Session =>
      (session.user, session.url, session.id.text?)) member
    rw [obtained, List.mem_cons, List.mem_singleton] at among
    simp only [Prod.mk.injEq, Value.text?_eq_some_iff] at among
    rcases among with ⟨user, url, id⟩ | ⟨user, url, id⟩
    · refine ⟨⟨"abc", id, ?_⟩, plain_of_guarded (Or.inl user) url⟩
      simp only [Session.idOption, Session.text, user, url]
      decide +kernel
    · refine ⟨⟨"def", id, ?_⟩, plain_of_guarded (Or.inr user) url⟩
      simp only [Session.idOption, Session.text, user, url]
      decide +kernel
  obtain ⟨again, begun, -, apart⟩ := starts_with_last me [me, you]
    (show SettingsFile.load (some "settings") guarded = (.ok ⟨"settings", {}⟩, guarded) from rfl)
    (fun _ => rfl) Prod.mk.eta.symm (fun session member => (known session member).1)
    (show Server.Address.ofUrl "http://me:pw@server:8081" =
      .ok ⟨some "me", some "pw", "http://server:8081"⟩ by rfl)
  rw [begun] at started
  simp only [Except.toOption, Option.map_some, Option.some.injEq, Prod.mk.injEq,
    Value.text?_eq_some_iff] at started
  obtain ⟨user, url, id⟩ := started
  refine ⟨again, begun, id, apart (plain_of_guarded (Or.inl user) url) ?_ ?_⟩
  · exact fun session member => (known session member).2
  · rw [id]
    exact Value.noConfusion

/-- A login of a user whose name differs in the case of a letter. -/
def capital : Login where
  url := "http://Me:pw@server:8081"

/-- A user who never logged in starts with the id of the one whose name differs in case. -/
theorem me_starts_with_another :
    let ran := runAll (some "settings") [capital] guarded
    let again := me.session (some "settings") ran.2
    ran.1.map (fun session => (session.user, session.url, session.id.text?)) =
        [("Me", "http://server:8081", some "def")] ∧
      again.1.toOption.map (fun session => (session.user, session.url, session.id.text?)) =
        some ("me", "http://server:8081", some "def") := by
  decide +kernel

end Login

end Jobflow
