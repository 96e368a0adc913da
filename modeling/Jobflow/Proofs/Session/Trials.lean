import Mathlib.Data.List.TakeDrop
import Jobflow.Proofs.Session.Agreement
import Jobflow.Proofs.Session.Replies
import Jobflow.Proofs.Session.Saved

/-!
# Passwords that are tried

A login tries passwords one after the other: first the one that is given or known, if there is one,
and otherwise each time a new one that the user types. Only the refusal of a password makes it try
another one, as long as there are attempts left. Any other reply ends it, and only an id that the
server issues changes the session and its settings.

The replies are those that a server gives to logins: a failure to answer, a text that is no
document, an error in words, or an id. Settings that cannot be written are a case of their own: the
session then has the id, its files are as they were, and the login stops with the trouble that the
file makes.
-/

namespace Jobflow

/-- What a reply to a login at a URL means: an id, or the fault that there is none. -/
inductive Reply.Means (url : String) : Reply → Except Fault String → Prop
  /-- The request is not answered. -/
  | unanswered (kind : Transport) (message : String) :
    Means url (.failure kind message) (.error (Call.sendFault url (.transport kind none message)))
  /-- The answer is no document. -/
  | unreadable {status : Int} {reason : Value} {place : Option String} {text : String}
    (unread : Json.read? text = none) :
    Means url (.answer status reason place text) (.error (.remote (.undecodable (place.getD url))))
  /-- The answer is a document with an error in words. -/
  | refused {status : Int} {reason : Value} {place : Option String} {text message : String}
    {document : Value} (read : Json.read? text = some document)
    (error : document.field? "error" = some (.text message)) :
    Means url (.answer status reason place text) (.error (.remote (.reported (.text message))))
  /-- The answer is a document with an id and no error. -/
  | issued {status : Int} {reason : Value} {place : Option String} {text id : String}
    {document : Value} (read : Json.read? text = some document)
    (quiet : document.field? "error" = none)
    (calm : ((document.field? "status").getD .null).same (.text "error") = false)
    (given : document.field? "session.id" = some (.text id)) :
    Means url (.answer status reason place text) (.ok id)

/-- What all replies in the rules of a server are, and the failure of a request without a route, is
what each of its replies is. -/
theorem Script.forall_mem_replies {property : Reply → Prop} (unrouted : property noRoute)
    (requests : List Request) (script : Script)
    (rules : ∀ rule ∈ script, ∀ reply ∈ rule.replies, property reply) :
    ∀ reply ∈ script.replies requests, property reply := by
  induction requests generalizing script with
  | nil => exact fun _ member => by cases member
  | cons request rest inductionHypothesis =>
    refine List.forall_mem_cons.mpr ⟨?_, inductionHypothesis _ ?_⟩
    · induction script with
      | nil => exact unrouted
      | cons rule others later =>
        rw [reply_cons_fst]
        split
        · cases next : rule.next? with
          | none => exact unrouted
          | some reply =>
            exact rules rule List.mem_cons_self reply (List.mem_of_getElem? next)
        · exact later fun rule member => rules rule (List.mem_cons_of_mem _ member)
    · intro rule member
      have known : rule.fresh ∈ script.map Rule.fresh :=
        map_fresh_reply request script ▸ List.mem_map_of_mem member
      obtain ⟨former, present, same⟩ := List.mem_map.mp known
      have alike : former.fresh.replies = rule.fresh.replies := congrArg Rule.replies same
      have replies : former.replies = rule.replies := alike
      exact replies ▸ rules former present

/-- A fault is the refusal of a password: it is trouble with the server, in the words for that. -/
def Fault.RefusesPassword (fault : Fault) : Prop :=
  fault.isRemote = true ∧
    ∃ message, fault.message = .text message ∧ Text.holds message Session.refusedLogin = true

/-- A password that was tried, the server's reply, and what that means. -/
structure Trial where
  /-- The password. -/
  password : String
  /-- The reply. -/
  reply : Reply
  /-- What the reply means. -/
  meaning : Except Fault String

/-- The request that tries a password. -/
def Trial.request (trial : Trial) (session : Session) : Request :=
  session.loginRequest trial.password

/-- The password was refused. -/
def Trial.Refused (trial : Trial) : Prop :=
  ∃ fault, trial.meaning = .error fault ∧ fault.RefusesPassword

/-- A password that brings an id is not refused. -/
theorem Trial.not_refused {trial : Trial} {id : String} (issued : trial.meaning = .ok id) :
    ¬ trial.Refused := by
  rintro ⟨fault, failed, -⟩
  rw [issued] at failed
  cases failed

/-- Whether a password that brings a fault is refused is told by the fault. -/
theorem Trial.refused_iff {trial : Trial} {fault : Fault} (failed : trial.meaning = .error fault) :
    trial.Refused ↔ fault.RefusesPassword := by
  constructor
  · rintro ⟨cause, same, refuses⟩
    rw [failed] at same
    obtain rfl := Except.error.inj same
    exact refuses
  · exact fun refuses => ⟨fault, failed, refuses⟩

namespace Session

open Call

/-- The password at hand for a login: the given one, or else the known one, unless it is empty. -/
def atHand (session : Session) (password : Option String) : Option String :=
  ((password.filter fun text => !text.isEmpty).or session.password).filter fun text => !text.isEmpty

/-- A server gives replies to a number of logins of a session that mean something here. -/
def Answered (session : Session) (server : Script) (attempts : Nat) : Prop :=
  ∀ passwords : List String, passwords.length ≤ attempts →
    ∀ reply ∈ server.replies (passwords.map session.loginRequest),
      ∃ meaning, reply.Means session.url meaning

/-- The next reply means something if there is an attempt left. -/
theorem Answered.exists_means {session : Session} {server : Script} {attempts : Nat}
    (answered : session.Answered server (attempts + 1)) (password : String) :
    ∃ meaning, (server.reply (session.loginRequest password)).1.Means session.url meaning :=
  answered [password] (Nat.le_add_left 1 attempts) _ List.mem_cons_self

/-- After a reply, those that are left mean something. -/
theorem Answered.later {session : Session} {server : Script} {attempts : Nat}
    (answered : session.Answered server (attempts + 1)) (password : String) :
    session.Answered (server.reply (session.loginRequest password)).2 attempts :=
  fun passwords few reply member =>
    answered (password :: passwords) (Nat.succ_le_succ few) reply (List.mem_cons_of_mem _ member)

/-! ## Trying a password -/

/-- The outcome of trying a password is what the reply means: an answer with the id, or the
fault. -/
def Gives (outcome : Except Fault Value) : Except Fault String → Prop
  | .ok id => ∃ answer, outcome = .ok answer ∧ idIn answer = .ok (.text id)
  | .error fault => outcome = .error fault

/-- Whether the fault in a reply is the refusal of a password is found out. -/
theorem exists_isRefusedLogin {url : String} {reply : Reply} {fault : Fault}
    (means : reply.Means url (.error fault)) :
    ∃ refused, isRefusedLogin fault = .ok refused ∧
      (refused = true ↔ fault.RefusesPassword) := by
  obtain ⟨message, worded⟩ : ∃ message, fault.message = .text message := by
    cases means with
    | unanswered kind message => cases kind <;> exact ⟨_, rfl⟩
    | unreadable _ => exact ⟨_, rfl⟩
    | refused _ _ => exact ⟨_, rfl⟩
  refine ⟨fault.isRemote && Text.holds message refusedLogin, ?_, ?_⟩
  · rw [isRefusedLogin, worded]
    cases fault.isRemote <;> rfl
  · simp [Fault.RefusesPassword, worded]

/-- A reply to a login never means that all attempts are used up. -/
theorem ne_tooManyAttempts {url : String} {reply : Reply} {fault : Fault}
    (means : reply.Means url (.error fault)) : fault ≠ .remote .tooManyAttempts := by
  cases means with
  | unanswered kind message => cases kind <;> exact nofun
  | unreadable _ => exact nofun
  | refused _ _ => exact nofun

/-- A password is chosen: the one at hand, or else the next one that the user types. -/
structure Choice (session : Session) (atHand : Option String) (before : World) (password : String)
    (after : World) : Prop where
  /-- The password. -/
  password : password = atHand.getD (before.passwords.headD "")
  /-- The user is asked for it only if there is none at hand. -/
  prompts : after.prompts = before.prompts ++
    List.replicate (1 - atHand.toList.length) session.passwordPrompt
  /-- What the user typed is not used again. -/
  typed : after.passwords = before.passwords.drop (1 - atHand.toList.length)
  /-- The server is as before. -/
  server : after.server = before.server
  /-- Nothing is sent. -/
  requests : after.requests = before.requests

/-- A password is chosen for each attempt. -/
theorem exists_choosePassword_apply (password : Option String) (client : Client) :
    ∃ chosen world, choosePassword password client = (.ok chosen, ⟨client.session, world⟩) ∧
      Choice client.session (password.filter fun text => !text.isEmpty) client.world chosen
        world := by
  rw [choosePassword]
  cases password.filter fun text => !text.isEmpty with
  | some text => exact ⟨text, client.world, rfl, rfl, (List.append_nil _).symm, rfl, rfl, rfl⟩
  | none => exact ⟨_, _, rfl, rfl, rfl, rfl, rfl, rfl⟩

/-- Trying a password sends the login and comes to what the reply means. -/
theorem exists_tryPassword_apply (password : String) {session : Session} {world : World}
    {meaning : Except Fault String}
    (means : (world.server.reply (session.loginRequest password)).1.Means session.url meaning) :
    ∃ outcome entries, tryPassword password ⟨session, world⟩ =
        (outcome, Client.logged
          ⟨session, world.withServer (world.server.reply (session.loginRequest password)).2
            (world.requests ++ [session.loginRequest password])⟩ entries) ∧
      Gives outcome meaning := by
  have sent : send (session.loginRequest password) ⟨session, world⟩ =
      (((world.server.reply (session.loginRequest password)).1.outcome
          (session.loginRequest password)).mapError (sendFault session.url),
        ⟨session, world.withServer (world.server.reply (session.loginRequest password)).2
          (world.requests ++ [session.loginRequest password])⟩) := by
    rw [send, mapFault, act, Action.send_apply]
    rfl
  rw [tryPassword, bind_of_ok _ (session_apply ⟨session, world⟩)]
  generalize (world.server.reply (session.loginRequest password)).1 = reply at sent means
  cases means with
  | unanswered kind message =>
    refine ⟨_, [], ?_, rfl⟩
    rw [bind_of_error _ sent, Client.logged, List.append_nil]
  | unreadable unread =>
    refine ⟨_, _, by rw [bind_of_ok _ sent, act_ofLogged], ?_⟩
    rw [Response.document_fst, Response.json?, unread]
    rfl
  | @refused _ _ _ _ message document read error =>
    refine ⟨_, _, by rw [bind_of_ok _ sent, act_ofLogged], ?_⟩
    rw [Response.document_fst, Response.json?, read]
    dsimp only
    rw [Response.reportedError_of_error error]
    rfl
  | @issued _ _ _ _ id document read quiet calm given =>
    have mapping : document.isMap = true := by
      cases document <;> first | rfl | cases given
    refine ⟨_, _, by rw [bind_of_ok _ sent, act_ofLogged], document, ?_, ?_⟩
    · rw [Response.document_fst, Response.json?, read]
      dsimp only
      rw [Response.reportedError_of_quiet mapping quiet calm]
    · rw [idIn, given]

/-! ## Trying several passwords -/

/-- After a first attempt, the user types a password for each attempt that follows. -/
theorem typed_first_add (atHand : Option String) (attempts : Nat) :
    (1 - atHand.toList.length) + attempts = (attempts + 1) - atHand.toList.length := by
  cases atHand with
  | none => exact Nat.add_comm 1 attempts
  | some text => exact Nat.zero_add attempts

/-- What is asked and sent between two worlds while some passwords are tried. -/
structure Talk (session : Session) (atHand : Option String) (before : World) (trials : List Trial)
    (after : World) : Prop where
  /-- Each password is sent in a login, and nothing else is sent. -/
  requests : after.requests = before.requests ++ trials.map (Trial.request · session)
  /-- The replies are those of the server. -/
  replies : trials.map Trial.reply = before.server.replies (trials.map (Trial.request · session))
  /-- Each reply is understood. -/
  means : ∀ trial ∈ trials, trial.reply.Means session.url trial.meaning
  /-- The first password is the one at hand, if any; others are those that the user types, which
  are empty once they have no more to type. -/
  passwords : trials.map Trial.password =
    (atHand.toList ++ before.passwords.takeD (trials.length - atHand.toList.length) "").take
      trials.length
  /-- The user is asked for each of the others. -/
  prompts : after.prompts = before.prompts ++
    List.replicate (trials.length - atHand.toList.length) session.passwordPrompt
  /-- No password that the user typed is used twice. -/
  typed : after.passwords = before.passwords.drop (trials.length - atHand.toList.length)

namespace Talk

variable {session : Session} {atHand : Option String} {before middle after : World}

/-- No password is tried. -/
theorem nil (session : Session) (atHand : Option String) (world : World) :
    Talk session atHand world [] world where
  requests := (List.append_nil _).symm
  replies := rfl
  means _ member := by cases member
  passwords := rfl
  prompts := by simp
  typed := by simp

/-- What else is done in the last world does not matter. -/
theorem congr {trials : List Trial} (talk : Talk session atHand before trials middle)
    (requests : after.requests = middle.requests) (prompts : after.prompts = middle.prompts)
    (typed : after.passwords = middle.passwords) : Talk session atHand before trials after :=
  { talk with
    requests := requests.trans talk.requests
    prompts := prompts.trans talk.prompts
    typed := typed.trans talk.typed }

/-- After a first password, only such passwords are tried that the user types. -/
theorem cons {trial : Trial} {trials : List Trial}
    (first : Talk session atHand before [trial] middle)
    (server : middle.server = (before.server.reply (trial.request session)).2)
    (later : Talk session none middle trials after) :
    Talk session atHand before (trial :: trials) after where
  requests := by
    rw [later.requests, first.requests, List.append_assoc]
    rfl
  replies := by
    have reply : trial.reply = (before.server.reply (trial.request session)).1 :=
      (List.cons.inj first.replies).1
    rw [List.map_cons, List.map_cons, Script.replies, reply, later.replies, server]
  means := List.forall_mem_cons.mpr ⟨first.means trial List.mem_cons_self, later.means⟩
  passwords := by
    have both := And.intro first.passwords later.passwords
    rw [first.typed] at both
    cases atHand <;> simpa using both
  prompts := by
    rw [later.prompts, first.prompts, List.append_assoc, List.replicate_append_replicate]
    exact congrArg (fun count => before.prompts ++ List.replicate count session.passwordPrompt)
      (typed_first_add atHand trials.length)
  typed := by
    rw [later.typed, first.typed, List.drop_drop]
    exact congrArg before.passwords.drop (typed_first_add atHand trials.length)

end Talk

/-- How trials with a number of attempts left end. -/
inductive Ending : Nat → List Trial → Except Fault String → Prop
  /-- There are no attempts left. -/
  | exhausted : Ending 0 [] (.error (.remote .tooManyAttempts))
  /-- The password is not refused. -/
  | last {attempts : Nat} {trial : Trial} (other : ¬ trial.Refused) :
    Ending (attempts + 1) [trial] trial.meaning
  /-- The password is refused, and another one is tried. -/
  | again {attempts : Nat} {trial : Trial} {trials : List Trial} {meaning : Except Fault String}
    (refused : trial.Refused) (later : Ending attempts trials meaning) :
    Ending (attempts + 1) (trial :: trials) meaning

namespace Ending

variable {attempts : Nat} {trials : List Trial} {meaning : Except Fault String}

/-- There are as many trials as attempts at most. -/
theorem length_le (ending : Ending attempts trials meaning) : trials.length ≤ attempts := by
  induction ending with
  | exhausted => exact Nat.le_refl 0
  | last other => exact Nat.le_add_left 1 _
  | again refused later inductionHypothesis => exact Nat.succ_le_succ inductionHypothesis

/-- All passwords but the last one were refused. -/
theorem refused_of_mem_dropLast (ending : Ending attempts trials meaning) :
    ∀ trial ∈ trials.dropLast, trial.Refused := by
  induction ending with
  | exhausted => exact fun _ member => by cases member
  | last other => exact fun _ member => by cases member
  | @again attempts trial trials meaning refused later inductionHypothesis =>
    cases trials with
    | nil => exact fun _ member => by cases member
    | cons next rest => exact List.forall_mem_cons.mpr ⟨refused, inductionHypothesis⟩

/-- A trial that was not refused decides. -/
theorem eq_meaning_of_not_refused (ending : Ending attempts trials meaning) :
    ∀ trial ∈ trials, ¬ trial.Refused → meaning = trial.meaning := by
  induction ending with
  | exhausted => exact fun _ member => by cases member
  | @last attempts trial other =>
    intro decisive member _
    rw [List.mem_singleton.mp member]
  | again refused later inductionHypothesis =>
    exact List.forall_mem_cons.mpr ⟨fun kept => absurd refused kept, inductionHypothesis⟩

/-- If every password was refused, then all attempts are used up. -/
theorem of_all_refused (ending : Ending attempts trials meaning)
    (refused : ∀ trial ∈ trials, trial.Refused) :
    trials.length = attempts ∧ meaning = .error (.remote .tooManyAttempts) := by
  induction ending with
  | exhausted => exact ⟨rfl, rfl⟩
  | last other => exact absurd (refused _ List.mem_cons_self) other
  | again _ later inductionHypothesis =>
    obtain ⟨length, failed⟩ := inductionHypothesis (List.forall_mem_cons.mp refused).2
    exact ⟨congrArg Nat.succ length, failed⟩

end Ending

/-- With an attempt left, a password is chosen and tried. -/
theorem exists_trial (password : Option String) {client : Client} {attempts : Nat}
    (answered : client.session.Answered client.world.server (attempts + 1)) :
    ∃ trial middle outcome after,
      choosePassword password client = (.ok trial.password, middle) ∧
      tryPassword trial.password middle = (outcome, after) ∧ Gives outcome trial.meaning ∧
      after.session = client.session ∧
      Talk client.session (password.filter fun text => !text.isEmpty) client.world [trial]
        after.world ∧
      after.world.server = (client.world.server.reply (trial.request client.session)).2 := by
  obtain ⟨text, world, chosen, choice⟩ := exists_choosePassword_apply password client
  obtain ⟨meaning, means⟩ := answered.exists_means text
  obtain ⟨outcome, entries, tried, gives⟩ := exists_tryPassword_apply text (choice.server ▸ means)
  refine ⟨⟨text, (client.world.server.reply (client.session.loginRequest text)).1, meaning⟩,
    ⟨client.session, world⟩, outcome, _, chosen, tried, gives, rfl, ?_, ?_⟩
  · exact
      { requests := congrArg (· ++ [client.session.loginRequest text]) choice.requests
        replies := rfl
        means := List.forall_mem_singleton.mpr means
        passwords := by
          rw [List.map_singleton, choice.password]
          cases password.filter fun text => !text.isEmpty <;> simp
        prompts := choice.prompts
        typed := choice.typed }
  · exact congrArg (fun server => (Script.reply _ server).2) choice.server

/-- Asking the server to log in tries passwords and comes to how that ends. -/
theorem exists_trials (attempts : Nat) (password : Option String) {client : Client}
    (answered : client.session.Answered client.world.server attempts) :
    ∃ trials meaning, Ending attempts trials meaning ∧
      Talk client.session (password.filter fun text => !text.isEmpty) client.world trials
        (loginAnswer password attempts client).2.world ∧
      Gives (loginAnswer password attempts client).1 meaning := by
  induction attempts generalizing password client with
  | zero => exact ⟨[], _, .exhausted, .nil _ _ _, rfl⟩
  | succ attempts inductionHypothesis =>
    obtain ⟨trial, middle, outcome, after, chosen, tried, gives, session, talk, server⟩ :=
      exists_trial password answered
    have outcomeOf : (tryPassword trial.password).outcome middle = (.ok outcome, after) := by
      rw [outcome_apply, tried]
    rw [loginAnswer, bind_of_ok _ chosen, bind_of_ok _ outcomeOf]
    cases meaning : trial.meaning with
    | ok id =>
      rw [meaning] at gives
      obtain ⟨answer, rfl, given⟩ := gives
      exact ⟨[trial], trial.meaning, .last (Trial.not_refused meaning), talk,
        meaning ▸ ⟨answer, rfl, given⟩⟩
    | error fault =>
      rw [meaning] at gives
      obtain rfl : outcome = .error fault := gives
      obtain ⟨refused, known, same⟩ :=
        exists_isRefusedLogin (meaning ▸ talk.means trial List.mem_cons_self)
      dsimp only
      rw [known, bind_of_ok _ (act_ofMishap_ok refused after)]
      cases refused with
      | false =>
        have other : ¬ trial.Refused := by
          rw [Trial.refused_iff meaning, ← same]
          exact Bool.false_ne_true
        exact ⟨[trial], trial.meaning, .last other, talk, meaning ▸ rfl⟩
      | true =>
        obtain ⟨entries, logged⟩ := exists_log_apply .warning "Login refused for %s."
          [.text after.session.user] after
        simp only [if_true]
        rw [bind_of_ok _ (session_apply after), bind_of_ok _ logged]
        have left : (after.logged entries).session.Answered (after.logged entries).world.server
            attempts := by
          show after.session.Answered after.world.server attempts
          rw [session, server]
          exact answered.later trial.password
        obtain ⟨trials, last, ending, later, gives⟩ := inductionHypothesis none left
        have noted : Talk client.session (password.filter fun text => !text.isEmpty) client.world
            [trial] (after.logged entries).world := talk.congr rfl rfl rfl
        rw [show (after.logged entries).session = client.session from session] at later
        exact ⟨trial :: trials, last, .again ((Trial.refused_iff meaning).mpr (same.mp rfl)) ending,
          noted.cons server later, gives⟩

/-! ## Taking over an id -/

/-- An id is taken over: what that comes to, and which client is left. -/
inductive TakenOver (id : String) (before : Client) : Except Fault Unit → Client → Prop
  /-- The session has no settings to keep the id in. -/
  | unsaved {after : Client} (settings : before.session.settings = none)
    (session : after.session = { before.session with id := .text id })
    (files : files after = files before) : TakenOver id before (.ok ()) after
  /-- The id is saved in the settings. -/
  | saved {file : SettingsFile} {after : Client} (settings : before.session.settings = some file)
    (given : after.session.id = .text id) (saved : Saved file before after) :
    TakenOver id before (.ok ()) after
  /-- The settings cannot be written. -/
  | unwritable {file : SettingsFile} {mishap : Mishap} {after : Client}
    (settings : before.session.settings = some file)
    (failed : before.world.tree.write before.world.folder file.path
      (.text (String.ofList
        (file.settings.set idSection before.session.idOption (.text id)).write)) = .error mishap)
    (session : after.session =
      { before.session with
        id := .text id
        settings :=
          some { file with
            settings := file.settings.set idSection before.session.idOption (.text id) } })
    (files : files after = files before) : TakenOver id before (.error (.mishap mishap)) after

/-- Only the session and the files that a client begins with matter. -/
theorem TakenOver.of_same {id : String} {before asked after : Client} {result : Except Fault Unit}
    (taken : TakenOver id asked result after) (session : asked.session = before.session)
    (same : files asked = files before) : TakenOver id before result after := by
  obtain ⟨tree, folder, -⟩ : asked.world.tree = before.world.tree ∧
      asked.world.folder = before.world.folder ∧ asked.world.user = before.world.user := by
    simpa only [files, Prod.mk.injEq] using same
  cases taken with
  | unsaved settings renewed left =>
    exact .unsaved (session ▸ settings) (session ▸ renewed) (left.trans same)
  | saved settings given saved =>
    exact .saved (session ▸ settings) given (saved.of_same session same)
  | unwritable settings failed renewed left =>
    refine .unwritable (session ▸ settings) ?_ (session ▸ renewed) (left.trans same)
    rw [← session, ← tree, ← folder]
    exact failed

/-- Taking over an id changes the session, its settings and the log only. -/
theorem exists_takeId_apply {answer : Value} {id : String} (given : idIn answer = .ok (.text id))
    (client : Client) :
    ∃ result session tree entries, takeId answer client =
        (result, ⟨session, { client.world with tree, log := client.world.log ++ entries }⟩) ∧
      TakenOver id client result
        ⟨session, { client.world with tree, log := client.world.log ++ entries }⟩ := by
  have taken : takeId answer client =
      (keepId >>= fun _ => Call.log .info "Logged in." [])
        { client with session := { client.session with id := .text id } } := by
    rw [takeId, given]
    rfl
  rw [taken]
  cases settings : client.session.settings with
  | none =>
    have kept : keepId { client with session := { client.session with id := .text id } } =
        (.ok (), { client with session := { client.session with id := .text id } }) := by
      rw [keepId, bind_of_ok _ (session_apply _)]
      simp only [settings]
      rfl
    obtain ⟨entries, logged⟩ := exists_log_apply .info "Logged in." []
      { client with session := { client.session with id := .text id } }
    rw [bind_of_ok _ kept, logged]
    exact ⟨_, _, client.world.tree, entries, rfl, .unsaved settings rfl rfl⟩
  | some file =>
    have renewed : ({ client with session := { client.session with id := .text id } } :
        Client).session.settings = some file := settings
    have saving := keepId_apply renewed
    rw [settingsWithId_eq] at saving
    split at saving
    · next tree written =>
      obtain ⟨entries, logged⟩ := exists_log_apply .info "Logged in." [] _
      rw [bind_of_ok _ saving, logged]
      exact ⟨_, _, tree, entries, rfl, .saved settings rfl ⟨rfl, written, rfl, rfl⟩⟩
    · next mishap failed =>
      rw [bind_of_error _ saving]
      refine ⟨_, _, client.world.tree, [], by rw [List.append_nil], ?_⟩
      exact .unwritable settings failed rfl rfl

/-! ## Logging in -/

/-- What a login tries, what it comes to and which client it leaves. -/
structure Tried (atHand : Option String) (before : Client) (trials : List Trial)
    (result : Except Fault Unit) (after : Client) : Prop
    extends Talk before.session atHand before.world trials after.world where
  /-- No more passwords are tried than the session permits. -/
  few : trials.length ≤ before.session.attempts.toNat
  /-- Another password is tried only after a refusal. -/
  continued : ∀ trial ∈ trials.dropLast, trial.Refused
  /-- Another password is tried after each refusal, as long as there are attempts left. -/
  pursued : (∀ trial ∈ trials, trial.Refused) → trials.length = before.session.attempts.toNat
  /-- Any other failure is what the login comes to. -/
  failed : ∀ trial ∈ trials, ∀ fault, trial.meaning = .error fault → ¬ trial.Refused →
    result = .error fault
  /-- The login comes to too many attempts exactly if every password was refused. An error of the
  server in the words for that is another failure. -/
  exhausted : result = .error (.remote .tooManyAttempts) ↔ ∀ trial ∈ trials, trial.Refused
  /-- The id that the server issued is taken over. -/
  taken : ∀ trial ∈ trials, ∀ id, trial.meaning = .ok id → TakenOver id before result after
  /-- Without one, the session and the files stay as they are. -/
  unchanged : (∀ trial ∈ trials, ∀ id, trial.meaning ≠ .ok id) →
    after.session = before.session ∧ files after = files before

/-- What a login comes to and which client it leaves, by what the decisive reply means. -/
def Settled (before : Client) (result : Except Fault Unit) (after : Client) :
    Except Fault String → Prop
  | .ok id => TakenOver id before result after
  | .error fault =>
    result = .error fault ∧ after.session = before.session ∧ files after = files before

/-- Taking over an id never uses up the attempts. -/
theorem TakenOver.ne_tooManyAttempts {id : String} {before after : Client}
    {result : Except Fault Unit} (taken : TakenOver id before result after) :
    result ≠ .error (.remote .tooManyAttempts) := by
  cases taken <;> exact nofun

/-- How the trials end says all about a login. -/
theorem Ending.tried {atHand : Option String} {before after : Client} {trials : List Trial}
    {meaning : Except Fault String} {result : Except Fault Unit}
    (ending : Ending before.session.attempts.toNat trials meaning)
    (talk : Talk before.session atHand before.world trials after.world)
    (settled : Settled before result after meaning) : Tried atHand before trials result after where
  toTalk := talk
  few := ending.length_le
  continued := ending.refused_of_mem_dropLast
  pursued refused := (ending.of_all_refused refused).1
  failed trial member fault failed other := by
    obtain rfl : meaning = .error fault :=
      (ending.eq_meaning_of_not_refused trial member other).trans failed
    exact settled.1
  exhausted := by
    constructor
    · intro exhausted trial member
      by_contra other
      have decided := ending.eq_meaning_of_not_refused trial member other
      cases meaning with
      | ok id => exact TakenOver.ne_tooManyAttempts settled exhausted
      | error fault =>
        have means := talk.means trial member
        rw [← decided] at means
        obtain rfl := Except.error.inj (settled.1.symm.trans exhausted)
        exact ne_tooManyAttempts means rfl
    · intro refused
      obtain ⟨-, rfl⟩ := ending.of_all_refused refused
      exact settled.1
  taken trial member id issued := by
    obtain rfl : meaning = .ok id :=
      (ending.eq_meaning_of_not_refused trial member (Trial.not_refused issued)).trans issued
    exact settled
  unchanged none := by
    cases meaning with
    | error fault => exact settled.2
    | ok id =>
      exfalso
      by_cases refused : ∀ trial ∈ trials, trial.Refused
      · cases (ending.of_all_refused refused).2
      · push Not at refused
        obtain ⟨trial, member, other⟩ := refused
        exact none trial member id (ending.eq_meaning_of_not_refused trial member other).symm

/-- A login tries passwords until one is not refused or the attempts are used up. What it sends, asks
for, comes to and changes is told by its trials. -/
theorem exists_trials_of_login (password : Option String) (client : Client)
    (answered : client.session.Answered client.world.server client.session.attempts.toNat) :
    ∃ trials, Tried (client.session.atHand password) client trials (login password client).1
      (login password client).2 := by
  have tries : login password client =
      (loginAnswer ((password.filter fun text => !text.isEmpty).or client.session.password)
        client.session.attempts.toNat >>= takeId) client := by
    rw [login, bind_of_ok _ (session_apply client), loginWith_eq]
  rw [tries, atHand]
  generalize (password.filter fun text => !text.isEmpty).or client.session.password = start
  obtain ⟨trials, meaning, ending, talk, gives⟩ := exists_trials _ start answered
  have session := session_loginAnswer start client.session.attempts.toNat client
  have left := within_loginAnswer frame_files start client.session.attempts.toNat client
  rcases asked : loginAnswer start client.session.attempts.toNat client with ⟨outcome, middle⟩
  rw [asked] at talk gives session left
  refine ⟨trials, ?_⟩
  cases meaning with
  | error fault =>
    obtain rfl : outcome = .error fault := gives
    rw [bind_of_error _ asked]
    exact ending.tried talk ⟨rfl, session, left⟩
  | ok id =>
    obtain ⟨answer, rfl, given⟩ := gives
    obtain ⟨result, renewed, tree, entries, ran, taken⟩ := exists_takeId_apply given middle
    rw [bind_of_ok _ asked, ran]
    exact ending.tried (talk.congr rfl rfl rfl) (taken.of_same session left)

/-- A client with settings who is given the password `old`, which the server refuses; the next one
brings the id `abc`. -/
def doubted : Client where
  session :=
    { user := "me"
      password := none
      url := "http://server"
      settings := some ⟨"/settings", {}⟩ }
  world :=
    { folder := "/"
      tree := { files := .ofList [] }
      server :=
        [{ conditions := [("action", "login")]
           replies :=
            [.answer 200 (.text "OK") none "\x7b\"error\": \"Incorrect Login.\"\x7d",
              .answer 200 (.text "OK") none "\x7b\"session.id\": \"abc\"\x7d"] }]
      passwords := ["new"] }

/-- The client logs in with the password `new`. -/
theorem doubted_tries :
    (∃ trials, Tried (some "old") doubted trials (login (some "old") doubted).1
        (login (some "old") doubted).2) ∧
      (login (some "old") doubted).2.session.id.text? = some "abc" ∧
      (login (some "old") doubted).2.world.requests.map (fun request => request.field? "password") =
        [some "old", some "new"] := by
  have answered : doubted.session.Answered doubted.world.server 3 := by
    intro passwords _
    refine Script.forall_mem_replies ⟨_, .unanswered _ _⟩ _ _ ?_
    refine List.forall_mem_singleton.mpr (List.forall_mem_cons.mpr
      ⟨?_, List.forall_mem_singleton.mpr ?_⟩)
    · have read : Json.read? "\x7b\"error\": \"Incorrect Login.\"\x7d" =
          some (.map (some 0) [("error", .text "Incorrect Login.")]) := by cbv
      exact ⟨_, .refused read rfl⟩
    · have read : Json.read? "\x7b\"session.id\": \"abc\"\x7d" =
          some (.map (some 0) [("session.id", .text "abc")]) := by cbv
      exact ⟨_, .issued read rfl rfl rfl⟩
  exact ⟨exists_trials_of_login (some "old") doubted answered, by decide +kernel, by decide +kernel⟩

end Session

end Jobflow
