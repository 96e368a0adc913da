import Mathlib.Data.List.Forall2
import Jobflow.Proofs.Session.Call
import Jobflow.Session.Batch

/-!
# Runs that differ in a password

Two runs of a session go side by side, with passwords that may differ. A password is a secret
if nothing but the password field of logins tells them apart: what the calls come to, what is
logged, asked for and written to files is the same in both, and so are all requests except for
the passwords in logins.

Clients that differ in this way only are alike. Calls agree if they come to the same from alike
clients and leave alike clients. Each call of a session agrees with itself, and logins agree
though their passwords differ. The server is assumed to give alike requests the same replies,
whatever was asked before.
-/

namespace Jobflow

/-! ## Alike requests, servers and clients -/

/-- Requests that are the same, or logins that differ in their passwords at most. -/
inductive Request.Alike : Request → Request → Prop
  /-- A request is alike itself. -/
  | same (request : Request) : Alike request request
  /-- Logins with two passwords are alike. -/
  | login (session : Session) (password other : String) :
    Alike (session.loginRequest password) (session.loginRequest other)

/-- Alike requests go to the same URL. -/
theorem Request.Alike.url {request other : Request} (alike : request.Alike other) :
    request.url = other.url := by
  cases alike <;> rfl

/-- Alike requests have all fields in common but the password. -/
theorem Request.Alike.field? {request other : Request} (alike : request.Alike other)
    (name : String) (shown : name ≠ "password") : request.field? name = other.field? name := by
  cases alike with
  | same => rfl
  | login session password other =>
    have hidden : (name == "password") = false := beq_eq_false_iff_ne.mpr shown
    simp only [Request.field?, Session.loginRequest, Option.getD_some, List.lookup_cons, hidden,
      List.lookup_nil]

/-- The replies of a server to requests one after the other. -/
def Script.replies (script : Script) : List Request → List Reply
  | [] => []
  | request :: rest =>
    (script.reply request).1 :: Script.replies (script.reply request).2 rest

/-- Servers that give alike requests the same replies, from now on. -/
def Script.Alike (script other : Script) : Prop :=
  ∀ requests others, List.Forall₂ Request.Alike requests others →
    script.replies requests = other.replies others

/-- The next reply of alike servers is the same. -/
theorem Script.Alike.reply {script other : Script} (alike : script.Alike other)
    {request second : Request} (requests : request.Alike second) :
    (script.reply request).1 = (other.reply second).1 := by
  have replies := alike [request] [second] (.cons requests .nil)
  exact (List.cons.inj replies).1

/-- Alike servers stay alike. -/
theorem Script.Alike.after {script other : Script} (alike : script.Alike other)
    {request second : Request} (requests : request.Alike second) :
    Script.Alike (script.reply request).2 (other.reply second).2 := by
  intro later others both
  have replies := alike (request :: later) (second :: others) (.cons requests both)
  exact (List.cons.inj replies).2

/-- Whether a request meets the conditions of a rule does not depend on a password that they
do not mention. -/
theorem Rule.matches_of_alike (rule : Rule) (silent : ∀ condition ∈ rule.conditions,
    condition.1 ≠ "password") {request other : Request} (alike : request.Alike other) :
    rule.matches request = rule.matches other := by
  rw [Rule.matches, Rule.matches]
  apply Bool.eq_iff_iff.mpr
  simp only [List.all_eq_true]
  refine forall₂_congr fun condition member => ?_
  rw [alike.field? condition.1 (silent condition member)]

/-- A server whose rules do not mention passwords answers alike requests the same way. -/
theorem Script.reply_of_alike (script : Script) (silent : ∀ rule ∈ script,
    ∀ condition ∈ rule.conditions, condition.1 ≠ "password") {request other : Request}
    (alike : request.Alike other) : script.reply request = script.reply other := by
  induction script with
  | nil => rfl
  | cons rule rest inductionHypothesis =>
    have later := inductionHypothesis fun rule member => silent rule (List.mem_cons_of_mem _ member)
    rw [Script.reply, Script.reply, rule.matches_of_alike (silent rule List.mem_cons_self) alike,
      later]

/-- Servers with the same rules, whatever they have answered so far, mention the same fields. -/
theorem Script.silent_reply (script : Script) (silent : ∀ rule ∈ script,
    ∀ condition ∈ rule.conditions, condition.1 ≠ "password") (request : Request) :
    ∀ rule ∈ (script.reply request).2, ∀ condition ∈ rule.conditions,
      condition.1 ≠ "password" := by
  induction script with
  | nil => exact fun _ member => by cases member
  | cons rule rest inductionHypothesis =>
    have later := inductionHypothesis fun rule member => silent rule (List.mem_cons_of_mem _ member)
    have here := silent rule List.mem_cons_self
    rw [Script.reply]
    split
    · exact List.forall_mem_cons.mpr
        ⟨here, fun rule member => silent rule (List.mem_cons_of_mem _ member)⟩
    · exact List.forall_mem_cons.mpr ⟨here, later⟩

/-- A server whose rules do not mention passwords cannot be told apart from itself. -/
theorem Script.alike_self (script : Script) (silent : ∀ rule ∈ script,
    ∀ condition ∈ rule.conditions, condition.1 ≠ "password") : script.Alike script := by
  intro requests others both
  induction both generalizing script with
  | nil => rfl
  | cons alike rest inductionHypothesis =>
    rw [Script.replies, Script.replies, script.reply_of_alike silent alike]
    exact congrArg _ (inductionHypothesis _ (script.silent_reply silent _))

/-- Sessions that differ in their passwords at most, which both know. -/
structure Session.Alike (session other : Session) : Prop where
  /-- All else is the same. -/
  same : other = { session with password := other.password }
  /-- The first one knows a password. -/
  known : ∃ password, session.password = some password ∧ password ≠ ""
  /-- The second one knows a password. -/
  otherKnown : ∃ password, other.password = some password ∧ password ≠ ""

/-- A world with another server and other requests on record. -/
def World.withServer (world : World) (server : Script) (requests : List Request) : World :=
  { world with server, requests }

/-- Clients that differ in the passwords of their sessions, and in what the server has seen of
these. -/
structure Client.Alike (client other : Client) : Prop where
  /-- The sessions differ in their passwords. -/
  session : client.session.Alike other.session
  /-- The worlds differ in the servers and the requests on record. -/
  world : other.world = client.world.withServer other.world.server other.world.requests
  /-- The servers cannot be told apart. -/
  server : client.world.server.Alike other.world.server
  /-- The requests on record differ in passwords. -/
  requests : List.Forall₂ Request.Alike client.world.requests other.world.requests

/-! ## Actions that leave the server alone -/

/-- An action that has nothing to do with the server and the requests on record. -/
def Action.Offline {α : Type} (action : Action α) : Prop :=
  ∀ world server requests, action (world.withServer server requests) =
    ((action world).1, (action world).2.withServer server requests)

namespace Action

variable {α : Type}

/-- Logging an entry. -/
theorem offline_log (entry : Option LogEntry) : Offline (log entry) := by
  intro world server requests
  cases entry <;> rfl

/-- A computation that logs. -/
theorem offline_ofLogged (computation : Logged α) : Offline (ofLogged computation) := by
  intro world server requests
  rw [ofLogged]
  rcases computation.run.run [] with ⟨fault | value, entries⟩ <;> rfl

/-- A result. -/
theorem offline_ofMishap (result : Except Mishap α) : Offline (ofMishap result) := by
  intro world server requests
  cases result <;> rfl

/-- Asking for a password. -/
theorem offline_prompt (text : String) : Offline (prompt text) := fun _ _ _ => rfl

/-- Looking for a file. -/
theorem offline_find? (path : String) : Offline (find? path) := by
  intro world server requests
  rw [find?_apply, find?_apply]
  rfl

/-- Writing a file. -/
theorem offline_write (path : String) (file : File) : Offline (write path file) := by
  intro world server requests
  have tree : (world.withServer server requests).tree = world.tree := rfl
  have folder : (world.withServer server requests).folder = world.folder := rfl
  rw [write_apply, write_apply, tree, folder]
  cases world.tree.write world.folder path file <;> rfl

end Action

namespace Call

variable {α β : Type}

/-- Calls that come to the same from alike clients, and leave alike clients. -/
def Agree (first second : Call α) : Prop :=
  ∀ client other : Client, client.Alike other →
    (first client).1 = (second other).1 ∧ (first client).2.Alike (second other).2

/-- A call agrees with itself. -/
abbrev Blind (call : Call α) : Prop := Agree call call

/-- Giving a value. -/
theorem blind_pure (value : α) : Blind (pure value) := fun _ _ alike => ⟨rfl, alike⟩

/-- Stopping. -/
theorem blind_throw (fault : Fault) : Blind (throw fault : Call α) := fun _ _ alike => ⟨rfl, alike⟩

/-- Calls in a row agree if they agree one by one. -/
theorem agree_bind {first second : Call α} {next later : α → Call β} (agree : Agree first second)
    (each : ∀ value, Agree (next value) (later value)) :
    Agree (first >>= next) (second >>= later) := by
  intro client other alike
  obtain ⟨same, left⟩ := agree client other alike
  rcases run : first client with ⟨result, after⟩
  rcases otherRun : second other with ⟨otherResult, otherAfter⟩
  rw [run, otherRun] at same left
  dsimp only at same left
  subst same
  cases result with
  | ok value =>
    rw [bind_of_ok _ run, bind_of_ok _ otherRun]
    exact each value after otherAfter left
  | error fault =>
    rw [bind_of_error _ run, bind_of_error _ otherRun]
    exact ⟨rfl, left⟩

/-- Looking at the session shows all but the password. -/
theorem agree_session_bind {next later : Session → Call β}
    (each : ∀ (session : Session) (password other : String), password ≠ "" → other ≠ "" →
      Agree (next { session with password := some password })
        (later { session with password := some other })) :
    Agree (session >>= next) (session >>= later) := by
  intro client second alike
  obtain ⟨password, known, filled⟩ := alike.session.known
  obtain ⟨other, otherKnown, otherFilled⟩ := alike.session.otherKnown
  have first : client.session = { client.session with password := some password } := by
    rw [← known]
  have last : second.session = { client.session with password := some other } := by
    rw [← otherKnown]
    exact alike.session.same
  rw [bind_of_ok _ (session_apply client), bind_of_ok _ (session_apply second), first, last]
  exact each client.session password other filled otherFilled client second alike

/-- Acting on the world without the server. -/
theorem blind_act {action : Action α} (offline : action.Offline) : Blind (act action) := by
  intro client other alike
  have here := offline client.world client.world.server client.world.requests
  have there := offline client.world other.world.server other.world.requests
  rw [← alike.world] at there
  have server : (action client.world).2.server = client.world.server :=
    congrArg (fun run => run.2.server) here
  have requests : (action client.world).2.requests = client.world.requests :=
    congrArg (fun run => run.2.requests) here
  refine ⟨(congrArg Prod.fst there).symm, ?_⟩
  exact
    { session := alike.session
      world := by
        show (action other.world).2 = (action client.world).2.withServer
          (action other.world).2.server (action other.world).2.requests
        rw [there]
        rfl
      server := by
        show Script.Alike (action client.world).2.server (action other.world).2.server
        rw [there, server]
        exact alike.server
      requests := by
        show List.Forall₂ Request.Alike (action client.world).2.requests
          (action other.world).2.requests
        rw [there, requests]
        exact alike.requests }

/-- Changing sessions so that they stay alike. -/
theorem agree_update {change other : Session → Session}
    (each : ∀ session second : Session, session.Alike second →
      (change session).Alike (other second)) : Agree (update change) (update other) := by
  intro client second alike
  exact ⟨rfl, each _ _ alike.session, alike.world, alike.server, alike.requests⟩

/-- Sending alike requests. -/
theorem agree_send {request other : Request} (requests : request.Alike other) :
    Agree (send request) (send other) := by
  intro client second alike
  have reply := alike.server.reply requests
  have outcome : (client.world.server.reply request).1.outcome request =
      (second.world.server.reply other).1.outcome other := by
    rw [reply]
    cases (second.world.server.reply other).1 with
    | answer status reason url text => rw [Reply.outcome, Reply.outcome, requests.url]
    | failure kind message => rfl
  simp only [send, mapFault, act, Action.send_apply]
  refine ⟨by rw [outcome, requests.url], ?_⟩
  exact
    { session := alike.session
      world := by rw [alike.world]; rfl
      server := alike.server.after requests
      requests := List.rel_append alike.requests (.cons requests .nil) }

/-- The outcomes of calls that agree. -/
theorem agree_outcome {first second : Call α} (agree : Agree first second) :
    Agree (outcome first) (outcome second) := by
  intro client other alike
  obtain ⟨same, left⟩ := agree client other alike
  exact ⟨congrArg Except.ok same, left⟩

/-- Calls that agree, with another fault. -/
theorem agree_mapFault {first second : Call α} (change : Fault → Fault)
    (agree : Agree first second) : Agree (mapFault change first) (mapFault change second) := by
  intro client other alike
  obtain ⟨same, left⟩ := agree client other alike
  exact ⟨congrArg (Except.mapError change) same, left⟩

/-- Logging. -/
theorem blind_log (level : LogLevel) (template : String) (args : List Value) :
    Blind (log level template args) :=
  agree_session_bind fun _ _ _ _ _ =>
    blind_act (Action.deliver_eq_log level _ ▸ Action.offline_log _)

end Call

/-! ## Logging in -/

namespace Session

open Call

/-- Reading the document in an answer. -/
theorem blind_document (response : Response) : Blind (document response) :=
  blind_act (Action.offline_ofLogged _)

/-- Trying two passwords. -/
theorem agree_tryPassword (password other : String) :
    Agree (tryPassword password) (tryPassword other) := by
  apply agree_session_bind
  intro session _ _ _ _
  exact agree_bind (agree_send (.login session password other)) blind_document

/-- Keeping an id. -/
theorem blind_keepId : Blind keepId := by
  apply agree_session_bind
  intro session password other known otherKnown
  dsimp only
  cases session.settings with
  | none => exact blind_pure ()
  | some file =>
    refine agree_bind (agree_update fun first second alike => ?_) fun _ =>
      blind_act (Action.offline_write _ _)
    exact ⟨by rw [alike.same]; rfl, alike.known, alike.otherKnown⟩

/-- Taking over the id in an answer. -/
theorem blind_takeId (answer : Value) : Blind (takeId answer) := by
  rw [takeId]
  refine agree_bind ?_ fun id => ?_
  · cases idIn answer with
    | ok id => exact blind_pure id
    | error fault => exact blind_throw fault
  · refine agree_bind (agree_update fun first second alike => ?_) fun _ =>
      agree_bind blind_keepId fun _ => blind_log _ _ _
    exact ⟨by rw [alike.same], alike.known, alike.otherKnown⟩

/-- Try a password, and other ones if the server refuses it and attempts are left. -/
def attempt (attempts : Nat) (chosen : String) : Call Unit := do
  match ← (tryPassword chosen).outcome with
  | .ok document => takeId document
  | .error fault =>
    if ← Call.act (Action.ofMishap (isRefusedLogin fault)) then
      let session ← Call.session
      Call.log .warning "Login refused for %s." [.text session.user]
      loginWith none attempts
    else throw fault

/-- Logging in with an attempt left is choosing a password and trying it. -/
theorem loginWith_succ (password : Option String) (attempts : Nat) :
    loginWith password (attempts + 1) = choosePassword password >>= attempt attempts := rfl

/-- Trying two passwords in turn of the same further ones. -/
theorem agree_attempt (attempts : Nat) (chosen other : String)
    (again : Blind (loginWith none attempts)) :
    Agree (attempt attempts chosen) (attempt attempts other) := by
  refine agree_bind (agree_outcome (agree_tryPassword chosen other)) fun outcome => ?_
  cases outcome with
  | ok answer => exact blind_takeId answer
  | error fault =>
    refine agree_bind (blind_act (Action.offline_ofMishap _)) fun refused => ?_
    cases refused with
    | true =>
      exact agree_session_bind fun _ _ _ _ _ => agree_bind (blind_log _ _ _) fun _ => again
    | false => exact blind_throw fault

/-- Logging in with typed passwords only. -/
theorem blind_loginWith_none (attempts : Nat) : Blind (loginWith none attempts) := by
  induction attempts with
  | zero => exact blind_throw _
  | succ attempts inductionHypothesis =>
    rw [loginWith_succ]
    refine agree_bind ?_ fun chosen => agree_attempt attempts chosen chosen inductionHypothesis
    exact agree_session_bind fun _ _ _ _ _ => blind_act (Action.offline_prompt _)

/-- Logging in with the passwords that are known. -/
theorem agree_loginWith (attempts : Nat) {password other : String} (known : password ≠ "")
    (otherKnown : other ≠ "") :
    Agree (loginWith (some password) attempts) (loginWith (some other) attempts) := by
  cases attempts with
  | zero => exact blind_throw _
  | succ attempts =>
    have chosen {text : String} (filled : text ≠ "") :
        loginWith (some text) (attempts + 1) = attempt attempts text := by
      have kept : (some text).filter (fun text => !text.isEmpty) = some text := by
        simp [filled]
      rw [loginWith_succ, choosePassword, kept]
      rfl
    rw [chosen known, chosen otherKnown]
    exact agree_attempt attempts password other (blind_loginWith_none attempts)

/-- Renewing a session. -/
theorem blind_renew (expired : Value) : Blind (renew expired) := by
  apply agree_session_bind
  intro session password other known otherKnown
  dsimp only
  split
  · exact agree_session_bind fun _ _ _ known otherKnown => agree_loginWith _ known otherKnown
  · exact blind_log _ _ _

/-! ## Requests and operations -/

/-- Sending a draft. -/
theorem blind_sendDraft (draft : Draft) : Blind (sendDraft draft) :=
  agree_session_bind fun _ _ _ _ _ =>
    agree_bind (agree_send (.same _)) fun _ => blind_pure _

/-- Sending until the session is accepted. -/
theorem blind_exchange (draft : Draft) (renewals : Nat) :
    Blind (exchange (sendDraft draft) renew renewals) := by
  induction renewals with
  | zero =>
    rw [exchange]
    refine agree_bind (blind_sendDraft draft) fun sent => ?_
    dsimp only
    cases sent.2.rejection? with
    | none => exact blind_pure _
    | some reason => exact blind_throw _
  | succ renewals inductionHypothesis =>
    rw [exchange]
    refine agree_bind (blind_sendDraft draft) fun sent => ?_
    dsimp only
    cases sent.2.rejection? with
    | none => exact blind_pure _
    | some reason =>
      exact agree_bind (blind_act (Action.offline_log _)) fun _ =>
        agree_bind (blind_renew _) fun _ => inductionHypothesis

/-- Checking the status of an answer. -/
theorem blind_checkStatus (draft : Draft) (response : Response) :
    Blind (checkStatus draft response) := by
  rw [checkStatus]
  cases response.statusFault? with
  | none => exact blind_pure response
  | some fault =>
    exact agree_session_bind fun _ _ _ _ _ =>
      agree_bind (blind_log _ _ _) fun _ => blind_throw fault

/-- A request. -/
theorem blind_request (draft : Draft) : Blind (request draft) := by
  have answered : Blind (do
      checkStatus draft (← exchange (sendDraft draft) renew draft.retries.toNat)) :=
    agree_bind (blind_exchange draft _) (blind_checkStatus draft)
  apply agree_session_bind
  intro session _ _ _ _
  dsimp only
  split
  · exact answered
  · exact agree_bind (blind_renew .null) fun _ => answered

/-- Asking whether the session is accepted. -/
theorem blind_isValid (response : Option Response) : Blind (isValid response) := by
  apply agree_session_bind
  intro session _ _ _ _
  dsimp only
  split
  · exact blind_pure false
  · cases response with
    | some response =>
      refine agree_bind (blind_pure response) fun given => ?_
      cases given.rejection? with
      | none => exact blind_pure true
      | some reason => exact agree_bind (blind_log _ _ _) fun _ => blind_pure false
    | none =>
      refine agree_bind (agree_send (.same _)) fun given => ?_
      cases given.rejection? with
      | none => exact blind_pure true
      | some reason => exact agree_bind (blind_log _ _ _) fun _ => blind_pure false

/-- Reading an answer about a project. -/
theorem blind_projectDocument (project : Value) (response : Response) :
    Blind (projectDocument project response) := by
  rw [projectDocument]
  split
  · exact blind_throw _
  · exact blind_document response

/-- Listing flows. -/
theorem blind_flows (project : Value) : Blind (flows project) :=
  agree_bind (blind_log _ _ _) fun _ =>
    agree_bind (agree_mapFault _ (blind_request _)) fun _ => blind_projectDocument _ _

/-- Listing executions. -/
theorem blind_executions (project flow start length : Value) :
    Blind (executions project flow start length) :=
  agree_bind (blind_log _ _ _) fun _ =>
    agree_bind (blind_request _) fun _ => blind_projectDocument _ _

/-- Fetching the state of an execution. -/
theorem blind_execution (id : Value) : Blind (execution id) :=
  agree_bind (blind_log _ _ _) fun _ => agree_bind (blind_request _) fun _ => blind_document _

/-- Creating a project. -/
theorem blind_createProject (name description : Value) : Blind (createProject name description) :=
  agree_bind (blind_request _) fun _ =>
    agree_bind (blind_document _) fun _ => agree_bind (blind_log _ _ _) fun _ => blind_pure _

/-- Uploading an archive once. -/
theorem blind_sendArchive (project : Value) (archive : Upload) :
    Blind (sendArchive project archive) :=
  agree_bind (blind_request _) fun _ =>
    agree_bind (blind_document _) fun _ => agree_bind (blind_log _ _ _) fun _ => blind_pure _

/-- Logging in again if the session is not accepted. -/
theorem blind_ensureValid : Blind ensureValid := by
  refine agree_bind (blind_isValid none) fun valid => ?_
  split
  · exact blind_pure ()
  · exact agree_session_bind fun _ _ _ _ _ => blind_renew _

/-- Uploading an archive. -/
theorem blind_upload (project : Value) (path : String) (name : Option String) :
    Blind (upload project path name) := by
  refine agree_bind (blind_act (Action.offline_find? path)) fun found => ?_
  dsimp only
  split
  · exact blind_throw _
  · refine agree_bind blind_ensureValid fun _ => ?_
    refine agree_bind (blind_log _ _ _) fun _ => ?_
    refine agree_bind (blind_act (Action.offline_find? path)) fun contents => ?_
    split
    · exact blind_throw _
    · exact blind_throw _
    · exact blind_sendArchive _ _

/-! ## Batches -/

/-- Sending the requests of some keys. -/
theorem blind_sendAll {ask : Value → Call Value} (asking : ∀ key, Blind (ask key))
    (keys : List Value) : Blind (sendAll ask keys) := by
  induction keys with
  | nil => exact blind_pure []
  | cons key rest inductionHypothesis =>
    rw [sendAll]
    refine agree_bind (agree_outcome (asking key)) fun outcome => ?_
    cases outcome with
    | ok document => exact agree_bind inductionHypothesis fun _ => blind_pure _
    | error fault =>
      dsimp only
      split
      · exact blind_pure _
      · exact agree_bind inductionHypothesis fun _ => blind_pure _

/-- Logging results. -/
theorem blind_logResults (outcomes : List Outcome) : Blind (outcomes.forM logResult) := by
  induction outcomes with
  | nil => exact blind_pure ()
  | cons outcome rest inductionHypothesis =>
    refine agree_bind ?_ fun _ => inductionHypothesis
    obtain ⟨key, result⟩ := outcome
    cases result with
    | ok document => exact blind_pure ()
    | error fault => exact blind_log _ _ _

/-- A batch. -/
theorem blind_batchIn (schedule : Schedule) {ask : Value → Call Value}
    (asking : ∀ key, Blind (ask key)) (keys : List Value) :
    Blind (batchIn schedule ask keys) := by
  refine agree_bind (blind_act (Action.offline_ofMishap _)) fun kept => ?_
  dsimp only
  split
  · exact blind_pure _
  · apply agree_session_bind
    intro session _ _ _ _
    dsimp only
    split
    · exact blind_throw _
    · refine agree_bind (blind_sendAll asking _) fun outcomes => ?_
      refine agree_bind (blind_logResults _) fun _ => ?_
      split
      · exact blind_throw _
      · exact blind_pure _

end Session

end Jobflow
