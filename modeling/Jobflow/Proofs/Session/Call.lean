import Jobflow.Proofs.Logged
import Jobflow.Session.Call

/-!
# Laws of calls

What calls put together from others come to. A call that only logs leaves a client as it
was except for its log.
-/

namespace Jobflow

/-- A client after some messages were logged. -/
def Client.logged (client : Client) (entries : Log) : Client :=
  { client with world := { client.world with log := client.world.log ++ entries } }

section

variable {State α β : Type} {first : ExceptT Fault (StateM State) α}
  (next : α → ExceptT Fault (StateM State) β) {state after : State}

/-- After a step that gives a value, the next one goes on from there. -/
theorem bind_eq_of_ok {value : α} (run : first state = (.ok value, after)) :
    (first >>= next) state = next value after := by
  have started : first.run.run state = (.ok value, after) := run
  show (first >>= next).run.run state = next value after
  rw [ExceptT.run_bind, StateT.run_bind, started]
  rfl

/-- After a step that stops, nothing is done. -/
theorem bind_eq_of_error {fault : Fault} (run : first state = (.error fault, after)) :
    (first >>= next) state = (.error fault, after) := by
  have started : first.run.run state = (.error fault, after) := run
  show (first >>= next).run.run state = (.error fault, after)
  rw [ExceptT.run_bind, StateT.run_bind, started]
  rfl

end

/-- After an action that gives a value, the next one goes on from there. -/
theorem Action.bind_of_ok {α β : Type} {first : Action α} (next : α → Action β)
    {world after : World} {value : α} (run : first world = (.ok value, after)) :
    (first >>= next) world = next value after :=
  bind_eq_of_ok next run

/-- After an action that stops, nothing is done. -/
theorem Action.bind_of_error {α β : Type} {first : Action α} (next : α → Action β)
    {world after : World} {fault : Fault} (run : first world = (.error fault, after)) :
    (first >>= next) world = (.error fault, after) :=
  bind_eq_of_error next run

/-- Sending a request comes to what the reply means, and the request is on record. -/
theorem Action.send_apply (request : Request) (world : World) :
    Action.send request world = ((world.server.reply request).1.outcome request,
      { world with
        server := (world.server.reply request).2
        requests := world.requests ++ [request] }) := by
  show Action.ofExcept ((world.server.reply request).1.outcome request) _ = _
  cases (world.server.reply request).1.outcome request <;> rfl

/-- Writing a file leaves another tree, unless there is trouble with it. -/
theorem Action.write_apply (path : String) (file : File) (world : World) :
    Action.write path file world =
      match world.tree.write world.folder path file with
      | .ok tree => (.ok (), { world with tree })
      | .error mishap => (.error (.mishap mishap), world) := by
  show (Action.ofMishap (world.tree.write world.folder path file) >>=
    fun tree => (set { world with tree } : Action Unit)) world = _
  cases world.tree.write world.folder path file <;> rfl

/-- The usual handlers drop a message whose template cannot be filled. -/
theorem Action.deliver_eq_log (level : LogLevel) (message : Except TemplateError LogEntry) :
    Action.deliver level message = Action.log message.toOption := by
  cases message <;> rfl

/-- Looking for a file shows what a path leads to, if anything. -/
theorem Action.find?_apply (path : String) (world : World) :
    Action.find? path world =
      (.ok ((world.tree.find world.folder path).toOption.map Prod.snd), world) := by
  have present : (get : Action World) world = (.ok world, world) := rfl
  rw [Action.find?, bind_of_ok _ present]
  cases world.tree.find world.folder path <;> rfl

namespace Call

variable {α β : Type}

/-- After a call that gives a value, the next one goes on from there. -/
theorem bind_of_ok {first : Call α} (next : α → Call β) {client after : Client} {value : α}
    (run : first client = (.ok value, after)) : (first >>= next) client = next value after :=
  bind_eq_of_ok next run

/-- After a call that stops, nothing is done. -/
theorem bind_of_error {first : Call α} (next : α → Call β) {client after : Client} {fault : Fault}
    (run : first client = (.error fault, after)) :
    (first >>= next) client = (.error fault, after) :=
  bind_eq_of_error next run

/-- If two calls in a row come to a value, the first one comes to a value before. -/
theorem exists_of_bind_ok {first : Call α} {next : α → Call β} {client after : Client} {last : β}
    (run : (first >>= next) client = (.ok last, after)) :
    ∃ value middle, first client = (.ok value, middle) ∧ next value middle = (.ok last, after) := by
  rcases started : first client with ⟨result, middle⟩
  cases result with
  | ok value =>
    rw [bind_of_ok next started] at run
    exact ⟨value, middle, rfl, run⟩
  | error fault =>
    rw [bind_of_error next started] at run
    cases run

/-- The session of a client is at hand. -/
theorem session_apply (client : Client) : session client = (.ok client.session, client) := rfl

/-- The outcome of a call is that of the call. -/
theorem outcome_apply (call : Call α) (client : Client) :
    outcome call client = (.ok (call client).1, (call client).2) := rfl

/-- A result without a fault is given. -/
theorem act_ofMishap_ok (value : α) (client : Client) :
    act (Action.ofMishap (.ok value)) client = (.ok value, client) := rfl

/-- Logging leaves all but the log. -/
theorem exists_log_apply (level : LogLevel) (template : String) (args : List Value)
    (client : Client) :
    ∃ entries, log level template args client = (.ok (), client.logged entries) := by
  have delivered : log level template args client = act (Action.log
      (LogEntry.ofTagged level client.session.repr template args).toOption) client :=
    congrFun (congrArg act (Action.deliver_eq_log level _)) client
  rw [delivered]
  cases (LogEntry.ofTagged level client.session.repr template args).toOption with
  | some entry => exact ⟨[entry], rfl⟩
  | none =>
    refine ⟨[], ?_⟩
    rw [Client.logged, List.append_nil]
    rfl

/-- A computation that logs has its value, and its messages are logged. -/
theorem act_ofLogged (computation : Logged α) (client : Client) :
    act (Action.ofLogged computation) client =
      ((computation.run.run []).1, client.logged (computation.run.run []).2) := by
  rcases run : computation.run.run [] with ⟨result, entries⟩
  simp only [act, Action.ofLogged, run]
  cases result <;> rfl

/-- A computation that gives a value only logs besides. -/
theorem exists_act_apply {computation : Logged α} {value : α} (gives : computation.Gives value)
    (client : Client) :
    ∃ entries, act (Action.ofLogged computation) client = (.ok value, client.logged entries) := by
  obtain ⟨entries, run⟩ := gives []
  refine ⟨entries, ?_⟩
  rw [act_ofLogged, run]

/-- A computation that comes to a value and logs does so. -/
theorem act_of_writes {computation : Logged α} {value : α} {entries : Log}
    (writes : computation.Writes value entries) (client : Client) :
    act (Action.ofLogged computation) client = (.ok value, client.logged entries) := by
  rw [act_ofLogged, writes []]
  rfl

end Call

/-- The session of a URL is that of the address in it. -/
theorem Session.ofUrl_apply (url : String) (settings : Option SettingsFile)
    (options : SessionOptions) (world : World) :
    ofUrl url settings options world =
      ((Server.Address.ofUrl url).map fun address =>
        ofAddress address world.user settings options, world) := by
  rw [ofUrl]
  cases Server.Address.ofUrl url <;> rfl

end Jobflow
