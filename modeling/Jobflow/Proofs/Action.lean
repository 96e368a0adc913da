import Jobflow.Proofs.Session.Call

/-!
# Laws of actions

What actions put together from others come to. An action that only logs leaves a world as it was
except for its log.
-/

namespace Jobflow

/-- A world after some messages were logged. -/
def World.logged (world : World) (entries : Log) : World :=
  { world with log := world.log ++ entries }

@[simp] theorem World.logged_tree (world : World) (entries : Log) :
    (world.logged entries).tree = world.tree := rfl

@[simp] theorem World.logged_folder (world : World) (entries : Log) :
    (world.logged entries).folder = world.folder := rfl

/-- Messages are logged one after the other. -/
theorem World.logged_logged (world : World) (entries others : Log) :
    (world.logged entries).logged others = world.logged (entries ++ others) := by
  simp [logged]

namespace Action

variable {α β : Type}

/-- If two actions in a row come to a value, the first one comes to a value before. -/
theorem exists_of_bind_ok {first : Action α} {next : α → Action β} {world after : World} {last : β}
    (run : (first >>= next) world = (.ok last, after)) :
    ∃ value middle, first world = (.ok value, middle) ∧ next value middle = (.ok last, after) := by
  rcases started : first world with ⟨result, middle⟩
  cases result with
  | ok value =>
    rw [bind_of_ok next started] at run
    exact ⟨value, middle, rfl, run⟩
  | error fault =>
    rw [bind_of_error next started] at run
    cases run

/-- Logging leaves all but the log. -/
theorem exists_log_apply (entry : Option LogEntry) (world : World) :
    ∃ entries, log entry world = (.ok (), world.logged entries) := by
  cases entry with
  | none => exact ⟨[], by rw [World.logged, List.append_nil]; rfl⟩
  | some entry => exact ⟨[entry], rfl⟩

/-- Delivering a message leaves all but the log. -/
theorem exists_deliver_apply (level : LogLevel) (message : Except TemplateError LogEntry)
    (world : World) :
    ∃ entries, deliver level message world = (.ok (), world.logged entries) := by
  rw [deliver_eq_log]
  exact exists_log_apply _ world

/-- What a computation logs is logged, whatever it comes to. -/
theorem ofLogged_apply (computation : Logged α) (world : World) :
    ofLogged computation world =
      (computation.outcome.1, world.logged computation.outcome.2) := by
  rcases run : computation.outcome with ⟨result, entries⟩
  have started : computation.run.run [] = (result, entries) := run
  simp only [ofLogged, started]
  cases result <;> rfl

end Action

end Jobflow
