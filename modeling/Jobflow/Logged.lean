import Jobflow.Fault
import Jobflow.Log

/-!
# Computations that log

A computation that logs gives a value or stops with a fault; what it logged before that is
kept in either case.
-/

namespace Jobflow

/-- A computation that can stop with a fault and logs either way. -/
abbrev Logged (α : Type) := ExceptT Fault (StateM Log) α

namespace Logged

/-- Log an entry, unless there is none to log. -/
def log (entry : Option LogEntry) : Logged Unit :=
  match entry with
  | some entry => modify (· ++ [entry])
  | none => pure ()

/-- Deliver a message of a level, which stops the computation if its template cannot be filled and
the handlers say so. -/
def deliver [Handlers] (level : LogLevel) (message : Except TemplateError LogEntry) :
    Logged Unit :=
  match message with
  | .ok entry => log (some entry)
  | .error reason => if Handlers.stops level then throw reason.fault else pure ()

/-- Stop at a fault without wording. -/
def ofMishap {α : Type} (result : Except Mishap α) : Logged α :=
  match result with
  | .ok value => pure value
  | .error mishap => throw (.mishap mishap)

/-- Stop at a fault. -/
def ofExcept {α : Type} (result : Except Fault α) : Logged α :=
  match result with
  | .ok value => pure value
  | .error fault => throw fault

end Logged

/-- What a computation comes to, and what it logged. -/
def Logged.outcome {α : Type} (computation : Logged α) : Except Fault α × Log :=
  computation.run.run []

end Jobflow
