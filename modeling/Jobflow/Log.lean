import Jobflow.Template

/-!
# Log messages

A log entry is a level and a message. Sessions, projects and workflows tag their messages
with their own quoted form, so that a reader sees which of them speaks.

Handlers fill the template of a message when they deliver it. What becomes of a message whose
template cannot be filled is up to them: they drop it, or they stop whoever logs it.
-/

namespace Jobflow

/-- How important a message is, in increasing order. -/
inductive LogLevel
  /-- Progress in detail. -/
  | debug
  /-- Progress. -/
  | info
  /-- Something to look at. -/
  | warning
  /-- Something that failed. -/
  | error
deriving DecidableEq, Repr

/-- The position of a level in increasing order of importance. -/
def LogLevel.rank : LogLevel → Nat
  | .debug => 0
  | .info => 1
  | .warning => 2
  | .error => 3

/-- The name of a level. -/
def LogLevel.name : LogLevel → String
  | .debug => "DEBUG"
  | .info => "INFO"
  | .warning => "WARNING"
  | .error => "ERROR"

/-- A logged message. -/
structure LogEntry where
  /-- How important the message is. -/
  level : LogLevel
  /-- The message. -/
  message : String
deriving DecidableEq, Repr

/-- A log, oldest entry first. -/
abbrev Log := List LogEntry

/-- A message template with the tag of the object it comes from. -/
def tagged (tag template : String) : String := tag ++ " :: " ++ template

/-- The entry of a message, or why its template cannot be filled. -/
def LogEntry.ofTemplate (level : LogLevel) (template : String) (args : List Value) :
    Except TemplateError LogEntry :=
  (Template.message template args).map fun message => ⟨level, message⟩

/-- The entry of a tagged message, or why its template cannot be filled. -/
def LogEntry.ofTagged (level : LogLevel) (tag template : String) (args : List Value) :
    Except TemplateError LogEntry :=
  LogEntry.ofTemplate level (tagged tag template) args

/-- What handlers do with messages whose templates cannot be filled. -/
class Handlers where
  /-- Whether such a message of a level stops whoever logs it. -/
  stops : LogLevel → Bool

/-- The usual handlers drop such messages, whatever their level. -/
instance Handlers.standard : Handlers := ⟨fun _ => false⟩

end Jobflow
