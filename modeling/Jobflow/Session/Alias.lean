import Jobflow.Session.Basic
import Jobflow.Text.Integer

/-!
# Sessions by name

A server can be given a name in the settings, by a section with its URL and, where they
differ from the usual ones, the options of its sessions.
-/

namespace Jobflow

/-- The texts that mean yes in a setting. -/
def yesWords : List String := ["1", "yes", "true", "on"]

/-- The texts that mean no in a setting. -/
def noWords : List String := ["0", "no", "false", "off"]

namespace SettingsFile

/-- The option of a section with a reading of its text, or else a default. -/
def readOption {α : Type} (file : SettingsFile) (sectionName name : String)
    (reading : String → Option α) (default : α) : Except Mishap α :=
  match file.settings.get? sectionName name with
  | none => .ok default
  | some value =>
    match reading value.str with
    | some result => .ok result
    | none => .error .badValue

/-- The truth value that a text means. -/
def truthOf? (text : String) : Option Bool :=
  let word := Text.lower text
  if yesWords.contains word then some true
  else if noWords.contains word then some false
  else none

/-- The options of the sessions that a section is about. -/
def sessionOptions (file : SettingsFile) (sectionName : String) :
    Except Mishap SessionOptions := do
  let usual : SessionOptions := {}
  let integer (name : String) (default : Int) : Except Mishap Int :=
    file.readOption sectionName name (fun text => Text.readInteger? text.toList) default
  let verify ← file.readOption sectionName "verify" truthOf? usual.verify
  let attempts ← integer "attempts" usual.attempts
  let workers ← integer "workers" usual.workers
  let timeout ← integer "timeout" usual.timeout
  return { attempts, verify, workers, timeout }

end SettingsFile

namespace Session

/-- The session of a server's name. -/
def ofAlias (name : String) (file : SettingsFile) : Action Session := do
  let sectionName := "alias." ++ name
  unless file.settings.hasSection sectionName do Action.refuse (.unknownAlias name)
  match file.settings.get? sectionName "url" with
  | none => Action.refuse (.aliasWithoutUrl name)
  | some url => ofUrl url.str (some file) (← Action.ofMishap (file.sessionOptions sectionName))

end Session

end Jobflow
