import Jobflow.Names
import Jobflow.Settings.Reader
import Jobflow.Settings.Writer
import Jobflow.World

/-!
# Settings on disk

Settings are loaded from a file and saved to it. A file that is not there is empty, and so
is a folder in its place; a malformed one is refused. The log file of a command is named
in the settings, too.
-/

namespace Jobflow

open Text (unifyBreaks)

/-- Settings with the path of their file. -/
structure SettingsFile where
  /-- The path. -/
  path : String
  /-- The settings. -/
  settings : Settings

namespace SettingsFile

/-- The file that settings are in unless another one is given, in the home folder. -/
def defaultName : String := ".hadoopdslrc"

/-- The quoted form of settings. -/
def repr (file : SettingsFile) : String := "<Config(path=" ++ Text.quote file.path ++ ")>"

/-- The fault of a file that cannot be read. -/
def readFault (path : String) (error : Settings.ReadError) : Fault :=
  match error with
  | .repeatedSection _ => .mishap .repeatedSection
  | .repeatedOption .. => .mishap .repeatedOption
  | other => .refused (.unreadableSettings path ((other.message? path).getD ""))

/-- The number of bytes that are read from a settings file at a time. -/
def blockSize : Nat := 8192

/-- The lines that are read from a file before it shows that its bytes are no text. -/
def linesBefore (failure : Text.Utf8.Failure) (file : File) : List (List Char) :=
  Settings.wholeLines (Text.Utf8.decodeBlocks blockSize failure (file.bytes?.getD []))

/-- The settings in a file of the given contents. Lines are read as they come, so that one of
them may stop the reading before it shows that the file is no text. -/
def parse (path : String) (file : File) : Except Fault Settings :=
  match file.characters with
  | .ok cs => (Settings.read (unifyBreaks cs)).mapError (readFault path)
  | .error failure =>
    match Settings.ReadState.readLines {} 1 (linesBefore failure file) with
    | .error error => .error (readFault path error)
    | .ok _ => .error (.mishap .undecodable)

/-- Load settings, by default from the file in the home folder. -/
def load (path : Option String) : Action SettingsFile := do
  let world ← get
  let path :=
    match path with
    | some path => if path.isEmpty then Path.join world.folder defaultName else path
    | none => Path.join world.folder defaultName
  match ← Action.find? path with
  | none | some .folder => return ⟨path, {}⟩
  | some file => return ⟨path, ← Action.ofExcept (parse path file)⟩

/-- Save settings to their file. -/
def save (file : SettingsFile) : Action Unit :=
  Action.write file.path (.text (String.ofList file.settings.write))

/-- The value of an option, or else a default. Without a default the option is needed. -/
def getOption (file : SettingsFile) (sectionName name : String) (default : Option Value) :
    Except Refusal Value :=
  match file.settings.get? sectionName name with
  | some value => .ok value
  | none =>
    match default with
    | some value => .ok value
    | none => .error (.unsetOption name sectionName file.path)

/-- The text of an option, or else a default text. -/
def optionText (file : SettingsFile) (sectionName name default : String) : String :=
  ((file.settings.get? sectionName name).getD (.text default)).str

/-- The names in an option, none if it is not set. -/
def listOption (file : SettingsFile) (sectionName name : String) :
    Except Mishap (List String) :=
  Names.ofValue ((file.settings.get? sectionName name).getD (.text ""))

/-- The path of the log file of a command: the one that is set, or else the usual one in the
temporary folder. -/
def logPath (file : SettingsFile) (command : String) : Action String := do
  match file.settings.get? command "default.log" with
  | some (.text path) => return path
  | some _ => throw (.mishap .wrongShape)
  | none => return Path.join (← get).folder (command ++ ".log")

/-- The log file of a command: its absolute path, unless it cannot be written to. The file
is made if it is not there. -/
def logFile (file : SettingsFile) (command : String) : Action (Except String String) := do
  let path ← file.logPath command
  let world ← get
  let place := Path.absolute world.folder path
  match world.tree.placeFor world.folder place with
  | .error _ => return .error ("Log file " ++ path ++ " is not writable, logging disabled.")
  | .ok names =>
    if (world.tree.at? names).isNone then
      set { world with tree := world.tree.put names (.text "") }
    return .ok place

end SettingsFile

end Jobflow
