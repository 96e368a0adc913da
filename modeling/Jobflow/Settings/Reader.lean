import Jobflow.Settings.Basic
import Jobflow.Text.Blank
import Jobflow.Text.Cut
import Jobflow.Text.Quoted

/-!
# Reading settings

A settings file is read line by line. A line in brackets starts a section; other lines set
an option, whose name ends at the first `=` or `:`. A line that is indented deeper than the
one that set an option goes on with its value, and so do empty lines, though not at the end
of a value. Lines that start with `#` or `;` are comments.

A section or option given twice, and a line before the first section, stop the reading.
Lines that are neither are collected and refused at the end.
-/

namespace Jobflow.Settings

open Text (trim isBlank quote)

/-- Why a file cannot be read. -/
inductive ReadError
  /-- A line comes before the first section: its number and text. -/
  | noSection (line : Nat) (text : String)
  /-- Lines set no option: their numbers and texts. -/
  | malformed (lines : List (Nat × String))
  /-- A section is given twice. -/
  | repeatedSection (name : String)
  /-- An option is given twice in a section. -/
  | repeatedOption (sectionName name : String)
deriving DecidableEq, Repr

/-- A number in at least two characters. -/
def lineNumber (n : Nat) : String := if n < 10 then " " ++ toString n else toString n

/-- The wording of an error in the file at a path; repeated names have none. -/
def ReadError.message? (path : String) : ReadError → Option String
  | .noSection line text =>
    some ("File contains no section headers.\nfile: " ++ quote path ++ ", line: " ++
      toString line ++ "\n" ++ quote text)
  | .malformed lines =>
    some ("Source contains parsing errors: " ++ quote path ++
      String.join (lines.map fun (line, text) =>
        "\n\t[line " ++ lineNumber line ++ "]: " ++ quote text))
  | .repeatedSection _ => none
  | .repeatedOption .. => none

/-- The lines of a file, each with its line feed. -/
def fileLines : List Char → List (List Char)
  | [] => []
  | c :: rest => if c = '\n' then ['\n'] :: fileLines rest else Text.consLine c (fileLines rest)

/-- The whole lines of a text that may go on. A carriage return at its end may be the first
half of a break. -/
def wholeLines (cs : List Char) : List (List Char) :=
  let ended := if cs.getLast? = some '\r' then cs.dropLast else cs
  (fileLines (Text.unifyBreaks ended)).filter fun line => line.getLast? == some '\n'

/-- The name in the brackets at the start of a line: up to the last closing bracket. -/
def header? (line : List Char) : Option String :=
  match line with
  | '[' :: rest =>
    match Text.cutLast? (· == ']') rest with
    | some (name, _) => if name.isEmpty then none else some (String.ofList name)
    | none => none
  | _ => none

/-- The name and value of an option, on both sides of the first `=` or `:`. -/
def option? (line : List Char) : Option (String × String) :=
  (Text.cutFirst? (fun c => c = '=' || c = ':') line).map fun (name, value) =>
    (optionName (String.ofList (Text.trimRight name)), String.ofList (trim value))

/-- The lines of the values of a section's options. -/
abbrev Lines := OrderedMap (List String)

/-- What was read so far. -/
structure ReadState where
  /-- The options of the section of defaults. -/
  defaults : Lines := .empty
  /-- The sections. -/
  sections : OrderedMap Lines := .empty
  /-- The section that lines go to, if there was one. -/
  current : Option String := none
  /-- The option that lines go on with; empty if there is none. -/
  option : String := ""
  /-- The indentation of the last line that set an option or started a section. -/
  indent : Nat := 0
  /-- The options set so far, with their sections. -/
  given : List (String × String) := []
  /-- The lines that set no option. -/
  malformed : List (Nat × String) := []

namespace ReadState

/-- The options of the current section. -/
def currentLines (state : ReadState) (sectionName : String) : Lines :=
  match state.sections.find? sectionName with
  | some lines => lines
  | none => state.defaults

/-- Replace the options of a section. -/
def setLines (state : ReadState) (sectionName : String) (lines : Lines) : ReadState :=
  if state.sections.contains sectionName then
    { state with sections := state.sections.insert sectionName lines }
  else { state with defaults := lines }

/-- Go on with the value of the current option. -/
def extend (state : ReadState) (sectionName line : String) : ReadState :=
  let lines := state.currentLines sectionName
  match lines.find? state.option with
  | some value => state.setLines sectionName (lines.insert state.option (value ++ [line]))
  | none => state

/-- Start a section. -/
def startSection (state : ReadState) (name : String) : Except ReadError ReadState :=
  if state.sections.contains name then .error (.repeatedSection name)
  else
    let started := { state with current := some name, option := "" }
    if name = defaultSection then .ok started
    else .ok { started with sections := state.sections.insert name .empty }

/-- Note a line that sets no option. -/
def refuse (state : ReadState) (number : Nat) (line : List Char) : ReadState :=
  { state with malformed := state.malformed ++ [(number, String.ofList line)] }

/-- Set an option of the current section. An option without a name is noted as malformed,
and counts as given all the same. -/
def setOption (state : ReadState) (sectionName : String) (number : Nat) (line : List Char)
    (name value : String) : Except ReadError ReadState :=
  let state := if name.isEmpty then state.refuse number line else state
  if state.given.contains (sectionName, name) then .error (.repeatedOption sectionName name)
  else
    let lines := (state.currentLines sectionName).insert name [value]
    .ok { state.setLines sectionName lines with
      option := name, given := (sectionName, name) :: state.given }

/-- Read a line that is neither empty nor a comment nor goes on with a value. -/
def readEntry (state : ReadState) (number : Nat) (line content : List Char) :
    Except ReadError ReadState :=
  match header? content with
  | some name => state.startSection name
  | none =>
    match state.current with
    | none => .error (.noSection number (String.ofList line))
    | some sectionName =>
      match option? content with
      | some (name, value) => state.setOption sectionName number line name value
      | none => .ok (state.refuse number line)

/-- Whether a line without surrounding white space is a comment. -/
def isComment : List Char → Bool
  | '#' :: _ => true
  | ';' :: _ => true
  | _ => false

/-- Read a line. -/
def readLine (state : ReadState) (number : Nat) (line : List Char) :
    Except ReadError ReadState :=
  let content := trim line
  if isComment content then .ok state
  else if content.isEmpty then
    match state.current with
    | some sectionName =>
      .ok (if state.option.isEmpty then state else state.extend sectionName "")
    | none => .ok state
  else
    let indent := (line.takeWhile isBlank).length
    match state.current with
    | some sectionName =>
      if !state.option.isEmpty && state.indent < indent then
        .ok (state.extend sectionName (String.ofList content))
      else { state with indent }.readEntry number line content
    | none => { state with indent }.readEntry number line content

/-- Read lines, the first of which has the given number. -/
def readLines (state : ReadState) (number : Nat) : List (List Char) → Except ReadError ReadState
  | [] => .ok state
  | line :: rest => do
    let state ← state.readLine number line
    state.readLines (number + 1) rest

end ReadState

/-- The value of an option from its lines: empty lines at the end do not count. -/
def joinValue (lines : List String) : Value :=
  .text (String.ofList (Text.trimRight (Text.join "\n" lines).toList))

/-- Read the settings in a file, given by its characters with line feeds for all line
ends. -/
def read (contents : List Char) : Except ReadError Settings := do
  let state ← ReadState.readLines {} 1 (fileLines contents)
  if state.malformed.isEmpty then
    return { defaults := state.defaults.map joinValue
             sections := state.sections.map fun lines => lines.map joinValue }
  else throw (.malformed state.malformed)

end Jobflow.Settings
