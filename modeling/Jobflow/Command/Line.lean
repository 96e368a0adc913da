import Jobflow.Text.Cut

/-!
# Command lines

A command line is a row of words and options. Options have a long name and a letter, and
may take a value, which follows in the same argument or in the next one. Letters can be
combined in one argument, and long names can be cut short as long as only one option fits.
After two dashes on their own everything is a word.

Reading a command line first makes out its words and options, and then what they ask for.
An option that is not taken up makes the command line invalid, and so does a word.
-/

namespace Jobflow.Command

/-- How an option is written. -/
structure OptionForm where
  /-- The letter, if it has one. -/
  letter : Option Char
  /-- The long name with its dashes, if it has one. -/
  long : Option String
  /-- Whether a value follows. -/
  takesValue : Bool
deriving DecidableEq, Repr

/-- The name that an option goes by: the long one if there is one. -/
def OptionForm.name (form : OptionForm) : String :=
  form.long.getD (String.ofList ('-' :: form.letter.toList))

/-- An option that is known. -/
def knownForm (letter : Char) (long : String) (takesValue : Bool) : OptionForm :=
  ⟨some letter, some long, takesValue⟩

/-- The options that are known. -/
def knownForms : List OptionForm :=
  [knownForm 'a' "--alias" true, knownForm 'c' "--create" false,
    knownForm 'd' "--detailed" false, knownForm 'f' "--flows" true,
    knownForm 'h' "--help" false, knownForm 'l' "--log" false,
    knownForm 'o' "--option" true, knownForm 'p' "--project" true,
    knownForm 'r' "--replace" false, knownForm 'u' "--url" true,
    knownForm 'v' "--version" false]

/-- A part of a command line. -/
inductive Item
  /-- A word. -/
  | word (text : String)
  /-- An option with its value, if it takes one. -/
  | option (name : String) (value : Option String)
deriving DecidableEq, Repr

/-- What is between an option's name and its value, and the value, when both are in one
argument. -/
def cutValue (argument : String) : String × Option String :=
  match Text.cutFirst? (· == '=') argument.toList with
  | some (name, value) => (String.ofList name, some (String.ofList value))
  | none => (argument, none)

/-- The options that a long name can mean: the one of just that name, or else those whose
names start with it. -/
def meanings (forms : List OptionForm) (name : String) : List OptionForm :=
  let exact := forms.filter fun form => form.long == some name
  if exact.isEmpty then
    forms.filter fun form => (form.long.map fun long => Text.startsWith long name).getD false
  else exact

/-- What one argument gives: items, the options known afterwards, and the option whose value
is to follow. -/
structure Reading where
  /-- The items, apart from the last one if its value is to follow. -/
  items : List Item
  /-- The options that are known. An unknown one is known after it was met. -/
  forms : List OptionForm
  /-- The option whose value is to follow. -/
  pending : Option String := none

/-- Read an argument that starts with two dashes. -/
def readLong (forms : List OptionForm) (argument : String) : Option Reading :=
  let (name, value) := cutValue argument
  match meanings forms name with
  | [] =>
    let form : OptionForm := ⟨none, some name, value.isSome⟩
    some ⟨[.option name value], forms ++ [form], none⟩
  | [form] =>
    if form.takesValue then
      match value with
      | some value => some ⟨[.option form.name (some value)], forms, none⟩
      | none => some ⟨[], forms, some form.name⟩
    else if value.isSome then none
    else some ⟨[.option form.name none], forms, none⟩
  | _ :: _ :: _ => none

/-- Read the letters of an argument. -/
def readLetters (forms : List OptionForm) : List Char → Reading
  | [] => ⟨[], forms, none⟩
  | letter :: rest =>
    match forms.find? fun form => form.letter == some letter with
    | none =>
      let form : OptionForm := ⟨some letter, none, false⟩
      let reading := readLetters (forms ++ [form]) rest
      { reading with items := .option form.name none :: reading.items }
    | some form =>
      if form.takesValue then
        if rest.isEmpty then ⟨[], forms, some form.name⟩
        else ⟨[.option form.name (some (String.ofList rest))], forms, none⟩
      else
        let reading := readLetters forms rest
        { reading with items := .option form.name none :: reading.items }

/-- Read one argument, which is not two dashes on their own. -/
def readArgument (forms : List OptionForm) (argument : String) : Option Reading :=
  match argument.toList with
  | '-' :: '-' :: _ => readLong forms argument
  | '-' :: letter :: letters => some (readLetters forms (letter :: letters))
  | _ => some ⟨[.word argument], forms, none⟩

/-- The mark after which everything is a word. -/
def wordsMark : String := "--"

/-- Read arguments. The mark is a word itself. -/
def readItems (forms : List OptionForm) : List String → Option (List Item)
  | [] => some []
  | argument :: rest =>
    if argument = wordsMark then some ((argument :: rest).map Item.word)
    else
      match readArgument forms argument with
      | none => none
      | some reading =>
        match reading.pending, rest with
        | none, rest => (readItems reading.forms rest).map (reading.items ++ ·)
        | some _, [] => none
        | some name, value :: rest =>
          if value = wordsMark then none
          else
            (readItems reading.forms rest).map
              (reading.items ++ .option name (some value) :: ·)

/-- Which server a command line names. -/
structure ServerChoice where
  /-- The URL. -/
  url : Option String
  /-- The name in the settings. -/
  name : Option String
deriving DecidableEq, Repr

/-- What a command line asks for. -/
inductive CommandLine
  /-- The help text. -/
  | help
  /-- The version. -/
  | version
  /-- The path of the log file. -/
  | log
  /-- An archive. -/
  | build (project : Option String) (options : List String) (replace : Bool) (path : String)
  /-- The compiled flows, or one of them. -/
  | info (project : Option String) (options : List String) (workflow : Option String)
  /-- An archive on a server. -/
  | upload (project : Option String) (options : List String) (server : ServerChoice)
      (create : Bool)
  /-- The latest executions on a server. -/
  | status (project : Option String) (server : ServerChoice) (detailed : Bool)
      (flows : Option String)
deriving DecidableEq, Repr

/-- Taking items up, one after the other. -/
abbrev Taking (α : Type) := StateM (List Item) α

namespace Taking

/-- Take up the first word, if there is one. -/
def word? : Taking (Option String) := do
  let items ← get
  let found := items.findSome? fun item =>
    match item with
    | .word text => some text
    | .option .. => none
  match found with
  | some text => set (items.erase (.word text))
  | none => pure ()
  return found

/-- The value of an item, if it is the option of a name. -/
def valueOf? (name : String) : Item → Option (Option String)
  | .option other value => if other = name then some value else none
  | .word _ => none

/-- Take up the first option of a name: whether it is there, and its value. -/
def option? (name : String) : Taking (Option (Option String)) := do
  let items ← get
  let found := items.findSome? (valueOf? name)
  match found with
  | some value => set (items.erase (.option name value))
  | none => pure ()
  return found

/-- Take up an option without a value. -/
def flag (name : String) : Taking Bool := return (← option? name).isSome

/-- Take up the value of an option. -/
def value? (name : String) : Taking (Option String) := return (← option? name).join

/-- Take up the values of an option that may be repeated. -/
def values (name : String) : Taking (List String) := do
  let items ← get
  set (items.filter fun item => (valueOf? name item).isNone)
  return items.filterMap fun item => (valueOf? name item).join

/-- Take up the URL or else the name of a server. -/
def server : Taking ServerChoice := do
  match ← value? "--alias" with
  | some name => return ⟨none, some name⟩
  | none => return ⟨← value? "--url", none⟩

/-- Take up what follows the name of a command. -/
def command (name : String) : Taking (Option CommandLine) := do
  if name = "build" then
    let replace ← flag "--replace"
    let project ← value? "--project"
    let options ← values "--option"
    return (← word?).map (CommandLine.build project options replace)
  else if name = "info" then
    let project ← value? "--project"
    let options ← values "--option"
    return some (.info project options (← word?))
  else if name = "upload" then
    let create ← flag "--create"
    let project ← value? "--project"
    let server ← server
    return some (.upload project (← values "--option") server create)
  else if name = "status" then
    let project ← value? "--project"
    let server ← server
    let detailed ← flag "--detailed"
    let flows ← if detailed then pure none else value? "--flows"
    return some (.status project server detailed flows)
  else return none

end Taking

/-- What items ask for when all of them are taken up. -/
def ofItems (items : List Item) : Option CommandLine :=
  if items = [.option "--log" none] then some .log
  else
    match Taking.word? items with
    | (none, _) => none
    | (some name, rest) =>
      match Taking.command name rest with
      | (some line, []) => some line
      | _ => none

/-- Read a command line. Help and version are given whatever else it holds. -/
def readLine (arguments : List String) : Option CommandLine := do
  let items ← readItems knownForms arguments
  if items.contains (.option "--help" none) then return .help
  else if items.contains (.option "--version" none) then return .version
  else ofItems items

end Jobflow.Command
