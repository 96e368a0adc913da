import Jobflow.Properties.Load
import Jobflow.Text.Lowercase

/-!
# Arguments of commands

Arguments become named parameters of the command that they are for. Those of the option
for properties are `key=value` assignments or paths of properties files; assignments
override what is read from files, whatever their order.
-/

namespace Jobflow.Command

/-- The parameter that an argument becomes: its name in small letters without the dashes in
front, with underscores in place of the others and in front. -/
def parameterName (argument : String) : String :=
  let name := Text.lower (String.ofList (argument.toList.dropWhile (· == '-')))
  String.ofList ('_' :: name.toList.map fun c => if c = '-' then '_' else c)

/-- The parameters of a command, from the arguments it takes. -/
def parameters (arguments : Entries) (names : List String) :
    Except Mishap (OrderedMap Value) := do
  let entries ← names.mapM fun name =>
    match arguments.lookup name with
    | some value => .ok (parameterName name, value)
    | none => .error .missingKey
  return OrderedMap.ofList entries

/-- The key and value of an assignment: what is before and after the first equals sign. -/
def assignment? (option : String) : Option (String × Value) :=
  (Text.cutFirst? (· == '=') option.toList).map fun (key, value) =>
    (String.ofList key, .text (String.ofList value))

/-- The properties given by options. -/
def optionProperties (options : List String) : Action Properties := do
  let files := options.filter fun option => (assignment? option).isNone
  let read ← PropertiesFile.load files
  return (PropertiesFile.toProperties read).insertAll (options.filterMap assignment?)

end Jobflow.Command
