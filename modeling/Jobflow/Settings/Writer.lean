import Jobflow.Settings.Basic

/-!
# Writing settings

Settings are written section by section, the defaults first if there are any, with an
empty line after each. The lines of a value after its first are indented.
-/

namespace Jobflow.Settings

/-- One character of a written value: the line after a break is indented. -/
def valueChar (c : Char) : List Char := if c = '\n' then ['\n', '\t'] else [c]

/-- The line, or lines, of an option. -/
def writeOption (name : String) (value : Value) : List Char :=
  name.toList ++ [' ', '=', ' '] ++ value.str.toList.flatMap valueChar ++ ['\n']

/-- The lines of a section. -/
def writeSection (name : String) (options : Section) : List Char :=
  '[' :: name.toList ++ [']', '\n'] ++
    options.entries.flatMap (fun (name, value) => writeOption name value) ++ ['\n']

/-- The text of settings. -/
def write (settings : Settings) : List Char :=
  (if settings.defaults.isEmpty then [] else writeSection defaultSection settings.defaults) ++
    settings.sections.entries.flatMap fun (name, options) => writeSection name options

end Jobflow.Settings
