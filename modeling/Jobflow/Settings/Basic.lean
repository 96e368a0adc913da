import Jobflow.Fault
import Jobflow.OrderedMap
import Jobflow.Text.Lowercase

/-!
# Settings

Settings are options in named sections, with a section of defaults that every other one
falls back to. The names of options do not depend on the case of their letters; those of
sections do. Options hold texts when they are read from a file, and any value after being
set.
-/

namespace Jobflow

/-- The options of a section, by name in small letters. -/
abbrev Section := OrderedMap Value

/-- Options in named sections. -/
structure Settings where
  /-- The options that every section falls back to. -/
  defaults : Section := .empty
  /-- The sections by name. -/
  sections : OrderedMap Section := .empty

namespace Settings

/-- The name of the section of defaults. -/
def defaultSection : String := "DEFAULT"

/-- The form in which the names of options are kept. -/
def optionName (name : String) : String := Text.lower name

/-- The options of a section with the defaults it falls back to, these first. Only the
section of defaults is there without being in the file. -/
def options? (settings : Settings) (sectionName : String) : Option Section :=
  match settings.sections.find? sectionName with
  | some options => some (settings.defaults.insertAll options.entries)
  | none => if sectionName = defaultSection then some settings.defaults else none

/-- The value of an option. -/
def get? (settings : Settings) (sectionName name : String) : Option Value :=
  (settings.options? sectionName).bind fun options => options.find? (optionName name)

/-- Whether there is a section of a name; the section of defaults does not count. -/
def hasSection (settings : Settings) (sectionName : String) : Bool :=
  settings.sections.contains sectionName

/-- Add an empty section, unless there is one of that name. -/
def addSection (settings : Settings) (sectionName : String) : Settings :=
  if settings.hasSection sectionName then settings
  else { settings with sections := settings.sections.insert sectionName .empty }

/-- Set an option in a section, which is added if it is not there. -/
def set (settings : Settings) (sectionName name : String) (value : Value) : Settings :=
  let options := (settings.sections.find? sectionName).getD .empty
  { settings with
    sections := settings.sections.insert sectionName (options.insert (optionName name) value) }

/-- Set an option in a section, which is added if it is not there. The section of defaults
cannot be added this way; options of a section without a name become defaults. -/
def set? (settings : Settings) (sectionName name : String) (value : Value) :
    Except Mishap Settings :=
  if sectionName = defaultSection then .error .badValue
  else if sectionName.isEmpty then
    .ok { settings.addSection sectionName with
      defaults := settings.defaults.insert (optionName name) value }
  else .ok (settings.set sectionName name value)

end Settings

end Jobflow
