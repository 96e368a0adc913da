import Jobflow.Properties
import Jobflow.Fault

/-!
# Property files

A property file is a named set of properties that jobs and workflows share. It is
referred to, not owned: the same one can serve any number of them.
-/

namespace Jobflow

/-- A named set of shared properties. -/
structure PropertyFile where
  /-- The name. -/
  name : String
  /-- The properties. -/
  properties : Properties

namespace PropertyFile

/-- A property file with the properties merged from sources. -/
def ofSources (name : String) (sources : List Entries) : PropertyFile :=
  ⟨name, Properties.ofSources sources⟩

/-- The quoted form of a property file. -/
def repr (file : PropertyFile) : String := "<PropertyFile(name=" ++ Text.quote file.name ++ ")>"

end PropertyFile

/-- The entries of a source of properties: a mapping, or any value that counts as empty.
Other values have no entries to give. -/
def entriesOf (value : Value) : Except Mishap Entries :=
  match value with
  | .map _ entries => .ok entries
  | other => if other.truthy then .error .missingOperation else .ok []

end Jobflow
