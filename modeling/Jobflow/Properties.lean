import Jobflow.OrderedMap
import Jobflow.Value

/-!
# Properties

Properties are a flat mapping from names to values. They are merged from nested mappings:
nested mappings are flattened first, a nested key being joined to the key above it by a
separator, and later definitions of a name override earlier ones at the place of the
first. A mapping without entries leaves no trace.
-/

namespace Jobflow

/-- A mapping of property names to values, in the order of first definition. -/
abbrev Properties := OrderedMap Value

/-- The entries of a mapping, possibly nested. -/
abbrev Entries := List (String × Value)

namespace Properties

/-- The name of a nested key. -/
def joinKey (sep key child : String) : String := key ++ sep ++ child

mutual

/-- Flatten entries on top of the properties built so far. -/
def flattenOnto (sep : String) (flat : Properties) : Entries → Properties
  | [] => flat
  | (key, value) :: rest => flattenOnto sep (flattenEntry sep flat key value) rest

/-- Flatten one entry: a nested mapping is flattened on its own first, and its keys are
then joined to the entry's. -/
def flattenEntry (sep : String) (flat : Properties) (key : String) : Value → Properties
  | .map _ entries =>
    let inner := flattenOnto sep .empty entries
    flat.insertAll (inner.entries.map fun (child, value) => (joinKey sep key child, value))
  | .null => flat.insert key .null
  | .bool b => flat.insert key (.bool b)
  | .int n => flat.insert key (.int n)
  | .float x => flat.insert key (.float x)
  | .text s => flat.insert key (.text s)
  | .time label timestamp => flat.insert key (.time label timestamp)
  | .list label items => flat.insert key (.list label items)
  | .tuple label items => flat.insert key (.tuple label items)
  | .object identity quoted => flat.insert key (.object identity quoted)

end

/-- Collapse nested mappings into a single level. -/
def flatten (sep : String) (entries : Entries) : Properties := flattenOnto sep .empty entries

/-- The separator between the keys of nested options. -/
def separator : String := "."

/-- Properties with further sources merged on top, in increasing order of precedence. -/
def merge (properties : Properties) (sources : List Entries) : Properties :=
  sources.foldl
    (fun merged source => merged.insertAll (flatten separator source).entries) properties

/-- The properties merged from sources, in increasing order of precedence. -/
def ofSources (sources : List Entries) : Properties := merge .empty sources

/-- The names without a value, in the order given. -/
def missing (properties : Properties) (names : List String) : List String :=
  names.filter fun name => !properties.contains name

/-- The properties as a value. -/
def toValue (properties : Properties) : Value := .ofEntries properties.entries

/-- The quoted form of properties. -/
def repr (properties : Properties) : String := "<Properties(" ++ properties.toValue.repr ++ ")>"

end Properties

end Jobflow
