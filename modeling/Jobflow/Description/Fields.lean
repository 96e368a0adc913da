import Jobflow.Properties

/-!
# Fields of documents

Reading the fields of documents that describe something: what is missing, or of another
kind than expected, counts as absent.
-/

namespace Jobflow.Value

/-- The items of a list, none of other values. -/
def items : Value → List Value
  | list _ items => items
  | _ => []

/-- The entries of a mapping, none of other values. -/
def members : Value → Entries
  | map _ entries => entries
  | _ => []

/-- The texts in a list. -/
def texts (value : Value) : List String := value.items.filterMap text?

/-- The value of a field, nothing if it is missing. -/
def fieldOr (document : Value) (name : String) : Value := (document.field? name).getD null

/-- Whether a document has a field. -/
def has (document : Value) (name : String) : Bool := (document.field? name).isSome

/-- The text of a field. -/
def textField? (document : Value) (name : String) : Option String :=
  (document.field? name).bind text?

/-- The text of a field, empty if it is missing. -/
def textField (document : Value) (name : String) : String := (document.textField? name).getD ""

/-- The items of a field. -/
def listField (document : Value) (name : String) : List Value := (document.fieldOr name).items

/-- The texts of a field. -/
def textsField (document : Value) (name : String) : List String := (document.fieldOr name).texts

/-- The truth value of a field, or else a default. -/
def flagField (document : Value) (name : String) (default : Bool) : Bool :=
  match document.field? name with
  | some (bool b) => b
  | _ => default

/-- The value at a position of a list. -/
def itemAt (value : Value) (index : Nat) : Value := (value.items[index]?).getD null

/-- The text at a position of a list, empty if there is none. -/
def textAt (value : Value) (index : Nat) : String := ((value.itemAt index).text?).getD ""

end Jobflow.Value
