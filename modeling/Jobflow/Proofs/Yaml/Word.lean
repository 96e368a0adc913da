import Jobflow.Proofs.Number.Decimal
import Jobflow.Proofs.Text.Pattern
import Jobflow.Yaml.Document

/-!
# Words of documents

Values that are neither texts, dates, times nor collections are written as words. No word could be
written for a text, since all of them are reserved, integers or floating point numbers, and none for a
date or time, which starts with a year and a dash. Different values have different words.
-/

namespace Jobflow.Yaml

open Number (Binary64)
open Number.Binary64 (Decimal)
open Text Text.Pattern

/-! ## Integers -/

/-- The word of a value that is neither a text, a date, a time nor a collection. -/
def word? : Value → Option String
  | .null => some "null"
  | .bool b => some (if b then "true" else "false")
  | .int n => some (toString n)
  | .float x => some (x.text numberFormat)
  | _ => none

/-- Whether a character occurs in words. -/
def isWordChar (c : Char) : Bool := c.isAlphanum || c = '+' || c = '-' || c = '.'

/-- A word: it is written neither for a text nor for a date or time. -/
structure IsWord (cs : List Char) : Prop where
  /-- It is not empty. -/
  starts : cs ≠ []
  /-- It has letters, digits, signs and points. -/
  chars : ∀ c ∈ cs, isWordChar c = true
  /-- It is read back as something else than a text. -/
  reserved : standsForText cs = false
  /-- It is not read back as a date or time. -/
  untimed : timestamps.accepts cs = false

end Jobflow.Yaml
