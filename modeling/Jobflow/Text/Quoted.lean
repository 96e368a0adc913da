import Jobflow.Text.Hex
import Jobflow.Text.Printable

/-!
# Quoted text

Names and values appear in messages as quoted text: between single quotes, or between
double quotes when the text holds a single quote and no double one. Inside, the backslash
and the enclosing quote are escaped, as are the line feed, carriage return and tab; every
other character that is not printable is written by its code point.
-/

namespace Jobflow.Text

/-- The quote that encloses a text. -/
def enclosingQuote (cs : List Char) : Char :=
  if cs.contains '\'' && !cs.contains '"' then '"' else '\''

/-- The escape of a code point by its number, as short as the number allows. -/
def codePointEscape (n : Nat) : List Char :=
  if n < 0x100 then '\\' :: 'x' :: hex 2 n
  else if n < 0x10000 then '\\' :: 'u' :: hex 4 n
  else '\\' :: 'U' :: hex 8 n

/-- One character inside quotes. -/
def quotedChar (quote c : Char) : List Char :=
  if c = quote ∨ c = '\\' then ['\\', c]
  else if c = '\n' then ['\\', 'n']
  else if c = '\r' then ['\\', 'r']
  else if c = '\t' then ['\\', 't']
  else if isPrintable c then [c]
  else codePointEscape c.toNat

/-- A text between quotes, with escapes. -/
def quoted (cs : List Char) : List Char :=
  let quote := enclosingQuote cs
  quote :: cs.flatMap (quotedChar quote) ++ [quote]

/-- A text between quotes, with escapes. -/
def quote (text : String) : String := String.ofList (quoted text.toList)

example : quoted "it's".toList = "\"it's\"".toList := by decide

end Jobflow.Text
