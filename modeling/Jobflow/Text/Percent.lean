import Jobflow.Text.Hex
import Jobflow.Text.Utf8

/-!
# Percent encoding

The form of a text inside the query of a URL: letters, digits and the marks `_.-~` stand
for themselves, a space becomes a plus sign, and any other character is written as its
UTF-8 bytes, each as a percent sign and two hexadecimal digits.
-/

namespace Jobflow.Text.Percent

/-- Whether a character stands for itself. -/
def isPlain (c : Char) : Bool := c.isAlphanum || c = '_' || c = '.' || c = '-' || c = '~'

/-- The written form of a character. -/
def encodeChar (c : Char) : List Char :=
  if isPlain c then [c]
  else if c = ' ' then ['+']
  else (Utf8.encodeChar c).flatMap fun byte => '%' :: hexUpper 2 byte

/-- The written form of a text. -/
def encode (text : String) : String := String.ofList (text.toList.flatMap encodeChar)

example : encode "a b/é" = "a+b%2F%C3%A9" := by decide +kernel

end Jobflow.Text.Percent
