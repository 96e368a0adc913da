import Jobflow.Text.Blank
import Jobflow.Text.Digit

/-!
# Reading integers

An integer is a row of decimal digits of any script, with single underscores between
digits allowed, after an optional sign and between optional white space.
-/

namespace Jobflow.Text

/-- Read digits on top of a value. The flag tells whether the last character read was a
digit: an underscore may follow a digit only, and the row must end in one. -/
def readDigits? (value : Nat) (afterDigit : Bool) : List Char → Option Nat
  | [] => if afterDigit then some value else none
  | c :: rest =>
    match digitValue? c with
    | some digit => readDigits? (10 * value + digit) true rest
    | none => if c = '_' ∧ afterDigit then readDigits? value false rest else none

/-- Read an integer. -/
def readInteger? (cs : List Char) : Option Int :=
  match trim cs with
  | '-' :: digits => (readDigits? 0 false digits).map fun n => -(n : Int)
  | '+' :: digits => (readDigits? 0 false digits).map Int.ofNat
  | digits => (readDigits? 0 false digits).map Int.ofNat

example : readInteger? " -1_000 ".toList = some (-1000) := by decide

example : readInteger? "1__0".toList = none ∧ readInteger? [] = none := by decide

end Jobflow.Text
