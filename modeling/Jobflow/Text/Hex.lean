/-!
# Hexadecimal escapes

Escapes write a code point as a fixed number of hexadecimal digits, in small or capital
letters, and readers take such digits back in either.
-/

namespace Jobflow.Text

/-- One hexadecimal digit, in small letters. -/
def hexDigit (n : Nat) : Char :=
  if n < 10 then Char.ofNat (0x30 + n) else Char.ofNat (0x57 + n)

/-- The last `width` hexadecimal digits of a number, in small letters. -/
def hex : (width n : Nat) → List Char
  | 0, _ => []
  | width + 1, n => hex width (n / 16) ++ [hexDigit (n % 16)]

/-- The last `width` hexadecimal digits of a number, in capital letters. -/
def hexUpper (width n : Nat) : List Char := (hex width n).map Char.toUpper

/-- The value of a hexadecimal digit of either case. -/
def hexValue? (c : Char) : Option Nat :=
  let n := c.toNat
  if 0x30 ≤ n ∧ n ≤ 0x39 then some (n - 0x30)
  else if 0x61 ≤ n ∧ n ≤ 0x66 then some (n - 0x57)
  else if 0x41 ≤ n ∧ n ≤ 0x46 then some (n - 0x37)
  else none

/-- The number written by hexadecimal digits, unless one of the characters is none. -/
def readHex? (cs : List Char) : Option Nat :=
  cs.foldl (fun value c => do return 16 * (← value) + (← hexValue? c)) (some 0)

example : hex 4 0x2028 = ['2', '0', '2', '8'] ∧ readHex? ['a', 'F'] = some 0xaf := by decide

end Jobflow.Text
