import Jobflow.Number.Fixed
import Jobflow.Number.Shortest

/-!
# A fixed number of significant digits

A quotient written with a given number of digits, rounded to the nearest such decimal with
ties to the even last digit: either as one digit before the point and a power of ten, or in
whichever way is shorter.
-/

namespace Jobflow.Number

open Binary64 (decimalPoint dropTrailingZeros)

/-- The leading digits of a quotient, at least one, and how many of them stand before its
decimal point. -/
def leadingDigits (count num den : Nat) : List Char × Int :=
  if num = 0 then (List.replicate count '0', 1)
  else
    let point := decimalPoint num den
    let (above, below) :=
      match point - count with
      | .ofNat k => (num, den * Nat.pow 10 k)
      | .negSucc k => (num * Nat.pow 10 (k + 1), den)
    let rounded := roundQuotient above below
    if rounded = Nat.pow 10 count then ('1' :: List.replicate (count - 1) '0', point + 1)
    else ((Nat.repr rounded).toList, point)

/-- A whole part and a fraction with a point between them; without a fraction the point is
only there if it is to be kept. -/
def withFraction (keepPoint : Bool) (whole fraction : List Char) : List Char :=
  if fraction.isEmpty && !keepPoint then whole else whole ++ '.' :: fraction

/-- The power of ten after a number. -/
def exponentText (exponent : Int) : List Char :=
  let size := (Nat.repr exponent.natAbs).toList
  ['e', if exponent < 0 then '-' else '+'] ++ (if size.length < 2 then '0' :: size else size)

/-- The text of `num / den` with one digit before the point and a power of ten. -/
def scientific (keepPoint : Bool) (places num den : Nat) : List Char :=
  let (digits, point) := leadingDigits (places + 1) num den
  withFraction keepPoint (digits.take 1) (digits.drop 1) ++ exponentText (point - 1)

/-- The text of `num / den` with a number of digits: in positions from `10 ^ -4` on and as
long as they reach the decimal point, and with a power of ten otherwise. Zeros at the end of
the fraction go unless they are to be kept. -/
def general (keepZeros : Bool) (count num den : Nat) : List Char :=
  let count := max 1 count
  let (digits, point) := leadingDigits count num den
  let shown (whole fraction : List Char) : List Char :=
    withFraction keepZeros whole (if keepZeros then fraction else dropTrailingZeros fraction)
  if point ≤ -4 ∨ (count : Int) < point then
    shown (digits.take 1) (digits.drop 1) ++ exponentText (point - 1)
  else if point ≤ 0 then shown ['0'] (List.replicate point.natAbs '0' ++ digits)
  else shown (digits.take point.toNat) (digits.drop point.toNat)

/-- The sign of a floating point number, and its text without the sign, given how the
absolute value of a finite one is written. -/
def Binary64.parts (x : Binary64) (body : Nat → Nat → List Char) : Bool × List Char :=
  match x with
  | nan => (false, "nan".toList)
  | infinite negative => (negative, "inf".toList)
  | finite negative mantissa exponent =>
    let (num, den) := ratio mantissa exponent
    (negative, body num den)

example : withFraction false ['1'] [] ++ exponentText (-5) = "1e-05".toList := by decide +kernel

end Jobflow.Number
