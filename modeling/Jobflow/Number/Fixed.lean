import Jobflow.Number.Binary64

/-!
# A fixed number of decimal places

A quotient written with a given number of decimal places, rounded to the nearest such
decimal with ties to the even last digit. Floating point numbers are written from their
exact value.
-/

namespace Jobflow.Number

/-- The digits of `scaled / 10 ^ places`, with a point before the last `places` of them. -/
def placePoint (places scaled : Nat) : List Char :=
  let whole := (Nat.repr (scaled / Nat.pow 10 places)).toList
  if places = 0 then whole
  else
    let fraction := (Nat.repr (scaled % Nat.pow 10 places)).toList
    whole ++ '.' :: List.replicate (places - fraction.length) '0' ++ fraction

/-- The text of `num / den` with a fixed number of decimal places. -/
def fixed (places num den : Nat) : List Char :=
  placePoint places (roundQuotient (num * Nat.pow 10 places) den)

/-- The text of a floating point number with a fixed number of decimal places. -/
def Binary64.fixed (places : Nat) (x : Binary64) : String :=
  match x with
  | nan => "nan"
  | infinite negative => if negative then "-inf" else "inf"
  | finite negative mantissa exponent =>
    let (num, den) := ratio mantissa exponent
    let body := Number.fixed places num den
    String.ofList (if negative then '-' :: body else body)

example : fixed 1 5 4 = "1.2".toList ∧ fixed 1 1 1 = "1.0".toList := by cbv

end Jobflow.Number
