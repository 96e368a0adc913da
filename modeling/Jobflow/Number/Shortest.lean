import Jobflow.Number.Binary64

/-!
# The fewest digits that read back

A finite number is written with the fewest decimal digits that still round to it, and of
those with the digits nearest to it. The numbers that round to it form an interval around
it, whose ends belong to it exactly when the mantissa is even; on the grid of a given
number of digits only the two neighbours of the number itself need a test.

The same module places those digits: which exponents are written out in positions, and how
an exponent is marked.
-/

namespace Jobflow.Number

namespace Binary64

/-- The numbers between which everything rounds to a given finite number, as numerators
over the common denominator `den`: the lower end, the number and the upper end. Below a
power of two the spacing halves, so the lower end is half as far. -/
structure Neighbourhood where
  /-- The lower end. -/
  low : Nat
  /-- The number itself. -/
  mid : Nat
  /-- The upper end. -/
  high : Nat
  /-- The common denominator. -/
  den : Nat
  /-- Whether the ends round to the number. -/
  closed : Bool

/-- The neighbourhood of `mantissa * 2 ^ exponent`, in quarters of its last bit. -/
def neighbourhood (mantissa : Nat) (exponent : Int) : Neighbourhood :=
  let (unit, den) := ratio 1 (exponent - 2)
  let down := if mantissa = Nat.pow 2 52 ∧ minExponent < exponent then 1 else 2
  { low := (4 * mantissa - down) * unit
    mid := 4 * mantissa * unit
    high := (4 * mantissa + 2) * unit
    den
    closed := mantissa % 2 = 0 }

/-- The power of ten just above a positive quotient: `10 ^ (point - 1) ≤ num / den < 10 ^
point`. The quotient is at least `10 ^ -400`. -/
def decimalPoint (num den : Nat) : Int :=
  ((Nat.repr (num * Nat.pow 10 400 / den)).length : Int) - 400

/-- Whether `digits * 10 ^ exponent` rounds to the number at the centre. -/
def Neighbourhood.holds (near : Neighbourhood) (digits : Nat) (exponent : Int) : Bool :=
  let (left, scale) :=
    match exponent with
    | .ofNat k => (digits * Nat.pow 10 k * near.den, 1)
    | .negSucc k => (digits * near.den, Nat.pow 10 (k + 1))
  if near.closed then near.low * scale ≤ left && left ≤ near.high * scale
  else near.low * scale < left && left < near.high * scale

/-- The digits on the grid of `count` digits that round to the number, nearest first:
of the two grid points around it, those in the neighbourhood. -/
def Neighbourhood.onGrid? (near : Neighbourhood) (point : Int) (count : Nat) :
    Option (Nat × Int) :=
  let exponent := point - count
  let (above, below) :=
    match exponent with
    | .ofNat k => (near.mid, near.den * Nat.pow 10 k)
    | .negSucc k => (near.mid * Nat.pow 10 (k + 1), near.den)
  let floor := above / below
  let nearest := roundQuotient above below
  let other := if nearest = floor then floor + 1 else floor
  if near.holds nearest exponent then some (nearest, exponent)
  else if near.holds other exponent then some (other, exponent)
  else none

/-- The fewest digits that round to a positive finite number, as `digits * 10 ^ exponent`.
Seventeen always do. -/
def shortest (mantissa : Nat) (exponent : Int) : Nat × Int :=
  let near := neighbourhood mantissa exponent
  let point := decimalPoint near.mid near.den
  ((List.range 17).findSome? fun count => near.onGrid? point (count + 1)).getD (0, 0)

/-- Drop zeros from the end of a row of digits. -/
def dropTrailingZeros (digits : List Char) : List Char :=
  (digits.reverse.dropWhile (· == '0')).reverse

/-- Which texts stand for floating point numbers. -/
structure TextFormat where
  /-- The decimal point positions from which an exponent is written. -/
  largePoint : Int
  /-- The decimal point positions up to which an exponent is written. -/
  smallPoint : Int
  /-- Whether a single digit before an exponent is followed by a point and a zero. -/
  pointBeforeExponent : Bool
  /-- The text of the infinity above. -/
  infinity : String
  /-- The text of the value that is no number. -/
  nan : String

/-- The text of digits with their decimal point after `point` of them. -/
def placeDigits (format : TextFormat) (digits : List Char) (point : Int) : List Char :=
  if format.largePoint ≤ point ∨ point ≤ format.smallPoint then
    let exponent := point - 1
    let size := (Nat.repr exponent.natAbs).toList
    let size := if size.length < 2 then '0' :: size else size
    let fraction :=
      match digits.drop 1 with
      | [] => if format.pointBeforeExponent then ['.', '0'] else []
      | rest => '.' :: rest
    digits.take 1 ++ fraction ++ ['e', if exponent < 0 then '-' else '+'] ++ size
  else if point ≤ 0 then
    '0' :: '.' :: List.replicate point.natAbs '0' ++ digits
  else
    let before := point.toNat
    if digits.length ≤ before then
      digits ++ List.replicate (before - digits.length) '0' ++ ['.', '0']
    else digits.take before ++ '.' :: digits.drop before

/-- The text of a number in the fewest digits that read back. -/
def text (format : TextFormat) (x : Binary64) : String :=
  match x with
  | nan => format.nan
  | infinite negative => (if negative then "-" else "") ++ format.infinity
  | finite negative mantissa exponent =>
    let body :=
      if mantissa = 0 then ['0', '.', '0']
      else
        let (digits, scale) := shortest mantissa exponent
        let row := (Nat.repr digits).toList
        placeDigits format (dropTrailingZeros row) (row.length + scale)
    String.ofList (if negative then '-' :: body else body)

/-- Numbers in messages: positional below `10 ^ 16` and from `10 ^ -4` on. -/
def plainFormat : TextFormat := ⟨17, -4, false, "inf", "nan"⟩

/-- The text of a number as it appears in messages. -/
def repr (x : Binary64) : String := x.text plainFormat

end Binary64

end Jobflow.Number
