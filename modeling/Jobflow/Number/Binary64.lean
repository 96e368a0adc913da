import Jobflow.Number.Round

/-!
# Binary floating point numbers

Numbers with 53 significant bits and exponents from -1074 to 971, together with the two
infinities and the value that is no number. A finite number is a sign, a mantissa and an
exponent; it stands for the rational `mantissa * 2 ^ exponent`. Every operation is the
exact one on rationals followed by a single rounding to the nearest number, ties to the
even mantissa, so the operations are plain arithmetic on integers.
-/

namespace Jobflow.Number

/-- A binary floating point number of 53 significant bits. -/
inductive Binary64
  /-- The result of an operation without a value. -/
  | nan
  /-- A number beyond every finite one. -/
  | infinite (negative : Bool)
  /-- The number `mantissa * 2 ^ exponent`, negated if `negative`. -/
  | finite (negative : Bool) (mantissa : Nat) (exponent : Int)
deriving DecidableEq, Repr, Inhabited

namespace Binary64

/-- The exponent of the smallest numbers. -/
def minExponent : Int := -1074

/-- The exponent of the largest numbers. -/
def maxExponent : Int := 971

/-- The quotient `num / (den * 2 ^ exponent)`, as a pair of natural numbers. -/
def scaled (num den : Nat) : Int → Nat × Nat
  | .ofNat k => (num, den * Nat.pow 2 k)
  | .negSucc k => (num * Nat.pow 2 (k + 1), den)

/-- The exponent at which a positive quotient has a mantissa of 53 bits, or the smallest
one. Comparing the bit lengths leaves two candidates, which are told apart by the integer
part. -/
def exponentOf (num den : Nat) : Int :=
  let guess : Int := (num.log2 : Int) - (den.log2 : Int) - 52
  let (above, below) := scaled num den guess
  max minExponent (if above / below < Nat.pow 2 52 then guess - 1 else guess)

/-- The number nearest to `num / den`, negated if `negative`. A mantissa rounded up to 54
bits is halved, and a number beyond the largest finite one is infinite. -/
def ofRatio (negative : Bool) (num den : Nat) : Binary64 :=
  if num = 0 then finite negative 0 minExponent
  else
    let exponent := exponentOf num den
    let (above, below) := scaled num den exponent
    let rounded := roundQuotient above below
    let (mantissa, exponent) :=
      if rounded = Nat.pow 2 53 then (Nat.pow 2 52, exponent + 1) else (rounded, exponent)
    if maxExponent < exponent then infinite negative else finite negative mantissa exponent

/-- The number nearest to an integer. -/
def ofInt (n : Int) : Binary64 := ofRatio (decide (n < 0)) n.natAbs 1

/-- The number nearest to `digits * 10 ^ exponent`. Far outside the range of exponents the
result is settled by the magnitude alone. -/
def ofDecimal (negative : Bool) (digits : Nat) (exponent : Int) : Binary64 :=
  let magnitude : Int := (Nat.repr digits).length + exponent
  if digits = 0 then finite negative 0 minExponent
  else if 400 < magnitude then infinite negative
  else if magnitude < -400 then finite negative 0 minExponent
  else
    match exponent with
    | .ofNat k => ofRatio negative (digits * Nat.pow 10 k) 1
    | .negSucc k => ofRatio negative digits (Nat.pow 10 (k + 1))

/-- The absolute value of a finite number as a quotient. -/
def ratio (mantissa : Nat) : Int → Nat × Nat
  | .ofNat k => (mantissa * Nat.pow 2 k, 1)
  | .negSucc k => (mantissa, Nat.pow 2 (k + 1))

/-- Whether the number is finite. -/
def isFinite : Binary64 → Bool
  | finite .. => true
  | _ => false

/-- Whether the number is zero, of either sign. -/
def isZero : Binary64 → Bool
  | finite _ mantissa _ => mantissa == 0
  | _ => false

/-- The number divided by a positive natural number. -/
def divNat (x : Binary64) (divisor : Nat) : Binary64 :=
  match x with
  | finite negative mantissa exponent =>
    let (num, den) := ratio mantissa exponent
    ofRatio negative num (den * divisor)
  | other => other

/-- The number multiplied by a positive natural number. -/
def mulNat (x : Binary64) (factor : Nat) : Binary64 :=
  match x with
  | finite negative mantissa exponent =>
    let (num, den) := ratio mantissa exponent
    ofRatio negative (num * factor) den
  | other => other

/-- The integer part, toward zero; only finite numbers have one. -/
def truncate? : Binary64 → Option Int
  | finite negative mantissa exponent =>
    let (num, den) := ratio mantissa exponent
    let whole : Int := (num / den : Nat)
    some (if negative then -whole else whole)
  | _ => none

/-- Whether an integer is at most the number; never for the value that is no number. -/
def atLeast (x : Binary64) (bound : Int) : Bool :=
  match x with
  | nan => false
  | infinite negative => !negative
  | finite negative mantissa exponent =>
    let (num, den) := ratio mantissa exponent
    let signed : Int := if negative then -(num : Int) else num
    decide (bound * den ≤ signed)

/-- Whether the number is exactly an integer. -/
def isExactly (x : Binary64) (n : Int) : Bool :=
  match x with
  | finite negative mantissa exponent =>
    let (num, den) := ratio mantissa exponent
    let signed : Int := if negative then -(num : Int) else num
    n * den == signed
  | _ => false

/-- Whether two numbers are equal as numbers: zeros of both signs are, and the value that
is no number equals nothing. -/
def sameNumber : Binary64 → Binary64 → Bool
  | finite n m e, finite n' m' e' =>
    let (num, den) := ratio m e
    let (num', den') := ratio m' e'
    num * den' == num' * den && (n == n' || num == 0)
  | infinite n, infinite n' => n == n'
  | _, _ => false

/-- Whether one number lies strictly below another one. -/
def below : Binary64 → Binary64 → Bool
  | finite n m e, finite n' m' e' =>
    let (num, den) := ratio m e
    let (num', den') := ratio m' e'
    let left : Int := if n then -((num * den' : Nat) : Int) else (num * den' : Nat)
    let right : Int := if n' then -((num' * den : Nat) : Int) else (num' * den : Nat)
    decide (left < right)
  | infinite n, infinite n' => n && !n'
  | infinite n, finite .. => n
  | finite .., infinite n => !n
  | _, _ => false

example : ofRatio false 1 3 = finite false 6004799503160661 (-54) := by decide +kernel

example : (ofInt (Nat.pow 2 53 + 1)).truncate? = some (Nat.pow 2 53) := by decide +kernel

end Binary64

end Jobflow.Number
