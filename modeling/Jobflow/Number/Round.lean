/-!
# Rounding quotients

The nearest integer to a quotient of natural numbers, a tie going to the even neighbour.
The result is within half a unit of the quotient.
-/

namespace Jobflow.Number

/-- The nearest natural number to `num / den`; a tie goes to the even neighbour. -/
def roundQuotient (num den : Nat) : Nat :=
  let whole := num / den
  let twice := 2 * (num % den)
  if twice < den then whole
  else if den < twice then whole + 1
  else if whole % 2 = 0 then whole
  else whole + 1

/-- The rounded quotient is at most half a unit from the quotient. -/
theorem roundQuotient_bounds (num den : Nat) (positive : 0 < den) :
    2 * num ≤ 2 * (roundQuotient num den * den) + den ∧
      2 * (roundQuotient num den * den) ≤ 2 * num + den := by
  have division : den * (num / den) + num % den = num := Nat.div_add_mod num den
  have remainder : num % den < den := Nat.mod_lt num positive
  have commuted : num / den * den = den * (num / den) := Nat.mul_comm _ _
  have successor : (num / den + 1) * den = den * (num / den) + den := by
    rw [Nat.add_mul, Nat.one_mul, commuted]
  unfold roundQuotient
  simp only
  split
  · omega
  · split
    · omega
    · split <;> omega

example : roundQuotient 5 2 = 2 ∧ roundQuotient 7 2 = 4 ∧ roundQuotient 8 3 = 3 := by decide

end Jobflow.Number
