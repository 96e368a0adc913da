import Mathlib.Algebra.Order.Field.Power
import Mathlib.Tactic.Linarith
import Mathlib.Tactic.NormNum
import Mathlib.Tactic.Positivity
import Mathlib.Tactic.Ring
import Jobflow.Number.Shortest

/-!
# Shortest digits tell numbers apart

The digits that a finite number is written with lie in its neighbourhood, since seventeen
digits always have one there: the nearest ones are off by half a unit of the last place at
most, which is less than a quarter of the last bit. The neighbourhoods of different numbers have
no point in common, as a shared end belongs to the even one only. So the digits of different
numbers differ.
-/

namespace Jobflow.Number.Binary64

/-- A number in the form in which rounding gives it: with fewer than 53 bits only at the
smallest exponent. -/
def IsRounded : Binary64 → Prop
  | finite _ mantissa exponent =>
    mantissa < 2 ^ 53 ∧ minExponent ≤ exponent ∧ (2 ^ 52 ≤ mantissa ∨ exponent = minExponent)
  | _ => True

/-! ## Neighbourhoods as rational numbers -/

/-- A number as a quotient. -/
theorem cast_ratio (mantissa : Nat) (exponent : Int) :
    ((ratio mantissa exponent).1 : ℚ) / (ratio mantissa exponent).2 = mantissa * 2 ^ exponent := by
  cases exponent with
  | ofNat k => simp [ratio]
  | negSucc k => simp [ratio, zpow_negSucc, div_eq_mul_inv]

/-- Quotients have positive denominators. -/
theorem ratio_pos (mantissa : Nat) (exponent : Int) : 0 < (ratio mantissa exponent).2 := by
  cases exponent with
  | ofNat k => exact Nat.one_pos
  | negSucc k => exact Nat.pow_pos (by decide)

/-- Whether a rational number rounds to the number at the centre. -/
def Neighbourhood.Contains (near : Neighbourhood) (q : ℚ) : Prop :=
  if near.closed then (near.low : ℚ) / near.den ≤ q ∧ q ≤ near.high / near.den
  else (near.low : ℚ) / near.den < q ∧ q < near.high / near.den

/-- How far the lower end of a neighbourhood is, in quarters of the last bit. -/
def downward (mantissa : Nat) (exponent : Int) : Nat :=
  if mantissa = 2 ^ 52 ∧ minExponent < exponent then 1 else 2

/-- A neighbourhood lies within quarters of the last bit, and the ends belong to it if the
mantissa is even. -/
theorem contains_iff (mantissa : Nat) (exponent : Int) (q : ℚ) :
    (neighbourhood mantissa exponent).Contains q ↔
      if mantissa % 2 = 0 then
        ((4 * mantissa - downward mantissa exponent : Nat) : ℚ) * 2 ^ (exponent - 2) ≤ q ∧
          q ≤ ((4 * mantissa + 2 : Nat) : ℚ) * 2 ^ (exponent - 2)
      else
        ((4 * mantissa - downward mantissa exponent : Nat) : ℚ) * 2 ^ (exponent - 2) < q ∧
          q < ((4 * mantissa + 2 : Nat) : ℚ) * 2 ^ (exponent - 2) := by
  have unit := cast_ratio 1 (exponent - 2)
  rw [Nat.cast_one, one_mul] at unit
  have low : ((neighbourhood mantissa exponent).low : ℚ) / (neighbourhood mantissa exponent).den =
      ((4 * mantissa - downward mantissa exponent : Nat) : ℚ) * 2 ^ (exponent - 2) := by
    rw [← unit, ← mul_div_assoc, ← Nat.cast_mul]
    rfl
  have high : ((neighbourhood mantissa exponent).high : ℚ) / (neighbourhood mantissa exponent).den =
      ((4 * mantissa + 2 : Nat) : ℚ) * 2 ^ (exponent - 2) := by
    rw [← unit, ← mul_div_assoc, ← Nat.cast_mul]
    rfl
  rw [Neighbourhood.Contains, low, high]
  simp only [neighbourhood, decide_eq_true_eq]

/-! ## Neighbourhoods are apart -/

/-- Of two numbers in the order of their size, the first one's neighbourhood ends before the
second one's begins, or there while one of them has an odd mantissa. -/
theorem gap (mantissa other : Nat) (k : Nat) (exponent : Int)
    (short : mantissa < 2 ^ 53) (least : minExponent ≤ exponent)
    (full : 2 ^ 52 ≤ other ∨ exponent + k = minExponent)
    (before : 0 < k ∨ mantissa < other) :
    4 * mantissa + 2 < (4 * other - downward other (exponent + k)) * 2 ^ k ∨
      4 * mantissa + 2 = (4 * other - downward other (exponent + k)) * 2 ^ k ∧
        (mantissa % 2 = 1 ∨ other % 2 = 1) := by
  cases k with
  | zero =>
    have less : mantissa < other := before.resolve_left (Nat.lt_irrefl 0)
    rw [Nat.pow_zero, Nat.mul_one, downward]
    split <;> omega
  | succ k =>
    have whole : 2 ^ 52 ≤ other := full.resolve_right (by push_cast; omega)
    have low : 2 ^ 54 - 1 ≤ 4 * other - downward other (exponent + (k + 1 : Nat)) := by
      rw [downward]
      split <;> omega
    have growth := Nat.mul_le_mul low (Nat.le_self_pow (Nat.add_one_ne_zero k) 2)
    omega

/-- Rounding is off by a half at most. -/
theorem abs_roundQuotient_sub_le (num den : Nat) (positive : 0 < den) :
    |(roundQuotient num den : ℚ) - num / den| ≤ 1 / 2 := by
  obtain ⟨below, above⟩ := roundQuotient_bounds num den positive
  have scale : (0 : ℚ) < den := Nat.cast_pos.mpr positive
  have belowCast : (2 : ℚ) * num ≤ 2 * (roundQuotient num den * den) + den := by exact_mod_cast below
  have aboveCast : (2 : ℚ) * (roundQuotient num den * den) ≤ 2 * num + den := by exact_mod_cast above
  rw [abs_le]
  constructor
  · rw [neg_le_sub_iff_le_add, div_le_iff₀ scale]
    linarith
  · rw [sub_le_iff_le_add', ← sub_le_iff_le_add, le_div_iff₀ scale]
    linarith

end Jobflow.Number.Binary64
