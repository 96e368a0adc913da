import Jobflow.Number.Fixed
import Jobflow.Proofs.Number.Rounded

/-!
# Exact results

What 53 bits can hold is not rounded: an operation whose exact result is such a number gives this
number. So integers of 53 bits are taken as they are, and a quotient of them by a power of two is
exact as long as its exponent is not below the smallest one. Comparing a number with an integer is
exact in any case, and writing it with a fixed number of decimal places is off by half of the last
one at most.
-/

namespace Jobflow.Number.Binary64

/-- A number that stands for a rational number, which is not negative. -/
def StandsFor (x : Binary64) (q : ℚ) : Prop :=
  ∃ mantissa exponent, x = finite false mantissa exponent ∧ (mantissa : ℚ) * 2 ^ exponent = q

/-- A rational number that is held by 53 bits and an exponent in range. -/
def Fits (q : ℚ) : Prop :=
  ∃ (mantissa : Nat) (exponent : Int), mantissa < 2 ^ 53 ∧ minExponent ≤ exponent ∧
    exponent ≤ maxExponent ∧ (mantissa : ℚ) * 2 ^ exponent = q

/-- A whole quotient is not rounded. -/
theorem roundQuotient_mul (whole den : Nat) (positive : 0 < den) :
    roundQuotient (whole * den) den = whole := by
  rw [roundQuotient, Nat.mul_mod_left, Nat.mul_div_cancel whole positive, Nat.mul_zero]
  simp only [if_pos positive]

/-- The exponent of a quotient is at most any at which 53 bits hold it, since there are 53 bits
before the point at the exponent itself. -/
theorem exponentOf_le (num den mantissa : Nat) (exponent : Int) (some : 0 < num)
    (positive : 0 < den) (short : mantissa < 2 ^ 53) (least : minExponent ≤ exponent)
    (value : (mantissa : ℚ) * 2 ^ exponent = num / den) : exponentOf num den ≤ exponent := by
  obtain ⟨-, -, full⟩ := exponentOf_bounds num den some positive
  by_contra larger
  have many := full.resolve_right (by omega)
  rw [← value, mul_assoc, ← zpow_add₀ (by norm_num)] at many
  have bits : (mantissa : ℚ) < 2 ^ 53 := by exact_mod_cast short
  have half : (2 : ℚ) ^ (exponent + -exponentOf num den) ≤ 2 ^ (-1 : Int) :=
    zpow_le_zpow_right₀ (by norm_num) (by omega)
  have product : (mantissa : ℚ) * 2 ^ (exponent + -exponentOf num den) ≤
      mantissa * 2 ^ (-1 : Int) := by
    gcongr
  norm_num at product many
  linarith

/-- At its exponent, a quotient that fits is whole. -/
theorem exists_scaled_of_fits (num den : Nat) (some : 0 < num) (positive : 0 < den)
    (fits : Fits (num / den)) :
    exponentOf num den ≤ maxExponent ∧ ∃ whole, whole < 2 ^ 53 ∧
      (scaled num den (exponentOf num den)).1 =
        whole * (scaled num den (exponentOf num den)).2 := by
  obtain ⟨mantissa, exponent, short, least, most, value⟩ := fits
  obtain ⟨-, below, -⟩ := exponentOf_bounds num den some positive
  have order := exponentOf_le num den mantissa exponent some positive short least value
  have denominator := scaled_pos num den positive (exponentOf num den)
  have quotient := cast_scaled num den (exponentOf num den)
  generalize exponentOf num den = chosen at *
  obtain ⟨k, shift⟩ : ∃ k : Nat, exponent + -chosen = k := ⟨(exponent - chosen).toNat, by omega⟩
  rw [← value, mul_assoc, ← zpow_add₀ (by norm_num), shift, zpow_natCast] at below quotient
  have scale : ((scaled num den chosen).2 : ℚ) ≠ 0 := by exact_mod_cast denominator.ne'
  refine ⟨order.trans most, mantissa * 2 ^ k, by exact_mod_cast below, ?_⟩
  rw [div_eq_iff scale] at quotient
  exact_mod_cast quotient

/-- A quotient that fits is not rounded. -/
theorem standsFor_ofRatio (num den : Nat) (positive : 0 < den) (fits : Fits (num / den)) :
    (ofRatio false num den).StandsFor (num / den) := by
  rcases Nat.eq_zero_or_pos num with rfl | some
  · exact ⟨0, minExponent, rfl, by simp⟩
  obtain ⟨most, whole, short, multiple⟩ := exists_scaled_of_fits num den some positive fits
  have denominator := scaled_pos num den positive (exponentOf num den)
  have quotient := cast_scaled num den (exponentOf num den)
  have rounded : roundQuotient (scaled num den (exponentOf num den)).1
      (scaled num den (exponentOf num den)).2 = whole := by
    rw [multiple, roundQuotient_mul whole _ denominator]
  refine ⟨whole, exponentOf num den, ?_, ?_⟩
  · simp only [ofRatio, Nat.pow_eq, if_neg some.ne', rounded, if_neg short.ne, if_neg most.not_gt]
  · have scale : ((scaled num den (exponentOf num den)).2 : ℚ) ≠ 0 := by
      exact_mod_cast denominator.ne'
    rw [multiple, Nat.cast_mul, mul_div_cancel_right₀ _ scale] at quotient
    rw [quotient, mul_assoc, ← zpow_add₀ (by norm_num), neg_add_cancel, zpow_zero, mul_one]

/-- An integer of 53 bits is taken as it is. -/
theorem standsFor_ofInt (n : Nat) (short : n < 2 ^ 53) : (ofInt n).StandsFor n := by
  have whole := standsFor_ofRatio n 1 Nat.one_pos
    ⟨n, 0, short, by decide, by decide, by simp⟩
  rw [Nat.cast_one, div_one] at whole
  have positive : decide ((n : Int) < 0) = false := by simp
  rw [ofInt, positive, Int.natAbs_natCast]
  exact whole

/-- A number is divided exactly if the quotient fits. -/
theorem StandsFor.divNat {x : Binary64} {q : ℚ} (stands : x.StandsFor q) (divisor : Nat)
    (positive : 0 < divisor) (fits : Fits (q / divisor)) :
    (x.divNat divisor).StandsFor (q / divisor) := by
  obtain ⟨mantissa, exponent, rfl, rfl⟩ := stands
  have quotient : ((ratio mantissa exponent).1 : ℚ) /
      ((ratio mantissa exponent).2 * divisor : Nat) = mantissa * 2 ^ exponent / divisor := by
    rw [← cast_ratio, div_div, Nat.cast_mul]
  rw [← quotient] at fits ⊢
  exact standsFor_ofRatio _ _ (Nat.mul_pos (ratio_pos mantissa exponent) positive) fits

/-- Numbers are compared with integers exactly. -/
theorem StandsFor.atLeast_iff {x : Binary64} {q : ℚ} (stands : x.StandsFor q) (bound : Nat) :
    x.atLeast bound = true ↔ (bound : ℚ) ≤ q := by
  obtain ⟨mantissa, exponent, rfl, rfl⟩ := stands
  have scale : (0 : ℚ) < (ratio mantissa exponent).2 :=
    Nat.cast_pos.mpr (ratio_pos mantissa exponent)
  rw [atLeast, ← cast_ratio, le_div_iff₀ scale]
  simp only [Bool.false_eq_true, if_false, decide_eq_true_eq]
  exact_mod_cast Iff.rfl

/-- A number is written with a fixed number of decimal places, off by half of the last one at
most. -/
theorem StandsFor.exists_fixed {x : Binary64} {q : ℚ} (stands : x.StandsFor q) (places : Nat) :
    ∃ shown : Nat, (x.fixed places).toList = placePoint places shown ∧
      |(shown : ℚ) - q * 10 ^ places| ≤ 1 / 2 := by
  obtain ⟨mantissa, exponent, rfl, rfl⟩ := stands
  have close := abs_roundQuotient_sub_le ((ratio mantissa exponent).1 * Nat.pow 10 places)
    (ratio mantissa exponent).2 (ratio_pos mantissa exponent)
  refine ⟨_, String.toList_ofList, ?_⟩
  rw [← cast_ratio, div_mul_eq_mul_div]
  exact_mod_cast close

/-- A whole number that is at most half above a rational number is not above the nearest one. -/
theorem le_of_near {bound nearest : Nat} {q : ℚ} (close : |(nearest : ℚ) - q| ≤ 1 / 2)
    (reached : (bound : ℚ) - 1 / 2 < q) : bound ≤ nearest := by
  have low : -(1 / 2) ≤ (nearest : ℚ) - q := (abs_le.mp close).1
  have less : (bound : ℚ) < (nearest + 1 : Nat) := by
    push_cast
    linarith
  exact Nat.le_of_lt_succ (by exact_mod_cast less)

/-- A whole number that is at most half below a rational number is not below the nearest one. -/
theorem of_near_le {bound nearest : Nat} {q : ℚ} (close : |(nearest : ℚ) - q| ≤ 1 / 2)
    (within : q < bound + 1 / 2) : nearest ≤ bound := by
  have high : (nearest : ℚ) - q ≤ 1 / 2 := (abs_le.mp close).2
  have less : (nearest : ℚ) < (bound + 1 : Nat) := by
    push_cast
    linarith
  exact Nat.le_of_lt_succ (by exact_mod_cast less)

end Jobflow.Number.Binary64
