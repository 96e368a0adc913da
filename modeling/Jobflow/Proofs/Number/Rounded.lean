import Jobflow.Proofs.Number.Shortest

/-!
# Rounding gives rounded numbers

The exponent of a quotient is chosen such that its mantissa has 53 bits, or fewer at the smallest
exponent. The bit lengths of the numerator and the denominator leave two exponents to choose from,
and the integer part tells which of them it is. So what is read from a document is a number in its
rounded form.
-/

namespace Jobflow.Number.Binary64

/-- A quotient brought to an exponent. -/
theorem cast_scaled (num den : Nat) (exponent : Int) :
    ((scaled num den exponent).1 : ℚ) / (scaled num den exponent).2 =
      num / den * 2 ^ (-exponent) := by
  cases exponent with
  | ofNat k =>
    have power : (2 : ℚ) ^ (-Int.ofNat k) = (2 ^ k)⁻¹ := by
      rw [Int.ofNat_eq_natCast, zpow_neg, zpow_natCast]
    rw [power, ← div_eq_mul_inv, div_div]
    simp [scaled]
  | negSucc k =>
    have power : -Int.negSucc k = ((k + 1 : Nat) : Int) := rfl
    rw [power, zpow_natCast, scaled]
    simp [div_mul_eq_mul_div]

/-- A quotient brought to an exponent has a positive denominator. -/
theorem scaled_pos (num den : Nat) (positive : 0 < den) (exponent : Int) :
    0 < (scaled num den exponent).2 := by
  cases exponent with
  | ofNat k => exact Nat.mul_pos positive (Nat.pow_pos (by decide))
  | negSucc k => exact positive

/-- The integer part of a quotient is below a number exactly if the quotient is. -/
theorem div_lt_iff_cast (num den bound : Nat) (positive : 0 < den) :
    num / den < bound ↔ (num : ℚ) / den < bound := by
  have scale : (0 : ℚ) < den := Nat.cast_pos.mpr positive
  rw [Nat.div_lt_iff_lt_mul positive, div_lt_iff₀ scale]
  exact_mod_cast Iff.rfl

/-- Bit lengths give the size of a number. -/
theorem cast_log2 (n : Nat) (positive : 0 < n) :
    (2 : ℚ) ^ (n.log2 : Int) ≤ n ∧ (n : ℚ) < 2 ^ ((n.log2 : Int) + 1) := by
  have low : 2 ^ n.log2 ≤ n := Nat.log2_self_le positive.ne'
  have high : n < 2 ^ (n.log2 + 1) := Nat.lt_log2_self
  constructor
  · exact_mod_cast low
  · exact_mod_cast high

/-- At the exponent guessed from bit lengths, a quotient has 52 or 53 bits. -/
theorem guess_bounds (num den : Nat) (some : 0 < num) (positive : 0 < den) (guess : Int)
    (guessed : guess = (num.log2 : Int) - (den.log2 : Int) - 52) :
    (2 : ℚ) ^ 51 < num / den * 2 ^ (-guess) ∧ (num : ℚ) / den * 2 ^ (-guess) < 2 ^ 53 := by
  obtain ⟨numLow, numHigh⟩ := cast_log2 num some
  obtain ⟨denLow, denHigh⟩ := cast_log2 den positive
  have scale : (0 : ℚ) < den := Nat.cast_pos.mpr positive
  have power : (0 : ℚ) < 2 ^ (-guess) := zpow_pos (by norm_num) _
  rw [div_mul_eq_mul_div, lt_div_iff₀ scale, div_lt_iff₀ scale]
  constructor
  · calc (2 : ℚ) ^ 51 * den < 2 ^ 51 * 2 ^ ((den.log2 : Int) + 1) := by gcongr
      _ = 2 ^ (num.log2 : Int) * 2 ^ (-guess) := by
        rw [← zpow_natCast, ← zpow_add₀ (by norm_num), ← zpow_add₀ (by norm_num), guessed]
        congr 1
        push_cast
        ring
      _ ≤ num * 2 ^ (-guess) := by gcongr
  · calc (num : ℚ) * 2 ^ (-guess) < 2 ^ ((num.log2 : Int) + 1) * 2 ^ (-guess) := by gcongr
      _ = 2 ^ 53 * 2 ^ (den.log2 : Int) := by
        rw [← zpow_natCast, ← zpow_add₀ (by norm_num), ← zpow_add₀ (by norm_num), guessed]
        congr 1
        push_cast
        ring
      _ ≤ 2 ^ 53 * den := by gcongr

/-- At its exponent, a quotient has 53 bits, or fewer at the smallest exponent. -/
theorem exponentOf_bounds (num den : Nat) (some : 0 < num) (positive : 0 < den) :
    minExponent ≤ exponentOf num den ∧
      (num : ℚ) / den * 2 ^ (-exponentOf num den) < 2 ^ 53 ∧
      (2 ^ 52 ≤ (num : ℚ) / den * 2 ^ (-exponentOf num den) ∨
        exponentOf num den = minExponent) := by
  generalize guessed : (num.log2 : Int) - (den.log2 : Int) - 52 = guess
  obtain ⟨low, high⟩ := guess_bounds num den some positive guess guessed.symm
  have part := div_lt_iff_cast (scaled num den guess).1 (scaled num den guess).2 (2 ^ 52)
    (scaled_pos num den positive guess)
  rw [cast_scaled] at part
  -- The better of the two exponents, before it is raised to the smallest one.
  obtain ⟨exponent, chosen, full, short⟩ : ∃ exponent,
      exponentOf num den = max minExponent exponent ∧
        2 ^ 52 ≤ (num : ℚ) / den * 2 ^ (-exponent) ∧
        (num : ℚ) / den * 2 ^ (-exponent) < 2 ^ 53 := by
    by_cases small : (scaled num den guess).1 / (scaled num den guess).2 < 2 ^ 52
    · refine ⟨guess - 1, ?_, ?_⟩
      · rw [exponentOf, guessed]
        simp only [Nat.pow_eq, if_pos small]
      · have below := part.mp small
        have next : -(guess - 1) = -guess + 1 := by ring
        rw [next, zpow_add_one₀ (by norm_num), ← mul_assoc]
        push_cast at below
        constructor <;> linarith
    · refine ⟨guess, ?_, ?_, high⟩
      · rw [exponentOf, guessed]
        simp only [Nat.pow_eq, if_neg small]
      · have above := not_lt.mp (mt part.mpr small)
        exact_mod_cast above
  rw [chosen]
  rcases le_total minExponent exponent with inside | below
  · rw [max_eq_right inside]
    exact ⟨inside, short, Or.inl full⟩
  · rw [max_eq_left below]
    refine ⟨le_rfl, lt_of_le_of_lt ?_ short, Or.inr rfl⟩
    have quotient : (0 : ℚ) ≤ num / den := by positivity
    gcongr
    norm_num

/-- Rounding gives a number in its rounded form. -/
theorem isRounded_ofRatio (negative : Bool) (num den : Nat) (positive : 0 < den) :
    (ofRatio negative num den).IsRounded := by
  rcases Nat.eq_zero_or_pos num with rfl | some
  · exact ⟨by decide, le_rfl, Or.inr rfl⟩
  · obtain ⟨least, short, full⟩ := exponentOf_bounds num den some positive
    have close := abs_roundQuotient_sub_le (scaled num den (exponentOf num den)).1
      (scaled num den (exponentOf num den)).2 (scaled_pos num den positive _)
    rw [cast_scaled, abs_le] at close
    simp only [ofRatio, Nat.pow_eq, if_neg some.ne']
    generalize roundQuotient (scaled num den (exponentOf num den)).1
      (scaled num den (exponentOf num den)).2 = rounded at close ⊢
    generalize exponentOf num den = exponent at least short full close ⊢
    have fits : rounded ≤ 2 ^ 53 := by
      have bound : (rounded : ℚ) < ((2 ^ 53 + 1 : Nat) : ℚ) := by
        push_cast
        linarith
      exact Nat.le_of_lt_succ (by exact_mod_cast bound)
    have bits : 2 ^ 52 ≤ rounded ∨ exponent = minExponent := by
      refine full.imp_left fun full => ?_
      have bound : ((2 ^ 52 : Nat) : ℚ) < (rounded + 1 : Nat) := by
        push_cast
        linarith
      exact Nat.le_of_lt_succ (by exact_mod_cast bound)
    by_cases carries : rounded = 2 ^ 53
    · simp only [if_pos carries]
      split
      · trivial
      · exact ⟨by decide, by omega, Or.inl le_rfl⟩
    · simp only [if_neg carries]
      split
      · trivial
      · exact ⟨lt_of_le_of_ne fits carries, least, bits⟩

/-- Decimal digits are read as a number in its rounded form. -/
theorem isRounded_ofDecimal (negative : Bool) (digits : Nat) (exponent : Int) :
    (ofDecimal negative digits exponent).IsRounded := by
  have zero : (finite negative 0 minExponent).IsRounded := ⟨by decide, le_rfl, Or.inr rfl⟩
  simp only [ofDecimal]
  split
  · exact zero
  · split
    · trivial
    · split
      · exact zero
      · cases exponent with
        | ofNat k => exact isRounded_ofRatio negative _ 1 Nat.one_pos
        | negSucc k => exact isRounded_ofRatio negative digits _ (Nat.pow_pos (by decide))

end Jobflow.Number.Binary64
