import Jobflow.Number.Fixed
import Jobflow.Proofs.Number.Decimal
import Jobflow.Proofs.Text.Digit

/-!
# Decimal places are filled

Digits that are written with a point before the last of them are a decimal with that many places,
zeros in front of its fraction included, and stand for the number of units of the last place.
-/

namespace Jobflow.Number.Binary64

/-- Digits with their point are a decimal with the given number of places. -/
theorem exists_placePoint (places shown : Nat) (some : 0 < places) :
    ∃ decimal : Decimal, decimal.Proper ∧ decimal.exponent = none ∧
      decimal.fraction.length = places ∧ placePoint places shown = decimal.text ∧
      decimal.value = shown / 10 ^ places := by
  have width : (Text.decimal places (shown % 10 ^ places)).length = places :=
    Text.length_decimal places _ some (Nat.mod_lt shown (Nat.pow_pos (by decide)))
  refine ⟨⟨Text.decimal 0 (shown / 10 ^ places), Text.decimal places (shown % 10 ^ places), none⟩,
    ⟨Text.isDigit_of_mem_decimal 0 _, Text.isDigit_of_mem_decimal places _, ?_⟩, rfl, width, ?_, ?_⟩
  · obtain ⟨first, rest, digits, -⟩ := Text.exists_decimal_cons 0 (shown / 10 ^ places)
    exact digits ▸ List.cons_ne_nil first rest
  · rw [placePoint, if_neg some.ne']
    simp [Decimal.text, Decimal.marked, Text.decimal]
  · have digits : Nat.ofDigitChars 10 (Text.decimal 0 (shown / 10 ^ places) ++
        Text.decimal places (shown % 10 ^ places)) 0 = shown := by
      rw [Nat.ofDigitChars_append, Nat.ofDigitChars_eq_ofDigitChars_zero, width,
        Text.ofDigitChars_decimal, Text.ofDigitChars_decimal, Nat.div_add_mod]
    rw [Decimal.value, digits]
    simp only [width, Option.getD_none, zero_sub, zpow_neg, zpow_natCast, ← div_eq_mul_inv]

end Jobflow.Number.Binary64
