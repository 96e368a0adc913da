import Mathlib
import Jobflow.Text.Digit

/-!
# Numbers of a fixed width

A number with zeros in front is written in digits only, which read back as the number. One that
fits its width fills it exactly, so that it can be told from what comes after it.
-/

namespace Jobflow.Text

/-- Numbers are written in digits. -/
theorem isDigit_of_mem_decimal (width n : Nat) (c : Char) (member : c ∈ decimal width n) :
    c.isDigit = true := by
  rcases List.mem_append.mp member with zero | digit
  · rw [List.eq_of_mem_replicate zero]
    decide
  · rw [Nat.repr_eq_ofList_toDigits, String.toList_ofList] at digit
    exact Nat.isDigit_of_mem_toDigits (by decide) (by decide) digit

/-- The digits of a number read back. -/
theorem ofDigitChars_decimal (width n : Nat) : Nat.ofDigitChars 10 (decimal width n) 0 = n := by
  rw [decimal, Nat.ofDigitChars_append, Nat.ofDigitChars_replicate_zero, Nat.mul_zero,
    Nat.repr_eq_ofList_toDigits, String.toList_ofList]
  exact Nat.ofDigitChars_ten_toDigits

/-- A number that fits its width fills it. -/
theorem length_decimal (width n : Nat) (some : 0 < width) (fits : n < 10 ^ width) :
    (decimal width n).length = width := by
  have short : (Nat.repr n).length ≤ width := (Nat.length_repr_le_iff some).mpr fits
  rw [← String.length_toList] at short
  simp only [decimal, List.length_append, List.length_replicate]
  omega

/-- Numbers start with a digit. -/
theorem exists_decimal_cons (width n : Nat) :
    ∃ c rest, decimal width n = c :: rest ∧ c.isDigit = true := by
  cases digits : decimal width n with
  | nil =>
    have none : (Nat.repr n).toList = [] := (List.append_eq_nil_iff.mp digits).2
    rw [Nat.repr_eq_ofList_toDigits, String.toList_ofList] at none
    exact absurd none Nat.toDigits_ne_nil
  | cons c rest => exact ⟨c, rest, rfl, isDigit_of_mem_decimal width n c (by simp [digits])⟩

end Jobflow.Text
