import Jobflow.Names
import Mathlib.Data.String.Basic

/-!
# Laws of lists of names

Sorting keeps the names of a list and puts them in increasing order of code points, strictly if
none is repeated.
-/

namespace Jobflow.Names

/-- Sorted names are those that were given. -/
theorem sorted_perm (names : List String) : (sorted names).Perm names :=
  List.mergeSort_perm names _

/-- The test that names are sorted by is their order. -/
theorem isBelow_iff (a b : String) : (!decide (b < a)) = true ↔ a ≤ b := by
  rw [Bool.not_eq_true', decide_eq_false_iff_not, not_lt]

/-- Sorted names are in increasing order. -/
theorem pairwise_sorted (names : List String) : (sorted names).Pairwise (· ≤ ·) := by
  have pairs : (sorted names).Pairwise fun a b => (!decide (b < a)) = true := by
    apply List.pairwise_mergeSort
    · intro a b c first second
      exact (isBelow_iff a c).mpr (((isBelow_iff a b).mp first).trans ((isBelow_iff b c).mp second))
    · intro a b
      rw [Bool.or_eq_true, isBelow_iff, isBelow_iff]
      exact le_total a b
  exact pairs.imp fun pair => (isBelow_iff _ _).mp pair

/-- Names in increasing order are sorted. -/
theorem eq_sorted {names ordered : List String} (perm : ordered.Perm names)
    (increasing : ordered.Pairwise (· ≤ ·)) : ordered = sorted names :=
  List.Perm.eq_of_pairwise (fun _ _ _ _ => le_antisymm) increasing (pairwise_sorted names)
    (perm.trans (sorted_perm names).symm)

/-- Distinct names that are sorted are in strictly increasing order. -/
theorem pairwise_lt_sorted {names : List String} (distinct : names.Nodup) :
    (sorted names).Pairwise (· < ·) := by
  have different : (sorted names).Pairwise (· ≠ ·) := (sorted_perm names).nodup_iff.mpr distinct
  exact ((pairwise_sorted names).and different).imp fun pair => lt_of_le_of_ne pair.1 pair.2

end Jobflow.Names
