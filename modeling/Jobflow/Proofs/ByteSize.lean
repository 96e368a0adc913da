import Jobflow.ByteSize
import Jobflow.Proofs.Number.Exact
import Jobflow.Proofs.Number.Fixed

/-!
# Texts of sizes

The unit of a size is chosen by its exact value, which divisions by 1024 keep: the size is at least
one unit, but for the first one, and less than 1024, but for the last one. The number is rounded to
one decimal place after that. Rounding leaves it at least one, but not less than 1024: a size that
is less than a twentieth of a unit below the next unit is shown as 1024 of the smaller one.
-/

namespace Jobflow.ByteSize

open Number Number.Binary64

/-- The units of size, the smallest first. -/
def units : List String := "bytes" :: largerUnits

/-! ## The unit of a size -/

/-- The unit of a rank suits a size, when there is a number of units. -/
structure Suits (size count rank : Nat) : Prop where
  /-- There is at least one of the unit, unless it is the first. -/
  filled : rank = 0 ∨ 1024 ^ rank ≤ size
  /-- There is less than one of the next unit, unless it is the last. -/
  least : rank + 1 = count ∨ size < 1024 ^ (rank + 1)

/-- A moderate size is held exactly in any of the first units. -/
theorem fits_unit (size rank : Nat) (moderate : size < 2 ^ 53) (few : rank ≤ 100) :
    Fits ((size : ℚ) / 1024 ^ rank) := by
  refine ⟨size, -(10 * rank : Nat), moderate, ?_, ?_, ?_⟩
  · rw [minExponent]
    omega
  · rw [maxExponent]
    omega
  · have unit : (1024 : ℚ) ^ rank = 2 ^ (10 * rank) := by
      rw [pow_mul]
      norm_num
    rw [unit, zpow_neg, zpow_natCast, div_eq_mul_inv]

/-- Moving to larger units ends at the unit that suits the size, with the exact number of it. From
any unit on, the names still to come are those behind it among all of them. -/
theorem exists_scale (size : Nat) (moderate : size < 2 ^ 53) (all : List String)
    (few : all.length ≤ 100) (larger : List String) :
    ∀ (rank : Nat) (x : Binary64) (name : String), all.drop rank = name :: larger →
      x.StandsFor (size / 1024 ^ rank) → (rank = 0 ∨ 1024 ^ rank ≤ size) →
      ∃ chosen scaled unit, scale x name larger = (scaled, unit) ∧ all[chosen]? = some unit ∧
        scaled.StandsFor (size / 1024 ^ chosen) ∧ Suits size all.length chosen := by
  have named : ∀ (rank : Nat) (name : String) (larger : List String),
      all.drop rank = name :: larger → all[rank]? = some name := by
    intro rank name larger left
    rw [← Nat.add_zero rank, ← List.getElem?_drop, left]
    rfl
  induction larger with
  | nil =>
    intro rank x name left stands filled
    have last := congrArg List.length left
    rw [List.length_drop, List.length_singleton] at last
    exact ⟨rank, x, name, rfl, named rank name [] left, stands, filled, .inl (by omega)⟩
  | cons next rest inductionHypothesis =>
    intro rank x name left stands filled
    have unit : (0 : ℚ) < 1024 ^ rank := by positivity
    have enough : x.atLeast 1024 = true ↔ 1024 ^ (rank + 1) ≤ size := by
      refine (stands.atLeast_iff 1024).trans ?_
      rw [le_div_iff₀ unit, pow_succ']
      exact_mod_cast Iff.rfl
    by_cases large : 1024 ^ (rank + 1) ≤ size
    · have length := congrArg List.length left
      rw [List.length_drop, List.length_cons, List.length_cons] at length
      have divided : (size : ℚ) / 1024 ^ rank / (1024 : Nat) = size / 1024 ^ (rank + 1) := by
        rw [div_div, pow_succ, Nat.cast_ofNat]
      have further := stands.divNat 1024 (by decide)
        (divided ▸ fits_unit size (rank + 1) moderate (by omega))
      have fewer : all.drop (rank + 1) = next :: rest := by
        rw [← List.drop_drop, left, List.drop_one, List.tail_cons]
      rw [scale, if_pos (enough.mpr large)]
      exact inductionHypothesis (rank + 1) _ next fewer (divided ▸ further) (.inr large)
    · refine ⟨rank, x, name, ?_, named rank name _ left, stands, filled,
        .inr (Nat.lt_of_not_le large)⟩
      rw [scale, if_neg (mt enough.mp large)]

/-! ## The number of units -/

/-- A text tells a number of units: it is the number with one decimal place and then the unit. -/
def Tells (text : String) (number : ℚ) (unit : String) : Prop :=
  ∃ decimal : Decimal, decimal.Proper ∧ decimal.exponent = none ∧ decimal.fraction.length = 1 ∧
    decimal.value = number ∧ text.toList = decimal.text ++ unit.toList

/-- A number of tenths with its point, and then a unit. -/
theorem tells_of_digits {text unit : String} (tenths : Nat)
    (written : text.toList = placePoint 1 tenths ++ unit.toList) :
    Tells text (tenths / 10) unit := by
  obtain ⟨decimal, proper, plain, places, digits, value⟩ := exists_placePoint 1 tenths Nat.one_pos
  rw [pow_one] at value
  exact ⟨decimal, proper, plain, places, value, digits ▸ written⟩

/-- A text tells one number of one unit only. -/
theorem Tells.unique {text unit other : String} {number further : ℚ}
    (first : Tells text number unit) (second : Tells text further other) :
    number = further ∧ unit = other := by
  obtain ⟨⟨whole, fraction, _⟩, proper, rfl, places, rfl, written⟩ := first
  obtain ⟨⟨whole', fraction', _⟩, proper', rfl, places', rfl, written'⟩ := second
  simp only [Decimal.text, Decimal.marked, List.append_nil, List.append_assoc, List.cons_append]
    at written written'
  have point : ∀ digits : List Char, (∀ c ∈ digits, c.isDigit = true) → '.' ∉ digits :=
    fun digits numeric => not_mem_of_digits '.' digits numeric (by decide)
  obtain ⟨before, after⟩ := cut_at '.' whole (fraction ++ unit.toList) (point whole proper.whole)
  obtain ⟨before', after'⟩ :=
    cut_at '.' whole' (fraction' ++ other.toList) (point whole' proper'.whole)
  rw [← written, written'] at before after
  obtain rfl : whole' = whole := before'.symm.trans before
  have behind : fraction' ++ other.toList = fraction ++ unit.toList :=
    (List.cons.inj (after'.symm.trans after)).2
  obtain ⟨rfl, same⟩ := List.append_inj behind (places'.trans places.symm)
  exact ⟨rfl, (String.toList_injective same).symm⟩

/-- How a size is shown: as a number of one of the units. -/
structure Shown (size : Nat) (text : String) (rank : Nat) (number : ℚ) : Prop where
  /-- The text tells this number of the unit of the rank. -/
  tells : ∃ unit, units[rank]? = some unit ∧ Tells text number unit
  /-- The number is off by half of its decimal place at most. -/
  close : |number - size / 1024 ^ rank| ≤ 1 / 20
  /-- It is at least one, unless the unit is the first. -/
  filled : rank = 0 ∨ 1 ≤ number
  /-- Unless the unit is the last, it is 1024 at most, and it is 1024 exactly if the size is less
  than half of the decimal place below the next unit. -/
  below : rank + 1 = units.length ∨
    number ≤ 1024 ∧ (number = 1024 ↔ 1024 - 1 / 20 < (size : ℚ) / 1024 ^ rank)

/-- No size is halfway between the last two decimals up to 1024, since these are not of the form
that halving gives. -/
theorem ne_halfway (size rank : Nat) : (size : ℚ) / 1024 ^ rank ≠ 1024 - 1 / 20 := by
  intro halfway
  have unit : (0 : ℚ) < 1024 ^ rank := by positivity
  rw [div_eq_iff unit.ne'] at halfway
  have product : 20 * size = 20479 * 1024 ^ rank := by
    have twenty : (20 : ℚ) * size = 20479 * 1024 ^ rank := by
      rw [halfway]
      ring
    exact_mod_cast twenty
  have divides : 5 ∣ 20479 * 1024 ^ rank := product ▸ ⟨4 * size, by ring⟩
  rcases (Nat.Prime.dvd_mul Nat.prime_five).mp divides with factor | power
  · exact absurd factor (by decide)
  · exact absurd (Nat.prime_five.dvd_of_dvd_pow power) (by decide)

/-- The nearest number of tenths to less than 1024 of a unit is 1024 at most. -/
theorem nearest_below {size rank tenths : Nat}
    (nearest : |(tenths : ℚ) - size / 1024 ^ rank * 10| ≤ 1 / 2)
    (less : (size : ℚ) / 1024 ^ rank < 1024) :
    (tenths : ℚ) / 10 ≤ 1024 ∧
      ((tenths : ℚ) / 10 = 1024 ↔ 1024 - 1 / 20 < (size : ℚ) / 1024 ^ rank) := by
  have most : tenths ≤ 10240 := of_near_le nearest (by push_cast; linarith)
  have number : (tenths : ℚ) / 10 = 1024 ↔ 10240 ≤ tenths := by
    have product : (1024 : ℚ) * 10 = (10240 : Nat) := by norm_num
    rw [div_eq_iff (by norm_num), product, Nat.cast_inj]
    exact ⟨fun same => same.ge, most.antisymm⟩
  rw [number]
  refine ⟨?_, fun reached => ?_, fun near => le_of_near nearest (by push_cast; linarith)⟩
  · rw [div_le_iff₀ (by norm_num)]
    exact_mod_cast most
  · have enough : (10240 : ℚ) ≤ tenths := by exact_mod_cast reached
    have high : (tenths : ℚ) - size / 1024 ^ rank * 10 ≤ 1 / 2 := (abs_le.mp nearest).2
    exact lt_of_le_of_ne (by linarith) (ne_halfway size rank).symm

/-- The nearest number of tenths of a unit that suits a size shows the size. -/
theorem shown_of_nearest {size rank tenths : Nat} {text unit : String}
    (named : units[rank]? = some unit) (tells : Tells text (tenths / 10) unit)
    (suits : Suits size units.length rank)
    (nearest : |(tenths : ℚ) - size / 1024 ^ rank * 10| ≤ 1 / 2) :
    Shown size text rank (tenths / 10) := by
  have power : (0 : ℚ) < 1024 ^ rank := by positivity
  refine ⟨⟨unit, named, tells⟩, ?_, ?_, ?_⟩
  · obtain ⟨low, high⟩ := abs_le.mp nearest
    rw [abs_le]
    constructor <;> linarith
  · refine suits.filled.imp_right fun filled => ?_
    have one : (1 : ℚ) ≤ size / 1024 ^ rank := by
      rw [le_div_iff₀ power, one_mul]
      exact_mod_cast filled
    have ten : 10 ≤ tenths := le_of_near nearest (by push_cast; linarith)
    rw [le_div_iff₀ (by norm_num)]
    exact_mod_cast ten
  · refine suits.least.imp_right fun small => nearest_below nearest ?_
    rw [div_lt_iff₀ power, ← pow_succ']
    exact_mod_cast small

/-- Every moderate size is shown as a number of a unit: the nearest one with one decimal place, at
least one of any unit but the first, and less than 1024 of any unit but the last, unless this is
nearest to it. -/
theorem ofValue_shows (size : Nat) (moderate : size < 2 ^ 53) :
    ∃ text rank number, ofValue (.int size) = .ok text ∧ ofNat size = text ∧
      Shown size text rank number := by
  have start := standsFor_ofInt size moderate
  have whole : (ofInt size).StandsFor (size / 1024 ^ 0) := by rwa [pow_zero, div_one]
  obtain ⟨rank, scaled, unit, run, named, exactly, suits⟩ :=
    exists_scale size moderate units (by decide) largerUnits 0 (ofInt size) "bytes" rfl whole
      (.inl rfl)
  obtain ⟨tenths, digits, nearest⟩ := exactly.exists_fixed 1
  rw [pow_one] at nearest
  have shown : ByteSize.text (ofInt size) = scaled.fixed 1 ++ unit := by
    rw [ByteSize.text, run]
  have tells : Tells (scaled.fixed 1 ++ unit) (tenths / 10) unit :=
    tells_of_digits tenths (by rw [String.toList_append, digits])
  have finite : (ofInt size).isFinite = true := by
    obtain ⟨mantissa, exponent, same, -⟩ := start
    rw [same]
    rfl
  refine ⟨scaled.fixed 1 ++ unit, rank, tenths / 10, ?_, shown,
    shown_of_nearest named tells suits nearest⟩
  simp only [ofValue, Value.numeric?, if_pos finite, shown]

/-- A size near the end of the second unit is shown. -/
theorem shows_below_larger :
    1048524 < 2 ^ 53 ∧ ∃ text rank number, ofValue (.int 1048524) = .ok text ∧
      ofNat 1048524 = text ∧ Shown 1048524 text rank number :=
  ⟨by decide, ofValue_shows 1048524 (by decide)⟩

/-- One byte less than a unit is shown as 1024 of the unit before, which is not the last one. -/
theorem reaches_larger_unit :
    ofValue (.int 1048575) = .ok "1024.0kB" ∧
      ¬ ∃ rank unit number, units[rank]? = some unit ∧ Tells "1024.0kB" number unit ∧
        (rank + 1 = units.length ∨ number < 1024) := by
  have full : Tells "1024.0kB" ((10240 : Nat) / 10) "kB" := tells_of_digits 10240 rfl
  refine ⟨rfl, ?_⟩
  rintro ⟨rank, unit, number, named, tells, last | less⟩
  · obtain ⟨-, rfl⟩ := full.unique tells
    have third : rank = 3 := Nat.succ.inj last
    rw [third] at named
    exact absurd named (by decide)
  · obtain ⟨rfl, -⟩ := full.unique tells
    norm_num at less

end Jobflow.ByteSize
