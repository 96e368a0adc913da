import Mathlib
import Jobflow.Status.Time

/-!
# Times that can be shown

Times up to the year 9999 are shown as dates, and durations between them in hours, minutes
and seconds, as long as the present is not astronomically far away either.
-/

namespace Jobflow.Number.Binary64

/-- The quotient of a number of moderate size is finite. -/
theorem exists_truncate?_ofRatio (negative : Bool) (num den : Nat) (moderate : num < 2 ^ 900) :
    ∃ whole, (ofRatio negative num den).truncate? = some whole := by
  by_cases zero : num = 0
  · rw [ofRatio, if_pos zero]
    exact ⟨_, rfl⟩
  · have length : num.log2 < 900 := (Nat.log2_lt zero).mpr moderate
    have exponent : exponentOf num den ≤ 900 := by
      simp only [exponentOf, minExponent]
      split <;> omega
    have small : ¬ maxExponent < exponentOf num den + 1 := by
      rw [maxExponent]
      omega
    have smaller : ¬ maxExponent < exponentOf num den := by
      rw [maxExponent]
      omega
    rw [ofRatio, if_neg zero]
    simp only
    split
    · exact ⟨_, rfl⟩
    · exact ⟨_, rfl⟩

end Jobflow.Number.Binary64

namespace Jobflow.Status

/-- The first millisecond of the year 10000. -/
def timeEnd : Int := 253402300800000

/-- A time in a document is missing, or a number of milliseconds up to the year 9999; one
that is not positive is unset. -/
def IsTime (time : Value) : Prop := time = .null ∨ ∃ n : Int, time = .int n ∧ n < timeEnd

/-- The present in seconds, at most some hundred million years away. -/
def IsPresent (now : Value) : Prop := ∃ millis, millisOf now = .ok millis ∧ millis.natAbs < 2 ^ 64

/-- The days up to the end of the year 9999 are in years of four digits. -/
theorem year_ofDays_le (days : Nat) (early : days < 2932897) : (Date.ofDays days).year ≤ 9999 := by
  simp only [Date.ofDays]
  generalize era : (days + 719468) / 146097 = cycles
  generalize left : (days + 719468) % 146097 = dayOfCycle
  generalize years : (dayOfCycle - dayOfCycle / 1460 + dayOfCycle / 36524 -
    dayOfCycle / 146096) / 365 = year
  have cycle : cycles ≤ 24 := by omega
  have yearInCycle : year ≤ 399 := by omega
  by_cases last : cycles = 24 ∧ year = 399
  · -- The last year of the range ends in December, before the years counted from March do.
    obtain ⟨rfl, rfl⟩ := last
    have dayBound : dayOfCycle - (365 * 399 + 399 / 4 - 399 / 100) ≤ 305 := by omega
    generalize dayOfCycle - (365 * 399 + 399 / 4 - 399 / 100) = day at dayBound
    have month : (5 * day + 2) / 153 < 10 := by omega
    apply Nat.le_of_eq
    rw [if_pos month, if_neg (by omega)]
  · have carry (month : Nat) : (if month ≤ 2 then 1 else 0) ≤ 1 := by split <;> omega
    have before : year + cycles * 400 ≤ 9998 := by omega
    exact Nat.le_trans (Nat.add_le_add before (carry _)) (Nat.le_refl _)

/-- Times up to the year 9999 can be shown. -/
theorem exists_showMillis (millis : Nat) (early : (millis : Int) < timeEnd) :
    ∃ text, showMillis millis = .ok text := by
  rw [timeEnd] at early
  have day : millis / 1000 / 86400 < 2932897 := by omega
  have year := year_ofDays_le _ day
  have limit : Nat.pow 2 63 = 9223372036854775808 := rfl
  have short : ¬ Nat.pow 2 63 ≤ millis / 1000 := by omega
  have held : ¬ clockEnd < millis / 1000 := by
    rw [clockEnd]
    omega
  have late : ¬ 9999 < (Date.ofDays (millis / 1000 / 86400)).year := by omega
  rw [showMillis]
  simp only [if_neg short, if_neg held, if_neg late]
  exact ⟨_, rfl⟩

/-- The text of a time in a document can be given. -/
theorem exists_formatTime (time : Value) (known : IsTime time) :
    ∃ text, formatTime time = .ok text := by
  rcases known with rfl | ⟨n, rfl, early⟩
  · exact ⟨unset, rfl⟩
  · by_cases positive : n ≤ 0
    · refine ⟨unset, ?_⟩
      show (if n ≤ 0 then (.ok unset : Except Mishap String) else showMillis n.toNat) = _
      rw [if_pos positive]
    · obtain ⟨text, shown⟩ := exists_showMillis n.toNat (by omega)
      refine ⟨text, ?_⟩
      show (if n ≤ 0 then (.ok unset : Except Mishap String) else showMillis n.toNat) = _
      rw [if_neg positive, shown]

/-- A number of milliseconds of moderate size has whole seconds. -/
theorem exists_wholeSeconds (millis : Int) (moderate : millis.natAbs < 2 ^ 900) :
    ∃ seconds, wholeSeconds millis = .ok seconds := by
  obtain ⟨whole, finite⟩ :=
    Number.Binary64.exists_truncate?_ofRatio (decide (millis < 0)) millis.natAbs 1000 moderate
  exact ⟨whole.toNat, by rw [wholeSeconds, finite]⟩

/-- The text of the duration between times in a document can be given. -/
theorem exists_formatElapsed (start finish now : Value) (started : IsTime start)
    (ended : IsTime finish) (present : IsPresent now) :
    ∃ text, formatElapsed start finish now = .ok text := by
  obtain ⟨millis, current, moderate⟩ := present
  have elapsed (n m : Int) (ends : m.natAbs < 2 ^ 64) (begins : 0 < n ∧ n < timeEnd) :
      ∃ seconds, wholeSeconds (m - n) = .ok seconds := by
    rw [timeEnd] at begins
    exact exists_wholeSeconds (m - n) (by omega)
  rcases started with rfl | ⟨n, rfl, early⟩
  · exact ⟨unset, rfl⟩
  by_cases positive : n ≤ 0
  · exact ⟨unset, by simp [formatElapsed, isUnset, integerOf, Value.numeric?, positive, bind,
      Except.bind, pure, Except.pure]⟩
  · rcases ended with rfl | ⟨m, rfl, later⟩
    · obtain ⟨seconds, whole⟩ := elapsed n millis moderate ⟨by omega, early⟩
      exact ⟨showSeconds seconds, by simp [formatElapsed, isUnset, integerOf, Value.numeric?,
        positive, bind, Except.bind, pure, Except.pure, current, whole]⟩
    · by_cases open' : m ≤ 0
      · obtain ⟨seconds, whole⟩ := elapsed n millis moderate ⟨by omega, early⟩
        exact ⟨showSeconds seconds, by simp [formatElapsed, isUnset, integerOf, Value.numeric?,
          positive, open', bind, Except.bind, pure, Except.pure, current, whole]⟩
      · rw [timeEnd] at later
        obtain ⟨seconds, whole⟩ := elapsed n m (by omega) ⟨by omega, early⟩
        exact ⟨showSeconds seconds, by simp [formatElapsed, isUnset, integerOf, Value.numeric?,
          positive, open', bind, Except.bind, pure, Except.pure, whole]⟩

end Jobflow.Status
