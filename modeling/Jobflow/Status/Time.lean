import Jobflow.Fault
import Jobflow.Text.Integer

/-!
# Times and durations

Servers give times as milliseconds since the beginning of 1970, in numbers or in texts; a
time that is not positive is unset. Times are shown as dates of the Gregorian calendar up
to the year 9999, durations as hours, minutes and seconds. The zone of the machine is taken to be
that of the server's times, UTC.
-/

namespace Jobflow.Status

open Number (Binary64)

/-- The integer that a value stands for: numbers are cut toward zero and texts are read. -/
def integerOf (value : Value) : Except Mishap Int :=
  match value with
  | .text s =>
    match Text.readInteger? s.toList with
    | some n => .ok n
    | none => .error .badValue
  | other =>
    match other.numeric? with
    | some (.int n) => .ok n
    | some (.float x) =>
      match x with
      | .nan => .error .badValue
      | .infinite _ => .error .tooLarge
      | finite => .ok (finite.truncate?.getD 0)
    | none => .error .wrongShape

/-- A date of the Gregorian calendar. -/
structure Date where
  /-- The year. -/
  year : Nat
  /-- The month, from one. -/
  month : Nat
  /-- The day of the month, from one. -/
  day : Nat
deriving DecidableEq, Repr

/-- The date a number of days after the beginning of 1970. Counting years from March puts
the leap day at the end of a year and of the 400 years after which the calendar repeats. -/
def Date.ofDays (days : Nat) : Date :=
  let shifted := days + 719468
  let era := shifted / 146097
  let dayOfEra := shifted % 146097
  let yearOfEra :=
    (dayOfEra - dayOfEra / 1460 + dayOfEra / 36524 - dayOfEra / 146096) / 365
  let dayOfYear := dayOfEra - (365 * yearOfEra + yearOfEra / 4 - yearOfEra / 100)
  let shiftedMonth := (5 * dayOfYear + 2) / 153
  let month := if shiftedMonth < 10 then shiftedMonth + 3 else shiftedMonth - 9
  { year := yearOfEra + era * 400 + (if month ≤ 2 then 1 else 0)
    month
    day := dayOfYear - (153 * shiftedMonth + 2) / 5 + 1 }

/-- A number in decimal digits, filled up with zeros. -/
def zeroPadded (width n : Nat) : String := String.ofList (Text.decimal width n)

/-- The mark of a time or duration that is not known. -/
def unset : String := "-"

/-- The last second whose year the system's calendar can hold. -/
def clockEnd : Nat := 67768036191676799

/-- The date and time of day some milliseconds after the beginning of 1970. -/
def showMillis (millis : Nat) : Except Mishap String :=
  let seconds := millis / 1000
  let date := Date.ofDays (seconds / 86400)
  let second := seconds % 86400
  if Nat.pow 2 63 ≤ seconds then .error .tooLarge
  else if clockEnd < seconds then .error .beyondClock
  else if 9999 < date.year then .error .badValue
  else .ok
    (zeroPadded 4 date.year ++ "-" ++ zeroPadded 2 date.month ++ "-" ++ zeroPadded 2 date.day ++
      " " ++ zeroPadded 2 (second / 3600) ++ ":" ++ zeroPadded 2 (second / 60 % 60) ++ ":" ++
      zeroPadded 2 (second % 60))

/-- The text of a time. -/
def formatTime (time : Value) : Except Mishap String :=
  match time with
  | .null => .ok unset
  | time => do
    let millis ← integerOf time
    if millis ≤ 0 then return unset
    showMillis millis.toNat

/-- The milliseconds of a time in seconds. -/
def millisOf (seconds : Value) : Except Mishap Int :=
  match seconds.numeric? with
  | some (.int n) => .ok (1000 * n)
  | some (.float x) => integerOf (.float (x.mulNat 1000))
  | none => .error .wrongShape

/-- The whole seconds in a number of milliseconds: the nearest floating point number to
their quotient, cut toward zero, and never less than none. -/
def wholeSeconds (millis : Int) : Except Mishap Nat :=
  match (Binary64.ofRatio (decide (millis < 0)) millis.natAbs 1000).truncate? with
  | some seconds => .ok seconds.toNat
  | none => .error .tooLarge

/-- The text of a duration in seconds. -/
def showSeconds (seconds : Nat) : String :=
  toString (seconds / 3600) ++ ":" ++ zeroPadded 2 (seconds / 60 % 60) ++ ":" ++
    zeroPadded 2 (seconds % 60)

/-- Whether a time is unset. -/
def isUnset (time : Value) : Except Mishap Bool :=
  match time with
  | .null => .ok true
  | time => return decide ((← integerOf time) ≤ 0)

/-- The text of the duration between two times; an unset end is the present, which is
given in seconds. -/
def formatElapsed (start finish now : Value) : Except Mishap String := do
  if ← isUnset start then return unset
  let finish ← if ← isUnset finish then millisOf now else integerOf finish
  return showSeconds (← wholeSeconds (finish - (← integerOf start)))

example : (showMillis 1500000000000).toOption = some "2017-07-14 02:40:00" := by decide +kernel

end Jobflow.Status
