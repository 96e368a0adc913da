import Jobflow.Text.Cut
import Jobflow.Text.Digit

/-!
# Dates and times

Options may hold dates, and times: dates with a time of day, which may say how far its clock
is ahead of universal time. This module has their texts, alone and inside other values, and
which of them are equal or ordered. Dates, times with an offset and times without one are
compared among their own kind only, those with an offset by the moments they stand for.
-/

namespace Jobflow

open Text

/-- Whether a year of the Gregorian calendar has a leap day. -/
def isLeap (year : Nat) : Bool := year % 4 == 0 && (year % 100 != 0 || year % 400 == 0)

/-- The number of days of a month. -/
def daysIn (year month : Nat) : Nat :=
  if month = 2 then if isLeap year then 29 else 28
  else if month = 4 ∨ month = 6 ∨ month = 9 ∨ month = 11 then 30
  else 31

/-- A day of the Gregorian calendar, from the year 1 to the year 9999. -/
structure Day where
  /-- The year. -/
  year : Nat
  /-- The month, from one. -/
  month : Nat
  /-- The day of the month, from one. -/
  day : Nat
  /-- The year has four digits at most. -/
  inYears : 1 ≤ year ∧ year ≤ 9999
  /-- The year has the month. -/
  inYear : 1 ≤ month ∧ month ≤ 12
  /-- The month has the day. -/
  inMonth : 1 ≤ day ∧ day ≤ daysIn year month
deriving Repr

namespace Day

/-- The number of a day, counted from the first day of the year 1. -/
def number (day : Day) : Nat :=
  let past := day.year - 1
  365 * past + past / 4 - past / 100 + past / 400 +
    (List.range' 1 (day.month - 1)).foldl (fun days month => days + daysIn day.year month) 0 +
      day.day

/-- The text of a day. -/
def text (day : Day) : List Char :=
  decimal 4 day.year ++ '-' :: (decimal 2 day.month ++ '-' :: decimal 2 day.day)

end Day

/-- A time of day. -/
structure Clock where
  /-- The hour. -/
  hour : Fin 24
  /-- The minute. -/
  minute : Fin 60
  /-- The second. -/
  second : Fin 60
  /-- The microsecond. -/
  micro : Fin 1000000
deriving Repr

/-- The text of a fraction of a second, if there is one. -/
def fractionText (micro : Nat) : List Char := if micro = 0 then [] else '.' :: decimal 6 micro

namespace Clock

/-- The microseconds since midnight. -/
def micros (clock : Clock) : Nat :=
  ((clock.hour * 60 + clock.minute) * 60 + clock.second) * 1000000 + clock.micro

/-- The text of a time of day. -/
def text (clock : Clock) : List Char :=
  decimal 2 clock.hour ++ ':' :: (decimal 2 clock.minute ++ ':' :: (decimal 2 clock.second ++
    fractionText clock.micro))

/-- The parts of a time of day; seconds and microseconds only as far as there are any. -/
def parts (clock : Clock) : List Nat :=
  [clock.hour.val, clock.minute.val] ++
    if clock.micro.val = 0 then if clock.second.val = 0 then [] else [clock.second.val]
    else [clock.second.val, clock.micro.val]

end Clock

/-- How far a clock is ahead of universal time: less than a day. -/
structure Offset where
  /-- The microseconds, negative for a clock that is behind. -/
  micros : Int
  /-- They are less than a day. -/
  bounded : micros.natAbs < 86400000000
deriving Repr

namespace Offset

/-- The text of an offset: a sign, hours and minutes, and seconds as far as there are any. -/
def text (offset : Offset) : List Char :=
  let size := offset.micros.natAbs
  let seconds := size / 1000000
  (if offset.micros < 0 then '-' else '+') :: (decimal 2 (seconds / 3600) ++
    ':' :: (decimal 2 (seconds / 60 % 60) ++
      if size % 60000000 = 0 then []
      else ':' :: (decimal 2 (seconds % 60) ++ fractionText (size % 1000000))))

/-- The text of an offset inside another value: days, seconds and microseconds, of which only
days can be negative. -/
def repr (offset : Offset) : String :=
  if offset.micros = 0 then "datetime.timezone.utc"
  else
    let seconds := offset.micros / 1000000
    let part (name : String) (n : Int) := if n = 0 then [] else [name ++ "=" ++ toString n]
    "datetime.timezone(datetime.timedelta(" ++
      join ", " (part "days" (seconds / 86400) ++ part "seconds" (seconds % 86400) ++
        part "microseconds" (offset.micros % 1000000)) ++ "))"

end Offset

/-- A date, or a time. -/
inductive Timestamp
  /-- A date. -/
  | date (day : Day)
  /-- A time of day on a date, and the offset of its clock if that is known. -/
  | time (day : Day) (clock : Clock) (offset : Option Offset)
deriving Repr

namespace Timestamp

/-- The text of a date or time on its own. -/
def text : Timestamp → String
  | date day => String.ofList day.text
  | time day clock offset =>
    String.ofList (day.text ++ ' ' :: (clock.text ++ (offset.map Offset.text).getD []))

/-- The text of a date or time inside another value. -/
def repr (timestamp : Timestamp) : String :=
  let numbers (ns : List Nat) := join ", " (ns.map Nat.repr)
  match timestamp with
  | date day => "datetime.date(" ++ numbers [day.year, day.month, day.day] ++ ")"
  | time day clock offset =>
    let zone := (offset.map fun offset => ", tzinfo=" ++ offset.repr).getD ""
    "datetime.datetime(" ++ numbers ([day.year, day.month, day.day] ++ clock.parts) ++ zone ++ ")"

/-- The kinds of dates and times that are compared with each other. -/
inductive Kind
  /-- Dates. -/
  | date
  /-- Times whose offset is not known. -/
  | unzoned
  /-- Times whose offset is known. -/
  | zoned
deriving DecidableEq

/-- The kind of a date or time, and the microseconds by which it is compared. -/
def moment : Timestamp → Kind × Int
  | date day => (.date, day.number)
  | time day clock none => (.unzoned, day.number * 86400000000 + clock.micros)
  | time day clock (some offset) =>
    (.zoned, day.number * 86400000000 + clock.micros - offset.micros)

/-- Whether two dates or times are equal. -/
def same (left right : Timestamp) : Bool := left.moment = right.moment

/-- Whether one date or time is before another one, if they are of one kind. -/
def below? (left right : Timestamp) : Option Bool :=
  if left.moment.1 = right.moment.1 then some (decide (left.moment.2 < right.moment.2)) else none

end Timestamp

example : (Timestamp.time ⟨2024, 2, 29, by decide, by decide, by decide⟩ ⟨7, 5, 0, 0⟩
      (some ⟨-3600000000, by decide⟩)).text = "2024-02-29 07:05:00-01:00" := by
  decide +kernel

end Jobflow
