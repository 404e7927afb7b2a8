import Statute.Number.Integer
import Statute.Time.Date

/-!
# Timestamps

Points in time as a date and a time of the day in universal time, to the nanosecond. A leap second
is kept as a fifty-ninth second of more than one thousand million nanoseconds. The module holds
the written form and the shift between local and universal time.
-/

namespace Statute

namespace Time

/-- A time of the day. The fifty-ninth second of a minute may be followed by a leap second, which
counts as part of it. -/
structure TimeOfDay where
  hour : Nat
  minute : Nat
  second : Nat
  nanosecond : Nat
  hour_lt : hour < 24
  minute_lt : minute < 60
  second_lt : second < 60
  nanosecond_lt : nanosecond < (if second = 59 then 2000000000 else 1000000000)
deriving DecidableEq

/-- The time of the day with these parts, when there is one. A sixtieth second is a leap second. -/
def TimeOfDay.ofParts? (hour minute second nanosecond : Nat) : Option TimeOfDay :=
  let (second, nanosecond) :=
    if second = 60 then (59, 1000000000 + nanosecond) else (second, nanosecond)
  if within : hour < 24 ∧ minute < 60 ∧ second < 60 ∧
      nanosecond < (if second = 59 then 2000000000 else 1000000000) then
    some ⟨hour, minute, second, nanosecond, within.1, within.2.1, within.2.2.1, within.2.2.2⟩
  else none

end Time

open Time

/-- A point in time, given in universal time. -/
structure Timestamp where
  date : Date
  time : TimeOfDay
deriving DecidableEq

namespace Timestamp

open Number

/-- The beginning of 1970. -/
def epoch : Timestamp where
  date := ⟨1970, 1, 1, by decide, by decide⟩
  time := ⟨0, 0, 0, 0, by decide, by decide, by decide, by decide⟩

/-- The time that is a number of minutes later, with the number of days that it is later. Seconds
and their fractions stay as they are. -/
def shiftTime (time : TimeOfDay) (minutes : Int) : Int × TimeOfDay :=
  let total := 60 * (time.hour : Int) + time.minute + minutes
  let minuteOfDay := (total % 1440).toNat
  (total / 1440,
    { time with
      hour := minuteOfDay / 60
      minute := minuteOfDay % 60
      hour_lt := by omega
      minute_lt := by omega })

/-- The point in time that is a number of minutes later, less than a day in either direction. -/
def shift (timestamp : Timestamp) (minutes : Int) : Timestamp :=
  let (days, time) := shiftTime timestamp.time minutes
  let date :=
    if days < 0 then timestamp.date.previous
    else if 0 < days then timestamp.date.next
    else timestamp.date
  ⟨date, time⟩

/-- The point in time at which clocks that are `offset` minutes ahead of universal time show a
date and time, when its year is within bounds. -/
def ofLocal? (date : Date) (time : TimeOfDay) (offset : Int) : Option Timestamp :=
  let timestamp := shift ⟨date, time⟩ (-offset)
  if Date.firstYear ≤ timestamp.date.year ∧ timestamp.date.year ≤ Date.lastYear then
    some timestamp
  else none

/-- A number with leading zeros up to a width. -/
def padded (width value : Nat) : List Char :=
  let digits := toDigits value
  List.replicate (width - digits.length) '0' ++ digits

/-- A year with four digits; before year 0 and after year 9999 with a sign. -/
def yearText (year : Int) : List Char :=
  if year < 0 then '-' :: padded 4 year.natAbs
  else if 9999 < year then '+' :: padded 4 year.natAbs
  else padded 4 year.natAbs

/-- A fraction of a second in as many groups of three digits as it needs. -/
def fractionText (nanosecond : Nat) : List Char :=
  if nanosecond = 0 then []
  else if nanosecond % 1000000 = 0 then '.' :: padded 3 (nanosecond / 1000000)
  else if nanosecond % 1000 = 0 then '.' :: padded 6 (nanosecond / 1000)
  else '.' :: padded 9 nanosecond

/-- The year, month and day with hyphens between them. -/
def dateText (date : Date) : List Char :=
  yearText date.year ++ '-' :: padded 2 date.month ++ '-' :: padded 2 date.day

/-- The hour, minute and second with colons between them, and the fraction. A leap second is
written as second 60. -/
def timeText (time : TimeOfDay) : List Char :=
  let leap := 1000000000 ≤ time.nanosecond
  let second := if leap then time.second + 1 else time.second
  let nanosecond := if leap then time.nanosecond - 1000000000 else time.nanosecond
  padded 2 time.hour ++ ':' :: padded 2 time.minute ++ ':' :: padded 2 second ++
    fractionText nanosecond

/-- The written form of a point in time, with the offset of universal time. -/
def text (timestamp : Timestamp) : String :=
  String.ofList <|
    dateText timestamp.date ++ 'T' :: timeText timestamp.time ++ ['+', '0', '0', ':', '0', '0']

end Timestamp

end Statute
