/-!
# Dates

The Gregorian calendar, extended to all years in both directions. A date is always one of the
calendar; the neighbouring days of a date and its day of the week are computed from it.
-/

namespace Statute.Time

/-- Leap years are every fourth year, but only every fourth of the full centuries. -/
def isLeapYear (year : Int) : Bool :=
  year % 4 == 0 && (year % 100 != 0 || year % 400 == 0)

/-- The number of days of a month, counted from one; zero beyond December. -/
def daysInMonth (year : Int) : Nat → Nat
  | 1 | 3 | 5 | 7 | 8 | 10 | 12 => 31
  | 4 | 6 | 9 | 11 => 30
  | 2 => if isLeapYear year then 29 else 28
  | _ => 0

/-- A day of the calendar. -/
structure Date where
  year : Int
  month : Nat
  day : Nat
  day_pos : 1 ≤ day
  day_le : day ≤ daysInMonth year month
deriving DecidableEq

/-- The days of the week. -/
inductive Weekday where
  | monday
  | tuesday
  | wednesday
  | thursday
  | friday
  | saturday
  | sunday
deriving DecidableEq, Repr

/-- The weekday that is a number of days after a Monday. -/
def Weekday.afterMonday (days : Nat) : Weekday :=
  match days % 7 with
  | 0 => monday
  | 1 => tuesday
  | 2 => wednesday
  | 3 => thursday
  | 4 => friday
  | 5 => saturday
  | _ => sunday

namespace Date

/-- The first year that dates are read in. -/
def firstYear : Int := -262143

/-- The last year that dates are read in. -/
def lastYear : Int := 262142

/-- The day of a year, month and day of the month, when the calendar has it and its year is
within bounds. -/
def ofParts? (year : Int) (month day : Nat) : Option Date :=
  if within : (1 ≤ day ∧ day ≤ daysInMonth year month) ∧ firstYear ≤ year ∧ year ≤ lastYear then
    some ⟨year, month, day, within.1.1, within.1.2⟩
  else none

/-- Only the twelve months have days, so the month of a date is one of them. -/
theorem month_bounds (date : Date) : 1 ≤ date.month ∧ date.month ≤ 12 := by
  obtain ⟨year, month, day, day_pos, day_le⟩ := date
  simp only
  unfold daysInMonth at day_le
  split at day_le <;> omega

/-- Each of the twelve months has a day. -/
theorem one_le_daysInMonth (year : Int) {month : Nat} (bounds : 1 ≤ month ∧ month ≤ 12) :
    1 ≤ daysInMonth year month := by
  have listed : month = 1 ∨ month = 2 ∨ month = 3 ∨ month = 4 ∨ month = 5 ∨ month = 6 ∨
      month = 7 ∨ month = 8 ∨ month = 9 ∨ month = 10 ∨ month = 11 ∨ month = 12 := by omega
  rcases listed with rfl | rfl | rfl | rfl | rfl | rfl | rfl | rfl | rfl | rfl | rfl | rfl
  case inr.inl =>
    simp only [daysInMonth]
    split <;> omega
  all_goals simp [daysInMonth]

/-- The day after a date. -/
def next (date : Date) : Date :=
  if sameMonth : date.day < daysInMonth date.year date.month then
    ⟨date.year, date.month, date.day + 1, by omega, sameMonth⟩
  else if sameYear : date.month < 12 then
    ⟨date.year, date.month + 1, 1, by omega,
      one_le_daysInMonth date.year ⟨by omega, by omega⟩⟩
  else ⟨date.year + 1, 1, 1, by omega, by simp [daysInMonth]⟩

/-- The day before a date. -/
def previous (date : Date) : Date :=
  if sameMonth : 1 < date.day then
    ⟨date.year, date.month, date.day - 1, by omega, by have := date.day_le; omega⟩
  else if sameYear : 1 < date.month then
    ⟨date.year, date.month - 1, daysInMonth date.year (date.month - 1),
      one_le_daysInMonth date.year (by have := date.month_bounds; omega), Nat.le_refl _⟩
  else ⟨date.year - 1, 12, 31, by omega, by simp [daysInMonth]⟩

/-- The number of days of a year before a month. -/
def daysBeforeMonth (year : Int) : Nat → Nat
  | 0 => 0
  | month + 1 => daysBeforeMonth year month + daysInMonth year month

/-- The number of days from the first of January of year 1 to a date. -/
def dayNumber (date : Date) : Int :=
  let years := date.year - 1
  365 * years + years / 4 - years / 100 + years / 400 +
    daysBeforeMonth date.year date.month + date.day - 1

/-- The day of the week; the first of January of year 1 is a Monday. -/
def weekday (date : Date) : Weekday :=
  .afterMonday (date.dayNumber % 7).toNat

end Date

end Statute.Time
