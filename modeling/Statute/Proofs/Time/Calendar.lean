import Mathlib.Logic.ExistsUnique
import Statute.Time.Timestamp

/-!
# Counting days and minutes

The number of a date counts days: it is one larger on the next day and one smaller on the day before,
and two dates with one number are the same. So points in time can be compared by the number of their
minute, and a shift between clocks changes this number and nothing else.
-/

namespace Statute

namespace Time

/-- No month is longer than 31 days. -/
theorem daysInMonth_le (year : Int) (month : Nat) : daysInMonth year month ≤ 31 := by
  unfold daysInMonth
  split
  case h_12 => split <;> decide
  all_goals decide

namespace Date

/-! ## Years and months -/

/-- The number of days from the beginning of year 1 to that of a year. -/
def daysBeforeYear (year : Int) : Int :=
  365 * (year - 1) + (year - 1) / 4 - (year - 1) / 100 + (year - 1) / 400

/-- The number of days of a year. -/
def daysInYear (year : Int) : Nat :=
  if isLeapYear year then 366 else 365

/-- The number of a day counts the days of the years and months before it. -/
theorem dayNumber_eq (date : Date) :
    date.dayNumber =
      daysBeforeYear date.year + daysBeforeMonth date.year date.month + date.day - 1 :=
  rfl

/-- A leap year is one that four divides, but for those that a hundred divides and four hundred does
not. -/
theorem isLeapYear_iff {year : Int} :
    isLeapYear year = true ↔ year % 4 = 0 ∧ (year % 100 ≠ 0 ∨ year % 400 = 0) := by
  simp [isLeapYear]

/-- Each year begins as many days later as the one before it has. -/
theorem daysBeforeYear_succ (year : Int) :
    daysBeforeYear (year + 1) = daysBeforeYear year + daysInYear year := by
  unfold daysBeforeYear daysInYear
  split
  next leap =>
    have leaps := isLeapYear_iff.mp leap
    omega
  next common =>
    have leaps := mt isLeapYear_iff.mpr common
    omega

/-- No fewer days lie before a later year. -/
theorem daysBeforeYear_mono {first second : Int} (ordered : first ≤ second) :
    daysBeforeYear first ≤ daysBeforeYear second := by
  unfold daysBeforeYear
  omega

/-- Behind a month lie the days before it and its own. -/
theorem daysBeforeMonth_succ (year : Int) (month : Nat) :
    daysBeforeMonth year (month + 1) = daysBeforeMonth year month + daysInMonth year month :=
  rfl

/-- No fewer days lie before a later month. -/
theorem daysBeforeMonth_mono (year : Int) {first second : Nat} (ordered : first ≤ second) :
    daysBeforeMonth year first ≤ daysBeforeMonth year second := by
  induction ordered with
  | refl => exact Nat.le_refl _
  | step _ inductionHypothesis => exact Nat.le_add_right_of_le inductionHypothesis

/-- The months of a year have all of its days. -/
theorem daysBeforeMonth_thirteen (year : Int) : daysBeforeMonth year 13 = daysInYear year := by
  simp only [daysBeforeMonth, daysInMonth, daysInYear]
  split <;> rfl

/-! ## Days are counted -/

/-- A day does not come before the first of its year. -/
theorem daysBeforeYear_le (date : Date) : daysBeforeYear date.year ≤ date.dayNumber := by
  have day := date.day_pos
  rw [dayNumber_eq]
  omega

/-- The days of a month come before the next month. -/
theorem daysBeforeMonth_add_day_le (date : Date) :
    daysBeforeMonth date.year date.month + date.day ≤
      daysBeforeMonth date.year (date.month + 1) :=
  Nat.add_le_add_left date.day_le _

/-- The days of a year come before the next year. -/
theorem dayNumber_lt (date : Date) : date.dayNumber < daysBeforeYear (date.year + 1) := by
  have month := date.month_bounds
  have days := date.daysBeforeMonth_add_day_le
  have months : daysBeforeMonth date.year (date.month + 1) ≤ daysBeforeMonth date.year 13 :=
    daysBeforeMonth_mono _ (by omega)
  rw [daysBeforeMonth_thirteen] at months
  rw [dayNumber_eq, daysBeforeYear_succ]
  omega

/-- A date of an earlier year has a smaller number. -/
theorem dayNumber_lt_of_year_lt {first second : Date} (earlier : first.year < second.year) :
    first.dayNumber < second.dayNumber :=
  calc first.dayNumber < daysBeforeYear (first.year + 1) := first.dayNumber_lt
    _ ≤ daysBeforeYear second.year := daysBeforeYear_mono earlier
    _ ≤ second.dayNumber := second.daysBeforeYear_le

/-- A date of an earlier month of the same year has a smaller number. -/
theorem dayNumber_lt_of_month_lt {first second : Date} (sameYear : first.year = second.year)
    (earlier : first.month < second.month) : first.dayNumber < second.dayNumber := by
  have days := first.daysBeforeMonth_add_day_le
  have months : daysBeforeMonth first.year (first.month + 1) ≤
      daysBeforeMonth first.year second.month := daysBeforeMonth_mono _ earlier
  have later := second.day_pos
  rw [dayNumber_eq, dayNumber_eq, ← sameYear]
  omega

/-- Different dates have different numbers. -/
theorem dayNumber_injective {first second : Date} (same : first.dayNumber = second.dayNumber) :
    first = second := by
  have year : first.year = second.year := by
    rcases Int.lt_trichotomy first.year second.year with earlier | year | later
    · exact absurd same (Int.ne_of_lt (dayNumber_lt_of_year_lt earlier))
    · exact year
    · exact absurd same.symm (Int.ne_of_lt (dayNumber_lt_of_year_lt later))
  have month : first.month = second.month := by
    rcases Nat.lt_trichotomy first.month second.month with earlier | month | later
    · exact absurd same (Int.ne_of_lt (dayNumber_lt_of_month_lt year earlier))
    · exact month
    · exact absurd same.symm (Int.ne_of_lt (dayNumber_lt_of_month_lt year.symm later))
  have day : first.day = second.day := by
    rw [dayNumber_eq, dayNumber_eq, year, month] at same
    omega
  obtain ⟨_, _, _, _, _⟩ := first
  obtain ⟨_, _, _, _, _⟩ := second
  cases year
  cases month
  cases day
  rfl

/-- The day after a date has the next number. -/
theorem dayNumber_next (date : Date) : date.next.dayNumber = date.dayNumber + 1 := by
  have month := date.month_bounds
  have day := date.day_le
  unfold next
  split
  next sameMonth =>
    simp only [dayNumber_eq]
    omega
  next lastOfMonth =>
    split
    next sameYear =>
      simp only [dayNumber_eq, daysBeforeMonth_succ]
      omega
    next lastOfYear =>
      have december : date.month = 12 := by omega
      have days := daysBeforeMonth_thirteen date.year
      rw [daysBeforeMonth_succ] at days
      rw [december] at day lastOfMonth
      simp only [dayNumber_eq, daysBeforeYear_succ, december]
      have january : daysBeforeMonth (date.year + 1) 1 = 0 := rfl
      omega

/-- The day before a date has the number before. -/
theorem dayNumber_previous (date : Date) : date.previous.dayNumber = date.dayNumber - 1 := by
  have month := date.month_bounds
  have day := date.day_pos
  unfold previous
  split
  next sameMonth =>
    simp only [dayNumber_eq]
    omega
  next firstOfMonth =>
    split
    next sameYear =>
      have days := daysBeforeMonth_succ date.year (date.month - 1)
      rw [Nat.sub_add_cancel month.1] at days
      simp only [dayNumber_eq]
      omega
    next firstOfYear =>
      have january : date.month = 1 := by omega
      have years := daysBeforeYear_succ (date.year - 1)
      rw [Int.sub_add_cancel] at years
      have days := daysBeforeMonth_thirteen (date.year - 1)
      rw [daysBeforeMonth_succ] at days
      have december : daysInMonth (date.year - 1) 12 = 31 := rfl
      have before : daysBeforeMonth date.year 1 = 0 := rfl
      simp only [dayNumber_eq, january]
      omega

end Date

/-- The day of the week after another. -/
def Weekday.next : Weekday → Weekday
  | monday => tuesday
  | tuesday => wednesday
  | wednesday => thursday
  | thursday => friday
  | friday => saturday
  | saturday => sunday
  | sunday => monday

/-- The weekday of the next day is the next one. -/
theorem Weekday.afterMonday_succ (days : Nat) :
    Weekday.afterMonday (days + 1) = (Weekday.afterMonday days).next := by
  have within : days % 7 < 7 := Nat.mod_lt _ (by decide)
  unfold Weekday.afterMonday
  rw [Nat.add_mod]
  revert within
  generalize days % 7 = day
  revert day
  decide

/-- Days of the week follow each other as the dates do. -/
theorem Date.weekday_next (date : Date) : date.next.weekday = date.weekday.next := by
  have days : (date.next.dayNumber % 7).toNat % 7 = ((date.dayNumber % 7).toNat + 1) % 7 := by
    rw [dayNumber_next]
    omega
  rw [weekday, weekday, ← Weekday.afterMonday_succ]
  unfold Weekday.afterMonday
  rw [days]

example : Timestamp.epoch.date.weekday = .thursday := by decide

end Time

namespace Timestamp

open Time

/-! ## Minutes are counted -/

/-- The number of minutes from the beginning of year 1. -/
def minuteNumber (timestamp : Timestamp) : Int :=
  1440 * timestamp.date.dayNumber + 60 * timestamp.time.hour + timestamp.time.minute

/-- A point in time is given by its minute and the time since the minute began. -/
theorem eq_of_minuteNumber_eq {first other : Timestamp}
    (minutes : first.minuteNumber = other.minuteNumber)
    (seconds : first.time.second = other.time.second)
    (nanoseconds : first.time.nanosecond = other.time.nanosecond) : first = other := by
  have firstHour := first.time.hour_lt
  have firstMinute := first.time.minute_lt
  have otherHour := other.time.hour_lt
  have otherMinute := other.time.minute_lt
  unfold minuteNumber at minutes
  have date : first.date = other.date := Date.dayNumber_injective (by omega)
  rw [date] at minutes
  have hour : first.time.hour = other.time.hour := by omega
  have minute : first.time.minute = other.time.minute := by omega
  obtain ⟨_, _, _, _, _⟩ := first
  obtain ⟨_, _, _, _, _⟩ := other
  cases date
  cases hour
  cases minute
  cases seconds
  cases nanoseconds
  rfl

/-- The day before, the day after and the same day. -/
theorem dayNumber_shifted (date : Date) {days : Int} (bounds : -1 ≤ days ∧ days ≤ 1) :
    (if days < 0 then date.previous else if 0 < days then date.next else date).dayNumber =
      date.dayNumber + days := by
  split
  next before =>
    rw [Date.dayNumber_previous]
    omega
  next =>
    split
    next behind =>
      rw [Date.dayNumber_next]
      omega
    next => omega

/-- A shift changes the number of the minute by as much as it is asked for. -/
theorem minuteNumber_shift (timestamp : Timestamp) {minutes : Int}
    (bounds : -1440 < minutes ∧ minutes < 1440) :
    (shift timestamp minutes).minuteNumber = timestamp.minuteNumber + minutes := by
  have hourBound := timestamp.time.hour_lt
  have minuteBound := timestamp.time.minute_lt
  have days : (shiftTime timestamp.time minutes).1 =
      (60 * (timestamp.time.hour : Int) + timestamp.time.minute + minutes) / 1440 := rfl
  have date : (shift timestamp minutes).date.dayNumber =
      timestamp.date.dayNumber + (shiftTime timestamp.time minutes).1 :=
    dayNumber_shifted _ (by omega)
  have hour : (shift timestamp minutes).time.hour = ((60 * (timestamp.time.hour : Int) +
      timestamp.time.minute + minutes) % 1440).toNat / 60 := rfl
  have minute : (shift timestamp minutes).time.minute = ((60 * (timestamp.time.hour : Int) +
      timestamp.time.minute + minutes) % 1440).toNat % 60 := rfl
  rw [minuteNumber, minuteNumber, date, days, hour, minute]
  omega

/-- At a point in time, clocks that are `offset` minutes ahead of universal time show this date and
time. Seconds and what is smaller are the same everywhere. -/
structure Shows (shown : Timestamp) (offset : Int) (timestamp : Timestamp) : Prop where
  minutes : shown.minuteNumber = timestamp.minuteNumber + offset
  seconds : shown.time.second = timestamp.time.second
  nanoseconds : shown.time.nanosecond = timestamp.time.nanosecond

/-- What clocks show is turned back into universal time by their offset. -/
theorem Shows.shift_eq {shown timestamp : Timestamp} {offset : Int}
    (shows : Shows shown offset timestamp) (bounds : -1440 < offset ∧ offset < 1440) :
    shift shown (-offset) = timestamp := by
  refine eq_of_minuteNumber_eq ?_ shows.seconds shows.nanoseconds
  rw [minuteNumber_shift shown (by omega), shows.minutes]
  omega

/-- A point in time is shown as it is where the clocks show universal time. -/
theorem Shows.universal (timestamp : Timestamp) : Shows timestamp 0 timestamp :=
  ⟨(Int.add_zero _).symm, rfl, rfl⟩

/-- Clocks with the same offset show the same. -/
theorem Shows.unique {first other timestamp : Timestamp} {offset : Int}
    (firstShows : Shows first offset timestamp) (otherShows : Shows other offset timestamp) :
    first = other :=
  eq_of_minuteNumber_eq (firstShows.minutes.trans otherShows.minutes.symm)
    (firstShows.seconds.trans otherShows.seconds.symm)
    (firstShows.nanoseconds.trans otherShows.nanoseconds.symm)

/-- Clocks with an offset of less than a day show one date and time. -/
theorem existsUnique_shows (timestamp : Timestamp) {offset : Int}
    (bounds : -1440 < offset ∧ offset < 1440) : ∃! shown, Shows shown offset timestamp :=
  ⟨shift timestamp offset, ⟨minuteNumber_shift timestamp bounds, rfl, rfl⟩,
    fun _ shows => shows.unique ⟨minuteNumber_shift timestamp bounds, rfl, rfl⟩⟩

end Timestamp

end Statute
