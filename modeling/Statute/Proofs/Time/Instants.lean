import Statute.Proofs.Time.Calendar
import Statute.Proofs.Time.Fields

/-!
# Written dates and times are read as they are

The parts that are written for a date and a time make the same date and time again, a leap second
and fractions of a second included. With an offset behind them they are read as the point in time at
which clocks with this offset show them, without an offset as universal time.
-/

namespace Statute

namespace Time

/-- A year that is written with four digits and no sign. -/
def Date.HasPlainYear (date : Date) : Prop :=
  0 ≤ date.year ∧ date.year ≤ 9999

instance (date : Date) : Decidable date.HasPlainYear :=
  inferInstanceAs (Decidable (_ ∧ _))

/-- The second that is written for a time: a leap second is the sixtieth. -/
def TimeOfDay.writtenSecond (time : TimeOfDay) : Nat :=
  if 1000000000 ≤ time.nanosecond then time.second + 1 else time.second

/-- The nanoseconds that are written for a time. -/
def TimeOfDay.writtenNanosecond (time : TimeOfDay) : Nat :=
  if 1000000000 ≤ time.nanosecond then time.nanosecond - 1000000000 else time.nanosecond

/-- Only the fifty-ninth second has a leap second behind it. -/
theorem second_eq_of_leap {second nanosecond : Nat}
    (bound : nanosecond < if second = 59 then 2000000000 else 1000000000)
    (leap : 1000000000 ≤ nanosecond) : second = 59 := by
  split at bound
  next last => exact last
  next => omega

/-- The written second is at most the sixtieth, which stands for a leap second. -/
theorem TimeOfDay.writtenSecond_lt (time : TimeOfDay) : time.writtenSecond < 61 := by
  have bound := time.second_lt
  unfold writtenSecond
  split <;> omega

/-- The written nanoseconds are less than a second. -/
theorem TimeOfDay.writtenNanosecond_lt (time : TimeOfDay) :
    time.writtenNanosecond < 1000000000 := by
  have bound := time.nanosecond_lt
  unfold writtenNanosecond
  split at bound <;> split <;> omega

/-- A time is made from the parts that are written for it. -/
theorem TimeOfDay.ofParts?_written (time : TimeOfDay) :
    ofParts? time.hour time.minute time.writtenSecond time.writtenNanosecond = some time := by
  obtain ⟨hour, minute, second, nanosecond, hour_lt, minute_lt, second_lt, nanosecond_lt⟩ := time
  by_cases leap : 1000000000 ≤ nanosecond
  · obtain rfl := second_eq_of_leap nanosecond_lt leap
    have whole : 1000000000 + (nanosecond - 1000000000) = nanosecond := by omega
    simp only [ofParts?, writtenSecond, writtenNanosecond, leap, if_true, whole]
    exact dif_pos ⟨hour_lt, minute_lt, second_lt, nanosecond_lt⟩
  · have earlier : second ≠ 60 := by omega
    simp only [ofParts?, writtenSecond, writtenNanosecond, leap, if_false, earlier]
    exact dif_pos ⟨hour_lt, minute_lt, second_lt, nanosecond_lt⟩

/-- A year of four digits is among the years that dates may have. -/
theorem Date.HasPlainYear.within {date : Date} (plain : date.HasPlainYear) :
    firstYear ≤ date.year ∧ date.year ≤ lastYear := by
  obtain ⟨lower, upper⟩ := plain
  unfold firstYear lastYear
  omega

/-- A date is made from its parts. -/
theorem Date.ofParts?_eq {date : Date} (plain : date.HasPlainYear) :
    ofParts? date.year date.month date.day = some date :=
  dif_pos ⟨⟨date.day_pos, date.day_le⟩, plain.within⟩

/-- The day of a date has two digits. -/
theorem Date.day_lt (date : Date) : date.day < 32 :=
  Nat.lt_succ_of_le (date.day_le.trans (daysInMonth_le _ _))

end Time

namespace Timestamp

open Number Text Time

/-- What clocks show is the point in time at which they show it. -/
theorem Shows.ofShown?_eq {shown timestamp : Timestamp} {offset : Int}
    (shows : Shows shown offset timestamp) (bounds : -1440 < offset ∧ offset < 1440)
    (shownPlain : shown.date.HasPlainYear) (plain : timestamp.date.HasPlainYear) :
    ofShown? shown.date.year shown.date.month shown.date.day shown.time.hour shown.time.minute
        shown.time.writtenSecond shown.time.writtenNanosecond offset = some timestamp := by
  have shifted : shift ⟨shown.date, shown.time⟩ (-offset) = timestamp := shows.shift_eq bounds
  simp only [ofShown?, Date.ofParts?_eq shownPlain, TimeOfDay.ofParts?_written, bounds, and_self,
    if_true, ofLocal?, shifted, plain.within, bind, Option.bind]

/-! ## The profile of the Internet -/

/-- The fields of a date with four digits of the year. -/
theorem dateText_eq {date : Date} (plain : date.HasPlainYear) :
    dateText date = padded 4 date.year.natAbs ++
      '-' :: (padded 2 date.month ++ '-' :: padded 2 date.day) := by
  have small : ¬ date.year < 0 ∧ ¬ 9999 < date.year :=
    ⟨Int.not_lt.mpr plain.1, Int.not_lt.mpr plain.2⟩
  rw [dateText, yearText, if_neg small.1, if_neg small.2, List.append_assoc, List.cons_append]

/-- The fields of a time. -/
theorem timeText_eq (time : TimeOfDay) :
    timeText time = padded 2 time.hour ++ ':' :: (padded 2 time.minute ++
      ':' :: (padded 2 time.writtenSecond ++ fractionText time.writtenNanosecond)) := by
  rw [timeText]
  simp [TimeOfDay.writtenSecond, TimeOfDay.writtenNanosecond]

/-- A text with which no fraction goes on. -/
structure EndsFraction (rest : List Char) : Prop where
  digits : EndsDigits rest
  point : rest.head? ≠ some '.'

/-- Date and time are read, then an offset. -/
theorem readInternet_append {date : Date} (plain : date.HasPlainYear) (time : TimeOfDay)
    {rest : List Char} (ends : EndsFraction rest) :
    readInternet (dateText date ++ 'T' :: (timeText time ++ rest)) = (do
      let (offset, text) ← takeOffset rest
      if text.isEmpty then
        ofShown? date.year date.month date.day time.hour time.minute time.writtenSecond
          time.writtenNanosecond offset
      else none) := by
  have month := date.month_bounds
  have day := date.day_lt
  have hour := time.hour_lt
  have minute := time.minute_lt
  have second := time.writtenSecond_lt
  have takesYear (text : List Char) : takeNumber 4 4 (padded 4 date.year.natAbs ++ text) =
      some (date.year.natAbs, text) := by
    obtain ⟨lower, upper⟩ := plain
    exact takeNumber_padded (by decide) (by decide) (by omega) text
  have fraction := takeOptionalFraction_text time.writtenNanosecond_lt ends.digits ends.point
  have year : (date.year.natAbs : Int) = date.year := Int.natAbs_of_nonneg plain.1
  rw [dateText_eq plain, timeText_eq]
  simp only [List.append_assoc, List.cons_append]
  refine (bind_eq_of_some (takesYear _)).trans ?_
  refine (bind_eq_of_some (dropCharacter_cons _ _)).trans ?_
  refine (bind_eq_of_some (takeNumber_two (by omega) _)).trans ?_
  refine (bind_eq_of_some (dropCharacter_cons _ _)).trans ?_
  refine (bind_eq_of_some (takeNumber_two (by omega) _)).trans ?_
  refine (bind_eq_of_some Option.some_or).trans ?_
  refine (bind_eq_of_some (takeNumber_two (by omega) _)).trans ?_
  refine (bind_eq_of_some (dropCharacter_cons _ _)).trans ?_
  refine (bind_eq_of_some (takeNumber_two (by omega) _)).trans ?_
  refine (bind_eq_of_some (dropCharacter_cons _ _)).trans ?_
  refine (bind_eq_of_some (takeNumber_two (by omega) _)).trans ?_
  refine (bind_eq_of_some fraction).trans ?_
  rw [← year]
  rfl

/-- A fraction ends where the text ends. -/
theorem EndsFraction.nil : EndsFraction [] :=
  ⟨nofun, nofun⟩

/-- A fraction ends in front of a character that is neither a digit nor a point. -/
theorem EndsFraction.cons {first : Char} (noDigit : isDigit first = false)
    (noPoint : first ≠ '.') (rest : List Char) : EndsFraction (first :: rest) :=
  ⟨.cons noDigit rest, fun begins => noPoint (Option.some.inj begins)⟩

/-- A fraction ends in front of every offset. -/
theorem IsOffset.endsFraction {offset : Int} {text : List Char} (written : IsOffset offset text) :
    EndsFraction text := by
  cases written <;> exact .cons (by decide) (by decide) _

/-- What clocks show is read with their offset as the point in time at which they show it. -/
theorem Shows.readInternet_eq {shown timestamp : Timestamp} {offset : Int}
    (shows : Shows shown offset timestamp) (shownPlain : shown.date.HasPlainYear)
    (plain : timestamp.date.HasPlainYear) {offsetForm : List Char}
    (written : IsOffset offset offsetForm) :
    readInternet (dateText shown.date ++ 'T' :: (timeText shown.time ++ offsetForm)) =
      some timestamp := by
  rw [readInternet_append shownPlain shown.time written.endsFraction, written.takeOffset_eq]
  exact shows.ofShown?_eq written.bounds shownPlain plain

/-! ## Universal time without an offset -/

/-- A text without an offset is not of the profile of the Internet. -/
theorem readInternet_universal {date : Date} (plain : date.HasPlainYear) (time : TimeOfDay) :
    readInternet (dateText date ++ 'T' :: timeText time) = none := by
  have read := readInternet_append plain time .nil
  rwa [List.append_nil] at read

/-- A date and a time are read without an offset. -/
theorem readUniversal_text {timestamp : Timestamp} (plain : timestamp.date.HasPlainYear) :
    readUniversal (dateText timestamp.date ++ 'T' :: timeText timestamp.time) =
      some timestamp := by
  obtain ⟨date, time⟩ := timestamp
  have month := date.month_bounds
  have day := date.day_lt
  have hour := time.hour_lt
  have minute := time.minute_lt
  have second := time.writtenSecond_lt
  have takes {value : Nat} (fits : value < 100) (text : List Char) :
      takeNumber 1 2 (trimLeft (padded 2 value ++ text)) = some (value, text) := by
    rw [trimLeft_padded]
    exact takeNumber_padded (by decide) (by decide) fits text
  have takesYear (text : List Char) :
      takeYear (trimLeft (padded 4 date.year.natAbs ++ text)) = some (date.year, text) := by
    obtain ⟨lower, upper⟩ := plain
    rw [trimLeft_padded]
    exact takeYear_padded lower (by omega) text
  have fraction := takeOptionalFraction_text time.writtenNanosecond_lt
    EndsFraction.nil.digits EndsFraction.nil.point
  rw [List.append_nil] at fraction
  rw [dateText_eq plain, timeText_eq]
  simp only [List.append_assoc, List.cons_append]
  refine (bind_eq_of_some (takesYear _)).trans ?_
  refine (bind_eq_of_some (dropCharacter_cons _ _)).trans ?_
  refine (bind_eq_of_some (takes (by omega) _)).trans ?_
  refine (bind_eq_of_some (dropCharacter_cons _ _)).trans ?_
  refine (bind_eq_of_some (takes (by omega) _)).trans ?_
  refine (bind_eq_of_some (dropCharacter_cons _ _)).trans ?_
  refine (bind_eq_of_some (takes (by omega) _)).trans ?_
  refine (bind_eq_of_some (dropCharacter_cons _ _)).trans ?_
  refine (bind_eq_of_some (takes (by omega) _)).trans ?_
  refine (bind_eq_of_some (dropCharacter_cons _ _)).trans ?_
  refine (bind_eq_of_some (takes (by omega) _)).trans ?_
  refine (bind_eq_of_some fraction).trans ?_
  exact (Shows.universal ⟨date, time⟩).ofShown?_eq (by decide) plain plain

end Timestamp

end Statute
