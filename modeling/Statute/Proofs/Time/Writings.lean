import Statute.Proofs.Time.Instants

/-!
# The written forms of a timestamp

A point in time with a year of four digits may be written with the offset of any clock, as mail and
web servers write it, or without an offset. Each of these texts is left alone by the readers that
are tried before the one that it is meant for, and all of them are read as the point in time, also
with blanks around them.
-/

namespace Statute.Timestamp

open Number Text Time

/-! ## The dates of mail -/

/-- The short name of a day of the week, as mail writes it. -/
def mailWeekday : Weekday → String
  | .monday => "Mon"
  | .tuesday => "Tue"
  | .wednesday => "Wed"
  | .thursday => "Thu"
  | .friday => "Fri"
  | .saturday => "Sat"
  | .sunday => "Sun"

/-- The short name of a month, as mail writes it. -/
def mailMonth : Nat → String
  | 1 => "Jan"
  | 2 => "Feb"
  | 3 => "Mar"
  | 4 => "Apr"
  | 5 => "May"
  | 6 => "Jun"
  | 7 => "Jul"
  | 8 => "Aug"
  | 9 => "Sep"
  | 10 => "Oct"
  | 11 => "Nov"
  | _ => "Dec"

/-- A name of three letters is found in capitals or not. -/
theorem takeName_append {α : Type} {names : List (String × α)} {name : String} {value : α}
    (letters : name.toList.length = 3)
    (found : names.lookup (String.ofList (name.toList.map lowerLetter)) = some value)
    (rest : List Char) : takeName names (name.toList ++ rest) = some (value, rest) := by
  rw [takeName, List.take_left' letters, List.drop_left' letters, found]
  rfl

/-- A weekday is taken by its short name. -/
theorem takeName_weekday (weekday : Weekday) (rest : List Char) :
    takeName weekdayNames ((mailWeekday weekday).toList ++ rest) = some (weekday, rest) := by
  cases weekday <;> exact takeName_append (by decide) (by decide) rest

/-- A month is taken by its short name. -/
theorem takeName_month {month : Nat} (bounds : 1 ≤ month ∧ month ≤ 12) (rest : List Char) :
    takeName monthNames ((mailMonth month).toList ++ rest) = some (month, rest) := by
  have table : ∀ month < 13, 1 ≤ month → (mailMonth month).toList.length = 3 ∧
      monthNames.lookup (String.ofList ((mailMonth month).toList.map lowerLetter)) =
        some month := by decide +kernel
  obtain ⟨letters, found⟩ := table month (by omega) bounds.1
  exact takeName_append letters found rest

/-- No weekday has a name that begins with a digit. -/
theorem takeName_weekday_eq_none {first : Char} (digit : isDigit first = true)
    (rest : List Char) : takeName weekdayNames (first :: rest) = none := by
  have unchanged : lowerLetter first = first := by
    simp only [isDigit, Bool.and_eq_true, decide_eq_true_eq] at digit
    exact if_neg fun capital => absurd (Char.le_trans capital.1 digit.2) (by decide)
  have letters : ∀ entry ∈ weekdayNames, entry.1.toList.head?.any isDigit = false := by decide
  have unknown : weekdayNames.lookup
      (String.ofList (((first :: rest).take 3).map lowerLetter)) = none := by
    refine List.lookup_eq_none_iff.mpr fun entry member => ?_
    refine bne_iff_ne.mpr fun same => ?_
    have begins : entry.1.toList.head? = some first := by
      rw [← same, String.toList_ofList, List.take_succ_cons, List.map_cons, unchanged]
      rfl
    have letter := letters entry member
    rw [begins, Option.any_some, digit] at letter
    exact Bool.false_ne_true letter.symm
  rw [takeName, unknown]
  rfl

/-- A text that begins with more than two digits is no date of mail. -/
theorem readMail_digits {first second third : Char}
    (digits : AllDigits [first, second, third]) (rest : List Char) :
    readMail (first :: second :: third :: rest) = none := by
  have more := isBlank_of_isDigit (digits third (by simp))
  have front : AllDigits [first, second] :=
    fun character member => digits character (List.mem_append_left [third] member)
  have trims : trimLeft (first :: second :: third :: rest) = first :: second :: third :: rest :=
    trimLeft_eq_self (not_isBlank_head_digits digits (by simp) rest)
  have noWeekday : takeWeekday (first :: second :: third :: rest) =
      some (none, first :: second :: third :: rest) := by
    rw [takeWeekday, takeName_weekday_eq_none (digits first (by simp))]
  have takesDay : takeNumber 1 2 (first :: second :: third :: rest) =
      some (ofDigits [first, second], third :: rest) :=
    takeNumber_append front (Nat.le_succ 1) (.inl rfl)
  have noBlank : dropBlanks (third :: rest) = none := by
    rw [dropBlanks, more]
    rfl
  rw [readMail, trims]
  refine (bind_eq_of_some noWeekday).trans ?_
  refine (bind_eq_of_some ((congrArg _ trims).trans takesDay)).trans ?_
  exact bind_eq_none_of_eq_none noBlank

/-- A blank is passed over when there is only one. -/
theorem dropBlanks_cons {rest : List Char}
    (begins : ∀ character ∈ rest.head?, isBlank character = false) :
    dropBlanks (' ' :: rest) = some rest :=
  congrArg some (trimLeft_eq_self begins)

/-- One or two digits that stand for a day of the month. -/
structure NamesDay (day : Nat) (digits : List Char) : Prop where
  all : AllDigits digits
  nonempty : 1 ≤ digits.length
  length_le : digits.length ≤ 2
  value : ofDigits digits = day

/-- Two digits are enough for every day. -/
theorem namesDay_padded (date : Date) : NamesDay date.day (padded 2 date.day) := by
  have bound := date.day_lt
  have length : (padded 2 date.day).length = 2 := length_padded (by decide) (by omega)
  exact ⟨allDigits_padded 2 date.day, by omega, Nat.le_of_eq length, ofDigits_padded 2 date.day⟩

/-- The written form of a point in time in mail and on the web: a weekday, the date with the name of
its month, and the time in universal time. -/
def mailText (dayDigits : List Char) (timestamp : Timestamp) : List Char :=
  (mailWeekday timestamp.date.weekday).toList ++ ',' :: ' ' ::
    (dayDigits ++ ' ' :: ((mailMonth timestamp.date.month).toList ++ ' ' ::
      (padded 4 timestamp.date.year.natAbs ++ ' ' :: (padded 2 timestamp.time.hour ++ ':' ::
        (padded 2 timestamp.time.minute ++ ':' :: (padded 2 timestamp.time.writtenSecond ++
          [' ', 'G', 'M', 'T']))))))

/-- The name of a weekday begins with a letter. -/
theorem mailWeekday_begins (weekday : Weekday) :
    ∃ first others, (mailWeekday weekday).toList = first :: others ∧ isDigit first = false ∧
      isBlank first = false := by
  cases weekday <;> exact ⟨_, _, rfl, by decide, by decide⟩

/-- No blanks stand in front of a date of a mail. -/
theorem trimLeft_mailText (dayDigits : List Char) (timestamp : Timestamp) :
    trimLeft (mailText dayDigits timestamp) = mailText dayDigits timestamp := by
  obtain ⟨first, others, shape, -, letter⟩ := mailWeekday_begins timestamp.date.weekday
  rw [mailText, shape]
  exact trimLeft_eq_self fun _ begins => Option.some.inj begins ▸ letter

/-- A text that begins with a weekday is not of the profile of the Internet. -/
theorem readInternet_mailText (dayDigits : List Char) (timestamp : Timestamp) :
    readInternet (mailText dayDigits timestamp) = none := by
  obtain ⟨first, others, shape, noDigit, -⟩ := mailWeekday_begins timestamp.date.weekday
  rw [mailText, shape, List.cons_append, readInternet, takeNumber_eq_none (by decide) noDigit]
  rfl

/-- The short name of a month does not begin with a blank. -/
theorem mailMonth_begins (month : Nat) (rest : List Char) :
    ∀ character ∈ ((mailMonth month).toList ++ rest).head?, isBlank character = false := by
  intro character begins
  unfold mailMonth at begins
  split at begins <;> exact Option.some.inj begins ▸ by decide

/-- The weekday in front of a date is taken with its comma. -/
theorem takeWeekday_mailWeekday (weekday : Weekday) (rest : List Char) :
    takeWeekday ((mailWeekday weekday).toList ++ ',' :: rest) = some (some weekday, rest) := by
  rw [takeWeekday, takeName_weekday]
  rfl

/-- The digits of a year are taken as far as they go, and four of them are the year itself. -/
theorem takeNumber_mailYear {year : Nat} (fits : year < 10000) {text rest : List Char}
    (shape : text = padded 4 year ++ ' ' :: rest) :
    takeNumber 2 text.length text = some (year, ' ' :: rest) ∧
      mailYear (text.length - (' ' :: rest).length) year = year := by
  have length : (padded 4 year).length = 4 := length_padded (by decide) fits
  rw [shape, List.length_append, length]
  refine ⟨?_, ?_⟩
  · rw [takeNumber_append (allDigits_padded 4 year) (by omega)
      (.inr ⟨by omega, .cons rfl rest⟩), ofDigits_padded]
  · rw [Nat.add_sub_cancel]
    rfl

/-- A date of mail is read, a leap second included. There are no fractions of a second in it. -/
theorem readMail_mailText {timestamp : Timestamp} (plain : timestamp.date.HasPlainYear)
    (whole : timestamp.time.writtenNanosecond = 0) {dayDigits : List Char}
    (day : NamesDay timestamp.date.day dayDigits) :
    readMail (mailText dayDigits timestamp) = some timestamp := by
  have hour := timestamp.time.hour_lt
  have minute := timestamp.time.minute_lt
  have second := timestamp.time.writtenSecond_lt
  have nonnegative : 0 ≤ timestamp.date.year := plain.1
  have fits : timestamp.date.year ≤ 9999 := plain.2
  have year : (timestamp.date.year.natAbs : Int) = timestamp.date.year :=
    Int.natAbs_of_nonneg nonnegative
  have dayBegins := not_isBlank_head_digits day.all (List.ne_nil_of_length_pos day.nonempty)
  have trimsDay (text : List Char) : trimLeft (' ' :: (dayDigits ++ text)) = dayDigits ++ text :=
    trimLeft_eq_self (dayBegins text)
  have takesDay (text : List Char) : takeNumber 1 2 (trimLeft (' ' :: (dayDigits ++ ' ' :: text))) =
      some (timestamp.date.day, ' ' :: text) := by
    rw [trimsDay, takeNumber_append day.all day.nonempty (.inr ⟨day.length_le, .cons rfl text⟩),
      day.value]
  have takesYear (text : List Char) :=
    takeNumber_mailYear (show timestamp.date.year.natAbs < 10000 by omega)
      (Eq.refl (padded 4 timestamp.date.year.natAbs ++ ' ' :: text))
  have blank (width value : Nat) (text : List Char) :
      dropBlanks (' ' :: (padded width value ++ text)) = some (padded width value ++ text) :=
    dropBlanks_cons (not_isBlank_head_digits (allDigits_padded _ _) (padded_ne_nil _ _) text)
  have takesMinute {value : Nat} (fits : value < 100) (text : List Char) :
      takeNumber 2 2 (trimLeft (padded 2 value ++ text)) = some (value, text) := by
    rw [trimLeft_padded]
    exact takeNumber_two fits text
  have zone : dropBlanks [' ', 'G', 'M', 'T'] = some ['G', 'M', 'T'] ∧
      takeZone ['G', 'M', 'T'] = some (0, []) := by decide +kernel
  have allowed : ((some timestamp.date.weekday).all (· = timestamp.date.weekday) &&
      onlyComments 0 []) = true := by
    rw [Option.all_some, decide_eq_true rfl]
    rfl
  have shown := (Shows.universal timestamp).ofShown?_eq (by decide) plain plain
  rw [whole] at shown
  -- The reader goes through the text from left to right, one step for each part of it.
  rw [readMail, trimLeft_mailText, mailText]
  refine (bind_eq_of_some (takeWeekday_mailWeekday _ _)).trans ?_
  refine (bind_eq_of_some (takesDay _)).trans ?_
  refine (bind_eq_of_some (dropBlanks_cons (mailMonth_begins _ _))).trans ?_
  refine (bind_eq_of_some (takeName_month timestamp.date.month_bounds _)).trans ?_
  refine (bind_eq_of_some (blank _ _ _)).trans ?_
  refine (bind_eq_of_some (takesYear _).1).trans ?_
  dsimp only
  rw [(takesYear _).2, year]
  refine (bind_eq_of_some (blank _ _ _)).trans ?_
  refine (bind_eq_of_some (takeNumber_two (by omega) _)).trans ?_
  refine (bind_eq_of_some (dropCharacter_cons _ _)).trans ?_
  refine (bind_eq_of_some (takesMinute (by omega) _)).trans ?_
  refine (bind_eq_of_some (takeNumber_two (by omega) _)).trans ?_
  refine (bind_eq_of_some zone.1).trans ?_
  refine (bind_eq_of_some zone.2).trans ?_
  refine (bind_eq_of_some (Date.ofParts?_eq plain)).trans ?_
  exact (if_pos allowed).trans shown

/-! ## All written forms -/

/-- The written forms of a point in time: what clocks with an offset show and the offset, a date of
mail when there is no fraction of a second, and universal time without an offset. -/
inductive IsWriting (timestamp : Timestamp) : List Char → Prop where
  | internet {shown : Timestamp} {offset : Int} {offsetForm : List Char}
      (shows : Shows shown offset timestamp) (shownPlain : shown.date.HasPlainYear)
      (written : IsOffset offset offsetForm) :
      IsWriting timestamp
        (dateText shown.date ++ 'T' :: (timeText shown.time ++ offsetForm))
  | mail {dayDigits : List Char} (whole : timestamp.time.writtenNanosecond = 0)
      (day : NamesDay timestamp.date.day dayDigits) :
      IsWriting timestamp (mailText dayDigits timestamp)
  | universal : IsWriting timestamp (dateText timestamp.date ++ 'T' :: timeText timestamp.time)

/-- A date begins with three digits. -/
theorem dateText_begins {date : Date} (plain : date.HasPlainYear) (rest : List Char) :
    ∃ first second third others, dateText date ++ rest = first :: second :: third :: others ∧
      AllDigits [first, second, third] := by
  obtain ⟨lower, upper⟩ := plain
  have length : (padded 4 date.year.natAbs).length = 4 :=
    length_padded (by decide) (by omega)
  have digits := allDigits_padded 4 date.year.natAbs
  rw [dateText_eq ⟨lower, upper⟩]
  match shape : padded 4 date.year.natAbs with
  | [] | [_] | [_, _] =>
    rw [shape] at length
    exact nomatch length
  | first :: second :: third :: others =>
    rw [shape] at digits
    exact ⟨first, second, third, _, rfl,
      fun character member => digits character (List.mem_append_left others member)⟩

/-- The first reader that fits a written form is the one that it is meant for. -/
theorem IsWriting.read_eq {timestamp : Timestamp} {written : List Char}
    (writing : IsWriting timestamp written) (plain : timestamp.date.HasPlainYear) :
    (readInternet written).or ((readMail written).or (readUniversal written)) =
      some timestamp := by
  cases writing with
  | internet shows shownPlain written =>
    rw [shows.readInternet_eq shownPlain plain written, Option.some_or]
  | mail whole day =>
    rw [readInternet_mailText, readMail_mailText plain whole day, Option.none_or, Option.some_or]
  | universal =>
    obtain ⟨first, second, third, others, shape, digits⟩ :=
      dateText_begins plain ('T' :: timeText timestamp.time)
    rw [readInternet_universal plain, shape, readMail_digits digits, ← shape,
      readUniversal_text plain, Option.none_or, Option.none_or]

/-- No character of a text is blank. -/
def NoBlank (text : List Char) : Prop :=
  ∀ character ∈ text, isBlank character = false

/-- Two texts without blanks have none together. -/
theorem NoBlank.append {front rest : List Char} (first : NoBlank front) (second : NoBlank rest) :
    NoBlank (front ++ rest) :=
  List.forall_mem_append.mpr ⟨first, second⟩

/-- A text without blanks has none with another character that is not blank in front. -/
theorem NoBlank.cons {first : Char} {rest : List Char} (notBlank : isBlank first = false)
    (others : NoBlank rest) : NoBlank (first :: rest) :=
  List.forall_mem_cons.mpr ⟨notBlank, others⟩

/-- A padded number has no blanks. -/
theorem noBlank_padded (width value : Nat) : NoBlank (padded width value) :=
  fun character member => isBlank_of_isDigit (allDigits_padded width value character member)

/-- A date is written without blanks. -/
theorem noBlank_dateText {date : Date} (plain : date.HasPlainYear) : NoBlank (dateText date) := by
  rw [dateText_eq plain]
  exact (noBlank_padded _ _).append
    (.cons rfl ((noBlank_padded _ _).append (.cons rfl (noBlank_padded _ _))))

/-- A fraction of a second is written without blanks. -/
theorem noBlank_fractionText (nanosecond : Nat) : NoBlank (fractionText nanosecond) := by
  unfold fractionText
  split
  next => exact nofun
  next =>
    split
    next => exact .cons rfl (noBlank_padded _ _)
    next => split <;> exact .cons rfl (noBlank_padded _ _)

/-- A time is written without blanks. -/
theorem noBlank_timeText (time : TimeOfDay) : NoBlank (timeText time) := by
  rw [timeText_eq]
  exact (noBlank_padded _ _).append (.cons rfl ((noBlank_padded _ _).append
    (.cons rfl ((noBlank_padded _ _).append (noBlank_fractionText _)))))

/-- An offset is written without blanks. -/
theorem IsOffset.noBlank {offset : Int} {text : List Char} (written : IsOffset offset text) :
    NoBlank text := by
  have clock (minutes : Nat) : NoBlank (clockText minutes) :=
    (noBlank_padded _ _).append (.cons rfl (noBlank_padded _ _))
  cases written with
  | ahead => exact .cons rfl (clock _)
  | behind => exact .cons rfl (clock _)
  | zulu => exact .cons rfl nofun

/-- A written form has no blanks at its ends. -/
theorem IsWriting.trim_eq {timestamp : Timestamp} {written : List Char}
    (writing : IsWriting timestamp written) (plain : timestamp.date.HasPlainYear) :
    trim written = written := by
  cases writing with
  | internet shows shownPlain written =>
    exact trim_eq_self ((noBlank_dateText shownPlain).append
      (.cons rfl ((noBlank_timeText _).append written.noBlank)))
  | mail whole day =>
    obtain ⟨first, others, shape, -, letter⟩ := mailWeekday_begins timestamp.date.weekday
    refine trim_eq_self_of_ends ?_ ?_
    · rw [mailText, shape]
      exact fun _ begins => Option.some.inj begins ▸ letter
    · simp [mailText, List.getLast?_append, List.getLast?_cons]
      decide
  | universal =>
    exact trim_eq_self ((noBlank_dateText plain).append (.cons rfl (noBlank_timeText _)))

/-- A written form between blanks is read as the point in time. -/
theorem IsWriting.parse_eq {timestamp : Timestamp} {written left right : List Char}
    (writing : IsWriting timestamp written) (plain : timestamp.date.HasPlainYear)
    (leftBlank : AllBlank left) (rightBlank : AllBlank right) :
    parse (String.ofList (left ++ written ++ right)) = some timestamp := by
  rw [parse, String.toList_ofList, trim_append_right rightBlank, trim_append_left leftBlank,
    writing.trim_eq plain]
  exact writing.read_eq plain

/-- The form in which points in time are stored is one of the Internet. -/
theorem isWriting_text {timestamp : Timestamp} (plain : timestamp.date.HasPlainYear) :
    IsWriting timestamp timestamp.text.toList := by
  have noOffset : IsOffset 0 ['+', '0', '0', ':', '0', '0'] := .ahead (by decide)
  rw [text, String.toList_ofList, List.append_assoc]
  exact .internet (.universal timestamp) plain noOffset

/-- A stored point in time is read back. -/
theorem parse_text {timestamp : Timestamp} (plain : timestamp.date.HasPlainYear) :
    parse timestamp.text = some timestamp := by
  have blank : AllBlank [] := nofun
  have read := (isWriting_text plain).parse_eq plain blank blank
  rwa [List.nil_append, List.append_nil, String.ofList_toList] at read

/-- Points in time with a year of four digits are read back from the form in which they are stored,
fractions and leap seconds included. Clocks of every offset of less than a day show exactly one date
and time, which can be written with the offset. Whichever of its written forms is read, with blanks
around it or not, it is the same point in time. -/
theorem writings_agree {timestamp : Timestamp} (plain : timestamp.date.HasPlainYear) :
    parse timestamp.text = some timestamp ∧
      (∀ offset : Int, -1440 < offset ∧ offset < 1440 →
        (∃ offsetForm, IsOffset offset offsetForm) ∧ ∃! shown, Shows shown offset timestamp) ∧
      ∀ written left right, IsWriting timestamp written → AllBlank left → AllBlank right →
        parse (String.ofList (left ++ written ++ right)) = some timestamp := by
  refine ⟨parse_text plain, fun offset bounds => ?_, fun written left right writing => ?_⟩
  · exact ⟨exists_isOffset bounds, existsUnique_shows timestamp bounds⟩
  · exact writing.parse_eq plain

/-- The leap second at the end of 2016. -/
def exampleLeapSecond : Timestamp where
  date := ⟨2016, 12, 31, by decide, by decide⟩
  time := ⟨23, 59, 59, 1000000000, by decide, by decide, by decide, by decide⟩

/-- A leap second is the same point in time in four writings: the stored one, one with an offset and
blanks around it, that of a mail, and one without an offset. -/
theorem exampleLeapSecond_writings :
    exampleLeapSecond.date.HasPlainYear ∧ exampleLeapSecond.text = "2016-12-31T23:59:60+00:00" ∧
      parse exampleLeapSecond.text = some exampleLeapSecond ∧
      parse " 2017-01-01T08:59:60+09:00\n" = some exampleLeapSecond ∧
      parse "Sat, 31 Dec 2016 23:59:60 GMT" = some exampleLeapSecond ∧
      parse "2016-12-31T23:59:60" = some exampleLeapSecond := by
  have plain : exampleLeapSecond.date.HasPlainYear := by decide
  obtain ⟨stored, -, agree⟩ := writings_agree plain
  have read (text : String) (left written right : List Char)
      (writing : IsWriting exampleLeapSecond written)
      (shape : text.toList = left ++ written ++ right) (leftBlank : AllBlank left)
      (rightBlank : AllBlank right) : parse text = some exampleLeapSecond := by
    rw [← String.ofList_toList (s := text), shape]
    exact agree written left right writing leftBlank rightBlank
  have inJapan : Shows ⟨⟨2017, 1, 1, by decide, by decide⟩,
      ⟨8, 59, 59, 1000000000, by decide, by decide, by decide, by decide⟩⟩ 540
      exampleLeapSecond := ⟨by decide, rfl, rfl⟩
  have ahead : IsOffset 540 ['+', '0', '9', ':', '0', '0'] := .ahead (by decide)
  refine ⟨plain, by decide, stored, ?_, ?_, ?_⟩
  · exact read _ [' '] _ ['\n'] (.internet inJapan (by decide) ahead) (by decide) (by decide)
      (by decide)
  · exact read _ [] _ [] (.mail rfl (namesDay_padded _)) (by decide) (by decide) (by decide)
  · exact read _ [] _ [] .universal (by decide) (by decide) (by decide)

end Statute.Timestamp
