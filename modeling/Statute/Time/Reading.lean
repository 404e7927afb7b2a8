import Statute.Text.Blank
import Statute.Time.Timestamp

/-!
# Reading timestamps

A timestamp is read in one of three notations, tried in this order: the profile of RFC 3339 with
an offset, the dates of mail and of HTTP headers after RFC 2822, and a date and time without
offset, which is taken as universal time.
-/

namespace Statute.Timestamp

open Number Text Time

/-- A number of `least` to `most` digits at the beginning of a text. -/
def takeNumber (least most : Nat) (text : List Char) : Option (Nat × List Char) :=
  let digits := (text.take most).takeWhile isDigit
  if digits.length < least then none else some (ofDigits digits, text.drop digits.length)

/-- What follows a character that must begin the text. -/
def dropCharacter (wanted : Char) : List Char → Option (List Char)
  | first :: rest => if first = wanted then some rest else none
  | [] => none

/-- What follows the blanks that must begin the text. -/
def dropBlanks (text : List Char) : Option (List Char) :=
  match text with
  | first :: _ => if isBlank first then some (trimLeft text) else none
  | [] => none

/-- The fraction of a second behind its point, in nanoseconds. Digits after the ninth count for
nothing. -/
def takeFraction (text : List Char) : Option (Nat × List Char) :=
  match takeNumber 1 9 text with
  | some (value, rest) =>
    some (value * Nat.pow 10 (9 - (text.length - rest.length)), rest.dropWhile isDigit)
  | none => none

/-- A fraction of a second when a point begins the text. -/
def takeOptionalFraction (text : List Char) : Option (Nat × List Char) :=
  match text with
  | '.' :: rest => takeFraction rest
  | _ => some (0, text)

/-- Two digits of hours, what `separator` passes over, and two digits of minutes, in minutes. -/
def takeHoursAndMinutes (separator : List Char → Option (List Char)) (text : List Char) :
    Option (Int × List Char) := do
  let (hours, text) ← takeNumber 2 2 text
  let text ← separator text
  let (minutes, text) ← takeNumber 2 2 text
  if minutes < 60 then return (60 * hours + minutes, text) else none

/-- Minutes that local time is ahead of universal time: `Z`, or a sign with hours and minutes. The
mathematical minus sign counts as a minus sign. -/
def takeOffset (text : List Char) : Option (Int × List Char) :=
  match text with
  | [] => none
  | sign :: rest =>
    if sign = 'Z' ∨ sign = 'z' then some (0, rest)
    else if sign = '+' then takeHoursAndMinutes (dropCharacter ':') rest
    else if sign = '-' ∨ sign = '\u2212' then
      (takeHoursAndMinutes (dropCharacter ':') rest).map fun (minutes, text) => (-minutes, text)
    else none

/-- The point in time that clocks with an offset of less than a day show. -/
def ofShown? (year : Int) (month day hour minute second nanosecond : Nat) (offset : Int) :
    Option Timestamp := do
  let date ← Date.ofParts? year month day
  let time ← TimeOfDay.ofParts? hour minute second nanosecond
  if -1440 < offset ∧ offset < 1440 then ofLocal? date time offset else none

/-- Reads a date, `T` or a blank, a time and an offset. -/
def readInternet (text : List Char) : Option Timestamp := do
  let (year, text) ← takeNumber 4 4 text
  let text ← dropCharacter '-' text
  let (month, text) ← takeNumber 2 2 text
  let text ← dropCharacter '-' text
  let (day, text) ← takeNumber 2 2 text
  let text ← (dropCharacter 'T' text).or ((dropCharacter 't' text).or (dropCharacter ' ' text))
  let (hour, text) ← takeNumber 2 2 text
  let text ← dropCharacter ':' text
  let (minute, text) ← takeNumber 2 2 text
  let text ← dropCharacter ':' text
  let (second, text) ← takeNumber 2 2 text
  let (nanosecond, text) ← takeOptionalFraction text
  let (offset, text) ← takeOffset text
  if text.isEmpty then ofShown? year month day hour minute second nanosecond offset else none

/-- A letter in lower case; anything but an ASCII capital stays as it is. -/
def lowerLetter (character : Char) : Char :=
  if 'A' ≤ character ∧ character ≤ 'Z' then Char.ofNat (character.toNat + 32) else character

/-- The first three characters name one of the entries, in capitals or not. -/
def takeName {α : Type} (names : List (String × α)) (text : List Char) :
    Option (α × List Char) :=
  (names.lookup (String.ofList ((text.take 3).map lowerLetter))).map (·, text.drop 3)

/-- The short names of the days of the week. -/
def weekdayNames : List (String × Weekday) :=
  [("mon", .monday), ("tue", .tuesday), ("wed", .wednesday), ("thu", .thursday),
    ("fri", .friday), ("sat", .saturday), ("sun", .sunday)]

/-- The short names of the months. -/
def monthNames : List (String × Nat) :=
  [("jan", 1), ("feb", 2), ("mar", 3), ("apr", 4), ("may", 5), ("jun", 6), ("jul", 7),
    ("aug", 8), ("sep", 9), ("oct", 10), ("nov", 11), ("dec", 12)]

/-- Time zones that mail knows by name, in hours ahead of universal time. -/
def zoneNames : List (String × Int) :=
  [("gmt", 0), ("ut", 0), ("z", 0), ("edt", -4), ("est", -5), ("cdt", -5), ("cst", -6),
    ("mdt", -6), ("mst", -7), ("pdt", -7), ("pst", -8)]

/-- ASCII letters. -/
def isLetter (character : Char) : Bool :=
  ('a' ≤ character && character ≤ 'z') || ('A' ≤ character && character ≤ 'Z')

/-- Minutes that local time is ahead of universal time: a named zone, a single letter other than
`J` for no offset, or a sign with hours and minutes. -/
def takeZone (text : List Char) : Option (Int × List Char) :=
  match text.takeWhile isLetter with
  | [] =>
    match text with
    | '+' :: rest => takeHoursAndMinutes some rest
    | '-' :: rest =>
      (takeHoursAndMinutes some rest).map fun (minutes, text) => (-minutes, text)
    | _ => none
  | name =>
    let rest := text.dropWhile isLetter
    match zoneNames.lookup (String.ofList (name.map lowerLetter)), name with
    | some hours, _ => some (60 * hours, rest)
    | none, [letter] => if lowerLetter letter = 'j' then none else some (0, rest)
    | none, _ => none

/-- What follows a comment, from behind its opening parenthesis and `depth` levels deep. A
backslash takes the next character with it. -/
def dropComment : (depth : Nat) → List Char → Option (List Char)
  | _, [] => none
  | depth, '\\' :: rest =>
    match rest with
    | [] => none
    | _ :: after => dropComment depth after
  | depth, '(' :: rest => dropComment (depth + 1) rest
  | 0, ')' :: rest => some rest
  | depth + 1, ')' :: rest => dropComment depth rest
  | depth, _ :: rest => dropComment depth rest

/-- Nothing but comments, with blanks before each. There are at most as many as characters. -/
def onlyComments : (bound : Nat) → List Char → Bool
  | 0, text => text.isEmpty
  | bound + 1, text =>
    text.isEmpty ||
      match trimLeft text with
      | '(' :: rest =>
        match dropComment 0 rest with
        | some after => onlyComments bound after
        | none => false
      | _ => false

/-- The year that its digits stand for: two digits are years from 1950 to 2049, three digits count
from 1900. -/
def mailYear (digits value : Nat) : Nat :=
  if digits = 2 then if value < 50 then value + 2000 else value + 1900
  else if digits = 3 then value + 1900
  else value

/-- The day of the week with its comma, when the text begins with one. -/
def takeWeekday (text : List Char) : Option (Option Weekday × List Char) :=
  match takeName weekdayNames text with
  | some (weekday, ',' :: rest) => some (some weekday, rest)
  | some _ => none
  | none => some (none, text)

/-- Seconds behind a colon, when there is a colon. -/
def takeOptionalSecond (text : List Char) : Option (Nat × List Char) :=
  match trimLeft text with
  | ':' :: rest => takeNumber 2 2 rest
  | _ => some (0, text)

/-- Reads a weekday, a date with the name of its month, a time and a zone. A weekday that is not
that of the date is refused. -/
def readMail (text : List Char) : Option Timestamp := do
  let (weekday, text) ← takeWeekday (trimLeft text)
  let (day, text) ← takeNumber 1 2 (trimLeft text)
  let text ← dropBlanks text
  let (month, text) ← takeName monthNames text
  let text ← dropBlanks text
  let (year, rest) ← takeNumber 2 text.length text
  let year := mailYear (text.length - rest.length) year
  let text ← dropBlanks rest
  let (hour, text) ← takeNumber 2 2 text
  let text ← dropCharacter ':' (trimLeft text)
  let (minute, text) ← takeNumber 2 2 (trimLeft text)
  let (second, text) ← takeOptionalSecond text
  let text ← dropBlanks text
  let (offset, text) ← takeZone text
  let date ← Date.ofParts? year month day
  if (weekday.all (· = date.weekday)) && onlyComments text.length text then
    ofShown? year month day hour minute second 0 offset
  else none

/-- A year with a sign and any number of digits, or without sign and up to four digits. -/
def takeYear (text : List Char) : Option (Int × List Char) :=
  match text with
  | '-' :: rest => (takeNumber 1 rest.length rest).map fun (year, text) => (-(year : Int), text)
  | '+' :: rest => (takeNumber 1 rest.length rest).map fun (year, text) => ((year : Int), text)
  | _ => (takeNumber 1 4 text).map fun (year, text) => ((year : Int), text)

/-- Reads a date, `T` and a time without offset. Blanks may stand before each number. -/
def readUniversal (text : List Char) : Option Timestamp := do
  let (year, text) ← takeYear (trimLeft text)
  let text ← dropCharacter '-' text
  let (month, text) ← takeNumber 1 2 (trimLeft text)
  let text ← dropCharacter '-' text
  let (day, text) ← takeNumber 1 2 (trimLeft text)
  let text ← dropCharacter 'T' text
  let (hour, text) ← takeNumber 1 2 (trimLeft text)
  let text ← dropCharacter ':' text
  let (minute, text) ← takeNumber 1 2 (trimLeft text)
  let text ← dropCharacter ':' text
  let (second, text) ← takeNumber 1 2 (trimLeft text)
  let (nanosecond, text) ← takeOptionalFraction text
  if text.isEmpty then ofShown? year month day hour minute second nanosecond 0 else none

/-- The point in time that a text names, in the first notation that fits. -/
def parse (text : String) : Option Timestamp :=
  let characters := trim text.toList
  (readInternet characters).or ((readMail characters).or (readUniversal characters))

end Statute.Timestamp
