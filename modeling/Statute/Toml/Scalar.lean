import Statute.Number.Integer
import Statute.Text.Search
import Statute.Time.Date
import Statute.Toml.Value
import Statute.Web.Percent

/-!
# TOML numbers and points in time

Scalars without quotes: truth values, whole numbers in four bases, floating-point numbers, dates
and times of the day. Underscores may stand between the digits of a number.
-/

namespace Statute.Toml

open Statute.Number Statute.Text

/-- Digits of a base with single underscores between them, without the underscores. -/
def digitsOf? (base : Nat) (text : List Char) : Option (List Char) :=
  let groups := splitAt '_' text
  let isDigitOf (character : Char) : Bool := (Web.hexValue? character).any (· < base)
  if groups.all fun group => !group.isEmpty && group.all isDigitOf then
    some (text.filter (· ≠ '_'))
  else none

/-- The value of digits of a base. -/
def valueOf (base : Nat) (digits : List Char) : Nat :=
  digits.foldl (fun value digit => base * value + (Web.hexValue? digit).getD 0) 0

/-- Decimal digits without a leading zero, other than a zero alone. -/
def wholeDigits? (text : List Char) : Option (List Char) := do
  let digits ← digitsOf? 10 text
  if digits.head? = some '0' && 1 < digits.length then none else return digits

/-- A sign and what follows it. -/
def splitSign : List Char → Bool × List Char
  | '-' :: rest => (true, rest)
  | '+' :: rest => (false, rest)
  | text => (false, text)

/-- A whole number of sixty-four bits. -/
def integer? (text : List Char) : Option Int := do
  let value : Int ← match text with
    | '0' :: 'x' :: digits => (digitsOf? 16 digits).map fun digits => Int.ofNat (valueOf 16 digits)
    | '0' :: 'o' :: digits => (digitsOf? 8 digits).map fun digits => Int.ofNat (valueOf 8 digits)
    | '0' :: 'b' :: digits => (digitsOf? 2 digits).map fun digits => Int.ofNat (valueOf 2 digits)
    | _ =>
      let (negative, digits) := splitSign text
      (wholeDigits? digits).map fun digits =>
        let value := Int.ofNat (valueOf 10 digits)
        if negative then -value else value
  if (int64? value).isSome then return value else none

/-- A decimal number is too large for a double when it is not below the middle between the largest
double and the next power of two. -/
def exceedsDouble (digits : List Char) (exponent : Int) : Bool :=
  let significant := digits.dropWhile (· = '0')
  let magnitude := Int.ofNat significant.length + exponent
  if significant.isEmpty || magnitude < 300 then false
  else if 320 < magnitude then true
  else
    let value := ofDigits significant
    let limit := Nat.pow 2 1024 - Nat.pow 2 970
    if 0 ≤ exponent then decide (limit ≤ value * Nat.pow 10 exponent.toNat)
    else decide (limit * Nat.pow 10 (-exponent).toNat ≤ value)

/-- The exponent after its letter: a sign or not and digits. -/
def exponent? (text : List Char) : Option Int := do
  let (negative, digits) := splitSign text
  let value := Int.ofNat (ofDigits (← digitsOf? 10 digits))
  return if negative then -value else value

/-- The exponent part is separated from the digits by one of these letters. -/
def isExponentMark (character : Char) : Bool :=
  character = 'e' || character = 'E'

/-- A floating-point number: infinity, no number, or digits with a fraction, an exponent or both. A
positive number that is too large is refused. -/
def isFloat (text : List Char) : Bool :=
  let (negative, unsigned) := splitSign text
  if unsigned = ['i', 'n', 'f'] || unsigned = ['n', 'a', 'n'] then true
  else
    let front := unsigned.takeWhile (!isExponentMark ·)
    let read? : Option (List Char × Int) := do
      let exponent ← match unsigned.drop front.length with
        | [] => some 0
        | _ :: digits => exponent? digits
      match splitFirst ['.'] front with
      | some (whole, fraction) =>
        let fraction ← digitsOf? 10 fraction
        return ((← wholeDigits? whole) ++ fraction, exponent - Int.ofNat fraction.length)
      | none =>
        if front.length = unsigned.length then none
        else return (← wholeDigits? front, exponent)
    match read? with
    | some (digits, exponent) => negative || !exceedsDouble digits exponent
    | none => false

/-- A number of exactly so many digits. -/
def fixedNumber? (digits : Nat) (text : List Char) : Option Nat :=
  if text.length = digits then natural? text else none

/-- A date: year, month and day. -/
def isDate (text : List Char) : Bool :=
  match splitAt '-' text with
  | [year, month, day] =>
    match fixedNumber? 4 year, fixedNumber? 2 month, fixedNumber? 2 day with
    | some year, some month, some day =>
      (Time.Date.ofParts? (Int.ofNat year) month day).isSome
    | _, _, _ => false
  | _ => false

/-- Digits after a full stop, or nothing. -/
def isOptionalFraction : List Char → Bool
  | [] => true
  | '.' :: digits => (natural? digits).isSome
  | _ => false

/-- A time of the day: hour, minute and second, which can be a leap second, with a fraction or
not. -/
def isTime (text : List Char) : Bool :=
  match splitAt ':' text with
  | [hour, minute, second] =>
    (fixedNumber? 2 hour).any (· < 24) && (fixedNumber? 2 minute).any (· < 60) &&
      (fixedNumber? 2 (second.take 2)).any (· ≤ 60) && isOptionalFraction (second.drop 2)
  | _ => false

/-- A distance from universal time: hours and minutes. -/
def isOffset (text : List Char) : Bool :=
  match splitAt ':' text with
  | [hour, minute] => (fixedNumber? 2 hour).any (· < 24) && (fixedNumber? 2 minute).any (· < 60)
  | _ => false

/-- A time of the day with its distance from universal time or without. -/
def isTimeWithOffset (text : List Char) : Bool :=
  let isTimeCharacter (character : Char) : Bool :=
    isDigit character || character = ':' || character = '.'
  let time := text.takeWhile isTimeCharacter
  isTime time &&
    match text.drop time.length with
    | [] => true
    | [letter] => letter = 'Z' || letter = 'z'
    | sign :: offset => (sign = '+' || sign = '-') && isOffset offset

/-- A point in time: a time of the day, a date, or a date with a time after `T` or a space. -/
def isMoment (text : List Char) : Bool :=
  let date := text.take 10
  isTime text ||
    isDate date &&
      match text.drop 10 with
      | [] => true
      | separator :: time =>
        (separator = 'T' || separator = 't' || separator = ' ') && isTimeWithOffset time

/-- Characters of scalars without quotes. -/
def isScalarCharacter (character : Char) : Bool :=
  character.isAlphanum || character = '+' || character = '-' || character = '_' ||
    character = '.' || character = ':'

/-- The value of a scalar without quotes. -/
def scalar? (text : List Char) : Option Value :=
  if text = ['t', 'r', 'u', 'e'] then some (.boolean true)
  else if text = ['f', 'a', 'l', 's', 'e'] then some (.boolean false)
  else
    match integer? text with
    | some value => some (.integer value)
    | none =>
      if isFloat text then some (.float (String.ofList text))
      else if isMoment text then some (.moment (String.ofList text))
      else none

/-- A scalar without quotes at the beginning of a text, and what follows it. After a date a space
and a digit begin its time. -/
def readScalar (text : List Char) : Option (Value × List Char) :=
  let first := text.takeWhile isScalarCharacter
  let rest := text.drop first.length
  let whole :=
    match isDate first, rest with
    | true, ' ' :: next :: _ =>
      if isDigit next then first ++ ' ' :: (rest.drop 1).takeWhile isScalarCharacter else first
    | _, _ => first
  (scalar? whole).map fun value => (value, text.drop whole.length)

end Statute.Toml
