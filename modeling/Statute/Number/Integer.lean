/-!
# Integers and truth values in text

Decimal digits of whole numbers, the integers that sixty-four bits hold, and the two words for truth
values.
-/

namespace Statute.Number

/-- ASCII digits. -/
def isDigit (character : Char) : Bool :=
  '0' ≤ character && character ≤ '9'

/-- The value of a digit. -/
def digitValue (character : Char) : Nat :=
  character.toNat - '0'.toNat

/-- The number that decimal digits stand for. -/
def ofDigits (digits : List Char) : Nat :=
  digits.foldl (fun value digit => 10 * value + digitValue digit) 0

/-- The decimal digits of a number. -/
def toDigits (value : Nat) : List Char :=
  Nat.toDigits 10 value

/-- The number that a non-empty text of digits stands for. -/
def natural? (text : List Char) : Option Nat :=
  if text.isEmpty || !text.all isDigit then none else some (ofDigits text)

/-- The signed integer with this value, when sixty-four bits hold it. -/
def int64? (value : Int) : Option Int64 :=
  if Int64.minValue.toInt ≤ value ∧ value ≤ Int64.maxValue.toInt then some (Int64.ofInt value)
  else none

/-- The value, when it is not negative and so many bits hold it. -/
def unsigned? (bits : Nat) (value : Int) : Option Nat :=
  if 0 ≤ value ∧ value.toNat < Nat.pow 2 bits then some value.toNat else none

/-- The unsigned integer with this value, when sixty-four bits hold it. -/
def uint64? (value : Int) : Option UInt64 :=
  (unsigned? 64 value).map UInt64.ofNat

/-- Reads an optional sign and decimal digits. A minus sign is for signed numbers only. -/
def signedText? (text : List Char) : Option Int :=
  match text with
  | '-' :: digits => (natural? digits).map fun value => -(value : Int)
  | '+' :: digits => (natural? digits).map fun value => (value : Int)
  | digits => (natural? digits).map fun value => (value : Int)

/-- Reads a signed integer of sixty-four bits: an optional sign and digits. -/
def readInt64? (text : String) : Option Int64 :=
  signedText? text.toList >>= int64?

/-- Reads an unsigned integer of sixty-four bits: an optional plus sign and digits. -/
def readUInt64? (text : String) : Option UInt64 :=
  match text.toList with
  | '-' :: _ => none
  | characters => signedText? characters >>= uint64?

end Statute.Number

namespace Statute.Text

/-- The truth value that a word stands for. -/
def truth? (word : String) : Option Bool :=
  if word = "true" then some true
  else if word = "false" then some false
  else none

end Statute.Text
