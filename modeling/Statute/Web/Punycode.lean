import Statute.Text.Search

/-!
# Punycode

Text of any characters written in letters, digits and hyphens. The ASCII characters come first, then
a hyphen, then one number for each other character in ascending order: how many places and code
points are passed over before it is inserted. The numbers are written in digits of base 36 whose
weights adapt to the numbers before.
-/

namespace Statute.Web.Punycode

/-- The digit with a value: letters for the first twenty-six, then decimal digits. -/
def digit (value : Nat) : Char :=
  if value < 26 then Char.ofNat ('a'.toNat + value) else Char.ofNat ('0'.toNat + (value - 26))

/-- The value of a digit, which is not a capital. -/
def digitValue? (character : Char) : Option Nat :=
  if 'a' ≤ character ∧ character ≤ 'z' then some (character.toNat - 'a'.toNat)
  else if '0' ≤ character ∧ character ≤ '9' then some (character.toNat - '0'.toNat + 26)
  else none

/-- The least value of the digit at a place that does not end a number. The bias comes from the
numbers before. -/
def threshold (bias place : Nat) : Nat :=
  min 26 (max 1 (36 * (place + 1) - bias))

/-- The least value of a digit is at least one, so that a zero ends a number. -/
theorem threshold_pos (bias place : Nat) : 0 < threshold bias place := by
  simp only [threshold]; omega

/-- The bias for numbers that are scaled down until they are small. -/
def biasOf (scaled : Nat) : Nat :=
  if h : 455 < scaled then 36 + biasOf (scaled / 35) else 36 * scaled / (scaled + 38)
termination_by scaled
decreasing_by exact Nat.div_lt_self (by omega) (by omega)

/-- The bias after a number, with so many characters written or read so far. -/
def adapt (number count : Nat) (isFirst : Bool) : Nat :=
  let halved := if isFirst then number / 700 else number / 2
  biasOf (halved + halved / count)

/-- The bias before the first number. -/
def initialBias : Nat := 72

/-- The code point before which every character is ASCII. -/
def firstCode : Nat := 0x80

/-! ## Writing -/

/-- The digits of a number from a place on. -/
def numberDigits (bias place number : Nat) : List Char :=
  let least := threshold bias place
  if number < least then [digit number]
  else
    digit (least + (number - least) % (36 - least)) ::
      numberDigits bias (place + 1) ((number - least) / (36 - least))
termination_by number
decreasing_by
  have positive := threshold_pos bias place
  have quotient := Nat.div_le_self (number - threshold bias place) (36 - threshold bias place)
  omega

/-- The state of a writer: what is passed over since the last number, the bias and how many
characters are written. -/
structure Writer where
  number : Nat
  bias : Nat
  count : Nat
  /-- The digits so far. -/
  digits : List Char

/-- Passes a character of the text while those with a code point are written. -/
def Writer.pass (code asciiCount : Nat) (writer : Writer) (character : Char) : Writer :=
  if character.toNat < code then { writer with number := writer.number + 1 }
  else if character.toNat = code then {
    number := 0
    bias := adapt writer.number (writer.count + 1) (writer.count = asciiCount)
    count := writer.count + 1
    digits := writer.digits ++ numberDigits writer.bias 0 writer.number }
  else writer

/-- Writes the characters with code points in ascending order, of which the first is the next that
is not passed over. -/
def Writer.writeCodes (text : List Char) (asciiCount : Nat) :
    (codes : List Nat) → (next : Nat) → Writer → Writer
  | [], _, writer => writer
  | code :: codes, next, writer =>
    let ahead := { writer with number := writer.number + (code - next) * (writer.count + 1) }
    let passed := text.foldl (Writer.pass code asciiCount) ahead
    writeCodes text asciiCount codes (code + 1) { passed with number := passed.number + 1 }

/-- Inserts a number into ascending distinct numbers. -/
def insertDistinct (number : Nat) : List Nat → List Nat
  | [] => [number]
  | next :: rest =>
    if number < next then number :: next :: rest
    else if number = next then next :: rest
    else next :: insertDistinct number rest

/-- The text in letters, digits and hyphens. -/
def encode (text : List Char) : List Char :=
  let ascii := text.filter (·.toNat < firstCode)
  let others := text.filter (firstCode ≤ ·.toNat)
  let codes := (others.map Char.toNat).foldr insertDistinct []
  let writer := Writer.writeCodes text ascii.length codes firstCode
    ⟨0, initialBias, ascii.length, []⟩
  (if ascii.isEmpty then [] else ascii ++ ['-']) ++ writer.digits

/-! ## Reading -/

/-- A number whose digits begin at a place with a weight, and what follows it. -/
def readNumber (bias : Nat) : (place weight : Nat) → List Char → Option (Nat × List Char)
  | _, _, [] => none
  | place, weight, character :: rest => do
    let value ← digitValue? character
    let least := threshold bias place
    if value < least then return (value * weight, rest)
    else
      let (number, rest) ← readNumber bias (place + 1) (weight * (36 - least)) rest
      return (value * weight + number, rest)

/-- A number that is read takes at least one digit, so that reading ends. -/
theorem length_lt_of_readNumber {bias place weight number : Nat} {text rest : List Char}
    (read : readNumber bias place weight text = some (number, rest)) :
    rest.length < text.length := by
  induction text generalizing place weight number rest with
  | nil => simp [readNumber] at read
  | cons character tail inductionHypothesis =>
    simp only [readNumber, Option.bind_eq_bind, Option.bind_eq_some_iff] at read
    obtain ⟨value, -, read⟩ := read
    split at read
    · simp only [pure, Option.some.injEq, Prod.mk.injEq] at read
      simp [← read.2]
    · obtain ⟨⟨inner, after⟩, innerRead, equal⟩ := Option.bind_eq_some_iff.mp read
      simp only [pure, Option.some.injEq, Prod.mk.injEq] at equal
      have shorter := inductionHypothesis innerRead
      simp only [← equal.2, List.length_cons]
      omega

/-- Inserts characters into a text as the numbers say. The place and the code point are those of the
next insertion if nothing is passed over. -/
def insertCharacters (bias code place : Nat) (text : List Char) (digits : List Char) :
    Option (List Char) :=
  if digits.isEmpty then some text
  else
    match _ : readNumber bias 0 1 digits with
    | none => none
    | some (number, rest) =>
      let isFirst := decide (place = 0)
      let count := text.length + 1
      let code := code + (place + number) / count
      let place := (place + number) % count
      if code.isValidChar then
        insertCharacters (adapt number count isFirst) code (place + 1)
          (text.take place ++ Char.ofNat code :: text.drop place) rest
      else none
termination_by digits.length
decreasing_by exact length_lt_of_readNumber (by assumption)

/-- The text that is written in letters, digits and hyphens. The last hyphen ends the ASCII
characters, of which there is at least one before it. -/
def decode? (encoded : List Char) : Option (List Char) :=
  let digits := (encoded.reverse.takeWhile (· ≠ '-')).reverse
  let ascii := encoded.take (encoded.length - digits.length - 1)
  if ascii.isEmpty then insertCharacters initialBias firstCode 0 [] encoded
  else insertCharacters initialBias firstCode 0 ascii digits

end Statute.Web.Punycode
