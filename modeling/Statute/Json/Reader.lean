import Statute.Json.Value
import Statute.Text.Blank

/-!
# Reading JSON

The grammar of JSON text. A text is one value, with spaces, tabs, line feeds and carriage returns
around it. The recursion is bounded by the length of the text, of which every step takes at least
one character.
-/

namespace Statute.Json

open Statute.Number

/-- What follows the blanks at the beginning of a text. -/
def skipBlanks (text : List Char) : List Char :=
  text.dropWhile fun character =>
    character = ' ' || character = '\t' || character = '\n' || character = '\r'

/-- The value of a hexadecimal digit. -/
def hexDigit? (character : Char) : Option Nat :=
  if isDigit character then some (digitValue character)
  else if 'a' ≤ character ∧ character ≤ 'f' then some (character.toNat - 'a'.toNat + 10)
  else if 'A' ≤ character ∧ character ≤ 'F' then some (character.toNat - 'A'.toNat + 10)
  else none

/-- A piece of a string: a character, or the code of half a surrogate pair. -/
inductive StringUnit where
  | character (value : Char)
  | surrogate (code : Nat)

/-- The unit that a sixteen-bit code stands for. -/
def StringUnit.ofCode (code : Nat) : StringUnit :=
  if 0xd800 ≤ code ∧ code < 0xe000 then .surrogate code else .character (Char.ofNat code)

/-- The character that a letter after a backslash stands for. -/
def escapedCharacter? : Char → Option Char
  | '"' => some '"'
  | '\\' => some '\\'
  | '/' => some '/'
  | 'b' => some '\x08'
  | 'f' => some '\x0c'
  | 'n' => some '\n'
  | 'r' => some '\r'
  | 't' => some '\t'
  | _ => none

/-- The units of a string up to its closing quotation mark, and what follows it. Controls must be
escaped. -/
def readUnits : List Char → Option (List StringUnit × List Char)
  | [] => none
  | '"' :: rest => some ([], rest)
  | '\\' :: 'u' :: a :: b :: c :: d :: rest => do
    let code := 16 * (16 * (16 * (← hexDigit? a) + (← hexDigit? b)) + (← hexDigit? c)) +
      (← hexDigit? d)
    let (units, after) ← readUnits rest
    return (.ofCode code :: units, after)
  | '\\' :: letter :: rest => do
    let character ← escapedCharacter? letter
    let (units, after) ← readUnits rest
    return (.character character :: units, after)
  | character :: rest =>
    if character.toNat < 0x20 || character = '\\' then none
    else do
      let (units, after) ← readUnits rest
      return (.character character :: units, after)

/-- The text of a string, when every half of a surrogate pair has its other half beside it. -/
def textOfUnits? : List StringUnit → Option (List Char)
  | [] => some []
  | .character value :: rest => (textOfUnits? rest).map (value :: ·)
  | .surrogate high :: .surrogate low :: rest =>
    if high < 0xdc00 ∧ 0xdc00 ≤ low then
      (textOfUnits? rest).map
        (Char.ofNat (0x10000 + (high - 0xd800) * 0x400 + (low - 0xdc00)) :: ·)
    else none
  | .surrogate _ :: _ => none

/-- A string, from behind its opening quotation mark; nothing when its text cannot be read. -/
def readString (text : List Char) : Option (Option String × List Char) :=
  (readUnits text).map fun (units, after) => ((textOfUnits? units).map String.ofList, after)

/-- The digits before the point: a zero alone, or digits that begin with none. -/
def readWhole (text : List Char) : Option (List Char × List Char) :=
  match text.takeWhile isDigit, text.dropWhile isDigit with
  | [], _ => none
  | ['0'], after => some (['0'], after)
  | '0' :: _, _ => none
  | digits, after => some (digits, after)

/-- A point with digits, when there is a point. -/
def readFraction (text : List Char) : Option (List Char × List Char) :=
  match text with
  | '.' :: rest =>
    match rest.takeWhile isDigit with
    | [] => none
    | digits => some (digits, rest.dropWhile isDigit)
  | _ => some ([], text)

/-- The digits of an exponent, which are needed once its letter stands there. -/
def readExponentDigits (negative : Bool) (text : List Char) :
    Option (Bool × List Char × List Char) :=
  match text.takeWhile isDigit with
  | [] => none
  | digits => some (negative, digits, text.dropWhile isDigit)

/-- An exponent, when there is one. -/
def readExponent (text : List Char) : Option (Bool × List Char × List Char) :=
  match text with
  | letter :: rest =>
    if letter = 'e' || letter = 'E' then
      match rest with
      | '-' :: digits => readExponentDigits true digits
      | '+' :: digits => readExponentDigits false digits
      | digits => readExponentDigits false digits
    else some (false, [], text)
  | [] => some (false, [], [])

/-- A number, from behind its sign. -/
def readNumber (negative : Bool) (text : List Char) : Option (Json × List Char) := do
  let (whole, text) ← readWhole text
  let (fraction, text) ← readFraction text
  let (exponentNegative, exponent, text) ← readExponent text
  if fraction.isEmpty && exponent.isEmpty && !(negative && whole == ['0']) then
    let value : Int := ofDigits whole
    return (.integer (if negative then -value else value), text)
  else
    return (.real ⟨negative, whole, fraction, exponentNegative, exponent⟩, text)

/-- The object with these members, unless a name among them cannot be read. -/
def ofMembers (members : List (Option String × Json)) : Json :=
  match members.mapM fun (name, value) => name.map (·, value) with
  | some named => .object named
  | none => .unreadable

mutual

/-- A value at the beginning of a text without blanks before it. -/
def readValue : (bound : Nat) → List Char → Option (Json × List Char)
  | 0, _ => none
  | bound + 1, text =>
    match text with
    | 'n' :: 'u' :: 'l' :: 'l' :: rest => some (.null, rest)
    | 't' :: 'r' :: 'u' :: 'e' :: rest => some (.bool true, rest)
    | 'f' :: 'a' :: 'l' :: 's' :: 'e' :: rest => some (.bool false, rest)
    | '"' :: rest =>
      (readString rest).map fun (text, after) =>
        ((match text with
          | some text => .string text
          | none => .unreadable), after)
    | '[' :: rest =>
      match skipBlanks rest with
      | ']' :: after => some (.array [], after)
      | inside => (readItems bound inside).map fun (items, after) => (.array items, after)
    | '\x7b' :: rest =>
      match skipBlanks rest with
      | '\x7d' :: after => some (.object [], after)
      | inside =>
        (readMembers bound inside).map fun (members, after) => (ofMembers members, after)
    | '-' :: rest => readNumber true rest
    | _ => readNumber false text

/-- The items of an array up to its closing bracket. -/
def readItems : (bound : Nat) → List Char → Option (List Json × List Char)
  | 0, _ => none
  | bound + 1, text => do
    let (item, text) ← readValue bound text
    match skipBlanks text with
    | ',' :: rest =>
      let (items, after) ← readItems bound (skipBlanks rest)
      return (item :: items, after)
    | ']' :: after => return ([item], after)
    | _ => none

/-- The members of an object up to its closing brace. -/
def readMembers : (bound : Nat) → List Char → Option (List (Option String × Json) × List Char)
  | 0, _ => none
  | bound + 1, text =>
    match text with
    | '"' :: rest => do
      let (name, text) ← readString rest
      match skipBlanks text with
      | ':' :: text =>
        let (value, text) ← readValue bound (skipBlanks text)
        match skipBlanks text with
        | ',' :: rest =>
          let (members, after) ← readMembers bound (skipBlanks rest)
          return ((name, value) :: members, after)
        | '\x7d' :: after => return ([(name, value)], after)
        | _ => none
      | _ => none
    | _ => none

end

/-- The value that a text consists of. -/
def parse (text : String) : Option Json :=
  let characters := text.toList
  match readValue (2 * characters.length + 2) (skipBlanks characters) with
  | some (value, rest) => if (skipBlanks rest).isEmpty then some value else none
  | none => none

end Statute.Json
