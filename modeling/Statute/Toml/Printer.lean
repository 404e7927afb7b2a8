import Statute.Text.Search
import Statute.Text.Quoted

/-!
# Writing TOML

Sections of assignments, one below the other. A string is written in the plainest form that spares
escapes, and with escapes only if every form needs them; a string with a line break is written on
lines of its own.
-/

namespace Statute.Toml

open Statute.Text

/-- ASCII controls other than the tab and the line feed, which no literal string can hold. -/
def needsEscape (character : Char) : Bool :=
  (character.toNat < 0x20 && character ≠ '\t' && character ≠ '\n') || character.toNat = 0x7f

/-- How often a character stands in a row at the beginning of a text. -/
def leadingRun (character : Char) (text : List Char) : Nat :=
  (text.takeWhile (· = character)).length

/-- The length of the longest row of a character. -/
def longestRun (character : Char) : List Char → Nat
  | [] => 0
  | first :: rest => max (leadingRun character (first :: rest)) (longestRun character rest)

/-- The four ways to write a string: with escapes between double quotes or as it is between single
quotes, and either in one line or with three quotes on each side. -/
inductive StringForm where
  | basic
  | literal
  | basicLines
  | literalLines
deriving DecidableEq, Repr

namespace StringForm

/-- The form between three quotes. -/
def ofSeveralLines : StringForm → Bool
  | basic | literal => false
  | basicLines | literalLines => true

/-- The form in which a backslash escapes. -/
def escapes : StringForm → Bool
  | basic | basicLines => true
  | literal | literalLines => false

/-- What stands before and after the text. -/
def delimiter : StringForm → String
  | basic => "\""
  | literal => "'"
  | basicLines => "\"\"\""
  | literalLines => "'''"

/-- A text can be written in a form as it is: without escapes, and without a row of quotes that
would end it. -/
def suits (text : List Char) : StringForm → Bool
  | basic => !text.any needsEscape && !text.contains '\\' && !text.contains '"' &&
      !text.contains '\n'
  | literal => !text.any needsEscape && !text.contains '\'' && !text.contains '\n'
  | basicLines => !text.any needsEscape && !text.contains '\\' && longestRun '"' text < 3
  | literalLines => !text.any needsEscape && longestRun '\'' text < 3

/-- The form of a text: the first that it suits, and with escapes if there is none. -/
def ofText (text : List Char) : StringForm :=
  match [basic, literal, basicLines, literalLines].find? (suits text) with
  | some form => form
  | none => if text.contains '\n' then basicLines else basic

end StringForm

/-- A code point as four hexadecimal digits. -/
def fourDigits (code : Nat) : List Char :=
  let digits := (hexDigits code).map Char.toUpper
  List.replicate (4 - digits.length) '0' ++ digits

/-- A character other than a double quote where a backslash escapes. -/
def escapedCharacter (ofSeveralLines : Bool) (character : Char) : List Char :=
  if character = '\n' then if ofSeveralLines then ['\n'] else ['\\', 'n']
  else if character = '\x08' then ['\\', 'b']
  else if character = '\t' then ['\\', 't']
  else if character = '\x0c' then ['\\', 'f']
  else if character = '\r' then ['\\', 'r']
  else if character = '\\' then ['\\', '\\']
  else if needsEscape character then ['\\', 'u'] ++ fourDigits character.toNat
  else [character]

/-- A text where a backslash escapes. In a line every double quote is escaped; in several lines the
third of a row is, so that no row of three remains. The number counts the quotes of the present row
that can still stand as they are. -/
def escapeText (ofSeveralLines : Bool) : (quotesLeft : Nat) → List Char → List Char
  | _, [] => []
  | 0, '"' :: rest =>
    '\\' :: '"' :: escapeText ofSeveralLines (if ofSeveralLines then 2 else 0) rest
  | quotesLeft + 1, '"' :: rest => '"' :: escapeText ofSeveralLines quotesLeft rest
  | _, character :: rest =>
    escapedCharacter ofSeveralLines character ++
      escapeText ofSeveralLines (if ofSeveralLines then 2 else 0) rest

/-- A string with its quotes. A text with a line break begins on a line of its own. -/
def quote (text : String) : String :=
  let characters := text.toList
  let form := StringForm.ofText characters
  let inner :=
    if form.escapes then
      String.ofList
        (escapeText form.ofSeveralLines (if form.ofSeveralLines then 2 else 0) characters)
    else text
  form.delimiter ++ (if characters.contains '\n' then "\n" else "") ++ inner ++ form.delimiter

/-- What can be assigned when writing. -/
inductive Assigned where
  | text (value : String)
  | number (value : Nat)
  | truth (value : Bool)
deriving DecidableEq

/-- The largest number that can be written. -/
def maximumNumber : Nat := UInt64.size / 2 - 1

/-- The text of what is assigned; nothing for a number that is too large. -/
def Assigned.render? : Assigned → Option String
  | text value => some (quote value)
  | number value => if value ≤ maximumNumber then some (toString value) else none
  | truth value => some (if value then "true" else "false")

/-- A section: its name in brackets and its assignments. -/
def renderSection? (name : String) (assignments : List (String × Assigned)) : Option String := do
  let lines ← assignments.mapM fun (key, assigned) => do
    return key ++ " = " ++ (← assigned.render?) ++ "\n"
  return "[" ++ name ++ "]\n" ++ joined "" lines

/-- Sections with empty lines between them. -/
def render? (sections : List (String × List (String × Assigned))) : Option String := do
  let texts ← sections.mapM fun (name, assignments) => renderSection? name assignments
  return joined "\n" texts

end Statute.Toml
