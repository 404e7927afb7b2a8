import Statute.Json.Value
import Statute.Text.Quoted
import Statute.Text.Search

/-!
# Writing JSON

The compact form without any blanks, and the wide form with one member or item on each line and
two spaces for each level.
-/

namespace Statute.Json

open Statute.Text

/-- One character of a JSON string. Quotation marks, backslashes and controls are escaped. -/
def escapeCharacter (character : Char) : List Char :=
  if character = '"' then ['\\', '"']
  else if character = '\\' then ['\\', '\\']
  else if character = '\n' then ['\\', 'n']
  else if character = '\r' then ['\\', 'r']
  else if character = '\t' then ['\\', 't']
  else if character = '\x08' then ['\\', 'b']
  else if character = '\x0c' then ['\\', 'f']
  else if character.toNat < 0x20 then
    let digits := hexDigits character.toNat
    ['\\', 'u'] ++ List.replicate (4 - digits.length) '0' ++ digits
  else [character]

/-- A string with its quotation marks. -/
def renderString (text : String) : String :=
  String.ofList ('"' :: text.toList.flatMap escapeCharacter ++ ['"'])

mutual

/-- The compact form of a value. -/
def render : Json → String
  | null | unreadable => "null"
  | bool value => if value then "true" else "false"
  | integer value => toString value
  | real numeral => numeral.text
  | string text => renderString text
  | array items => "[" ++ renderItems items ++ "]"
  | object members => "\x7b" ++ renderMembers members ++ "\x7d"

/-- The compact forms of items with commas between them. -/
def renderItems : List Json → String
  | [] => ""
  | [item] => item.render
  | first :: second :: rest => first.render ++ "," ++ renderItems (second :: rest)

/-- The compact forms of members with commas between them. -/
def renderMembers : List (String × Json) → String
  | [] => ""
  | [(name, value)] => renderString name ++ ":" ++ value.render
  | (name, value) :: second :: rest =>
    renderString name ++ ":" ++ value.render ++ "," ++ renderMembers (second :: rest)

end

/-- A line break followed by the blanks of a level. -/
def lineBreak (level : Nat) : String :=
  "\n" ++ String.ofList (List.replicate (2 * level) ' ')

mutual

/-- The wide form of a value whose first line is already indented to its level. -/
def renderWide (level : Nat) : Json → String
  | array (first :: rest) =>
    "[" ++ renderWideItems (level + 1) (first :: rest) ++ lineBreak level ++ "]"
  | object (first :: rest) =>
    "\x7b" ++ renderWideMembers (level + 1) (first :: rest) ++ lineBreak level ++ "\x7d"
  | value => value.render

/-- Items on lines of their own with commas between them. -/
def renderWideItems (level : Nat) : List Json → String
  | [] => ""
  | [item] => lineBreak level ++ item.renderWide level
  | first :: second :: rest =>
    lineBreak level ++ first.renderWide level ++ "," ++ renderWideItems level (second :: rest)

/-- Members on lines of their own with commas between them. -/
def renderWideMembers (level : Nat) : List (String × Json) → String
  | [] => ""
  | [(name, value)] => lineBreak level ++ renderString name ++ ": " ++ value.renderWide level
  | (name, value) :: second :: rest =>
    lineBreak level ++ renderString name ++ ": " ++ value.renderWide level ++ "," ++
      renderWideMembers level (second :: rest)

end

/-- The wide form of a value. -/
def pretty (value : Json) : String :=
  value.renderWide 0

end Statute.Json
