import Statute.Text.Printable

/-!
# Quoted texts in messages

A message shows a text between double quotation marks so that every character of it can be told
apart: quotation marks and backslashes are escaped, the common controls have a letter, and a
character that does not show or that would attach to its neighbour is given by its code point.
-/

namespace Statute.Text

/-- A natural number in lower-case hexadecimal digits. -/
def hexDigits (value : Nat) : List Char :=
  Nat.toDigits 16 value

/-- One character of a quoted text. -/
def quotedCharacter (character : Char) : List Char :=
  if character = '\x00' then ['\\', '0']
  else if character = '\t' then ['\\', 't']
  else if character = '\r' then ['\\', 'r']
  else if character = '\n' then ['\\', 'n']
  else if character = '"' then ['\\', '"']
  else if character = '\\' then ['\\', '\\']
  else if extendsGrapheme character || !isPrintable character then
    ['\\', 'u', '\x7b'] ++ hexDigits character.toNat ++ ['\x7d']
  else [character]

/-- A text between double quotation marks, each character written so that it shows. -/
def quoted (text : String) : String :=
  String.ofList ('"' :: text.toList.flatMap quotedCharacter ++ ['"'])

end Statute.Text
