import Statute.Text.Quoted

/-!
# Percent-encoding

Addresses write a character that must not stand as itself as the bytes of its UTF-8 form, each as a
percent sign and two hexadecimal digits. Which characters these are depends on the part of the
address.
-/

namespace Statute.Web

/-- A byte as two upper-case hexadecimal digits after a percent sign. -/
def percentByte (byte : UInt8) : List Char :=
  let digits := (Nat.toDigits 16 byte.toNat).map Char.toUpper
  '%' :: (if digits.length < 2 then '0' :: digits else digits)

/-- The bytes of the UTF-8 form of a character. -/
def utf8Bytes (character : Char) : List UInt8 :=
  (String.singleton character).toUTF8.toList

/-- ASCII controls and everything beyond ASCII. -/
def isControlOrForeign (character : Char) : Bool :=
  character.toNat < 0x20 || 0x7e < character.toNat

/-- Characters that are encoded in a fragment. -/
def isEncodedInFragment (character : Char) : Bool :=
  isControlOrForeign character || " \"<>`".toList.contains character

/-- Characters that are encoded in a path. -/
def isEncodedInPath (character : Char) : Bool :=
  isEncodedInFragment character || "#?\x7b\x7d".toList.contains character

/-- Characters that are encoded in a query. -/
def isEncodedInQuery (character : Char) : Bool :=
  isControlOrForeign character || " \"#<>'".toList.contains character

/-- A text in which the characters of a class are encoded. -/
def percentEncoded (isEncoded : Char → Bool) (text : List Char) : List Char :=
  text.flatMap fun character =>
    if isEncoded character then (utf8Bytes character).flatMap percentByte else [character]

/-- The value of a hexadecimal digit. -/
def hexValue? (character : Char) : Option Nat :=
  if '0' ≤ character ∧ character ≤ '9' then some (character.toNat - '0'.toNat)
  else if 'a' ≤ character ∧ character ≤ 'f' then some (character.toNat - 'a'.toNat + 10)
  else if 'A' ≤ character ∧ character ≤ 'F' then some (character.toNat - 'A'.toNat + 10)
  else none

/-- The bytes of a text with its percent-encoded bytes decoded. A percent sign without two digits
stands for itself. -/
def percentDecoded : List Char → List UInt8
  | [] => []
  | '%' :: first :: second :: rest =>
    match hexValue? first, hexValue? second with
    | some high, some low => UInt8.ofNat (16 * high + low) :: percentDecoded rest
    | _, _ => utf8Bytes '%' ++ percentDecoded (first :: second :: rest)
  | character :: rest => utf8Bytes character ++ percentDecoded rest

end Statute.Web
