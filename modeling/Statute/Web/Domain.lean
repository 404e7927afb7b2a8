import Statute.Text.Direction
import Statute.Text.Joining
import Statute.Text.NormalForm
import Statute.Web.Domain.Table
import Statute.Web.Punycode

/-!
# Domain names

Domain names can be written in the letters of all scripts. What is looked up is a uniform form in
ASCII: the characters are made uniform, the labels between the full stops are checked, and a label
that is not ASCII is written in Punycode behind a mark. The checks keep apart what would look alike
or be drawn in another order than it is written.
-/

namespace Statute.Web.Domain

open Statute.Text

/-- Characters that stand in no domain name because they have a meaning in addresses. -/
def isForbidden (character : Char) : Bool :=
  character.toNat ≤ 0x20 || character.toNat = 0x7f || "%#/:<>?@[\\]^|".toList.contains character

/-- Characters of ASCII. -/
def isAscii (character : Char) : Bool :=
  character.toNat < 0x80

/-- How a character is written in a domain name: as nothing if it is passed over, and not at all if
it is refused. -/
def spelling? (character : Char) : Option (List Char) :=
  let code := character.toNat
  if isAscii character then some [character.toLower]
  else if inCodeRanges code refusedRanges then none
  else if inCodeRanges code ignoredRanges then some []
  else
    match rowOfCode? code spelledRows >>= fun (place, row) => row[place]? with
    | some text => some text.toList
    | none =>
      match rowOfCode? code letterRows >>= fun (place, row) => row.toList[place]? with
      | some letter => some [letter]
      | none => some [character]

/-- The uniform form of a text. -/
def uniform? (text : List Char) : Option (List Char) := do
  return normalForm (← text.mapM spelling?).flatten

/-- A text is uniform as it is, so that each of its characters is written as itself. -/
def isUniform (text : List Char) : Bool :=
  text.all (fun character => spelling? character = some [character]) && normalForm text = text

/-! ## Labels -/

/-- What stands before a label in Punycode. -/
def mark : List Char := ['x', 'n', '-', '-']

/-- The longest label in Punycode that is decoded, without its mark. -/
def maximumEncoded : Nat := 2000

/-- The longest label that is encoded. -/
def maximumDecoded : Nat := 1000

/-- A label as it is meant. One that is marked must be the Punycode of a uniform text, which is not
marked itself and not ASCII. -/
def meaning? (label : List Char) : Option (List Char) :=
  match mark.isPrefixOf? label with
  | none => some label
  | some encoded => do
    if !encoded.all isAscii || maximumEncoded < encoded.length || encoded.getLast? = some '-' then
      none
    else
      let decoded ← Punycode.decode? encoded
      if decoded.all isAscii || mark.isPrefixOf decoded || !isUniform decoded then none
      else return decoded

/-- The first character that is not a mark joins on one of the sides. -/
def joins (sides : List Joining) (text : List Char) : Bool :=
  (text.find? (joining · ≠ .transparent)).any fun character => sides.contains (joining character)

/-- Joiners without width stand where they have an effect: behind a virama, and the one that keeps
letters apart also between letters that would join. What stands before is given in reverse. -/
def hasJoinersInPlace : (before : List Char) → List Char → Bool
  | _, [] => true
  | before, character :: rest =>
    let isBehindVirama := before.head?.any (combiningClass · = viramaClass)
    let isInPlace :=
      if character = '\u200d' then isBehindVirama
      else if character = '\u200c' then
        isBehindVirama || (joins [.left, .dual] before && joins [.right, .dual] rest)
      else true
    isInPlace && hasJoinersInPlace (character :: before) rest

/-- The checks of a label by itself. -/
def isLabel (label : List Char) : Bool :=
  !label.any isForbidden && !label.head?.any isMark && hasJoinersInPlace [] label &&
    (label.all isAscii || label.length ≤ maximumDecoded)

/-! ## Directions -/

/-- Directions that stand inside of labels in either direction. -/
def neutralDirections : List Direction :=
  [.europeanNumber, .europeanSeparator, .commonSeparator, .europeanTerminator, .otherNeutral,
    .boundaryNeutral, .nonspacingMark]

/-- Directions that make a domain name one in which labels must keep to one direction. -/
def rightToLeftDirections : List Direction :=
  [.rightToLeft, .arabicLetter, .arabicNumber]

/-- The directions of a label, without the marks at its end, keep to one direction. -/
def keepsDirection (directions : List Direction) : Bool :=
  let shown := (directions.reverse.dropWhile (· = .nonspacingMark)).reverse
  match directions.head? with
  | none => true
  | some .leftToRight =>
    directions.all ((.leftToRight :: neutralDirections).contains ·) &&
      shown.getLast?.any ([.leftToRight, .europeanNumber].contains ·)
  | some .rightToLeft | some .arabicLetter =>
    directions.all ((rightToLeftDirections ++ neutralDirections).contains ·) &&
      shown.getLast?.any ((.europeanNumber :: rightToLeftDirections).contains ·) &&
      !(directions.contains .arabicNumber && directions.contains .europeanNumber)
  | some _ => false

/-- All labels keep to one direction each if any is written from right to left. -/
def haveDirections (labels : List (List Char)) : Bool :=
  let directions := labels.map (·.map direction)
  !directions.any (·.any rightToLeftDirections.contains) || directions.all keepsDirection

/-! ## Names -/

/-- The form of a label that is looked up. -/
def encodeLabel (label : List Char) : List Char :=
  if label.all isAscii then label else mark ++ Punycode.encode label

/-- The form of a domain name that is looked up, if it is valid. -/
def toAscii? (text : List Char) : Option (List Char) := do
  let labels ← (splitAt '.' (← uniform? text)).mapM meaning?
  if labels.all isLabel && haveDirections labels then
    return ['.'].intercalate (labels.map encodeLabel)
  else none

end Statute.Web.Domain
