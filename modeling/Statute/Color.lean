import Statute.Number.Integer
import Statute.Regulation.Atom

/-!
# Highlight colors

Every atom has a pair of background colors, one for rest and one for emphasis. The pair is taken
from a fixed palette by a hash of the atom's number in decimal, so it is the same wherever the
atom is shown.
-/

namespace Statute

/-- Background colors as `#rrggbb`. -/
structure HighlightColor where
  /-- The color at rest. -/
  base : String
  /-- The color of an emphasized atom. -/
  hover : String
deriving DecidableEq

namespace Color

/-- The sixteen-bit code units of a character; beyond the basic plane there are two. -/
def codeUnits (character : Char) : List UInt32 :=
  let code := character.val
  if code < 0x10000 then [code]
  else [0xd800 + (code - 0x10000) / 0x400, 0xdc00 + (code - 0x10000) % 0x400]

/-- A hash of thirty-two bits that takes in the code units of a text one after another: times 33,
then exclusive or. -/
def djb2 (key : String) : UInt32 :=
  (key.toList.flatMap codeUnits).foldl (fun hash unit => hash * 33 ^^^ unit) 5381

/-- The palette: blue, green, yellow, pink, purple, orange, cyan, brown and indigo. -/
def palette : List HighlightColor :=
  [⟨"#e3f2fd", "#4a94e8"⟩, ⟨"#e8f4fd", "#74e8b4"⟩,
    ⟨"#e8f5e8", "#3cb371"⟩, ⟨"#ecfdf5", "#00c292"⟩,
    ⟨"#fffbf0", "#ffd700"⟩, ⟨"#fff8dc", "#f0e478"⟩,
    ⟨"#fdf2f8", "#fc7ec8"⟩, ⟨"#fff0f5", "#ff6b6b"⟩, ⟨"#fef7f7", "#ff80a4"⟩,
    ⟨"#f8f4ff", "#bd80ff"⟩, ⟨"#f5f0ff", "#8a2be2"⟩, ⟨"#f0e6ff", "#9370db"⟩,
    ⟨"#fff7ed", "#ff8c00"⟩, ⟨"#fffaf0", "#ffa07a"⟩,
    ⟨"#f0fdfa", "#20b2aa"⟩, ⟨"#ecfeff", "#00bfff"⟩,
    ⟨"#f8f6f4", "#d2b48c"⟩, ⟨"#f5f5dc", "#bc8f8f"⟩,
    ⟨"#f0f8ff", "#7c05cf"⟩, ⟨"#f5f5ff", "#6f5ed6"⟩]

/-- The colors for a key. -/
def ofKey (key : String) : HighlightColor :=
  have bounded : (djb2 key).toNat % 20 < palette.length := Nat.mod_lt _ (by decide)
  palette[(djb2 key).toNat % 20]

/-- The colors for the number of an atom or rule. -/
def ofId (id : Int64) : HighlightColor :=
  ofKey (toString id.toInt)

/-- Amounts of red, green and blue. -/
structure Rgb where
  red : UInt8
  green : UInt8
  blue : UInt8
deriving DecidableEq

/-- The value of a byte that is a hexadecimal digit in ASCII. -/
def hexValue? (byte : UInt8) : Option UInt8 :=
  if 48 ≤ byte ∧ byte ≤ 57 then some (byte - 48)
  else if 97 ≤ byte ∧ byte ≤ 102 then some (byte - 87)
  else if 65 ≤ byte ∧ byte ≤ 70 then some (byte - 55)
  else none

/-- The amount that two bytes stand for: two hexadecimal digits, or a plus sign and one. Anything
else is zero. -/
def channel : List UInt8 → UInt8
  | first :: second :: _ =>
    match hexValue? first, hexValue? second with
    | some high, some low => 16 * high + low
    | none, some low => if first = 43 then low else 0
    | _, _ => 0
  | _ => 0

/-- Reads `#rrggbb`. Channels that are missing or malformed are zero, and any number of `#` may
stand in front. -/
def parseHex (hex : String) : Rgb :=
  let bytes := (hex.toList.dropWhile (· = '#')).flatMap String.utf8EncodeChar
  ⟨channel bytes, channel (bytes.drop 2), channel (bytes.drop 4)⟩

end Color

namespace HighlightColor

/-- The JSON form of a pair of colors. -/
def toJson (color : HighlightColor) : Json :=
  .object [("base", .string color.base), ("hover", .string color.hover)]

/-- The resting color in its channels. -/
def rgbBase (color : HighlightColor) : Color.Rgb :=
  Color.parseHex color.base

/-- The emphasized color in its channels. -/
def rgbHover (color : HighlightColor) : Color.Rgb :=
  Color.parseHex color.hover

end HighlightColor

end Statute
