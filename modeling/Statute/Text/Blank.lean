/-!
# Blank characters

Blanks are the characters with the Unicode property `White_Space`. Trimming removes them from both
ends of a text and leaves those inside it alone.
-/

namespace Statute.Text

/-- Characters with the Unicode property `White_Space`. -/
def isBlank (character : Char) : Bool :=
  let code := character.toNat
  (0x09 ≤ code && code ≤ 0x0d) || code == 0x20 || code == 0x85 || code == 0xa0 ||
    code == 0x1680 || (0x2000 ≤ code && code ≤ 0x200a) || code == 0x2028 || code == 0x2029 ||
    code == 0x202f || code == 0x205f || code == 0x3000

/-- The text without its leading blanks. -/
def trimLeft (text : List Char) : List Char :=
  text.dropWhile isBlank

/-- The text without its trailing blanks. -/
def trimRight (text : List Char) : List Char :=
  (text.reverse.dropWhile isBlank).reverse

/-- The text without the blanks at both of its ends. -/
def trim (text : List Char) : List Char :=
  trimRight (trimLeft text)

/-- The string without the blanks at both of its ends. -/
def trimmed (text : String) : String :=
  String.ofList (trim text.toList)

end Statute.Text
