import Statute.Web.Percent

/-!
# TOML strings

Strings stand between double quotes, where a backslash escapes, or between single quotes, where
nothing does. Three quotes enclose text of several lines; up to two more of the same quote directly
before the closing ones belong to the text.
-/

namespace Statute.Toml

/-- Spaces and tabs. -/
def isSpace (character : Char) : Bool :=
  character = ' ' || character = '\t'

/-- Characters that may stand in a line: no controls but the tab. -/
def isLineCharacter (character : Char) : Bool :=
  character = '\t' || (0x20 ≤ character.toNat && character.toNat ≠ 0x7f)

/-- The text behind a line break at its beginning. -/
def dropLineBreak? : List Char → Option (List Char)
  | '\n' :: rest => some rest
  | '\r' :: '\n' :: rest => some rest
  | _ => none

/-- The character that a letter after a backslash stands for. -/
def escaped? : Char → Option Char
  | 'b' => some '\x08'
  | 't' => some '\t'
  | 'n' => some '\n'
  | 'f' => some '\x0c'
  | 'r' => some '\r'
  | '"' => some '"'
  | '\\' => some '\\'
  | _ => none

/-- The character with a code point given in hexadecimal digits. -/
def characterOfCode? (digits : List Char) : Option Char := do
  let code ← digits.foldlM (fun value digit => do return 16 * value + (← Web.hexValue? digit)) 0
  if code.isValidChar then return Char.ofNat code else none

/-- A character added to a text that was read, with what follows it. -/
def consRead (character : Char) (read : Option (List Char × List Char)) :
    Option (List Char × List Char) :=
  read.map fun (text, rest) => (character :: text, rest)

/-- The text up to the closing double quote, and what follows it. -/
def readBasic : List Char → Option (List Char × List Char)
  | '"' :: rest => some ([], rest)
  | '\\' :: 'u' :: first :: second :: third :: fourth :: rest => do
    consRead (← characterOfCode? [first, second, third, fourth]) (readBasic rest)
  | '\\' :: 'U' :: a :: b :: c :: d :: e :: f :: g :: h :: rest => do
    consRead (← characterOfCode? [a, b, c, d, e, f, g, h]) (readBasic rest)
  | '\\' :: letter :: rest => do consRead (← escaped? letter) (readBasic rest)
  | character :: rest =>
    if isLineCharacter character && character ≠ '\\' then consRead character (readBasic rest)
    else none
  | [] => none

/-- The text up to the closing single quote, and what follows it. -/
def readLiteral : List Char → Option (List Char × List Char)
  | '\'' :: rest => some ([], rest)
  | character :: rest =>
    if isLineCharacter character then consRead character (readLiteral rest) else none
  | [] => none

/-- The end of a text of several lines, behind its three closing quotes: up to two more quotes
belong to the text. -/
def closeLines (quote : Char) (text : List Char) : Option (List Char × List Char) :=
  let more := text.takeWhile (· = quote)
  if more.length ≤ 2 then some (more, text.drop more.length) else none

/-- The text up to three closing double quotes, and what follows them. A backslash at the end of a
line takes away the line break and all blanks and line breaks after it; while they are being taken
away, `skipping` holds. -/
def readBasicLines : (skipping : Bool) → List Char → Option (List Char × List Char)
  | _, '"' :: '"' :: '"' :: rest => closeLines '"' rest
  | skipping, '\r' :: '\n' :: rest =>
    if skipping then readBasicLines true rest else consRead '\n' (readBasicLines false rest)
  | skipping, '\n' :: rest =>
    if skipping then readBasicLines true rest else consRead '\n' (readBasicLines false rest)
  | _, '\\' :: 'u' :: first :: second :: third :: fourth :: rest => do
    consRead (← characterOfCode? [first, second, third, fourth]) (readBasicLines false rest)
  | _, '\\' :: 'U' :: a :: b :: c :: d :: e :: f :: g :: h :: rest => do
    consRead (← characterOfCode? [a, b, c, d, e, f, g, h]) (readBasicLines false rest)
  | _, '\\' :: letter :: rest =>
    match escaped? letter with
    | some character => consRead character (readBasicLines false rest)
    | none =>
      if (dropLineBreak? ((letter :: rest).dropWhile isSpace)).isSome then
        if letter = '\r' then readBasicLines true (rest.drop 1) else readBasicLines true rest
      else none
  | skipping, character :: rest =>
    if skipping && isSpace character then readBasicLines true rest
    else if isLineCharacter character && character ≠ '\\' then
      consRead character (readBasicLines false rest)
    else none
  | _, [] => none
termination_by _ text => text.length
decreasing_by all_goals simp_all <;> omega

/-- The text up to three closing single quotes, and what follows them. -/
def readLiteralLines : List Char → Option (List Char × List Char)
  | '\'' :: '\'' :: '\'' :: rest => closeLines '\'' rest
  | '\r' :: '\n' :: rest => consRead '\n' (readLiteralLines rest)
  | '\n' :: rest => consRead '\n' (readLiteralLines rest)
  | character :: rest =>
    if isLineCharacter character then consRead character (readLiteralLines rest) else none
  | [] => none

/-- A line break directly after the opening quotes does not count. -/
def afterOpening (text : List Char) : List Char :=
  (dropLineBreak? text).getD text

/-- A string of any kind, and what follows it. -/
def readString : List Char → Option (List Char × List Char)
  | '"' :: '"' :: '"' :: rest => readBasicLines false (afterOpening rest)
  | '\'' :: '\'' :: '\'' :: rest => readLiteralLines (afterOpening rest)
  | '"' :: rest => readBasic rest
  | '\'' :: rest => readLiteral rest
  | _ => none

end Statute.Toml
