import Statute.Toml.Scalar
import Statute.Toml.Table
import Statute.Toml.Text

/-!
# Reading TOML

A document is a sequence of lines: assignments, headers of tables and comments. The reader collects
the lines into sections, one for each header, and builds the tables from them. The recursion is
bounded by the length of the text, of which every step takes at least one character.
-/

namespace Statute.Toml

/-- The text without spaces and tabs at its beginning. -/
def skipSpaces (text : List Char) : List Char :=
  text.dropWhile isSpace

/-- The text behind a comment, if it begins with one. -/
def skipComment : List Char → List Char
  | '#' :: rest => rest.dropWhile isLineCharacter
  | text => text

/-- The text behind the end of a line, before which spaces and a comment may stand. -/
def endLine? (text : List Char) : Option (List Char) :=
  match skipComment (skipSpaces text) with
  | [] => some []
  | rest => dropLineBreak? rest

/-- The text behind spaces, comments and line breaks. -/
def skipLines : (bound : Nat) → List Char → List Char
  | 0, text => text
  | bound + 1, text =>
    let rest := skipComment (skipSpaces text)
    match dropLineBreak? rest with
    | some rest => skipLines bound rest
    | none => rest

/-- Characters of keys without quotes. -/
def isKeyCharacter (character : Char) : Bool :=
  character.isAlphanum || character = '-' || character = '_'

/-- One part of a key, and what follows it. -/
def readKeyPart (text : List Char) : Option (String × List Char) :=
  match text with
  | '"' :: rest => (readBasic rest).map fun (name, rest) => (String.ofList name, rest)
  | '\'' :: rest => (readLiteral rest).map fun (name, rest) => (String.ofList name, rest)
  | _ =>
    let name := text.takeWhile isKeyCharacter
    if name.isEmpty then none else some (String.ofList name, text.drop name.length)

/-- A dotted key with spaces around its parts. -/
def readKeyParts : (bound : Nat) → List Char → Option (List String × List Char)
  | 0, _ => none
  | bound + 1, text => do
    let (part, rest) ← readKeyPart (skipSpaces text)
    match skipSpaces rest with
    | '.' :: rest =>
      let (parts, rest) ← readKeyParts bound rest
      return (part :: parts, rest)
    | rest => return ([part], rest)

/-- How deep values may stand in each other, and how many parts a key may have. -/
def maximumLevels : Nat := 79

/-- A key: the tables on the way, the name, and what follows. -/
def readKey (text : List Char) : Option (List String × String × List Char) := do
  let (parts, rest) ← readKeyParts text.length text
  if maximumLevels < parts.length then none
  else return (parts.dropLast, ← parts.getLast?, rest)

mutual

/-- A value, and what follows it. -/
def readValue : (bound levels : Nat) → List Char → Option (Value × List Char)
  | 0, _, _ => none
  | bound + 1, levels, text =>
    match text with
    | '[' :: rest =>
      match levels with
      | 0 => none
      | levels + 1 => do
        let (items, rest) ← readItems bound levels rest
        return (.array items, rest)
    | '\x7b' :: rest =>
      match levels with
      | 0 => none
      | levels + 1 =>
        match skipSpaces rest with
        | '\x7d' :: rest => some (.table [], rest)
        | rest => do
          let (assignments, rest) ← readAssignments bound levels rest
          return (.table (membersToValues (← Members.assignAll assignments [])), rest)
    | '"' :: _ | '\'' :: _ =>
      (readString text).map fun (content, rest) => (.string (String.ofList content), rest)
    | _ => readScalar text

/-- The items of an array up to its closing bracket. -/
def readItems : (bound levels : Nat) → List Char → Option (List Value × List Char)
  | 0, _, _ => none
  | bound + 1, levels, text =>
    match skipLines text.length text with
    | ']' :: rest => some ([], rest)
    | text => do
      let (item, rest) ← readValue bound levels text
      match skipLines rest.length rest with
      | ',' :: rest =>
        let (items, rest) ← readItems bound levels rest
        return (item :: items, rest)
      | ']' :: rest => return ([item], rest)
      | _ => none

/-- The assignments of an inline table up to its closing brace, at least one. -/
def readAssignments :
    (bound levels : Nat) → List Char → Option (List (List String × String × Value) × List Char)
  | 0, _, _ => none
  | bound + 1, levels, text => do
    let (path, name, rest) ← readKey text
    match rest with
    | '=' :: rest =>
      let (value, rest) ← readValue bound levels (skipSpaces rest)
      match skipSpaces rest with
      | ',' :: rest =>
        let (assignments, rest) ← readAssignments bound levels rest
        return ((path, name, value) :: assignments, rest)
      | '\x7d' :: rest => return ([(path, name, value)], rest)
      | _ => none
    | _ => none

end

/-- A line of a document. -/
inductive Line where
  | assignment (path : List String) (name : String) (value : Value)
  /-- The header of a table, or of one among several tables. -/
  | header (isRepeated : Bool) (path : List String) (name : String)

/-- A line other than an empty one, and what follows it. -/
def readLine (text : List Char) : Option (Line × List Char) := do
  match text with
  | '[' :: '[' :: rest =>
    let (path, name, rest) ← readKey rest
    match rest with
    | ']' :: ']' :: rest => return (.header true path name, ← endLine? rest)
    | _ => none
  | '[' :: rest =>
    let (path, name, rest) ← readKey rest
    match rest with
    | ']' :: rest => return (.header false path name, ← endLine? rest)
    | _ => none
  | _ =>
    let (path, name, rest) ← readKey text
    match rest with
    | '=' :: rest =>
      let text := skipSpaces rest
      let (value, rest) ← readValue text.length maximumLevels text
      return (.assignment path name value, ← endLine? rest)
    | _ => none

/-- The lines of a document. -/
def readLines : (bound : Nat) → List Char → Option (List Line)
  | 0, _ => none
  | bound + 1, text =>
    match skipLines text.length text with
    | [] => some []
    | text => do
      let (line, rest) ← readLine text
      return line :: (← readLines bound rest)

/-- A header with the assignments below it. -/
structure Section where
  isRepeated : Bool
  path : List String
  name : String
  assignments : List (List String × String × Value)

/-- The assignments before the first header, and the sections. -/
def sections : List Line → List (List String × String × Value) × List Section
  | [] => ([], [])
  | .assignment path name value :: rest =>
    let (assignments, later) := sections rest
    ((path, name, value) :: assignments, later)
  | .header isRepeated path name :: rest =>
    let (assignments, later) := sections rest
    ([], ⟨isRepeated, path, name, assignments⟩ :: later)

/-- The text without a byte order mark at its beginning. -/
def withoutMark : List Char → List Char
  | '\ufeff' :: rest => rest
  | text => text

/-- Reads a document, which is a table. -/
def parse (text : String) : Option Value := do
  let characters := withoutMark text.toList
  let (assignments, sections) := sections (← readLines (characters.length + 1) characters)
  let members ← sections.foldlM (fun members part =>
    if part.isRepeated then Members.appendTable part.path part.name part.assignments members
    else Members.addTable part.path part.name part.assignments members)
    (← Members.assignAll assignments [])
  return .table (membersToValues members)

end Statute.Toml
