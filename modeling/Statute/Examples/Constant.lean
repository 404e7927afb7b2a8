import Statute.Logic.Token.Scan

/-!
# Constants in program text

A constant is any text. In a program it stands as it is when it is a plain name or a plain number,
and between single quotes otherwise.
-/

namespace Statute.Examples

/-- A lower-case ASCII letter followed by letters, digits and underscores. -/
def isPlainName : List Char → Bool
  | first :: rest => Logic.isLowerLetter first && rest.all Logic.isNameCharacter
  | [] => false

/-- Digits, with a fraction or not. -/
def isUnsignedNumber (text : List Char) : Bool :=
  match text.span Logic.isDigit with
  | ([], _) => false
  | (_, []) => true
  | (_, '.' :: fraction) => !fraction.isEmpty && fraction.all Logic.isDigit
  | _ => false

/-- Digits, with a minus sign or not and with a fraction or not. -/
def isPlainNumber : List Char → Bool
  | '-' :: rest => isUnsignedNumber rest
  | text => isUnsignedNumber text

/-- A character between single quotes: quotes and backslashes follow a backslash. -/
def quotedConstantCharacter (character : Char) : List Char :=
  if character = '\\' || character = '\'' then ['\\', character] else [character]

/-- The text of a constant in a program. -/
def quoteConstant (value : String) : String :=
  let characters := value.toList
  if isPlainName characters || isPlainNumber characters then value
  else String.ofList ('\'' :: characters.flatMap quotedConstantCharacter ++ ['\''])

end Statute.Examples
