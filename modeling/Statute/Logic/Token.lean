import Statute.Text.Quoted

/-!
# Tokens of clause text

The smallest meaningful pieces of Horn-clause text, each with its spelling, and the place of a
token in its source. How a text is cut into tokens is a matter of `Statute.Logic.Token.Scan`.
-/

namespace Statute.Logic

/-- A token of clause text. Quoted atoms and strings keep their quotation marks. -/
inductive Token where
  | neck
  | comma
  | semicolon
  | openParen
  | closeParen
  | openBracket
  | closeBracket
  | bar
  | notProvable
  | stop
  | operator (spelling : String)
  | atom (spelling : String)
  | quotedAtom (spelling : String)
  | var (spelling : String)
  | number (spelling : String)
  | string (spelling : String)
deriving DecidableEq, Repr

namespace Token

/-- The source text of a token. -/
def spelling : Token → String
  | neck => ":-"
  | comma => ","
  | semicolon => ";"
  | openParen => "("
  | closeParen => ")"
  | openBracket => "["
  | closeBracket => "]"
  | bar => "|"
  | notProvable => "\\+"
  | stop => "."
  | operator text | atom text | quotedAtom text | var text | number text | string text => text

/-- The name of a token's kind. -/
def kindName : Token → String
  | neck => "Neck"
  | comma => "Comma"
  | semicolon => "Semicolon"
  | openParen => "LParen"
  | closeParen => "RParen"
  | openBracket => "LBracket"
  | closeBracket => "RBracket"
  | bar => "Bar"
  | notProvable => "NotProvable"
  | stop => "End"
  | operator _ => "Op"
  | atom _ => "Atom"
  | quotedAtom _ => "QuotedAtom"
  | var _ => "Var"
  | number _ => "Number"
  | string _ => "Str"

/-- A token as messages show it: the kind, with the quoted spelling where the kind leaves it
open. -/
def describe (token : Token) : String :=
  match token with
  | operator text | atom text | quotedAtom text | var text | number text | string text =>
    token.kindName ++ "(" ++ Text.quoted text ++ ")"
  | _ => token.kindName

end Token

/-- A token with the byte offsets where it starts and where it ends in its source. -/
structure Lexeme where
  token : Token
  start : Nat
  finish : Nat
deriving DecidableEq, Repr

end Statute.Logic
