import Statute.Logic.Error

/-!
# A place in a sequence of tokens

Readers of terms, bodies and clauses move a cursor over the tokens of a source. The cursor also
counts the levels of nesting that are open, of which there are at most `maximumDepth`.
-/

namespace Statute.Logic

/-- How many levels of nesting may be open at once. -/
def maximumDepth : Nat := 64

/-- A place among the tokens of a source. -/
structure Cursor where
  /-- The tokens from this place on. -/
  rest : List Lexeme
  /-- The number of levels of nesting that are open here. -/
  depth : Nat
  /-- The byte offset where the token before this place starts; zero at the first place. -/
  previousStart : Nat
  /-- The length of the source in bytes. -/
  sourceLength : Nat
deriving DecidableEq

/-- A reader takes tokens from its cursor on and leaves the cursor behind the last of them. -/
abbrev Reader (α : Type) :=
  Cursor → Except SyntaxError (α × Cursor)

namespace Cursor

/-- The first place of a source of the given length in bytes. -/
def atStart (tokens : List Lexeme) (sourceLength : Nat) : Cursor :=
  ⟨tokens, 0, 0, sourceLength⟩

/-- No token is left. -/
def atEnd (cursor : Cursor) : Bool :=
  cursor.rest.isEmpty

/-- The next token. -/
def peek? (cursor : Cursor) : Option Token :=
  cursor.rest.head?.map Lexeme.token

/-- The token after the next one. -/
def peekSecond? (cursor : Cursor) : Option Token :=
  cursor.rest.tail.head?.map Lexeme.token

/-- The byte offset of this place: where the next token starts, or the end of the source. -/
def offset (cursor : Cursor) : Nat :=
  match cursor.rest with
  | [] => cursor.sourceLength
  | lexeme :: _ => lexeme.start

/-- The place behind the next token; the same place when no token is left. -/
def advance (cursor : Cursor) : Cursor :=
  match cursor.rest with
  | [] => cursor
  | lexeme :: rest => { cursor with rest, previousStart := lexeme.start }

/-- The place behind the next token, when that token is the given one. -/
def eat? (wanted : Token) (cursor : Cursor) : Option Cursor :=
  if cursor.peek? = some wanted then some cursor.advance else none

/-- The error that the grammar wants something else at this place. -/
def fault (wanted : Expectation) (cursor : Cursor) : SyntaxError :=
  .grammar cursor.offset (.expected wanted cursor.peek?)

/-- The place behind a token that must come next. -/
def expect (token : Token) (wanted : Expectation) (cursor : Cursor) :
    Except SyntaxError Cursor :=
  match cursor.eat? token with
  | some after => .ok after
  | none => .error (cursor.fault wanted)

/-- Opens a level of nesting. -/
def enter (cursor : Cursor) : Except SyntaxError Cursor :=
  if maximumDepth < cursor.depth + 1 then .error (.tooDeep cursor.offset)
  else .ok { cursor with depth := cursor.depth + 1 }

/-- Closes the level of nesting that was opened last. -/
def leave (cursor : Cursor) : Cursor :=
  { cursor with depth := cursor.depth - 1 }

end Cursor

end Statute.Logic
