import Statute.Logic.Clause
import Statute.Logic.Clause.Cursor
import Statute.Logic.Token.Scan

/-!
# Reading clauses

The grammar of clauses, one reader for each of its rules:

```text
clause      := primary [":-" body] "."
body        := conjunction (";" conjunction)*
conjunction := unary ("," unary)*
unary       := "\+" unary | "not" "(" body ")" | "(" body ")" | goal
goal        := sum [comparison sum]
sum         := product (("+" | "-") product)*
product     := primary (("*" | "/") primary)*
primary     := var | number | "-" number | string | name ["(" goals ")"]
             | "[" [goals ["|" sum]] "]" | "(" sum ")"
goals       := goal ("," goal)*
```

Every way from a rule back to itself opens a level of nesting, and no more than `maximumDepth`
levels may be open. The recursion is on the number of levels that are left: `levels` is that
number for the cursor that a reader starts at, and a reader without levels refuses its input just
as the cursor does.
-/

namespace Statute.Logic

namespace Reader

/-- Further items, each after a separator. There are at most as many as there are tokens left. -/
def further {α : Type} (separator : Token) (item : Reader α) : Nat → Reader (List α)
  | 0, cursor => .ok ([], cursor)
  | bound + 1, cursor =>
    match cursor.eat? separator with
    | none => .ok ([], cursor)
    | some cursor => do
      let (value, cursor) ← item cursor
      let (values, cursor) ← further separator item bound cursor
      return (value :: values, cursor)

/-- One item or more with a separator between neighbours. -/
def separated {α : Type} (separator : Token) (item : Reader α) : Reader (List α) := fun cursor => do
  let (value, cursor) ← item cursor
  let (values, cursor) ← further separator item cursor.rest.length cursor
  return (value :: values, cursor)

/-- Extends a left operand by operators of one rank, which group to the left. There are at most as
many as there are tokens left. -/
def operations (spellings : List String) (operand : Reader Term) : Nat → Term → Reader Term
  | 0, left, cursor => .ok (left, cursor)
  | bound + 1, left, cursor =>
    match cursor.peek? with
    | some (.operator spelling) =>
      if spellings.contains spelling then do
        let (right, cursor) ← operand cursor.advance
        operations spellings operand bound (.compound spelling [left, right]) cursor
      else .ok (left, cursor)
    | _ => .ok (left, cursor)

/-- Operands with operators of one rank between them. -/
def operandsWith (spellings : List String) (operand : Reader Term) : Reader Term :=
  fun cursor => do
    let (left, cursor) ← operand cursor
    operations spellings operand cursor.rest.length left cursor

/-- Products of primaries. -/
def product (primary : Reader Term) : Reader Term :=
  operandsWith ["*", "/"] primary

/-- Sums of products. -/
def sum (primary : Reader Term) : Reader Term :=
  operandsWith ["+", "-"] (product primary)

/-- The operators that compare two terms. -/
def comparisonOperators : List String :=
  ["=", "\\=", "==", "\\==", "=:=", "=\\=", "<", ">", "=<", ">=", "is"]

/-- The comparison that a token stands for. -/
def comparison? : Option Token → Option String
  | some (.operator spelling) =>
    if comparisonOperators.contains spelling then some spelling else none
  | some (.atom "is") => some "is"
  | _ => none

/-- A sum, or a comparison of two. -/
def goal (primary : Reader Term) : Reader Term := fun cursor => do
  let (left, cursor) ← sum primary cursor
  match comparison? cursor.peek? with
  | none => return (left, cursor)
  | some spelling => do
    let (right, cursor) ← sum primary cursor.advance
    return (.compound spelling [left, right], cursor)

/-- The arguments of a compound term or the items of a list. -/
def arguments (primary : Reader Term) : Reader (List Term) :=
  separated .comma (goal primary)

/-- What may follow a name: its arguments in parentheses. -/
def callable (primary : Reader Term) (name : String) : Reader Term := fun cursor =>
  match cursor.eat? .openParen with
  | none => .ok (.atom name, cursor)
  | some cursor => do
    let (values, cursor) ← arguments primary cursor
    let cursor ← cursor.expect .closeParen .closeParen
    return (.compound name values, cursor)

/-- What follows an opening bracket. -/
def list (primary : Reader Term) : Reader Term := fun cursor =>
  match cursor.eat? .closeBracket with
  | some cursor => .ok (.list [] none, cursor)
  | none => do
    let (items, cursor) ← arguments primary cursor
    match cursor.eat? .bar with
    | none => do
      let cursor ← cursor.expect .closeBracket .closeBracket
      return (.list items none, cursor)
    | some cursor => do
      let (tail, cursor) ← sum primary cursor
      let cursor ← cursor.expect .closeBracket .closeBracket
      return (.list items (some tail), cursor)

/-- The text between the quotation marks of a quoted token. -/
def unquote (spelling : String) : String :=
  String.ofList spelling.toList.tail.dropLast

/-- A primary inside the level that was opened for it. -/
def primaryInside (primary : Reader Term) : Reader Term := fun cursor =>
  match cursor.peek? with
  | some (.var name) => .ok (.var name, cursor.advance)
  | some (.number text) => .ok (.number text, cursor.advance)
  | some (.operator "-") =>
    match cursor.peekSecond? with
    | some (.number text) => .ok (.number ("-" ++ text), cursor.advance.advance)
    | _ => .error (cursor.fault .term)
  | some (.string spelling) => .ok (.string (unquote spelling), cursor.advance)
  | some (.atom name) => callable primary name cursor.advance
  | some (.quotedAtom spelling) => callable primary (unquote spelling) cursor.advance
  | some .openBracket => list primary cursor.advance
  | some .openParen => do
    let (inner, cursor) ← sum primary cursor.advance
    let cursor ← cursor.expect .closeParen .closeParen
    return (inner, cursor)
  | _ => .error (cursor.fault .term)

/-- A primary, with the levels that it may still open. -/
def primary : (levels : Nat) → Reader Term
  | 0, cursor => .error (.tooDeep cursor.offset)
  | levels + 1, cursor => do
    let cursor ← cursor.enter
    let (term, cursor) ← primaryInside (primary levels) cursor
    return (term, cursor.leave)

/-- A single part stands for itself, several are joined. -/
def collapse (join : List Body → Body) : List Body → Body
  | [only] => only
  | parts => join parts

/-- Goals and negations joined by commas. -/
def conjunction (unary : Reader Body) : Reader Body := fun cursor => do
  let (parts, cursor) ← separated .comma unary cursor
  return (collapse .and parts, cursor)

/-- A body inside the level that was opened for it. -/
def bodyInside (unary : Reader Body) : Reader Body := fun cursor => do
  let (parts, cursor) ← separated .semicolon (conjunction unary) cursor
  return (collapse .or parts, cursor)

/-- One part of a conjunction inside the level that was opened for it. -/
def unaryInside (unary body : Reader Body) (primary : Reader Term) : Reader Body := fun cursor =>
  match cursor.peek? with
  | some .notProvable => do
    let (inner, cursor) ← unary cursor.advance
    return (.not inner, cursor)
  | some .openParen => do
    let (inner, cursor) ← body cursor.advance
    let cursor ← cursor.expect .closeParen .closeParen
    return (inner, cursor)
  | next =>
    if next = some (.atom "not") ∧ cursor.peekSecond? = some .openParen then do
      let (inner, cursor) ← body cursor.advance.advance
      let cursor ← cursor.expect .closeParen .closeParen
      return (.not inner, cursor)
    else do
      let (term, cursor) ← goal primary cursor
      return (.goal term, cursor)

mutual

/-- A body, with the levels that it may still open. -/
def body : (levels : Nat) → Reader Body
  | 0, cursor => .error (.tooDeep cursor.offset)
  | levels + 1, cursor => do
    let cursor ← cursor.enter
    let (value, cursor) ← bodyInside (unary levels) cursor
    return (value, cursor.leave)

/-- One part of a conjunction, with the levels that it may still open. -/
def unary : (levels : Nat) → Reader Body
  | 0, cursor => .error (.tooDeep cursor.offset)
  | levels + 1, cursor => do
    let cursor ← cursor.enter
    let (value, cursor) ← unaryInside (unary levels) (body levels) (primary levels) cursor
    return (value, cursor.leave)

end

/-- A clause with its final stop. -/
def clause : Reader Clause := fun cursor => do
  let levels := maximumDepth - cursor.depth
  let (head, cursor) ← primary levels cursor
  if head.isCallable then
    match cursor.eat? .neck with
    | none => do
      let cursor ← cursor.expect .stop .stop
      return (⟨head, none⟩, cursor)
    | some cursor => do
      let (value, cursor) ← body levels cursor
      let cursor ← cursor.expect .stop .stop
      return (⟨head, some value⟩, cursor)
  else .error (.grammar cursor.previousStart (.headNotCallable head))

/-- Clauses up to the end of the tokens, of which each clause takes at least one. -/
def clauses : (bound : Nat) → Reader (List Clause)
  | 0, cursor => .ok ([], cursor)
  | bound + 1, cursor =>
    if cursor.atEnd then .ok ([], cursor)
    else do
      let (value, cursor) ← clause cursor
      let (values, cursor) ← clauses bound cursor
      return (value :: values, cursor)

end Reader

/-- The one clause that a source text consists of. -/
def parseClause (source : String) : Except SyntaxError Clause := do
  let tokens ← tokenize source
  let (clause, cursor) ←
    Reader.clause (Cursor.atStart tokens (Text.byteLength source.toList))
  if cursor.atEnd then return clause
  else .error (.grammar cursor.offset (.trailingInput cursor.peek?))

/-- The clauses of a source text in order. -/
def parseProgram (source : String) : Except SyntaxError (List Clause) := do
  let tokens ← tokenize source
  let (clauses, _) ←
    Reader.clauses tokens.length (Cursor.atStart tokens (Text.byteLength source.toList))
  return clauses

end Statute.Logic
