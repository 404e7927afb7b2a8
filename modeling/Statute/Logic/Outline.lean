import Statute.Logic.Token.Scan
import Statute.Text.Blank

/-!
# Rule texts without a grammar

Names, heads, tails and literals found in the text of a rule itself. Nothing here fails on text
that is no clause, except where there is no `:-` to split at.
-/

namespace Statute.Logic.Outline

open Statute.Text

/-- The text that stands between the head and the body of a rule. -/
def neckText : List Char := [':', '-']

/-- Characters of a predicate name: lower-case ASCII letters, digits and the underscore. -/
def isPredicateCharacter (character : Char) : Bool :=
  isLowerLetter character || isDigit character || character = '_'

/-- The leading run of predicate characters, or the whole text when there is none. -/
def predicateName (text : String) : String :=
  match text.toList.takeWhile isPredicateCharacter with
  | [] => text
  | name => String.ofList name

/-- The maximal runs of predicate characters in order, with repeats. -/
def predicateRuns : List Char → List (List Char)
  | [] => []
  | character :: rest =>
    if isPredicateCharacter character then
      match rest, predicateRuns rest with
      | next :: _, run :: runs =>
        if isPredicateCharacter next then (character :: run) :: runs
        else [character] :: run :: runs
      | _, runs => [character] :: runs
    else predicateRuns rest

/-- Every run of predicate characters after the last `:-`. Text without `:-` has none. -/
def bodyTokens (definition : String) : List String :=
  match splitLast neckText definition.toList with
  | some (_, body) => (predicateRuns body).map String.ofList
  | none => []

/-- A rule text without `:-`, trimmed. -/
structure MissingNeck where
  definition : String
deriving DecidableEq

/-- The error in words. -/
def MissingNeck.message (error : MissingNeck) : String :=
  "Rule definition has no ':-' separator: " ++ error.definition

/-- The trimmed head and tail of a rule, split at the first `:-`. -/
def splitClause (definition : String) : Except MissingNeck (String × String) :=
  match splitFirst neckText definition.toList with
  | some (head, tail) => .ok (String.ofList (trim head), String.ofList (trim tail))
  | none => .error ⟨trimmed definition⟩

/-- One literal of a rule tail, with the comma or semicolon that follows it. The last literal has
none. -/
structure Literal where
  text : String
  separator : Option Char
deriving DecidableEq

/-- A disjunction follows the literal. -/
def Literal.isDisjunctive (literal : Literal) : Bool :=
  literal.separator == some ';'

/-- The pieces of a text that end with `)` before a comma or a semicolon, with that separator, and
what is left after the last of them. -/
def splitAtBoundaries : List Char → List (List Char × Char) × List Char
  | [] => ([], [])
  | [character] => ([], [character])
  | character :: separator :: after =>
    if character = ')' ∧ (separator = ',' ∨ separator = ';') then
      let (pieces, remainder) := splitAtBoundaries after
      (([character], separator) :: pieces, remainder)
    else
      match splitAtBoundaries (separator :: after) with
      | ([], remainder) => ([], character :: remainder)
      | ((piece, boundary) :: pieces, remainder) =>
        ((character :: piece, boundary) :: pieces, remainder)

/-- A rule tail without surrounding blanks and without its final stop. -/
def tailContent (tail : List Char) : List Char :=
  let content := trim tail
  if content.getLast? = some '.' then content.dropLast else content

/-- The literals of a rule tail. A literal ends at each `)` that a comma or semicolon follows
directly; what is left after the last of them is a literal unless it is blank. -/
def splitLiterals (tail : String) : List Literal :=
  let (pieces, remainder) := splitAtBoundaries (tailContent tail.toList)
  let separated := pieces.map fun (piece, separator) =>
    ⟨String.ofList (trim piece), some separator⟩
  let last := trim remainder
  if last.isEmpty then separated else separated ++ [⟨String.ofList last, none⟩]

end Statute.Logic.Outline
