import Statute.Text.CombiningClass
import Statute.Text.Composite

/-!
# Normal form

One way of writing a text with accents: accents are taken apart, marks that do not touch each other
are put into the order of their classes, and what can be composed is composed. It is stated for the
characters that the table of accents covers.
-/

namespace Statute.Text

/-- Puts a character before a text in which marks are in order, behind the marks of a smaller
class. -/
def insertMark (character : Char) : List Char → List Char
  | [] => [character]
  | next :: rest =>
    if combiningClass next ≠ 0 ∧ combiningClass next < combiningClass character then
      next :: insertMark character rest
    else character :: next :: rest

/-- The text with its marks in order. -/
def orderMarks (text : List Char) : List Char :=
  text.foldr insertMark []

/-- Composes a base character with what follows. The marks that stay are given in reverse; a mark is
blocked when one of its class or a greater one stays before it. -/
def composeFrom (base : Char) (marks : List Char) : List Char → List Char
  | [] => base :: marks.reverse
  | next :: rest =>
    let isBlocked := marks.head?.any fun mark => combiningClass next ≤ combiningClass mark
    match if isBlocked then none else compose? base next with
    | some composite => composeFrom composite marks rest
    | none =>
      if combiningClass next = 0 then base :: marks.reverse ++ composeFrom next [] rest
      else composeFrom base (next :: marks) rest

/-- Composes a text whose marks are in order. Marks without a base character stay as they are. -/
def composeAll : List Char → List Char
  | [] => []
  | first :: rest =>
    if combiningClass first = 0 then composeFrom first [] rest else first :: composeAll rest

/-- The normal form of a text. -/
def normalForm (text : List Char) : List Char :=
  composeAll (orderMarks (text.flatMap (decomposed maximumAccents)))

end Statute.Text
