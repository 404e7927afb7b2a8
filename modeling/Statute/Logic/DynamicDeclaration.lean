import Statute.Logic.Predicate
import Statute.Regulation.Atom

/-!
# Declarations of facts

The declarations that allow facts of predicates to be added to a program: that of one predicate, and
those of the atoms of a fragment, line by line.
-/

namespace Statute.Logic.Predicate

open Text

/-- The declaration that facts of a predicate may be added, with the predicate as a comment. A
predicate that rules derive gets its declaration as a comment altogether. -/
def dynamicDeclaration (predicate : String) (isFact : Bool) : Except MissingBracket String := do
  let text := trimmed predicate
  let name := String.ofList (trim (nameText text.toList))
  let count ← arity text
  let declaration := ":- dynamic " ++ name ++ "/" ++ toString count ++ ". % " ++ text
  if isFact then return declaration
  else return "%" ++ declaration ++ "; This is a derived predicate, not a fact."

end Statute.Logic.Predicate

namespace Statute.Logic

/-- The declarations of atoms, one line for each. Derived predicates are declared in comments. -/
def dynamicDeclarations (atoms : List Atom) : Except Predicate.MissingBracket String := do
  let lines ← atoms.mapM fun atom => Predicate.dynamicDeclaration atom.predicate atom.isFact
  return Text.joined "\n" lines

end Statute.Logic
