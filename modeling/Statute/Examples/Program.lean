import Statute.Examples.Constant
import Statute.Examples.Store
import Statute.Regulation.Query

/-!
# Facts as a program

The facts of a fragment become program text, one fact on each line and the lines in ascending
order, so that the text does not depend on the order in which the facts were added.
-/

namespace Statute.ExampleStore

open Statute.Examples

/-- The constant text that a variable of a fact stands for. -/
def argumentText (examples : FragmentExamples) (fact : Fact) (predicate variableName : String) :
    Except ExampleError String :=
  match fact.bindings.lookup variableName >>= examples.constant? with
  | some constant => .ok (quoteConstant constant.value)
  | none => .error (.unboundVariable predicate variableName)

/-- A fact as a clause without body. -/
def renderFact (examples : FragmentExamples) (atoms : List Atom) (fact : Fact) :
    Except ExampleError String := do
  match atoms.find? fun atom => atom.id = fact.atomId with
  | none => .error (.unknownAtom fact.id fact.atomId)
  | some atom =>
    let predicate := Text.trimmed atom.predicate
    let name := String.ofList (Text.trim (Logic.Predicate.nameText predicate.toList))
    let variableNames ← (Logic.Predicate.arguments predicate).mapError .malformedPredicate
    if variableNames.isEmpty then return name ++ "."
    else
      let values ← variableNames.mapM (argumentText examples fact predicate)
      return name ++ "(" ++ Text.joined ", " values ++ ")."

/-- The facts of a fragment as sorted lines; nothing for a fragment without an entry. -/
def factsProgram (store : ExampleStore) (fragment : FragmentId) (atoms : List Atom) :
    Except ExampleError String :=
  match store.get? fragment with
  | none => .ok ""
  | some examples => do
    let lines ← examples.facts.mapM (renderFact examples atoms)
    return Text.joined "\n" (lines.mergeSort fun left right => left ≤ right)

/-- The query that the facts of a fragment make. -/
def query (store : ExampleStore) (fragment : FragmentId) (atoms : List Atom) :
    Except ExampleError Query :=
  (store.factsProgram fragment atoms).map Query.mk

end Statute.ExampleStore
