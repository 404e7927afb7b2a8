import Statute.Examples.Store
import Statute.Logic.Outline

/-!
# Taking over generated examples

Generated facts name predicates in words of their own. Each is matched with an atom of the
fragment, by the text of the predicate or else by name and number of arguments; a fact that matches
no atom is passed over. Values become constants, where equal values share one constant.
-/

namespace Statute.ExampleStore

open Statute.Logic

/-- The number of arguments that a generated fact has: those in its text when it shows any, and
those that it gives values for otherwise. -/
def generatedArity? (fact : ExampleFact) : Option Nat :=
  if fact.predicate.toList.contains '(' then (Predicate.arity fact.predicate).toOption
  else some fact.arguments.length

/-- The atom that a generated fact is a fact of. -/
def matchingAtom? (atoms : List Atom) (fact : ExampleFact) : Option Atom :=
  let predicate := Text.trimmed fact.predicate
  match atoms.find? fun atom => Text.trimmed atom.predicate = predicate with
  | some atom => some atom
  | none => do
    let arity ← generatedArity? fact
    atoms.find? fun atom =>
      Outline.predicateName (Text.trimmed atom.predicate) = Outline.predicateName predicate &&
        (Predicate.arity atom.predicate).toOption = some arity

/-- The constant of a fragment with this value; a new one is added when there is none. -/
def intern (store : ExampleStore) (fragment : FragmentId) (value : String) :
    ConstantId × ExampleStore :=
  let examples := store.entry fragment
  match examples.constants.find? fun constant => constant.value = value with
  | some constant => (constant.id, store)
  | none =>
    let id : ConstantId := ⟨store.nextConstant⟩
    let store := store.put fragment
      { examples with constants := examples.constants ++ [⟨id, value⟩] }
    (id, { store with nextConstant := store.nextConstant + 1 })

/-- The bindings that values for variables make. The last value for a variable counts. -/
def internBindings (store : ExampleStore) (fragment : FragmentId)
    (bindings : List (String × ConstantId)) :
    List Binding → List (String × ConstantId) × ExampleStore
  | [] => (bindings, store)
  | argument :: rest =>
    let (constant, store) := store.intern fragment (Text.trimmed argument.value)
    internBindings store fragment (bindVariable argument.variableName constant bindings) rest

/-- Adds one generated fact as a fact of an atom. -/
def addGenerated (store : ExampleStore) (fragment : FragmentId) (atom : Atom)
    (generated : ExampleFact) : ExampleStore :=
  let (bindings, store) := store.internBindings fragment [] generated.arguments
  let examples := store.entry fragment
  let store := store.put fragment
    { examples with facts := examples.facts ++ [⟨⟨store.nextFact⟩, atom.id, bindings⟩] }
  { store with nextFact := store.nextFact + 1 }

/-- Adds the generated facts that match an atom, and tells how many they are. The fragment has an
entry afterwards even when there are none. -/
def loadGenerated (store : ExampleStore) (fragment : FragmentId) (set : ExampleSet)
    (atoms : List Atom) : Nat × ExampleStore :=
  let matched := (set.examples.flatMap (·.facts)).filterMap fun generated =>
    (matchingAtom? atoms generated).map fun atom => (atom, generated)
  let store := matched.foldl
    (fun store (atom, generated) => store.addGenerated fragment atom generated)
    (store.put fragment (store.entry fragment))
  (matched.length, store)

end Statute.ExampleStore
