import Statute.Regulation.ExampleSet
import Statute.Regulation.Atom
import Statute.Logic.Predicate

/-!
# Example store

Constants and facts that were put together for fragments. A constant is a value, a fact is an atom
with constants for its variables. Each fragment has constants and facts of its own; the numbers of
constants and facts are given out once for the whole store and never again.
-/

namespace Statute

/-- The number of a constant in a store. -/
structure ConstantId where
  number : Nat
deriving DecidableEq, Repr

/-- The number of a fact in a store. -/
structure FactId where
  number : Nat
deriving DecidableEq, Repr

/-- A value that variables can be bound to. -/
structure Constant where
  id : ConstantId
  value : String
deriving DecidableEq

/-- An atom with constants for its variables, in ascending order of the variables. -/
structure Fact where
  id : FactId
  atomId : AtomId
  bindings : List (String × ConstantId)
deriving DecidableEq

/-- The constants and facts of one fragment, in the order of their numbers. -/
structure FragmentExamples where
  constants : List Constant
  facts : List Fact
deriving DecidableEq

/-- Why an example is refused. -/
inductive ExampleError where
  | emptyConstant
  | unknownConstant (id : ConstantId)
  | unknownFact (id : FactId)
  | unknownAtom (fact : FactId) (atomId : AtomId)
  | unboundVariable (predicate variableName : String)
  | malformedPredicate (cause : Logic.Predicate.MissingBracket)
deriving DecidableEq

/-- The error in words, where constants and facts have these names. -/
def ExampleError.message (constantName : ConstantId → String) (factName : FactId → String) :
    ExampleError → String
  | emptyConstant => "Constant value must not be empty"
  | unknownConstant id => "Unknown constant: " ++ constantName id
  | unknownFact id => "Unknown fact: " ++ factName id
  | unknownAtom fact atomId =>
    "Fact " ++ factName fact ++ " refers to unknown atom " ++ toString atomId.toInt
  | unboundVariable predicate variableName =>
    "Variable " ++ variableName ++ " of " ++ predicate ++ " is not bound"
  | malformedPredicate cause => cause.message

/-- A list of bindings in which a variable has this constant, and all others what they had. -/
def bindVariable (variableName : String) (constant : ConstantId) :
    List (String × ConstantId) → List (String × ConstantId)
  | [] => [(variableName, constant)]
  | (name, bound) :: rest =>
    if variableName = name then (name, constant) :: rest
    else if variableName < name then (variableName, constant) :: (name, bound) :: rest
    else (name, bound) :: bindVariable variableName constant rest

namespace FragmentExamples

/-- Neither constants nor facts. -/
def empty : FragmentExamples := ⟨[], []⟩

/-- The constant with a number. -/
def constant? (examples : FragmentExamples) (id : ConstantId) : Option Constant :=
  examples.constants.find? fun constant => constant.id = id

/-- The fact with a number. -/
def fact? (examples : FragmentExamples) (id : FactId) : Option Fact :=
  examples.facts.find? fun fact => fact.id = id

/-- Without a constant and without the bindings to it. -/
def eraseConstant (examples : FragmentExamples) (id : ConstantId) : FragmentExamples where
  constants := examples.constants.filter fun constant => constant.id ≠ id
  facts := examples.facts.map fun fact =>
    { fact with bindings := fact.bindings.filter fun (_, bound) => bound ≠ id }

/-- Without a fact. -/
def eraseFact (examples : FragmentExamples) (id : FactId) : FragmentExamples :=
  { examples with facts := examples.facts.filter fun fact => fact.id ≠ id }

/-- With a fact's variable bound to a constant, or unbound. -/
def rebind (examples : FragmentExamples) (id : FactId) (variableName : String)
    (constant : Option ConstantId) : FragmentExamples :=
  let change (bindings : List (String × ConstantId)) : List (String × ConstantId) :=
    match constant with
    | some constant => bindVariable variableName constant bindings
    | none => bindings.filter fun (name, _) => name ≠ variableName
  { examples with
    facts := examples.facts.map fun fact =>
      if fact.id = id then { fact with bindings := change fact.bindings } else fact }

end FragmentExamples

/-- Constants and facts of every fragment that has an entry, and the next numbers to give out. -/
structure ExampleStore where
  nextConstant : Nat
  nextFact : Nat
  entries : List (FragmentId × FragmentExamples)

namespace ExampleStore

/-- A store in which no fragment has an entry. Numbers begin with one. -/
def empty : ExampleStore := ⟨1, 1, []⟩

/-- The entry of a fragment. -/
def get? (store : ExampleStore) (fragment : FragmentId) : Option FragmentExamples :=
  store.entries.lookup fragment

/-- The entry of a fragment; one without constants and facts when it has none. -/
def entry (store : ExampleStore) (fragment : FragmentId) : FragmentExamples :=
  (store.get? fragment).getD .empty

/-- With this entry of a fragment, whether it had one or not. -/
def put (store : ExampleStore) (fragment : FragmentId) (examples : FragmentExamples) :
    ExampleStore :=
  { store with
    entries := (fragment, examples) :: store.entries.filter fun (other, _) => other ≠ fragment }

/-- Adds a constant with a value that must not be blank. -/
def addConstant (store : ExampleStore) (fragment : FragmentId) (value : String) :
    Except ExampleError (ConstantId × ExampleStore) :=
  let value := Text.trimmed value
  if value.isEmpty then .error .emptyConstant
  else
    let id : ConstantId := ⟨store.nextConstant⟩
    let examples := store.entry fragment
    let store := store.put fragment
      { examples with constants := examples.constants ++ [⟨id, value⟩] }
    .ok (id, { store with nextConstant := store.nextConstant + 1 })

/-- Removes a constant and every binding to it. Tells whether the fragment had the constant. -/
def removeConstant (store : ExampleStore) (fragment : FragmentId) (id : ConstantId) :
    Bool × ExampleStore :=
  match store.get? fragment with
  | none => (false, store)
  | some examples =>
    ((examples.constant? id).isSome, store.put fragment (examples.eraseConstant id))

/-- Adds a fact of an atom with no variable bound. -/
def addFact (store : ExampleStore) (fragment : FragmentId) (atomId : AtomId) :
    FactId × ExampleStore :=
  let id : FactId := ⟨store.nextFact⟩
  let examples := store.entry fragment
  let store := store.put fragment { examples with facts := examples.facts ++ [⟨id, atomId, []⟩] }
  (id, { store with nextFact := store.nextFact + 1 })

/-- Removes a fact. Tells whether the fragment had it. -/
def removeFact (store : ExampleStore) (fragment : FragmentId) (id : FactId) :
    Bool × ExampleStore :=
  match store.get? fragment with
  | none => (false, store)
  | some examples => ((examples.fact? id).isSome, store.put fragment (examples.eraseFact id))

/-- Binds a variable of a fact to a constant of the same fragment, or unbinds it. -/
def bind (store : ExampleStore) (fragment : FragmentId) (fact : FactId) (variableName : String)
    (constant : Option ConstantId) : Except ExampleError ExampleStore :=
  match store.get? fragment with
  | none => .error (.unknownFact fact)
  | some examples =>
    match constant.filter fun id => (examples.constant? id).isNone with
    | some missing => .error (.unknownConstant missing)
    | none =>
      if (examples.fact? fact).isNone then .error (.unknownFact fact)
      else .ok (store.put fragment (examples.rebind fact variableName constant))

/-- Removes the entry of a fragment. -/
def reset (store : ExampleStore) (fragment : FragmentId) : ExampleStore :=
  { store with entries := store.entries.filter fun (other, _) => other ≠ fragment }

end ExampleStore

end Statute
