import Statute.Regulation.Query

/-!
# Generated examples

Examples that were generated for a fragment: facts with values for the variables of a predicate.
-/

namespace Statute

/-- A predicate with values for its variables. -/
structure ExampleFact where
  predicate : String
  arguments : List Binding
deriving DecidableEq

namespace ExampleFact

/-- The JSON form of a fact. -/
def toJson (fact : ExampleFact) : Json :=
  .object [("predicate", .string fact.predicate),
    ("arguments", .array (fact.arguments.map Binding.toJson))]

/-- Reads the JSON form of a fact. -/
def ofJson? (json : Json) : Option ExampleFact := do
  let record ← json.record? ["predicate", "arguments"]
  return {
    predicate := ← record.required "predicate" Json.string?
    arguments := ← record.defaulted "arguments" [] (Json.list? Binding.ofJson?) }

end ExampleFact

/-- An example in words and in facts. -/
structure Example where
  description : String
  facts : List ExampleFact
deriving DecidableEq

namespace Example

/-- The JSON form of an example. -/
def toJson (value : Example) : Json :=
  .object [("description", .string value.description),
    ("facts", .array (value.facts.map ExampleFact.toJson))]

/-- Reads the JSON form of an example. -/
def ofJson? (json : Json) : Option Example := do
  let record ← json.record? ["description", "facts"]
  return {
    description := ← record.required "description" Json.string?
    facts := ← record.defaulted "facts" [] (Json.list? ExampleFact.ofJson?) }

end Example

/-- The examples of a fragment. -/
structure ExampleSet where
  examples : List Example
deriving DecidableEq

namespace ExampleSet

/-- The JSON form of a set of examples. -/
def toJson (set : ExampleSet) : Json :=
  .object [("examples", .array (set.examples.map Example.toJson))]

/-- Reads the JSON form of a set of examples. -/
def ofJson? (json : Json) : Option ExampleSet := do
  let record ← json.record? ["examples"]
  return { examples := ← record.defaulted "examples" [] (Json.list? Example.ofJson?) }

end ExampleSet

end Statute
