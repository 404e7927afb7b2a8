import Statute.Regulation.LanguageModel
import Statute.Regulation.Rule

/-!
# Fragments

A fragment is a piece of regulation text from which atoms and rules are extracted. The module also
holds what is sent to create one, and the price that is charged for one.
-/

namespace Statute

/-- A piece of regulation text. -/
structure Fragment where
  id : FragmentId
  title : String
  content : String
  createdAt : Timestamp
  model : LanguageModel
  formalism : Formalism
  source : Option String
  usedTokensIn : Option UInt64
  usedTokensOut : Option UInt64
deriving DecidableEq

namespace Fragment

/-- The length of the text in characters. -/
def characterCount (fragment : Fragment) : Nat :=
  fragment.content.length

/-- The dollars that the fragment has cost so far. -/
def spent (fragment : Fragment) : Float :=
  fragment.model.rates.estimate (fragment.usedTokensIn.getD 0) (fragment.usedTokensOut.getD 0)

/-- The JSON form of a count of tokens. -/
def countJson (count : UInt64) : Json :=
  .integer count.toNat

/-- The JSON form of a fragment. Parts that it does not have are left out. -/
def toJson (fragment : Fragment) : Json :=
  .object <|
    [("id", .integer fragment.id.toInt), ("title", .string fragment.title),
      ("content", .string fragment.content), ("created_at", .string fragment.createdAt.text),
      ("llm_identifier", fragment.model.toJson), ("formalism", fragment.formalism.toJson)] ++
    Json.presentMember "source" .string fragment.source ++
    Json.presentMember "used_tokens_in" countJson fragment.usedTokensIn ++
    Json.presentMember "used_tokens_out" countJson fragment.usedTokensOut

/-- Reads the JSON form of a fragment. -/
def ofJson? (json : Json) : Option Fragment := do
  let record ← json.record? ["id", "title", "content", "created_at", "llm_identifier",
    "formalism", "source", "used_tokens_in", "used_tokens_out"]
  return {
    id := ← record.required "id" Json.int64?
    title := ← record.required "title" Json.string?
    content := ← record.required "content" Json.string?
    createdAt := ← record.required "created_at" Timestamp.ofJson?
    model := ← record.required "llm_identifier" LanguageModel.ofJson?
    formalism := ← record.defaulted "formalism" .prolog Formalism.ofJson?
    source := ← record.defaulted "source" none (Json.nullable? Json.string?)
    usedTokensIn := ← record.defaulted "used_tokens_in" none (Json.nullable? Json.uint64?)
    usedTokensOut := ← record.defaulted "used_tokens_out" none (Json.nullable? Json.uint64?) }

end Fragment

/-- A fragment to be created. -/
structure NewFragment where
  title : String
  content : String
  source : Option String
  model : LanguageModel
  formalism : Formalism
deriving DecidableEq

namespace NewFragment

/-- The JSON form of a fragment to be created. -/
def toJson (fragment : NewFragment) : Json :=
  .object <|
    [("title", .string fragment.title), ("content", .string fragment.content)] ++
    Json.presentMember "source" .string fragment.source ++
    [("llm_identifier", fragment.model.toJson), ("formalism", fragment.formalism.toJson)]

/-- Reads the JSON form of a fragment to be created. -/
def ofJson? (json : Json) : Option NewFragment := do
  let record ← json.record? ["title", "content", "source", "llm_identifier", "formalism"]
  return {
    title := ← record.required "title" Json.string?
    content := ← record.required "content" Json.string?
    source := ← record.optional "source" Json.string?
    model := ← record.required "llm_identifier" LanguageModel.ofJson?
    formalism := ← record.defaulted "formalism" .prolog Formalism.ofJson? }

end NewFragment

/-- Reads the JSON form of a price in dollars. -/
def priceOfJson? (json : Json) : Option Float := do
  let record ← json.record? ["price"]
  record.required "price" Json.double?

end Statute
