import Statute.Json.Decode

/-!
# Atoms

An atom is a predicate that was recognized in a regulation text, together with the places where it
was recognized. Places are half-open ranges of characters.
-/

namespace Statute

/-- The number of an atom. -/
abbrev AtomId := Int64

/-- The number of a fragment of a regulation. -/
abbrev FragmentId := Int64

/-- A half-open range of characters in the text of a fragment. -/
structure Span where
  id : Int64
  atomId : AtomId
  start : UInt64
  finish : UInt64
deriving DecidableEq

namespace Span

/-- The number of characters that a range covers; none when it ends before it starts. -/
def length (span : Span) : Nat :=
  span.finish.toNat - span.start.toNat

/-- Nothing is covered. -/
def isEmpty (span : Span) : Bool :=
  span.length == 0

/-- The JSON form of a span. -/
def toJson (span : Span) : Json :=
  .object [("id", .integer span.id.toInt), ("atom_id", .integer span.atomId.toInt),
    ("start", .integer span.start.toNat), ("end", .integer span.finish.toNat)]

/-- Reads the JSON form of a span. -/
def ofJson? (json : Json) : Option Span := do
  let record ← json.record? ["id", "atom_id", "start", "end"]
  return {
    id := ← record.required "id" Json.int64?
    atomId := ← record.required "atom_id" Json.int64?
    start := ← record.required "start" Json.uint64?
    finish := ← record.required "end" Json.uint64? }

end Span

/-- A predicate that was recognized in a fragment. -/
structure Atom where
  id : AtomId
  fragmentId : FragmentId
  /-- The text of the predicate, such as `bird(X)`. -/
  predicate : String
  description : String
  isNegated : Bool
  /-- The predicate is given by facts and not derived by rules. -/
  isFact : Bool
  spans : List Span
deriving DecidableEq

namespace Atom

/-- The JSON form of an atom. -/
def toJson (atom : Atom) : Json :=
  .object [("id", .integer atom.id.toInt),
    ("regulation_fragment_id", .integer atom.fragmentId.toInt),
    ("predicate", .string atom.predicate), ("description", .string atom.description),
    ("is_negated", .bool atom.isNegated), ("is_fact", .bool atom.isFact),
    ("spans", .array (atom.spans.map Span.toJson))]

/-- Reads the JSON form of an atom. -/
def ofJson? (json : Json) : Option Atom := do
  let record ← json.record? ["id", "regulation_fragment_id", "predicate", "description",
    "is_negated", "is_fact", "spans"]
  return {
    id := ← record.required "id" Json.int64?
    fragmentId := ← record.required "regulation_fragment_id" Json.int64?
    predicate := ← record.required "predicate" Json.string?
    description := ← record.required "description" Json.string?
    isNegated := ← record.required "is_negated" Json.bool?
    isFact := ← record.defaulted "is_fact" false Json.bool?
    spans := ← record.defaulted "spans" [] (Json.list? Span.ofJson?) }

end Atom

end Statute
