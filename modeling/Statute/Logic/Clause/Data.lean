import Statute.Json.Decode
import Statute.Logic.Clause

/-!
# Clauses as data

The JSON forms of terms, bodies and clauses, in which every node names its kind.
-/

namespace Statute.Logic

mutual

/-- The JSON form of a term. -/
def Term.toJson : Term → Json
  | .atom name => .object [("type", .string "atom"), ("name", .string name)]
  | .var name => .object [("type", .string "var"), ("name", .string name)]
  | .number text => .object [("type", .string "number"), ("value", .string text)]
  | .string text => .object [("type", .string "str"), ("value", .string text)]
  | .compound functor arguments =>
    .object [("type", .string "compound"), ("functor", .string functor),
      ("args", .array (termsToJson arguments))]
  | .list items none =>
    .object [("type", .string "list"), ("items", .array (termsToJson items)), ("tail", .null)]
  | .list items (some tail) =>
    .object [("type", .string "list"), ("items", .array (termsToJson items)),
      ("tail", tail.toJson)]

/-- The JSON forms of terms in order. -/
def termsToJson : List Term → List Json
  | [] => []
  | term :: rest => term.toJson :: termsToJson rest

end

mutual

/-- The JSON form of a body. -/
def Body.toJson : Body → Json
  | .goal term => .object [("type", .string "goal"), ("value", term.toJson)]
  | .not inner => .object [("type", .string "not"), ("value", inner.toJson)]
  | .and parts => .object [("type", .string "and"), ("value", .array (bodiesToJson parts))]
  | .or parts => .object [("type", .string "or"), ("value", .array (bodiesToJson parts))]

/-- The JSON forms of bodies in order. -/
def bodiesToJson : List Body → List Json
  | [] => []
  | body :: rest => body.toJson :: bodiesToJson rest

end

/-- The JSON form of a clause. A fact has no body. -/
def Clause.toJson (clause : Clause) : Json :=
  .object [("head", clause.head.toJson), ("body", Json.ofOption Body.toJson clause.body)]

end Statute.Logic
