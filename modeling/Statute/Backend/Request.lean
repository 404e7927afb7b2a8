import Statute.Backend.Error
import Statute.Regulation.ExampleSet
import Statute.Regulation.Fragment
import Statute.Regulation.LogEntry
import Statute.Regulation.Message

/-!
# Requests

What can be asked of the backend that formalizes fragments, and what it answers. The type of an
answer belongs to its request, so that a list of atoms is never taken for a list of rules.
-/

namespace Statute

/-- A page of the log: up to `limit` entries after the cursor in ascending order, or before it in
descending order. Without cursor it begins at the first or the last entry. -/
structure PageQuery where
  cursor : Option Int64
  limit : Option Nat
  order : LogOrder
deriving DecidableEq

/-- The JSON form of a page query. -/
def PageQuery.toJson (page : PageQuery) : Json :=
  .object [("cursor", Json.ofOption (fun cursor => .integer cursor.toInt) page.cursor),
    ("limit", Json.ofOption (fun limit => .integer (Int.ofNat limit)) page.limit),
    ("order", .string page.order.wireName)]

/-- Reads the JSON form of a page query. Without order it is descending. -/
def PageQuery.ofJson? (json : Json) : Option PageQuery := do
  let record ← json.record? ["cursor", "limit", "order"]
  let limit ← record.optional "limit" Json.uint64?
  return {
    cursor := ← record.optional "cursor" Json.int64?
    limit := limit.map UInt64.toNat
    order := (← record.optional "order" LogOrder.ofJson?).getD .descending }

/-- A request to the backend. -/
inductive Request where
  | listFragments
  | getFragment (id : FragmentId)
  | createFragment (fragment : NewFragment)
  | deleteFragment (id : FragmentId)
  /-- The price of the tokens spent on a fragment. -/
  | fragmentCost (id : FragmentId)
  /-- The whole program that the backend reasons with. -/
  | programText (id : FragmentId)
  | listAtoms (fragment : FragmentId)
  | generateAtoms (fragment : FragmentId)
  | regenerateAtoms (fragment : FragmentId) (feedback : Feedback)
  | deleteAtoms (fragment : FragmentId)
  | listRules (fragment : FragmentId)
  | generateRules (fragment : FragmentId)
  | regenerateRules (fragment : FragmentId) (feedback : Feedback)
  | deleteRules (fragment : FragmentId)
  | createRule (rule : NewRule)
  | updateRule (id : RuleId) (change : RuleChange)
  | deleteRule (id : RuleId)
  /-- Evaluates a fragment's program with facts. -/
  | runExample (fragment : FragmentId) (query : Query)
  | generateExamples (fragment : FragmentId)
  | listMessages (regulation : FragmentId)
  | sendMessage (regulation : FragmentId) (message : NewMessage)
  | logPage (fragment : FragmentId) (page : PageQuery)
deriving DecidableEq

namespace Request

/-- What the backend answers to a request. -/
abbrev Answer : Request → Type
  | listFragments => List Fragment
  | getFragment _ => Fragment
  | createFragment _ => Fragment
  | deleteFragment _ => Unit
  | fragmentCost _ => Float
  | programText _ => String
  | listAtoms _ => List Atom
  | generateAtoms _ => Unit
  | regenerateAtoms _ _ => Unit
  | deleteAtoms _ => Unit
  | listRules _ => List Rule
  | generateRules _ => Unit
  | regenerateRules _ _ => Unit
  | deleteRules _ => Unit
  | createRule _ => Rule
  | updateRule _ _ => Rule
  | deleteRule _ => Unit
  | runExample _ _ => QueryResponse
  | generateExamples _ => ExampleSet
  | listMessages _ => List Message
  | sendMessage _ _ => Message
  | logPage _ _ => List LogEntry

/-- The outcome of a request. -/
abbrev Outcome (request : Request) : Type :=
  Except BackendError request.Answer

end Request

end Statute
