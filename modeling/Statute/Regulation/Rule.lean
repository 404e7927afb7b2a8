import Statute.Logic.Outline
import Statute.Regulation.Atom
import Statute.Time.Reading

/-!
# Rules

A rule is a Horn clause that was generated for a fragment, kept as text. The module also holds what
is sent to create a rule, to change one, and to ask for new ones.
-/

namespace Statute

/-- The number of a rule. -/
abbrev RuleId := Int64

/-- Reads the JSON form of a point in time. -/
def Timestamp.ofJson? (json : Json) : Option Timestamp :=
  json.string? >>= Timestamp.parse

/-- A rule of a fragment. -/
structure Rule where
  id : RuleId
  fragmentId : FragmentId
  description : String
  /-- The text of the clause. -/
  definition : String
  isGoal : Bool
  createdAt : Timestamp
deriving DecidableEq

open Text Logic.Outline in
/-- The head of a clause text: what stands before the first `:-`, trimmed. Text without `:-` is a
fact, whose head is all of it but the final stop. -/
def Rule.headOf (definition : String) : String :=
  match splitFirst neckText definition.toList with
  | some (head, _) => String.ofList (trim head)
  | none => String.ofList (trimRight (tailContent definition.toList))

open Text Logic.Outline in
/-- The body of a clause text: what stands behind the last `:-`, trimmed. Facts have none. -/
def Rule.bodyOf? (definition : String) : Option String :=
  (splitLast neckText definition.toList).map fun (_, body) => String.ofList (trim body)

namespace Rule

/-- The text of the rule's head. -/
def head (rule : Rule) : String :=
  headOf rule.definition

/-- The text of the rule's body; facts have none. -/
def body? (rule : Rule) : Option String :=
  bodyOf? rule.definition

/-- The JSON form of a rule. -/
def toJson (rule : Rule) : Json :=
  .object [("id", .integer rule.id.toInt),
    ("regulation_fragment_id", .integer rule.fragmentId.toInt),
    ("description", .string rule.description), ("definition", .string rule.definition),
    ("is_goal", .bool rule.isGoal), ("created_at", .string rule.createdAt.text)]

/-- Reads the JSON form of a rule. -/
def ofJson? (json : Json) : Option Rule := do
  let record ← json.record? ["id", "regulation_fragment_id", "description", "definition",
    "is_goal", "created_at"]
  return {
    id := ← record.required "id" Json.int64?
    fragmentId := ← record.required "regulation_fragment_id" Json.int64?
    description := ← record.required "description" Json.string?
    definition := ← record.required "definition" Json.string?
    isGoal := ← record.required "is_goal" Json.bool?
    createdAt := ← record.required "created_at" Timestamp.ofJson? }

end Rule

/-- A rule to be created. -/
structure NewRule where
  fragmentId : FragmentId
  description : String
  definition : String
  isGoal : Bool
deriving DecidableEq

namespace NewRule

/-- The JSON form of a rule to be created. -/
def toJson (rule : NewRule) : Json :=
  .object [("regulation_fragment_id", .integer rule.fragmentId.toInt),
    ("description", .string rule.description), ("definition", .string rule.definition),
    ("is_goal", .bool rule.isGoal)]

/-- Reads the JSON form of a rule to be created. -/
def ofJson? (json : Json) : Option NewRule := do
  let record ← json.record? ["regulation_fragment_id", "description", "definition", "is_goal"]
  return {
    fragmentId := ← record.required "regulation_fragment_id" Json.int64?
    description := ← record.required "description" Json.string?
    definition := ← record.required "definition" Json.string?
    isGoal := ← record.defaulted "is_goal" false Json.bool? }

end NewRule

/-- New values for some of a rule's parts. -/
structure RuleChange where
  description : Option String
  definition : Option String
  isGoal : Option Bool
deriving DecidableEq

namespace RuleChange

/-- The JSON form of a change, with the changed parts only. -/
def toJson (change : RuleChange) : Json :=
  .object <|
    Json.presentMember "description" .string change.description ++
    Json.presentMember "definition" .string change.definition ++
    Json.presentMember "is_goal" .bool change.isGoal

/-- Reads the JSON form of a change. -/
def ofJson? (json : Json) : Option RuleChange := do
  let record ← json.record? ["description", "definition", "is_goal"]
  return {
    description := ← record.optional "description" Json.string?
    definition := ← record.optional "definition" Json.string?
    isGoal := ← record.optional "is_goal" Json.bool? }

end RuleChange

/-- Remarks for the next generation of atoms or rules. -/
structure Feedback where
  feedback : String
deriving DecidableEq

namespace Feedback

/-- The JSON form of feedback. -/
def toJson (value : Feedback) : Json :=
  .object [("feedback", .string value.feedback)]

/-- Reads the JSON form of feedback. -/
def ofJson? (json : Json) : Option Feedback := do
  let record ← json.record? ["feedback"]
  return { feedback := ← record.required "feedback" Json.string? }

end Feedback

end Statute
