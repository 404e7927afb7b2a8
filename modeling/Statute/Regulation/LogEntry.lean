import Statute.Regulation.Rule

/-!
# Log entries

The record of what was exchanged with a language model for a fragment, and the order in which
pages of it are asked for.
-/

namespace Statute

/-- Who produced a logged text. -/
inductive LogSource where
  | system
  | user
  | model
deriving DecidableEq, Repr

namespace LogSource

/-- The name of a source in data. -/
def wireName : LogSource → String
  | system => "SYSTEM"
  | user => "USER"
  | model => "MODEL"

/-- The name of a source for readers. -/
def displayName : LogSource → String
  | system => "system"
  | user => "user"
  | model => "model"

/-- Reads the JSON form of a source. -/
def ofJson? (json : Json) : Option LogSource := do
  let name ← json.alternative?
  [system, user, model].find? fun source => source.wireName == name

end LogSource

/-- An entry of the log of a fragment. -/
structure LogEntry where
  id : Int64
  userPrompt : String
  systemPrompt : Option String
  source : LogSource
  fragmentId : FragmentId
  createdAt : Timestamp
  isError : Bool
deriving DecidableEq

namespace LogEntry

/-- The JSON form of an entry. -/
def toJson (entry : LogEntry) : Json :=
  .object <|
    [("id", .integer entry.id.toInt), ("user_prompt", .string entry.userPrompt)] ++
    Json.presentMember "system_prompt" .string entry.systemPrompt ++
    [("message_source", .string entry.source.wireName),
      ("regulation_fragment_id", .integer entry.fragmentId.toInt),
      ("created_at", .string entry.createdAt.text), ("is_error", .bool entry.isError)]

/-- Reads the JSON form of an entry. -/
def ofJson? (json : Json) : Option LogEntry := do
  let record ← json.record? ["id", "user_prompt", "system_prompt", "message_source",
    "regulation_fragment_id", "created_at", "is_error"]
  return {
    id := ← record.required "id" Json.int64?
    userPrompt := ← record.required "user_prompt" Json.string?
    systemPrompt := ← record.defaulted "system_prompt" none (Json.nullable? Json.string?)
    source := ← record.required "message_source" LogSource.ofJson?
    fragmentId := ← record.required "regulation_fragment_id" Json.int64?
    createdAt := ← record.required "created_at" Timestamp.ofJson?
    isError := ← record.defaulted "is_error" false Json.bool? }

end LogEntry

/-- The direction in which a page of the log is read from its cursor. -/
inductive LogOrder where
  | ascending
  | descending
deriving DecidableEq, Repr

namespace LogOrder

/-- The name of a direction in data. -/
def wireName : LogOrder → String
  | ascending => "asc"
  | descending => "desc"

/-- Reads the JSON form of a direction. -/
def ofJson? (json : Json) : Option LogOrder := do
  let name ← json.alternative?
  [ascending, descending].find? fun order => order.wireName == name

end LogOrder

end Statute
