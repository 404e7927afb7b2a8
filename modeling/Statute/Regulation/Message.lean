import Statute.Regulation.Rule

/-!
# Chat messages

Messages between a user and the assistant of a regulation.
-/

namespace Statute

/-- Who wrote a message. -/
inductive Author where
  | user
  | agent
deriving DecidableEq, Repr

namespace Author

/-- The name of an author in data. -/
def wireName : Author → String
  | user => "USER"
  | agent => "AGENT"

/-- Reads the JSON form of an author. -/
def ofJson? (json : Json) : Option Author := do
  let name ← json.alternative?
  [user, agent].find? fun author => author.wireName == name

end Author

/-- A message of a chat. -/
structure Message where
  id : Int64
  createdAt : Timestamp
  content : String
  author : Author
deriving DecidableEq

namespace Message

/-- The JSON form of a message. -/
def toJson (message : Message) : Json :=
  .object [("id", .integer message.id.toInt), ("created_at", .string message.createdAt.text),
    ("content", .string message.content), ("agent", .string message.author.wireName)]

/-- Reads the JSON form of a message. -/
def ofJson? (json : Json) : Option Message := do
  let record ← json.record? ["id", "created_at", "content", "agent"]
  return {
    id := ← record.required "id" Json.int64?
    createdAt := ← record.required "created_at" Timestamp.ofJson?
    content := ← record.required "content" Json.string?
    author := ← record.required "agent" Author.ofJson? }

end Message

/-- A message to be sent. -/
structure NewMessage where
  content : String
deriving DecidableEq

namespace NewMessage

/-- The JSON form of a message to be sent. -/
def toJson (message : NewMessage) : Json :=
  .object [("content", .string message.content)]

/-- Reads the JSON form of a message to be sent. -/
def ofJson? (json : Json) : Option NewMessage := do
  let record ← json.record? ["content"]
  return { content := ← record.required "content" Json.string? }

end NewMessage

end Statute
