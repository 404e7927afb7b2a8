import Statute.Json.Decode

/-!
# Queries

Facts that a fragment's rules are evaluated against, and the outcome of the evaluation.
-/

namespace Statute

/-- The facts of a query as program text, one clause on each line. -/
structure Query where
  facts : String
deriving DecidableEq

namespace Query

/-- The JSON form of a query. -/
def toJson (query : Query) : Json :=
  .object [("facts", .string query.facts)]

/-- Reads the JSON form of a query. -/
def ofJson? (json : Json) : Option Query := do
  let record ← json.record? ["facts"]
  return { facts := ← record.required "facts" Json.string? }

end Query

/-- How an evaluation ended. -/
inductive QueryStatus where
  | success
  | failure
  | error
deriving DecidableEq, Repr

namespace QueryStatus

/-- The name of a status in data. -/
def wireName : QueryStatus → String
  | success => "success"
  | failure => "failure"
  | error => "error"

/-- Reads the JSON form of a status. -/
def ofJson? (json : Json) : Option QueryStatus := do
  let name ← json.alternative?
  [success, failure, error].find? fun status => status.wireName == name

end QueryStatus

/-- The value of one variable. -/
structure Binding where
  variableName : String
  value : String
deriving DecidableEq

namespace Binding

/-- The JSON form of a binding. -/
def toJson (binding : Binding) : Json :=
  .object [("variable", .string binding.variableName), ("value", .string binding.value)]

/-- Reads the JSON form of a binding. -/
def ofJson? (json : Json) : Option Binding := do
  let record ← json.record? ["variable", "value"]
  return {
    variableName := ← record.required "variable" Json.string?
    value := ← record.required "value" Json.string? }

end Binding

/-- One solution of a query. -/
structure Solution where
  status : QueryStatus
  bindings : List Binding
  message : String
deriving DecidableEq

namespace Solution

/-- The JSON form of a solution. -/
def toJson (solution : Solution) : Json :=
  .object [("status", .string solution.status.wireName),
    ("answers", .array (solution.bindings.map Binding.toJson)),
    ("message", .string solution.message)]

/-- Reads the JSON form of a solution. -/
def ofJson? (json : Json) : Option Solution := do
  let record ← json.record? ["status", "answers", "message"]
  return {
    status := ← record.required "status" QueryStatus.ofJson?
    bindings := ← record.required "answers" (Json.list? Binding.ofJson?)
    message := ← record.defaulted "message" "" Json.string? }

end Solution

/-- The outcome of a query. -/
structure QueryResponse where
  status : QueryStatus
  solutions : List Solution
deriving DecidableEq

namespace QueryResponse

/-- The message of a query that ended with an error: that of the first solution, unless there is
none or it is empty. -/
def errorMessage? (response : QueryResponse) : Option String :=
  if response.status = .error then
    match response.solutions with
    | first :: _ => some (if first.message.isEmpty then "Unknown error" else first.message)
    | [] => some "Unknown error"
  else none

/-- The JSON form of an outcome. -/
def toJson (response : QueryResponse) : Json :=
  .object [("status", .string response.status.wireName),
    ("answers", .array (response.solutions.map Solution.toJson))]

/-- Reads the JSON form of an outcome. -/
def ofJson? (json : Json) : Option QueryResponse := do
  let record ← json.record? ["status", "answers"]
  return {
    status := ← record.required "status" QueryStatus.ofJson?
    solutions := ← record.required "answers" (Json.list? Solution.ofJson?) }

end QueryResponse

end Statute
