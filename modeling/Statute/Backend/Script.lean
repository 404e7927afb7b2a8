import Statute.Backend.Exchange
import Statute.Backend.Session

/-!
# Scripted backends

A backend whose answers are written down beforehand, by the name of what is asked. It answers the
requests of one name with one answer after the other, of which the last stays, and keeps a record of
what it was asked.
-/

namespace Statute

namespace Request

/-- The name of a request in scripts. -/
def name : Request → String
  | listFragments => "list_fragments"
  | getFragment _ => "get_fragment"
  | createFragment _ => "create_fragment"
  | deleteFragment _ => "delete_fragment"
  | fragmentCost _ => "fragment_cost"
  | programText _ => "formalism_text"
  | listAtoms _ => "list_atoms"
  | generateAtoms _ => "generate_atoms"
  | regenerateAtoms _ _ => "regenerate_atoms"
  | deleteAtoms _ => "delete_atoms"
  | listRules _ => "list_rules"
  | generateRules _ => "generate_rules"
  | regenerateRules _ _ => "regenerate_rules"
  | deleteRules _ => "delete_rules"
  | createRule _ => "create_rule"
  | updateRule _ _ => "update_rule"
  | deleteRule _ => "delete_rule"
  | runExample _ _ => "run_example"
  | generateExamples _ => "generate_examples"
  | listMessages _ => "chat_messages"
  | sendMessage _ _ => "send_chat_message"
  | logPage _ _ => "agentic_logs"

/-- The JSON form of the number that a request is about. -/
def idJson (id : Int64) : Json := .integer id.toInt

/-- The JSON forms of what is passed with a request. -/
def arguments : Request → List Json
  | listFragments => []
  | getFragment id | deleteFragment id | fragmentCost id | programText id | listAtoms id
  | generateAtoms id | deleteAtoms id | listRules id | generateRules id | deleteRules id
  | deleteRule id | generateExamples id | listMessages id => [idJson id]
  | createFragment fragment => [fragment.toJson]
  | createRule rule => [rule.toJson]
  | regenerateAtoms id feedback | regenerateRules id feedback => [idJson id, feedback.toJson]
  | updateRule id change => [idJson id, change.toJson]
  | runExample id query => [idJson id, query.toJson]
  | sendMessage id message => [idJson id, message.toJson]
  | logPage id page => [idJson id, page.toJson]

/-- The request with a name and what is passed with it. -/
def ofCall? (name : String) (arguments : List Json) : Option Request :=
  match name, arguments with
  | "list_fragments", [] => some listFragments
  | "get_fragment", [id] => return getFragment (← id.int64?)
  | "create_fragment", [fragment] => return createFragment (← NewFragment.ofJson? fragment)
  | "delete_fragment", [id] => return deleteFragment (← id.int64?)
  | "fragment_cost", [id] => return fragmentCost (← id.int64?)
  | "formalism_text", [id] => return programText (← id.int64?)
  | "list_atoms", [id] => return listAtoms (← id.int64?)
  | "generate_atoms", [id] => return generateAtoms (← id.int64?)
  | "regenerate_atoms", [id, feedback] =>
    return regenerateAtoms (← id.int64?) (← Feedback.ofJson? feedback)
  | "delete_atoms", [id] => return deleteAtoms (← id.int64?)
  | "list_rules", [id] => return listRules (← id.int64?)
  | "generate_rules", [id] => return generateRules (← id.int64?)
  | "regenerate_rules", [id, feedback] =>
    return regenerateRules (← id.int64?) (← Feedback.ofJson? feedback)
  | "delete_rules", [id] => return deleteRules (← id.int64?)
  | "create_rule", [rule] => return createRule (← NewRule.ofJson? rule)
  | "update_rule", [id, change] => return updateRule (← id.int64?) (← RuleChange.ofJson? change)
  | "delete_rule", [id] => return deleteRule (← id.int64?)
  | "run_example", [id, query] => return runExample (← id.int64?) (← Query.ofJson? query)
  | "generate_examples", [id] => return generateExamples (← id.int64?)
  | "chat_messages", [id] => return listMessages (← id.int64?)
  | "send_chat_message", [id, message] =>
    return sendMessage (← id.int64?) (← NewMessage.ofJson? message)
  | "agentic_logs", [id, page] => return logPage (← id.int64?) (← PageQuery.ofJson? page)
  | _, _ => none

/-- Reads an answer out of a script, where a program stands without the record that it comes in. -/
def scriptedAnswer? : (request : Request) → Json → Option request.Answer
  | programText _, json => json.string?
  | request, json => request.answerOfJson? json

end Request

namespace BackendError

/-- Reads the JSON form of an error in a script. -/
def ofJson? (json : Json) : Option BackendError := do
  let kind ← (← json.member? "kind").string?
  let detail := ((json.member? "message").bind Json.string?).getD ""
  match kind with
  | "Status" => return .status (← (← json.member? "status").uint64?).toNat detail
  | "Network" => return .network detail
  | "Decode" => return .undecodable detail
  | "InvalidBaseUrl" => return .invalidAddress detail
  | _ => none

end BackendError

/-- The answers that are left for each name, and the requests so far. -/
structure BackendScript where
  answers : List (String × List Json)
  requests : List Request

namespace BackendScript

/-- Reads the JSON form of a script: an object with one answer or a list of answers for a name. -/
def ofJson (json : Json) : BackendScript :=
  match json with
  | .object members =>
    ⟨members.map fun
      | (name, .array answers) => (name, answers)
      | (name, answer) => (name, [answer]), []⟩
  | _ => ⟨[], []⟩

/-- The outcome that an answer stands for. -/
def outcomeOf (request : Request) (answer : Json) : request.Outcome :=
  match answer.member? "err" with
  | some error => .error ((BackendError.ofJson? error).getD (.undecodable "script"))
  | none =>
    match request.scriptedAnswer? ((answer.member? "ok").getD .null) with
    | some answer => .ok answer
    | none => .error (.undecodable "script")

/-- Answers a request. A name without answers fails. -/
def answer (request : Request) (script : BackendScript) : request.Outcome × BackendScript :=
  let requests := script.requests ++ [request]
  match script.answers.lookup request.name with
  | none | some [] =>
    (.error (.status 501 (request.name ++ " not scripted")), { script with requests })
  | some (first :: rest) =>
    let left := if rest.isEmpty then [first] else rest
    let others := script.answers.filter fun entry => entry.1 != request.name
    (outcomeOf request first, ⟨(request.name, left) :: others, requests⟩)

/-- What a session is run with when the backend follows a script. -/
def environment (file? : String → Option String) : Session.Environment BackendScript :=
  ⟨answer, Session.inSequence answer, file?, .epoch⟩

/-- The JSON form of the requests so far. -/
def requestsJson (script : BackendScript) : Json :=
  .array (script.requests.map fun request =>
    .array [.string request.name, .array request.arguments])

end BackendScript

end Statute
