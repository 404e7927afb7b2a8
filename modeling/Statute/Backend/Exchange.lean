import Statute.Backend.Request
import Statute.Json.Reader
import Statute.Web.Message

/-!
# Requests over HTTP

Each request has a method and a target, and perhaps a JSON body; each response is read as the answer
to its request. Where nothing is answered but success, the body of the response does not matter.
-/

namespace Statute

/-- The methods in use. -/
inductive HttpMethod where
  | get
  | post
  | put
  | delete
deriving DecidableEq, Repr

/-- The name of a method. -/
def HttpMethod.name : HttpMethod → String
  | get => "GET"
  | post => "POST"
  | put => "PUT"
  | delete => "DELETE"

/-- What is sent to the backend. -/
structure HttpRequest where
  method : HttpMethod
  /-- The path below the address of the backend. -/
  path : String
  query : List (String × String)
  body : Option Json

/-- What comes back. -/
structure HttpResponse where
  status : Nat
  body : String
deriving DecidableEq

namespace Request

/-- The path of a fragment, or of something that belongs to it. -/
def fragmentPath (fragment : FragmentId) (rest : String) : String :=
  "/regulation-fragments/" ++ toString fragment.toInt ++ rest

/-- The path of a rule. -/
def rulePath (id : RuleId) : String :=
  "/rules/" ++ toString id.toInt

/-- The path of the chat of a regulation. -/
def chatPath (regulation : FragmentId) : String :=
  "/regulations/" ++ toString regulation.toInt ++ "/chat"

/-- The query that asks for a page of the log. -/
def pageItems (page : PageQuery) : List (String × String) :=
  ("order-date", page.order.wireName) ::
    (page.cursor.map fun cursor => ("cursor", toString cursor.toInt)).toList ++
    (page.limit.map fun limit => ("limit", toString limit)).toList

/-- What is sent for a request. -/
def toHttp : Request → HttpRequest
  | listFragments => ⟨.get, "/regulation-fragments", [], none⟩
  | getFragment id => ⟨.get, fragmentPath id "", [], none⟩
  | createFragment fragment => ⟨.post, "/regulation-fragments", [], some fragment.toJson⟩
  | deleteFragment id => ⟨.delete, fragmentPath id "", [], none⟩
  | fragmentCost id => ⟨.get, fragmentPath id "/cost", [], none⟩
  | programText id => ⟨.get, fragmentPath id "/formalism", [], none⟩
  | listAtoms fragment => ⟨.get, fragmentPath fragment "/atoms", [], none⟩
  | generateAtoms fragment => ⟨.post, fragmentPath fragment "/atoms/generate", [], none⟩
  | regenerateAtoms fragment feedback =>
    ⟨.post, fragmentPath fragment "/atoms/regenerate", [], some feedback.toJson⟩
  | deleteAtoms fragment => ⟨.delete, fragmentPath fragment "/atoms", [], none⟩
  | listRules fragment => ⟨.get, fragmentPath fragment "/rules", [], none⟩
  | generateRules fragment => ⟨.post, fragmentPath fragment "/rules/generate", [], none⟩
  | regenerateRules fragment feedback =>
    ⟨.post, fragmentPath fragment "/rules/regenerate", [], some feedback.toJson⟩
  | deleteRules fragment => ⟨.delete, fragmentPath fragment "/rules", [], none⟩
  | createRule rule => ⟨.post, "/rules", [], some rule.toJson⟩
  | updateRule id change => ⟨.put, rulePath id, [], some change.toJson⟩
  | deleteRule id => ⟨.delete, rulePath id, [], none⟩
  | runExample fragment query =>
    ⟨.post, fragmentPath fragment "/run-example", [], some query.toJson⟩
  | generateExamples fragment => ⟨.post, fragmentPath fragment "/generate-examples", [], none⟩
  | listMessages regulation => ⟨.get, chatPath regulation, [], none⟩
  | sendMessage regulation message => ⟨.post, chatPath regulation, [], some message.toJson⟩
  | logPage fragment page =>
    ⟨.get, fragmentPath fragment "/agentic-logs", pageItems page, none⟩

/-- Reads the text of a program out of the record that it comes in. -/
def programOfJson? (json : Json) : Option String := do
  let record ← json.record? ["text"]
  record.required "text" Json.string?

/-- Reads the answer to a request out of JSON. Nothing is expected where success is all. -/
def answerOfJson? : (request : Request) → Json → Option request.Answer
  | listFragments, json => json.list? Fragment.ofJson?
  | getFragment _, json => Fragment.ofJson? json
  | createFragment _, json => Fragment.ofJson? json
  | deleteFragment _, _ => some ()
  | fragmentCost _, json => priceOfJson? json
  | programText _, json => programOfJson? json
  | listAtoms _, json => json.list? Atom.ofJson?
  | generateAtoms _, _ => some ()
  | regenerateAtoms _ _, _ => some ()
  | deleteAtoms _, _ => some ()
  | listRules _, json => json.list? Rule.ofJson?
  | generateRules _, _ => some ()
  | regenerateRules _ _, _ => some ()
  | deleteRules _, _ => some ()
  | createRule _, json => Rule.ofJson? json
  | updateRule _ _, json => Rule.ofJson? json
  | deleteRule _, _ => some ()
  | runExample _ _, json => QueryResponse.ofJson? json
  | generateExamples _, json => ExampleSet.ofJson? json
  | listMessages _, json => json.list? Message.ofJson?
  | sendMessage _ _, json => Message.ofJson? json
  | logPage _ _, json => json.list? LogEntry.ofJson?

/-- Nothing but success is answered to the request. -/
def answersNothing : Request → Bool
  | deleteFragment _ | generateAtoms _ | regenerateAtoms _ _ | deleteAtoms _ | generateRules _
  | regenerateRules _ _ | deleteRules _ | deleteRule _ => true
  | _ => false

end Request

namespace HttpResponse

/-- The status says that the request was carried out. -/
def isSuccess (response : HttpResponse) : Bool :=
  200 ≤ response.status && response.status < 300

/-- The body as it is transferred; some statuses have none. -/
def content (response : HttpResponse) : String :=
  if Web.hasBody response.status then response.body else ""

/-- Whether a response with this status ends an exchange: it has three digits and is no interim
response. -/
def isFinal (response : HttpResponse) : Bool :=
  response.status = 101 || (200 ≤ response.status && response.status < 1000)

mutual

/-- A value is a plain document: arrays and objects stand in each other at most `levels` deep, every
number has a double, and every string is text. -/
def isPlain (levels : Nat) : Json → Bool
  | .unreadable => false
  | .real numeral => numeral.toDouble?.isSome
  | .integer value => (Json.Numeral.ofInt value).toDouble?.isSome
  | .array items =>
    match levels with
    | 0 => false
    | deeper + 1 => arePlain deeper items
  | .object members =>
    match levels with
    | 0 => false
    | deeper + 1 => arePlainMembers deeper members
  | _ => true

/-- Every item is a plain document. -/
def arePlain (levels : Nat) : List Json → Bool
  | [] => true
  | item :: rest => isPlain levels item && arePlain levels rest

/-- The value of every member is a plain document. -/
def arePlainMembers (levels : Nat) : List (String × Json) → Bool
  | [] => true
  | (_, value) :: rest => isPlain levels value && arePlainMembers levels rest

end

/-- How deep arrays and objects may stand in each other. -/
def maximumDepth : Nat := 127

/-- The last member `error` of a JSON object, when it is a string. -/
def errorMember? (body : String) : Option String := do
  let document ← Json.parse body
  match document with
  | .object members =>
    if isPlain maximumDepth document then members.reverse.lookup "error" >>= Json.string? else none
  | _ => none

/-- What went wrong in the backend's words: the member `error` of its answer, or else all of it. -/
def failureText (response : HttpResponse) : String :=
  (errorMember? response.content).getD (Text.trimmed response.content)

end HttpResponse

/-- The text that stands for an answer of the wrong form. -/
def undecodableText : String := "error decoding response body"

/-- The text that stands for a request to an address that was not answered. -/
def unansweredText (address : String) : String :=
  "error sending request for url (" ++ address ++ ")"

/-- The outcome of a request sent to an address, from the response to it; nothing when the
connection was closed without one. -/
def Request.outcomeOfResponse (request : Request) (address : String) :
    Option HttpResponse → request.Outcome
  | none => .error (.network (unansweredText address))
  | some response =>
    if !response.isFinal then .error (.network (unansweredText address))
    else if !response.isSuccess then .error (.status response.status response.failureText)
    else
      let json := if request.answersNothing then some .null else Json.parse response.content
      match json >>= request.answerOfJson? with
      | some answer => .ok answer
      | none => .error (.undecodable undecodableText)

end Statute
