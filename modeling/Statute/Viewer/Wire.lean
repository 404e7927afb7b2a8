import Statute.Json.Printer
import Statute.Viewer.Answer
import Statute.Web.Message

/-!
# Visits on a connection

How the request of a browser is read off a connection, and the text in which it is answered. Pages
from elsewhere may read the answers too.
-/

namespace Statute.Viewer

open Statute.Web

/-- A body of this type is JSON. -/
def isJsonType (type : String) : Bool :=
  let essence := String.ofList ((type.toList.takeWhile (· ≠ ';')).map Char.toLower)
  Text.trimmed essence = "application/json"

/-- The request that the bytes on a connection are; nothing as long as bytes are missing. -/
def Arrival.ofBytes? (bytes : List UInt8) : Option Arrival := do
  let (head, rest) ← splitHead? bytes
  let head := MessageHead.ofBytes head
  let body ← if head.isChunked || head.contentLength?.isSome then body? head rest else some []
  let isJson := ((head.field? "content-type").map isJsonType).getD false
  match head.words with
  | method :: target :: _ =>
    return ⟨method, target, if isJson then some (textOfBytes body) else none⟩
  | _ => return ⟨"", "", none⟩

/-- The words that go with a status. -/
def reason : Nat → String
  | 200 => "OK"
  | 204 => "No Content"
  | 400 => "Bad Request"
  | 404 => "Not Found"
  | 405 => "Method Not Allowed"
  | 415 => "Unsupported Media Type"
  | 422 => "Unprocessable Entity"
  | 502 => "Bad Gateway"
  | _ => ""

/-- What is sent of an answer, as some statuses have no content. -/
def Answer.sentContent (answer : Answer) : Content :=
  if hasBody answer.status then answer.content else .nothing

/-- The text of an answer. -/
def Answer.wireText (answer : Answer) : String :=
  let (typeLine, body) := match answer.sentContent with
    | .nothing => ([], "")
    | .markup text => (["Content-Type: text/html; charset=utf-8"], text)
    | .data json => (["Content-Type: application/json"], json.render)
  messageText (["HTTP/1.1 " ++ toString answer.status ++ " " ++ reason answer.status,
    "Access-Control-Allow-Origin: *", "Access-Control-Allow-Methods: *",
    "Access-Control-Allow-Headers: *", "Connection: close"] ++ typeLine ++
    (if answer.status = 204 then [] else
      ["Content-Length: " ++ toString body.utf8ByteSize])) body

end Statute.Viewer
