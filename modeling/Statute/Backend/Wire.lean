import Statute.Backend.Exchange
import Statute.Json.Printer
import Statute.Web.Address
import Statute.Web.Message

/-!
# Requests on a connection

The text in which a request is sent to the backend over a connection of its own, and how the
response is read when the backend has closed it.
-/

namespace Statute

open Statute.Web

/-- The text of a request to an address. -/
def HttpRequest.wireText (request : HttpRequest) (address : WebAddress) : String :=
  let body := (request.body.map Json.render).getD ""
  let port := (address.port.map fun port => ":" ++ toString port).getD ""
  let content := match request.body with
    | some _ =>
      ["Content-Type: application/json", "Content-Length: " ++ toString body.utf8ByteSize]
    | none => if request.method = .get then [] else ["Content-Length: 0"]
  messageText ([request.method.name ++ " " ++ address.target ++ " HTTP/1.1",
    "Host: " ++ address.host ++ port, "Accept: */*", "Connection: close"] ++ content) body

/-- The response that the bytes on a connection are, if they are one. -/
def HttpResponse.ofBytes? (bytes : List UInt8) : Option HttpResponse := do
  let (head, rest) ← splitHead? bytes
  let head := MessageHead.ofBytes head
  match head.words with
  | _ :: status :: _ =>
    let status ← Number.natural? status.toList
    return ⟨status, textOfBytes (← body? head rest)⟩
  | _ => none

end Statute
