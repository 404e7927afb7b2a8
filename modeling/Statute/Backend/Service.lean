import Statute.Backend.Exchange
import Statute.Web.Address

/-!
# The backend's address

A backend is reached at an address of the web, to which the path of each request is appended.
-/

namespace Statute

open Statute.Web

/-- A backend, by the text of its address without slashes at the end. -/
structure BackendService where
  base : String
deriving DecidableEq

namespace BackendService

/-- A text without the slashes at its end. -/
def withoutSlashes (text : String) : String :=
  String.ofList (text.toList.reverse.dropWhile (· = '/')).reverse

/-- The backend at an address, which must be one of the web. -/
def ofText (text : String) : Except BackendError BackendService :=
  let base := withoutSlashes text
  match Address.parse base with
  | .ok (.web _) => .ok ⟨base⟩
  | .ok (.other scheme) =>
    .error (.invalidAddress (base ++ ": unsupported scheme '" ++ scheme ++ "'"))
  | .error error => .error (.invalidAddress (base ++ ": " ++ error.message))

/-- The address that a request is sent to. -/
def addressOf? (service : BackendService) (request : HttpRequest) : Option WebAddress :=
  match Address.parse (service.base ++ request.path) with
  | .ok (.web address) =>
    some (request.query.foldl (fun address (name, value) =>
      address.withQueryItem (name ++ "=" ++ value)) address)
  | _ => none

/-- The text that stands for a request that has no address, or none that can be sent. -/
def unbuildableText (address? : Option WebAddress) : String :=
  "builder error" ++ match address? with
    | some address => " for url (" ++ address.text ++ ")"
    | none => ""

/-- Characters that a host may have but the head of a request may not. -/
def unsendableCharacters : List Char := ['"', '\x60', '\x7b', '\x7d']

/-- The address that a request is sent to, or why it cannot be sent. -/
def destination (service : BackendService) (request : HttpRequest) :
    Except BackendError WebAddress :=
  match service.addressOf? request with
  | none => .error (.network (unbuildableText none))
  | some address =>
    if address.host.toList.any unsendableCharacters.contains then
      .error (.network (unbuildableText (some address)))
    else .ok address

/-- The outcome of a request, where a state answers what is sent to an address or closes the
connection. -/
def exchange {σ : Type} (service : BackendService)
    (respond : WebAddress → HttpRequest → σ → Option HttpResponse × σ) (request : Request)
    (state : σ) : request.Outcome × σ :=
  let sent := request.toHttp
  match service.destination sent with
  | .error error => (.error error, state)
  | .ok address =>
    let (response, state) := respond address sent state
    (request.outcomeOfResponse address.text response, state)

end BackendService

end Statute
