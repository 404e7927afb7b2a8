import Statute.Backend.Service
import Statute.Backend.Session
import Statute.Json.Printer

/-!
# Routed backends

A backend whose responses are written down beforehand, by method and target. It listens at one port,
answers the requests of one route with one response after the other, of which the last stays, and
keeps a record of what was sent to it.
-/

namespace Statute

/-- What was sent to a backend. -/
structure SentRequest where
  method : HttpMethod
  target : String
  body : Option Json

/-- A backend with the responses that are left for each route, where nothing stands for a closed
connection, and the requests so far. -/
structure BackendRoutes where
  port : Nat
  responses : List (String × List (Option HttpResponse))
  sent : List SentRequest

namespace BackendRoutes

/-- The response when there is no route. -/
def missing (route : String) : HttpResponse :=
  ⟨404, (Json.object [("error", .string ("no route " ++ route))]).render⟩

/-- What is sent to an address arrives here, and can be read. -/
def listensAt (routes : BackendRoutes) (address : Web.WebAddress) : Bool :=
  !address.isSecure && address.connectionPort = routes.port

/-- Responds to a request that has arrived. -/
def respond (address : Web.WebAddress) (request : HttpRequest) (routes : BackendRoutes) :
    Option HttpResponse × BackendRoutes :=
  let route := request.method.name ++ " " ++ address.target
  let sent := routes.sent ++ [⟨request.method, address.target, request.body⟩]
  match routes.responses.lookup route with
  | none | some [] => (some (missing route), { routes with sent })
  | some (first :: rest) =>
    let left := if rest.isEmpty then [first] else rest
    let others := routes.responses.filter fun entry => entry.1 != route
    (first, { routes with responses := (route, left) :: others, sent })

/-- The response to what is sent to an address; nothing when nobody listens there. -/
def receive (address : Web.WebAddress) (request : HttpRequest) (routes : BackendRoutes) :
    Option HttpResponse × BackendRoutes :=
  if routes.listensAt address then respond address request routes else (none, routes)

/-- What a session is run with when the backend has routes. -/
def environment (service : BackendService) (file? : String → Option String) :
    Session.Environment BackendRoutes :=
  ⟨service.exchange receive, Session.inParallel (service.exchange receive), file?, .epoch⟩

end BackendRoutes

end Statute
