import Statute.Number.Integer
import Statute.Viewer.HoverBody
import Statute.Web.Form

/-!
# Visits

What a browser can ask of the viewer, and how that is read from a method, a target and a body. A
request that asks for none of it is refused with a status that says why.
-/

namespace Statute.Viewer

open Statute.Text

/-- A request as it arrives. A body is taken for JSON, and only a request with a body has one. -/
structure Arrival where
  method : String
  target : String
  body : Option String
deriving DecidableEq

/-- What is asked of the viewer. -/
inductive Visit where
  /-- The page itself. -/
  | page
  /-- The highlighted text and its atoms. -/
  | fragment
  /-- The dependency graph. The flags ask for more than the settings do, never for less. -/
  | graph (nodePerRule parsed : Bool)
  /-- The emphasized atom. -/
  | readHover
  | writeHover (atomId : Option AtomId)
  | clearHover
  /-- An emphasized atom other than the known one. -/
  | awaitHover (known : Option AtomId)
deriving DecidableEq

/-- Why a request is refused. -/
inductive Refusal where
  | unknownPath
  | unknownMethod
  | malformedQuery
  | bodyMissing
  | bodyFault (fault : BodyFault)
deriving DecidableEq

/-- The status that a refusal is told with. -/
def Refusal.status : Refusal → Nat
  | unknownPath => 404
  | unknownMethod => 405
  | malformedQuery => 400
  | bodyMissing => 415
  | bodyFault .malformed => 400
  | bodyFault .mistyped => 422

/-- The target without a scheme and a host before its path. -/
def withoutOrigin (target : List Char) : List Char :=
  let isSchemeCharacter (character : Char) : Bool :=
    character.isAlphanum || character = '+' || character = '-' || character = '.'
  match splitFirst "://".toList target with
  | some (scheme, rest) =>
    if !scheme.isEmpty && scheme.all isSchemeCharacter then
      rest.dropWhile fun character => character ≠ '/' && character ≠ '?' && character ≠ '#'
    else target
  | none => target

/-- The path and the query of a target. Without a path the root is meant. -/
def splitTarget (target : String) : String × String :=
  let whole := (withoutOrigin target.toList).takeWhile (· ≠ '#')
  let path := whole.takeWhile (· ≠ '?')
  (if path.isEmpty then "/" else String.ofList path,
    String.ofList ((whole.dropWhile (· ≠ '?')).drop 1))

/-- A value of a query that is read if it is there. -/
def queryValue {α : Type} (query name : String) (read : String → Option α) :
    Except Refusal (Option α) :=
  match Web.formValue (Web.formItems query) name with
  | .error () => .error .malformedQuery
  | .ok none => .ok none
  | .ok (some text) =>
    match read text with
    | some value => .ok (some value)
    | none => .error .malformedQuery

namespace Visit

/-- What a request with a path and a method asks for. Where something can be got, asking for its
head asks for the same thing. -/
def ofParts (method path query : String) (body : Option String) : Except Refusal Visit := do
  let isGet := method = "GET" || method = "HEAD"
  match path with
  | "/" => if isGet then return page else .error .unknownMethod
  | "/api/fragment" => if isGet then return fragment else .error .unknownMethod
  | "/api/graph" =>
    if isGet then
      let nodePerRule ← queryValue query "per_rule" truth?
      let parsed ← queryValue query "parsed" truth?
      return graph (nodePerRule.getD false) (parsed.getD false)
    else .error .unknownMethod
  | "/api/hover" =>
    if isGet then return readHover
    else if method = "PUT" then
      match body with
      | none => .error .bodyMissing
      | some body => return writeHover (← (atomOfBody body).mapError .bodyFault)
    else if method = "DELETE" then return clearHover
    else .error .unknownMethod
  | "/api/hover/changes" =>
    if isGet then return awaitHover (← queryValue query "known" Number.readInt64?)
    else .error .unknownMethod
  | _ => .error .unknownPath

/-- What a request asks for. -/
def ofArrival (arrival : Arrival) : Except Refusal Visit :=
  let (path, query) := splitTarget arrival.target
  ofParts arrival.method path query arrival.body

end Visit

end Statute.Viewer
