import Statute.Web.Host

/-!
# Addresses

Addresses of the web. An address is read as browsers read it: blanks around it and line breaks in
it are left out, dots in its path are resolved, and characters are encoded where they must be.
Addresses of other kinds than `http` and `https` are only checked.
-/

namespace Statute.Web

open Statute.Text Statute.Number

/-- An address of the web. -/
structure WebAddress where
  /-- The connection is encrypted. -/
  isSecure : Bool
  host : String
  /-- The port, when it is not the usual one. -/
  port : Option Nat
  /-- The path, which begins with a slash. -/
  path : String
  query : Option String
  fragment : Option String
deriving DecidableEq

/-- An address. -/
inductive Address where
  | web (address : WebAddress)
  /-- An address of another kind, named by its scheme. -/
  | other (scheme : String)
deriving DecidableEq

namespace WebAddress

/-- What is asked of the host: the path and the query. -/
def target (address : WebAddress) : String :=
  address.path ++ (address.query.map ("?" ++ ·)).getD ""

/-- The address as text, without names and passwords. -/
def text (address : WebAddress) : String :=
  (if address.isSecure then "https://" else "http://") ++ address.host ++
    (address.port.map fun port => ":" ++ toString port).getD "" ++ address.target ++
    (address.fragment.map ("#" ++ ·)).getD ""

/-- The port that is connected to. -/
def connectionPort (address : WebAddress) : Nat :=
  address.port.getD (if address.isSecure then 443 else 80)

/-- With another item at the end of the query. -/
def withQueryItem (address : WebAddress) (item : String) : WebAddress :=
  { address with
    query := some (match address.query with
      | none | some "" => item
      | some query => query ++ "&" ++ item) }

end WebAddress

namespace Address

/-- The schemes whose addresses have a host by necessity. -/
def specialSchemes : List String := ["http", "https", "ws", "wss", "ftp"]

/-- A text without controls and spaces around it, and without tabs and line breaks. -/
def cleaned (text : List Char) : List Char :=
  let isEdge (character : Char) : Bool := character.toNat ≤ 0x20
  let inner := ((text.dropWhile isEdge).reverse.dropWhile isEdge).reverse
  inner.filter fun character => character ≠ '\t' && character ≠ '\n' && character ≠ '\r'

/-- The scheme before the first colon, in small letters, and what follows the colon. -/
def splitScheme? (text : List Char) : Option (String × List Char) := do
  let (scheme, rest) ← splitFirst [':'] text
  let first ← scheme.head?
  let isInner (character : Char) : Bool :=
    character.isAlphanum || character = '+' || character = '-' || character = '.'
  if first.isAlpha && scheme.all isInner then
    return (String.ofList (scheme.map Char.toLower), rest)
  else none

/-- Characters that end the part of an address that names the host. -/
def endsAuthority (isSpecial : Bool) (character : Char) : Bool :=
  character = '/' || character = '?' || character = '#' || (isSpecial && character = '\\')

/-- The name and password before the last at sign, and the host and port after it. -/
def splitUser (authority : List Char) : Option (List Char) × List Char :=
  match splitLast ['@'] authority with
  | some (user, host) => (some user, host)
  | none => (none, authority)

/-- What stands before the colon that is outside of brackets, and that colon with what follows. -/
def splitPort : (inBrackets : Bool) → List Char → List Char × List Char
  | _, [] => ([], [])
  | inBrackets, character :: rest =>
    if character = ':' && !inBrackets then ([], character :: rest)
    else
      let inside := if character = '[' then true else if character = ']' then false else inBrackets
      let (host, port) := splitPort inside rest
      (character :: host, port)

/-- The port after a colon; an empty one counts as none. -/
def port (text : List Char) : Except AddressError (Option Nat) :=
  match text with
  | [] | [':'] => .ok none
  | _ :: digits =>
    match natural? digits with
    | some port => if port < 65536 then .ok (some port) else .error .invalidPort
    | none => .error .invalidPort

/-- A letter and a colon or bar, which name a drive. -/
def isDriveLetter : List Char → Bool
  | [letter, mark] => letter.isAlpha && (mark = ':' || mark = '|')
  | _ => false

/-- The segments of a path without the last one. A drive is never left. -/
def parentSegments (segments : List (List Char)) : List (List Char) :=
  if segments.getLast?.any isDriveLetter then segments else segments.dropLast

/-- The segments of a path with `.` and `..` resolved, and a final one kept empty. -/
def resolveSegments (resolved : List (List Char)) : List (List Char) → List (List Char)
  | [] => resolved
  | segment :: rest =>
    let plain := replaceAll "%2e".toList ['.'] (segment.map fun character =>
      if character = 'E' then 'e' else character)
    let kept :=
      if plain = ['.', '.'] then parentSegments resolved
      else if plain = ['.'] then resolved
      else resolved ++ [percentEncoded isEncodedInPath segment]
    let isDots := plain = ['.'] || plain = ['.', '.']
    resolveSegments (if rest.isEmpty && isDots then kept ++ [[]] else kept) rest

/-- The path of a web address. -/
def pathText (path : List Char) : String :=
  let segments := match splitAt '/' (path.map fun character =>
      if character = '\\' then '/' else character) with
    | [] => [[]]
    | [only] => [only]
    | _ :: rest => rest
  "/" ++ joined "/" ((resolveSegments [] segments).map String.ofList)

/-- The path, the query after a question mark and the fragment after a number sign. -/
def splitPath (text : List Char) : List Char × Option (List Char) × Option (List Char) :=
  let (front, fragment) := match splitFirst ['#'] text with
    | some (front, fragment) => (front, some fragment)
    | none => (text, none)
  match splitFirst ['?'] front with
  | some (path, query) => (path, some query, fragment)
  | none => (front, none, fragment)

/-- An address whose scheme has a host by necessity, from what follows the scheme's colon. -/
def parseSpecial (scheme : String) (text : List Char) : Except AddressError Address := do
  let afterSlashes := text.dropWhile fun character => character = '/' || character = '\\'
  let authority := afterSlashes.takeWhile (!endsAuthority true ·)
  let (host, portText) := splitPort false (splitUser authority).2
  if host.isEmpty then .error .emptyHost
  let host ← Host.parse host
  let port ← port portText
  if scheme = "http" || scheme = "https" then
    let (path, query, fragment) := splitPath (afterSlashes.drop authority.length)
    let usualPort := if scheme = "https" then 443 else 80
    return .web {
      isSecure := scheme = "https"
      host
      port := port.filter (· ≠ usualPort)
      path := pathText path
      query := query.map fun query => String.ofList (percentEncoded isEncodedInQuery query)
      fragment := fragment.map fun fragment =>
        String.ofList (percentEncoded isEncodedInFragment fragment) }
  else return .other scheme

/-- Checks an address of a file, which names a host only after two slashes. -/
def checkFile (text : List Char) : Except AddressError Unit :=
  let isSlash (character : Char) : Bool := character = '/' || character = '\\'
  match text with
  | first :: second :: rest =>
    if isSlash first && isSlash second then
      let host := rest.takeWhile (!endsAuthority true ·)
      if host.isEmpty || isDriveLetter host then .ok () else (Host.parse host).map fun _ => ()
    else .ok ()
  | _ => .ok ()

/-- Checks an address of any other scheme, which names a host only after two slashes. -/
def checkElsewhere (text : List Char) : Except AddressError Unit := do
  match text with
  | '/' :: '/' :: rest =>
    let authority := rest.takeWhile (!endsAuthority false ·)
    let (user, hostAndPort) := splitUser authority
    let (host, portText) := splitPort false hostAndPort
    let hasUser := user.any fun user => !user.isEmpty && user ≠ [':']
    if user = some [] && hostAndPort.isEmpty && authority.length < rest.length then
      .error .emptyHost
    Host.checkElsewhere host
    if host.isEmpty && !portText.isEmpty then .error .emptyHost
    let _ ← port (portText.takeWhile (· ≠ '\\'))
    if host.isEmpty && hasUser then .error .emptyHost
  | _ => return

/-- Reads an address. -/
def parse (text : String) : Except AddressError Address :=
  match splitScheme? (cleaned text.toList) with
  | none => .error .relativeWithoutBase
  | some (scheme, rest) =>
    if specialSchemes.contains scheme then parseSpecial scheme rest
    else if scheme = "file" then (checkFile rest).map fun _ => .other scheme
    else (checkElsewhere rest).map fun _ => .other scheme

end Address

end Statute.Web
