import Statute.Number.Integer
import Statute.Text.Search
import Statute.Web.Domain
import Statute.Web.Percent

/-!
# Hosts

The part of an address that names a machine: a domain name, an IPv4 address in any of its notations,
or an IPv6 address in brackets. A domain name whose last label is a number must be an IPv4 address.
-/

namespace Statute.Web

open Statute.Text Statute.Number

/-- Why a text is no address. -/
inductive AddressError where
  | emptyHost
  | invalidDomain
  | invalidPort
  | invalidVersionFour
  | invalidVersionSix
  | invalidHostCharacter
  | relativeWithoutBase
deriving DecidableEq, Repr

/-- The error in words. -/
def AddressError.message : AddressError → String
  | emptyHost => "empty host"
  | invalidDomain => "invalid international domain name"
  | invalidPort => "invalid port number"
  | invalidVersionFour => "invalid IPv4 address"
  | invalidVersionSix => "invalid IPv6 address"
  | invalidHostCharacter => "invalid domain character"
  | relativeWithoutBase => "relative URL without a base"

namespace Host

/-! ## IPv4 -/

/-- The number that digits of a base below seventeen stand for; none for other characters. -/
def ofDigits? (base : Nat) (digits : List Char) : Option Nat :=
  digits.foldlM (fun value character => do
    let digit ← hexValue? character
    if digit < base then return base * value + digit else none) 0

/-- A part of an IPv4 address: decimal, octal after `0`, hexadecimal after `0x`. -/
def versionFourNumber? : List Char → Option Nat
  | [] => none
  | '0' :: 'x' :: digits => ofDigits? 16 digits
  | '0' :: 'X' :: digits => ofDigits? 16 digits
  | '0' :: first :: rest => ofDigits? 8 (first :: rest)
  | digits => ofDigits? 10 digits

/-- The parts of a domain between its full stops; a final stop is passed over. -/
def domainParts (domain : List Char) : List (List Char) :=
  let parts := splitAt '.' domain
  if 1 < parts.length ∧ parts.getLast? = some [] then parts.dropLast else parts

/-- The last part of a domain is a number, so that the domain must be an IPv4 address. -/
def endsInNumber (domain : List Char) : Bool :=
  match (domainParts domain).getLast? with
  | some last => (!last.isEmpty && last.all isDigit) || (versionFourNumber? last).isSome
  | none => false

/-- The four bytes of an IPv4 address with up to four parts, the last of which fills up what the
others leave. -/
def versionFour? (domain : List Char) : Option (List Nat) := do
  let numbers ← (domainParts domain).mapM versionFourNumber?
  let last ← numbers.getLast?
  let leading := numbers.dropLast
  if 3 < leading.length || leading.any (255 < ·) || Nat.pow 256 (4 - leading.length) ≤ last then none
  else
    let places := 4 - leading.length
    return leading ++ (List.range places).map fun place => last / Nat.pow 256 (places - 1 - place) % 256

/-- Four bytes between full stops. -/
def versionFourText (bytes : List Nat) : String :=
  joined "." (bytes.map toString)

/-! ## IPv6 -/

/-- A group of an IPv6 address: one to four hexadecimal digits. -/
def group? (digits : List Char) : Option Nat :=
  if digits.isEmpty || 4 < digits.length then none else ofDigits? 16 digits

/-- A byte in decimal digits without leading zeros. -/
def decimalByte? (digits : List Char) : Option Nat := do
  let value ← natural? digits
  if 255 < value || (1 < digits.length && digits.head? = some '0') then none else return value

/-- The groups between colons. An IPv4 address can stand for the last two. -/
def groups? : List (List Char) → Option (List Nat)
  | [] => some []
  | [last] =>
    if last.contains '.' then do
      match ← (splitAt '.' last).mapM decimalByte? with
      | [first, second, third, fourth] => return [256 * first + second, 256 * third + fourth]
      | _ => none
    else (group? last).map ([·])
  | first :: rest => do return (← group? first) :: (← groups? rest)

/-- The groups of a text, which is empty or has colons between its groups. -/
def groupsOfText? (text : List Char) : Option (List Nat) :=
  if text.isEmpty then some [] else groups? (splitAt ':' text)

/-- The eight groups of an IPv6 address. Two colons stand for as many groups of zero as are
missing, of which there is at least one. -/
def versionSix? (text : List Char) : Option (List Nat) :=
  match splitFirst [':', ':'] text with
  | some (before, after) => do
    if before.contains '.' then none
    else
      let leading ← groupsOfText? before
      let trailing ← groupsOfText? after
      let shown := leading.length + trailing.length
      if 7 < shown then none
      else return leading ++ List.replicate (8 - shown) 0 ++ trailing
  | none => do
    let groups ← groupsOfText? text
    if groups.length = 8 then return groups else none

/-- The length of the leading run of zeros. -/
def leadingZeros (groups : List Nat) : Nat :=
  (groups.takeWhile (· = 0)).length

/-- The length of the longest run of zeros. -/
def longestZeros : List Nat → Nat
  | [] => 0
  | group :: rest => max (leadingZeros (group :: rest)) (longestZeros rest)

/-- Groups between colons. -/
def groupsText (groups : List Nat) : String :=
  joined ":" (groups.map fun group => String.ofList (hexDigits group))

/-- What stands before and after the first run of zeros of a length. -/
def cutZeros (length : Nat) : List Nat → List Nat × List Nat
  | [] => ([], [])
  | group :: rest =>
    if leadingZeros (group :: rest) = length then ([], (group :: rest).drop length)
    else
      let (before, after) := cutZeros length rest
      (group :: before, after)

/-- An IPv6 address with its first longest run of two or more zeros written as two colons. -/
def versionSixText (groups : List Nat) : String :=
  let length := longestZeros groups
  if length < 2 then groupsText groups
  else
    let (before, after) := cutZeros length groups
    groupsText before ++ "::" ++ groupsText after

/-! ## Hosts -/

/-- The host of an address that is fetched over the web. -/
def parse (text : List Char) : Except AddressError String :=
  match text with
  | '[' :: rest =>
    if rest.getLast? = some ']' then
      match versionSix? rest.dropLast with
      | some groups => .ok ("[" ++ versionSixText groups ++ "]")
      | none => .error .invalidVersionSix
    else .error .invalidVersionSix
  | _ =>
    match String.fromUTF8? ⟨(percentDecoded text).toArray⟩ >>= fun decoded =>
        Domain.toAscii? decoded.toList with
    | none => .error .invalidDomain
    | some [] => .error .emptyHost
    | some domain =>
      if endsInNumber domain then
        match versionFour? domain with
        | some bytes => .ok (versionFourText bytes)
        | none => .error .invalidVersionFour
      else .ok (String.ofList domain)

/-- Characters that stand in no host of an address of another kind. -/
def isForbiddenElsewhere (character : Char) : Bool :=
  "\x00\t\n\r #/:<>?@[\\]^|".toList.contains character

/-- Checks the host of an address of another kind, which may be empty. -/
def checkElsewhere (text : List Char) : Except AddressError Unit :=
  match text with
  | '[' :: _ => (parse text).map fun _ => ()
  | _ => if text.any isForbiddenElsewhere then .error .invalidHostCharacter else .ok ()

end Host

end Statute.Web
