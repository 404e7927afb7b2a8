import Statute.Json.Reader
import Statute.Text.Search

/-!
# Messages

The form of messages on a connection: a first line and fields, each on a line of its own, an empty
line, and a body whose length a field tells or which comes in chunks.
-/

namespace Statute.Web

/-- What stands before the body of a message. -/
structure MessageHead where
  firstLine : String
  /-- The fields with their names in small letters. -/
  fields : List (String × String)
deriving DecidableEq

/-- The statuses of responses without a body. -/
def bodilessStatuses : List Nat := [101, 204, 304]

/-- A response with this status has a body, be it an empty one. -/
def hasBody (status : Nat) : Bool :=
  !bodilessStatuses.contains status

/-- The end of a line. -/
def lineEnd : String := "\r\n"

/-- The bytes before the first empty line and those after it. -/
def splitHead? : List UInt8 → Option (List UInt8 × List UInt8)
  | 13 :: 10 :: 13 :: 10 :: rest => some ([], rest)
  | byte :: rest => (splitHead? rest).map fun (head, body) => (byte :: head, body)
  | [] => none

/-- The text of bytes. Bytes that are no text become one character that stands for that. -/
def textOfBytes (bytes : List UInt8) : String :=
  (String.fromUTF8? ⟨bytes.toArray⟩).getD "\ufffd"

/-- The name and the value of a field. -/
def fieldOfLine? (line : List Char) : Option (String × String) :=
  (Text.splitFirst [':'] line).map fun (name, value) =>
    (String.ofList (name.map Char.toLower), Text.trimmed (String.ofList value))

namespace MessageHead

/-- The head that bytes stand for. -/
def ofBytes (bytes : List UInt8) : MessageHead :=
  let text := (textOfBytes bytes).toList.filter (· ≠ '\r')
  match Text.splitAt '\n' text with
  | [] => ⟨"", []⟩
  | first :: rest => ⟨String.ofList first, rest.filterMap fieldOfLine?⟩

/-- The value of a field. -/
def field? (head : MessageHead) (name : String) : Option String :=
  head.fields.lookup name

/-- The words of the first line. -/
def words (head : MessageHead) : List String :=
  ((Text.splitAt ' ' head.firstLine.toList).filter (!·.isEmpty)).map String.ofList

/-- The length of the body, if it is told. -/
def contentLength? (head : MessageHead) : Option Nat :=
  (head.field? "content-length").bind fun value => Number.natural? value.toList

/-- The body comes in chunks. -/
def isChunked (head : MessageHead) : Bool :=
  match head.field? "transfer-encoding" with
  | some value => value.toList.map Char.toLower = "chunked".toList
  | none => false

end MessageHead

/-- The bytes before the end of the first line and those after it. -/
def splitLine? : List UInt8 → Option (List UInt8 × List UInt8)
  | 13 :: 10 :: rest => some ([], rest)
  | byte :: rest => (splitLine? rest).map fun (line, after) => (byte :: line, after)
  | [] => none

/-- The length that the line before a chunk tells in hexadecimal digits. -/
def chunkLength? (line : List UInt8) : Option Nat :=
  let digits := (textOfBytes line).toList.takeWhile fun character =>
    (Json.hexDigit? character).isSome
  if digits.isEmpty then none
  else some (digits.foldl (fun length digit => 16 * length + (Json.hexDigit? digit).getD 0) 0)

/-- The bytes of a body that comes in chunks, of which there are no more than bytes; nothing when
it is not complete. -/
def joinChunks? : (bound : Nat) → List UInt8 → Option (List UInt8)
  | 0, _ => none
  | bound + 1, bytes => do
    let (line, rest) ← splitLine? bytes
    let length ← chunkLength? line
    if length = 0 then return []
    if rest.length < length then none
    let after ← joinChunks? bound ((rest.drop length).drop 2)
    return rest.take length ++ after

/-- The body of a message of which these bytes follow the head; nothing when bytes are missing. A
body of untold length is all that follows. -/
def body? (head : MessageHead) (bytes : List UInt8) : Option (List UInt8) :=
  if head.isChunked then joinChunks? (bytes.length + 1) bytes
  else
    match head.contentLength? with
    | some length => if bytes.length < length then none else some (bytes.take length)
    | none => some bytes

/-- The text of a message with the lines of its head and a body. -/
def messageText (lines : List String) (body : String) : String :=
  Text.joined "" (lines.map (· ++ lineEnd)) ++ lineEnd ++ body

end Statute.Web
