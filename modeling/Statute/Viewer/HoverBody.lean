import Statute.Json.Decode
import Statute.Json.Reader
import Statute.Regulation.Atom

/-!
# The atom in a body

A browser that emphasizes an atom sends its number in a JSON record with the one field `atom_id`,
where null or no field stands for no atom. A body is read from the left, and the first fault in it
decides: either the text is no JSON there, or there is a value of another kind than a number of an
atom.
-/

namespace Statute.Viewer

open Statute.Json

/-- What is wrong with a body. -/
inductive BodyFault where
  | malformed
  | mistyped
deriving DecidableEq, Repr

/-- What is read from the beginning of a text, and what follows it. -/
abbrev BodyReader (α : Type) : Type := List Char → Except BodyFault (α × List Char)

/-- The name of the field. -/
def atomField : String := "atom_id"

/-- Reads a number, from behind its sign. -/
def readAtomNumber (negative : Bool) : BodyReader (Option AtomId) := fun text =>
  match readNumber negative text with
  | none => .error .malformed
  | some (.real numeral, _) =>
    .error (if numeral.toDouble?.isSome then .mistyped else .malformed)
  | some (.integer value, rest) =>
    match Number.int64? value with
    | some id => .ok (some id, rest)
    | none =>
      .error (if (Numeral.ofInt value).toDouble?.isSome then .mistyped else .malformed)
  | some _ => .error .mistyped

/-- Reads the number of an atom, or null for none. -/
def readAtomId : BodyReader (Option AtomId) := fun text =>
  match text with
  | 'n' :: 'u' :: 'l' :: 'l' :: rest => .ok (none, rest)
  | 't' :: 'r' :: 'u' :: 'e' :: _ => .error .mistyped
  | 'f' :: 'a' :: 'l' :: 's' :: 'e' :: _ => .error .mistyped
  | '"' :: rest =>
    match readString rest with
    | some (some _, _) => .error .mistyped
    | _ => .error .malformed
  | '[' :: _ => .error .mistyped
  | '\x7b' :: _ => .error .mistyped
  | '-' :: rest => readAtomNumber true rest
  | _ => readAtomNumber false text

/-- Reads a name and the colon after it. -/
def readName : BodyReader String := fun text =>
  match text with
  | '"' :: rest =>
    match readString rest with
    | some (some name, after) =>
      match skipBlanks after with
      | ':' :: value => .ok (name, skipBlanks value)
      | _ => .error .malformed
    | _ => .error .malformed
  | _ => .error .malformed

/-- Reads a value that does not matter. -/
def skipValue : BodyReader Unit := fun text =>
  match readValue (2 * text.length + 2) text with
  | some (_, rest) => .ok ((), rest)
  | none => .error .malformed

/-- Reads a member, which gives the atom if it has that name and none has been given before. A
second one is at fault as soon as its name is read. -/
def readMember (found : Option (Option AtomId)) : BodyReader (Option (Option AtomId)) :=
  fun text =>
    match text with
    | '"' :: rest =>
      match readString rest with
      | some (some name, _) =>
        if name = atomField then
          match found with
          | some _ => .error .mistyped
          | none => do
            let (_, value) ← readName text
            let (id, rest) ← readAtomId value
            return (some id, rest)
        else do
          let (_, value) ← readName text
          let (_, rest) ← skipValue value
          return (found, rest)
      | _ => .error .malformed
    | _ => .error .malformed

/-- Reads members up to the closing brace. -/
def readMembersFrom (found : Option (Option AtomId)) :
    (bound : Nat) → BodyReader (Option (Option AtomId))
  | 0, _ => .error .malformed
  | bound + 1, text => do
    let (found, rest) ← readMember found text
    match skipBlanks rest with
    | ',' :: rest => readMembersFrom found bound (skipBlanks rest)
    | '\x7d' :: rest => return (found, rest)
    | _ => .error .malformed

/-- Reads the record at the beginning of a text. -/
def readRecord : BodyReader (Option AtomId) := fun text =>
  match text with
  | '\x7b' :: rest =>
    match skipBlanks rest with
    | '\x7d' :: rest => .ok (none, rest)
    | inside => do
      let (found, rest) ← readMembersFrom none (inside.length + 1) inside
      return (found.getD none, rest)
  | '[' :: rest =>
    match skipBlanks rest with
    | ']' :: _ => .error .mistyped
    | inside => do
      let (id, rest) ← readAtomId inside
      match skipBlanks rest with
      | ']' :: rest => return (id, rest)
      | _ => .error .malformed
  | _ => do
    let _ ← readAtomId text
    .error .mistyped

/-- Reads the atom out of a body. Nothing but blanks may follow the record. -/
def atomOfBody (body : String) : Except BodyFault (Option AtomId) := do
  let (id, rest) ← readRecord (skipBlanks body.toList)
  if (skipBlanks rest).isEmpty then return id else .error .malformed

end Statute.Viewer
