import Statute.Json.Value

/-!
# Reading records out of JSON values

A record is written as an object with one member for each field, or as an array of its fields in
order. Members that no field names are passed over; a field that is named twice makes the value no
record. A field is required, optional (absent or null stands for nothing) or has a default for
when it is absent.
-/

namespace Statute.Json

/-- The text of a string. -/
def string? : Json → Option String
  | string text => some text
  | _ => none

/-- The value of a Boolean. -/
def bool? : Json → Option Bool
  | bool value => some value
  | _ => none

/-- A signed integer of sixty-four bits. -/
def int64? : Json → Option Int64
  | integer value => Number.int64? value
  | _ => none

/-- An unsigned integer of sixty-four bits. -/
def uint64? : Json → Option UInt64
  | integer value => Number.uint64? value
  | _ => none

/-- A double, written as any number. -/
def double? : Json → Option Float
  | integer value => (Numeral.ofInt value).toDouble?
  | real numeral => numeral.toDouble?
  | _ => none

/-- A list whose items are read one by one. -/
def list? {α : Type} (decode : Json → Option α) : Json → Option (List α)
  | array items => items.mapM decode
  | _ => none

/-- Null for nothing, or a value. -/
def nullable? {α : Type} (decode : Json → Option α) : Json → Option (Option α)
  | null => some none
  | value => (decode value).map some

/-- The name of an alternative without contents: a string, or an object with that one name and
null. -/
def alternative? : Json → Option String
  | string name => some name
  | object [(name, null)] => some name
  | _ => none

/-- A value or null for nothing. -/
def ofOption {α : Type} (encode : α → Json) : Option α → Json
  | some value => encode value
  | none => null

/-- The JSON member of a value that is left out when there is none. -/
def presentMember {α : Type} (name : String) (encode : α → Json) :
    Option α → List (String × Json)
  | some value => [(name, encode value)]
  | none => []

/-- The first member with a name. -/
def member? (name : String) : Json → Option Json
  | object members => members.lookup name
  | _ => none

/-- The fields of a record that are present, by name. -/
structure Record where
  /-- The record was written as an array. -/
  positional : Bool
  fields : List (String × Json)

/-- No name stands twice in a list. -/
def distinct : List String → Bool
  | [] => true
  | name :: rest => !rest.contains name && distinct rest

/-- The fields that a value has of a record with these field names. -/
def record? (names : List String) : Json → Option Record
  | object members =>
    let known := members.filter fun (name, _) => names.contains name
    if distinct (known.map Prod.fst) then some ⟨false, known⟩ else none
  | array items =>
    if items.length ≤ names.length then some ⟨true, names.zip items⟩ else none
  | _ => none

namespace Record

/-- A field that must be present. -/
def required {α : Type} (record : Record) (name : String) (decode : Json → Option α) : Option α :=
  record.fields.lookup name >>= decode

/-- A field that may be null, and that may be absent from an object. -/
def optional {α : Type} (record : Record) (name : String) (decode : Json → Option α) :
    Option (Option α) :=
  match record.fields.lookup name with
  | none => if record.positional then none else some none
  | some value => nullable? decode value

/-- A field with a value for when it is absent. -/
def defaulted {α : Type} (record : Record) (name : String) (absent : α)
    (decode : Json → Option α) : Option α :=
  match record.fields.lookup name with
  | none => some absent
  | some value => decode value

end Record

end Statute.Json
