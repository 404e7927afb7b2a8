import Statute.Number.Integer
import Statute.Toml.Value

/-!
# Reading records out of TOML values

A record is written as a table with one member for each field, or as an array of its fields in
order. Members that no field names and items behind the last field are passed over.
-/

namespace Statute.Toml.Value

/-- The text of a string. -/
def string? : Value → Option String
  | string text => some text
  | _ => none

/-- The truth value of a Boolean. -/
def boolean? : Value → Option Bool
  | boolean value => some value
  | _ => none

/-- A whole number that is not negative and below a power of two. -/
def natural? (bits : Nat) : Value → Option Nat
  | integer value => Number.unsigned? bits value
  | _ => none

/-- The name of an alternative without contents: a string, or a table with that one name and
nothing in it. -/
def alternative? : Value → Option String
  | string name => some name
  | table [(name, table [])] => some name
  | table [(name, array [])] => some name
  | _ => none

/-- The fields that a value has of a record with these field names. A point in time is a record of
which no field is known. -/
def fields? (names : List String) : Value → Option (List (String × Value))
  | table members => some members
  | array items => some (names.zip items)
  | moment _ => some []
  | _ => none

end Statute.Toml.Value
