/-!
# TOML values

The values of the TOML data format. Floating-point numbers and points in time are kept as they were
written.
-/

namespace Statute.Toml

/-- A TOML value. -/
inductive Value where
  | string (text : String)
  | integer (value : Int)
  | float (text : String)
  | boolean (value : Bool)
  /-- A date, a time of the day or both. -/
  | moment (text : String)
  | array (items : List Value)
  | table (members : List (String × Value))
deriving Inhabited

end Statute.Toml
