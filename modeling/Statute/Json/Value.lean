import Statute.Json.Numeral

/-!
# JSON values

The values of the JSON data format. Objects keep their members in written order, repeated names
included; what a repeated name means is left to whoever reads the object.
-/

namespace Statute

/-- A JSON value. -/
inductive Json where
  | null
  | bool (value : Bool)
  /-- A number written without fraction and exponent, other than negative zero. -/
  | integer (value : Int)
  /-- Any other number. -/
  | real (numeral : Json.Numeral)
  | string (text : String)
  | array (items : List Json)
  | object (members : List (String × Json))
  /-- A string that holds one half of a surrogate pair, or an object with such a name. It can be
  passed over, but it is no text. -/
  | unreadable
deriving Inhabited

end Statute
