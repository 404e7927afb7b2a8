import Statute.Text.Search
import Statute.Web.Percent

/-!
# Form queries

Queries that consist of names and values: `name=value` pairs with ampersands between them, in which
a plus sign stands for a space and bytes may be percent-encoded.
-/

namespace Statute.Web

open Statute.Text

/-- The text of a name or a value; nothing when its bytes are not UTF-8. -/
def formText? (text : List Char) : Option String :=
  let spaced := text.map fun character => if character = '+' then ' ' else character
  String.fromUTF8? ⟨(percentDecoded spaced).toArray⟩

/-- The name and the value of an item. Without equals sign the value is empty. -/
def formItem (item : List Char) : Option String × Option String :=
  match splitFirst ['='] item with
  | some (name, value) => (formText? name, formText? value)
  | none => (formText? item, some "")

/-- The names and values of a query in order. -/
def formItems (query : String) : List (Option String × Option String) :=
  ((splitAt '&' query.toList).filter (!·.isEmpty)).map formItem

/-- The value with a name. A value that is no text, or a name that stands twice, is an error; a
name that is missing has no value. -/
def formValue (items : List (Option String × Option String)) (name : String) :
    Except Unit (Option String) :=
  match items.filter fun item => item.1 = some name with
  | [] => .ok none
  | [(_, some value)] => .ok (some value)
  | _ => .error ()

end Statute.Web
