import Statute.Toml.Value

/-!
# Building TOML tables

Tables come into being in several ways, which decides what may be added to them later: a table that
was named in a header is complete, one that was only passed on the way to another can still be
named, and one that dotted keys opened can only grow by dotted keys of the same table.
-/

namespace Statute.Toml

/-- How a table came into being. -/
inductive TableOrigin where
  /-- Named in a header. -/
  | header
  /-- Passed on the way to a header. -/
  | passed
  /-- Opened by a dotted key. -/
  | dotted
deriving DecidableEq, Repr

/-- What stands under a name while a table is being built. -/
inductive Entry where
  | value (value : Value)
  | table (origin : TableOrigin) (members : List (String × Entry))
  /-- Tables that were named one after the other under one name. -/
  | tables (items : List (List (String × Entry)))
deriving Inhabited

/-- The members of a table that is being built. -/
abbrev Members := List (String × Entry)

mutual

/-- The value of an entry. -/
def Entry.toValue : Entry → Value
  | .value value => value
  | .table _ members => .table (membersToValues members)
  | .tables items => .array (tablesToValues items)

/-- The members of a table as values. -/
def membersToValues : List (String × Entry) → List (String × Value)
  | [] => []
  | (name, entry) :: rest => (name, entry.toValue) :: membersToValues rest

/-- Tables as values. -/
def tablesToValues : List (List (String × Entry)) → List Value
  | [] => []
  | members :: rest => .table (membersToValues members) :: tablesToValues rest

end

namespace Members

/-- With another entry under a name that is in use. -/
def replace (name : String) (entry : Entry) (members : Members) : Members :=
  members.map fun (other, present) => (other, if other = name then entry else present)

/-- Changes the table at the end of a path. Tables that are missing on the way are opened; of tables
under one name the last is meant. Dotted keys do not pass through a table with a header. -/
def change (opened : TableOrigin) (update : TableOrigin → Members → Option Members) :
    (path : List String) → TableOrigin → Members → Option Members
  | [], origin, members => update origin members
  | name :: path, _, members =>
    match members.lookup name with
    | none => do
      let inner ← change opened update path opened []
      return members ++ [(name, .table opened inner)]
    | some (.value _) => none
    | some (.table origin inner) => do
      if opened = .dotted && origin = .header then none
      else return replace name (.table origin (← change opened update path origin inner)) members
    | some (.tables items) => do
      let last ← items.getLast?
      let inner ← change opened update path .header last
      return replace name (.tables (items.dropLast ++ [inner])) members

/-- Assigns a value to a dotted key. A key is assigned once, and only to a table that was opened in
the same way. -/
def assign (path : List String) (name : String) (value : Value) (members : Members) :
    Option Members :=
  change .dotted (fun origin members =>
    if (origin = .dotted) = path.isEmpty || (members.lookup name).isSome then none
    else some (members ++ [(name, .value value)])) path .header members

/-- Assigns values to dotted keys in order. -/
def assignAll (assignments : List (List String × String × Value)) (members : Members) :
    Option Members :=
  assignments.foldlM (fun members (path, name, value) => assign path name value members) members

/-- Adds the table of a header with its assignments. A table has one header. -/
def addTable (path : List String) (name : String)
    (assignments : List (List String × String × Value)) (members : Members) : Option Members :=
  change .passed (fun _ members =>
    match members.lookup name with
    | none => do return members ++ [(name, .table .header (← assignAll assignments []))]
    | some (.table .passed inner) => do
      return replace name (.table .header (← assignAll assignments inner)) members
    | some _ => none) path .header members

/-- Adds a table to those under one name. -/
def appendTable (path : List String) (name : String)
    (assignments : List (List String × String × Value)) (members : Members) : Option Members :=
  change .passed (fun _ members =>
    match members.lookup name with
    | none => do return members ++ [(name, .tables [← assignAll assignments []])]
    | some (.tables items) => do
      return replace name (.tables (items ++ [← assignAll assignments []])) members
    | some _ => none) path .header members

end Members

end Statute.Toml
