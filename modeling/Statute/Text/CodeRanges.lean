/-!
# Ranges of code points

Character classes of the Unicode standard are given as ascending lists of closed ranges of code
points, and other tables are laid out in the same way. This module holds the look-ups that they
share, and no class of its own.
-/

namespace Statute.Text

/-- A code point lies in one of the closed ranges of an ascending list. The search stops at the
first range that begins beyond the code point. -/
def inCodeRanges (code : Nat) : List (Nat × Nat) → Bool
  | [] => false
  | (first, last) :: ranges =>
    if code < first then false else code ≤ last || inCodeRanges code ranges

/-- What a table says about the closed range in which a code point lies. The ranges ascend. -/
def valueInCodeRanges? {α : Type} (code : Nat) : List (Nat × Nat × α) → Option α
  | [] => none
  | (first, last, value) :: rows =>
    if code < first then none
    else if code ≤ last then some value
    else valueInCodeRanges? code rows

/-- The row that a code point belongs to in a table of rows that are named by their first code
points, which ascend, and the place of the code point in that row. -/
def rowOfCode? {α : Type} (code : Nat) (rows : List (Nat × α)) : Option (Nat × α) :=
  (rows.takeWhile fun (first, _) => first ≤ code).getLast?.map fun (first, row) =>
    (code - first, row)

end Statute.Text
