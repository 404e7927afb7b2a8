/-!
# First occurrences

The items of a list without repeats, where items count as repeated when they have the same key.
The first item with a key stays.
-/

namespace Statute

variable {α β : Type} [DecidableEq β]

/-- The items whose keys are neither in `seen` nor those of an earlier item. -/
def firstOccurrencesFrom (key : α → β) (seen : List β) : List α → List α
  | [] => []
  | item :: rest =>
    if key item ∈ seen then firstOccurrencesFrom key seen rest
    else item :: firstOccurrencesFrom key (key item :: seen) rest

/-- The items that are the first with their key, in order. -/
def firstOccurrencesBy (key : α → β) (items : List α) : List α :=
  firstOccurrencesFrom key [] items

end Statute
