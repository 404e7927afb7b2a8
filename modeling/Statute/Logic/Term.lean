import Statute.Text.Alphanumeric
import Statute.Text.Search

/-!
# Terms

Atoms, variables, numbers, strings, compound terms and lists, their written form, and the
difference between a call of a predicate and a goal built from an infix operator.
-/

namespace Statute.Logic

/-- A term. Numbers and strings keep the text they were written with, strings without their
quotation marks. -/
inductive Term where
  | atom (name : String)
  | var (name : String)
  | number (text : String)
  | string (text : String)
  | compound (functor : String) (arguments : List Term)
  | list (items : List Term) (tail : Option Term)

namespace Term

mutual

/-- Two terms are the same. -/
def isSame : Term → Term → Bool
  | atom left, atom right => left == right
  | var left, var right => left == right
  | number left, number right => left == right
  | string left, string right => left == right
  | compound left leftArguments, compound right rightArguments =>
    left == right && areSame leftArguments rightArguments
  | list leftItems none, list rightItems none => areSame leftItems rightItems
  | list leftItems (some leftTail), list rightItems (some rightTail) =>
    areSame leftItems rightItems && isSame leftTail rightTail
  | _, _ => false

/-- Two lists of terms are the same. -/
def areSame : List Term → List Term → Bool
  | [], [] => true
  | left :: leftRest, right :: rightRest => isSame left right && areSame leftRest rightRest
  | _, _ => false

end

mutual

/-- The comparison of terms finds out whether they are equal, by recursion on the left one. -/
theorem isSame_iff : ∀ left right : Term, isSame left right = true ↔ left = right
  | atom _, right => by cases right <;> simp [isSame]
  | var _, right => by cases right <;> simp [isSame]
  | number _, right => by cases right <;> simp [isSame]
  | string _, right => by cases right <;> simp [isSame]
  | compound _ arguments, right => by
    cases right <;> simp [isSame, areSame_iff arguments]
  | list items none, right => by
    rcases right with _ | _ | _ | _ | _ | ⟨_, _ | _⟩ <;> simp [isSame, areSame_iff items]
  | list items (some tail), right => by
    rcases right with _ | _ | _ | _ | _ | ⟨_, _ | _⟩ <;>
      simp [isSame, areSame_iff items, isSame_iff tail]

/-- The comparison of lists of terms finds out whether they are equal. -/
theorem areSame_iff : ∀ left right : List Term, areSame left right = true ↔ left = right
  | [], right => by cases right <;> simp [areSame]
  | first :: rest, right => by
    cases right <;> simp [areSame, isSame_iff first, areSame_iff rest]

end

instance : DecidableEq Term := fun left right =>
  decidable_of_iff _ (isSame_iff left right)

/-- The name of an atom or the functor of a compound term. -/
def name? : Term → Option String
  | atom name => some name
  | compound functor _ => some functor
  | _ => none

/-- The number of arguments; only compound terms have any. -/
def arity : Term → Nat
  | compound _ arguments => arguments.length
  | _ => 0

/-- Atoms and compound terms can be called. -/
def isCallable (term : Term) : Bool :=
  term.name?.isSome

/-- A name that begins with a symbol: neither a letter, a numeral, an underscore nor a quote. -/
def isSymbolic (name : String) : Bool :=
  match name.toList with
  | [] => false
  | first :: _ => !Text.isAlphanumeric first && first != '_' && first != '\''

/-- Goals built from an infix operator such as `A >= 18`, rather than calls of a predicate. -/
def isOperator : Term → Bool
  | atom name => isSymbolic name
  | compound functor arguments => isSymbolic functor || (functor == "is" && arguments.length == 2)
  | _ => false

/-- The name and the arity of a callable term, as in `bird/1`. -/
def indicator? (term : Term) : Option String :=
  term.name?.map fun name => name ++ "/" ++ toString term.arity

mutual

/-- The written form of a term. An operator with two arguments stands between them. -/
def render : Term → String
  | atom name => name
  | var name => name
  | number text => text
  | string text => "\"" ++ text ++ "\""
  | compound functor [left, right] =>
    if isSymbolic functor || functor == "is" then
      left.render ++ " " ++ functor ++ " " ++ right.render
    else functor ++ "(" ++ left.render ++ ", " ++ right.render ++ ")"
  | compound functor arguments => functor ++ "(" ++ renderAll arguments ++ ")"
  | list items none => "[" ++ renderAll items ++ "]"
  | list items (some tail) => "[" ++ renderAll items ++ "|" ++ tail.render ++ "]"

/-- The written forms of several terms, with commas between them. -/
def renderAll : List Term → String
  | [] => ""
  | [term] => term.render
  | first :: second :: rest => first.render ++ ", " ++ renderAll (second :: rest)

end

end Term

end Statute.Logic
