import Statute.Logic.Term
import Statute.Occurrences

/-!
# Clauses

The body of a rule as a tree of goals, and clauses: facts without a body, and rules. The module
holds their written form and the predicates that a rule calls.
-/

namespace Statute.Logic

/-- The body of a rule. -/
inductive Body where
  | goal (term : Term)
  | not (inner : Body)
  | and (parts : List Body)
  | or (parts : List Body)

namespace Body

mutual

/-- Two bodies are the same. -/
def isSame : Body → Body → Bool
  | goal left, goal right => left = right
  | not left, not right => isSame left right
  | and left, and right => areSame left right
  | or left, or right => areSame left right
  | _, _ => false

/-- Two lists of bodies are the same. -/
def areSame : List Body → List Body → Bool
  | [], [] => true
  | left :: leftRest, right :: rightRest => isSame left right && areSame leftRest rightRest
  | _, _ => false

end

mutual

/-- The comparison of bodies finds out whether they are equal, by recursion on the left one. -/
theorem isSame_iff : ∀ left right : Body, isSame left right = true ↔ left = right
  | goal _, right => by cases right <;> simp [isSame]
  | not inner, right => by cases right <;> simp [isSame, isSame_iff inner]
  | and parts, right => by cases right <;> simp [isSame, areSame_iff parts]
  | or parts, right => by cases right <;> simp [isSame, areSame_iff parts]

/-- The comparison of lists of bodies finds out whether they are equal. -/
theorem areSame_iff : ∀ left right : List Body, areSame left right = true ↔ left = right
  | [], right => by cases right <;> simp [areSame]
  | first :: rest, right => by
    cases right <;> simp [areSame, isSame_iff first, areSame_iff rest]

end

instance : DecidableEq Body := fun left right =>
  decidable_of_iff _ (isSame_iff left right)

mutual

/-- Every goal in source order, those under a negation included. -/
def goals : Body → List Term
  | goal term => [term]
  | not inner => inner.goals
  | and parts => goalsOfAll parts
  | or parts => goalsOfAll parts

/-- The goals of several parts in order. -/
def goalsOfAll : List Body → List Term
  | [] => []
  | part :: rest => part.goals ++ goalsOfAll rest

end

mutual

/-- The written form of a body. Disjunctions stand in parentheses. -/
def render : Body → String
  | goal term => term.render
  | not inner => "\\+ " ++ inner.render
  | and parts => renderAll ", " parts
  | or parts => "(" ++ renderAll "; " parts ++ ")"

/-- The written forms of several parts with a separator between them. -/
def renderAll (separator : String) : List Body → String
  | [] => ""
  | [part] => part.render
  | first :: second :: rest =>
    first.render ++ separator ++ renderAll separator (second :: rest)

end

end Body

/-- A fact, when there is no body, or a rule. -/
structure Clause where
  head : Term
  body : Option Body
deriving DecidableEq

namespace Clause

/-- Facts have no body. -/
def isFact (clause : Clause) : Bool :=
  clause.body.isNone

/-- Every goal of the body in source order. -/
def goals (clause : Clause) : List Term :=
  match clause.body with
  | some body => body.goals
  | none => []

/-- The names of the predicates that the body calls, without repeats and in the order of their
first call. Goals built from operators call no predicate. -/
def referencedPredicates (clause : Clause) : List String :=
  firstOccurrencesBy id ((clause.goals.filter fun goal => !goal.isOperator).filterMap Term.name?)

/-- The written form of a clause, with its final stop. -/
def render (clause : Clause) : String :=
  match clause.body with
  | some body => clause.head.render ++ " :- " ++ body.render ++ "."
  | none => clause.head.render ++ "."

end Clause

end Statute.Logic
