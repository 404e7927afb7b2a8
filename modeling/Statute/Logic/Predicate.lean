import Statute.Text.Blank
import Statute.Text.Search

/-!
# Predicate texts

Arguments of predicates such as `owns(P, item(A))`, found in the text itself without reading it as
a term. A predicate's arguments stand between its first opening and its last closing parenthesis.
-/

namespace Statute.Logic.Predicate

open Statute.Text

/-- A predicate with an opening parenthesis that no later parenthesis closes. -/
structure MissingBracket where
  predicate : String
deriving DecidableEq

/-- The error in words. -/
def MissingBracket.message (error : MissingBracket) : String :=
  "Missing closing bracket in predicate: " ++ error.predicate

/-- The pieces of a text between the commas that stand outside of brackets, which are `depth`
levels deep where the text begins. A closing bracket too many is passed over. -/
def splitTopLevel : (depth : Nat) → List Char → List (List Char)
  | _, [] => [[]]
  | depth, character :: rest =>
    if character = ',' ∧ depth = 0 then [] :: splitTopLevel 0 rest
    else
      let inner :=
        if character = '(' ∨ character = '[' then depth + 1
        else if character = ')' ∨ character = ']' then depth - 1
        else depth
      match splitTopLevel inner rest with
      | [] => [[character]]
      | piece :: pieces => (character :: piece) :: pieces

/-- What stands before the first opening parenthesis; the whole text when there is none. -/
def nameText (predicate : List Char) : List Char :=
  predicate.takeWhile (· != '(')

/-- The text between the first opening and the last closing parenthesis, or nothing when there is
no opening parenthesis. -/
def content? (predicate : List Char) : Except MissingBracket (Option (List Char)) :=
  match predicate.dropWhile (· != '(') with
  | [] => .ok none
  | _ :: afterOpening =>
    match splitLast [')'] afterOpening with
    | some (content, _) => .ok (some content)
    | none => .error ⟨String.ofList predicate⟩

/-- The arguments that a text between parentheses holds, trimmed. Blank text holds none. -/
def argumentsOfContent (content : List Char) : List (List Char) :=
  if (trim content).isEmpty then [] else (splitTopLevel 0 content).map trim

/-- The trimmed arguments of a predicate, or nothing when it has no parentheses. -/
def argumentList? (predicate : List Char) : Except MissingBracket (Option (List (List Char))) :=
  (content? predicate).map (·.map argumentsOfContent)

/-- The trimmed arguments at the top level of a predicate. -/
def arguments (predicate : String) : Except MissingBracket (List String) :=
  (argumentList? predicate.toList).map fun found =>
    (found.getD []).map String.ofList

/-- The number of arguments at the top level; `rain` and `rain()` have none. -/
def arity (predicate : String) : Except MissingBracket Nat :=
  (arguments predicate).map List.length

/-- Trimming makes no text longer, which the recursion over arguments needs. -/
theorem length_trim_le (text : List Char) : (trim text).length ≤ text.length := by
  have left := length_dropWhile_le isBlank text
  have right := length_dropWhile_le isBlank (trimLeft text).reverse
  simp [trim, trimRight, trimLeft] at *
  omega

/-- A piece between commas is not longer than the text that it was cut from. -/
theorem length_of_mem_splitTopLevel {depth : Nat} {text piece : List Char}
    (member : piece ∈ splitTopLevel depth text) : piece.length ≤ text.length := by
  induction text generalizing depth piece with
  | nil => simp_all [splitTopLevel]
  | cons character rest inductionHypothesis =>
    simp only [splitTopLevel] at member
    split at member
    · simp only [List.mem_cons] at member
      rcases member with rfl | member
      · simp
      · have := inductionHypothesis member
        simp
        omega
    · generalize (if character = '(' ∨ character = '[' then depth + 1
        else if character = ')' ∨ character = ']' then depth - 1 else depth) = inner at member
      split at member
      · simp_all
      next first pieces split =>
        simp only [List.mem_cons] at member
        rcases member with rfl | member
        · have := @inductionHypothesis inner first (by simp [split])
          simp
          omega
        · have := @inductionHypothesis inner piece (by simp [split, member])
          simp
          omega

/-- Cutting a text at the last place of a pattern leaves everything but the pattern. -/
theorem length_splitLast {pattern text before after : List Char}
    (split : splitLast pattern text = some (before, after)) :
    before.length + after.length + pattern.length = text.length := by
  induction text generalizing before with
  | nil =>
    by_cases empty : pattern.isEmpty <;> simp [splitLast, empty] at split
    obtain ⟨rfl, rfl⟩ := split
    simp_all
  | cons character rest inductionHypothesis =>
    simp only [splitLast] at split
    split at split
    next found =>
      simp only [Option.some.injEq, Prod.mk.injEq] at split
      obtain ⟨rfl, rfl⟩ := split
      have := inductionHypothesis found
      simp
      omega
    next =>
      simp only [Option.map_eq_some_iff, Prod.mk.injEq] at split
      obtain ⟨tail, cut, rfl, rfl⟩ := split
      rw [isPrefixOf?_eq_some_iff.mp cut]
      simp
      omega

/-- Every argument is shorter than its predicate, which has two parentheses besides. -/
theorem length_of_mem_argumentList {predicate argument : List Char}
    {found : List (List Char)} (read : argumentList? predicate = .ok (some found))
    (member : argument ∈ found) : argument.length < predicate.length := by
  have whole := length_dropWhile_le (· != '(') predicate
  simp only [argumentList?, content?] at read
  split at read
  next => simp [Except.map] at read
  next opening rest cut =>
    rw [cut] at whole
    split at read
    next content after split =>
      have lengths := length_splitLast split
      simp only [Except.map, Option.map_some, Except.ok.injEq, Option.some.injEq] at read
      subst read
      unfold argumentsOfContent at member
      split at member
      · simp at member
      · obtain ⟨piece, listed, rfl⟩ := List.mem_map.mp member
        have := length_of_mem_splitTopLevel listed
        have := length_trim_le piece
        simp at *
        omega
    next => simp [Except.map] at read

/-- The nesting of a predicate text: leaves, and names with a list of arguments. -/
inductive Shape where
  | leaf
  | compound (name : List Char) (arguments : List Shape)

/-- The shape of a predicate text, argument by argument. -/
def shape (predicate : List Char) : Except MissingBracket Shape :=
  match _read : argumentList? predicate with
  | .error error => .error error
  | .ok none => .ok .leaf
  | .ok (some found) => do
    let shapes ← found.attach.mapM fun ⟨argument, _member⟩ => shape argument
    return .compound (nameText predicate) shapes
termination_by predicate.length
decreasing_by exact length_of_mem_argumentList _read _member

mutual

/-- The text of a shape with a fresh variable for every leaf, numbered from left to right from
`next` on, together with the first number that is left. -/
def Shape.mask (next : Nat) : Shape → String × Nat
  | leaf => ("_X" ++ toString next, next + 1)
  | compound name arguments =>
    let (texts, next) := maskAll next arguments
    (String.ofList name ++ "(" ++ joined ", " texts ++ ")", next)

/-- The texts of several shapes, numbered on from one to the next. -/
def Shape.maskAll (next : Nat) : List Shape → List String × Nat
  | [] => ([], next)
  | first :: rest =>
    let (text, next) := first.mask next
    let (texts, next) := maskAll next rest
    (text :: texts, next)

end

/-- Every leaf argument replaced by a fresh variable, numbered across all predicates, and each
predicate ended by a stop. -/
def maskVariables (predicates : List String) : Except MissingBracket (List String) := do
  let shapes ← predicates.mapM fun predicate => shape (trim predicate.toList)
  return (Shape.maskAll 1 shapes).1.map (· ++ ".")

end Statute.Logic.Predicate
