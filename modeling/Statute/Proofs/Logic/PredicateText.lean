import Statute.Logic.Predicate
import Statute.Proofs.Text.Trimming

/-!
# Names and arguments of predicate texts

Blanks around a predicate are no part of its name or of its arguments: both are the same for the
trimmed predicate. Only the message about a missing bracket shows the blanks.
-/

namespace Statute.Logic.Predicate

open Statute.Text

/-- No blank is a parenthesis. -/
theorem not_parenthesis_of_isBlank {character : Char} (blank : isBlank character = true) :
    character ≠ '(' ∧ character ≠ ')' := by
  constructor <;> rintro rfl <;> exact absurd blank (by decide)

/-- Blanks do not end the name of a predicate. -/
theorem beforeOpening_of_blank {text : List Char} (blank : AllBlank text) :
    ∀ character ∈ text, (character != '(') = true :=
  fun character member => bne_iff_ne.mpr (not_parenthesis_of_isBlank (blank character member)).1

/-- The trimmed name is the same for the trimmed predicate. -/
theorem trim_nameText_trim (predicate : List Char) :
    trim (nameText (trim predicate)) = trim (nameText predicate) := by
  obtain ⟨left, right, whole, leftBlank, rightBlank⟩ := exists_blank_trim predicate
  generalize trim predicate = core at whole ⊢
  subst whole
  rw [nameText, nameText, List.append_assoc,
    List.takeWhile_append_of_pos (beforeOpening_of_blank leftBlank),
    trim_append_left leftBlank, List.takeWhile_append]
  split
  next unopened =>
    have kept : core.takeWhile (· != '(') = core :=
      List.IsPrefix.eq_of_length (List.takeWhile_prefix _) unopened
    have rightKept : right.takeWhile (· != '(') = right :=
      List.takeWhile_eq_self_iff.mpr (beforeOpening_of_blank rightBlank)
    rw [kept, rightKept, trim_append_right rightBlank]
  next => rfl

theorem isPrefixOf?_closing (character : Char) (text : List Char) :
    [')'].isPrefixOf? (character :: text) = if (')' == character) = true then some text else none :=
  rfl

/-- A blank text has no closing parenthesis. -/
theorem splitLast_closing_of_blank {text : List Char} (blank : AllBlank text) :
    splitLast [')'] text = none := by
  induction text with
  | nil => rfl
  | cons character text inductionHypothesis =>
    have notClosing := (not_parenthesis_of_isBlank (blank character List.mem_cons_self)).2
    rw [splitLast, inductionHypothesis fun other member =>
      blank other (List.mem_cons_of_mem _ member)]
    simp [isPrefixOf?_closing, notClosing.symm]

/-- Blanks at the end of a text come behind its last closing parenthesis. -/
theorem splitLast_closing_append {right : List Char} (blank : AllBlank right)
    (text : List Char) :
    splitLast [')'] (text ++ right) =
      (splitLast [')'] text).map fun (content, after) => (content, after ++ right) := by
  induction text with
  | nil => exact splitLast_closing_of_blank blank
  | cons character text inductionHypothesis =>
    rw [List.cons_append, splitLast, splitLast, inductionHypothesis]
    cases splitLast [')'] text with
    | some found => rfl
    | none =>
      simp only [isPrefixOf?_closing, Option.map_none]
      split <;> rfl

/-- The text between the parentheses is the same for the trimmed predicate. -/
theorem content?_trim (predicate : List Char) :
    (content? (trim predicate)).toOption = (content? predicate).toOption := by
  obtain ⟨left, right, whole, leftBlank, rightBlank⟩ := exists_blank_trim predicate
  generalize trim predicate = core at whole ⊢
  subst whole
  have rightGone : right.dropWhile (· != '(') = [] :=
    List.dropWhile_eq_nil_iff.mpr (beforeOpening_of_blank rightBlank)
  rw [content?, content?, List.append_assoc,
    List.dropWhile_append_of_pos (beforeOpening_of_blank leftBlank), List.dropWhile_append,
    rightGone]
  cases core.dropWhile (· != '(') with
  | nil => rfl
  | cons opening afterOpening =>
    simp only [List.isEmpty_cons, Bool.false_eq_true, if_false, List.cons_append,
      splitLast_closing_append rightBlank]
    cases splitLast [')'] afterOpening <;> rfl

/-- The arguments are the same for the trimmed predicate. -/
theorem arguments_trimmed (predicate : String) :
    (arguments (trimmed predicate)).toOption = (arguments predicate).toOption := by
  have same := content?_trim predicate.toList
  simp only [arguments, argumentList?, trimmed, String.toList_ofList]
  cases trimmedContent : content? (trim predicate.toList) <;>
    cases content : content? predicate.toList <;>
    simp_all [Except.toOption, Except.map]

end Statute.Logic.Predicate
