import Mathlib.Data.List.TakeWhile
import Statute.Text.Blank

/-!
# Trimming

What trimming takes away is blank, and blanks at the ends of a text play no part in what trimming
leaves.
-/

namespace Statute.Text

/-- All characters of a text are blank. -/
def AllBlank (text : List Char) : Prop :=
  ∀ character ∈ text, isBlank character = true

instance (text : List Char) : Decidable (AllBlank text) :=
  decidable_of_iff (text.all isBlank = true) List.all_eq_true

/-- Blanks in front go with those that are trimmed on the left. -/
theorem trimLeft_append_of_blank {left : List Char} (blank : AllBlank left) (text : List Char) :
    trimLeft (left ++ text) = trimLeft text :=
  List.dropWhile_append_of_pos blank

/-- Blanks behind go with those that are trimmed on the right. -/
theorem trimRight_append_of_blank {right : List Char} (blank : AllBlank right)
    (text : List Char) : trimRight (text ++ right) = trimRight text := by
  have reversed : ∀ character ∈ right.reverse, isBlank character = true :=
    fun character member => blank character (List.mem_reverse.mp member)
  rw [trimRight, trimRight, List.reverse_append, List.dropWhile_append_of_pos reversed]

/-- Blanks in front of a text are trimmed away. -/
theorem trim_append_left {left : List Char} (blank : AllBlank left) (text : List Char) :
    trim (left ++ text) = trim text := by
  rw [trim, trim, trimLeft_append_of_blank blank]

/-- Blanks behind a text are trimmed away. -/
theorem trim_append_right {right : List Char} (blank : AllBlank right) (text : List Char) :
    trim (text ++ right) = trim text := by
  rw [trim, trim, trimLeft, List.dropWhile_append]
  split
  next empty =>
    have nothing : right.dropWhile isBlank = [] := List.dropWhile_eq_nil_iff.mpr blank
    rw [nothing, trimLeft, List.isEmpty_iff.mp empty]
  next => exact trimRight_append_of_blank blank _

/-- Only what stands in front of a character that is not blank is trimmed away from the left. -/
theorem trimLeft_append_cons {character : Char} (notBlank : isBlank character = false)
    (text rest : List Char) :
    trimLeft (text ++ character :: rest) = trimLeft text ++ character :: rest := by
  rw [trimLeft, trimLeft, List.dropWhile_append]
  split
  next empty => simp [List.isEmpty_iff.mp empty, notBlank]
  next => rfl

/-- A text that ends with a character that is not blank is trimmed from the left only. -/
theorem trim_append_singleton {last : Char} (notBlank : isBlank last = false)
    (text : List Char) : trim (text ++ [last]) = trimLeft text ++ [last] := by
  rw [trim, trimLeft_append_cons notBlank, trimRight, List.reverse_append]
  simp [notBlank]

/-- A text is its trimmed form between blanks. -/
theorem exists_blank_trim (text : List Char) :
    ∃ left right, text = left ++ trim text ++ right ∧ AllBlank left ∧ AllBlank right := by
  have rightWhole : trimRight (trimLeft text) ++
      ((trimLeft text).reverse.takeWhile isBlank).reverse = trimLeft text := by
    rw [trimRight, ← List.reverse_append, List.takeWhile_append_dropWhile, List.reverse_reverse]
  refine ⟨text.takeWhile isBlank, ((trimLeft text).reverse.takeWhile isBlank).reverse, ?_, ?_, ?_⟩
  · rw [trim, List.append_assoc, rightWhole, trimLeft, List.takeWhile_append_dropWhile]
  · exact List.all_eq_true.mp List.all_takeWhile
  · intro character member
    exact List.all_eq_true.mp List.all_takeWhile character (List.mem_reverse.mp member)

/-- What is left of a text stands in it. -/
theorem isInfix_trim (text : List Char) : trim text <:+: text := by
  obtain ⟨left, right, whole, -⟩ := exists_blank_trim text
  exact ⟨left, right, whole.symm⟩

/-- A trimmed text has no blanks at its ends that could be trimmed away. -/
theorem trim_trim (text : List Char) : trim (trim text) = trim text := by
  obtain ⟨left, right, whole, blankLeft, blankRight⟩ := exists_blank_trim text
  calc trim (trim text)
      = trim (left ++ trim text ++ right) := by
        rw [trim_append_right blankRight, trim_append_left blankLeft]
    _ = trim text := by rw [← whole]

/-- Nothing is left of a text exactly when it is blank. -/
theorem isEmpty_trim_iff {text : List Char} : (trim text).isEmpty = true ↔ AllBlank text := by
  obtain ⟨left, right, whole, leftBlank, rightBlank⟩ := exists_blank_trim text
  rw [List.isEmpty_iff]
  constructor
  · intro nothing
    rw [nothing, List.append_nil] at whole
    rw [whole]
    exact List.forall_mem_append.mpr ⟨leftBlank, rightBlank⟩
  · intro blank
    have gone := trim_append_left blank []
    rwa [List.append_nil] at gone

/-- No blank is left in front of a text that is trimmed from the left. -/
theorem not_isBlank_head_trimLeft (text : List Char) :
    ∀ character ∈ (trimLeft text).head?, isBlank character = false := by
  intro character begins
  have notBlank := List.head?_dropWhile_not isBlank text
  rw [← trimLeft, begins] at notBlank
  exact notBlank

/-- Nothing is trimmed from the left of a text that does not begin with a blank. -/
theorem trimLeft_eq_self {text : List Char}
    (begins : ∀ character ∈ text.head?, isBlank character = false) : trimLeft text = text := by
  cases text with
  | nil => rfl
  | cons character rest => simp [trimLeft, begins character rfl]

/-- A trimmed text does not begin with a blank. -/
theorem not_isBlank_head_trim (text : List Char) :
    ∀ character ∈ (trim text).head?, isBlank character = false := by
  intro character begins
  obtain ⟨rest, shape⟩ := List.head?_eq_some_iff.mp begins
  have front : trim text <+: trimLeft text := by
    have suffix : (trimLeft text).reverse.dropWhile isBlank <:+ (trimLeft text).reverse :=
      List.dropWhile_suffix isBlank
    rw [← List.reverse_prefix, List.reverse_reverse] at suffix
    exact suffix
  obtain ⟨behind, whole⟩ := front
  apply not_isBlank_head_trimLeft text
  rw [← whole, shape]
  rfl

/-- A trimmed text does not end with a blank. -/
theorem not_isBlank_last_trim (text : List Char) :
    ∀ character ∈ (trim text).getLast?, isBlank character = false := by
  intro character ends
  apply not_isBlank_head_trimLeft (trimLeft text).reverse
  rw [trim, trimRight, List.getLast?_reverse] at ends
  exact ends

/-- Nothing is trimmed from the ends of a text that are not blank. -/
theorem trim_eq_self_of_ends {text : List Char}
    (begins : ∀ character ∈ text.head?, isBlank character = false)
    (ends : ∀ character ∈ text.getLast?, isBlank character = false) : trim text = text := by
  have right : trimLeft text.reverse = text.reverse := by
    apply trimLeft_eq_self
    rwa [List.head?_reverse]
  rw [trim, trimLeft_eq_self begins, trimRight, ← trimLeft, right, List.reverse_reverse]

/-- Nothing is trimmed away where nothing is blank. -/
theorem trim_eq_self {text : List Char} (notBlank : ∀ character ∈ text, isBlank character = false) :
    trim text = text :=
  trim_eq_self_of_ends (fun character begins => notBlank character (List.mem_of_head? begins))
    fun character ends => notBlank character (List.mem_of_getLast? ends)

/-- Trimming twice is trimming once. -/
theorem trimmed_trimmed (text : String) : trimmed (trimmed text) = trimmed text := by
  rw [trimmed, trimmed, String.toList_ofList, trim_trim]

end Statute.Text
