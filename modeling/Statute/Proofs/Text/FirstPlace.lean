import Mathlib.Data.List.TakeWhile
import Statute.Text.Search

/-!
# First places of patterns

Where a run of characters ends and where a pattern is found first, in texts that are put together. A
pattern whose first character occurs in it only once has no place that begins in a text and ends
behind it, when what follows the text begins with that character again. So the first place of such
a pattern is behind every text that the pattern is absent from.
-/

namespace Statute.Text

/-- A run of characters of one kind ends where another kind begins. -/
theorem takeWhile_append_of_ends {keep : Char → Bool} {word rest : List Char}
    (kept : ∀ character ∈ word, keep character = true)
    (ends : ∀ character ∈ rest.head?, keep character = false) :
    (word ++ rest).takeWhile keep = word ∧ (word ++ rest).dropWhile keep = rest := by
  rw [List.takeWhile_append_of_pos kept, List.dropWhile_append_of_pos kept]
  cases rest with
  | nil => simp
  | cons character tail => simp [ends character rfl]

variable {first : Char} {others text rest : List Char}

/-- A pattern that is absent from a text does not begin in it, when what follows the text is empty or
begins as the pattern does. -/
theorem not_isPrefix_append (once : first ∉ others) (absent : ¬ (first :: others) <:+: text)
    (nonempty : text ≠ []) (follows : ∀ character ∈ rest.head?, character = first) :
    ¬ (first :: others) <+: text ++ rest := by
  intro begins
  rcases List.prefix_or_prefix_of_prefix begins (List.prefix_append text rest) with inText | shorter
  · exact absent inText.isInfix
  · -- The pattern reaches beyond the text, where its first character would come a second time.
    obtain ⟨beyond, whole⟩ := shorter
    rw [← whole, List.prefix_append_right_inj] at begins
    obtain ⟨head, tail, rfl⟩ := List.exists_cons_of_ne_nil nonempty
    obtain ⟨rfl, rfl⟩ := List.cons.inj whole
    cases beyond with
    | nil => exact absent (by simp)
    | cons character later =>
      obtain ⟨behind, rfl⟩ := begins
      obtain rfl := follows character rfl
      exact once (by simp)

/-- A pattern that is absent from a text has no first place there. -/
theorem splitFirst_eq_none {pattern : List Char} (nonempty : pattern ≠ [])
    (absent : ¬ pattern <:+: text) : splitFirst pattern text = none := by
  induction text with
  | nil => simp [splitFirst, nonempty]
  | cons character text inductionHypothesis =>
    rw [List.infix_cons_iff, not_or] at absent
    obtain ⟨notHere, notLater⟩ := absent
    have noPrefix : pattern.isPrefixOf? (character :: text) = none := by
      rw [Option.eq_none_iff_forall_ne_some]
      intro after found
      exact notHere ⟨after, (isPrefixOf?_eq_some_iff.mp found).symm⟩
    rw [splitFirst, noPrefix, inductionHypothesis notLater]
    rfl

/-- A pattern that stands in a text has a first place there: it is absent from what comes before. -/
theorem exists_first_place {pattern : List Char} (nonempty : pattern ≠ [])
    (present : pattern <:+: text) :
    ∃ before after, text = before ++ (pattern ++ after) ∧ ¬ pattern <:+: before := by
  induction text with
  | nil => exact absurd (List.infix_nil.mp present) nonempty
  | cons character text inductionHypothesis =>
    by_cases begins : pattern <+: character :: text
    · obtain ⟨after, whole⟩ := begins
      exact ⟨[], after, whole.symm, fun inNothing => nonempty (List.infix_nil.mp inNothing)⟩
    · obtain ⟨before, after, rfl, absent⟩ :=
        inductionHypothesis ((List.infix_cons_iff.mp present).resolve_left begins)
      refine ⟨character :: before, after, rfl, ?_⟩
      rw [List.infix_cons_iff, not_or]
      refine ⟨fun inBefore => begins ?_, absent⟩
      exact inBefore.trans (List.prefix_append (character :: before) (pattern ++ after))

/-- A pattern is cut off a text at its first place. -/
theorem splitFirst_append (once : first ∉ others) (absent : ¬ (first :: others) <:+: text)
    (rest : List Char) :
    splitFirst (first :: others) (text ++ ((first :: others) ++ rest)) = some (text, rest) := by
  induction text with
  | nil =>
    have cut : (first :: others).isPrefixOf? ((first :: others) ++ rest) = some rest :=
      isPrefixOf?_eq_some_iff.mpr rfl
    rw [List.nil_append, List.cons_append, splitFirst, ← List.cons_append, cut]
  | cons character text inductionHypothesis =>
    have noPrefix : (first :: others).isPrefixOf?
        (character :: (text ++ ((first :: others) ++ rest))) = none := by
      rw [Option.eq_none_iff_forall_ne_some]
      intro behind found
      have begins : (first :: others) <+: (character :: text) ++ ((first :: others) ++ rest) :=
        ⟨behind, (isPrefixOf?_eq_some_iff.mp found).symm⟩
      exact not_isPrefix_append once absent (List.cons_ne_nil _ _) (by rintro _ ⟨⟩; rfl) begins
    have absentLater : ¬ (first :: others) <:+: text :=
      fun present => absent (present.trans (List.suffix_cons character text).isInfix)
    rw [List.cons_append, splitFirst, noPrefix, inductionHypothesis absentLater]
    rfl

end Statute.Text
