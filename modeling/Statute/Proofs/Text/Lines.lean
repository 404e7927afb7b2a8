import Statute.Text.Search

/-!
# Lines of a text

A text that is joined with line ends can be cut at all of them, which gives back what was joined if
no line end stands inside of it. So a text is joined in one way only from a number of lines.
-/

namespace Statute.Text

/-- Lines with line ends between them, as characters. -/
theorem toList_joined_lines (lines : List String) :
    (joined "\n" lines).toList = ['\n'].intercalate (lines.map String.toList) := by
  induction lines with
  | nil => rfl
  | cons first others inductionHypothesis =>
    cases others with
    | nil => simp [joined, List.intercalate]
    | cons second others => simp_all [joined, List.intercalate]

/-- The line ends of a joined text are those that stand between its parts and those inside of
them. -/
theorem count_joined_lines (lines : List String) :
    (joined "\n" lines).toList.count '\n' =
      (lines.flatMap String.toList).count '\n' + (lines.length - 1) := by
  induction lines with
  | nil => rfl
  | cons first others inductionHypothesis =>
    cases others with
    | nil => simp [joined]
    | cons second others =>
      simp only [joined, String.toList_append, List.count_append, inductionHypothesis]
      simp
      omega

/-- Lines have no line end together exactly when none of them has one. -/
theorem count_flatMap_lines_eq_zero_iff {lines : List String} :
    (lines.flatMap String.toList).count '\n' = 0 ↔ ∀ line ∈ lines, '\n' ∉ line.toList := by
  simp [List.count_eq_zero, List.mem_flatMap]

/-- Cutting a joined text at its line ends gives back what it was joined from. -/
theorem splitOn_joined_lines {lines : List String} (oneLine : ∀ line ∈ lines, '\n' ∉ line.toList)
    (nonempty : lines ≠ []) :
    (joined "\n" lines).toList.splitOn '\n' = lines.map String.toList := by
  rw [toList_joined_lines]
  exact List.splitOn_intercalate '\n' (List.forall_mem_map.mpr oneLine) (by simpa using nonempty)

/-- A text that is joined from lines without line ends inside is joined from nothing else that has
as many parts. -/
theorem joined_lines_injective {lines others : List String}
    (oneLine : ∀ line ∈ lines, '\n' ∉ line.toList) (sameLength : lines.length = others.length)
    (same : joined "\n" lines = joined "\n" others) : lines = others := by
  have counts := congrArg (fun text : String => text.toList.count '\n') same
  simp only [count_joined_lines, sameLength, Nat.add_right_cancel_iff] at counts
  rw [count_flatMap_lines_eq_zero_iff.mpr oneLine] at counts
  have othersOneLine := count_flatMap_lines_eq_zero_iff.mp counts.symm
  by_cases nonempty : lines = []
  · subst nonempty
    exact (List.eq_nil_of_length_eq_zero sameLength.symm).symm
  · have othersNonempty : others ≠ [] := by
      rintro rfl
      exact nonempty (List.eq_nil_of_length_eq_zero sameLength)
    have cut := splitOn_joined_lines oneLine nonempty
    rw [same, splitOn_joined_lines othersOneLine othersNonempty] at cut
    exact (List.map_inj_right fun _ _ => String.toList_inj.mp).mp cut.symm

end Statute.Text
