import Statute.Proofs.Logic.LongestToken
import Statute.Proofs.Text.ByteOffsets

/-!
# Tokens in front of the end of a line

No token reaches beyond the end of a line, and a comment ends there. So when a text is scanned to
its end, it has the same tokens in front of a line end and any further text, and scanning goes on
behind the line end as at the beginning of a text.
-/

namespace Statute.Logic

open Statute.Text

variable {text : List Char} (more : List Char)

/-- The end of a line extends no token. -/
theorem endsTokens_line : EndsTokens ('\n' :: more) := by
  right
  rintro _ ⟨⟩
  decide

/-- Layout in front of other text ends there, whatever follows. -/
theorem splitLayout_append_of_ne_nil {inComment : Bool}
    (ends : (splitLayout inComment text).2 ≠ []) :
    splitLayout inComment (text ++ more) =
      ((splitLayout inComment text).1, (splitLayout inComment text).2 ++ more) := by
  induction text generalizing inComment with
  | nil => cases inComment <;> exact absurd rfl ends
  | cons character text inductionHypothesis =>
    cases inComment with
    | true =>
      simp only [splitLayout] at ends
      simp [splitLayout, inductionHypothesis ends]
    | false =>
      by_cases layout : (isLayoutCharacter character || character = '%') = true
      · simp only [splitLayout, layout, if_true] at ends
        simp only [List.cons_append, splitLayout, layout, if_true, inductionHypothesis ends]
      · simp [splitLayout, layout]

/-- Layout up to the end of a text goes on behind a line end, where no comment is open. -/
theorem splitLayout_append_line {inComment : Bool} (ends : (splitLayout inComment text).2 = []) :
    splitLayout inComment (text ++ '\n' :: more) =
      (text ++ '\n' :: (splitLayout false more).1, (splitLayout false more).2) := by
  induction text generalizing inComment with
  | nil => cases inComment <;> rfl
  | cons character text inductionHypothesis =>
    cases inComment with
    | true =>
      simp only [splitLayout] at ends
      simp [splitLayout, inductionHypothesis ends]
    | false =>
      by_cases layout : (isLayoutCharacter character || character = '%') = true
      · simp only [splitLayout, layout, if_true] at ends
        simp only [List.cons_append, splitLayout, layout, if_true, inductionHypothesis ends]
      · simp [splitLayout, layout] at ends

/-- A text that is scanned to its end has the same tokens in front of a line end, and scanning goes
on behind it. -/
theorem scanFrom_append_line {text : List Char} (more : List Char) {offset : Nat}
    {lexemes : List Lexeme} (scans : scanFrom offset text = .ok lexemes) :
    scanFrom offset (text ++ '\n' :: more) =
      (scanFrom (offset + byteLength text + 1) more).map (lexemes ++ ·) := by
  rw [scanFrom_eq] at scans
  split at scans
  next cut =>
    -- Nothing is left but layout, which the line end only makes longer.
    obtain rfl := Except.ok.inj scans
    have start : offset + byteLength (text ++ '\n' :: (splitLayout false more).1) =
        offset + byteLength text + 1 + byteLength (splitLayout false more).1 := by
      have lineEnd : '\n'.utf8Size = 1 := rfl
      rw [byteLength_append, byteLength, lineEnd]
      omega
    have goesOn : scanFrom offset (text ++ '\n' :: more) =
        scanFrom (offset + byteLength text + 1) more := by
      rw [scanFrom_eq, splitLayout_append_line more cut, scanFrom_eq _ more]
      dsimp only
      rw [start]
    rw [goesOn]
    cases scanFrom _ more <;> rfl
  next first rest cut =>
    dsimp only at scans
    split at scans
    next => cases scans
    next token after scanned =>
      -- No token goes on over a line end, so the first one is the same with more text behind it.
      obtain ⟨later, laterScans, rfl⟩ := map_eq_ok_iff.mp scans
      have spelled := (scanToken?_eq_some scanned).1
      have whole : (splitLayout false text).1 ++ (token.spelling.toList ++ after) = text := by
        rw [← spelled, ← cut, splitLayout_append]
      have shorter := length_lt_of_cut cut scanned
      have length := congrArg byteLength whole
      rw [byteLength_append, byteLength_append] at length
      rw [scanFrom_eq, splitLayout_append_of_ne_nil _ (cut ▸ List.cons_ne_nil first rest), cut]
      have longer := scanToken?_append scanned (endsTokens_line more)
      rw [List.cons_append] at longer ⊢
      simp only [longer]
      rw [scanFrom_append_line more laterScans, ← length]
      simp only [Nat.add_assoc]
      cases scanFrom _ more <;> rfl
termination_by text.length

end Statute.Logic
