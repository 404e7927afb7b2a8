import Statute.Proofs.Logic.Reading
import Statute.Proofs.Logic.Scanning
import Statute.Text.Search

/-!
# Programs as lines of clauses

A text that is scanned and read as one clause whatever follows it can be put on a line of its own:
lines of such texts are a program with one clause for each of them, in the same order.
-/

namespace Statute.Logic

open Statute.Text

/-- A text that is one clause wherever it stands. -/
structure WrittenClause where
  text : String
  tokens : List Token
  clause : Clause
  nonempty : tokens ≠ []
  scans : ∀ rest, Scans (text.toList ++ rest) tokens rest
  reads : Reads Reader.clause maximumDepth tokens clause fun _ => True

/-- The text alone is read as its clause. -/
theorem parseClause_written (part : WrittenClause) : parseClause part.text = .ok part.clause := by
  have judged := part.scans []
  rw [List.append_nil] at judged
  obtain ⟨lexemes, scanned, same⟩ := tokenize_of_scans judged
  obtain ⟨start, read⟩ :=
    part.reads lexemes [] 0 0 (byteLength part.text.toList) same (Nat.le_refl _) trivial
  rw [List.append_nil] at read
  simp only [parseClause, scanned, Cursor.atStart, read, bind, Except.bind, Cursor.atEnd,
    List.isEmpty_nil, if_true, pure, Except.pure]

/-- Every clause takes a token at least. -/
theorem length_le_flatMap_tokens (parts : List WrittenClause) :
    parts.length ≤ (parts.flatMap WrittenClause.tokens).length := by
  induction parts with
  | nil => simp
  | cons part parts inductionHypothesis =>
    have taken := List.length_pos_iff.mpr part.nonempty
    simp only [List.flatMap_cons, List.length_cons, List.length_append]
    omega

/-- Clauses one after another are read up to the end. -/
theorem reads_clauses (parts : List WrittenClause) {bound : Nat} (enough : parts.length ≤ bound) :
    Reads (Reader.clauses bound) maximumDepth (parts.flatMap WrittenClause.tokens)
      (parts.map WrittenClause.clause) (· = none) := by
  induction parts generalizing bound with
  | nil =>
    intro read rest depth previous length same free followed
    obtain rfl : read = [] := by simpa using same
    obtain rfl : rest = [] := by simpa [headToken?] using followed
    refine ⟨previous, ?_⟩
    cases bound <;> simp [Reader.clauses, Cursor.atEnd]
  | cons part parts inductionHypothesis =>
    obtain ⟨bound, rfl⟩ : ∃ less, bound = less + 1 := ⟨bound - 1, by simp at enough; omega⟩
    intro read rest depth previous length same free followed
    obtain ⟨clauseRead, laterRead, rfl, clauseSame, laterSame⟩ := List.map_eq_append_iff.mp same
    obtain ⟨start, clauseReads⟩ := part.reads clauseRead (laterRead ++ rest) depth previous length
      clauseSame free trivial
    obtain ⟨finish, laterReads⟩ := inductionHypothesis (by simpa using enough)
      laterRead rest depth start length laterSame free followed
    have begins : clauseRead ≠ [] := by
      rintro rfl
      exact part.nonempty clauseSame.symm
    have notAtEnd : (clauseRead ++ (laterRead ++ rest)).isEmpty = false := by simp [begins]
    refine ⟨finish, ?_⟩
    simp only [Reader.clauses, Cursor.atEnd, List.append_assoc, notAtEnd, Bool.false_eq_true,
      if_false, clauseReads, laterReads, List.map_cons, bind, Except.bind, pure, Except.pure]

/-- Lines of clauses are scanned as the tokens of one clause after another. -/
theorem scans_joined (parts : List WrittenClause) :
    Scans (joined "\n" (parts.map WrittenClause.text)).toList
      (parts.flatMap WrittenClause.tokens) [] := by
  induction parts with
  | nil => exact .done
  | cons part parts inductionHypothesis =>
    cases parts with
    | nil => simpa [joined] using part.scans []
    | cons next parts =>
      have line : (joined "\n" ((part :: next :: parts).map WrittenClause.text)).toList =
          part.text.toList ++
            '\n' :: (joined "\n" ((next :: parts).map WrittenClause.text)).toList := by
        simp [joined]
      rw [line, List.flatMap_cons]
      exact (part.scans _).append (.blank rfl inductionHypothesis)

/-- Lines of clauses are a program of these clauses. -/
theorem parseProgram_joined (parts : List WrittenClause) :
    parseProgram (joined "\n" (parts.map WrittenClause.text)) =
      .ok (parts.map WrittenClause.clause) := by
  obtain ⟨lexemes, scanned, same⟩ := tokenize_of_scans (scans_joined parts)
  have enough : parts.length ≤ lexemes.length := by
    have lengths := congrArg List.length same
    have atLeast := length_le_flatMap_tokens parts
    simp only [List.length_map] at lengths
    omega
  obtain ⟨finish, read⟩ := reads_clauses parts enough lexemes [] 0 0
    (byteLength (joined "\n" (parts.map WrittenClause.text)).toList) same (Nat.le_refl _) rfl
  rw [List.append_nil] at read
  simp only [parseProgram, scanned, Cursor.atStart, read, bind, Except.bind, pure, Except.pure]

end Statute.Logic
