import Statute.Proofs.Examples.FactPrograms

/-!
# Constants that are read back

A constant that is written as the argument of a fact is read as an atom, unless it is a number.
Reading takes the quotation marks away and leaves the backslashes that writing put before quotes and
backslashes. So the name of the atom is the constant exactly when the constant has neither, and in
any case the constant can be told from the name.
-/

namespace Statute.Examples

open Statute.Logic

/-- A text with a backslash before each of its single quotes and backslashes. -/
def escaped (value : String) : String :=
  String.ofList (value.toList.flatMap quotedConstantCharacter)

/-- Escaping shortens no text. -/
theorem length_le_flatMap_quoted (text : List Char) :
    text.length ≤ (text.flatMap quotedConstantCharacter).length := by
  induction text with
  | nil => exact Nat.le_refl _
  | cons character text inductionHypothesis =>
    rw [List.flatMap_cons, List.length_append, List.length_cons]
    rcases quotedConstantCharacter_cases character with ⟨-, written⟩ | ⟨-, -, written⟩ <;>
    · rw [written]
      simp only [List.length_cons, List.length_nil]
      omega

/-- Escaping changes no text but those with quotes or backslashes. -/
theorem escaped_eq_self_iff {value : String} :
    escaped value = value ↔ '\\' ∉ value.toList ∧ '\'' ∉ value.toList := by
  rw [escaped, ← String.toList_inj, String.toList_ofList]
  generalize value.toList = text
  induction text with
  | nil => simp
  | cons character text inductionHypothesis =>
    rw [List.flatMap_cons, List.mem_cons, List.mem_cons]
    rcases quotedConstantCharacter_cases character with
      ⟨special, written⟩ | ⟨notBackslash, notQuote, written⟩
    · have longer : ['\\', character] ++ text.flatMap quotedConstantCharacter ≠
          character :: text := by
        intro same
        have lengths := congrArg List.length same
        have notShorter := length_le_flatMap_quoted text
        simp only [List.length_append, List.length_cons, List.length_nil] at lengths
        omega
      rw [written]
      refine iff_of_false longer ?_
      rintro ⟨notBackslash, notQuote⟩
      rcases special with rfl | rfl
      · exact notBackslash (.inl rfl)
      · exact notQuote (.inl rfl)
    · rw [written, List.singleton_append, List.cons.injEq, inductionHypothesis]
      simp [notBackslash.symm, notQuote.symm]

/-- What is no number stands for the atom of its escaped text. -/
theorem constantTerm_eq_atom {value : String} (notNumber : isPlainNumber value.toList = false) :
    constantTerm value = .atom (escaped value) := by
  rw [constantTerm, notNumber, if_neg Bool.false_ne_true]
  split
  next plain =>
    obtain ⟨first, others, shape, lower, named⟩ := exists_of_isPlainName plain
    have nameCharacters : ∀ character ∈ value.toList, isNameCharacter character = true := by
      rw [shape, List.forall_mem_cons]
      exact ⟨isNameCharacter_of_isLowerLetter lower, named⟩
    have unchanged : escaped value = value := escaped_eq_self_iff.mpr
      ⟨fun present => absurd (nameCharacters _ present) (by decide),
        fun present => absurd (nameCharacters _ present) (by decide)⟩
    rw [unchanged]
  next => rfl

/-- A constant that is no number is read as the atom of its escaped text. This is the constant
itself exactly when it has neither quotes nor backslashes, and it is that of no other constant. -/
theorem parseClause_quoteConstant {value : String}
    (notNumber : isPlainNumber value.toList = false) :
    parseClause ("p(" ++ quoteConstant value ++ ").") =
        .ok ⟨.compound "p" [.atom (escaped value)], none⟩ ∧
      (escaped value = value ↔ '\\' ∉ value.toList ∧ '\'' ∉ value.toList) ∧
      ∀ other, escaped other = escaped value → other = value := by
  refine ⟨?_, escaped_eq_self_iff, ?_⟩
  · have reads := parseClause_written (ExampleStore.writtenFact "p" rfl [value])
    have text : (ExampleStore.writtenFact "p" rfl [value]).text =
        "p(" ++ quoteConstant value ++ ")." := rfl
    have clause : (ExampleStore.writtenFact "p" rfl [value]).clause =
        ⟨.compound "p" [.atom (escaped value)], none⟩ := by
      rw [← constantTerm_eq_atom notNumber]
      rfl
    rwa [text, clause] at reads
  · intro other same
    exact String.toList_inj.mp
      (flatMap_quotedConstantCharacter_injective (String.ofList_injective same))

/-- A constant with the signs of comments, stops and rules, on two lines, is read back as it is. -/
theorem exampleLines_read_back :
    isPlainNumber "50 % :- x.\n\"y\"".toList = false ∧
      parseClause ("p(" ++ quoteConstant "50 % :- x.\n\"y\"" ++ ").") =
        .ok ⟨.compound "p" [.atom "50 % :- x.\n\"y\""], none⟩ := by
  have notNumber : isPlainNumber "50 % :- x.\n\"y\"".toList = false := by decide
  obtain ⟨reads, same, -⟩ := parseClause_quoteConstant notNumber
  rw [same.mpr (by decide)] at reads
  exact ⟨notNumber, reads⟩

/-- A constant need not be read back: the backslash before its quote stays. -/
theorem exampleApostrophe_read_escaped :
    isPlainNumber "o'neil".toList = false ∧
      parseClause ("p(" ++ quoteConstant "o'neil" ++ ").") =
        .ok ⟨.compound "p" [.atom "o\\'neil"], none⟩ ∧
      parseClause ("p(" ++ quoteConstant "o'neil" ++ ").") ≠
        .ok ⟨.compound "p" [.atom "o'neil"], none⟩ := by
  have reads : parseClause ("p(" ++ quoteConstant "o'neil" ++ ").") =
      .ok ⟨.compound "p" [.atom "o\\'neil"], none⟩ := toOption_eq_some_iff.mp (by decide +kernel)
  refine ⟨by decide, reads, ?_⟩
  rw [reads]
  decide

end Statute.Examples
