import Mathlib.Data.List.TakeDrop
import Statute.Examples.Constant
import Statute.Proofs.Logic.Reading
import Statute.Proofs.Logic.Spelling

/-!
# Constants as terms

The text of a constant is scanned as the tokens of one term, whatever characters the constant has,
and different constants have different texts. In a quoted constant the backslashes that
`quoteConstant` puts before quotes and backslashes remain part of the name that is read.
-/

namespace Statute.Examples

open Statute.Logic

/-- The term that a constant stands for in a program. -/
def constantTerm (value : String) : Term :=
  if isPlainNumber value.toList then .number value
  else if isPlainName value.toList then .atom value
  else .atom (String.ofList (value.toList.flatMap quotedConstantCharacter))

/-- The tokens of a number in a program: a minus sign is one of its own. -/
def numberTokens : List Char → List Token
  | '-' :: digits => [.operator "-", .number (String.ofList digits)]
  | digits => [.number (String.ofList digits)]

/-- The tokens of a constant in a program. -/
def constantTokens (value : String) : List Token :=
  if isPlainNumber value.toList then numberTokens value.toList
  else if isPlainName value.toList then [.atom value]
  else [.quotedAtom (quoteConstant value)]

/-- A plain name is a lower-case letter with characters of names behind it. -/
theorem exists_of_isPlainName {text : List Char} (plain : isPlainName text = true) :
    ∃ first name, text = first :: name ∧ isLowerLetter first = true ∧
      ∀ character ∈ name, isNameCharacter character = true := by
  cases text with
  | nil => exact nomatch plain
  | cons first name =>
    simp only [isPlainName, Bool.and_eq_true, List.all_eq_true] at plain
    exact ⟨first, name, rfl, plain⟩

/-- A number without sign has a digit in front, and it is cut off whole before every text that
cannot extend it. -/
theorem splitNumber_of_isUnsignedNumber {text rest : List Char}
    (number : isUnsignedNumber text = true) (ends : EndsNumber rest) :
    ∃ first others, text = first :: others ∧ isDigit first = true ∧
      splitNumber (text ++ rest) = (text, rest) := by
  have whole := List.takeWhile_append_dropWhile (p := isDigit) (l := text)
  have digits : ∀ character ∈ text.takeWhile isDigit, isDigit character = true :=
    List.all_eq_true.mp List.all_takeWhile
  simp only [isUnsignedNumber, List.span_eq_takeWhile_dropWhile] at number
  generalize text.takeWhile isDigit = front at *
  generalize text.dropWhile isDigit = behind at *
  subst whole
  split at number
  next => exact nomatch number
  next nonempty same =>
    obtain ⟨rfl, rfl⟩ := Prod.mk.inj same
    obtain ⟨first, others, rfl⟩ := List.exists_cons_of_ne_nil nonempty
    refine ⟨first, others, by simp, digits first List.mem_cons_self, ?_⟩
    rw [List.append_nil]
    exact splitNumber_whole digits ends
  next fraction nonempty same =>
    obtain ⟨rfl, rfl⟩ := Prod.mk.inj same
    simp only [Bool.and_eq_true, Bool.not_eq_true', List.isEmpty_eq_false_iff,
      List.all_eq_true] at number
    obtain ⟨first, others, rfl⟩ := List.exists_cons_of_ne_nil nonempty
    obtain ⟨digit, fraction, rfl⟩ := List.exists_cons_of_ne_nil number.1
    refine ⟨first, others ++ '.' :: digit :: fraction, rfl, digits first List.mem_cons_self, ?_⟩
    exact splitNumber_fraction digits number.2 ends.1
  next => exact nomatch number

/-- A quotation mark closes what is quoted. -/
theorem splitQuoted?_quote (quote : Char) (rest : List Char) :
    splitQuoted? quote (quote :: rest) = some ([], rest) := by
  unfold splitQuoted?
  simp

/-- A character that is neither a quotation mark nor a backslash is quoted as it is. -/
theorem splitQuoted?_plain {quote character : Char} (notQuote : character ≠ quote)
    (notBackslash : character ≠ '\\') (rest : List Char) :
    splitQuoted? quote (character :: rest) =
      (splitQuoted? quote rest).map fun (inside, after) => (character :: inside, after) := by
  rw [splitQuoted?.eq_def]
  simp [notQuote, notBackslash]

/-- A backslash takes the next character with it. -/
theorem splitQuoted?_escape {quote escaped : Char} (notBackslash : quote ≠ '\\')
    (notLineEnd : escaped ≠ '\n') (rest : List Char) :
    splitQuoted? quote ('\\' :: escaped :: rest) =
      (splitQuoted? quote rest).map fun (inside, after) => ('\\' :: escaped :: inside, after) := by
  rw [splitQuoted?.eq_def]
  simp [notBackslash.symm, notLineEnd]

/-- A backslash stands before quotes and backslashes and before no other character. -/
theorem quotedConstantCharacter_cases (character : Char) :
    ((character = '\\' ∨ character = '\'') ∧
        quotedConstantCharacter character = ['\\', character]) ∨
      (character ≠ '\\' ∧ character ≠ '\'' ∧ quotedConstantCharacter character = [character]) := by
  simp only [quotedConstantCharacter, Bool.or_eq_true, decide_eq_true_eq]
  split
  next special => exact .inl ⟨special, rfl⟩
  next plain =>
    obtain ⟨notBackslash, notQuote⟩ := not_or.mp plain
    exact .inr ⟨notBackslash, notQuote, rfl⟩

/-- An escaped text closes at no quotation mark of its own. -/
theorem splitQuoted?_escaped (text rest : List Char) :
    splitQuoted? '\'' (text.flatMap quotedConstantCharacter ++ '\'' :: rest) =
      some (text.flatMap quotedConstantCharacter, rest) := by
  induction text with
  | nil => exact splitQuoted?_quote _ _
  | cons character text inductionHypothesis =>
    rw [List.flatMap_cons, List.append_assoc]
    rcases quotedConstantCharacter_cases character with
      ⟨special, written⟩ | ⟨notBackslash, notQuote, written⟩
    · have notLineEnd : character ≠ '\n' := by rcases special with rfl | rfl <;> decide
      rw [written, List.cons_append, List.cons_append, List.nil_append,
        splitQuoted?_escape (by decide) notLineEnd, inductionHypothesis]
      rfl
    · rw [written, List.cons_append, List.nil_append, splitQuoted?_plain notQuote notBackslash,
        inductionHypothesis]
      rfl

/-- An escaped text between quotation marks is one quoted atom. -/
theorem scanToken?_escaped (text rest : List Char) :
    scanToken? ('\'' :: (text.flatMap quotedConstantCharacter ++ '\'' :: rest)) =
      some (.quotedAtom (String.ofList ('\'' :: (text.flatMap quotedConstantCharacter ++ ['\'']))),
        rest) := by
  change scanQuoted? '\'' .quotedAtom _ = _
  rw [scanQuoted?, splitQuoted?_escaped]
  rfl

/-- Escaping loses nothing. -/
theorem flatMap_quotedConstantCharacter_injective :
    Function.Injective fun text : List Char => text.flatMap quotedConstantCharacter := by
  have nonempty (character : Char) (text : List Char) :
      [] ≠ quotedConstantCharacter character ++ text := by
    rcases quotedConstantCharacter_cases character with ⟨-, written⟩ | ⟨-, -, written⟩ <;>
      simp [written]
  intro left right same
  simp only at same
  induction left generalizing right with
  | nil =>
    cases right with
    | nil => rfl
    | cons second right => exact absurd same (nonempty second _)
  | cons first left inductionHypothesis =>
    cases right with
    | nil => exact absurd same.symm (nonempty first _)
    | cons second right =>
      rw [List.flatMap_cons, List.flatMap_cons] at same
      rcases quotedConstantCharacter_cases first with
          ⟨-, firstWritten⟩ | ⟨firstPlain, -, firstWritten⟩ <;>
        rcases quotedConstantCharacter_cases second with
          ⟨-, secondWritten⟩ | ⟨secondPlain, -, secondWritten⟩ <;>
        rw [firstWritten, secondWritten] at same <;>
        simp only [List.cons_append, List.nil_append, List.cons.injEq] at same
      · rw [same.2.1, inductionHypothesis same.2.2]
      · exact absurd same.1.symm secondPlain
      · exact absurd same.1 firstPlain
      · rw [same.1, inductionHypothesis same.2]

/-- Plain names and plain numbers begin with no quotation mark. -/
theorem not_plain_of_quote (text : List Char) :
    (isPlainName ('\'' :: text) || isPlainNumber ('\'' :: text)) = false := by
  simp [isPlainName, isLowerLetter, isPlainNumber, isUnsignedNumber, isDigit,
    List.span_eq_takeWhile_dropWhile]

/-- What is neither a plain name nor a plain number is escaped between quotation marks. -/
theorem toList_quoteConstant {value : String}
    (quoted : (isPlainName value.toList || isPlainNumber value.toList) = false) :
    (quoteConstant value).toList =
      '\'' :: value.toList.flatMap quotedConstantCharacter ++ ['\''] := by
  simp only [quoteConstant, quoted, Bool.false_eq_true, if_false, String.toList_ofList]

/-- Names and numbers are written without quotation marks. -/
theorem quoteConstant_of_plain {value : String}
    (plain : (isPlainName value.toList || isPlainNumber value.toList) = true) :
    quoteConstant value = value := by
  simp only [quoteConstant, plain, if_true]

/-- Different constants have different texts. -/
theorem quoteConstant_injective : Function.Injective quoteConstant := by
  have apart {plain quoted : String}
      (isPlain : (isPlainName plain.toList || isPlainNumber plain.toList) = true)
      (isQuoted : (isPlainName quoted.toList || isPlainNumber quoted.toList) = false) :
      plain ≠ quoteConstant quoted := by
    intro same
    rw [same, toList_quoteConstant isQuoted, List.cons_append, not_plain_of_quote] at isPlain
    exact nomatch isPlain
  intro left right same
  cases leftPlain : isPlainName left.toList || isPlainNumber left.toList with
  | true =>
    rw [quoteConstant_of_plain leftPlain] at same
    cases rightPlain : isPlainName right.toList || isPlainNumber right.toList with
    | true => rwa [quoteConstant_of_plain rightPlain] at same
    | false => exact absurd same (apart leftPlain rightPlain)
  | false =>
    cases rightPlain : isPlainName right.toList || isPlainNumber right.toList with
    | true =>
      rw [quoteConstant_of_plain rightPlain] at same
      exact absurd same.symm (apart rightPlain leftPlain)
    | false =>
      have texts := congrArg String.toList same
      rw [toList_quoteConstant leftPlain, toList_quoteConstant rightPlain] at texts
      have escaped := List.append_cancel_right (List.cons.inj texts).2
      exact String.toList_inj.mp (flatMap_quotedConstantCharacter_injective escaped)

/-- Unquoting takes the quotation marks away and leaves what was escaped. -/
theorem unquote_quoteConstant {value : String}
    (quoted : (isPlainName value.toList || isPlainNumber value.toList) = false) :
    Reader.unquote (quoteConstant value) =
      String.ofList (value.toList.flatMap quotedConstantCharacter) := by
  simp only [Reader.unquote, toList_quoteConstant quoted, List.cons_append, List.tail_cons,
    List.dropLast_concat]

/-- A number has a minus sign in front, or it is one token. -/
theorem numberTokens_cases (text : List Char) :
    (∃ digits, text = '-' :: digits) ∨
      numberTokens text = [.number (String.ofList text)] ∧
        isPlainNumber text = isUnsignedNumber text := by
  cases text with
  | nil => exact .inr ⟨rfl, rfl⟩
  | cons first others =>
    by_cases minus : first = '-'
    · exact .inl ⟨others, by rw [minus]⟩
    · refine .inr ⟨?_, ?_⟩
      · unfold numberTokens
        split
        next same => exact absurd (List.cons.inj same).1 minus
        next => rfl
      · unfold isPlainNumber
        split
        next same => exact absurd (List.cons.inj same).1 minus
        next => rfl

/-- A number is scanned as its own tokens before every text that does not extend it. -/
theorem scans_number {text rest : List Char} (number : isPlainNumber text = true)
    (ends : EndsNumber rest) : Scans (text ++ rest) (numberTokens text) rest := by
  rcases numberTokens_cases text with ⟨digits, rfl⟩ | ⟨oneToken, unsigned⟩
  · obtain ⟨first, others, rfl, digit, cut⟩ := splitNumber_of_isUnsignedNumber number ends
    exact .token rfl (.single (scanToken?_number digit cut))
  · rw [unsigned] at number
    obtain ⟨first, others, rfl, digit, cut⟩ := splitNumber_of_isUnsignedNumber number ends
    rw [oneToken]
    exact .single (scanToken?_number digit cut)

/-- A constant is scanned as its own tokens before every text that extends no name and no
number. -/
theorem scans_constant (value : String) {rest : List Char} (endsName : EndsName rest)
    (endsNumber : EndsNumber rest) :
    Scans ((quoteConstant value).toList ++ rest) (constantTokens value) rest := by
  unfold constantTokens
  split
  next number =>
    rw [quoteConstant_of_plain (by simp [number])]
    exact scans_number number endsNumber
  next notNumber =>
    split
    next name =>
      rw [quoteConstant_of_plain (by simp [name])]
      obtain ⟨first, others, shape, lower, named⟩ := exists_of_isPlainName name
      have scanned := scanToken?_atom lower named endsName
      rw [← shape, String.ofList_toList] at scanned
      exact .single scanned
    next notName =>
      have quoted : (isPlainName value.toList || isPlainNumber value.toList) = false := by
        simp [notNumber, notName]
      have scanned := scanToken?_escaped value.toList rest
      have written := toList_quoteConstant quoted
      rw [List.cons_append] at written
      rw [← written, String.ofList_toList] at scanned
      rw [toList_quoteConstant quoted, List.append_assoc]
      exact .single scanned

/-- A number is read as itself, with its sign. -/
theorem reads_number (text : List Char) (levels : Nat) :
    Reads (Reader.primary (levels + 1)) (levels + 1) (numberTokens text)
      (.number (String.ofList text)) fun _ => True := by
  apply Reads.primary
  rcases numberTokens_cases text with ⟨digits, rfl⟩ | ⟨oneToken, -⟩
  · have spelled : String.ofList ('-' :: digits) = "-" ++ String.ofList digits := by
      rw [← String.toList_inj]
      simp
    rw [spelled]
    exact Reads.primaryInside_negative _
  · rw [oneToken]
    exact Reads.primaryInside_number _

/-- A constant is read as its own term. -/
theorem reads_constant (value : String) (levels : Nat) :
    Reads (Reader.primary (levels + 1)) (levels + 1) (constantTokens value) (constantTerm value)
      (· ≠ some .openParen) := by
  unfold constantTokens constantTerm
  split
  next number =>
    have reads := reads_number value.toList levels
    rw [String.ofList_toList] at reads
    exact reads.mono fun _ _ => trivial
  next =>
    apply Reads.primary
    split
    next => exact Reads.primaryInside_name rfl (Reads.callable_atom value)
    next notNumber notName =>
      have quoted : (isPlainName value.toList || isPlainNumber value.toList) = false := by
        simp [notNumber, notName]
      rw [← unquote_quoteConstant quoted]
      exact Reads.primaryInside_name rfl (Reads.callable_atom _)

end Statute.Examples
