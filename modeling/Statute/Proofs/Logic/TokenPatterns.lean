import Mathlib.Computability.Language
import Statute.Proofs.Examples.Constants

/-!
# Patterns of tokens

What the texts of tokens look like, kind by kind, as languages that know nothing of scanning. A
scanned token has the pattern of its kind, and no longer text at its place has the pattern of any
kind. So a number is taken with its fraction, a name with all of its characters, and of two
operators that begin alike the longer one.
-/

namespace Statute.Logic

open Examples
open scoped Computability

/-- Texts of one character of a kind. -/
def oneOf (accepts : Char → Bool) : Language Char :=
  {text | ∃ character, accepts character = true ∧ text = [character]}

/-- What may stand between quotation marks: characters other than the mark and the backslash, and
pairs of a backslash and a character that does not end the line. -/
def quotedPiece (quote : Char) : Language Char :=
  oneOf (fun character => character != quote && character != '\\') +
    {['\\']} * oneOf fun character => character != '\n'

/-- Texts between two quotation marks. -/
def quotation (quote : Char) : Language Char :=
  {[quote]} * (quotedPiece quote)∗ * {[quote]}

/-- One digit or more. -/
def digits : Language Char :=
  oneOf isDigit * (oneOf isDigit)∗

/-- The operators for comparison and arithmetic. -/
def operatorTexts : List String :=
  ["=", "\\=", "==", "\\==", "=:=", "=\\=", "<", ">", "=<", ">=", "+", "-", "*", "/"]

namespace Token

/-- The texts of the tokens of a kind. A kind whose text is fixed has this text alone. -/
def pattern : Token → Language Char
  | operator _ => {text | ∃ operator ∈ operatorTexts, text = operator.toList}
  | atom _ => oneOf isLowerLetter * (oneOf isNameCharacter)∗
  | var _ => oneOf startsVariable * (oneOf isNameCharacter)∗
  | number _ => digits + digits * {['.']} * digits
  | quotedAtom _ => quotation '\''
  | string _ => quotation '"'
  | sign => {sign.spelling.toList}

end Token

/-! ## Languages -/

/-- One more word of a language can stand in front of several. -/
theorem append_mem_kstar {language : Language Char} {first others : List Char}
    (one : first ∈ language) (more : others ∈ language∗) : first ++ others ∈ language∗ := by
  rw [← Language.one_add_self_mul_kstar_eq_kstar]
  exact .inr (Language.append_mem_mul one more)

/-- Several characters of one kind are a text of these characters. -/
theorem mem_kstar_oneOf_iff {accepts : Char → Bool} {text : List Char} :
    text ∈ (oneOf accepts)∗ ↔ ∀ character ∈ text, accepts character = true := by
  constructor
  · intro member
    obtain ⟨parts, rfl, each⟩ := Language.mem_kstar.mp member
    intro character inside
    obtain ⟨part, ofParts, inside⟩ := List.mem_flatten.mp inside
    obtain ⟨only, accepted, rfl⟩ := each part ofParts
    rwa [List.mem_singleton.mp inside]
  · intro all
    induction text with
    | nil => exact Language.nil_mem_kstar _
    | cons first others inductionHypothesis =>
      obtain ⟨accepted, later⟩ := List.forall_mem_cons.mp all
      have one : [first] ∈ oneOf accepts := ⟨first, accepted, rfl⟩
      exact append_mem_kstar one (inductionHypothesis later)

/-- A first character of one kind and further ones of another. -/
theorem mem_oneOf_mul_kstar_iff {starts accepts : Char → Bool} {text : List Char} :
    text ∈ oneOf starts * (oneOf accepts)∗ ↔ ∃ first others, text = first :: others ∧
      starts first = true ∧ ∀ character ∈ others, accepts character = true := by
  constructor
  · intro member
    obtain ⟨front, ⟨first, begins, rfl⟩, others, later, rfl⟩ := Language.mem_mul.mp member
    exact ⟨first, others, rfl, begins, mem_kstar_oneOf_iff.mp later⟩
  · rintro ⟨first, others, rfl, begins, later⟩
    have one : [first] ∈ oneOf starts := ⟨first, begins, rfl⟩
    exact Language.append_mem_mul one (mem_kstar_oneOf_iff.mpr later)

/-- Digits are a text of at least one digit. -/
theorem mem_digits_iff {text : List Char} :
    text ∈ digits ↔ text ≠ [] ∧ ∀ character ∈ text, isDigit character = true := by
  rw [digits, mem_oneOf_mul_kstar_iff]
  constructor
  · rintro ⟨first, others, rfl, begins, later⟩
    exact ⟨List.cons_ne_nil _ _, List.forall_mem_cons.mpr ⟨begins, later⟩⟩
  · rintro ⟨nonempty, all⟩
    obtain ⟨first, others, rfl⟩ := List.exists_cons_of_ne_nil nonempty
    obtain ⟨begins, later⟩ := List.forall_mem_cons.mp all
    exact ⟨first, others, rfl, begins, later⟩

/-- All of them are scanned for, the longer ones first. -/
theorem perm_operatorTexts : operatorTexts.Perm operatorSpellings := by
  decide

/-- A number is whole, or it has a point and digits behind the point. -/
theorem mem_number_iff {spelling : String} {text : List Char} :
    text ∈ (Token.number spelling).pattern ↔ text ∈ digits ∨
      ∃ whole ∈ digits, ∃ fraction ∈ digits, text = whole ++ '.' :: fraction := by
  constructor
  · rintro (whole | fractional)
    · exact .inl whole
    · obtain ⟨_, front, fraction, isFraction, rfl⟩ := Language.mem_mul.mp fractional
      obtain ⟨whole, isWhole, _, rfl, rfl⟩ := Language.mem_mul.mp front
      exact .inr ⟨whole, isWhole, fraction, isFraction, by simp⟩
  · rintro (whole | ⟨whole, isWhole, fraction, isFraction, rfl⟩)
    · exact .inl whole
    · refine .inr ?_
      rw [List.append_cons]
      exact Language.append_mem_mul (Language.append_mem_mul isWhole rfl) isFraction

/-- A number begins with a digit. -/
theorem exists_digit_of_mem_number {spelling : String} {text : List Char}
    (number : text ∈ (Token.number spelling).pattern) :
    ∃ first others, text = first :: others ∧ isDigit first = true := by
  obtain ⟨whole, isWhole, behind, rfl⟩ : ∃ whole ∈ digits, ∃ behind, text = whole ++ behind := by
    rcases mem_number_iff.mp number with whole | ⟨whole, isWhole, fraction, -, rfl⟩
    · exact ⟨text, whole, [], (List.append_nil text).symm⟩
    · exact ⟨whole, isWhole, _, rfl⟩
  obtain ⟨nonempty, all⟩ := mem_digits_iff.mp isWhole
  obtain ⟨first, others, rfl⟩ := List.exists_cons_of_ne_nil nonempty
  exact ⟨first, others ++ behind, rfl, all first List.mem_cons_self⟩

/-- A quotation has its mark at both ends and quoted pieces between them. -/
theorem mem_quotation_iff {quote : Char} {text : List Char} :
    text ∈ quotation quote ↔
      ∃ inside ∈ (quotedPiece quote)∗, text = quote :: (inside ++ [quote]) := by
  constructor
  · intro member
    obtain ⟨_, front, _, rfl, rfl⟩ := Language.mem_mul.mp member
    obtain ⟨_, rfl, inside, isInside, rfl⟩ := Language.mem_mul.mp front
    exact ⟨inside, isInside, rfl⟩
  · rintro ⟨inside, isInside, rfl⟩
    have mark : [quote] ∈ ({[quote]} : Language Char) := Set.mem_singleton [quote]
    exact Language.append_mem_mul (Language.append_mem_mul mark isInside) mark

/-! ## Scanned tokens have their patterns -/

/-- What is cut off up to the closing mark may stand between the marks. -/
theorem mem_kstar_of_splitQuoted? {quote : Char} {text inside after : List Char}
    (split : splitQuoted? quote text = some (inside, after)) : inside ∈ (quotedPiece quote)∗ := by
  fun_induction splitQuoted? quote text generalizing inside with
  | case1 => cases split
  | case2 text =>
    obtain ⟨rfl, rfl⟩ := Prod.mk.inj (Option.some.inj split)
    exact Language.nil_mem_kstar _
  | case3 => cases split
  | case4 => cases split
  | case5 escaped tail notLineEnd _ inductionHypothesis =>
    obtain ⟨⟨inner, behind⟩, found, same⟩ := Option.map_eq_some_iff.mp split
    obtain ⟨rfl, rfl⟩ := Prod.mk.inj same
    have taken : [escaped] ∈ oneOf fun character => character != '\n' :=
      ⟨escaped, bne_iff_ne.mpr notLineEnd, rfl⟩
    have backslash : ['\\'] ∈ ({['\\']} : Language Char) := Set.mem_singleton ['\\']
    have pair : ['\\', escaped] ∈ quotedPiece quote :=
      .inr (Language.append_mem_mul backslash taken)
    exact append_mem_kstar pair (inductionHypothesis found)
  | case6 character tail notQuote notBackslash inductionHypothesis =>
    obtain ⟨⟨inner, behind⟩, found, same⟩ := Option.map_eq_some_iff.mp split
    obtain ⟨rfl, rfl⟩ := Prod.mk.inj same
    have single : [character] ∈ quotedPiece quote :=
      .inl ⟨character, by simp [notQuote, notBackslash], rfl⟩
    exact append_mem_kstar single (inductionHypothesis found)

/-- A quotation that was scanned has the pattern of quotations with this mark. -/
theorem mem_pattern_of_scanQuoted? {quote : Char} {kind : String → Token} {text after : List Char}
    {token : Token} (spelled : ∀ spelling, (kind spelling).spelling = spelling)
    (scanned : scanQuoted? quote kind text = some (token, after)) :
    token.spelling.toList ∈ quotation quote := by
  obtain ⟨⟨inside, behind⟩, split, same⟩ := Option.map_eq_some_iff.mp scanned
  obtain ⟨rfl, rfl⟩ := Prod.mk.inj same
  rw [spelled, String.toList_ofList]
  exact mem_quotation_iff.mpr ⟨inside, mem_kstar_of_splitQuoted? split, rfl⟩

/-- A number that was cut off has the pattern of numbers, with its fraction only where a digit
stands behind the point. -/
theorem mem_pattern_of_splitNumber {first : Char} {text : List Char} (spelling : String)
    (digit : isDigit first = true) :
    (splitNumber (first :: text)).1 ∈ (Token.number spelling).pattern := by
  have whole : (first :: text).takeWhile isDigit ∈ digits := by
    refine mem_digits_iff.mpr ⟨?_, List.all_eq_true.mp List.all_takeWhile⟩
    simp [digit]
  rw [splitNumber]
  split
  next next rest cut =>
    split
    next nextDigit =>
      have fraction : (next :: rest).takeWhile isDigit ∈ digits := by
        refine mem_digits_iff.mpr ⟨?_, List.all_eq_true.mp List.all_takeWhile⟩
        simp [nextDigit]
      exact mem_number_iff.mpr (.inr ⟨_, whole, _, fraction, rfl⟩)
    next => exact mem_number_iff.mpr (.inl whole)
  next => exact mem_number_iff.mpr (.inl whole)

/-- A word or a number that was scanned has the pattern of its kind. -/
theorem mem_pattern_of_scanWord? {text after : List Char} {token : Token}
    (scanned : scanWord? text = some (token, after)) :
    token.spelling.toList ∈ token.pattern := by
  cases text with
  | nil => cases scanned
  | cons first rest =>
    have named : ∀ character ∈ rest.takeWhile isNameCharacter, isNameCharacter character = true :=
      List.all_eq_true.mp List.all_takeWhile
    simp only [scanWord?] at scanned
    split at scanned
    next lower =>
      obtain ⟨rfl, -⟩ := Prod.mk.inj (Option.some.inj scanned)
      rw [Token.spelling, String.toList_ofList,
        List.takeWhile_cons_of_pos (isNameCharacter_of_isLowerLetter lower)]
      exact mem_oneOf_mul_kstar_iff.mpr ⟨first, _, rfl, lower, named⟩
    next =>
      split at scanned
      next upper =>
        obtain ⟨rfl, -⟩ := Prod.mk.inj (Option.some.inj scanned)
        rw [Token.spelling, String.toList_ofList,
          List.takeWhile_cons_of_pos (isNameCharacter_of_startsVariable upper)]
        exact mem_oneOf_mul_kstar_iff.mpr ⟨first, _, rfl, upper, named⟩
      next =>
        split at scanned
        next digit =>
          obtain ⟨rfl, -⟩ := Prod.mk.inj (Option.some.inj scanned)
          rw [Token.spelling, String.toList_ofList]
          exact mem_pattern_of_splitNumber _ digit
        next => cases scanned

/-- A scanned token has the pattern of its kind. -/
theorem mem_pattern_of_scanToken? {text after : List Char} {token : Token}
    (scanned : scanToken? text = some (token, after)) :
    token.spelling.toList ∈ token.pattern := by
  unfold scanToken? at scanned
  split at scanned
  case h_11 =>
    obtain ⟨split, -, same⟩ := Option.map_eq_some_iff.mp scanned
    obtain ⟨rfl, -⟩ := Prod.mk.inj same
    exact mem_pattern_of_scanQuoted? (fun _ => rfl) scanned
  case h_12 =>
    obtain ⟨split, -, same⟩ := Option.map_eq_some_iff.mp scanned
    obtain ⟨rfl, -⟩ := Prod.mk.inj same
    exact mem_pattern_of_scanQuoted? (fun _ => rfl) scanned
  case h_13 =>
    rcases Option.or_eq_some_iff.mp scanned with operator | ⟨-, word⟩
    · obtain ⟨spelling, listed, found⟩ := List.exists_of_findSome?_eq_some operator
      obtain ⟨rest, -, same⟩ := Option.map_eq_some_iff.mp found
      obtain ⟨rfl, -⟩ := Prod.mk.inj same
      exact ⟨spelling, perm_operatorTexts.mem_iff.mpr listed, rfl⟩
    · exact mem_pattern_of_scanWord? word
  all_goals
    obtain ⟨rfl, -⟩ := Prod.mk.inj (Option.some.inj scanned)
    exact rfl

/-! ## No longer text has a pattern -/

/-- Quoted text is cut off at its closing mark. -/
theorem splitQuoted?_of_mem_kstar {quote : Char} (notBackslash : quote ≠ '\\')
    {inside : List Char} (isInside : inside ∈ (quotedPiece quote)∗) (behind : List Char) :
    splitQuoted? quote (inside ++ quote :: behind) = some (inside, behind) := by
  obtain ⟨pieces, rfl, each⟩ := Language.mem_kstar.mp isInside
  clear isInside
  induction pieces with
  | nil => exact splitQuoted?_quote _ _
  | cons piece pieces inductionHypothesis =>
    obtain ⟨isPiece, others⟩ := List.forall_mem_cons.mp each
    rw [List.flatten_cons, List.append_assoc]
    rcases isPiece with ⟨character, plain, rfl⟩ | escape
    · simp only [Bool.and_eq_true, bne_iff_ne] at plain
      rw [List.singleton_append, splitQuoted?_plain plain.1 plain.2, inductionHypothesis others]
      rfl
    · obtain ⟨_, rfl, _, ⟨escaped, notLineEnd, rfl⟩, rfl⟩ := Language.mem_mul.mp escape
      rw [bne_iff_ne] at notLineEnd
      rw [List.append_assoc, List.singleton_append, List.singleton_append,
        splitQuoted?_escape notBackslash notLineEnd, inductionHypothesis others]
      rfl

/-- Quoted text is scanned whole. -/
theorem scanQuoted?_of_mem {quote : Char} (notBackslash : quote ≠ '\\') {inside : List Char}
    (isInside : inside ∈ (quotedPiece quote)∗) (kind : String → Token) (behind : List Char) :
    scanQuoted? quote kind (inside ++ [quote] ++ behind) =
      some (kind (String.ofList (quote :: inside ++ [quote])), behind) := by
  rw [scanQuoted?, List.append_assoc, List.singleton_append,
    splitQuoted?_of_mem_kstar notBackslash isInside]
  rfl

/-- A run of characters of one kind is no longer than all of them that come first. -/
theorem length_le_takeWhile {accepts : Char → Bool} {run : List Char}
    (all : ∀ character ∈ run, accepts character = true) (behind : List Char) :
    run.length ≤ ((run ++ behind).takeWhile accepts).length := by
  rw [List.takeWhile_append_of_pos all, List.length_append]
  exact Nat.le_add_right _ _

/-- A name is taken with all of its characters. -/
theorem length_le_of_scanToken?_name {first : Char} {others behind after : List Char}
    {token : Token} (begins : isLowerLetter first = true ∨ startsVariable first = true)
    (named : ∀ character ∈ others, isNameCharacter character = true)
    (scanned : scanToken? (first :: others ++ behind) = some (token, after)) :
    (first :: others).length ≤ token.spelling.toList.length := by
  have firstNamed : isNameCharacter first = true := by
    rcases begins with lower | upper
    · exact isNameCharacter_of_isLowerLetter lower
    · exact isNameCharacter_of_startsVariable upper
  have whole := length_le_takeWhile (List.forall_mem_cons.mpr ⟨firstNamed, named⟩) behind
  rw [List.cons_append, scanToken?_of_name firstNamed] at scanned
  simp only [scanWord?] at scanned
  split at scanned
  next =>
    obtain ⟨rfl, -⟩ := Prod.mk.inj (Option.some.inj scanned)
    rwa [Token.spelling, String.toList_ofList]
  next notLower =>
    rw [if_pos (begins.resolve_left notLower)] at scanned
    obtain ⟨rfl, -⟩ := Prod.mk.inj (Option.some.inj scanned)
    rwa [Token.spelling, String.toList_ofList]

/-- A number is cut off with its fraction. -/
theorem length_le_splitNumber {number : List Char} {spelling : String}
    (shape : number ∈ (Token.number spelling).pattern) (behind : List Char) :
    number.length ≤ (splitNumber (number ++ behind)).1.length := by
  rcases mem_number_iff.mp shape with whole | ⟨whole, isWhole, fraction, isFraction, rfl⟩
  · have front := length_le_takeWhile (mem_digits_iff.mp whole).2 behind
    rw [splitNumber]
    split
    · split
      · rw [List.length_append]
        exact Nat.le_add_right_of_le front
      · exact front
    · exact front
  · obtain ⟨nonempty, all⟩ := mem_digits_iff.mp isFraction
    obtain ⟨digit, later, rfl⟩ := List.exists_cons_of_ne_nil nonempty
    have point : ∀ character ∈ ('.' :: digit :: later ++ behind).head?,
        isDigit character = false := by
      rintro _ ⟨⟩
      decide
    obtain ⟨front, back⟩ := Text.takeWhile_append_of_ends (mem_digits_iff.mp isWhole).2 point
    have fractionWhole := length_le_takeWhile all behind
    simp only [List.cons_append] at front back fractionWhole
    rw [List.append_assoc, List.cons_append, List.cons_append, splitNumber, front, back]
    simp only [all digit List.mem_cons_self, if_true, List.length_append, List.length_cons]
    simp only [List.length_cons] at fractionWhole
    omega

/-- A text that begins with an operator is scanned for operators first. -/
theorem scanToken?_eq_scanOperator? {spelling : String} (listed : spelling ∈ operatorSpellings)
    (behind : List Char) :
    scanToken? (spelling.toList ++ behind) =
      (scanOperator? (spelling.toList ++ behind)).or (scanWord? (spelling.toList ++ behind)) := by
  simp only [operatorSpellings, List.mem_cons, List.not_mem_nil, or_false] at listed
  rcases listed with rfl | rfl | rfl | rfl | rfl | rfl | rfl | rfl | rfl | rfl | rfl | rfl | rfl |
    rfl <;> rfl

/-- Of several operators at one place the longest is taken. -/
theorem length_le_of_scanToken?_operator {spelling : String}
    (listed : spelling ∈ operatorSpellings) {behind after : List Char} {token : Token}
    (scanned : scanToken? (spelling.toList ++ behind) = some (token, after)) :
    spelling.toList.length ≤ token.spelling.toList.length := by
  have descending : operatorSpellings.Pairwise
      fun first later => later.toList.length ≤ first.toList.length := by decide
  have begins : spelling.toList.isPrefixOf? (spelling.toList ++ behind) = some behind :=
    Text.isPrefixOf?_eq_some_iff.mpr rfl
  have found {known : String} (absent : (known.toList.isPrefixOf? (spelling.toList ++ behind)).map
      (fun after => (Token.operator known, after)) = none) : known ≠ spelling := by
    rintro rfl
    rw [begins] at absent
    cases absent
  rw [scanToken?_eq_scanOperator? listed] at scanned
  rcases Option.or_eq_some_iff.mp scanned with operator | ⟨nothing, -⟩
  · obtain ⟨before, first, later, split, isFirst, absent⟩ :=
      List.findSome?_eq_some_iff.mp operator
    obtain ⟨rest, -, same⟩ := Option.map_eq_some_iff.mp isFirst
    obtain ⟨rfl, -⟩ := Prod.mk.inj same
    rw [split] at listed descending
    rcases List.mem_append.mp listed with earlier | notEarlier
    · exact absurd rfl (found (absent spelling earlier))
    · rcases List.mem_cons.mp notEarlier with rfl | isLater
      · exact Nat.le_refl _
      · exact (List.pairwise_cons.mp (List.pairwise_append.mp descending).2.1).1 spelling isLater
  · exact absurd rfl (found (List.findSome?_eq_none_iff.mp nothing spelling listed))

/-- No text at the place of a scanned token has the pattern of a kind and is longer. -/
theorem length_le_of_mem_pattern {text after : List Char} {token : Token}
    (scanned : scanToken? text = some (token, after)) {kind : Token} {candidate : List Char}
    (shape : candidate ∈ kind.pattern) (begins : candidate <+: text) :
    candidate.length ≤ token.spelling.toList.length := by
  obtain ⟨behind, rfl⟩ := begins
  -- A token that is scanned whatever follows it is as long as its text.
  have whole {known : Token}
      (found : scanToken? (candidate ++ behind) = some (known, behind)) :
      candidate.length ≤ token.spelling.toList.length := by
    obtain ⟨rfl, rfl⟩ := Prod.mk.inj (Option.some.inj (scanned.symm.trans found))
    have same := List.append_cancel_right (scanToken?_eq_some scanned).1
    exact Nat.le_of_eq (congrArg List.length same)
  cases kind with
  | operator =>
    obtain ⟨spelling, listed, rfl⟩ := shape
    exact length_le_of_scanToken?_operator (perm_operatorTexts.mem_iff.mp listed) scanned
  | atom =>
    obtain ⟨first, others, rfl, lower, named⟩ := mem_oneOf_mul_kstar_iff.mp shape
    exact length_le_of_scanToken?_name (.inl lower) named scanned
  | var =>
    obtain ⟨first, others, rfl, upper, named⟩ := mem_oneOf_mul_kstar_iff.mp shape
    exact length_le_of_scanToken?_name (.inr upper) named scanned
  | number =>
    have front := length_le_splitNumber shape behind
    obtain ⟨first, others, rfl, digit⟩ := exists_digit_of_mem_number shape
    have found := scanned.symm.trans (scanToken?_number digit rfl)
    obtain ⟨rfl, -⟩ := Prod.mk.inj (Option.some.inj found)
    rwa [Token.spelling, String.toList_ofList]
  | quotedAtom =>
    obtain ⟨inside, isInside, rfl⟩ := mem_quotation_iff.mp shape
    exact whole (scanQuoted?_of_mem (by decide) isInside _ behind)
  | string =>
    obtain ⟨inside, isInside, rfl⟩ := mem_quotation_iff.mp shape
    exact whole (scanQuoted?_of_mem (by decide) isInside _ behind)
  | _ =>
    obtain rfl : candidate = _ := shape
    exact whole rfl

end Statute.Logic
