import Statute.Proofs.Logic.TokenPatterns
import Statute.Proofs.Logic.Words
import Statute.Proofs.Text.Trimming

/-!
# The longest token

A token begins a text exactly when its spelling has the pattern of its kind and no longer beginning
of the text has the pattern of any kind. What stands behind a token matters only where it could make
the token longer. So a text has the same tokens in front of every other text that extends none, and
without the blanks around it.
-/

namespace Statute.Logic

open Text

/-! ## What scanning takes -/

/-- Where a pattern matches there is a token. -/
theorem isSome_scanToken?_of_mem {kind : Token} {candidate : List Char}
    (shape : candidate ∈ kind.pattern) (behind : List Char) :
    (scanToken? (candidate ++ behind)).isSome = true := by
  cases kind with
  | operator =>
    obtain ⟨spelling, listed, rfl⟩ := shape
    have known := perm_operatorTexts.mem_iff.mp listed
    have begins : spelling.toList.isPrefixOf? (spelling.toList ++ behind) = some behind :=
      isPrefixOf?_eq_some_iff.mpr rfl
    have found : (scanOperator? (spelling.toList ++ behind)).isSome = true :=
      List.findSome?_isSome_iff.mpr ⟨spelling, known, by rw [begins]; rfl⟩
    rw [scanToken?_eq_scanOperator? known, Option.isSome_or, found, Bool.true_or]
  | atom =>
    obtain ⟨first, others, rfl, lower, -⟩ := mem_oneOf_mul_kstar_iff.mp shape
    rw [List.cons_append, scanToken?_of_name (isNameCharacter_of_isLowerLetter lower)]
    simp [scanWord?, lower]
  | var =>
    obtain ⟨first, others, rfl, upper, -⟩ := mem_oneOf_mul_kstar_iff.mp shape
    rw [List.cons_append, scanToken?_of_name (isNameCharacter_of_startsVariable upper)]
    simp [scanWord?, not_isLowerLetter_of_startsVariable upper, upper]
  | number =>
    obtain ⟨first, others, rfl, digit⟩ := exists_digit_of_mem_number shape
    rw [List.cons_append, scanToken?_number digit rfl]
    rfl
  | quotedAtom =>
    obtain ⟨inside, isInside, rfl⟩ := mem_quotation_iff.mp shape
    exact Option.isSome_of_mem (scanQuoted?_of_mem (by decide) isInside .quotedAtom behind)
  | string =>
    obtain ⟨inside, isInside, rfl⟩ := mem_quotation_iff.mp shape
    exact Option.isSome_of_mem (scanQuoted?_of_mem (by decide) isInside .string behind)
  | _ =>
    obtain rfl : candidate = _ := shape
    rfl

/-- A spelling that has the pattern of its kind is the token itself, when nothing follows. -/
theorem scanToken?_spelling {token : Token} (shape : token.spelling.toList ∈ token.pattern) :
    scanToken? token.spelling.toList = some (token, []) := by
  cases token with
  | operator spelling =>
    obtain ⟨known, listed, same⟩ := shape
    obtain rfl : spelling = known := String.toList_inj.mp same
    have every : ∀ known ∈ operatorTexts, scanToken? known.toList = some (.operator known, []) := by
      decide
    exact every spelling listed
  | atom spelling =>
    obtain ⟨first, others, same, lower, named⟩ := mem_oneOf_mul_kstar_iff.mp shape
    have scanned := @scanToken?_atom first others [] lower named (by rintro _ ⟨⟩)
    rwa [List.append_nil, ← same, Token.spelling, String.ofList_toList] at scanned
  | var spelling =>
    obtain ⟨first, others, same, upper, named⟩ := mem_oneOf_mul_kstar_iff.mp shape
    have scanned := @scanToken?_variable first others [] upper named (by rintro _ ⟨⟩)
    rwa [List.append_nil, ← same, Token.spelling, String.ofList_toList] at scanned
  | number spelling =>
    have ends : EndsNumber [] := ⟨by rintro _ ⟨⟩, by rintro _ _ ⟨⟩⟩
    have cut : splitNumber spelling.toList = (spelling.toList, []) := by
      rcases mem_number_iff.mp shape with whole | ⟨whole, isWhole, fraction, isFraction, same⟩
      · have taken := splitNumber_whole (mem_digits_iff.mp whole).2 ends
        rwa [List.append_nil] at taken
      · obtain ⟨nonempty, all⟩ := mem_digits_iff.mp isFraction
        obtain ⟨digit, later, rfl⟩ := List.exists_cons_of_ne_nil nonempty
        have taken := splitNumber_fraction (mem_digits_iff.mp isWhole).2 all ends.1
        rw [Token.spelling] at same
        rwa [List.append_nil, ← same] at taken
    obtain ⟨first, others, same, digit⟩ := exists_digit_of_mem_number shape
    rw [Token.spelling] at same ⊢
    rw [same] at cut ⊢
    rw [scanToken?_number digit cut, ← same, String.ofList_toList]
  | quotedAtom spelling =>
    obtain ⟨inside, isInside, same⟩ := mem_quotation_iff.mp shape
    have scanned := scanQuoted?_of_mem (by decide) isInside .quotedAtom []
    rw [List.append_nil, List.cons_append, ← same, Token.spelling, String.ofList_toList] at scanned
    rw [same]
    exact scanned
  | string spelling =>
    obtain ⟨inside, isInside, same⟩ := mem_quotation_iff.mp shape
    have scanned := scanQuoted?_of_mem (by decide) isInside .string []
    rw [List.append_nil, List.cons_append, ← same, Token.spelling, String.ofList_toList] at scanned
    rw [same]
    exact scanned
  | _ => rfl

/-- The token that begins a text is the longest beginning of it that has a pattern. -/
theorem scanToken?_eq_some_iff {text after : List Char} {token : Token} :
    scanToken? text = some (token, after) ↔
      text = token.spelling.toList ++ after ∧ token.spelling.toList ∈ token.pattern ∧
        ∀ (kind : Token) (candidate : List Char), candidate ∈ kind.pattern → candidate <+: text →
          candidate.length ≤ token.spelling.toList.length := by
  constructor
  · intro scanned
    exact ⟨(scanToken?_eq_some scanned).1, mem_pattern_of_scanToken? scanned,
      fun _ _ shape begins => length_le_of_mem_pattern scanned shape begins⟩
  · rintro ⟨rfl, shape, longest⟩
    obtain ⟨⟨found, rest⟩, scanned⟩ :=
      Option.isSome_iff_exists.mp (isSome_scanToken?_of_mem shape after)
    have spelled := (scanToken?_eq_some scanned).1
    have foundShape := mem_pattern_of_scanToken? scanned
    have foundBegins : found.spelling.toList <+: token.spelling.toList ++ after :=
      ⟨rest, spelled.symm⟩
    have sameLength : token.spelling.toList.length = found.spelling.toList.length :=
      Nat.le_antisymm (length_le_of_mem_pattern scanned shape (List.prefix_append _ _))
        (longest found _ foundShape foundBegins)
    obtain ⟨sameSpelling, rfl⟩ := List.append_inj spelled sameLength
    -- The spelling alone tells the kind.
    have alone := scanToken?_spelling shape
    rw [sameSpelling, scanToken?_spelling foundShape] at alone
    rw [scanned, (Prod.mk.inj (Option.some.inj alone)).1]

/-- A token begins with the first character of the text that it begins. -/
theorem exists_spelling_of_scanToken? {first : Char} {rest after : List Char} {token : Token}
    (scanned : scanToken? (first :: rest) = some (token, after)) :
    ∃ others, token.spelling.toList = first :: others ∧ rest = others ++ after := by
  obtain ⟨spelled, shorter⟩ := scanToken?_eq_some scanned
  cases spelling : token.spelling.toList with
  | nil =>
    rw [spelling, List.nil_append] at spelled
    rw [← spelled] at shorter
    exact absurd shorter (Nat.lt_irrefl _)
  | cons head others =>
    rw [spelling] at spelled
    obtain ⟨rfl, same⟩ := List.cons.inj spelled
    exact ⟨others, rfl, same⟩

/-- What stands far behind a token can be left out. -/
theorem scanToken?_of_append {text after more : List Char} {token : Token}
    (scanned : scanToken? (text ++ more) = some (token, after ++ more)) :
    scanToken? text = some (token, after) := by
  obtain ⟨whole, shape, longest⟩ := scanToken?_eq_some_iff.mp scanned
  rw [← List.append_assoc] at whole
  exact scanToken?_eq_some_iff.mpr ⟨List.append_cancel_right whole, shape,
    fun kind candidate matched begins =>
      longest kind candidate matched (begins.trans (List.prefix_append _ _))⟩

/-! ## What extends a token -/

/-- Characters that are found behind the first character of tokens that are not quoted. -/
def extendsToken (character : Char) : Bool :=
  isNameCharacter character || [':', '\\', '=', '<', '-', '+', '.'].contains character

/-- A text that extends no token in front of it: a final stop, or a text that begins with no
character that could stand inside a token. -/
def EndsTokens (rest : List Char) : Prop :=
  rest = ['.'] ∨ ∀ character ∈ rest.head?, extendsToken character = false

/-- Characters of names can extend a token. -/
theorem extendsToken_of_isNameCharacter {character : Char}
    (named : isNameCharacter character = true) : extendsToken character = true := by
  simp [extendsToken, named]

/-- Digits can extend a token. -/
theorem extendsToken_of_isDigit {character : Char} (digit : isDigit character = true) :
    extendsToken character = true :=
  extendsToken_of_isNameCharacter (isNameCharacter_of_isDigit digit)

/-- Only characters that extend tokens are found behind the first one, unless it is a quotation
mark. -/
theorem extendsToken_of_mem_pattern {kind : Token} {first : Char} {others : List Char}
    (shape : first :: others ∈ kind.pattern) (unquoted : first ≠ '\'' ∧ first ≠ '"') :
    ∀ character ∈ others, extendsToken character = true := by
  cases kind with
  | operator =>
    obtain ⟨spelling, listed, same⟩ := shape
    have every : ∀ known ∈ operatorTexts, known.toList.tail.all extendsToken = true := by decide
    have ofSpelling := every spelling listed
    rw [← same, List.tail_cons] at ofSpelling
    exact List.all_eq_true.mp ofSpelling
  | atom | var =>
    obtain ⟨head, later, same, -, named⟩ := mem_oneOf_mul_kstar_iff.mp shape
    obtain ⟨rfl, rfl⟩ := List.cons.inj same
    exact fun character member => extendsToken_of_isNameCharacter (named character member)
  | number =>
    intro character member
    have inside : character ∈ first :: others := List.mem_cons_of_mem _ member
    rcases mem_number_iff.mp shape with whole | ⟨whole, isWhole, fraction, isFraction, same⟩
    · exact extendsToken_of_isDigit ((mem_digits_iff.mp whole).2 character inside)
    · rw [same, List.mem_append, List.mem_cons] at inside
      rcases inside with inWhole | rfl | inFraction
      · exact extendsToken_of_isDigit ((mem_digits_iff.mp isWhole).2 character inWhole)
      · decide
      · exact extendsToken_of_isDigit ((mem_digits_iff.mp isFraction).2 character inFraction)
  | quotedAtom =>
    obtain ⟨inside, -, same⟩ := mem_quotation_iff.mp shape
    exact absurd (List.cons.inj same).1 unquoted.1
  | string =>
    obtain ⟨inside, -, same⟩ := mem_quotation_iff.mp shape
    exact absurd (List.cons.inj same).1 unquoted.2
  | _ =>
    obtain ⟨rfl, rfl⟩ := List.cons.inj (show first :: others = _ from shape)
    exact List.all_eq_true.mp (by decide)

/-- Characters of names are not blank. -/
theorem not_isBlank_of_isNameCharacter {character : Char}
    (named : isNameCharacter character = true) : isBlank character = false := by
  have range : 48 ≤ character.toNat ∧ character.toNat ≤ 122 := by
    by_cases underscore : character = '_'
    · subst underscore
      decide
    · simp only [isNameCharacter, isLowerLetter, startsVariable, isDigit, Char.le_def,
        UInt32.le_iff_toNat_le, underscore, decide_false, Bool.or_false, Bool.or_eq_true,
        Bool.and_eq_true, decide_eq_true_eq, UInt32.reduceToNat, Char.reduceVal] at named
      simp only [Char.toNat]
      omega
  simp only [isBlank, Bool.or_eq_false_iff, Bool.and_eq_false_iff, decide_eq_false_iff_not,
    beq_eq_false_iff_ne]
  omega

/-- Tokens do not begin with a blank. -/
theorem not_isBlank_of_head?_mem_pattern {kind : Token} {candidate : List Char}
    (shape : candidate ∈ kind.pattern) : candidate.head?.any isBlank = false := by
  cases kind with
  | operator =>
    obtain ⟨spelling, listed, rfl⟩ := shape
    have every : ∀ known ∈ operatorTexts, known.toList.head?.any isBlank = false := by decide
    exact every spelling listed
  | atom =>
    obtain ⟨first, others, rfl, lower, -⟩ := mem_oneOf_mul_kstar_iff.mp shape
    exact not_isBlank_of_isNameCharacter (isNameCharacter_of_isLowerLetter lower)
  | var =>
    obtain ⟨first, others, rfl, upper, -⟩ := mem_oneOf_mul_kstar_iff.mp shape
    exact not_isBlank_of_isNameCharacter (isNameCharacter_of_startsVariable upper)
  | number =>
    obtain ⟨first, others, rfl, digit⟩ := exists_digit_of_mem_number shape
    exact not_isBlank_of_isNameCharacter (isNameCharacter_of_isDigit digit)
  | quotedAtom | string =>
    obtain ⟨inside, -, rfl⟩ := mem_quotation_iff.mp shape
    rfl
  | _ =>
    obtain rfl : candidate = _ := shape
    decide

/-- Tokens do not end with a blank, and only the final stop ends with a point. -/
theorem last_of_mem_pattern {kind : Token} {candidate : List Char}
    (shape : candidate ∈ kind.pattern) :
    ∀ last ∈ candidate.getLast?, isBlank last = false ∧ (last = '.' → candidate = ['.']) := by
  -- Words and numbers end with a character of names; of all signs the stop alone is a point.
  have ofName {last : Char} (named : isNameCharacter last = true) :
      isBlank last = false ∧ (last = '.' → candidate = ['.']) := by
    refine ⟨not_isBlank_of_isNameCharacter named, ?_⟩
    rintro rfl
    exact absurd named (by decide)
  have ofSign (signs : (candidate.getLast?.all fun last => !isBlank last && last != '.') = true) :
      ∀ last ∈ candidate.getLast?, isBlank last = false ∧ (last = '.' → candidate = ['.']) := by
    intro last member
    rw [Option.mem_def.mp member, Option.all_some, Bool.and_eq_true, Bool.not_eq_true',
      bne_iff_ne] at signs
    exact ⟨signs.1, fun point => absurd point signs.2⟩
  cases kind with
  | operator =>
    obtain ⟨spelling, listed, rfl⟩ := shape
    have every : ∀ known ∈ operatorTexts,
        (known.toList.getLast?.all fun last => !isBlank last && last != '.') = true := by decide
    exact ofSign (every spelling listed)
  | atom =>
    obtain ⟨first, others, rfl, lower, named⟩ := mem_oneOf_mul_kstar_iff.mp shape
    have allNamed : ∀ character ∈ first :: others, isNameCharacter character = true :=
      List.forall_mem_cons.mpr ⟨isNameCharacter_of_isLowerLetter lower, named⟩
    exact fun last member => ofName (allNamed last (List.mem_of_getLast? member))
  | var =>
    obtain ⟨first, others, rfl, upper, named⟩ := mem_oneOf_mul_kstar_iff.mp shape
    have allNamed : ∀ character ∈ first :: others, isNameCharacter character = true :=
      List.forall_mem_cons.mpr ⟨isNameCharacter_of_startsVariable upper, named⟩
    exact fun last member => ofName (allNamed last (List.mem_of_getLast? member))
  | number =>
    obtain ⟨front, part, isPart, rfl⟩ :
        ∃ front, ∃ part ∈ digits, candidate = front ++ part := by
      rcases mem_number_iff.mp shape with whole | ⟨whole, isWhole, fraction, isFraction, rfl⟩
      · exact ⟨[], candidate, whole, rfl⟩
      · exact ⟨whole ++ ['.'], fraction, isFraction, by simp⟩
    obtain ⟨nonempty, all⟩ := mem_digits_iff.mp isPart
    intro last member
    rw [List.getLast?_append_of_ne_nil _ nonempty] at member
    exact ofName (isNameCharacter_of_isDigit (all last (List.mem_of_getLast? member)))
  | quotedAtom | string =>
    obtain ⟨inside, -, rfl⟩ := mem_quotation_iff.mp shape
    intro last member
    rw [← List.cons_append, List.getLast?_concat] at member
    obtain rfl := Option.some.inj member
    exact ⟨by decide, fun point => absurd point (by decide)⟩
  | stop =>
    obtain rfl : candidate = ['.'] := shape
    rintro _ ⟨⟩
    exact ⟨by decide, fun _ => rfl⟩
  | _ =>
    obtain rfl : candidate = _ := shape
    exact ofSign (by decide)

/-- Text in quotation marks is a token whatever follows it. -/
theorem scanToken?_append_of_quote {quote : Char} {text after : List Char} {token : Token}
    (isQuote : quote = '\'' ∨ quote = '"')
    (scanned : scanToken? (quote :: text) = some (token, after)) (rest : List Char) :
    scanToken? (quote :: text ++ rest) = some (token, after ++ rest) := by
  rcases isQuote with rfl | rfl <;> exact scanQuoted?_append scanned rest

/-- A token is the same in front of a text that does not extend it. -/
theorem scanToken?_append {text after rest : List Char} {token : Token}
    (scanned : scanToken? text = some (token, after)) (ends : EndsTokens rest) :
    scanToken? (text ++ rest) = some (token, after ++ rest) := by
  obtain ⟨whole, shape, longest⟩ := scanToken?_eq_some_iff.mp scanned
  obtain ⟨first, others, rfl⟩ : ∃ first others, text = first :: others := by
    cases text with
    | nil => cases scanned
    | cons first others => exact ⟨first, others, rfl⟩
  by_cases quoted : first = '\'' ∨ first = '"'
  · exact scanToken?_append_of_quote quoted scanned rest
  rw [not_or] at quoted
  refine scanToken?_eq_some_iff.mpr ⟨?_, shape, fun kind candidate matched begins => ?_⟩
  · rw [whole, List.append_assoc]
  rcases List.prefix_or_prefix_of_prefix begins (List.prefix_append _ rest) with inText | beyond
  · exact longest kind candidate matched inText
  · -- What the candidate has behind the text would have to extend a token.
    obtain ⟨further, rfl⟩ := beyond
    rw [List.prefix_append_right_inj] at begins
    cases further with
    | nil => exact longest kind _ matched (by rw [List.append_nil])
    | cons character further =>
      exfalso
      rcases ends with rfl | apart
      · obtain ⟨rfl, rfl⟩ : character = '.' ∧ further = [] := by simpa using begins
        have only := (last_of_mem_pattern matched '.' List.getLast?_concat).2 rfl
        simp at only
      · obtain ⟨behind, rfl⟩ := begins
        have inside := extendsToken_of_mem_pattern matched quoted character (by simp)
        rw [apart character rfl] at inside
        cases inside

/-! ## Judged tokens in other surroundings -/

/-- Judged tokens are the same in front of a text that extends none of them. -/
theorem Scans.inFrontOf {text middle rest : List Char} {tokens : List Token}
    (judged : Scans text tokens middle) (ends : EndsTokens rest) :
    Scans (text ++ rest) tokens (middle ++ rest) := by
  induction judged with
  | done => exact .done
  | blank layout _ inductionHypothesis => exact .blank layout inductionHypothesis
  | token scanned _ inductionHypothesis =>
    exact .token (scanToken?_append scanned ends) inductionHypothesis

/-- Judged tokens are the same without the text behind them. -/
theorem Scans.of_append {text middle rest : List Char} {tokens : List Token}
    (judged : Scans (text ++ rest) tokens (middle ++ rest)) : Scans text tokens middle := by
  -- What is left behind each step ends in `rest` as well, so that the step lies within the text.
  generalize whole : text ++ rest = source at judged
  generalize behind : middle ++ rest = left at judged
  induction judged generalizing text with
  | done =>
    obtain rfl := List.append_cancel_right (whole.trans behind.symm)
    exact .done
  | @blank character source tokens left layout later inductionHypothesis =>
    obtain ⟨before, same⟩ := later.isSuffix
    rw [← behind, ← List.append_assoc] at same
    have shape : text = character :: (before ++ middle) := by
      rw [← same, ← List.cons_append] at whole
      exact List.append_cancel_right whole
    rw [shape]
    exact .blank layout (inductionHypothesis same behind)
  | @token source after token tokens left scanned later inductionHypothesis =>
    obtain ⟨before, same⟩ := later.isSuffix
    rw [← behind, ← List.append_assoc] at same
    rw [← whole, ← same] at scanned
    exact .token (scanToken?_of_append scanned) (inductionHypothesis same behind)

/-- A text with nothing but layout behind its tokens is judged to its end. -/
theorem Scans.to_end {text layout : List Char} {tokens : List Token}
    (judged : Scans text tokens layout)
    (blank : ∀ character ∈ layout, isLayoutCharacter character = true) : Scans text tokens [] := by
  have nothing := Scans.behind_layout blank (.done : Scans [] [] [])
  rw [List.append_nil] at nothing
  simpa using judged.append nothing

/-- The text of judged tokens can be cut at each of them. -/
theorem Scans.exists_cut {text : List Char} {before after : List Token} {sign : Token}
    (judged : Scans text (before ++ sign :: after) []) :
    ∃ front behind, text = front ++ (sign.spelling.toList ++ behind) ∧
      Scans front before [] ∧ Scans behind after [] := by
  obtain ⟨middle, beforeSign, fromSign⟩ := judged.split
  obtain ⟨earlier, rfl⟩ := beforeSign.isSuffix
  obtain ⟨layout, behind, rfl, blank, -, later⟩ := fromSign.exists_place
  rw [← List.append_assoc] at beforeSign
  exact ⟨earlier ++ layout, behind, (List.append_assoc ..).symm, beforeSign.of_append.to_end blank,
    later⟩

/-- No token begins with a blank. -/
theorem not_isBlank_of_scanToken? {character : Char} {text after : List Char} {token : Token}
    (scanned : scanToken? (character :: text) = some (token, after)) :
    isBlank character = false := by
  obtain ⟨others, spelling, -⟩ := exists_spelling_of_scanToken? scanned
  have begins := not_isBlank_of_head?_mem_pattern (mem_pattern_of_scanToken? scanned)
  rwa [spelling] at begins

/-- Blanks in front of a text play no part in its tokens. -/
theorem Scans.of_blank_append {left text : List Char} {tokens : List Token}
    (blank : AllBlank left) (judged : Scans (left ++ text) tokens []) : Scans text tokens [] := by
  induction left with
  | nil => exact judged
  | cons character left inductionHypothesis =>
    obtain ⟨isBlank, others⟩ := List.forall_mem_cons.mp blank
    cases judged with
    | blank _ later => exact inductionHypothesis others later
    | token scanned _ =>
      rw [not_isBlank_of_scanToken? scanned] at isBlank
      cases isBlank

/-- A token does not reach into blanks at the end of a text. -/
theorem exists_within_of_scanToken? {text right after : List Char} {token : Token}
    (blank : AllBlank right) (scanned : scanToken? (text ++ right) = some (token, after)) :
    ∃ behind, text = token.spelling.toList ++ behind ∧ after = behind ++ right := by
  have spelled := (scanToken?_eq_some scanned).1
  rcases List.append_eq_append_iff.mp spelled with
    ⟨beyond, spelling, rightWhole⟩ | ⟨behind, textWhole, afterWhole⟩
  · -- The spelling would end with a blank, unless it ends where the blanks begin.
    rcases List.eq_nil_or_concat beyond with rfl | ⟨front, last, rfl⟩
    · exact ⟨[], by simpa using spelling.symm, rightWhole.symm⟩
    · have isBlank : isBlank last = true := blank last (by simp [rightWhole])
      have shape := mem_pattern_of_scanToken? scanned
      rw [spelling, List.concat_eq_append, ← List.append_assoc] at shape
      rw [(last_of_mem_pattern shape last List.getLast?_concat).1] at isBlank
      cases isBlank
  · exact ⟨behind, textWhole, afterWhole⟩

/-- Blanks behind a text play no part in its tokens. -/
theorem Scans.of_append_blank {text right : List Char} {tokens : List Token}
    (blank : AllBlank right) (judged : Scans (text ++ right) tokens []) : Scans text tokens [] := by
  generalize whole : text ++ right = source at judged
  generalize nothing : ([] : List Char) = left at judged
  induction judged generalizing text with
  | done =>
    obtain ⟨rfl, -⟩ := List.append_eq_nil_iff.mp (whole.trans nothing.symm)
    exact nothing ▸ .done
  | @blank character source tokens left layout later inductionHypothesis =>
    cases text with
    | nil =>
      rw [List.nil_append] at whole
      subst nothing whole
      exact .of_blank_append blank ((List.append_nil _).symm ▸ .blank layout later)
    | cons first text =>
      obtain ⟨rfl, same⟩ := List.cons.inj whole
      exact .blank layout (inductionHypothesis same nothing)
  | token scanned _ inductionHypothesis =>
    rw [← whole] at scanned
    obtain ⟨behind, -, rfl⟩ := exists_within_of_scanToken? blank scanned
    exact .token (scanToken?_of_append scanned) (inductionHypothesis rfl nothing)

/-- A text has its tokens without the blanks around it. -/
theorem Scans.trim {text : List Char} {tokens : List Token} (judged : Scans text tokens []) :
    Scans (trim text) tokens [] := by
  obtain ⟨left, right, whole, leftBlank, rightBlank⟩ := exists_blank_trim text
  rw [whole] at judged
  exact (judged.of_append_blank rightBlank).of_blank_append leftBlank

end Statute.Logic
