import Statute.Proofs.Logic.Scanning
import Statute.Proofs.Text.FirstPlace

/-!
# Spellings of words

Names and numbers are single tokens in front of every text that cannot extend them. What can extend
a word is said of the text behind it: a further character of a name, a further digit, or a point
with a digit.
-/

namespace Statute.Logic

open Text

/-- A text that cannot extend a name. -/
def EndsName (rest : List Char) : Prop :=
  ∀ character ∈ rest.head?, isNameCharacter character = false

/-- A text that cannot extend a whole number, neither by a digit nor by a fraction. -/
def EndsNumber (rest : List Char) : Prop :=
  (∀ character ∈ rest.head?, isDigit character = false) ∧
    ∀ digit after, rest = '.' :: digit :: after → isDigit digit = false

/-- Lower letters may stand in names. -/
theorem isNameCharacter_of_isLowerLetter {character : Char}
    (lower : isLowerLetter character = true) : isNameCharacter character = true := by
  simp [isNameCharacter, lower]

/-- Characters that begin variables may stand in names. -/
theorem isNameCharacter_of_startsVariable {character : Char}
    (starts : startsVariable character = true) : isNameCharacter character = true := by
  simp [isNameCharacter, starts]

/-- Digits may stand in names. -/
theorem isNameCharacter_of_isDigit {character : Char} (digit : isDigit character = true) :
    isNameCharacter character = true := by
  simp [isNameCharacter, digit]

/-- Digits begin neither atoms nor variables. -/
theorem not_letter_of_isDigit {character : Char} (digit : isDigit character = true) :
    isLowerLetter character = false ∧ startsVariable character = false := by
  simp only [isDigit, isLowerLetter, startsVariable, Char.le_def, UInt32.le_iff_toNat_le,
    Bool.and_eq_true, decide_eq_true_eq, Bool.and_eq_false_iff, decide_eq_false_iff_not,
    Bool.or_eq_false_iff] at digit ⊢
  have upper : character.val.toNat ≤ 57 := digit.2
  have beforeLower : ¬ 97 ≤ character.val.toNat := by omega
  have beforeUpper : ¬ 65 ≤ character.val.toNat := by omega
  refine ⟨.inl beforeLower, .inl beforeUpper, ?_⟩
  rintro rfl
  exact absurd upper (by decide)

/-- No operator begins with a character of names. -/
theorem scanOperator?_of_name {first : Char} {rest : List Char}
    (name : isNameCharacter first = true) : scanOperator? (first :: rest) = none := by
  rw [scanOperator?, List.findSome?_eq_none_iff]
  intro spelling listed
  have symbolic : (operatorSpellings.all fun known =>
      known.toList.head?.any fun sign => !isNameCharacter sign) = true := by
    rfl
  have headApart := List.all_eq_true.mp symbolic spelling listed
  rw [Option.any_eq_true] at headApart
  obtain ⟨sign, head, apart⟩ := headApart
  obtain ⟨signs, shape⟩ := List.head?_eq_some_iff.mp head
  cases spelled : spelling.toList.isPrefixOf? (first :: rest) with
  | none => rfl
  | some after =>
    have whole := Text.isPrefixOf?_eq_some_iff.mp spelled
    rw [shape] at whole
    obtain ⟨rfl, -⟩ := List.cons.inj whole
    rw [name] at apart
    exact nomatch apart

/-- What begins with a character of names is scanned as a word. -/
theorem scanToken?_of_name {first : Char} {rest : List Char}
    (name : isNameCharacter first = true) : scanToken? (first :: rest) = scanWord? (first :: rest) := by
  unfold scanToken?
  split
  case h_13 => rw [scanOperator?_of_name name, Option.none_or]
  all_goals
    simp_all only [List.cons.injEq]
    obtain ⟨rfl, -⟩ := ‹_ ∧ _›
    exact absurd name (by decide)

/-- A lower-case letter and further characters of names are one atom. -/
theorem scanToken?_atom {first : Char} {name rest : List Char}
    (lower : isLowerLetter first = true)
    (named : ∀ character ∈ name, isNameCharacter character = true) (ends : EndsName rest) :
    scanToken? (first :: name ++ rest) = some (.atom (String.ofList (first :: name)), rest) := by
  have firstNamed := isNameCharacter_of_isLowerLetter lower
  have wholeNamed : ∀ character ∈ first :: name, isNameCharacter character = true := by
    simpa [firstNamed] using named
  obtain ⟨word, after⟩ := takeWhile_append_of_ends wholeNamed ends
  rw [List.cons_append, scanToken?_of_name firstNamed]
  rw [List.cons_append] at word after
  simp only [scanWord?, word, after, lower, if_true]

/-- Upper-case letters and the underscore are no lower-case letters. -/
theorem not_isLowerLetter_of_startsVariable {character : Char}
    (starts : startsVariable character = true) : isLowerLetter character = false := by
  simp only [isLowerLetter, startsVariable, Char.le_def, UInt32.le_iff_toNat_le, Bool.and_eq_true,
    decide_eq_true_eq, Bool.and_eq_false_iff, decide_eq_false_iff_not, Bool.or_eq_true] at starts ⊢
  left
  rcases starts with upper | rfl
  · have below : character.val.toNat ≤ 90 := upper.2
    have apart : ¬ 97 ≤ character.val.toNat := by omega
    exact apart
  · decide

/-- An upper-case letter or an underscore and further characters of names are one variable. -/
theorem scanToken?_variable {first : Char} {name rest : List Char}
    (starts : startsVariable first = true)
    (named : ∀ character ∈ name, isNameCharacter character = true) (ends : EndsName rest) :
    scanToken? (first :: name ++ rest) = some (.var (String.ofList (first :: name)), rest) := by
  have firstNamed := isNameCharacter_of_startsVariable starts
  have wholeNamed : ∀ character ∈ first :: name, isNameCharacter character = true := by
    simpa [firstNamed] using named
  obtain ⟨word, after⟩ := takeWhile_append_of_ends wholeNamed ends
  rw [List.cons_append, scanToken?_of_name firstNamed]
  rw [List.cons_append] at word after
  simp only [scanWord?, word, after, not_isLowerLetter_of_startsVariable starts, starts,
    Bool.false_eq_true, if_false, if_true]

/-- A quotation that is closed stays closed in front of more text. -/
theorem splitQuoted?_append {quote : Char} {text inside after : List Char}
    (split : splitQuoted? quote text = some (inside, after)) (rest : List Char) :
    splitQuoted? quote (text ++ rest) = some (inside, after ++ rest) := by
  fun_induction splitQuoted? quote text generalizing inside with
  | case1 => cases split
  | case2 text =>
    obtain ⟨rfl, rfl⟩ := Prod.mk.inj (Option.some.inj split)
    rw [splitQuoted?.eq_def]
    simp
  | case3 => cases split
  | case4 => cases split
  | case5 escaped tail notQuote notLineEnd inductionHypothesis =>
    obtain ⟨⟨inner, behind⟩, found, same⟩ := Option.map_eq_some_iff.mp split
    obtain ⟨rfl, rfl⟩ := Prod.mk.inj same
    rw [splitQuoted?.eq_def]
    simp [notQuote, notLineEnd, inductionHypothesis found]
  | case6 character tail notQuote notBackslash inductionHypothesis =>
    obtain ⟨⟨inner, behind⟩, found, same⟩ := Option.map_eq_some_iff.mp split
    obtain ⟨rfl, rfl⟩ := Prod.mk.inj same
    rw [splitQuoted?.eq_def]
    simp [notQuote, notBackslash, inductionHypothesis found]

/-- A quotation that begins a text is scanned the same with more text behind it. -/
theorem scanQuoted?_append {quote : Char} {kind : String → Token} {token : Token}
    {text after : List Char} (scanned : scanQuoted? quote kind text = some (token, after))
    (more : List Char) : scanQuoted? quote kind (text ++ more) = some (token, after ++ more) := by
  obtain ⟨⟨inside, behind⟩, split, same⟩ := Option.map_eq_some_iff.mp scanned
  obtain ⟨rfl, rfl⟩ := Prod.mk.inj same
  simp only [scanQuoted?, splitQuoted?_append split more, Option.map_some]

/-- What is quoted is quoted again when nothing follows its quotation mark. -/
theorem splitQuoted?_inside {quote : Char} {text inside after : List Char}
    (split : splitQuoted? quote text = some (inside, after)) :
    splitQuoted? quote (inside ++ [quote]) = some (inside, []) := by
  fun_induction splitQuoted? quote text generalizing inside with
  | case1 => cases split
  | case2 text =>
    obtain ⟨rfl, rfl⟩ := Prod.mk.inj (Option.some.inj split)
    rw [splitQuoted?.eq_def]
    simp
  | case3 => cases split
  | case4 => cases split
  | case5 escaped tail notQuote notLineEnd inductionHypothesis =>
    obtain ⟨⟨inner, behind⟩, found, same⟩ := Option.map_eq_some_iff.mp split
    obtain ⟨rfl, rfl⟩ := Prod.mk.inj same
    rw [splitQuoted?.eq_def]
    simp [notQuote, notLineEnd, inductionHypothesis found]
  | case6 character tail notQuote notBackslash inductionHypothesis =>
    obtain ⟨⟨inner, behind⟩, found, same⟩ := Option.map_eq_some_iff.mp split
    obtain ⟨rfl, rfl⟩ := Prod.mk.inj same
    rw [splitQuoted?.eq_def]
    simp [notQuote, notBackslash, inductionHypothesis found]

/-- Digits that no text can extend are a whole number. -/
theorem splitNumber_whole {digits rest : List Char}
    (all : ∀ character ∈ digits, isDigit character = true) (ends : EndsNumber rest) :
    splitNumber (digits ++ rest) = (digits, rest) := by
  obtain ⟨word, after⟩ := takeWhile_append_of_ends all ends.1
  simp only [splitNumber, word, after]
  split
  next digit tail => simp [ends.2 digit tail rfl]
  next => rfl

/-- Digits, a point and digits are one number. -/
theorem splitNumber_fraction {digits fraction rest : List Char} {digit : Char}
    (all : ∀ character ∈ digits, isDigit character = true)
    (fractionAll : ∀ character ∈ digit :: fraction, isDigit character = true)
    (ends : ∀ character ∈ rest.head?, isDigit character = false) :
    splitNumber (digits ++ '.' :: digit :: fraction ++ rest) =
      (digits ++ '.' :: digit :: fraction, rest) := by
  have point : ∀ character ∈ ('.' :: digit :: fraction ++ rest).head?,
      isDigit character = false := by
    intro character isPoint
    obtain rfl : '.' = character := by simpa using isPoint
    decide
  obtain ⟨word, after⟩ := takeWhile_append_of_ends all point
  obtain ⟨fractionWord, fractionAfter⟩ := takeWhile_append_of_ends fractionAll ends
  simp only [List.cons_append] at word after fractionWord fractionAfter
  rw [List.append_assoc, List.cons_append, List.cons_append, splitNumber, word, after]
  simp only [fractionAll digit List.mem_cons_self, if_true, fractionWord, fractionAfter]

/-- What begins with a digit is scanned as a number. -/
theorem scanToken?_number {first : Char} {text number rest : List Char}
    (digit : isDigit first = true) (cut : splitNumber (first :: text) = (number, rest)) :
    scanToken? (first :: text) = some (.number (String.ofList number), rest) := by
  obtain ⟨notLower, notUpper⟩ := not_letter_of_isDigit digit
  rw [scanToken?_of_name (isNameCharacter_of_isDigit digit)]
  simp only [scanWord?, notLower, notUpper, digit, if_true, cut, Bool.false_eq_true, if_false]

end Statute.Logic
