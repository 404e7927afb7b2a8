import Statute.Logic.Error
import Statute.Text.Search

/-!
# From text to tokens

A text is layout and tokens by turns. At each place the longest token that begins there is taken;
where none begins, the text is refused with the offset of that place. Offsets count bytes.
-/

namespace Statute.Logic

open Statute.Text

/-- Blanks that may stand between tokens. -/
def isLayoutCharacter (character : Char) : Bool :=
  character = ' ' || character = '\t' || character = '\r' || character = '\n' ||
    character = '\x0c'

/-- Cuts off the layout at the beginning of a text: blanks, and comments from `%` to the end of
their line. `inComment` tells whether the text begins inside a comment. -/
def splitLayout : (inComment : Bool) → List Char → List Char × List Char
  | _, [] => ([], [])
  | true, character :: rest =>
    let (layout, after) := splitLayout (character != '\n') rest
    (character :: layout, after)
  | false, character :: rest =>
    if isLayoutCharacter character || character = '%' then
      let (layout, after) := splitLayout (character = '%') rest
      (character :: layout, after)
    else ([], character :: rest)

/-- The comparison and arithmetic operators; of two that begin alike the longer stands first. -/
def operatorSpellings : List String :=
  ["=:=", "=\\=", "\\==", "\\=", "==", "=<", ">=", "=", "<", ">", "+", "-", "*", "/"]

/-- The operator at the beginning of a text. -/
def scanOperator? (text : List Char) : Option (Token × List Char) :=
  operatorSpellings.findSome? fun spelling =>
    (spelling.toList.isPrefixOf? text).map fun after => (.operator spelling, after)

/-- Lower-case ASCII letters, with which an atom begins. -/
def isLowerLetter (character : Char) : Bool :=
  'a' ≤ character && character ≤ 'z'

/-- Upper-case ASCII letters and the underscore, with which a variable begins. -/
def startsVariable (character : Char) : Bool :=
  ('A' ≤ character && character ≤ 'Z') || character = '_'

/-- ASCII digits. -/
def isDigit (character : Char) : Bool :=
  '0' ≤ character && character ≤ '9'

/-- ASCII letters, digits and the underscore. -/
def isNameCharacter (character : Char) : Bool :=
  isLowerLetter character || startsVariable character || isDigit character

/-- What stands up to the closing quotation mark, and what follows it. A backslash takes the next
character with it, which must not be the end of a line. -/
def splitQuoted? (quote : Char) : List Char → Option (List Char × List Char)
  | [] => none
  | character :: rest =>
    if character = quote then some ([], rest)
    else if character = '\\' then
      match rest with
      | [] => none
      | escaped :: after =>
        if escaped = '\n' then none
        else (splitQuoted? quote after).map fun (inside, tail) =>
          (character :: escaped :: inside, tail)
    else (splitQuoted? quote rest).map fun (inside, tail) => (character :: inside, tail)

/-- The digits at the beginning of a text, with a point and further digits when a digit follows
the point; a point that no digit follows ends the clause instead. -/
def splitNumber (text : List Char) : List Char × List Char :=
  let whole := text.takeWhile isDigit
  match text.dropWhile isDigit with
  | '.' :: digit :: rest =>
    if isDigit digit then
      (whole ++ '.' :: (digit :: rest).takeWhile isDigit, (digit :: rest).dropWhile isDigit)
    else (whole, '.' :: digit :: rest)
  | after => (whole, after)

/-- Quoted text as a token, quotation marks included. -/
def scanQuoted? (quote : Char) (token : String → Token) (afterQuote : List Char) :
    Option (Token × List Char) :=
  (splitQuoted? quote afterQuote).map fun (inside, after) =>
    (token (String.ofList (quote :: inside ++ [quote])), after)

/-- A token that begins with a letter, a digit or an underscore. -/
def scanWord? (text : List Char) : Option (Token × List Char) :=
  match text with
  | [] => none
  | first :: _ =>
    let word := String.ofList (text.takeWhile isNameCharacter)
    let after := text.dropWhile isNameCharacter
    if isLowerLetter first then some (.atom word, after)
    else if startsVariable first then some (.var word, after)
    else if isDigit first then
      let (digits, rest) := splitNumber text
      some (.number (String.ofList digits), rest)
    else none

/-- The longest token at the beginning of a text, and what follows it. -/
def scanToken? : List Char → Option (Token × List Char)
  | ':' :: '-' :: rest => some (.neck, rest)
  | '\\' :: '+' :: rest => some (.notProvable, rest)
  | ',' :: rest => some (.comma, rest)
  | ';' :: rest => some (.semicolon, rest)
  | '(' :: rest => some (.openParen, rest)
  | ')' :: rest => some (.closeParen, rest)
  | '[' :: rest => some (.openBracket, rest)
  | ']' :: rest => some (.closeBracket, rest)
  | '|' :: rest => some (.bar, rest)
  | '.' :: rest => some (.stop, rest)
  | '\'' :: rest => scanQuoted? '\'' .quotedAtom rest
  | '"' :: rest => scanQuoted? '"' .string rest
  | text => (scanOperator? text).or (scanWord? text)

/-- Quoted text that is never closed, up to its end or to a backslash that takes no character. -/
def unclosedText : List Char → List Char
  | [] => []
  | character :: rest =>
    if character = '\\' then
      match rest with
      | [] => []
      | escaped :: after =>
        if escaped = '\n' then [] else character :: escaped :: unclosedText after
    else character :: unclosedText rest

/-- The text that is refused where no token begins: one character, or an unclosed quotation. -/
def refusedText : List Char → List Char
  | [] => []
  | first :: rest =>
    if first = '\'' || first = '"' then first :: unclosedText rest else [first]

/-- Layout and what follows it are the whole text: nothing is dropped between tokens. -/
theorem splitLayout_append (inComment : Bool) (text : List Char) :
    (splitLayout inComment text).1 ++ (splitLayout inComment text).2 = text := by
  induction text generalizing inComment with
  | nil => cases inComment <;> rfl
  | cons character rest inductionHypothesis =>
    cases inComment with
    | true => simp [splitLayout, inductionHypothesis]
    | false =>
      by_cases layout : (isLayoutCharacter character || character = '%') = true
      · simp only [splitLayout, layout, if_true]
        simp [inductionHypothesis]
      · simp [splitLayout, layout]

/-- What follows the layout is not longer than the text, on which the recursion over tokens rests.
-/
theorem length_splitLayout_le (inComment : Bool) (text : List Char) :
    (splitLayout inComment text).2.length ≤ text.length := by
  have whole := congrArg List.length (splitLayout_append inComment text)
  simp at whole
  omega

/-- A quotation that is closed is the text up to its closing mark, with the marks that are escaped
inside it. -/
theorem splitQuoted?_eq_some {quote : Char} {text inside after : List Char}
    (split : splitQuoted? quote text = some (inside, after)) :
    text = inside ++ quote :: after := by
  fun_induction splitQuoted? quote text generalizing inside with
  | case1 => simp at split
  | case2 rest => simp_all
  | case3 => simp at split
  | case4 => simp at split
  | case5 escaped rest _ _ inductionHypothesis =>
    simp only [Option.map_eq_some_iff, Prod.mk.injEq, Prod.exists] at split
    obtain ⟨inner, tail, found, rfl, rfl⟩ := split
    simp [inductionHypothesis found]
  | case6 character rest _ _ inductionHypothesis =>
    simp only [Option.map_eq_some_iff, Prod.mk.injEq, Prod.exists] at split
    obtain ⟨inner, tail, found, rfl, rfl⟩ := split
    simp [inductionHypothesis found]

/-- A number and what follows it are the whole text. -/
theorem splitNumber_append (text : List Char) :
    (splitNumber text).1 ++ (splitNumber text).2 = text := by
  unfold splitNumber
  have whole := List.takeWhile_append_dropWhile (p := isDigit) (l := text)
  split
  next digit rest after =>
    split
    · rw [after] at whole
      simpa [List.takeWhile_append_dropWhile] using whole
    · rw [after] at whole
      exact whole
  next => exact whole

/-- An operator that begins a text is spelled there, and what follows it is shorter. -/
theorem scanOperator?_eq_some {text after : List Char} {token : Token}
    (scanned : scanOperator? text = some (token, after)) :
    text = token.spelling.toList ++ after ∧ after.length < text.length := by
  obtain ⟨spelling, listed, found⟩ := List.exists_of_findSome?_eq_some scanned
  simp only [Option.map_eq_some_iff, Prod.mk.injEq] at found
  obtain ⟨tail, cut, rfl, rfl⟩ := found
  have whole := isPrefixOf?_eq_some_iff.mp cut
  subst whole
  refine ⟨rfl, ?_⟩
  have nonempty : 0 < spelling.toList.length := by
    have every : ∀ known ∈ operatorSpellings, 0 < known.toList.length := by decide
    exact every spelling listed
  simp
  omega

/-- A word or number that begins a text is spelled there, and what follows it is shorter. -/
theorem scanWord?_eq_some {text after : List Char} {token : Token}
    (scanned : scanWord? text = some (token, after)) :
    text = token.spelling.toList ++ after ∧ after.length < text.length := by
  cases text with
  | nil => simp [scanWord?] at scanned
  | cons first rest =>
    have wordCut := List.takeWhile_append_dropWhile (p := isNameCharacter)
      (l := first :: rest)
    have numberCut := splitNumber_append (first :: rest)
    have shorterWord (name : isNameCharacter first = true) :
        (rest.dropWhile isNameCharacter).length < (first :: rest).length := by
      have := length_dropWhile_le isNameCharacter rest
      simp
      omega
    simp only [scanWord?] at scanned
    split at scanned
    next lower =>
      have name : isNameCharacter first = true := by simp [isNameCharacter, lower]
      simp only [Option.some.injEq, Prod.mk.injEq] at scanned
      obtain ⟨rfl, rfl⟩ := scanned
      exact ⟨by simp [Token.spelling], by
        simpa [List.dropWhile_cons, name] using shorterWord name⟩
    next =>
      split at scanned
      next upper =>
        have name : isNameCharacter first = true := by simp [isNameCharacter, upper]
        simp only [Option.some.injEq, Prod.mk.injEq] at scanned
        obtain ⟨rfl, rfl⟩ := scanned
        exact ⟨by simp [Token.spelling], by
          simpa [List.dropWhile_cons, name] using shorterWord name⟩
      next =>
        split at scanned
        next digit =>
          simp only [Option.some.injEq, Prod.mk.injEq] at scanned
          obtain ⟨rfl, rfl⟩ := scanned
          refine ⟨by simpa [Token.spelling] using numberCut.symm, ?_⟩
          have lengths := congrArg List.length numberCut
          have nonempty : 0 < (splitNumber (first :: rest)).1.length := by
            unfold splitNumber
            split
            · split <;> simp [digit]
            · simp [digit]
          simp at lengths ⊢
          omega
        next => simp at scanned

/-- A quotation that begins a text is spelled there with both its marks, and what follows it is
shorter. -/
theorem scanQuoted?_eq_some {quote : Char} {kind : String → Token} {text after : List Char}
    {token : Token} (spelled : ∀ spelling, (kind spelling).spelling = spelling)
    (scanned : scanQuoted? quote kind text = some (token, after)) :
    quote :: text = token.spelling.toList ++ after ∧ after.length < (quote :: text).length := by
  simp only [scanQuoted?, Option.map_eq_some_iff, Prod.mk.injEq, Prod.exists] at scanned
  obtain ⟨inside, tail, cut, rfl, rfl⟩ := scanned
  have whole := splitQuoted?_eq_some cut
  subst whole
  constructor
  · simp [spelled]
  · simp
    omega

/-- A token that begins a text is spelled there, and something follows it that is shorter. -/
theorem scanToken?_eq_some {text after : List Char} {token : Token}
    (scanned : scanToken? text = some (token, after)) :
    text = token.spelling.toList ++ after ∧ after.length < text.length := by
  unfold scanToken? at scanned
  split at scanned
  case h_11 => exact scanQuoted?_eq_some (fun _ => rfl) scanned
  case h_12 => exact scanQuoted?_eq_some (fun _ => rfl) scanned
  case h_13 =>
    rcases Option.or_eq_some_iff.mp scanned with operator | ⟨-, word⟩
    · exact scanOperator?_eq_some operator
    · exact scanWord?_eq_some word
  all_goals
    simp only [Option.some.injEq, Prod.mk.injEq] at scanned
    obtain ⟨rfl, rfl⟩ := scanned
    exact ⟨rfl, by simp only [List.length_cons]; omega⟩

/-- The tokens of a text that begins at a byte offset of its source, each with its place. -/
def scanFrom (offset : Nat) (text : List Char) : Except SyntaxError (List Lexeme) :=
  let layout := (splitLayout false text).1
  let start := offset + byteLength layout
  match _cut : (splitLayout false text).2 with
  | [] => .ok []
  | first :: rest =>
    match _scanned : scanToken? (first :: rest) with
    | none => .error (.unexpectedText start (String.ofList (refusedText (first :: rest))))
    | some (token, after) => do
      let finish := start + byteLength token.spelling.toList
      let later ← scanFrom finish after
      return ⟨token, start, finish⟩ :: later
termination_by text.length
decreasing_by
  have shorter := (scanToken?_eq_some _scanned).2
  have notLonger := length_splitLayout_le false text
  rw [_cut] at notLonger
  omega

/-- The tokens of a source text in order, each with the byte offsets of its place, or the first
place where no token begins. -/
def tokenize (source : String) : Except SyntaxError (List Lexeme) :=
  scanFrom 0 source.toList

end Statute.Logic
