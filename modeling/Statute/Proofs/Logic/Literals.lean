import Statute.Logic.Outline
import Statute.Proofs.Text.Trimming

/-!
# Literals of a rule tail

A tail is cut behind every parenthesis that closes directly in front of a comma or a semicolon.
There is one way only to cut it so that no such place is left inside of a piece. Hence nothing but
blanks and the final stop is lost, and a tail that is put together from literals is cut into the
same literals again.
-/

namespace Statute.Logic.Outline

open Text

/-! ## Boundaries -/

/-- Signs between literals. -/
def isSeparator (character : Char) : Bool :=
  character = ',' || character = ';'

/-- No parenthesis of the text closes directly in front of a separator. -/
def Unbroken (text : List Char) : Prop :=
  ∀ separator, isSeparator separator = true → ¬ [')', separator] <:+: text

/-- Parts of an unbroken text are unbroken. -/
theorem Unbroken.of_infix {text part : List Char} (unbroken : Unbroken text)
    (inside : part <:+: text) : Unbroken part :=
  fun separator isSign found => unbroken separator isSign (found.trans inside)

/-- A text is unbroken when it is so behind its first character, and does not begin with a
boundary. -/
theorem unbroken_cons_iff {character : Char} {rest : List Char} :
    Unbroken (character :: rest) ↔
      (character = ')' → ∀ next ∈ rest.head?, isSeparator next = false) ∧ Unbroken rest := by
  constructor
  · intro unbroken
    refine ⟨?_, unbroken.of_infix (List.suffix_cons _ _).isInfix⟩
    rintro rfl next found
    obtain ⟨others, rfl⟩ := List.head?_eq_some_iff.mp found
    rw [Bool.eq_false_iff]
    exact fun isSign => unbroken next isSign ⟨[], others, rfl⟩
  · rintro ⟨apart, unbroken⟩ separator isSign found
    rcases List.infix_cons_iff.mp found with begins | later
    · obtain ⟨others, same⟩ := begins
      obtain ⟨rfl, rfl⟩ := List.cons.inj same
      rw [apart rfl separator rfl] at isSign
      cases isSign
    · exact unbroken separator isSign later

/-- The empty text is unbroken. -/
theorem unbroken_nil : Unbroken [] :=
  fun _ _ found => List.cons_ne_nil _ _ (List.infix_nil.mp found)

/-- A single character is unbroken. -/
theorem unbroken_singleton (character : Char) : Unbroken [character] :=
  unbroken_cons_iff.mpr ⟨fun _ => (by rintro _ ⟨⟩), unbroken_nil⟩

/-- Pieces with the separators behind them, and what is left. -/
abbrev Pieces :=
  List (List Char × Char) × List Char

/-- A text that is cut at each boundary: unbroken pieces that end with a parenthesis, each with the
separator behind it, and an unbroken remainder. -/
inductive Cut : List Char → Pieces → Prop where
  | done {remainder} (unbroken : Unbroken remainder) : Cut remainder ([], remainder)
  | piece {front separator after pieces remainder} (unbroken : Unbroken (front ++ [')']))
      (isSign : isSeparator separator = true) (later : Cut after (pieces, remainder)) :
      Cut (front ++ ')' :: separator :: after) ((front ++ [')'], separator) :: pieces, remainder)

/-- A character in front of a text that was cut belongs to the first piece. -/
def inFront (character : Char) : Pieces → Pieces
  | ([], remainder) => ([], character :: remainder)
  | ((piece, separator) :: pieces, remainder) =>
    ((character :: piece, separator) :: pieces, remainder)

/-- A parenthesis in front of a separator ends a piece. -/
theorem splitAtBoundaries_boundary {separator : Char} (isSign : isSeparator separator = true)
    (after : List Char) :
    splitAtBoundaries (')' :: separator :: after) =
      (([')'], separator) :: (splitAtBoundaries after).1, (splitAtBoundaries after).2) := by
  have boundary : separator = ',' ∨ separator = ';' := by simpa [isSeparator] using isSign
  rw [splitAtBoundaries, if_pos ⟨rfl, boundary⟩]

/-- Any other character belongs to the first piece of what follows it. -/
theorem splitAtBoundaries_cons {character : Char} {rest : List Char}
    (apart : character = ')' → ∀ next ∈ rest.head?, isSeparator next = false) :
    splitAtBoundaries (character :: rest) = inFront character (splitAtBoundaries rest) := by
  cases rest with
  | nil => rfl
  | cons next rest =>
    have noBoundary : ¬ (character = ')' ∧ (next = ',' ∨ next = ';')) := by
      rintro ⟨closes, isSign⟩
      have plain := apart closes next rfl
      simp only [isSeparator, Bool.or_eq_false_iff, decide_eq_false_iff_not] at plain
      exact isSign.elim plain.1 plain.2
    rw [splitAtBoundaries, if_neg noBoundary]
    rcases splitAtBoundaries (next :: rest) with ⟨_ | ⟨⟨piece, separator⟩, pieces⟩, remainder⟩ <;>
      rfl

/-- A character that makes no boundary can be put in front of a text that was cut. -/
theorem Cut.inFront {character : Char} {rest : List Char} {pieces : Pieces}
    (apart : character = ')' → ∀ next ∈ rest.head?, isSeparator next = false)
    (cut : Cut rest pieces) : Cut (character :: rest) (inFront character pieces) := by
  cases cut with
  | done unbroken => exact .done (unbroken_cons_iff.mpr ⟨apart, unbroken⟩)
  | @piece front separator after pieces remainder unbroken isSign later =>
    have longer : Unbroken (character :: front ++ [')']) := by
      refine unbroken_cons_iff.mpr ⟨fun closes next found => ?_, unbroken⟩
      exact apart closes next (by cases front <;> simpa using found)
    exact .piece longer isSign later

/-- A tail is cut at each boundary. -/
theorem cut_splitAtBoundaries : ∀ text : List Char, Cut text (splitAtBoundaries text)
  | [] => .done unbroken_nil
  | [character] => .done (unbroken_singleton character)
  | character :: next :: after => by
    by_cases boundary : character = ')' ∧ isSeparator next = true
    · obtain ⟨rfl, isSign⟩ := boundary
      rw [splitAtBoundaries_boundary isSign]
      have unbroken : Unbroken ([] ++ [')']) := unbroken_singleton ')'
      exact .piece unbroken isSign (cut_splitAtBoundaries after)
    · have apart : character = ')' → ∀ sign ∈ (next :: after).head?, isSeparator sign = false := by
        rintro closes sign ⟨⟩
        exact Bool.eq_false_iff.mpr fun isSign => boundary ⟨closes, isSign⟩
      rw [splitAtBoundaries_cons apart]
      exact (cut_splitAtBoundaries (next :: after)).inFront apart

/-- There is one way only to cut a text at each boundary. -/
theorem Cut.splitAtBoundaries_eq {text : List Char} {pieces : Pieces} (cut : Cut text pieces) :
    splitAtBoundaries text = pieces := by
  induction cut with
  | @done remainder unbroken =>
    induction remainder with
    | nil => rfl
    | cons character rest inductionHypothesis =>
      obtain ⟨apart, unbroken⟩ := unbroken_cons_iff.mp unbroken
      rw [splitAtBoundaries_cons apart, inductionHypothesis unbroken]
      rfl
  | @piece front separator after pieces remainder unbroken isSign _ inductionHypothesis =>
    induction front with
    | nil =>
      rw [List.nil_append, splitAtBoundaries_boundary isSign, inductionHypothesis]
      rfl
    | cons character front frontHypothesis =>
      obtain ⟨apart, unbroken⟩ := unbroken_cons_iff.mp unbroken
      have apartThere : character = ')' → ∀ next ∈ (front ++ ')' :: separator :: after).head?,
          isSeparator next = false :=
        fun closes next found => apart closes next (by cases front <;> simpa using found)
      rw [List.cons_append, splitAtBoundaries_cons apartThere, frontHypothesis unbroken]
      rfl

/-! ## Trimmed pieces -/

/-- The text without any blanks. -/
def withoutBlanks (text : List Char) : List Char :=
  text.filter fun character => !isBlank character

/-- The text of pieces and of what is left behind them. -/
def joinedPieces (pieces : Pieces) : List Char :=
  pieces.1.flatMap (fun piece => piece.1 ++ [piece.2]) ++ pieces.2

/-- Pieces and what is left behind them, each without the blanks around it. -/
def trimmedPieces (pieces : Pieces) : Pieces :=
  (pieces.1.map fun piece => (trim piece.1, piece.2), trim pieces.2)

/-- Nothing is lost where a text is cut: the pieces and separators are the text. -/
theorem Cut.joinedPieces_eq {text : List Char} {pieces : Pieces} (cut : Cut text pieces) :
    joinedPieces pieces = text := by
  induction cut with
  | done => rfl
  | piece _ _ _ inductionHypothesis =>
    rw [← inductionHypothesis]
    simp [joinedPieces]

/-- Trimmed pieces are cut as they are. -/
theorem Cut.trimmed {text : List Char} {pieces : Pieces} (cut : Cut text pieces) :
    Cut (joinedPieces (trimmedPieces pieces)) (trimmedPieces pieces) := by
  induction cut with
  | @done remainder unbroken => exact .done (unbroken.of_infix (isInfix_trim remainder))
  | @piece front separator after pieces remainder unbroken isSign _ inductionHypothesis =>
    have closes : trim (front ++ [')']) = trimLeft front ++ [')'] :=
      trim_append_singleton (by decide) front
    have unbrokenTrimmed := unbroken.of_infix (isInfix_trim (front ++ [')']))
    rw [closes] at unbrokenTrimmed
    have cut := Cut.piece unbrokenTrimmed isSign inductionHypothesis
    simpa [joinedPieces, trimmedPieces, closes] using cut

/-- Trimming takes blanks away only. -/
theorem withoutBlanks_trim (text : List Char) : withoutBlanks (trim text) = withoutBlanks text := by
  obtain ⟨left, right, whole, leftBlank, rightBlank⟩ := exists_blank_trim text
  have gone {blanks : List Char} (blank : AllBlank blanks) :
      blanks.filter (fun character => !isBlank character) = [] :=
    List.filter_eq_nil_iff.mpr fun character member => by simp [blank character member]
  calc withoutBlanks (trim text)
      = withoutBlanks (left ++ trim text ++ right) := by
        simp [withoutBlanks, List.filter_append, gone leftBlank, gone rightBlank]
    _ = withoutBlanks text := by rw [← whole]

/-- Nothing but blanks is lost where pieces are trimmed. -/
theorem withoutBlanks_trimmedPieces (pieces : Pieces) :
    withoutBlanks (joinedPieces (trimmedPieces pieces)) = withoutBlanks (joinedPieces pieces) := by
  have each (text : List Char) := withoutBlanks_trim text
  simp only [withoutBlanks] at each
  simp [withoutBlanks, joinedPieces, trimmedPieces, List.filter_append, List.filter_flatMap,
    List.flatMap_map, each]

/-- Trimmed pieces do not begin with a blank. -/
theorem Cut.trimLeft_eq {text : List Char} {pieces : Pieces} (cut : Cut text pieces) :
    trimLeft (joinedPieces (trimmedPieces pieces)) = joinedPieces (trimmedPieces pieces) := by
  cases cut with
  | done => exact trimLeft_eq_self (not_isBlank_head_trim text)
  | @piece front separator after pieces remainder unbroken isSign later =>
    have closing : isBlank ')' = false := by decide
    have shape (rest : List Char) : trimLeft (trim (front ++ [')']) ++ rest) =
        trim (front ++ [')']) ++ rest := by
      rw [trim_append_singleton closing, List.append_assoc, List.singleton_append,
        trimLeft_append_cons closing,
        trimLeft_eq_self (not_isBlank_head_trimLeft front)]
    simp only [joinedPieces, trimmedPieces, List.map_cons, List.flatMap_cons, List.append_assoc]
    exact shape _

/-! ## Literals -/

/-- The literals of trimmed pieces and of what is left behind them, if anything. -/
def literalsOf (pieces : Pieces) : List Literal :=
  let separated := pieces.1.map fun (piece, separator) =>
    ⟨String.ofList (trim piece), some separator⟩
  let last := trim pieces.2
  if last.isEmpty then separated else separated ++ [⟨String.ofList last, none⟩]

theorem splitLiterals_eq (tail : String) :
    splitLiterals tail = literalsOf (splitAtBoundaries (tailContent tail.toList)) :=
  rfl

/-- Literals are trimmed anyway, so trimmed pieces have the same ones. -/
theorem literalsOf_trimmedPieces (pieces : Pieces) :
    literalsOf (trimmedPieces pieces) = literalsOf pieces := by
  simp [literalsOf, trimmedPieces, trim_trim, Function.comp_def]

/-- The text of literals, each with the separator behind it. -/
def literalsText (literals : List Literal) : List Char :=
  literals.flatMap fun literal => literal.text.toList ++ literal.separator.toList

/-- The text of the literals is that of the trimmed pieces. -/
theorem literalsText_literalsOf (pieces : Pieces) :
    literalsText (literalsOf pieces) = joinedPieces (trimmedPieces pieces) := by
  simp only [literalsOf, joinedPieces, trimmedPieces]
  split
  next blank => simp [literalsText, List.flatMap_map, List.isEmpty_iff.mp blank]
  next => simp [literalsText, List.flatMap_map]

/-- In front of a final stop, trimmed pieces are the content of a tail. -/
theorem Cut.tailContent_eq {text : List Char} {pieces : Pieces} (cut : Cut text pieces) :
    tailContent (joinedPieces (trimmedPieces pieces) ++ ['.']) =
      joinedPieces (trimmedPieces pieces) := by
  rw [tailContent, trim_append_singleton (by decide), cut.trimLeft_eq]
  simp

/-- The content of a tail is the trimmed tail without one final stop. -/
theorem tailContent_cases (tail : List Char) :
    tailContent tail ++ ['.'] = trim tail ∨
      tailContent tail = trim tail ∧ ¬ ['.'] <:+ trim tail := by
  rw [tailContent]
  split
  next stop =>
    obtain ⟨front, same⟩ := List.getLast?_eq_some_iff.mp stop
    rw [same, List.dropLast_concat]
    exact .inl rfl
  next noStop =>
    right
    refine ⟨rfl, ?_⟩
    rintro ⟨front, same⟩
    exact noStop (by rw [← same, List.getLast?_concat])

/-- The pieces of a cut text, each with its separator. -/
theorem Cut.of_mem {text : List Char} {pieces : Pieces} (cut : Cut text pieces) :
    ∀ piece ∈ pieces.1, isSeparator piece.2 = true ∧ [')'] <:+ piece.1 ∧ Unbroken piece.1 := by
  induction cut with
  | done => exact List.forall_mem_nil _
  | @piece front separator after pieces remainder unbroken isSign _ inductionHypothesis =>
    exact List.forall_mem_cons.mpr
      ⟨⟨isSign, List.suffix_append front [')'], unbroken⟩, inductionHypothesis⟩

/-- A literal made of a piece has its trimmed text and its separator. -/
theorem exists_piece_of_mem_map {pieces : Pieces} {literal : Literal}
    (member : literal ∈ pieces.1.map fun (piece, separator) =>
      (⟨String.ofList (trim piece), some separator⟩ : Literal)) :
    ∃ separator, literal.separator = some separator ∧
      (literal.text.toList, separator) ∈ (trimmedPieces pieces).1 := by
  obtain ⟨⟨piece, separator⟩, listed, rfl⟩ := List.mem_map.mp member
  refine ⟨separator, rfl, List.mem_map.mpr ⟨(piece, separator), listed, ?_⟩⟩
  simp

/-- Literals with a separator are trimmed pieces. -/
theorem mem_trimmedPieces_of_separator {pieces : Pieces} {literal : Literal} {separator : Char}
    (member : literal ∈ literalsOf pieces) (separated : literal.separator = some separator) :
    (literal.text.toList, separator) ∈ (trimmedPieces pieces).1 := by
  have ofPiece (listed : literal ∈ pieces.1.map fun (piece, separator) =>
      (⟨String.ofList (trim piece), some separator⟩ : Literal)) :
      (literal.text.toList, separator) ∈ (trimmedPieces pieces).1 := by
    obtain ⟨found, same, inPieces⟩ := exists_piece_of_mem_map listed
    obtain rfl := Option.some.inj (same.symm.trans separated)
    exact inPieces
  rw [literalsOf] at member
  dsimp only at member
  split at member
  next => exact ofPiece member
  next =>
    rcases List.mem_append.mp member with inPieces | isLast
    · exact ofPiece inPieces
    · rw [List.mem_singleton.mp isLast] at separated
      cases separated

/-- Only the last literal has no separator. -/
theorem last_of_separator_eq_none {pieces : Pieces} {before after : List Literal}
    {literal : Literal} (whole : literalsOf pieces = before ++ literal :: after)
    (unseparated : literal.separator = none) : after = [] := by
  have notPiece : literal ∉ pieces.1.map fun (piece, separator) =>
      (⟨String.ofList (trim piece), some separator⟩ : Literal) := by
    intro listed
    obtain ⟨separator, separated, -⟩ := exists_piece_of_mem_map listed
    rw [unseparated] at separated
    cases separated
  rw [literalsOf] at whole
  dsimp only at whole
  split at whole
  next => exact absurd (whole ▸ by simp) notPiece
  next =>
    rcases List.eq_nil_or_concat after with rfl | ⟨others, last, rfl⟩
    · rfl
    · -- In front of the last literal there are pieces only.
      rw [List.concat_eq_append, ← List.cons_append, ← List.append_assoc] at whole
      have front := (List.append_inj' whole rfl).1
      exact absurd (front ▸ by simp) notPiece

/-- Splitting into literals loses nothing and is stable. The literals and their separators are, but
for blanks, the trimmed tail without one final stop. A literal with a separator ends with a closing
parenthesis, and none inside of it stands directly in front of a separator. Only the last literal
may have no separator. The literals, put together again and ended by a stop, are split into the same
literals. -/
theorem splitLiterals_loses_nothing (tail : String) :
    (∃ content : List Char,
      (content ++ ['.'] = trim tail.toList ∨
        content = trim tail.toList ∧ ¬ ['.'] <:+ trim tail.toList) ∧
      withoutBlanks (literalsText (splitLiterals tail)) = withoutBlanks content) ∧
    (∀ literal ∈ splitLiterals tail, ∀ separator, literal.separator = some separator →
      isSeparator separator = true ∧ [')'] <:+ literal.text.toList ∧
        Unbroken literal.text.toList) ∧
    (∀ before literal after, splitLiterals tail = before ++ literal :: after →
      literal.separator = none → after = []) ∧
    splitLiterals (String.ofList (literalsText (splitLiterals tail) ++ ['.'])) =
      splitLiterals tail := by
  have cut := cut_splitAtBoundaries (tailContent tail.toList)
  rw [splitLiterals_eq]
  generalize splitAtBoundaries (tailContent tail.toList) = pieces at cut
  rw [literalsText_literalsOf]
  refine ⟨⟨tailContent tail.toList, tailContent_cases tail.toList, ?_⟩, ?_, ?_, ?_⟩
  · rw [withoutBlanks_trimmedPieces, cut.joinedPieces_eq]
  · intro literal member separator separated
    exact cut.trimmed.of_mem _ (mem_trimmedPieces_of_separator member separated)
  · exact fun before literal after whole unseparated =>
      last_of_separator_eq_none whole unseparated
  · rw [splitLiterals_eq, String.toList_ofList, cut.tailContent_eq,
      cut.trimmed.splitAtBoundaries_eq, literalsOf_trimmedPieces]

/-- A tail with two separators in a row, a separator behind a blank and two stops at its end. -/
def exampleTail : String :=
  " p(X),,\tq( a );r(b) ; c. .\n"

/-- Its literals. -/
def exampleLiterals : List Literal :=
  [⟨"p(X)", some ','⟩, ⟨",\tq( a )", some ';'⟩, ⟨"r(b) ; c.", none⟩]

/-- The second separator stays with the literal behind it, and the first stop with the last one. -/
theorem exampleTail_split :
    splitLiterals exampleTail = exampleLiterals ∧
      (∃ content : List Char,
        (content ++ ['.'] = trim exampleTail.toList ∨
          content = trim exampleTail.toList ∧ ¬ ['.'] <:+ trim exampleTail.toList) ∧
        withoutBlanks (literalsText exampleLiterals) = withoutBlanks content) ∧
      (isSeparator ';' = true ∧ [')'] <:+ ",\tq( a )".toList ∧ Unbroken ",\tq( a )".toList) ∧
      splitLiterals "p(X),,\tq( a );r(b) ; c.." = exampleLiterals := by
  have literals : splitLiterals exampleTail = exampleLiterals := by decide +kernel
  obtain ⟨kept, separated, -, again⟩ := splitLiterals_loses_nothing exampleTail
  rw [literals] at kept separated again
  exact ⟨literals, kept, separated ⟨",\tq( a )", some ';'⟩ (by decide) ';' rfl, again⟩

end Statute.Logic.Outline
