import Statute.Proofs.Logic.Scanning
import Statute.Proofs.Logic.TokenPatterns
import Statute.Proofs.Text.ByteOffsets

/-!
# Places of tokens

Scanning loses nothing of a text. The tokens stand in their order at the places that are given for
them, each spelled there as its kind demands and as long as can be, and what stands between them is
layout: blanks, and comments up to the end of their line. Places count bytes, and no place is within
a character.
-/

namespace Statute.Logic

open Text

/-! ## Layout -/

/-- Blanks and comments, in front of the text behind them. A comment goes on to the end of its line
or of the whole text. -/
inductive IsLayout : (text behind : List Char) → Prop where
  | nil {behind} : IsLayout [] behind
  | blank {character text behind} (isBlank : character ∈ [' ', '\t', '\r', '\n', '\x0c'])
      (later : IsLayout text behind) : IsLayout (character :: text) behind
  | comment {inside text behind} (oneLine : '\n' ∉ inside)
      (ends : ∀ character ∈ (text ++ behind).head?, character = '\n')
      (later : IsLayout text behind) : IsLayout ('%' :: inside ++ text) behind

/-- What is cut off as layout is layout in front of the rest. In a comment the rest of its line
comes first. -/
theorem isLayout_splitLayout (text : List Char) :
    IsLayout (splitLayout false text).1 (splitLayout false text).2 ∧
      ∃ inside layout, (splitLayout true text).1 = inside ++ layout ∧ '\n' ∉ inside ∧
        (∀ character ∈ (layout ++ (splitLayout true text).2).head?, character = '\n') ∧
        IsLayout layout (splitLayout true text).2 := by
  -- Both parts are proved at once: a percent sign leads from the first to the second, and a line
  -- end leads back.
  induction text with
  | nil => exact ⟨.nil, [], [], rfl, List.not_mem_nil, by rintro _ ⟨⟩, .nil⟩
  | cons character text inductionHypothesis =>
    obtain ⟨outside, inside, layout, cut, oneLine, ends, later⟩ := inductionHypothesis
    constructor
    · by_cases isComment : character = '%'
      · subst isComment
        have opened : splitLayout false ('%' :: text) =
            ('%' :: (splitLayout true text).1, (splitLayout true text).2) := by
          simp [splitLayout]
        rw [opened, cut]
        exact .comment oneLine ends later
      · cases isBlank : isLayoutCharacter character with
        | true =>
          have taken : splitLayout false (character :: text) =
              (character :: (splitLayout false text).1, (splitLayout false text).2) := by
            simp [splitLayout, isBlank, isComment]
          rw [taken]
          exact .blank (isLayoutCharacter_iff.mp isBlank) outside
        | false =>
          have nothing : splitLayout false (character :: text) = ([], character :: text) := by
            simp [splitLayout, isBlank, isComment]
          rw [nothing]
          exact .nil
    · by_cases lineEnd : character = '\n'
      · subst lineEnd
        have closed : splitLayout true ('\n' :: text) =
            ('\n' :: (splitLayout false text).1, (splitLayout false text).2) := by
          simp [splitLayout]
        rw [closed]
        exact ⟨[], _, rfl, List.not_mem_nil, by rintro _ ⟨⟩; rfl, .blank (by simp) outside⟩
      · have inLine : (character != '\n') = true := bne_iff_ne.mpr lineEnd
        have goesOn : splitLayout true (character :: text) =
            (character :: (splitLayout true text).1, (splitLayout true text).2) := by
          simp [splitLayout, inLine]
        rw [goesOn, cut]
        refine ⟨character :: inside, layout, rfl, ?_, ends, later⟩
        exact List.not_mem_cons_of_ne_of_not_mem (Ne.symm lineEnd) oneLine

/-! ## Layout and tokens by turns -/

/-- A text that begins at an offset is layout and tokens by turns, with layout at its end. -/
inductive Alternates : (offset : Nat) → (text : List Char) → List Lexeme → Prop where
  | done {offset text} (layout : IsLayout text []) : Alternates offset text []
  | token {offset layout token after later}
      (isLayout : IsLayout layout (token.spelling.toList ++ after))
      (scanned : scanToken? (token.spelling.toList ++ after) = some (token, after))
      (behind : Alternates
        (offset + byteLength layout + byteLength token.spelling.toList) after later) :
      Alternates offset (layout ++ (token.spelling.toList ++ after))
        (⟨token, offset + byteLength layout,
          offset + byteLength layout + byteLength token.spelling.toList⟩ :: later)

/-- What is scanned is layout and tokens by turns. -/
theorem alternates_of_scanFrom {offset : Nat} {text : List Char} {lexemes : List Lexeme}
    (scans : scanFrom offset text = .ok lexemes) : Alternates offset text lexemes := by
  have layout := (isLayout_splitLayout text).1
  have whole := splitLayout_append false text
  rw [scanFrom_eq] at scans
  split at scans
  next cut =>
    obtain rfl := Except.ok.inj scans
    rw [cut, List.append_nil] at whole
    rw [cut, whole] at layout
    exact .done layout
  next first rest cut =>
    dsimp only at scans
    split at scans
    next => cases scans
    next token after scanned =>
      have spelled := (scanToken?_eq_some scanned).1
      have shorter := length_lt_of_cut cut scanned
      obtain ⟨later, laterScans, rfl⟩ := map_eq_ok_iff.mp scans
      rw [cut, spelled] at whole layout
      rw [spelled] at scanned
      have alternates := Alternates.token layout scanned (alternates_of_scanFrom laterScans)
      rwa [whole] at alternates
termination_by text.length

/-! ## Places -/

/-- A part of a text between two offsets, with what stands behind it. The text begins at an
offset of its own. -/
def StandsBetween (offset : Nat) (text : List Char) (start finish : Nat)
    (part behind : List Char) : Prop :=
  ∃ before, text = before ++ (part ++ behind) ∧ start = offset + byteLength before ∧
    finish = start + byteLength part

/-- The place of a part is counted from the beginning of the whole text. -/
theorem StandsBetween.behind {offset start finish : Nat} {front text part behind : List Char}
    (stands : StandsBetween (offset + byteLength front) text start finish part behind) :
    StandsBetween offset (front ++ text) start finish part behind := by
  obtain ⟨before, rfl, rfl, rfl⟩ := stands
  exact ⟨front ++ before, by simp, by rw [byteLength_append, Nat.add_assoc], rfl⟩

/-- The places between the tokens, in front of the first and behind the last. -/
def gaps (offset : Nat) : List Lexeme → (finish : Nat) → List (Nat × Nat)
  | [], finish => [(offset, finish)]
  | lexeme :: later, finish => (offset, lexeme.start) :: gaps lexeme.finish later finish

namespace Alternates

variable {offset : Nat} {text : List Char} {lexemes : List Lexeme}

/-- Each token is scanned at its place. -/
theorem exists_scanned (alternates : Alternates offset text lexemes) :
    ∀ lexeme ∈ lexemes, ∃ behind,
      StandsBetween offset text lexeme.start lexeme.finish lexeme.token.spelling.toList behind ∧
        scanToken? (lexeme.token.spelling.toList ++ behind) = some (lexeme.token, behind) := by
  induction alternates with
  | done => exact List.forall_mem_nil _
  | @token offset layout token after later isLayout scanned _ inductionHypothesis =>
    refine List.forall_mem_cons.mpr ⟨⟨after, ⟨layout, rfl, rfl, rfl⟩, scanned⟩, ?_⟩
    intro lexeme member
    obtain ⟨behind, stands, found⟩ := inductionHypothesis lexeme member
    exact ⟨behind, stands.behind.behind, found⟩

/-- No token begins in front of the text. -/
theorem le_start (alternates : Alternates offset text lexemes) :
    ∀ lexeme ∈ lexemes, offset ≤ lexeme.start := by
  intro lexeme member
  obtain ⟨behind, ⟨before, -, start, -⟩, -⟩ := alternates.exists_scanned lexeme member
  omega

/-- Each token ends before the next one begins. -/
theorem pairwise (alternates : Alternates offset text lexemes) :
    lexemes.Pairwise fun first later => first.finish ≤ later.start := by
  induction alternates with
  | done => exact .nil
  | token _ _ behind inductionHypothesis => exact .cons behind.le_start inductionHypothesis

/-- What stands in the gaps is layout. -/
theorem exists_layout (alternates : Alternates offset text lexemes) :
    ∀ gap ∈ gaps offset lexemes (offset + byteLength text), ∃ layout behind,
      StandsBetween offset text gap.1 gap.2 layout behind ∧ IsLayout layout behind := by
  induction alternates with
  | @done offset text layout =>
    refine List.forall_mem_singleton.mpr ⟨text, [], ⟨[], by simp, rfl, ?_⟩, layout⟩
    rfl
  | @token offset layout token after later isLayout _ _ inductionHypothesis =>
    refine List.forall_mem_cons.mpr ⟨⟨layout, _, ⟨[], rfl, rfl, rfl⟩, isLayout⟩, ?_⟩
    intro gap member
    rw [byteLength_append, byteLength_append, ← Nat.add_assoc, ← Nat.add_assoc] at member
    obtain ⟨inGap, behind, stands, layoutThere⟩ := inductionHypothesis gap member
    exact ⟨inGap, behind, stands.behind.behind, layoutThere⟩

end Alternates

/-- A token stands at its place in a text: the place is not empty, begins and ends where characters
do, and what is between is spelled as the kind of the token demands. No longer text that begins
there is spelled as a token of any kind. -/
structure Lexeme.StandsIn (lexeme : Lexeme) (text : List Char) : Prop where
  nonempty : lexeme.start < lexeme.finish
  within : lexeme.finish ≤ byteLength text
  begins : lexeme.start ∈ characterOffsets 0 text
  ends : lexeme.finish ∈ characterOffsets 0 text
  spelled : slice? lexeme.start lexeme.finish text = some lexeme.token.spelling.toList
  shaped : lexeme.token.spelling.toList ∈ lexeme.token.pattern
  longest : ∀ (kind : Token) (longer : List Char) (finish : Nat), longer ∈ kind.pattern →
    slice? lexeme.start finish text = some longer → finish ≤ lexeme.finish

/-- A token that is scanned behind a part of a text stands there. -/
theorem standsIn_of_scanToken? {text before behind : List Char} {token : Token}
    (whole : text = before ++ (token.spelling.toList ++ behind))
    (scanned : scanToken? (token.spelling.toList ++ behind) = some (token, behind)) :
    Lexeme.StandsIn ⟨token, byteLength before,
      byteLength before + byteLength token.spelling.toList⟩ text := by
  have finish : byteLength (before ++ token.spelling.toList) =
      byteLength before + byteLength token.spelling.toList := byteLength_append _ _
  subst whole
  constructor
  case nonempty =>
    have shorter := (scanToken?_eq_some scanned).2
    have spelled : token.spelling.toList ≠ [] := by
      intro nothing
      rw [nothing] at shorter
      exact absurd shorter (Nat.lt_irrefl _)
    exact Nat.lt_add_of_pos_right (byteLength_pos spelled)
  case within =>
    rw [byteLength_append, byteLength_append]
    dsimp only
    omega
  case begins => exact byteLength_mem_characterOffsets _ _
  case ends =>
    rw [← List.append_assoc]
    exact finish ▸ byteLength_mem_characterOffsets _ _
  case spelled =>
    exact finish ▸ slice?_byteLength before token.spelling.toList behind
  case shaped => exact mem_pattern_of_scanToken? scanned
  case longest =>
    intro kind longer last shape cut
    obtain ⟨begins, rfl⟩ := eq_of_slice?_byteLength cut
    have notLonger := length_le_of_mem_pattern scanned shape begins
    obtain ⟨others, same⟩ :=
      List.prefix_of_prefix_length_le begins (List.prefix_append _ _) notLonger
    dsimp only
    rw [← same, byteLength_append]
    omega

/-- Tokens that stand in a text in their order, with layout in all places between them. -/
structure Covers (lexemes : List Lexeme) (text : List Char) : Prop where
  tokens : ∀ lexeme ∈ lexemes, lexeme.StandsIn text
  ordered : lexemes.Pairwise fun first later => first.finish ≤ later.start
  layout : ∀ gap ∈ gaps 0 lexemes (byteLength text), ∃ layout behind,
    StandsBetween 0 text gap.1 gap.2 layout behind ∧ IsLayout layout behind

/-- The tokens of a source and the layout between them are all of the source. -/
theorem covers_of_tokenize {source : String} {lexemes : List Lexeme}
    (scans : tokenize source = .ok lexemes) : Covers lexemes source.toList := by
  have alternates : Alternates 0 source.toList lexemes := alternates_of_scanFrom scans
  constructor
  case tokens =>
    intro lexeme member
    obtain ⟨behind, ⟨before, whole, start, finish⟩, scanned⟩ :=
      alternates.exists_scanned lexeme member
    rw [Nat.zero_add] at start
    have stands := standsIn_of_scanToken? whole scanned
    rwa [← start, ← finish] at stands
  case ordered => exact alternates.pairwise
  case layout =>
    intro gap member
    exact alternates.exists_layout gap (by rwa [Nat.zero_add])

/-- A source with a comment, a number behind an operator, an escaped quotation mark and characters
of several bytes. -/
def exampleSource : String :=
  "% é\np(X):-X=<1.5,q('é\\'').\t% end"

/-- The tokens of the source and their places. -/
def exampleLexemes : List Lexeme :=
  [⟨.atom "p", 5, 6⟩, ⟨.openParen, 6, 7⟩, ⟨.var "X", 7, 8⟩, ⟨.closeParen, 8, 9⟩, ⟨.neck, 9, 11⟩,
    ⟨.var "X", 11, 12⟩, ⟨.operator "=<", 12, 14⟩, ⟨.number "1.5", 14, 17⟩, ⟨.comma, 17, 18⟩,
    ⟨.atom "q", 18, 19⟩, ⟨.openParen, 19, 20⟩, ⟨.quotedAtom "'é\\''", 20, 26⟩,
    ⟨.closeParen, 26, 27⟩, ⟨.stop, 27, 28⟩]

/-- They cover the source. -/
theorem exampleLexemes_cover :
    tokenize exampleSource = .ok exampleLexemes ∧ Covers exampleLexemes exampleSource.toList := by
  have scans : tokenize exampleSource = .ok exampleLexemes :=
    toOption_eq_some_iff.mp (by decide +kernel)
  exact ⟨scans, covers_of_tokenize scans⟩

end Statute.Logic
