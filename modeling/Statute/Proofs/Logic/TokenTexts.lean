import Statute.Proofs.Logic.Concatenation
import Statute.Proofs.Logic.LongestToken

/-!
# The texts of tokens

What stands between tokens does not matter to the tokens, and nothing but the tokens matters to
readers. The texts of the tokens of a source, with single spaces between them, have the same tokens
again, and two sources with the same token texts are read alike, but for the offsets of errors.
-/

namespace Statute.Logic

open Text

/-! ## Tokens with spaces between them -/

/-- A space extends no token. -/
theorem endsTokens_space (rest : List Char) : EndsTokens (' ' :: rest) := by
  right
  rintro _ ⟨⟩
  decide

/-- Spellings that have the patterns of their tokens are these tokens again when single spaces
stand between them. -/
theorem scans_joinedSpellings : ∀ {tokens : List Token},
    (∀ token ∈ tokens, token.spelling.toList ∈ token.pattern) →
      Scans (joined " " (tokens.map Token.spelling)).toList tokens []
  | [], _ => .done
  | [token], shaped => .single (scanToken?_spelling (shaped token List.mem_cons_self))
  | first :: second :: later, shaped => by
    obtain ⟨firstShaped, othersShaped⟩ := List.forall_mem_cons.mp shaped
    have others := scans_joinedSpellings othersShaped
    have whole : joined " " ((first :: second :: later).map Token.spelling) =
        first.spelling ++ " " ++ joined " " ((second :: later).map Token.spelling) := rfl
    generalize joined " " ((second :: later).map Token.spelling) = rest at others whole
    have scanned := scanToken?_append (scanToken?_spelling firstShaped)
      (endsTokens_space rest.toList)
    rw [whole, String.toList_append, String.toList_append, List.append_assoc]
    exact .token scanned (.blank rfl others)

/-- The tokens of a source are found again in their texts. -/
theorem exists_tokenize_joined {source : String} {lexemes : List Lexeme}
    (scans : tokenize source = .ok lexemes) :
    ∃ again, tokenize (joined " " (lexemes.map fun lexeme => lexeme.token.spelling)) = .ok again ∧
      again.map Lexeme.token = lexemes.map Lexeme.token := by
  have shaped : ∀ token ∈ lexemes.map Lexeme.token, token.spelling.toList ∈ token.pattern := by
    intro token member
    obtain ⟨lexeme, listed, rfl⟩ := List.mem_map.mp member
    obtain ⟨before, after, -, scanned⟩ := exists_scanned_of_mem scans listed
    exact mem_pattern_of_scanToken? scanned
  have judged := scans_joinedSpellings shaped
  rw [List.map_map] at judged
  exact tokenize_of_scans judged

/-- The texts of the tokens of two sources tell the tokens. -/
theorem map_token_eq_of_spelling_eq {first second : String} {lexemes others : List Lexeme}
    (scans : tokenize first = .ok lexemes) (otherScans : tokenize second = .ok others)
    (same : (lexemes.map fun lexeme => lexeme.token.spelling) =
      others.map fun lexeme => lexeme.token.spelling) :
    lexemes.map Lexeme.token = others.map Lexeme.token := by
  obtain ⟨again, found, tokens⟩ := exists_tokenize_joined scans
  obtain ⟨otherAgain, otherFound, otherTokens⟩ := exists_tokenize_joined otherScans
  rw [same, otherFound] at found
  obtain rfl := Except.ok.inj found
  exact tokens.symm.trans otherTokens

/-! ## Readers of corresponding tokens -/

/-- The clause that the tokens of a source are. -/
def readClause (lexemes : List Lexeme) (sourceLength : Nat) : Except SyntaxError Clause := do
  let (clause, cursor) ← Reader.clause (Cursor.atStart lexemes sourceLength)
  if cursor.atEnd then return clause
  else .error (.grammar cursor.offset (.trailingInput cursor.peek?))

theorem parseClause_eq (source : String) :
    parseClause source = (do
      let lexemes ← tokenize source
      readClause lexemes (byteLength source.toList)) :=
  rfl

/-- A reading of whole sources is the same for tokens that correspond, and fails for them at
corresponding places. -/
def ReadsByTokens {α : Type} (read : List Lexeme → Nat → Except SyntaxError α) : Prop :=
  ∀ ⦃between : Correspondence⦄ ⦃lexemes others⦄ ⦃length otherLength : Nat⦄,
    List.Forall₂ between.lexemes lexemes others → between.places length otherLength →
      OutcomesCorrespond between.places Eq (read lexemes length) (read others otherLength)

/-- The first places of two sources correspond. Where the token before them starts is of no
interest, so that it can be said to be the end. -/
theorem correspond_atStart {between : Correspondence} {lexemes others : List Lexeme}
    {length otherLength : Nat} (tokens : List.Forall₂ between.lexemes lexemes others)
    (ends : between.places length otherLength) :
    Cursor.Correspond between ⟨lexemes, 0, length, length⟩ ⟨others, 0, otherLength, otherLength⟩ :=
  ⟨tokens, rfl, ends, ends⟩

/-- The reading of one clause is by tokens. Neither where it starts nor the check that nothing
follows depends on places. -/
theorem readsByTokens_readClause : ReadsByTokens readClause := by
  intro between lexemes others length otherLength tokens ends
  rw [readClause, readClause, Cursor.atStart, Cursor.atStart,
    clause_ignores_previous lexemes 0 0 length, clause_ignores_previous others 0 0 otherLength]
  refine (Placeless.clause (correspond_atStart tokens ends)).bind ?_
  rintro ⟨clause, after⟩ ⟨_, behind⟩ ⟨rfl, later⟩
  dsimp only
  rw [later.atEnd, later.peek?]
  split
  · exact .ok rfl
  · exact .grammar later.offset

/-- The reading of all clauses is by tokens, as both sources have the same number of them to read.
-/
theorem readsByTokens_readProgram : ReadsByTokens readProgram := by
  intro between lexemes others length otherLength tokens ends
  rw [readProgram, readProgram, Cursor.atStart, Cursor.atStart,
    map_clauses_eq (Nat.le_refl _) (Nat.le_refl _) 0 length,
    map_clauses_eq (Nat.le_refl _) (Nat.le_refl _) 0 otherLength, tokens.length_eq]
  exact (Placeless.clauses others.length (correspond_atStart tokens ends)).map
    fun _ _ same => same.1

/-! ## Outcomes but for offsets -/

/-- The same error at another offset. -/
def SyntaxError.withOffset (offset : Nat) : SyntaxError → SyntaxError
  | unexpectedText _ found => unexpectedText offset found
  | grammar _ fault => grammar offset fault
  | tooDeep _ => tooDeep offset

/-- The same result, or the same error but for its offset. -/
def SameButOffsets {α : Type} (first second : Except SyntaxError α) : Prop :=
  first.mapError (SyntaxError.withOffset 0) = second.mapError (SyntaxError.withOffset 0)

/-- Tokens that are the same, wherever they stand. -/
def Correspondence.anywhere : Correspondence where
  lexemes first second := first.token = second.token
  places _ _ := True
  token := id
  start := fun _ => trivial

/-- Outcomes that correspond are the same but for their offsets, whatever places correspond. -/
theorem SameButOffsets.of_correspond {α : Type} {places : Nat → Nat → Prop}
    {first second : Except SyntaxError α} (outcomes : OutcomesCorrespond places Eq first second) :
    SameButOffsets first second := by
  cases outcomes with
  | ok same => exact congrArg Except.ok same
  | grammar place => rfl
  | tooDeep place => rfl

/-- Tokens of two sources correspond when they are the same in order. -/
theorem correspond_anywhere {lexemes others : List Lexeme}
    (same : lexemes.map Lexeme.token = others.map Lexeme.token) :
    List.Forall₂ Correspondence.anywhere.lexemes lexemes others := by
  have equal : List.Forall₂ Eq (lexemes.map Lexeme.token) (others.map Lexeme.token) := by
    rw [List.forall₂_eq_eq_eq, same]
  rw [List.forall₂_map_left_iff, List.forall₂_map_right_iff] at equal
  exact equal

/-- Layout does not matter. The texts of the tokens of a source, with single spaces between them,
have the same tokens, kinds and texts alike. Two sources with the same token texts are read alike
as a clause and as a program, but for the offsets of errors. -/
theorem tokenTexts_determine_outcome :
    (∀ source lexemes, tokenize source = .ok lexemes →
      ∃ again, tokenize (joined " " (lexemes.map fun lexeme => lexeme.token.spelling)) = .ok again ∧
        again.map Lexeme.token = lexemes.map Lexeme.token) ∧
    ∀ first second lexemes others, tokenize first = .ok lexemes → tokenize second = .ok others →
      (lexemes.map fun lexeme => lexeme.token.spelling) =
        (others.map fun lexeme => lexeme.token.spelling) →
      SameButOffsets (parseClause first) (parseClause second) ∧
        SameButOffsets (parseProgram first) (parseProgram second) := by
  refine ⟨fun source lexemes scans => exists_tokenize_joined scans, ?_⟩
  intro first second lexemes others scans otherScans same
  have tokens := correspond_anywhere (map_token_eq_of_spelling_eq scans otherScans same)
  rw [parseClause_eq, parseClause_eq, parseProgram_eq, parseProgram_eq, scans, otherScans]
  exact ⟨.of_correspond (readsByTokens_readClause tokens trivial),
    .of_correspond (readsByTokens_readProgram tokens trivial)⟩

/-- A source without layout, in which a number stands before the final stop, a quotation goes over
the end of a line and the closing parenthesis is missing. -/
def exampleTight : String :=
  "p('a%\n',1.5.%"

/-- The tokens of the source and their places. -/
def exampleTightLexemes : List Lexeme :=
  [⟨.atom "p", 0, 1⟩, ⟨.openParen, 1, 2⟩, ⟨.quotedAtom "'a%\n'", 2, 7⟩, ⟨.comma, 7, 8⟩,
    ⟨.number "1.5", 8, 11⟩, ⟨.stop, 11, 12⟩]

/-- A source with the same token texts. -/
def exampleLoose : String :=
  "p ( 'a%\n'%\n,1.5 ."

/-- The same tokens at other places. -/
def exampleLooseLexemes : List Lexeme :=
  [⟨.atom "p", 0, 1⟩, ⟨.openParen, 2, 3⟩, ⟨.quotedAtom "'a%\n'", 4, 9⟩, ⟨.comma, 11, 12⟩,
    ⟨.number "1.5", 12, 15⟩, ⟨.stop, 16, 17⟩]

/-- Both fail at the stop. -/
theorem exampleTight_fails_like_exampleLoose :
    tokenize exampleTight = .ok exampleTightLexemes ∧
      tokenize exampleLoose = .ok exampleLooseLexemes ∧
      (∃ again, tokenize "p ( 'a%\n' , 1.5 ." = .ok again ∧
        again.map Lexeme.token = exampleTightLexemes.map Lexeme.token) ∧
      SameButOffsets (parseClause exampleTight) (parseClause exampleLoose) ∧
      parseClause exampleTight = .error (.grammar 11 (.expected .closeParen (some .stop))) ∧
      parseClause exampleLoose = .error (.grammar 16 (.expected .closeParen (some .stop))) := by
  have tight : tokenize exampleTight = .ok exampleTightLexemes :=
    toOption_eq_some_iff.mp (by decide +kernel)
  have loose : tokenize exampleLoose = .ok exampleLooseLexemes :=
    toOption_eq_some_iff.mp (by decide +kernel)
  obtain ⟨again, same⟩ := tokenTexts_determine_outcome
  exact ⟨tight, loose, again _ _ tight, (same _ _ _ _ tight loose rfl).1, by decide +kernel,
    by decide +kernel⟩

end Statute.Logic
