import Statute.Proofs.Logic.TokenPlaces
import Statute.Proofs.Logic.TokenTexts

/-!
# Places of errors

Where a source is refused. A text that no token begins with is reported at its place, which is
behind a text that has tokens. Everything else is reported at a token, or at the end when the tokens
do not suffice, and the number of that token depends on the tokens alone.
-/

namespace Statute.Logic

open Text

/-! ## Refused text -/

/-- The text of an unclosed quotation is the front of the text behind its mark. -/
theorem unclosedText_prefix (text : List Char) : unclosedText text <+: text := by
  fun_induction unclosedText text with
  | case1 => exact List.prefix_refl _
  | case2 | case3 => exact List.nil_prefix
  | case4 escaped after _ inductionHypothesis =>
    exact List.cons_prefix_cons.mpr ⟨rfl, List.cons_prefix_cons.mpr ⟨rfl, inductionHypothesis⟩⟩
  | case5 character rest _ inductionHypothesis =>
    exact List.cons_prefix_cons.mpr ⟨rfl, inductionHypothesis⟩

/-- What is refused is a beginning of the text there, and not empty. -/
theorem exists_refusedText (first : Char) (rest : List Char) :
    ∃ others, refusedText (first :: rest) = first :: others ∧ others <+: rest := by
  rw [refusedText]
  split
  · exact ⟨unclosedText rest, rfl, unclosedText_prefix rest⟩
  · exact ⟨[], rfl, List.nil_prefix⟩

/-- Layout is cut off alike in front of nothing, and in front of any text that begins as the one
behind it does. -/
theorem splitLayout_layout_append {inComment : Bool} {text other : List Char}
    (begins : ∀ character ∈ other.head?, character ∈ (splitLayout inComment text).2.head?) :
    splitLayout inComment ((splitLayout inComment text).1 ++ other) =
      ((splitLayout inComment text).1, other) := by
  induction text generalizing inComment with
  | nil =>
    have empty : other = [] := by
      cases other with
      | nil => rfl
      | cons first others =>
        have inside := begins first rfl
        cases inComment <;> cases inside
    subst empty
    cases inComment <;> rfl
  | cons character text inductionHypothesis =>
    cases inComment with
    | true =>
      simp only [splitLayout] at begins
      simp [splitLayout, inductionHypothesis begins]
    | false =>
      by_cases layout : (isLayoutCharacter character || character = '%') = true
      · simp only [splitLayout, layout, if_true] at begins ⊢
        simp only [List.cons_append, splitLayout, layout, if_true, inductionHypothesis begins]
      · have nothing : splitLayout false (character :: text) = ([], character :: text) := by
          simp [splitLayout, layout]
        rw [nothing] at begins ⊢
        cases other with
        | nil => rfl
        | cons first others =>
          obtain rfl : character = first := by simpa using begins first rfl
          simp [splitLayout, layout]

/-- A text that cannot be scanned to its end has a first place where no token begins. What stands
before it has tokens, and what is reported there is not empty. -/
theorem exists_refused_of_scanFrom {offset : Nat} {text : List Char} {error : SyntaxError}
    (fails : scanFrom offset text = .error error) :
    ∃ before found rest, text = before ++ (found ++ rest) ∧ found ≠ [] ∧
      error = .unexpectedText (offset + byteLength before) (String.ofList found) ∧
      ∀ start, ∃ lexemes, scanFrom start before = .ok lexemes := by
  have whole := splitLayout_append false text
  rw [scanFrom_eq] at fails
  split at fails
  next => cases fails
  next first rest cut =>
    dsimp only at fails
    -- Either no token begins behind the layout, or the place is one of the text behind the token.
    split at fails
    next refused =>
      obtain rfl := Except.error.inj fails
      obtain ⟨others, shape, behind, same⟩ := exists_refusedText first rest
      refine ⟨(splitLayout false text).1, first :: others, behind, ?_, List.cons_ne_nil _ _,
        by rw [shape], fun start => ⟨[], ?_⟩⟩
      · rw [List.cons_append, same, ← cut, whole]
      · have alone := @splitLayout_layout_append false text [] (by rintro _ ⟨⟩)
        rw [List.append_nil] at alone
        rw [scanFrom_eq, alone]
    next token after scanned =>
      have laterFails : scanFrom (offset + byteLength (splitLayout false text).1 +
          byteLength token.spelling.toList) after = .error error := by
        cases outcome : scanFrom _ after with
        | ok later => simp [outcome, Except.map] at fails
        | error => simpa [outcome, Except.map] using fails
      have shorter := length_lt_of_cut cut scanned
      obtain ⟨before, found, behind, rfl, nonempty, rfl, scans⟩ :=
        exists_refused_of_scanFrom laterFails
      obtain ⟨others, spelling, rfl⟩ := exists_spelling_of_scanToken? scanned
      refine ⟨(splitLayout false text).1 ++ (first :: others ++ before), found, behind, ?_,
        nonempty, ?_, fun start => ?_⟩
      · refine whole.symm.trans ?_
        rw [cut]
        simp
      · rw [spelling, byteLength_append, byteLength_append]
        simp only [Nat.add_assoc]
      · -- The token is the same when only the text up to the refused place is there.
        have shortened : scanToken? (first :: others ++ before) = some (token, before) := by
          refine @scanToken?_of_append _ _ (found ++ behind) _ ?_
          simpa using scanned
        have sameLayout := @splitLayout_layout_append false text (first :: others ++ before)
          (by rw [cut]; exact fun _ member => member)
        generalize place : start + byteLength (splitLayout false text).1 = tokenStart
        obtain ⟨lexemes, later⟩ := scans (tokenStart + byteLength token.spelling.toList)
        refine ⟨⟨token, tokenStart, tokenStart + byteLength token.spelling.toList⟩ :: lexemes, ?_⟩
        rw [scanFrom_eq, sameLayout, place]
        simp only [List.cons_append] at shortened ⊢
        simp only [shortened, later]
        rfl
termination_by text.length

/-! ## Faults at tokens -/

/-- Where the token with a number begins, counted from zero; the end of the source when there are no
more tokens. -/
def placeOf (lexemes : List Lexeme) (sourceLength index : Nat) : Nat :=
  (lexemes[index]?.map Lexeme.start).getD sourceLength

/-- Tokens with their numbers for places. -/
def numbered (tokens : List Token) : List Lexeme :=
  tokens.zipIdx.map fun (token, index) => ⟨token, index, index + 1⟩

/-- Numbers of tokens and the places of the tokens in a source. -/
def Correspondence.numbers (lexemes : List Lexeme) (sourceLength : Nat) : Correspondence where
  lexemes first second := first.token = second.token ∧ lexemes[first.start]? = some second
  places index offset := index ≤ lexemes.length ∧ offset = placeOf lexemes sourceLength index
  token := And.left
  start := by
    rintro first second ⟨-, found⟩
    obtain ⟨within, -⟩ := List.getElem?_eq_some_iff.mp found
    exact ⟨Nat.le_of_lt within, by rw [placeOf, found]; rfl⟩

/-- Numbered tokens correspond to the same tokens in a source. -/
theorem correspond_numbered {lexemes : List Lexeme} {tokens : List Token}
    (same : lexemes.map Lexeme.token = tokens) (sourceLength : Nat) :
    List.Forall₂ (Correspondence.numbers lexemes sourceLength).lexemes (numbered tokens)
      lexemes := by
  subst same
  refine List.forall₂_iff_get.mpr ⟨by simp [numbered], fun index within otherWithin => ?_⟩
  simp [numbered, Correspondence.numbers]

/-- How an error is placed in a source: text that begins no token stands behind a text that has
tokens, and everything else is at a token, or at the end, that the tokens of the source determine
together with the fault. -/
inductive SyntaxError.PlacedIn {α : Type} (parse : String → Except SyntaxError α)
    (source : String) : SyntaxError → Prop where
  | unexpectedText {before found rest : List Char}
      (whole : source.toList = before ++ (found ++ rest)) (nonempty : found ≠ [])
      (scans : ∃ lexemes, tokenize (String.ofList before) = .ok lexemes) :
      PlacedIn parse source (.unexpectedText (byteLength before) (String.ofList found))
  | grammar {lexemes index fault} (scans : tokenize source = .ok lexemes)
      (within : index ≤ lexemes.length)
      (determined : ∀ other others, tokenize other = .ok others →
        others.map Lexeme.token = lexemes.map Lexeme.token →
        parse other = .error (.grammar (placeOf others (byteLength other.toList) index) fault)) :
      PlacedIn parse source
        (.grammar (placeOf lexemes (byteLength source.toList) index) fault)
  | tooDeep {lexemes index} (scans : tokenize source = .ok lexemes)
      (within : index ≤ lexemes.length)
      (determined : ∀ other others, tokenize other = .ok others →
        others.map Lexeme.token = lexemes.map Lexeme.token →
        parse other = .error (.tooDeep (placeOf others (byteLength other.toList) index))) :
      PlacedIn parse source (.tooDeep (placeOf lexemes (byteLength source.toList) index))

/-- What reads by tokens fails at a token that the tokens determine. -/
theorem placedIn_of_readsByTokens {α : Type} {parse : String → Except SyntaxError α}
    {read : List Lexeme → Nat → Except SyntaxError α} (byTokens : ReadsByTokens read)
    (reads : ∀ source, parse source = (do
      let lexemes ← tokenize source
      read lexemes (byteLength source.toList)))
    {source : String} {error : SyntaxError} (fails : parse source = .error error) :
    error.PlacedIn parse source := by
  cases scans : tokenize source with
  | error refused =>
    obtain rfl : refused = error := by simpa [reads, scans, bind, Except.bind] using fails
    obtain ⟨before, found, rest, whole, nonempty, rfl, scansBefore⟩ :=
      exists_refused_of_scanFrom scans
    rw [Nat.zero_add]
    refine .unexpectedText whole nonempty ?_
    rw [tokenize, String.toList_ofList]
    exact scansBefore 0
  | ok lexemes =>
    -- Reading the numbers of the tokens tells the number for every source with these tokens.
    have outcomes {other others} (otherScans : tokenize other = .ok others)
        (same : others.map Lexeme.token = lexemes.map Lexeme.token) :
        OutcomesCorrespond (Correspondence.numbers others (byteLength other.toList)).places Eq
          (read (numbered (lexemes.map Lexeme.token)) lexemes.length) (parse other) := by
      have count : others.length = lexemes.length := by simpa using congrArg List.length same
      rw [reads, otherScans]
      refine byTokens (correspond_numbered same _) ⟨Nat.le_of_eq count.symm, ?_⟩
      rw [placeOf, List.getElem?_eq_none (Nat.le_of_eq count)]
      rfl
    have own := outcomes scans rfl
    rw [fails] at own
    generalize read (numbered _) _ = outcome at outcomes own
    cases own with
    | grammar place =>
      obtain ⟨within, rfl⟩ := place
      refine .grammar scans within fun other others otherScans same => ?_
      have found := outcomes otherScans same
      generalize parse other = result at found ⊢
      obtain _ | ⟨-, rfl⟩ := found
      rfl
    | tooDeep place =>
      obtain ⟨within, rfl⟩ := place
      refine .tooDeep scans within fun other others otherScans same => ?_
      have found := outcomes otherScans same
      generalize parse other = result at found ⊢
      cases found with
      | tooDeep place => rw [place.2]

/-! ## Offsets -/

/-- A token begins, and the source ends, where a character does. -/
theorem placeOf_mem_characterOffsets {source : String} {lexemes : List Lexeme}
    (scans : tokenize source = .ok lexemes) (index : Nat) :
    placeOf lexemes (byteLength source.toList) index ∈ characterOffsets 0 source.toList := by
  rw [placeOf]
  cases found : lexemes[index]? with
  | none =>
    have ends := byteLength_mem_characterOffsets source.toList []
    rwa [List.append_nil] at ends
  | some lexeme =>
    have alternates : Alternates 0 source.toList lexemes := alternates_of_scanFrom scans
    obtain ⟨behind, ⟨before, whole, start, -⟩, -⟩ :=
      alternates.exists_scanned lexeme (List.mem_of_getElem? found)
    rw [Nat.zero_add] at start
    rw [whole, Option.map_some, Option.getD_some, start]
    exact byteLength_mem_characterOffsets _ _

/-- An error that is placed in a source has an offset that no character of the source is across. -/
theorem SyntaxError.PlacedIn.offset_mem {α : Type} {parse : String → Except SyntaxError α}
    {source : String} {error : SyntaxError} (placed : error.PlacedIn parse source) :
    error.offset ∈ characterOffsets 0 source.toList := by
  cases placed with
  | unexpectedText whole =>
    rw [whole]
    exact byteLength_mem_characterOffsets _ _
  | grammar scans => exact placeOf_mem_characterOffsets scans _
  | tooDeep scans => exact placeOf_mem_characterOffsets scans _

/-- Every error of a source has a place in the source. Text that begins no token is reported where
it stands, behind a text that has tokens. Any other error is reported only when the whole source has
tokens, at the start of one of them or at the end of the source, and all sources with these tokens
have it at the same token. Offsets are those of characters or of the end. -/
theorem errors_placed (source : String) (error : SyntaxError) :
    (parseClause source = .error error →
      error.PlacedIn parseClause source ∧ error.offset ∈ characterOffsets 0 source.toList) ∧
    (parseProgram source = .error error →
      error.PlacedIn parseProgram source ∧ error.offset ∈ characterOffsets 0 source.toList) := by
  constructor
  · intro fails
    have placed := placedIn_of_readsByTokens readsByTokens_readClause parseClause_eq fails
    exact ⟨placed, placed.offset_mem⟩
  · intro fails
    have placed := placedIn_of_readsByTokens readsByTokens_readProgram parseProgram_eq fails
    exact ⟨placed, placed.offset_mem⟩

/-- A comma for a term behind a character of two bytes, and such a character where a token should
begin. -/
theorem exampleErrors_placed :
    parseClause "p('é',,b)." = .error (.grammar 7 (.expected .term (some .comma))) ∧
      SyntaxError.PlacedIn parseClause "p('é',,b)." (.grammar 7 (.expected .term (some .comma))) ∧
      7 ∈ characterOffsets 0 "p('é',,b).".toList ∧
      parseProgram "'é'. p(é)." = .error (.unexpectedText 8 "é") ∧
      SyntaxError.PlacedIn parseProgram "'é'. p(é)." (.unexpectedText 8 "é") ∧
      8 ∈ characterOffsets 0 "'é'. p(é).".toList := by
  have comma : parseClause "p('é',,b)." = .error (.grammar 7 (.expected .term (some .comma))) := by
    decide +kernel
  have letter : parseProgram "'é'. p(é)." = .error (.unexpectedText 8 "é") := by decide +kernel
  obtain ⟨commaPlaced, commaOffset⟩ := (errors_placed _ _).1 comma
  obtain ⟨letterPlaced, letterOffset⟩ := (errors_placed _ _).2 letter
  exact ⟨comma, commaPlaced, commaOffset, letter, letterPlaced, letterOffset⟩

end Statute.Logic
