import Statute.Proofs.Logic.Completeness
import Statute.Proofs.Logic.LineEnd
import Statute.Proofs.Logic.Soundness

/-!
# Tokens of text with comments

`Passes inComment text tokens stillIn rest` says that the tokens stand at the beginning of a text,
with blanks and comments between them, and that `rest` follows. The flags tell whether the text
begins inside of a comment and whether `rest` does. Unlike `Scans`, which judges text without
comments, the judgment is there for every text that can be scanned, and it composes like `Scans`.

What stands behind the last token of a text is layout or belongs to a comment. Within one line the
tokens come first and a comment takes all that is left, up to the line end.
-/

namespace Statute.Logic

open Grammar Text

/-- Tokens, blanks and comments at the beginning of a text and what follows them. -/
inductive Passes : Bool → List Char → List Token → Bool → List Char → Prop where
  | done {inComment text} : Passes inComment text [] inComment text
  | blank {character text tokens stillIn rest} (layout : isLayoutCharacter character = true)
      (later : Passes false text tokens stillIn rest) :
      Passes false (character :: text) tokens stillIn rest
  | opens {text tokens stillIn rest} (later : Passes true text tokens stillIn rest) :
      Passes false ('%' :: text) tokens stillIn rest
  | inside {character text tokens stillIn rest} (sameLine : character ≠ '\n')
      (later : Passes true text tokens stillIn rest) :
      Passes true (character :: text) tokens stillIn rest
  | lineEnd {text tokens stillIn rest} (later : Passes false text tokens stillIn rest) :
      Passes true ('\n' :: text) tokens stillIn rest
  | token {text after token tokens stillIn rest} (scanned : scanToken? text = some (token, after))
      (later : Passes false after tokens stillIn rest) :
      Passes false text (token :: tokens) stillIn rest

variable {inComment middleIn stillIn : Bool} {text middle rest more : List Char}
  {tokens later : List Token}

/-- Judgments compose where the first one ends. -/
theorem Passes.append (before : Passes inComment text tokens middleIn middle)
    (behind : Passes middleIn middle later stillIn rest) :
    Passes inComment text (tokens ++ later) stillIn rest := by
  induction before with
  | done => exact behind
  | blank layout _ inductionHypothesis => exact .blank layout (inductionHypothesis behind)
  | opens _ inductionHypothesis => exact .opens (inductionHypothesis behind)
  | inside sameLine _ inductionHypothesis => exact .inside sameLine (inductionHypothesis behind)
  | lineEnd _ inductionHypothesis => exact .lineEnd (inductionHypothesis behind)
  | token scanned _ inductionHypothesis => exact .token scanned (inductionHypothesis behind)

/-- Text without comments is judged alike. -/
theorem Scans.passes (judged : Scans text tokens rest) : Passes false text tokens false rest := by
  induction judged with
  | done => exact .done
  | blank layout _ inductionHypothesis => exact .blank layout inductionHypothesis
  | token scanned _ inductionHypothesis => exact .token scanned inductionHypothesis

/-- What stands on the line of a comment is part of it. -/
theorem Passes.comment (oneLine : '\n' ∉ text) (rest : List Char) :
    Passes true (text ++ rest) [] true rest := by
  induction text with
  | nil => exact .done
  | cons character text inductionHypothesis =>
    rw [List.mem_cons, not_or] at oneLine
    exact .inside (Ne.symm oneLine.1) (inductionHypothesis oneLine.2)

/-- Judged tokens are the same in front of a text that extends none of them. -/
theorem Passes.inFrontOf (passes : Passes inComment text tokens stillIn rest)
    (ends : EndsTokens more) : Passes inComment (text ++ more) tokens stillIn (rest ++ more) := by
  induction passes with
  | done => exact .done
  | blank layout _ inductionHypothesis => exact .blank layout inductionHypothesis
  | opens _ inductionHypothesis => exact .opens inductionHypothesis
  | inside sameLine _ inductionHypothesis => exact .inside sameLine inductionHypothesis
  | lineEnd _ inductionHypothesis => exact .lineEnd inductionHypothesis
  | token scanned _ inductionHypothesis =>
    exact .token (scanToken?_append scanned ends) inductionHypothesis

/-! ## Judgments and scanning -/

/-- Behind layout there is no layout. -/
theorem splitLayout_splitLayout (inComment : Bool) (text : List Char) :
    splitLayout false (splitLayout inComment text).2 = ([], (splitLayout inComment text).2) := by
  induction text generalizing inComment with
  | nil => cases inComment <;> rfl
  | cons character text inductionHypothesis =>
    cases inComment with
    | true => exact inductionHypothesis _
    | false =>
      by_cases layout : (isLayoutCharacter character || character = '%') = true
      · simp only [splitLayout, layout, if_true]
        exact inductionHypothesis _
      · simp [splitLayout, layout]

/-- Layout in front of a text moves its tokens and changes none of them. -/
theorem scanFrom_splitLayout (offset : Nat) (text : List Char) :
    scanFrom offset text =
      scanFrom (offset + byteLength (splitLayout false text).1) (splitLayout false text).2 := by
  rw [scanFrom_eq, scanFrom_eq (offset + _), splitLayout_splitLayout]
  simp [byteLength]

/-- Tokens that are judged up to the end of a text are scanned behind the layout in front of
them. -/
theorem Passes.exists_scanFrom (passes : Passes inComment text tokens stillIn []) (offset : Nat) :
    ∃ lexemes, scanFrom offset (splitLayout inComment text).2 = .ok lexemes ∧
      lexemes.map Lexeme.token = tokens := by
  -- The end of the text is an index of the judgment, so the induction needs a variable there.
  generalize nothing : ([] : List Char) = rest at passes
  induction passes generalizing offset with
  | @done inComment =>
    subst nothing
    exact ⟨[], by cases inComment <;> rw [splitLayout, scanFrom_eq] <;> rfl, rfl⟩
  | @blank character text _ _ _ layout _ inductionHypothesis =>
    have same : (splitLayout false (character :: text)).2 = (splitLayout false text).2 := by
      have notComment : character ≠ '%' := by
        rintro rfl
        cases layout
      simp [splitLayout, layout, notComment]
    rw [same]
    exact inductionHypothesis offset nothing
  | opens _ inductionHypothesis => exact inductionHypothesis offset nothing
  | @inside character text _ _ _ sameLine _ inductionHypothesis =>
    have inLine : (character != '\n') = true := bne_iff_ne.mpr sameLine
    have same : (splitLayout true (character :: text)).2 = (splitLayout true text).2 := by
      simp [splitLayout, inLine]
    rw [same]
    exact inductionHypothesis offset nothing
  | lineEnd _ inductionHypothesis => exact inductionHypothesis offset nothing
  | @token text after token tokens _ _ scanned _ inductionHypothesis =>
    cases text with
    | nil => cases scanned
    | cons character text =>
      have cut : splitLayout false (character :: text) = ([], character :: text) := by
        simp [splitLayout, not_layout_of_scanToken? scanned]
      obtain ⟨lexemes, scans, same⟩ := inductionHypothesis
        (offset + byteLength token.spelling.toList + byteLength (splitLayout false after).1) nothing
      rw [← scanFrom_splitLayout] at scans
      refine ⟨⟨token, offset, offset + byteLength token.spelling.toList⟩ :: lexemes, ?_, ?_⟩
      · rw [cut, scanFrom_eq, cut]
        simp [scanned, scans, byteLength, Except.map]
      · rw [List.map_cons, same]

/-- Layout at the beginning of a text is passed. Where something follows it, no comment is open. -/
theorem exists_passes_splitLayout (inComment : Bool) (text : List Char) :
    ∃ stillIn, Passes inComment text [] stillIn (splitLayout inComment text).2 ∧
      ((splitLayout inComment text).2 ≠ [] → stillIn = false) := by
  induction text generalizing inComment with
  | nil => cases inComment <;> exact ⟨_, .done, fun nonempty => absurd rfl nonempty⟩
  | cons character text inductionHypothesis =>
    cases inComment with
    | true =>
      by_cases lineEnd : character = '\n'
      · subst lineEnd
        obtain ⟨stillIn, passes, outside⟩ := inductionHypothesis false
        exact ⟨stillIn, .lineEnd passes, outside⟩
      · have inLine : (character != '\n') = true := bne_iff_ne.mpr lineEnd
        simp only [splitLayout, inLine]
        obtain ⟨stillIn, passes, outside⟩ := inductionHypothesis true
        exact ⟨stillIn, .inside lineEnd passes, outside⟩
    | false =>
      by_cases opens : character = '%'
      · subst opens
        obtain ⟨stillIn, passes, outside⟩ := inductionHypothesis true
        exact ⟨stillIn, .opens passes, outside⟩
      by_cases layout : isLayoutCharacter character = true
      · have cut : (splitLayout false (character :: text)).2 = (splitLayout false text).2 := by
          simp [splitLayout, layout, opens]
        obtain ⟨stillIn, passes, outside⟩ := inductionHypothesis false
        rw [cut]
        exact ⟨stillIn, .blank layout passes, outside⟩
      · have cut : (splitLayout false (character :: text)).2 = character :: text := by
          simp [splitLayout, layout, opens]
        rw [cut]
        exact ⟨false, .done, fun _ => rfl⟩

/-- The tokens of a text that is scanned to its end are judged to be there. -/
theorem exists_passes_of_scanFrom {offset : Nat} {text : List Char} {lexemes : List Lexeme}
    (scans : scanFrom offset text = .ok lexemes) :
    ∃ stillIn, Passes false text (lexemes.map Lexeme.token) stillIn [] := by
  obtain ⟨stillIn, layout, outside⟩ := exists_passes_splitLayout false text
  rw [scanFrom_eq] at scans
  split at scans
  next cut =>
    obtain rfl := Except.ok.inj scans
    exact ⟨stillIn, cut ▸ layout⟩
  next first rest cut =>
    obtain rfl := outside (cut ▸ List.cons_ne_nil first rest)
    dsimp only at scans
    split at scans
    next => cases scans
    next token after scanned =>
      have shorter := length_lt_of_cut cut scanned
      obtain ⟨later, laterScans, rfl⟩ := map_eq_ok_iff.mp scans
      obtain ⟨lastIn, behind⟩ := exists_passes_of_scanFrom laterScans
      rw [cut] at layout
      exact ⟨lastIn, layout.append (.token scanned behind)⟩
termination_by text.length

/-- The tokens of a text, comments left out. -/
def HasTokens (source : String) (tokens : List Token) : Prop :=
  ∃ lexemes, tokenize source = .ok lexemes ∧ lexemes.map Lexeme.token = tokens

/-- The tokens of a text are those that it is judged to have. -/
theorem hasTokens_iff_passes {source : String} {tokens : List Token} :
    HasTokens source tokens ↔ ∃ stillIn, Passes false source.toList tokens stillIn [] := by
  constructor
  · rintro ⟨lexemes, scans, rfl⟩
    exact exists_passes_of_scanFrom scans
  · rintro ⟨stillIn, passes⟩
    rw [HasTokens, tokenize, scanFrom_splitLayout]
    exact passes.exists_scanFrom _

/-- A text is read as a clause when its tokens, comments left out, are a derivation of it. -/
theorem parseClause_eq_ok_iff_passes {source : String} {clause : Clause} :
    parseClause source = .ok clause ↔
      ∃ tokens stillIn, Passes false source.toList tokens stillIn [] ∧
        IsClause BeginsApart tokens clause := by
  constructor
  · intro parses
    obtain ⟨lexemes, scans, -⟩ := bind_eq_ok_iff.mp parses
    obtain ⟨stillIn, passes⟩ := hasTokens_iff_passes.mp ⟨lexemes, scans, rfl⟩
    exact ⟨_, stillIn, passes, isClause_of_parseClause scans parses⟩
  · rintro ⟨tokens, stillIn, passes, derives⟩
    obtain ⟨lexemes, scans, rfl⟩ := hasTokens_iff_passes.mpr ⟨stillIn, passes⟩
    exact parseClause_of_isClause scans derives

/-- A text has its tokens only once. -/
theorem Passes.tokens_unique {otherIn : Bool} (passes : Passes false text tokens stillIn [])
    (others : Passes false text later otherIn []) : tokens = later := by
  rw [← @String.toList_ofList text] at passes others
  obtain ⟨lexemes, scans, rfl⟩ := hasTokens_iff_passes.mpr ⟨stillIn, passes⟩
  obtain ⟨otherLexemes, otherScans, rfl⟩ := hasTokens_iff_passes.mpr ⟨otherIn, others⟩
  rw [Except.ok.inj (scans.symm.trans otherScans)]

/-! ## Blanks around a text -/

/-- Blank text has no tokens, and no comment begins in it. -/
theorem Passes.of_allBlank (passes : Passes inComment text tokens stillIn [])
    (blank : AllBlank text) : tokens = [] ∧ (stillIn = true → inComment = true) := by
  generalize nothing : ([] : List Char) = rest at passes
  induction passes with
  | done => exact ⟨rfl, id⟩
  | blank _ _ inductionHypothesis =>
    exact inductionHypothesis (List.forall_mem_cons.mp blank).2 nothing
  | opens => exact absurd (blank '%' List.mem_cons_self) (by decide)
  | inside _ _ inductionHypothesis | lineEnd _ inductionHypothesis =>
    exact ⟨(inductionHypothesis (List.forall_mem_cons.mp blank).2 nothing).1, fun _ => rfl⟩
  | @token text _ _ _ _ _ scanned =>
    cases text with
    | nil => cases scanned
    | cons character text =>
      have isBlank := blank character List.mem_cons_self
      rw [not_isBlank_of_scanToken? scanned] at isBlank
      cases isBlank

/-- Blanks in front of a text play no part in its tokens. -/
theorem Passes.of_blank_append {left : List Char} (blank : AllBlank left)
    (passes : Passes false (left ++ text) tokens stillIn []) :
    Passes false text tokens stillIn [] := by
  induction left with
  | nil => exact passes
  | cons character left inductionHypothesis =>
    obtain ⟨isBlank, others⟩ := List.forall_mem_cons.mp blank
    cases passes with
    | blank _ later => exact inductionHypothesis others later
    | opens => exact absurd isBlank (by decide)
    | token scanned _ =>
      rw [not_isBlank_of_scanToken? scanned] at isBlank
      cases isBlank

/-- Blanks behind a text play no part in its tokens. A comment that is open behind them was open
before. -/
theorem Passes.of_append_blank {inComment stillIn : Bool} {text right : List Char}
    {tokens : List Token} (blank : AllBlank right)
    (passes : Passes inComment (text ++ right) tokens stillIn []) :
    ∃ lastIn, Passes inComment text tokens lastIn [] ∧ (stillIn = true → lastIn = true) := by
  cases text with
  | nil =>
    obtain ⟨rfl, before⟩ := passes.of_allBlank blank
    exact ⟨inComment, .done, before⟩
  | cons character text =>
    cases passes with
    | blank layout later =>
      exact (later.of_append_blank blank).imp fun _ => .imp_left (.blank layout)
    | opens later => exact (later.of_append_blank blank).imp fun _ => .imp_left .opens
    | inside sameLine later =>
      exact (later.of_append_blank blank).imp fun _ => .imp_left (.inside sameLine)
    | lineEnd later => exact (later.of_append_blank blank).imp fun _ => .imp_left .lineEnd
    | token scanned later =>
      obtain ⟨behind, -, rfl⟩ := exists_within_of_scanToken? blank scanned
      have within := scanToken?_of_append scanned
      have shorter := (scanToken?_eq_some within).2
      exact (Passes.of_append_blank blank later).imp fun _ => .imp_left (.token within)
termination_by text.length

/-- A text has its tokens without the blanks around it. -/
theorem Passes.exists_trim (passes : Passes false text tokens stillIn []) :
    ∃ lastIn, Passes false (trim text) tokens lastIn [] ∧ (stillIn = true → lastIn = true) := by
  obtain ⟨left, right, whole, leftBlank, rightBlank⟩ := exists_blank_trim text
  rw [whole] at passes
  obtain ⟨lastIn, within, still⟩ := passes.of_append_blank rightBlank
  exact ⟨lastIn, within.of_blank_append leftBlank, still⟩

/-! ## The end of a text -/

/-- A text ends with its last token, with layout or inside of a comment. -/
theorem Passes.last_of_outside {inComment : Bool} {text : List Char} {last : Char}
    {tokens : List Token} (passes : Passes inComment text tokens false [])
    (ends : text.getLast? = some last) :
    isLayoutCharacter last = true ∨
      ∃ token, tokens.getLast? = some token ∧ token.spelling.toList.getLast? = some last := by
  cases text with
  | nil => cases ends
  | cons character text =>
    have behind : text = [] ∧ character = last ∨ text.getLast? = some last := by
      cases text with
      | nil => exact .inl ⟨rfl, Option.some.inj ends⟩
      | cons => exact .inr (List.getLast?_cons_cons ▸ ends)
    cases passes with
    | blank layout later =>
      rcases behind with ⟨-, rfl⟩ | behind
      · exact .inl layout
      · exact later.last_of_outside behind
    | opens later | inside _ later =>
      rcases behind with ⟨rfl, -⟩ | behind
      · cases later
      · exact later.last_of_outside behind
    | lineEnd later =>
      rcases behind with ⟨-, rfl⟩ | behind
      · exact .inl rfl
      · exact later.last_of_outside behind
    | @token _ after token _ _ _ scanned later =>
      obtain ⟨whole, shorter⟩ := scanToken?_eq_some scanned
      rw [whole] at ends
      cases after with
      | nil =>
        obtain ⟨rfl, -⟩ := later.of_allBlank fun _ inside => nomatch inside
        exact .inr ⟨token, rfl, by rwa [List.append_nil] at ends⟩
      | cons first after =>
        rw [List.getLast?_append_of_ne_nil _ (List.cons_ne_nil first after)] at ends
        refine (later.last_of_outside ends).imp_right ?_
        rintro ⟨other, isLast, spelled⟩
        exact ⟨other, by rw [List.getLast?_cons, isLast]; rfl, spelled⟩
termination_by text.length

/-- A stop at the end of a text is its last token, unless it stands inside of a comment. -/
theorem Passes.of_append_stop {inComment stillIn : Bool} {text : List Char} {tokens : List Token}
    (passes : Passes inComment (text ++ ['.']) tokens stillIn []) :
    Passes inComment text tokens true [] ∨
      ∃ front, tokens = front ++ [.stop] ∧ Passes inComment text front false [] := by
  -- By recursion on the text. In front of the last character both texts are passed in the same way.
  cases text with
  | nil =>
    cases passes with
    | blank layout => cases layout
    | inside _ later =>
      obtain ⟨rfl, -⟩ := later.of_allBlank fun _ inside => nomatch inside
      exact .inl .done
    | token scanned later =>
      obtain ⟨rfl, rfl⟩ := Prod.mk.inj (Option.some.inj scanned)
      obtain ⟨rfl, -⟩ := later.of_allBlank fun _ inside => nomatch inside
      exact .inr ⟨[], rfl, .done⟩
  | cons character text =>
    cases passes with
    | blank layout later =>
      exact later.of_append_stop.imp (.blank layout) fun ⟨front, same, within⟩ =>
        ⟨front, same, .blank layout within⟩
    | opens later =>
      exact later.of_append_stop.imp .opens fun ⟨front, same, within⟩ =>
        ⟨front, same, .opens within⟩
    | inside sameLine later =>
      exact later.of_append_stop.imp (.inside sameLine) fun ⟨front, same, within⟩ =>
        ⟨front, same, .inside sameLine within⟩
    | lineEnd later =>
      exact later.of_append_stop.imp .lineEnd fun ⟨front, same, within⟩ =>
        ⟨front, same, .lineEnd within⟩
    | @token _ after token _ _ _ scanned later =>
      have whole := (scanToken?_eq_some scanned).1
      rcases List.eq_nil_or_concat after with rfl | ⟨behind, last, rfl⟩
      · -- The token would be longer than the stop, and no such token ends with a point.
        rw [List.append_nil] at whole
        have shape := mem_pattern_of_scanToken? scanned
        rw [← whole] at shape
        have alone := (last_of_mem_pattern shape '.' List.getLast?_concat).2 rfl
        simp at alone
      · rw [List.concat_eq_append, ← List.append_assoc] at whole
        obtain ⟨-, ends⟩ := List.append_inj' whole rfl
        obtain rfl := (List.cons.inj ends).1
        rw [List.concat_eq_append] at scanned later
        have within := scanToken?_of_append scanned
        have shorter := (scanToken?_eq_some within).2
        exact (Passes.of_append_stop later).imp (.token within) fun ⟨front, same, inFront⟩ =>
          ⟨token :: front, congrArg (token :: ·) same, .token within inFront⟩
termination_by text.length

/-! ## Texts without line ends -/

/-- A comment goes on up to a line end. -/
theorem Passes.of_inComment (passes : Passes true text tokens stillIn []) (oneLine : '\n' ∉ text) :
    tokens = [] ∧ stillIn = true := by
  generalize nothing : ([] : List Char) = rest at passes
  generalize inside : true = inComment at passes
  induction passes with
  | done => exact ⟨rfl, rfl⟩
  | inside _ _ inductionHypothesis =>
    exact inductionHypothesis (mt (List.mem_cons_of_mem _) oneLine) nothing rfl
  | lineEnd => exact absurd List.mem_cons_self oneLine
  | blank | opens | token => cases inside

/-- The tokens of one line stand in front of its comment, if there is one. -/
theorem Passes.scans_or_comment (passes : Passes false text tokens stillIn [])
    (oneLine : '\n' ∉ text) :
    stillIn = false ∧ Scans text tokens [] ∨
      stillIn = true ∧
        ∃ code comment, text = code ++ '%' :: comment ∧ Scans code tokens [] := by
  generalize nothing : ([] : List Char) = rest at passes
  generalize outside : false = inComment at passes
  induction passes with
  | done =>
    subst nothing
    exact .inl ⟨rfl, .done⟩
  | blank layout _ inductionHypothesis =>
    rcases inductionHypothesis (mt (List.mem_cons_of_mem _) oneLine) nothing rfl with
      ⟨ends, judged⟩ | ⟨ends, code, comment, rfl, judged⟩
    · exact .inl ⟨ends, .blank layout judged⟩
    · exact .inr ⟨ends, _ :: code, comment, rfl, .blank layout judged⟩
  | opens later =>
    subst nothing
    obtain ⟨rfl, rfl⟩ := later.of_inComment (mt (List.mem_cons_of_mem _) oneLine)
    exact .inr ⟨rfl, [], _, rfl, .done⟩
  | @token text after token _ _ _ scanned _ inductionHypothesis =>
    obtain ⟨rfl, -⟩ := scanToken?_eq_some scanned
    rcases inductionHypothesis (mt (List.mem_append_right _) oneLine) nothing rfl with
      ⟨ends, judged⟩ | ⟨ends, code, comment, rfl, judged⟩
    · exact .inl ⟨ends, .token scanned judged⟩
    · rw [← List.append_assoc] at scanned ⊢
      exact .inr ⟨ends, _, comment, rfl, .token (scanToken?_of_append scanned) judged⟩
  | inside | lineEnd => cases outside

/-- A text has its tokens in front of a line end, and the tokens behind it begin anew. -/
theorem Passes.append_line {otherIn : Bool} (passes : Passes inComment text tokens stillIn [])
    (behind : Passes false more later otherIn []) :
    Passes inComment (text ++ '\n' :: more) (tokens ++ later) otherIn [] := by
  have inFront := passes.inFrontOf (endsTokens_line more)
  cases stillIn with
  | true => exact inFront.append (.lineEnd behind)
  | false => exact inFront.append (.blank rfl behind)

end Statute.Logic
