import Statute.Proofs.Logic.HeadName

/-!
# Words of a text and its tokens

Where the spelling of a token stands in a text, and when it stands there as a whole word. A tolerant
reading of rule texts finds words by their neighbours and the body by the last neck; both agree with
the tokens of a text in which nothing is quoted and no comment stands.
-/

namespace Statute.Logic

open Text

/-! ## Runs of characters -/

/-- A word that stands in a text and that its neighbours there do not extend. -/
def StandsApart (keep : Char → Bool) (word text : List Char) : Prop :=
  ∃ before after, text = before ++ word ++ after ∧
    (∀ character ∈ before.getLast?, keep character = false) ∧
    ∀ character ∈ after.head?, keep character = false

/-- What is extended by fewer characters stands apart as well. -/
theorem StandsApart.mono {keep narrower : Char → Bool} {word text : List Char}
    (apart : StandsApart keep word text)
    (narrow : ∀ character, keep character = false → narrower character = false) :
    StandsApart narrower word text := by
  obtain ⟨before, after, whole, front, back⟩ := apart
  exact ⟨before, after, whole, fun character member => narrow _ (front character member),
    fun character member => narrow _ (back character member)⟩

/-- A text ends in another kind when its last part does, or when that is empty and the part before
it ends so. -/
theorem ends_append {keep : Char → Bool} {front back : List Char}
    (left : ∀ character ∈ front.getLast?, keep character = false)
    (right : ∀ character ∈ back.getLast?, keep character = false) :
    ∀ character ∈ (front ++ back).getLast?, keep character = false := by
  intro character member
  rw [List.getLast?_append] at member
  cases last : back.getLast? with
  | none =>
    rw [last, Option.none_or] at member
    exact left character member
  | some found =>
    rw [last, Option.some_or] at member
    exact right character (last ▸ member)

/-- A word still stands apart behind a text that does not end in its kind. -/
theorem StandsApart.behind {keep : Char → Bool} {word text : List Char}
    (apart : StandsApart keep word text) {front : List Char}
    (ends : ∀ character ∈ front.getLast?, keep character = false) :
    StandsApart keep word (front ++ text) := by
  obtain ⟨before, after, rfl, left, right⟩ := apart
  exact ⟨front ++ before, after, by simp only [List.append_assoc], ends_append ends left, right⟩

/-- A text that is cut at all characters of other kinds has its words as pieces. -/
theorem StandsApart.mem_splitOnP {keep : Char → Bool} {word text : List Char}
    (apart : StandsApart keep word text)
    (kept : ∀ character ∈ word, keep character = true) :
    word ∈ text.splitOnP fun character => !keep character := by
  obtain ⟨before, after, rfl, left, right⟩ := apart
  have uncut : ∀ character ∈ word, (!keep character) = false := by simpa using kept
  have first : word ∈ (word ++ after).splitOnP fun character => !keep character := by
    cases after with
    | nil => rw [List.append_nil, List.splitOnP_eq_singleton uncut, List.mem_singleton]
    | cons sign after =>
      have cut : (!keep sign) = true := by simpa using right sign rfl
      rw [List.splitOnP_append_cons_of_forall_mem uncut sign cut]
      exact List.mem_cons_self
  rcases List.eq_nil_or_concat before with rfl | ⟨front, sign, rfl⟩
  · exact first
  · have cut : (!keep sign) = true := by simpa using left sign (by simp)
    rw [List.concat_eq_append, List.append_assoc, List.append_assoc, List.singleton_append,
      List.splitOnP_append_cons (p := fun character => !keep character) _ _ cut]
    exact List.mem_append_right _ first

namespace Outline

/-- The runs of predicate characters are the pieces between all other characters. -/
theorem predicateRuns_eq (text : List Char) :
    predicateRuns text =
      (text.splitOnP fun character => !isPredicateCharacter character).filter (!·.isEmpty) := by
  induction text with
  | nil => rfl
  | cons character rest inductionHypothesis =>
    rw [List.splitOnP_cons_eq_if_modifyHead, predicateRuns.eq_def]
    cases kept : isPredicateCharacter character with
    | false => simp [kept, inductionHypothesis]
    | true =>
      simp only [kept, if_true, Bool.not_true, Bool.false_eq_true, if_false]
      cases rest with
      | nil => simp [predicateRuns]
      | cons next rest =>
        rw [inductionHypothesis, List.splitOnP_cons_eq_if_modifyHead]
        cases nextKept : isPredicateCharacter next with
        | false =>
          simp only [Bool.not_false, if_true, List.modifyHead_cons]
          rw [List.filter_cons_of_neg (by simp), List.filter_cons_of_pos (by simp)]
          split <;> simp_all
        | true =>
          obtain ⟨run, runs, pieces⟩ := List.exists_cons_of_ne_nil
            (List.splitOnP_ne_nil (fun character => !isPredicateCharacter character) rest)
          simp [pieces, nextKept]

/-- Runs that stand apart are found. -/
theorem mem_predicateRuns {word text : List Char}
    (apart : StandsApart isPredicateCharacter word text)
    (kept : ∀ character ∈ word, isPredicateCharacter character = true) (nonempty : word ≠ []) :
    word ∈ predicateRuns text := by
  rw [predicateRuns_eq]
  exact List.mem_filter.mpr ⟨apart.mem_splitOnP kept, by simpa using nonempty⟩

end Outline

/-! ## The neck -/

/-- A pattern that is absent from a text has no last place there. -/
theorem splitLast_eq_none {pattern text : List Char} (nonempty : pattern ≠ [])
    (absent : ¬ pattern <:+: text) : splitLast pattern text = none := by
  induction text with
  | nil => simp [splitLast, nonempty]
  | cons character rest inductionHypothesis =>
    rw [List.infix_cons_iff, not_or] at absent
    obtain ⟨notHere, notLater⟩ := absent
    rw [splitLast, inductionHypothesis notLater, Option.map_eq_none_iff,
      Option.eq_none_iff_forall_ne_some]
    intro after found
    exact notHere ⟨after, (isPrefixOf?_eq_some_iff.mp found).symm⟩

/-- The last place of a pattern is the one behind which it is absent. -/
theorem splitLast_append {pattern before after : List Char} (nonempty : pattern ≠ [])
    (absent : splitLast pattern (pattern.tail ++ after) = none) :
    splitLast pattern (before ++ (pattern ++ after)) = some (before, after) := by
  induction before with
  | nil =>
    obtain ⟨first, others, rfl⟩ := List.exists_cons_of_ne_nil nonempty
    have here : (first :: others).isPrefixOf? (first :: others ++ after) = some after :=
      isPrefixOf?_eq_some_iff.mpr rfl
    rw [List.tail_cons] at absent
    rw [List.nil_append, List.cons_append, splitLast, absent, ← List.cons_append, here]
    rfl
  | cons character before inductionHypothesis =>
    rw [List.cons_append, splitLast, inductionHypothesis]

/-! ## Places of tokens -/

/-- Layout in front of a text moves its tokens. -/
theorem Scans.behind_layout {layout text rest : List Char} {tokens : List Token}
    (blank : ∀ character ∈ layout, isLayoutCharacter character = true)
    (judged : Scans text tokens rest) : Scans (layout ++ text) tokens rest := by
  induction layout with
  | nil => exact judged
  | cons character layout inductionHypothesis =>
    obtain ⟨first, others⟩ := List.forall_mem_cons.mp blank
    exact .blank first (inductionHypothesis others)

/-- Without comments all layout is blank. -/
theorem isLayoutCharacter_of_splitLayout {text : List Char} (noComment : '%' ∉ text) :
    ∀ character ∈ (splitLayout false text).1, isLayoutCharacter character = true := by
  induction text with
  | nil => exact List.forall_mem_nil _
  | cons character rest inductionHypothesis =>
    rw [List.mem_cons, not_or] at noComment
    have apart : character ≠ '%' := Ne.symm noComment.1
    simp only [splitLayout, apart, decide_false, Bool.or_false]
    split
    next layout => exact List.forall_mem_cons.mpr ⟨layout, inductionHypothesis noComment.2⟩
    next => exact List.forall_mem_nil _

/-- The tokens of a text without comments are judged to be there. -/
theorem scans_of_scanFrom {offset : Nat} {text : List Char} {lexemes : List Lexeme}
    (noComment : '%' ∉ text) (scans : Logic.scanFrom offset text = .ok lexemes) :
    Scans text (lexemes.map Lexeme.token) [] := by
  have whole := splitLayout_append false text
  have blank := isLayoutCharacter_of_splitLayout noComment
  rw [scanFrom_eq] at scans
  rw [← whole]
  split at scans
  next cut =>
    obtain rfl := Except.ok.inj scans
    rw [cut]
    exact .behind_layout blank .done
  next first rest cut =>
    dsimp only at scans
    split at scans
    next => cases scans
    next token after scanned =>
      have spelled := (scanToken?_eq_some scanned).1
      have shorter := length_lt_of_cut cut scanned
      have noLaterComment : '%' ∉ after := by
        intro member
        apply noComment
        rw [← whole, cut, spelled]
        exact List.mem_append_right _ (List.mem_append_right _ member)
      obtain ⟨later, laterScans, rfl⟩ := map_eq_ok_iff.mp scans
      rw [cut]
      exact .behind_layout blank (.token scanned (scans_of_scanFrom noLaterComment laterScans))
termination_by text.length

/-- A judgment is one about its first tokens and one about those behind them. -/
theorem Scans.split {text rest : List Char} {first second : List Token}
    (judged : Scans text (first ++ second) rest) :
    ∃ middle, Scans text first middle ∧ Scans middle second rest := by
  generalize whole : first ++ second = tokens at judged
  induction judged generalizing first with
  | done =>
    obtain ⟨rfl, rfl⟩ := List.append_eq_nil_iff.mp whole
    exact ⟨_, .done, .done⟩
  | blank layout _ inductionHypothesis =>
    obtain ⟨middle, before, behind⟩ := inductionHypothesis whole
    exact ⟨middle, .blank layout before, behind⟩
  | @token text after token tokens rest scanned later inductionHypothesis =>
    cases first with
    | nil =>
      rw [List.nil_append] at whole
      exact ⟨text, .done, whole ▸ .token scanned later⟩
    | cons other first =>
      obtain ⟨rfl, rfl⟩ := List.cons.inj whole
      obtain ⟨middle, before, behind⟩ := inductionHypothesis rfl
      exact ⟨middle, .token scanned before, behind⟩

/-- Where no token is judged, only layout is passed. -/
theorem Scans.exists_layout {text rest : List Char} (judged : Scans text [] rest) :
    ∃ layout, text = layout ++ rest ∧
      ∀ character ∈ layout, isLayoutCharacter character = true := by
  generalize none : ([] : List Token) = tokens at judged
  induction judged with
  | done => exact ⟨[], rfl, List.forall_mem_nil _⟩
  | @blank character text tokens rest layout later inductionHypothesis =>
    obtain ⟨others, rfl, blank⟩ := inductionHypothesis none
    exact ⟨character :: others, rfl, List.forall_mem_cons.mpr ⟨layout, blank⟩⟩
  | token => cases none

/-- The first token that is judged is spelled behind layout. -/
theorem Scans.exists_place {text rest : List Char} {token : Token} {tokens : List Token}
    (judged : Scans text (token :: tokens) rest) :
    ∃ layout after, text = layout ++ (token.spelling.toList ++ after) ∧
      (∀ character ∈ layout, isLayoutCharacter character = true) ∧
      scanToken? (token.spelling.toList ++ after) = some (token, after) ∧
      Scans after tokens rest := by
  generalize whole : token :: tokens = all at judged
  induction judged with
  | done => cases whole
  | @blank character text all rest layout later inductionHypothesis =>
    obtain ⟨others, after, rfl, blank, scanned, behind⟩ := inductionHypothesis whole
    exact ⟨character :: others, after, rfl, List.forall_mem_cons.mpr ⟨layout, blank⟩, scanned,
      behind⟩
  | @token text after found all rest scanned later inductionHypothesis =>
    obtain ⟨rfl, rfl⟩ := List.cons.inj whole
    obtain ⟨spelled, -⟩ := scanToken?_eq_some scanned
    exact ⟨[], after, spelled, List.forall_mem_nil _, spelled ▸ scanned, later⟩

/-- What follows the tokens stands at the end of the text. -/
theorem Scans.isSuffix {text rest : List Char} {tokens : List Token}
    (judged : Scans text tokens rest) : rest <:+ text := by
  induction judged with
  | done => exact List.suffix_refl _
  | blank _ _ inductionHypothesis => exact inductionHypothesis.trans (List.suffix_cons _ _)
  | token scanned _ inductionHypothesis =>
    exact inductionHypothesis.trans ⟨_, (scanToken?_eq_some scanned).1.symm⟩

/-! ## Names behind signs -/

/-- Tokens behind which a goal begins. Each of them ends with a sign. -/
def Token.opensGoal : Token → Bool
  | .neck | .comma | .semicolon | .openParen | .notProvable => true
  | _ => false

/-- A sign behind which a goal begins ends a name, whatever stands in front of it. -/
theorem Token.ends_of_opensGoal {sign : Token} (opens : sign.opensGoal = true) (front : List Char) :
    ∀ character ∈ (front ++ sign.spelling.toList).getLast?, isNameCharacter character = false := by
  have ends : ∃ others last, sign.spelling.toList = others ++ [last] ∧
      isNameCharacter last = false := by
    cases sign with
    | neck => exact ⟨[':'], '-', rfl, by decide⟩
    | comma => exact ⟨[], ',', rfl, by decide⟩
    | semicolon => exact ⟨[], ';', rfl, by decide⟩
    | openParen => exact ⟨[], '(', rfl, by decide⟩
    | notProvable => exact ⟨['\\'], '+', rfl, by decide⟩
    | _ => cases opens
  obtain ⟨others, last, spelled, notName⟩ := ends
  intro character member
  rw [spelled, ← List.append_assoc, List.getLast?_concat] at member
  obtain rfl := Option.some.inj member
  exact notName

/-- Blanks extend no name. -/
theorem not_isNameCharacter_of_layout {character : Char}
    (layout : isLayoutCharacter character = true) : isNameCharacter character = false := by
  simpa using of_isLayoutCharacter layout (fun blank => !isNameCharacter blank) (by decide)

/-- Layout ends no name. -/
theorem layout_ends {layout : List Char}
    (blank : ∀ character ∈ layout, isLayoutCharacter character = true) :
    ∀ character ∈ layout.getLast?, isNameCharacter character = false :=
  fun character member =>
    not_isNameCharacter_of_layout (blank character (List.mem_of_getLast? member))

/-- An atom is a word that begins with a lower-case letter and that nothing extends behind it. -/
theorem atom_of_scanToken? {text after : List Char} {name : String}
    (scanned : scanToken? text = some (.atom name, after)) :
    name.toList.head?.any isLowerLetter = true ∧
      (∀ character ∈ name.toList, isNameCharacter character = true) ∧
      ∀ character ∈ after.head?, isNameCharacter character = false := by
  have lower : name.toList.head?.any isLowerLetter = true := isSpelled_of_scanToken? scanned
  obtain ⟨first, begins, firstLower⟩ := (Option.any_eq_true _ _).mp lower
  obtain ⟨others, shape⟩ := List.head?_eq_some_iff.mp begins
  obtain ⟨rfl, -⟩ := scanToken?_eq_some scanned
  rw [Token.spelling, shape, List.cons_append, scanToken?_of_lower firstLower] at scanned
  obtain ⟨same, rest⟩ := Prod.mk.inj (Option.some.inj scanned)
  refine ⟨lower, ?_, ?_⟩
  · rw [← Token.atom.inj same, String.toList_ofList]
    exact List.all_eq_true.mp List.all_takeWhile
  · intro character member
    have ends := List.head?_dropWhile_not isNameCharacter (first :: (others ++ after))
    rw [rest, Option.mem_def.mp member] at ends
    exact ends

/-- A name that is judged at the beginning or behind a sign stands apart in the text. -/
theorem standsApart_of_scans {text rest : List Char} {before after : List Token} {name : String}
    (judged : Scans text (before ++ .atom name :: after) rest)
    (signs : ∀ sign ∈ before.getLast?, sign.opensGoal = true) :
    StandsApart isNameCharacter name.toList text := by
  obtain ⟨middle, front, back⟩ := judged.split
  obtain ⟨layout, behind, rfl, blank, scanned, -⟩ := back.exists_place
  have ends := (atom_of_scanToken? scanned).2.2
  have name : StandsApart isNameCharacter name.toList (layout ++ (name.toList ++ behind)) :=
    ⟨layout, behind, (List.append_assoc _ _ _).symm, layout_ends blank, ends⟩
  rcases List.eq_nil_or_concat before with rfl | ⟨others, sign, rfl⟩
  · obtain ⟨further, rfl, furtherBlank⟩ := front.exists_layout
    exact name.behind (layout_ends furtherBlank)
  · rw [List.concat_eq_append] at front signs
    obtain ⟨place, earlierJudged, signJudged⟩ := front.split
    obtain ⟨earlier, rfl⟩ := earlierJudged.isSuffix
    obtain ⟨signLayout, signBehind, rfl, -, -, nothing⟩ := signJudged.exists_place
    obtain ⟨further, rfl, furtherBlank⟩ := nothing.exists_layout
    have opens : sign.opensGoal = true := signs sign (by simp)
    have apart := (name.behind (layout_ends furtherBlank)).behind
      (Token.ends_of_opensGoal opens (earlier ++ signLayout))
    simp only [List.append_assoc] at apart
    exact apart

/-! ## Bodies without a neck -/

/-- Numbers are spelled with digits and a point. -/
theorem of_mem_splitNumber {text : List Char} {character : Char}
    (member : character ∈ (splitNumber text).1) : isDigit character = true ∨ character = '.' := by
  have digit {text : List Char} (inside : character ∈ text.takeWhile isDigit) :
      isDigit character = true := List.all_eq_true.mp List.all_takeWhile character inside
  rw [splitNumber] at member
  split at member
  next next rest cut =>
    split at member
    next =>
      rcases List.mem_append.mp member with inside | behind
      · exact .inl (digit inside)
      · rcases List.mem_cons.mp behind with point | inside
        · exact .inr point
        · exact .inl (digit inside)
    next => exact .inl (digit member)
  next => exact .inl (digit member)

/-- Words are spelled with characters of names and points. -/
theorem no_colon_of_scanWord? {text after : List Char} {token : Token}
    (scanned : scanWord? text = some (token, after)) : ':' ∉ token.spelling.toList := by
  have notName : isNameCharacter ':' = false := by decide
  intro colon
  cases text with
  | nil => cases scanned
  | cons first rest =>
    have apart : ':' ∉ (first :: rest).takeWhile isNameCharacter := by
      intro inside
      rw [List.all_eq_true.mp List.all_takeWhile _ inside] at notName
      cases notName
    simp only [scanWord?] at scanned
    split at scanned
    next =>
      obtain ⟨rfl, -⟩ := Prod.mk.inj (Option.some.inj scanned)
      rw [Token.spelling, String.toList_ofList] at colon
      exact apart colon
    next =>
      split at scanned
      next =>
        obtain ⟨rfl, -⟩ := Prod.mk.inj (Option.some.inj scanned)
        rw [Token.spelling, String.toList_ofList] at colon
        exact apart colon
      next =>
        split at scanned
        next =>
          obtain ⟨rfl, -⟩ := Prod.mk.inj (Option.some.inj scanned)
          rw [Token.spelling, String.toList_ofList] at colon
          rcases of_mem_splitNumber colon with digit | point
          · exact absurd digit (by decide)
          · exact absurd point (by decide)
        next => cases scanned

/-- A colon is spelled by a neck, by the comparison `=:=` or between quotation marks. -/
theorem colon_of_scanToken? {text after : List Char} {token : Token}
    (scanned : scanToken? text = some (token, after)) (colon : ':' ∈ token.spelling.toList)
    (unquoted : '\'' ∉ text ∧ '"' ∉ text) : token = .neck ∨ token = .operator "=:=" := by
  unfold scanToken? at scanned
  split at scanned
  case h_1 =>
    obtain ⟨rfl, -⟩ := Prod.mk.inj (Option.some.inj scanned)
    exact .inl rfl
  case h_11 => exact absurd List.mem_cons_self unquoted.1
  case h_12 => exact absurd List.mem_cons_self unquoted.2
  case h_13 =>
    rcases Option.or_eq_some_iff.mp scanned with operator | ⟨-, word⟩
    · obtain ⟨spelling, listed, found⟩ := List.exists_of_findSome?_eq_some operator
      obtain ⟨rest, -, same⟩ := Option.map_eq_some_iff.mp found
      obtain ⟨rfl, -⟩ := Prod.mk.inj same
      have every : ∀ known ∈ operatorSpellings, ':' ∈ known.toList → known = "=:=" := by decide
      exact .inr (congrArg Token.operator (every spelling listed colon))
    · exact absurd colon (no_colon_of_scanWord? word)
  all_goals
    obtain ⟨rfl, -⟩ := Prod.mk.inj (Option.some.inj scanned)
    exact absurd colon (by decide)

/-- A pattern that begins with a colon does not begin in a text without one. -/
theorem infix_of_no_colon {front rest : List Char} (noColon : ':' ∉ front)
    (present : Outline.neckText <:+: front ++ rest) : Outline.neckText <:+: rest := by
  induction front with
  | nil => exact present
  | cons character front inductionHypothesis =>
    rw [List.mem_cons, not_or] at noColon
    rw [List.cons_append, List.infix_cons_iff] at present
    rcases present with here | later
    · exact absurd (List.cons_prefix_cons.mp here).1 noColon.1
    · exact inductionHypothesis noColon.2 later

/-- Unquoted text that has no neck among its tokens has none in it. -/
theorem not_infix_neck_of_scans {text : List Char} {tokens : List Token}
    (judged : Scans text tokens []) (noNeck : .neck ∉ tokens)
    (unquoted : '\'' ∉ text ∧ '"' ∉ text) : ¬ Outline.neckText <:+: text := by
  generalize nothing : ([] : List Char) = rest at judged
  induction judged with
  | done =>
    subst nothing
    simp [Outline.neckText]
  | @blank character text tokens rest layout later inductionHypothesis =>
    have noColon : ':' ∉ [character] := by
      rintro (_ | ⟨_, ⟨⟩⟩)
      cases layout
    have laterUnquoted : '\'' ∉ text ∧ '"' ∉ text :=
      unquoted.imp (mt (List.mem_cons_of_mem _)) (mt (List.mem_cons_of_mem _))
    exact fun present => inductionHypothesis noNeck laterUnquoted nothing
      (infix_of_no_colon noColon present)
  | @token text after token tokens rest scanned later inductionHypothesis =>
    rw [List.mem_cons, not_or] at noNeck
    obtain ⟨spelled, -⟩ := scanToken?_eq_some scanned
    have laterUnquoted : '\'' ∉ after ∧ '"' ∉ after := by
      rw [spelled] at unquoted
      exact unquoted.imp (mt (List.mem_append_right _)) (mt (List.mem_append_right _))
    have absent := inductionHypothesis noNeck.2 laterUnquoted nothing
    intro present
    by_cases colon : ':' ∈ token.spelling.toList
    · rcases colon_of_scanToken? scanned colon unquoted with rfl | rfl
      · exact noNeck.1 rfl
      · -- The colon of `=:=` has an equals sign behind it.
        have equals : ':' ∉ ['='] := by decide
        rw [spelled] at present
        have fromColon : Outline.neckText <:+: ':' :: ['='] ++ after :=
          infix_of_no_colon equals present
        rcases List.infix_cons_iff.mp fromColon with here | behindColon
        · exact absurd (List.cons_prefix_cons.mp (List.cons_prefix_cons.mp here).2).1 (by decide)
        · exact absent (infix_of_no_colon equals behindColon)
    · rw [spelled] at present
      exact absent (infix_of_no_colon colon present)

end Statute.Logic
