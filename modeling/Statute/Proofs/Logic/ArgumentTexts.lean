import Statute.Proofs.Logic.Brackets
import Statute.Proofs.Logic.ClauseTexts
import Statute.Proofs.Logic.PredicateText

/-!
# Arguments in the text of a predicate

Arguments are found in a text between the commas outside of brackets, while readers find them among
the tokens. In a text without quotations and comments brackets and commas stand only where their
tokens do. The tokens of each argument close the brackets that they open, so that the pieces of the
text are the texts of the arguments.
-/

namespace Statute.Logic

open Grammar Predicate Text

/-! ## Cutting at commas -/

/-- Cutting a text leaves one piece at least. -/
theorem splitTopLevel_ne_nil (level : Nat) (text : List Char) : splitTopLevel level text ≠ [] := by
  cases text with
  | nil => simp [splitTopLevel]
  | cons character rest =>
    rw [splitTopLevel]
    split
    · simp
    · dsimp only
      split <;> simp

/-- Characters at which a text is cut or that change how many brackets are open. -/
def isDelimiter (character : Char) : Bool :=
  [',', '(', ')', '[', ']'].contains character

/-- A text that is not cut, and that goes from one number of open brackets to another. -/
def Uncut (level after : Nat) (text : List Char) : Prop :=
  ∀ rest, splitTopLevel level (text ++ rest) = (splitTopLevel after rest).modifyHead (text ++ ·)

namespace Uncut

variable {level between after : Nat} {text later : List Char}

/-- The empty text is not cut. -/
theorem nil (level : Nat) : Uncut level level [] := by
  intro rest
  obtain ⟨piece, pieces, same⟩ := List.exists_cons_of_ne_nil (splitTopLevel_ne_nil level rest)
  rw [List.nil_append, same]
  rfl

/-- Texts that are not cut are not cut between each other either, where the second begins at the
level that the first ends at. -/
theorem append (first : Uncut level between text) (second : Uncut between after later) :
    Uncut level after (text ++ later) := by
  intro rest
  rw [List.append_assoc, first, second]
  obtain ⟨piece, pieces, same⟩ := List.exists_cons_of_ne_nil (splitTopLevel_ne_nil after rest)
  simp [same]

/-- One character that is no comma outside of brackets. -/
theorem single (character : Char) (inside : ¬ (character = ',' ∧ level = 0)) :
    Uncut level
      (if character = '(' ∨ character = '[' then level + 1
        else if character = ')' ∨ character = ']' then level - 1 else level) [character] := by
  intro rest
  rw [List.singleton_append, splitTopLevel, if_neg inside]
  dsimp only
  split
  next nothing => exact absurd nothing (splitTopLevel_ne_nil _ _)
  next piece pieces same => rw [same]; rfl

/-- Characters that are no delimiters. -/
theorem of_plain (level : Nat) (plain : text.any isDelimiter = false) : Uncut level level text := by
  induction text with
  | nil => exact .nil level
  | cons character text inductionHypothesis =>
    rw [List.any_cons, Bool.or_eq_false_iff] at plain
    obtain ⟨first, others⟩ := plain
    simp only [isDelimiter, List.contains_eq_mem, decide_eq_false_iff_not, List.mem_cons,
      List.not_mem_nil, or_false, not_or] at first
    obtain ⟨comma, openParen, closeParen, openBracket, closeBracket⟩ := first
    have notComma : ¬ (character = ',' ∧ level = 0) := fun found => comma found.1
    have here := Uncut.single character notComma
    simp only [openParen, openBracket, closeParen, closeBracket, or_self, if_false] at here
    exact here.append (inductionHypothesis others)

/-- A text outside of brackets is one piece. -/
theorem splitTopLevel_eq (uncut : Uncut 0 0 text) : splitTopLevel 0 text = [text] := by
  have whole := uncut []
  rw [List.append_nil] at whole
  rw [whole, splitTopLevel, List.modifyHead_cons, List.append_nil]

/-- A text outside of brackets is the first piece in front of a comma. -/
theorem splitTopLevel_comma (uncut : Uncut 0 0 text) (rest : List Char) :
    splitTopLevel 0 (text ++ ',' :: rest) = text :: splitTopLevel 0 rest := by
  rw [uncut, splitTopLevel]
  simp

end Uncut

/-! ## Tokens are not cut -/

/-- What extends tokens is no delimiter. -/
theorem not_isDelimiter_of_extendsToken {character : Char}
    (inside : extendsToken character = true) : isDelimiter character = false := by
  rw [Bool.eq_false_iff]
  intro delimits
  have listed : character ∈ [',', '(', ')', '[', ']'] := List.contains_iff_mem.mp delimits
  have apart : ([',', '(', ')', '[', ']'].all fun delimiter => !extendsToken delimiter) = true := by
    decide
  have outside := List.all_eq_true.mp apart character listed
  rw [inside] at outside
  cases outside

/-- An unquoted token is not cut where it may stand. -/
theorem uncut_spelling {token : Token} {level after : Nat}
    (shape : token.spelling.toList ∈ token.pattern)
    (unquoted : '\'' ∉ token.spelling.toList ∧ '"' ∉ token.spelling.toList)
    (steps : token.levelBehind? level = some after) :
    Uncut level after token.spelling.toList := by
  -- Only brackets and commas change the level or are cut at.
  have plain (same : token.levelBehind? level = some level)
      (apart : token.spelling.toList.any isDelimiter = false) :
      Uncut level after token.spelling.toList := by
    obtain rfl : level = after := Option.some.inj (same.symm.trans steps)
    exact .of_plain level apart
  -- A word goes on with characters that extend tokens, and delimiters do not.
  have word {first : Char} {others : List Char} (same : token.spelling.toList = first :: others)
      (named : isNameCharacter first = true) :
      token.spelling.toList.any isDelimiter = false := by
    rw [same] at shape unquoted ⊢
    have begins := extendsToken_of_mem_pattern shape
      ⟨(List.ne_of_not_mem_cons unquoted.1).symm, (List.ne_of_not_mem_cons unquoted.2).symm⟩
    have all : ∀ character ∈ first :: others, extendsToken character = true :=
      List.forall_mem_cons.mpr ⟨extendsToken_of_isNameCharacter named, begins⟩
    rw [List.any_eq_false]
    intro character member
    rw [not_isDelimiter_of_extendsToken (all character member)]
    exact Bool.false_ne_true
  cases token with
  | openParen =>
    obtain rfl := Option.some.inj steps
    exact .single '(' (by simp)
  | openBracket =>
    obtain rfl := Option.some.inj steps
    exact .single '[' (by simp)
  | closeParen =>
    cases level with
    | zero => cases steps
    | succ level =>
      obtain rfl := Option.some.inj steps
      exact .single ')' (by simp)
  | closeBracket =>
    cases level with
    | zero => cases steps
    | succ level =>
      obtain rfl := Option.some.inj steps
      exact .single ']' (by simp)
  | comma =>
    cases level with
    | zero => cases steps
    | succ level =>
      obtain rfl := Option.some.inj steps
      exact .single ',' (by simp)
  | operator spelling =>
    obtain ⟨known, listed, same⟩ := shape
    have every : ∀ known ∈ operatorTexts, known.toList.any isDelimiter = false := by decide
    exact plain rfl (same ▸ every known listed)
  | atom spelling =>
    obtain ⟨first, others, same, lower, -⟩ := mem_oneOf_mul_kstar_iff.mp shape
    exact plain rfl (word same (isNameCharacter_of_isLowerLetter lower))
  | var spelling =>
    obtain ⟨first, others, same, upper, -⟩ := mem_oneOf_mul_kstar_iff.mp shape
    exact plain rfl (word same (isNameCharacter_of_startsVariable upper))
  | number spelling =>
    obtain ⟨first, others, same, digit⟩ := exists_digit_of_mem_number shape
    exact plain rfl (word same (isNameCharacter_of_isDigit digit))
  | quotedAtom spelling =>
    obtain ⟨inside, -, same⟩ := mem_quotation_iff.mp shape
    exact absurd (same ▸ List.mem_cons_self) unquoted.1
  | string spelling =>
    obtain ⟨inside, -, same⟩ := mem_quotation_iff.mp shape
    exact absurd (same ▸ List.mem_cons_self) unquoted.2
  | _ => exact plain rfl (by decide)

/-- Unquoted text is not cut when its tokens leave no comma outside of brackets. -/
theorem Scans.uncut {text : List Char} {tokens : List Token} {level after : Nat}
    (judged : Scans text tokens []) (unquoted : '\'' ∉ text ∧ '"' ∉ text)
    (levels : levelBehind? tokens level = some after) : Uncut level after text := by
  generalize nothing : ([] : List Char) = rest at judged
  induction judged generalizing level with
  | done =>
    obtain rfl := Option.some.inj levels
    exact nothing ▸ .nil level
  | @blank character text tokens rest layout later inductionHypothesis =>
    have apart : [character].any isDelimiter = false := by
      simpa using of_isLayoutCharacter layout (fun blank => !isDelimiter blank) (by decide)
    have laterUnquoted : '\'' ∉ text ∧ '"' ∉ text :=
      unquoted.imp (mt (List.mem_cons_of_mem _)) (mt (List.mem_cons_of_mem _))
    exact (Uncut.of_plain level apart).append (inductionHypothesis laterUnquoted levels nothing)
  | @token text behind token tokens rest scanned later inductionHypothesis =>
    have shape := mem_pattern_of_scanToken? scanned
    obtain ⟨rfl, -⟩ := scanToken?_eq_some scanned
    simp only [List.mem_append, not_or] at unquoted
    obtain ⟨between, steps, levels⟩ := Option.bind_eq_some_iff.mp levels
    exact (uncut_spelling shape ⟨unquoted.1.1, unquoted.2.1⟩ steps).append
      (inductionHypothesis ⟨unquoted.1.2, unquoted.2.2⟩ levels nothing)

/-! ## Pieces of the text of arguments -/

/-- The text of arguments is cut into the texts of each. -/
theorem exists_pieces {primary : Phrase Term} (keeps : KeepsLevel primary) {tokens : List Token}
    {arguments : List Term} (derives : AreGoals primary tokens arguments) {text : List Char}
    (judged : Scans text tokens []) (unquoted : '\'' ∉ text ∧ '"' ∉ text) :
    List.Forall₂ (fun piece argument =>
      ∃ tokens, Scans piece tokens [] ∧ IsGoal primary tokens argument)
      (splitTopLevel 0 text) arguments := by
  induction derives generalizing text with
  | single only =>
    rw [(judged.uncut unquoted (keeps.goal only 0)).splitTopLevel_eq]
    exact .cons ⟨_, judged, only⟩ .nil
  | cons first _ inductionHypothesis =>
    -- The text is cut at the comma token. No comma in front of it is outside of brackets, since the
    -- tokens of an argument keep the level.
    obtain ⟨piece, others, rfl, pieceJudged, othersJudged⟩ := judged.exists_cut
    simp only [List.mem_append, not_or] at unquoted
    have uncut := pieceJudged.uncut ⟨unquoted.1.1, unquoted.2.1⟩ (keeps.goal first 0)
    have cut := uncut.splitTopLevel_comma others
    refine (congrArg (List.Forall₂ _ · _) cut).mpr (.cons ⟨_, pieceJudged, first⟩ ?_)
    exact inductionHypothesis othersJudged ⟨unquoted.1.2.2, unquoted.2.2.2⟩

/-- Characters of a text are layout, or they are spelled by one of its tokens. -/
theorem Scans.layout_or_mem {text : List Char} {tokens : List Token}
    (judged : Scans text tokens []) {character : Char} (member : character ∈ text) :
    isLayoutCharacter character = true ∨ ∃ token ∈ tokens, character ∈ token.spelling.toList := by
  generalize nothing : ([] : List Char) = rest at judged
  induction judged with
  | done =>
    subst nothing
    cases member
  | blank layout _ inductionHypothesis =>
    rcases List.mem_cons.mp member with rfl | later
    · exact .inl layout
    · exact inductionHypothesis later nothing
  | @token text after token tokens rest scanned _ inductionHypothesis =>
    rw [(scanToken?_eq_some scanned).1] at member
    rcases List.mem_append.mp member with here | later
    · exact .inr ⟨token, List.mem_cons_self, here⟩
    · rcases inductionHypothesis later nothing with layout | ⟨other, listed, spelled⟩
      · exact .inl layout
      · exact .inr ⟨other, List.mem_cons_of_mem _ listed, spelled⟩

/-- A text has no opening parenthesis when none of its tokens has. -/
theorem unopened_of_scans {text : List Char} {tokens : List Token} (judged : Scans text tokens [])
    (none : ∀ token ∈ tokens, '(' ∉ token.spelling.toList) :
    ∀ character ∈ text, (character != '(') = true := by
  intro character member
  rw [bne_iff_ne]
  rintro rfl
  rcases judged.layout_or_mem member with layout | ⟨token, listed, spelled⟩
  · cases layout
  · exact none token listed spelled

/-- A name and the layout around it have no parenthesis. -/
theorem beforeOpening_of_scans {text : List Char} {name : String}
    (judged : Scans text [.atom name] []) :
    ∀ character ∈ text, (character != '(') = true := by
  have named := (@atom_of_scans text [] [] [] name judged).2
  refine unopened_of_scans judged fun token listed spelled => ?_
  rw [List.mem_singleton.mp listed] at spelled
  exact absurd (named _ spelled) (by decide)

/-- A name has no arguments. -/
theorem arguments_of_name {text : String} {name : String}
    (judged : Scans text.toList [.atom name] []) : arguments text = .ok [] := by
  have unopened : text.toList.dropWhile (· != '(') = [] :=
    List.dropWhile_eq_nil_iff.mpr (beforeOpening_of_scans judged)
  rw [arguments, argumentList?, content?, unopened]
  rfl

/-- The arguments of a compound term stand in its text between the first and the last
parenthesis. -/
theorem exists_content {text : String} {name : String} {tokens : List Token}
    (judged : Scans text.toList (.atom name :: .openParen :: tokens ++ [.closeParen]) [])
    (nonempty : tokens ≠ []) :
    ∃ content, (∀ character ∈ content, character ∈ text.toList) ∧ Scans content tokens [] ∧
      arguments text = .ok (((splitTopLevel 0 content).map trim).map String.ofList) := by
  obtain ⟨front, inParens, whole, nameJudged, insideJudged⟩ :=
    @Scans.exists_cut _ [.atom name] _ .openParen judged
  obtain ⟨content, behind, rfl, contentJudged, nothing⟩ := insideJudged.exists_cut
  obtain ⟨layout, same, blank⟩ := nothing.exists_layout
  rw [List.append_nil] at same
  subst same
  have opened : text.toList.dropWhile (· != '(') = '(' :: (content ++ ([')'] ++ behind)) := by
    rw [whole, List.dropWhile_append_of_pos (beforeOpening_of_scans nameJudged)]
    rfl
  have closed : splitLast [')'] (content ++ ([')'] ++ behind)) = some (content, behind) :=
    splitLast_append (by decide) (splitLast_closing_of_blank fun character member =>
      isBlank_of_layout (blank character member))
  have notBlank : (trim content).isEmpty = false := by
    rw [List.isEmpty_eq_false_iff]
    intro empty
    obtain ⟨token, others, rfl⟩ := List.exists_cons_of_ne_nil nonempty
    obtain ⟨layout, after, none, -, scanned, -⟩ := contentJudged.trim.exists_place
    rw [empty] at none
    rw [(List.append_eq_nil_iff.mp none.symm).2] at scanned
    cases scanned
  refine ⟨content, fun character member => ?_, contentJudged, ?_⟩
  · rw [whole]
    simp [member]
  · rw [arguments, argumentList?, content?, opened]
    dsimp only
    rw [closed]
    simp only [Except.map, Option.map_some, argumentsOfContent, notBlank, Bool.false_eq_true,
      if_false, Option.getD_some]

/-! ## Arguments and terms -/

/-- The arguments of a term; only compound terms have any. -/
def Term.arguments : Term → List Term
  | compound _ arguments => arguments
  | _ => []

/-- The text of an argument is read as the argument of another term. -/
theorem parseClause_argument {text : List Char} {tokens : List Token} {argument : Term}
    (judged : Scans text tokens [])
    (derives : IsGoal (IsPrimary (maximumDepth - 1)) tokens argument) :
    parseClause ("f(" ++ String.ofList (trim text) ++ ").") =
      .ok ⟨.compound "f" [argument], none⟩ := by
  have compound : IsPrimary maximumDepth (.atom "f" :: .openParen :: tokens ++ [.closeParen])
      (.compound "f" [argument]) := InPrimary.compound .atom (.single derives)
  have whole : ("f(" ++ String.ofList (trim text) ++ ").").toList =
      'f' :: '(' :: (trim text ++ [')', '.']) := by simp
  have ends : EndsTokens [')', '.'] := by
    right
    rintro _ ⟨⟩
    decide
  have inFront := judged.trim.inFrontOf ends
  rw [List.nil_append] at inFront
  refine parseClause_of_scans ?_ (.fact compound rfl)
  rw [whole]
  simp only [List.cons_append, List.append_assoc, List.nil_append]
  exact .token rfl (.token rfl (inFront.append (.token rfl (.token rfl .done))))

/-- A text that begins with a lower-case letter begins with an atom. -/
theorem exists_atom_of_scans {first : Char} {text rest : List Char} {tokens : List Token}
    (lower : isLowerLetter first = true) (judged : Scans (first :: text) tokens rest)
    (nonempty : tokens ≠ []) : ∃ name others, tokens = .atom name :: others := by
  cases judged with
  | done => exact absurd rfl nonempty
  | blank layout _ =>
    have named := not_isNameCharacter_of_layout layout
    rw [isNameCharacter_of_isLowerLetter lower] at named
    cases named
  | token scanned _ =>
    rw [scanToken?_of_lower lower] at scanned
    obtain ⟨rfl, -⟩ := Prod.mk.inj (Option.some.inj scanned)
    exact ⟨_, _, rfl⟩

/-- A term whose text begins with a name is the name, or it has the name and arguments in
parentheses. -/
theorem shape_of_isPrimary {tokens others : List Token} {name : String} {head : Term}
    (derives : IsPrimary maximumDepth tokens head) (begins : tokens = .atom name :: others) :
    (tokens = [.atom name] ∧ head = .atom name) ∨
      ∃ inside arguments, tokens = .atom name :: .openParen :: inside ++ [.closeParen] ∧
        head = .compound name arguments ∧
        AreGoals (IsPrimary (maximumDepth - 1)) inside arguments := by
  have inside : InPrimary (IsPrimary (maximumDepth - 1)) tokens head := derives
  cases inside with
  | atom names =>
    obtain ⟨rfl, -⟩ := List.cons.inj begins
    cases names
    exact .inl ⟨rfl, rfl⟩
  | compound names goals =>
    obtain ⟨rfl, -⟩ := List.cons.inj begins
    cases names
    exact .inr ⟨_, _, rfl, rfl, goals⟩
  | _ => cases (List.cons.inj begins).1

/-- A text in front of a final stop is what stands in front of it as a token. -/
theorem eq_of_append_stop {text front behind : List Char} (blank : AllBlank behind)
    (whole : text ++ ['.'] = front ++ '.' :: behind) : text = front := by
  rcases List.eq_nil_or_concat behind with rfl | ⟨others, last, rfl⟩
  · exact List.append_cancel_right whole
  · rw [List.concat_eq_append, ← List.cons_append, ← List.append_assoc] at whole
    obtain rfl : '.' = last := by simpa using (List.append_inj' whole rfl).2
    exact absurd (blank '.' (by simp)) (by decide)

/-- Arguments found in a text are those that are read, when the text begins with a lower-case
letter, has no quotation marks and no comments, and is a fact in front of a stop. There are as many
texts as the fact has arguments, and the text of each is read as this argument. -/
theorem arguments_agree_with_parseClause (text : String) (head : Term)
    (begins : text.toList.head?.any isLowerLetter = true)
    (plain : '\'' ∉ text.toList ∧ '"' ∉ text.toList ∧ '%' ∉ text.toList)
    (parses : parseClause (text ++ ".") = .ok ⟨head, none⟩) :
    ∃ texts, Predicate.arguments text = .ok texts ∧ texts.length = head.arity ∧
      List.Forall₂ (fun argument term =>
        parseClause ("f(" ++ argument ++ ").") = .ok ⟨.compound "f" [term], none⟩)
        texts head.arguments := by
  have stopped : (text ++ ".").toList = text.toList ++ ['.'] := by simp
  have plainStopped : '\'' ∉ (text ++ ".").toList ∧ '"' ∉ (text ++ ".").toList ∧
      '%' ∉ (text ++ ".").toList := by
    simpa [stopped] using plain
  obtain ⟨front, behind, tokens, whole, blank, -, judged, derives⟩ :=
    exists_fact_text plainStopped parses rfl
  obtain rfl := eq_of_append_stop blank (stopped.symm.trans whole)
  have hasTokens : tokens ≠ [] := by
    rintro rfl
    cases IsPrimary.beginsTerm derives
  -- The text is that of a term which begins with a name. Lists, operations and parentheses are thus
  -- only found inside of its arguments.
  obtain ⟨first, found, lower⟩ := (Option.any_eq_true _ _).mp begins
  obtain ⟨rest, shape⟩ := List.head?_eq_some_iff.mp found
  obtain ⟨name, others, isAtom⟩ := exists_atom_of_scans lower (shape ▸ judged) hasTokens
  rcases shape_of_isPrimary derives isAtom with ⟨rfl, rfl⟩ | ⟨inside, arguments, rfl, rfl, goals⟩
  · exact ⟨[], arguments_of_name judged, rfl, .nil⟩
  · have insideTokens : inside ≠ [] := by
      rintro rfl
      cases goals.beginsTerm (IsGoal.beginsTerm IsPrimary.beginsTerm)
    obtain ⟨content, ofText, contentJudged, argumentTexts⟩ := exists_content judged insideTokens
    have pieces := exists_pieces (KeepsLevel.isPrimary _) goals contentJudged
      ⟨mt (ofText _) plain.1, mt (ofText _) plain.2.1⟩
    refine ⟨_, argumentTexts, ?_, ?_⟩
    · rw [List.length_map, List.length_map, pieces.length_eq]
      rfl
    · rw [List.map_map, List.forall₂_map_left_iff]
      refine pieces.imp fun piece argument => ?_
      rintro ⟨tokens, pieceJudged, derived⟩
      exact parseClause_argument pieceJudged derived

/-- A predicate with commas inside of parentheses and of brackets, and with a comparison. -/
def exampleOwns : String :=
  "owns(P, item([1, 2|T], (A + 1) * 2 ), X =< f(a, b))"

/-- The term that the text stands for. -/
def exampleOwnsHead : Term :=
  .compound "owns" [.var "P",
    .compound "item" [.list [.number "1", .number "2"] (some (.var "T")),
      .compound "*" [.compound "+" [.var "A", .number "1"], .number "2"]],
    .compound "=<" [.var "X", .compound "f" [.atom "a", .atom "b"]]]

/-- Its text is cut at the two commas between its arguments. -/
theorem exampleOwns_cut :
    parseClause (exampleOwns ++ ".") = .ok ⟨exampleOwnsHead, none⟩ ∧
      Predicate.arguments exampleOwns =
        .ok ["P", "item([1, 2|T], (A + 1) * 2 )", "X =< f(a, b)"] ∧
      ∃ texts, Predicate.arguments exampleOwns = .ok texts ∧
        texts.length = exampleOwnsHead.arity ∧
        List.Forall₂ (fun argument term =>
          parseClause ("f(" ++ argument ++ ").") = .ok ⟨.compound "f" [term], none⟩)
          texts exampleOwnsHead.arguments := by
  have parses : parseClause (exampleOwns ++ ".") = .ok ⟨exampleOwnsHead, none⟩ :=
    toOption_eq_some_iff.mp (by decide +kernel)
  exact ⟨parses, toOption_eq_some_iff.mp (by decide +kernel),
    arguments_agree_with_parseClause exampleOwns exampleOwnsHead (by decide +kernel)
      (by decide +kernel) parses⟩

end Statute.Logic
