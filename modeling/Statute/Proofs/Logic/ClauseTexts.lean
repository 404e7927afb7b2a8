import Statute.Proofs.Logic.CalledNames
import Statute.Proofs.Logic.Writing
import Statute.Regulation.Rule

/-!
# Head and body in the text of a clause

A clause text is cut at the first neck for its head and at the last for its body, while readers find
both among the tokens. In a text without quotations and comments the characters of a neck stand
only where the token does, so that the texts which are cut off are those of the head and the body.
-/

namespace Statute.Logic

open Grammar Text

/-! ## Trimmed texts in front of a stop -/

/-- A final stop is no blank, so that only the blanks in front of a text are trimmed away. -/
theorem trim_append_stop (text : List Char) : trim (text ++ ['.']) = trimLeft text ++ ['.'] :=
  trim_append_singleton (by decide) text

/-- Without its final stop a text is trimmed to what stands in front of the stop. -/
theorem trimRight_tailContent {text behind : List Char} (blank : AllBlank behind) :
    trimRight (Outline.tailContent (text ++ '.' :: behind)) = trim text := by
  have content : trim (text ++ '.' :: behind) = trimLeft text ++ ['.'] := by
    rw [List.append_cons, trim_append_right blank, trim_append_stop]
  rw [Outline.tailContent, content]
  simp [trim]

/-- Layout is blank. -/
theorem isBlank_of_layout {character : Char} (layout : isLayoutCharacter character = true) :
    isBlank character = true :=
  of_isLayoutCharacter layout isBlank (by decide)

/-! ## The parts as clauses -/

/-- The text of a head is a fact when it is ended by a stop. -/
theorem parseClause_trim_stop {text : List Char} {tokens : List Token} {head : Term}
    (judged : Scans text tokens []) (derives : IsPrimary maximumDepth tokens head)
    (callable : head.isCallable = true) :
    parseClause (String.ofList (trim text) ++ ".") = .ok ⟨head, none⟩ := by
  refine parseClause_of_scans ?_ (.fact derives callable)
  rw [String.toList_append, String.toList_ofList]
  exact (judged.trim.inFrontOf (.inl rfl)).append (.single rfl)

/-- The text of a body is one behind any other head. -/
theorem parseClause_behind_neck {text : List Char} {tokens : List Token} {body : Body}
    (judged : Scans text (tokens ++ [.stop]) [])
    (derives : IsBody BeginsApart maximumDepth tokens body) :
    parseClause ("h :- " ++ String.ofList (trim text)) = .ok ⟨.atom "h", some body⟩ := by
  have head : IsPrimary maximumDepth [.atom "h"] (.atom "h") := InPrimary.atom .atom
  have whole : ("h :- " ++ String.ofList (trim text)).toList =
      'h' :: ' ' :: ':' :: '-' :: ' ' :: trim text := by simp
  refine parseClause_of_scans ?_ (.rule head rfl derives)
  rw [whole]
  exact .token rfl (.blank rfl (.token rfl (.blank rfl judged.trim)))

/-- The head of a clause can be called. -/
theorem callable_of_parseClause {source : String} {clause : Clause}
    (parses : parseClause source = .ok clause) : clause.head.isCallable = true := by
  obtain ⟨lexemes, scans, -⟩ := bind_eq_ok_iff.mp parses
  have derives := isClause_of_parseClause scans parses
  generalize lexemes.map Lexeme.token = tokens at derives
  cases derives with
  | fact _ callable => exact callable
  | rule _ callable _ => exact callable

/-- The text of a fact is its head and a stop, and has no neck. -/
theorem exists_fact_text {source : String} {clause : Clause}
    (plain : '\'' ∉ source.toList ∧ '"' ∉ source.toList ∧ '%' ∉ source.toList)
    (parses : parseClause source = .ok clause) (isFact : clause.body = none) :
    ∃ front behind tokens, source.toList = front ++ '.' :: behind ∧ AllBlank behind ∧
      ¬ Outline.neckText <:+: source.toList ∧
      Scans front tokens [] ∧ IsPrimary maximumDepth tokens clause.head := by
  obtain ⟨noQuote, noDoubleQuote, noComment⟩ := plain
  obtain ⟨lexemes, scans, -⟩ := bind_eq_ok_iff.mp parses
  have judged := scans_of_scanFrom noComment scans
  have derives := isClause_of_parseClause scans parses
  generalize lexemes.map Lexeme.token = all at judged derives
  cases derives with
  | rule => cases isFact
  | @fact tokens head begins callable =>
    have headFree : .neck ∉ tokens := (Unmarked.isPrimary maximumDepth).notMem begins rfl
    have noNeck : .neck ∉ tokens ++ [.stop] := by simp [headFree]
    have absent := not_infix_neck_of_scans judged noNeck ⟨noQuote, noDoubleQuote⟩
    obtain ⟨front, behind, whole, headJudged, nothing⟩ := judged.exists_cut
    obtain ⟨layout, same, blank⟩ := nothing.exists_layout
    rw [List.append_nil] at same
    subst same
    exact ⟨front, behind, tokens, whole, fun character member =>
      isBlank_of_layout (blank character member), absent, headJudged, begins⟩

/-! ## Splitting and parsing -/

/-- A text with a single neck is split there from both sides. -/
theorem split_neck {definition : String} {front behind : List Char}
    (whole : definition.toList = front ++ (Outline.neckText ++ behind))
    (absent : ¬ Outline.neckText <:+: front ∧ ¬ Outline.neckText <:+: behind) :
    splitFirst Outline.neckText definition.toList = some (front, behind) ∧
      splitLast Outline.neckText definition.toList = some (front, behind) := by
  -- Necks do not overlap, as a neck begins with its only colon.
  rw [whole]
  exact ⟨splitFirst_append (by decide) absent.1 behind, splitLast_neck absent.2⟩

/-- Splitting the text of a rule or a fact agrees with parsing it, when the text has no quotation
marks and no comments. The text of a rule is split into its head and its body, and each alone is
read as it is in the rule. The text of a fact is not split, it has no body, and its head is read as
the fact. -/
theorem splitClause_agrees_with_parseClause (rule : Rule) (clause : Clause)
    (plain : '\'' ∉ rule.definition.toList ∧ '"' ∉ rule.definition.toList ∧
      '%' ∉ rule.definition.toList)
    (parses : parseClause rule.definition = .ok clause) :
    (∀ body, clause.body = some body → ∃ bodyText, rule.body? = some bodyText ∧
      Outline.splitClause rule.definition = .ok (rule.head, bodyText) ∧
      parseClause (rule.head ++ ".") = .ok ⟨clause.head, none⟩ ∧
      parseClause ("h :- " ++ bodyText) = .ok ⟨.atom "h", some body⟩) ∧
    (clause.body = none →
      Outline.splitClause rule.definition = .error ⟨trimmed rule.definition⟩ ∧
      rule.body? = none ∧ parseClause (rule.head ++ ".") = .ok clause) := by
  have callable := callable_of_parseClause parses
  constructor
  case left =>
    intro body isBody
    obtain ⟨front, behind, headTokens, bodyTokens, whole, absent, ⟨headJudged, head⟩, bodyJudged,
      derived⟩ := exists_rule_texts plain parses isBody
    -- There is one neck only, so the first place of one and the last are the same.
    obtain ⟨first, last⟩ := split_neck whole absent
    have headText : rule.head = String.ofList (trim front) := by
      rw [Rule.head, Rule.headOf, first]
    refine ⟨String.ofList (trim behind), ?_, ?_, ?_, parseClause_behind_neck bodyJudged derived⟩
    · rw [Rule.body?, Rule.bodyOf?, last]
      rfl
    · rw [Outline.splitClause, first, headText]
    · rw [headText]
      exact parseClause_trim_stop headJudged head callable
  case right =>
    intro isFact
    obtain ⟨front, behind, tokens, whole, blank, absent, judged, head⟩ :=
      exists_fact_text plain parses isFact
    have notSplit := splitFirst_eq_none (by decide) absent
    have headText : rule.head = String.ofList (trim front) := by
      rw [Rule.head, Rule.headOf, notSplit, whole, trimRight_tailContent blank]
    refine ⟨?_, ?_, ?_⟩
    · rw [Outline.splitClause, notSplit]
    · rw [Rule.body?, Rule.bodyOf?, splitLast_eq_none (by decide) absent]
      rfl
    · obtain ⟨clauseHead, _ | body⟩ := clause
      · rw [headText]
        exact parseClause_trim_stop judged head callable
      · cases isFact

/-- A rule whose body has a minus, a comparison with a colon and a number with a point. -/
def exampleElder : Rule :=
  ⟨10, 1, "", " elder(X) :-\n age(X, A), \\+ A - 1 =:= 2.5 . ", false, .epoch⟩

/-- The head of the rule. -/
def exampleElderHead : Term :=
  .compound "elder" [.var "X"]

/-- The body of the rule. -/
def exampleElderBody : Body :=
  .and [.goal (.compound "age" [.var "X", .var "A"]),
    .not (.goal (.compound "=:=" [.compound "-" [.var "A", .number "1"], .number "2.5"]))]

/-- A fact with blanks around its stop. -/
def exampleTom : Rule :=
  ⟨11, 1, "", "adult( tom ) .\n", false, .epoch⟩

/-- The clause of the fact. -/
def exampleTomClause : Clause :=
  ⟨.compound "adult" [.atom "tom"], none⟩

/-- The rule is split at its neck, and the fact is not split. -/
theorem exampleElder_split :
    parseClause exampleElder.definition = .ok ⟨exampleElderHead, some exampleElderBody⟩ ∧
      (∃ bodyText, exampleElder.body? = some bodyText ∧
        Outline.splitClause exampleElder.definition = .ok (exampleElder.head, bodyText) ∧
        parseClause (exampleElder.head ++ ".") = .ok ⟨exampleElderHead, none⟩ ∧
        parseClause ("h :- " ++ bodyText) = .ok ⟨.atom "h", some exampleElderBody⟩) ∧
      parseClause exampleTom.definition = .ok exampleTomClause ∧
      Outline.splitClause exampleTom.definition = .error ⟨"adult( tom ) ."⟩ ∧
      exampleTom.body? = none ∧ parseClause (exampleTom.head ++ ".") = .ok exampleTomClause := by
  have elder : parseClause exampleElder.definition =
      .ok ⟨exampleElderHead, some exampleElderBody⟩ :=
    toOption_eq_some_iff.mp (by decide +kernel)
  have tom : parseClause exampleTom.definition = .ok exampleTomClause :=
    toOption_eq_some_iff.mp (by decide +kernel)
  have elderSplit :=
    (splitClause_agrees_with_parseClause exampleElder _ (by decide +kernel) elder).1 _ rfl
  have tomSplit :=
    (splitClause_agrees_with_parseClause exampleTom _ (by decide +kernel) tom).2 rfl
  exact ⟨elder, elderSplit, tom, tomSplit⟩

end Statute.Logic
