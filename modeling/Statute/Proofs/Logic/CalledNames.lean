import Statute.Proofs.Logic.ClauseMarks
import Statute.Proofs.Logic.LongestToken
import Statute.Proofs.Logic.NormalForm
import Statute.Proofs.Logic.Soundness
import Statute.Proofs.Occurrences

/-!
# Where called names stand

The name of each predicate that the body of a rule calls is a token of the body, at its beginning or
behind a sign. No token of a body is a neck. So the name of a called predicate is a word of the text
behind the last neck, wherever nothing is quoted and no comment stands.
-/

namespace Statute.Logic

open Grammar Text

/-! ## Goals and their names -/

/-- A token that is first, or that a goal can begin with behind another token, gives a name. -/
def CalledIn (name : String) (tokens : List Token) : Prop :=
  ∃ before token after, tokens = before ++ token :: after ∧ Names token name ∧
    ∀ sign ∈ before.getLast?, sign.opensGoal = true

namespace CalledIn

variable {name : String} {tokens : List Token}

/-- Later tokens take no called name away. -/
theorem append (called : CalledIn name tokens) (later : List Token) :
    CalledIn name (tokens ++ later) := by
  obtain ⟨before, token, after, rfl, names, signs⟩ := called
  exact ⟨before, token, after ++ later, by simp, names, signs⟩

/-- A name is also called behind a token with which a goal can begin, whatever stands in front of
that. -/
theorem behind (called : CalledIn name tokens) {sign : Token} (opens : sign.opensGoal = true)
    (front : List Token) : CalledIn name (front ++ sign :: tokens) := by
  obtain ⟨before, token, after, rfl, names, signs⟩ := called
  refine ⟨front ++ sign :: before, token, after, by simp, names, ?_⟩
  intro last member
  rw [List.getLast?_append, List.getLast?_cons, Option.some_or] at member
  obtain rfl := Option.some.inj member
  cases found : before.getLast? with
  | none => exact opens
  | some last => exact signs last found

end CalledIn

/-- The names that the goals of a body call: those of operators are left out. -/
def Body.Calls (body : Body) (name : String) : Prop :=
  ∃ goal ∈ body.goals, goal.isOperator = false ∧ goal.name? = some name

/-- The goals of several parts are those of each of them. -/
theorem Body.mem_goalsOfAll_iff {parts : List Body} {goal : Term} :
    goal ∈ Body.goalsOfAll parts ↔ ∃ part ∈ parts, goal ∈ part.goals := by
  induction parts with
  | nil => simp [Body.goalsOfAll]
  | cons part parts inductionHypothesis => simp [Body.goalsOfAll, inductionHypothesis]

/-- Collapsed parts have the goals of all parts. -/
theorem Body.goals_collapse {join : List Body → Body} {parts : List Body}
    (joins : (join parts).goals = Body.goalsOfAll parts) :
    (Reader.collapse join parts).goals = Body.goalsOfAll parts := by
  match parts with
  | [] => exact joins
  | [only] => exact (List.append_nil only.goals).symm
  | _ :: _ :: _ => exact joins

/-- What collapsed parts call is called by one of them. -/
theorem Body.calls_of_collapse {join : List Body → Body} {parts : List Body} {name : String}
    (joins : (join parts).goals = Body.goalsOfAll parts)
    (calls : (Reader.collapse join parts).Calls name) : ∃ part ∈ parts, part.Calls name := by
  obtain ⟨goal, member, called⟩ := calls
  rw [Body.goals_collapse joins] at member
  obtain ⟨part, ofParts, inside⟩ := Body.mem_goalsOfAll_iff.mp member
  exact ⟨part, ofParts, goal, inside, called⟩

/-- The names that a body calls are called in its tokens. -/
def CallsInside (phrase : Phrase Body) : Prop :=
  ∀ ⦃tokens body⦄, phrase tokens body → ∀ ⦃name⦄, body.Calls name → CalledIn name tokens

namespace CallsInside

variable {unary body : Phrase Body}

/-- What a part calls is called in the tokens of all parts. -/
theorem separated {separator : Token} {item : Phrase Body} (calls : CallsInside item)
    (opens : separator.opensGoal = true) {tokens : List Token} {parts : List Body}
    (derives : Separated separator item tokens parts) {name : String}
    (called : ∃ part ∈ parts, part.Calls name) : CalledIn name tokens := by
  induction derives with
  | single only =>
    obtain ⟨part, member, called⟩ := called
    obtain rfl := List.mem_singleton.mp member
    exact calls only called
  | cons first _ inductionHypothesis =>
    obtain ⟨part, member, called⟩ := called
    rcases List.mem_cons.mp member with rfl | member
    · exact (calls first called).append _
    · exact (inductionHypothesis ⟨part, member, called⟩).behind opens _

/-- What a conjunction calls is called behind one of its commas, or first. -/
theorem isConjunction (calls : CallsInside unary) : CallsInside (IsConjunction unary) := by
  rintro tokens _ ⟨parts, inside, rfl⟩ name called
  exact calls.separated rfl inside (Body.calls_of_collapse rfl called)

/-- What a body calls is called behind one of its semicolons, or as in its conjunctions. -/
theorem inBody (calls : CallsInside unary) : CallsInside (InBody unary) := by
  rintro tokens _ ⟨parts, inside, rfl⟩ name called
  exact calls.isConjunction.separated rfl inside (Body.calls_of_collapse rfl called)

/-- A goal that is no operator is a primary. -/
theorem isPrimary_of_goal {primary : Phrase Term} {tokens : List Token} {term : Term}
    (derives : IsGoal primary tokens term) (noOperator : term.isOperator = false) :
    primary tokens term := by
  have apart {spelling : String} {whole leftRank rightRank : Rank} {left right : Term}
      (operates : Operates spelling whole leftRank rightRank)
      (none : (Term.compound spelling [left, right]).isOperator = false) : False := by
    rw [Term.isOperator_of_operates operates] at none
    cases none
  cases derives with
  | comparison before compares behind =>
    exact (apart (.of_compares compares) noOperator).elim
  | sum only =>
    cases only with
    | operation before listed last => exact (apart (.sum listed) noOperator).elim
    | single product =>
      cases product with
      | operation before listed last => exact (apart (.product listed) noOperator).elim
      | single primary => exact primary

/-- A called goal that begins apart has its name first. -/
theorem goal {levels : Nat} {tokens : List Token} {term : Term} {name : String}
    (derives : IsGoal (IsPrimary levels) tokens term) (apart : BeginsApart tokens)
    (called : (Body.goal term).Calls name) : CalledIn name tokens := by
  obtain ⟨goal, member, noOperator, named⟩ := called
  obtain rfl : goal = term := by simpa [Body.goals] using member
  have primary := isPrimary_of_goal derives noOperator
  cases levels with
  | zero => cases primary
  | succ levels =>
    cases primary with
    | atom names =>
      obtain rfl := Option.some.inj named
      exact ⟨[], _, [], rfl, names, by simp⟩
    | compound names inside =>
      obtain rfl := Option.some.inj named
      exact ⟨[], _, _, rfl, names, by simp⟩
    | grouped inside => exact absurd (List.prefix_append [Token.openParen] _) apart.1
    | _ => cases named

/-- What a unary calls is called behind its sign or parenthesis, or first when it is a goal that
begins apart. -/
theorem inUnary {levels : Nat} (callsUnary : CallsInside unary) (callsBody : CallsInside body) :
    CallsInside (InUnary BeginsApart unary body (IsPrimary levels)) := by
  intro tokens part derives name called
  cases derives with
  | notProvable behind => exact (callsUnary behind called).behind rfl []
  | negation inside =>
    exact ((callsBody inside called).behind rfl [.atom "not"]).append _
  | grouped inside => exact ((callsBody inside called).behind rfl []).append _
  | goal admitted only => exact goal only admitted called

/-- The names that unaries and bodies call are called in their tokens. -/
theorem bodies (levels : Nat) :
    CallsInside (IsUnary BeginsApart levels) ∧ CallsInside (IsBody BeginsApart levels) := by
  induction levels with
  | zero => exact ⟨fun _ _ derives => derives.elim, fun _ _ derives => derives.elim⟩
  | succ levels inductionHypothesis =>
    obtain ⟨unaries, bodies⟩ := inductionHypothesis
    exact ⟨inUnary unaries bodies, unaries.inBody⟩

end CallsInside

/-! ## Names in texts -/

/-- Texts in which nothing is quoted, no comment stands, and no word that begins with a lower-case
letter has an upper-case letter. -/
def IsPlainText (text : List Char) : Prop :=
  ('\'' ∉ text ∧ '"' ∉ text ∧ '%' ∉ text) ∧
    ∀ word ∈ text.splitOnP fun character => !isNameCharacter character,
      word.head?.any isLowerLetter = true → word.any Char.isUpper = false

instance : DecidablePred IsPlainText := fun text =>
  inferInstanceAs (Decidable (('\'' ∉ text ∧ '"' ∉ text ∧ '%' ∉ text) ∧
    ∀ word ∈ text.splitOnP fun character => !isNameCharacter character,
      word.head?.any isLowerLetter = true → word.any Char.isUpper = false))

/-- The characters of predicate names are characters of names, but for upper-case letters. -/
theorem isPredicateCharacter_iff {character : Char} :
    Outline.isPredicateCharacter character = true ↔
      isNameCharacter character = true ∧ character.isUpper = false := by
  by_cases underscore : character = '_'
  · subst underscore
    decide
  · have upper : character.isUpper = decide ('A' ≤ character ∧ character ≤ 'Z') := rfl
    rw [upper]
    simp only [Outline.isPredicateCharacter, isNameCharacter, isLowerLetter, startsVariable,
      isDigit, Char.le_def, UInt32.le_iff_toNat_le, underscore, decide_false, Bool.or_false,
      Bool.or_eq_true, Bool.and_eq_true, decide_eq_true_eq, decide_eq_false_iff_not,
      UInt32.reduceToNat, Char.reduceVal]
    omega

/-- What extends no name extends no predicate name. -/
theorem StandsApart.ofPredicate {word text : List Char}
    (apart : StandsApart isNameCharacter word text) :
    StandsApart Outline.isPredicateCharacter word text := by
  refine apart.mono fun character notName => ?_
  rw [Bool.eq_false_iff]
  intro predicate
  rw [Outline.isNameCharacter_of_isPredicateCharacter predicate] at notName
  cases notName

/-- The names of a plain text are names of predicates. -/
theorem IsPlainText.isPredicateCharacter {word text : List Char} (plain : IsPlainText text)
    (apart : StandsApart isNameCharacter word text)
    (named : ∀ character ∈ word, isNameCharacter character = true)
    (lower : word.head?.any isLowerLetter = true) :
    ∀ character ∈ word, Outline.isPredicateCharacter character = true := by
  have noUpper := List.any_eq_false.mp (plain.2 _ (apart.mem_splitOnP named) lower)
  intro character member
  exact isPredicateCharacter_iff.mpr
    ⟨named character member, Bool.eq_false_iff.mpr (noUpper character member)⟩

/-- Each name that a clause refers to is called by its body. -/
theorem calls_of_mem_referencedPredicates {clause : Clause} {name : String}
    (refers : name ∈ clause.referencedPredicates) : ∃ body ∈ clause.body, body.Calls name := by
  have member := (sublist_firstOccurrencesBy _ _).subset refers
  obtain ⟨goal, called, named⟩ := List.mem_filterMap.mp member
  obtain ⟨ofClause, noOperator⟩ := List.mem_filter.mp called
  obtain ⟨head, _ | body⟩ := clause
  · cases ofClause
  · exact ⟨body, rfl, goal, ofClause, by simpa using noOperator, named⟩

/-- The text of a rule is cut at its neck. From what stands before it the tokens of the head are
scanned, from what stands behind it those of the body, and neither part has a neck in it. -/
theorem exists_rule_texts {source : String} {clause : Clause} {body : Body}
    (plain : '\'' ∉ source.toList ∧ '"' ∉ source.toList ∧ '%' ∉ source.toList)
    (parses : parseClause source = .ok clause) (isBody : clause.body = some body) :
    ∃ front behind headTokens bodyTokens,
      source.toList = front ++ (Outline.neckText ++ behind) ∧
      (¬ Outline.neckText <:+: front ∧ ¬ Outline.neckText <:+: behind) ∧
      (Scans front headTokens [] ∧ IsPrimary maximumDepth headTokens clause.head) ∧
      Scans behind (bodyTokens ++ [.stop]) [] ∧ IsBody BeginsApart maximumDepth bodyTokens body := by
  obtain ⟨noQuote, noDoubleQuote, noComment⟩ := plain
  obtain ⟨lexemes, scans, -⟩ := bind_eq_ok_iff.mp parses
  have judged := scans_of_scanFrom noComment scans
  have derives := isClause_of_parseClause scans parses
  generalize lexemes.map Lexeme.token = all at judged derives
  cases derives with
  | fact => cases isBody
  | @rule headTokens head bodyTokens _ begins callable derived =>
    obtain rfl := Option.some.inj isBody
    rw [List.append_assoc] at judged
    obtain ⟨front, behind, whole, headJudged, bodyJudged⟩ := judged.exists_cut
    have headFree : .neck ∉ headTokens := (Unmarked.isPrimary maximumDepth).notMem begins rfl
    have derivedFree : .neck ∉ bodyTokens := (Unmarked.bodies maximumDepth).2.notMem derived rfl
    have bodyFree : .neck ∉ bodyTokens ++ [.stop] := by simp [derivedFree]
    rw [whole] at noQuote noDoubleQuote
    simp only [List.mem_append, not_or] at noQuote noDoubleQuote
    exact ⟨front, behind, headTokens, bodyTokens, whole,
      ⟨not_infix_neck_of_scans headJudged headFree ⟨noQuote.1, noDoubleQuote.1⟩,
        not_infix_neck_of_scans bodyJudged bodyFree ⟨noQuote.2.2, noDoubleQuote.2.2⟩⟩,
      ⟨headJudged, begins⟩, bodyJudged, derived⟩

/-- A text is cut at a neck behind which there is no other. -/
theorem splitLast_neck {front behind : List Char} (absent : ¬ Outline.neckText <:+: behind) :
    splitLast Outline.neckText (front ++ (Outline.neckText ++ behind)) = some (front, behind) := by
  refine splitLast_append (by decide) (splitLast_eq_none (by decide) ?_)
  intro present
  rcases List.infix_cons_iff.mp present with here | later
  · exact absurd (List.cons_prefix_cons.mp here).1 (by decide)
  · exact absent later

/-- A text with a quoted atom among its tokens has a quotation mark. -/
theorem quote_mem_of_scans {text rest : List Char} {before after : List Token} {spelling : String}
    (judged : Scans text (before ++ .quotedAtom spelling :: after) rest) : '\'' ∈ text := by
  obtain ⟨middle, front, back⟩ := judged.split
  obtain ⟨layout, behind, rfl, -, scanned, -⟩ := back.exists_place
  obtain ⟨inside, quoted⟩ : ∃ inside, spelling.toList = '\'' :: (inside ++ ['\'']) :=
    isSpelled_of_scanToken? scanned
  refine front.isSuffix.subset ?_
  simp [Token.spelling, quoted]

/-- An atom that is judged has a name which is a word that begins with a lower-case letter. -/
theorem atom_of_scans {text rest : List Char} {before after : List Token} {name : String}
    (judged : Scans text (before ++ .atom name :: after) rest) :
    name.toList.head?.any isLowerLetter = true ∧
      ∀ character ∈ name.toList, isNameCharacter character = true := by
  obtain ⟨middle, -, back⟩ := judged.split
  obtain ⟨layout, behind, -, -, scanned, -⟩ := back.exists_place
  obtain ⟨lower, named, -⟩ := atom_of_scanToken? scanned
  exact ⟨lower, named⟩

/-- Each name that the clause of a plain text refers to is found behind the last neck of it. -/
theorem mem_bodyTokens_of_mem_referencedPredicates {source : String} {clause : Clause}
    (plain : IsPlainText source.toList) (parses : parseClause source = .ok clause) {name : String}
    (refers : name ∈ clause.referencedPredicates) : name ∈ Outline.bodyTokens source := by
  obtain ⟨body, isBody, called⟩ := calls_of_mem_referencedPredicates refers
  obtain ⟨front, behind, -, tokens, whole, ⟨-, absent⟩, -, judged, derived⟩ :=
    exists_rule_texts plain.1 parses isBody
  have calledInside := ((CallsInside.bodies maximumDepth).2 derived called).append [.stop]
  obtain ⟨before, token, after, same, names, signs⟩ := calledInside
  rw [same] at judged
  -- Plain texts have no quotation marks, so the name is a word.
  cases names with
  | quoted =>
    refine absurd ?_ plain.1.1
    rw [whole]
    exact List.mem_append_right _ (List.mem_append_right _ (quote_mem_of_scans judged))
  | atom =>
    have apart := standsApart_of_scans judged signs
    have inSource : StandsApart isNameCharacter name.toList source.toList := by
      rw [whole, ← List.append_assoc]
      refine apart.behind ?_
      intro character member
      rw [List.getLast?_append] at member
      cases member
      decide
    obtain ⟨lower, named⟩ := atom_of_scans judged
    have kept := plain.isPredicateCharacter inSource named lower
    have nonempty : name.toList ≠ [] := by
      intro none
      rw [none] at lower
      cases lower
    rw [Outline.bodyTokens, whole, splitLast_neck absent]
    exact List.mem_map.mpr
      ⟨name.toList, Outline.mem_predicateRuns apart.ofPredicate kept nonempty, String.ofList_toList⟩

end Statute.Logic
