import Statute.Proofs.Logic.Completeness
import Statute.Proofs.Logic.WrittenTokens

/-!
# Written clauses read back

The written form of a bare and well-formed clause is read as the clause again, as long as it does not
enter more levels than may be open. The text of each part is judged in front of every text that
cannot extend its last word, and what is scanned from it is derived by the rule of the grammar that
its place asks for.
-/

namespace Statute.Logic

open Grammar

/-! ## Terms -/

/-- A goal begins apart from the other unaries when its first token does, or when its second token
opens no parenthesis. -/
theorem beginsApart_cons {first : Token} {others : List Token} (notGrouped : first ≠ .openParen)
    (notNegation : first ≠ .atom "not" ∨ others.head? ≠ some .openParen) :
    BeginsApart (first :: others) := by
  constructor
  · rintro ⟨_, same⟩
    exact notGrouped (List.cons.inj same).1.symm
  · rintro ⟨behind, same⟩
    obtain ⟨isNot, rfl⟩ := List.cons.inj same
    rcases notNegation with apart | apart
    · exact apart isNot.symm
    · exact apart rfl

/-- A goal that begins apart does so with an operator behind it. -/
theorem beginsApart_append {front behind : List Token} {token : Token} (begins : BeginsTerm front)
    (notOpen : token ≠ .openParen) (apart : BeginsApart front) :
    BeginsApart (front ++ token :: behind) := by
  match front with
  | [] => cases begins
  | [first] =>
    refine beginsApart_cons ?_ (.inr fun same => notOpen (Option.some.inj same))
    rintro rfl
    exact apart.1 (List.prefix_refl _)
  | first :: second :: others =>
    constructor
    · exact fun grouped => apart.1 (List.prefix_of_prefix_length_le grouped (List.prefix_append _ _)
        (by simp))
    · exact fun negation => apart.2 (List.prefix_of_prefix_length_le negation
        (List.prefix_append _ _) (by simp))

/-- What is derived by the rule of a rank begins as a term. -/
theorem Rank.beginsTerm {rank : Rank} {levels : Nat} {tokens : List Token} {term : Term}
    (derives : rank.phrase (IsPrimary levels) tokens term) : BeginsTerm tokens := by
  have narrower : rank.width ≤ Rank.goal.width := by cases rank <;> decide
  have goal : IsGoal (IsPrimary levels) tokens term := Rank.phrase_mono narrower derives
  exact goal.beginsTerm IsPrimary.beginsTerm

/-- What a term is written as, with the tokens and the derivation that are found there. -/
structure Written (rank : Rank) (levels : Nat) (term : Term) (tokens : List Token) : Prop where
  spelled : Spells term.render tokens EndsWord
  derived : rank.phrase (IsPrimary levels) tokens term
  apart : ¬ term.BeginsWithNot → BeginsApart tokens

/-- The written forms of items with commas between them have a derivation of the items. -/
theorem exists_written_items {items : List Term} (nonempty : items ≠ []) {levels : Nat}
    (written : ∀ item ∈ items, ∃ tokens, Written .goal levels item tokens) :
    ∃ tokens, Spells (Term.renderAll items) tokens EndsWord ∧
      AreGoals (IsPrimary levels) tokens items := by
  refine Spells.separated (fun _ => by rw [Term.renderAll]) (fun _ _ _ => by rw [Term.renderAll])
    Spells.comma (fun rest => endsWord_of_sign (by decide) (by decide) (' ' :: rest)) nonempty ?_
  intro item member
  obtain ⟨tokens, spelled, derived, -⟩ := written item member
  exact ⟨tokens, spelled, derived⟩

/-- A number is written as its own tokens, of which the sign is one. -/
theorem exists_written_number {text : String}
    (spelled : Examples.isPlainNumber text.toList = true) (levels : Nat) :
    ∃ tokens, Written .primary (levels + 1) (.number text) tokens := by
  have scans : Spells text (Examples.numberTokens text.toList) EndsWord :=
    fun rest ends => Examples.scans_number spelled ends.2
  rcases Examples.numberTokens_cases text.toList with ⟨digits, shape⟩ | ⟨oneToken, -⟩
  · have whole : text = "-" ++ String.ofList digits := by
      rw [← String.toList_inj, shape]
      simp
    have derived : InPrimary (IsPrimary levels) [.operator "-", .number (String.ofList digits)]
        (.number ("-" ++ String.ofList digits)) := .negative
    rw [shape] at scans
    rw [← whole] at derived
    exact ⟨_, scans, derived, fun _ => beginsApart_cons (by simp) (.inl (by simp))⟩
  · rw [oneToken, String.ofList_toList] at scans
    exact ⟨_, scans, InPrimary.number, fun _ => beginsApart_cons (by simp) (.inl (by simp))⟩

/-- A string is written between quotation marks. -/
theorem exists_written_string {text : String} (spelled : IsStringContent text) (levels : Nat) :
    ∃ tokens, Written .primary (levels + 1) (.string text) tokens := by
  have unquoted : Reader.unquote ("\"" ++ text ++ "\"") = text := by
    simp [Reader.unquote]
  have derived : InPrimary (IsPrimary levels) [.string ("\"" ++ text ++ "\"")]
      (.string (Reader.unquote ("\"" ++ text ++ "\""))) := .string
  rw [unquoted] at derived
  exact ⟨_, (spells_string spelled).mono fun _ _ => trivial, derived,
    fun _ => beginsApart_cons (by simp) (.inl (by simp))⟩

/-- A text between two signs has the tokens of the signs around its own. -/
theorem Spells.enclosed {text opening closing : String} {tokens front : List Token}
    {closeToken : Token} (inside : Spells text tokens EndsWord)
    (opens : Spells opening front fun _ => True)
    (closes : Spells closing [closeToken] fun _ => True)
    (apart : ∀ rest, EndsWord (closing.toList ++ rest)) :
    Spells (opening ++ text ++ closing) (front ++ tokens ++ [closeToken]) EndsWord :=
  (opens.append inside fun _ _ => trivial).append (closes.mono fun _ _ => trivial)
    fun rest _ => apart rest

/-- A call is written with its arguments in parentheses. -/
theorem exists_written_call {functor : String} {arguments : List Term}
    (plain : Examples.isPlainName functor.toList = true)
    (isPrefix : Term.isInfix functor arguments = false) (nonempty : arguments ≠ []) {levels : Nat}
    (written : ∀ argument ∈ arguments, ∃ tokens, Written .goal levels argument tokens) :
    ∃ tokens, Written .primary (levels + 1) (.compound functor arguments) tokens := by
  obtain ⟨tokens, spelled, derived⟩ := exists_written_items nonempty written
  have named : Spells (functor ++ "(") [.atom functor, .openParen] fun _ => True :=
    (spells_plainName plain).append (.sign fun _ => rfl)
      fun rest _ => endsWord_of_sign (by decide) (by decide) rest
  have closes : Spells ")" [.closeParen] fun _ => True := .sign fun _ => rfl
  have whole := spelled.enclosed named closes (endsWord_of_sign (by decide) (by decide))
  rw [← Term.render_call isPrefix] at whole
  refine ⟨_, whole, InPrimary.compound .atom derived, ?_⟩
  intro notNegated
  refine beginsApart_cons (by simp) (.inl ?_)
  rintro ⟨⟩
  exact notNegated .call

/-- An operator is written between its operands. -/
theorem exists_written_operation {spelling : String} {whole leftRank rightRank : Rank}
    {left right : Term} (operates : Operates spelling whole leftRank rightRank) {levels : Nat}
    (leftWritten : ∃ tokens, Written leftRank levels left tokens)
    (rightWritten : ∃ tokens, Written rightRank levels right tokens) :
    ∃ tokens, Written whole levels (.compound spelling [left, right]) tokens := by
  obtain ⟨leftTokens, leftSpelled, leftDerived, leftBegins⟩ := leftWritten
  obtain ⟨rightTokens, rightSpelled, rightDerived, -⟩ := rightWritten
  obtain ⟨token, tokenSpelled, notOpen, joins⟩ := operates.exists_token
  have front : Spells (left.render ++ " ") (leftTokens ++ []) fun _ => True :=
    leftSpelled.append .blank fun rest _ => endsWord_of_sign (by decide) (by decide) rest
  have spelled := ((front.append tokenSpelled fun _ _ => trivial).append .blank
    fun _ _ => rfl).append rightSpelled fun _ _ => trivial
  rw [← Term.render_infix (Term.isInfix_of_operates operates left right)] at spelled
  simp only [List.append_nil, List.append_assoc, List.singleton_append] at spelled
  refine ⟨_, spelled, joins leftDerived rightDerived, ?_⟩
  intro notNegated
  exact beginsApart_append (Rank.beginsTerm leftDerived) notOpen
    (leftBegins fun front => notNegated (.operation operates front))

/-- Items are written between brackets, with a bar in front of their tail. -/
theorem exists_written_list {items : List Term} {levels : Nat}
    (written : ∀ item ∈ items, ∃ tokens, Written .goal levels item tokens) :
    ∃ tokens, Written .primary (levels + 1) (.list items none) tokens := by
  have opens : Spells "[" [.openBracket] fun _ => True := .sign fun _ => rfl
  have closes : Spells "]" [.closeBracket] fun _ => True := .sign fun _ => rfl
  cases items with
  | nil =>
    have whole : Spells ("[" ++ "]") [.openBracket, .closeBracket] EndsWord :=
      (opens.append closes fun _ _ => trivial).mono fun _ _ => trivial
    exact ⟨_, whole, InPrimary.emptyList, fun _ => beginsApart_cons (by simp) (.inl (by simp))⟩
  | cons item items =>
    obtain ⟨tokens, spelled, derived⟩ := exists_written_items (List.cons_ne_nil _ _) written
    have whole := spelled.enclosed opens closes (endsWord_of_sign (by decide) (by decide))
    rw [← Term.render] at whole
    exact ⟨_, whole, InPrimary.list derived, fun _ => beginsApart_cons (by simp) (.inl (by simp))⟩

/-- A list with a tail is written when its items and its tail are, one level further inside. -/
theorem exists_written_listWithTail {items : List Term} {tail : Term} (nonempty : items ≠ [])
    {levels : Nat} (written : ∀ item ∈ items, ∃ tokens, Written .goal levels item tokens)
    (tailWritten : ∃ tokens, Written .sum levels tail tokens) :
    ∃ tokens, Written .primary (levels + 1) (.list items (some tail)) tokens := by
  obtain ⟨tokens, spelled, derived⟩ := exists_written_items nonempty written
  obtain ⟨tailTokens, tailSpelled, tailDerived, -⟩ := tailWritten
  have opens : Spells "[" [.openBracket] fun _ => True := .sign fun _ => rfl
  have closes : Spells "]" [.closeBracket] fun _ => True := .sign fun _ => rfl
  have bar : Spells "|" [.bar] fun _ => True := .sign fun _ => rfl
  have front : Spells ("[" ++ Term.renderAll items ++ "|") (.openBracket :: tokens ++ [.bar])
      fun _ => True :=
    (opens.append spelled fun _ _ => trivial).append bar
      fun rest _ => endsWord_of_sign (by decide) (by decide) rest
  have whole := tailSpelled.enclosed front closes (endsWord_of_sign (by decide) (by decide))
  rw [← Term.render] at whole
  simp only [List.append_assoc, List.singleton_append] at whole
  refine ⟨_, whole, ?_, fun _ => beginsApart_cons (by simp) (.inl (by simp))⟩
  have derivation := InPrimary.listWithTail derived tailDerived
  simp only [List.append_assoc, List.cons_append] at derivation
  exact derivation

/-- The written form of a bare and well-formed term has a derivation of the term. -/
theorem Term.Bare.exists_written {rank : Rank} {term : Term} (bare : Term.Bare rank term)
    (wellFormed : term.WellFormed) {levels : Nat} (shallow : term.levels ≤ levels) :
    ∃ tokens, Written rank levels term tokens := by
  -- By induction on why the term is bare. An operation enters no level. Every other term enters
  -- one, for which one of `levels` is taken away before the terms inside are written.
  induction bare generalizing levels with
  | @atom name plain =>
    obtain ⟨levels, rfl⟩ := Nat.exists_eq_add_of_le' shallow
    exact ⟨[.atom name], spells_plainName plain, InPrimary.atom .atom,
      fun _ => beginsApart_cons (by simp) (.inr (by simp))⟩
  | @var name =>
    obtain ⟨levels, rfl⟩ := Nat.exists_eq_add_of_le' shallow
    cases wellFormed with
    | var spelled =>
      exact ⟨[.var name], spells_variableName spelled, InPrimary.var,
        fun _ => beginsApart_cons (by simp) (.inl (by simp))⟩
  | number =>
    obtain ⟨levels, rfl⟩ := Nat.exists_eq_add_of_le' shallow
    cases wellFormed with
    | number spelled => exact exists_written_number spelled levels
  | string =>
    obtain ⟨levels, rfl⟩ := Nat.exists_eq_add_of_le' shallow
    cases wellFormed with
    | string spelled => exact exists_written_string spelled levels
  | call plain notInfix inside inductionHypothesis =>
    have isPrefix := Term.isInfix_of_plain plain notInfix
    rw [Term.levels, if_neg (Bool.eq_false_iff.mp isPrefix)] at shallow
    obtain ⟨levels, rfl⟩ := Nat.exists_eq_add_of_le' (Nat.le_of_add_left_le shallow)
    have within := Term.levelsOfAll_le_iff.mp (Nat.le_of_succ_le_succ shallow)
    cases wellFormed with
    | compound nonempty wellFormedInside =>
      exact exists_written_call plain isPrefix nonempty fun argument member =>
        inductionHypothesis argument member (wellFormedInside argument member)
          (within argument member)
  | @operation _ _ _ _ left right operates leftBare rightBare leftHypothesis rightHypothesis =>
    rw [Term.levels, if_pos (Term.isInfix_of_operates operates left right)] at shallow
    have within := Term.levelsOfAll_le_iff.mp shallow
    cases wellFormed with
    | compound nonempty wellFormedInside =>
      exact exists_written_operation operates
        (leftHypothesis (wellFormedInside left (by simp)) (within left (by simp)))
        (rightHypothesis (wellFormedInside right (by simp)) (within right (by simp)))
  | list inside inductionHypothesis =>
    rw [Term.levels] at shallow
    obtain ⟨levels, rfl⟩ := Nat.exists_eq_add_of_le' (Nat.le_of_add_left_le shallow)
    have within := Term.levelsOfAll_le_iff.mp (Nat.le_of_succ_le_succ shallow)
    cases wellFormed with
    | list wellFormedInside =>
      exact exists_written_list fun item member =>
        inductionHypothesis item member (wellFormedInside item member) (within item member)
  | listWithTail inside behind inductionHypothesis tailHypothesis =>
    rw [Term.levels] at shallow
    obtain ⟨levels, rfl⟩ := Nat.exists_eq_add_of_le' (Nat.le_of_add_left_le shallow)
    obtain ⟨withinItems, withinTail⟩ := Nat.max_le.mp (Nat.le_of_succ_le_succ shallow)
    have within := Term.levelsOfAll_le_iff.mp withinItems
    cases wellFormed with
    | listWithTail nonempty wellFormedInside wellFormedTail =>
      refine exists_written_listWithTail nonempty (fun item member => ?_)
        (tailHypothesis wellFormedTail withinTail)
      exact inductionHypothesis item member (wellFormedInside item member) (within item member)
  | widen bare wider inductionHypothesis =>
    obtain ⟨tokens, spelled, derived, begins⟩ := inductionHypothesis wellFormed shallow
    exact ⟨tokens, spelled, Rank.phrase_mono wider derived, begins⟩

/-! ## Bodies and clauses -/

/-- The text of a body is scanned as tokens that have a derivation as parts of a conjunction, and as
one of them unless the body is itself a conjunction. -/
structure BodyWritten (levels : Nat) (body : Body) (tokens : List Token) : Prop where
  spelled : Spells body.render tokens EndsWord
  joined : IsConjunction (IsUnary BeginsApart levels) tokens body
  part : body.isConjunction = false → IsUnary BeginsApart levels tokens body

/-- A part is a conjunction of its own. -/
theorem BodyWritten.of_part {levels : Nat} {body : Body} {tokens : List Token}
    (spelled : Spells body.render tokens EndsWord)
    (part : IsUnary BeginsApart levels tokens body) : BodyWritten levels body tokens :=
  ⟨spelled, ⟨[body], .single part, rfl⟩, fun _ => part⟩

/-- Several parts are joined and not collapsed. -/
theorem collapse_of_several {join : List Body → Body} {parts : List Body}
    (several : 2 ≤ parts.length) : Reader.collapse join parts = join parts := by
  match parts with
  | _ :: _ :: _ => rfl

/-- Several parts are written with the sign of their separator and a blank between them. -/
theorem exists_written_parts {separator : String} {token : Token} (phrase : Phrase Body)
    (separates : Spells separator [token] fun _ => True)
    (apart : ∀ rest, EndsWord (separator.toList ++ rest)) {parts : List Body}
    (several : 2 ≤ parts.length)
    (written : ∀ part ∈ parts, ∃ tokens, Spells part.render tokens EndsWord ∧
      phrase tokens part) :
    ∃ tokens, Spells (Body.renderAll separator parts) tokens EndsWord ∧
      Separated token phrase tokens parts := by
  have nonempty : parts ≠ [] := by
    rintro rfl
    cases several
  exact Spells.separated (fun _ => by rw [Body.renderAll]) (fun _ _ _ => by rw [Body.renderAll])
    separates apart nonempty written

/-- The parts of a conjunction are written with commas between them and no parentheses around
them. -/
theorem exists_written_and {parts : List Body} (several : 2 ≤ parts.length) {levels : Nat}
    (apart : ∀ part ∈ parts, part.isConjunction = false)
    (written : ∀ part ∈ parts, ∃ tokens, BodyWritten levels part tokens) :
    ∃ tokens, BodyWritten levels (.and parts) tokens := by
  obtain ⟨tokens, spelled, derived⟩ := exists_written_parts (IsUnary BeginsApart levels)
    Spells.comma (fun rest => endsWord_of_sign (by decide) (by decide) (' ' :: rest)) several
    fun part member => by
      obtain ⟨tokens, spelled, -, asPart⟩ := written part member
      exact ⟨tokens, spelled, asPart (apart part member)⟩
  refine ⟨tokens, spelled, ⟨parts, derived, (collapse_of_several several).symm⟩, ?_⟩
  intro notConjunction
  cases notConjunction

/-- The parts of a disjunction are written with semicolons between them and parentheses around
them, which enter two levels. -/
theorem exists_written_or {parts : List Body} (several : 2 ≤ parts.length) {levels : Nat}
    (written : ∀ part ∈ parts, ∃ tokens, BodyWritten levels part tokens) :
    ∃ tokens, BodyWritten (levels + 2) (.or parts) tokens := by
  obtain ⟨tokens, spelled, derived⟩ := exists_written_parts
    (IsConjunction (IsUnary BeginsApart levels)) Spells.semicolon
    (fun rest => endsWord_of_sign (by decide) (by decide) (' ' :: rest)) several
    fun part member => by
      obtain ⟨tokens, spelled, joined, -⟩ := written part member
      exact ⟨tokens, spelled, joined⟩
  have body : IsBody BeginsApart (levels + 1) tokens (.or parts) :=
    ⟨parts, derived, (collapse_of_several several).symm⟩
  have opens : Spells "(" [.openParen] fun _ => True := .sign fun _ => rfl
  have closes : Spells ")" [.closeParen] fun _ => True := .sign fun _ => rfl
  have whole := spelled.enclosed opens closes (endsWord_of_sign (by decide) (by decide))
  exact ⟨_, .of_part whole (.grouped body)⟩

/-- The written form of a bare and well-formed body has a derivation of the body. -/
theorem Body.Bare.exists_written {body : Body} (bare : body.Bare) (wellFormed : body.WellFormed)
    {levels : Nat} (shallow : body.levels ≤ levels) : ∃ tokens, BodyWritten levels body tokens := by
  induction bare generalizing levels with
  | goal bare begins =>
    rw [Body.levels] at shallow
    obtain ⟨levels, rfl⟩ := Nat.exists_eq_add_of_le' (Nat.le_of_add_left_le shallow)
    cases wellFormed with
    | goal inside =>
      obtain ⟨tokens, spelled, derived, apart⟩ :=
        bare.exists_written inside (Nat.le_of_succ_le_succ shallow)
      exact ⟨tokens, .of_part spelled (.goal (apart begins) derived)⟩
  | not bare apart inductionHypothesis =>
    rw [Body.levels] at shallow
    obtain ⟨levels, rfl⟩ := Nat.exists_eq_add_of_le' (Nat.le_of_add_left_le shallow)
    cases wellFormed with
    | not inside =>
      obtain ⟨tokens, spelled, -, part⟩ :=
        inductionHypothesis inside (Nat.le_of_succ_le_succ shallow)
      have negated : Spells "\\+ " [.notProvable] fun _ => True :=
        fun _ _ => .token rfl (.blank rfl .done)
      exact ⟨_, .of_part (negated.append spelled fun _ _ => trivial) (.notProvable (part apart))⟩
  | and bare apart inductionHypothesis =>
    rw [Body.levels] at shallow
    have within := Body.levelsOfAll_le_iff.mp shallow
    cases wellFormed with
    | and several inside =>
      exact exists_written_and several apart fun part member =>
        inductionHypothesis part member (inside part member) (within part member)
  | or bare inductionHypothesis =>
    rw [Body.levels] at shallow
    obtain ⟨levels, rfl⟩ := Nat.exists_eq_add_of_le' (Nat.le_of_add_left_le shallow)
    have within := Body.levelsOfAll_le_iff.mp (Nat.le_of_add_le_add_right shallow)
    cases wellFormed with
    | or several inside =>
      exact exists_written_or several fun part member =>
        inductionHypothesis part member (inside part member) (within part member)

/-- The written form of a bare and well-formed clause has a derivation of the clause. -/
theorem Clause.Bare.exists_written {clause : Clause} (bare : clause.Bare)
    (wellFormed : clause.WellFormed) (shallow : clause.levels ≤ maximumDepth) :
    ∃ tokens, Scans clause.render.toList tokens [] ∧ IsClause BeginsApart tokens clause := by
  obtain ⟨head, body⟩ := clause
  have stop : Spells "." [.stop] (· = []) := by
    rintro rest rfl
    exact .single rfl
  have ends : ∀ rest, rest = [] → EndsWord (".".toList ++ rest) := by
    rintro rest rfl
    exact endsWord_stop
  cases body with
  | none =>
    obtain ⟨tokens, spelled, derived, -⟩ := bare.head.exists_written wellFormed.head shallow
    have scans := spelled.append stop ends rfl
    rw [List.append_nil] at scans
    exact ⟨_, scans, .fact derived wellFormed.callable⟩
  | some body =>
    obtain ⟨shallowHead, shallowBody⟩ := Nat.max_le.mp shallow
    obtain ⟨tokens, spelled, derived, -⟩ := bare.head.exists_written wellFormed.head shallowHead
    have shallowParts : body.levels ≤ 63 := Nat.le_of_succ_le_succ shallowBody
    obtain ⟨bodyTokens, bodySpelled, joined, -⟩ :=
      (bare.body body rfl).exists_written (wellFormed.body body rfl) shallowParts
    have neck : Spells " :- " [.neck] fun _ => True :=
      fun _ _ => .blank rfl (.token rfl (.blank rfl .done))
    have scans := ((spelled.append neck fun rest _ => endsWord_of_sign (by decide) (by decide)
      (':' :: '-' :: ' ' :: rest)).append bodySpelled fun _ _ => trivial).append stop ends rfl
    rw [List.append_nil, List.append_assoc tokens] at scans
    exact ⟨_, scans, .rule derived wellFormed.callable ⟨_, .single joined, rfl⟩⟩

/-- A text is read as the clause that its tokens have a derivation of. -/
theorem parseClause_of_scans {source : String} {tokens : List Token} {clause : Clause}
    (judged : Scans source.toList tokens []) (derives : IsClause BeginsApart tokens clause) :
    parseClause source = .ok clause := by
  obtain ⟨lexemes, scans, rfl⟩ := tokenize_of_scans judged
  exact parseClause_of_isClause scans derives

/-- The written form of a bare and well-formed clause is read as the clause, if it does not enter
more levels than may be open. -/
theorem parseClause_render {clause : Clause} (bare : clause.Bare) (wellFormed : clause.WellFormed)
    (shallow : clause.levels ≤ maximumDepth) : parseClause clause.render = .ok clause := by
  obtain ⟨tokens, judged, derives⟩ := bare.exists_written wellFormed shallow
  exact parseClause_of_scans judged derives

/-- A comparison of a sum with a list inside a disjunction under a negation. -/
def exampleComparison : Term :=
  .compound "<" [.compound "+" [.var "X", .number "-3"], .list [.atom "b"] (some (.var "T"))]

/-- It is read back from its text. -/
theorem exampleComparison_read_back :
    parseClause "p :- \\+ (a; X + -3 < [b|T])." =
      .ok ⟨.atom "p", some (.not (.or [.goal (.atom "a"), .goal exampleComparison]))⟩ := by
  have wellFormed : exampleComparison.WellFormed :=
    .operation (.operation (.var rfl) (.number rfl)) (.listWithTail (List.cons_ne_nil _ _)
      (List.forall_mem_singleton.mpr .atom) (.var rfl))
  have sum : Term.Bare .sum (.compound "+" [.var "X", .number "-3"]) :=
    .operation (.sum (by decide)) (.widen .var (by decide)) (.widen .number (by decide))
  have list : Term.Bare .sum (.list [.atom "b"] (some (.var "T"))) :=
    .widen (.listWithTail (List.forall_mem_singleton.mpr (.widen (.atom rfl) (by decide)))
      (.widen .var (by decide))) (by decide)
  have bare : Term.Bare .goal exampleComparison := .operation (.comparison (by decide)) sum list
  have begins : ¬ exampleComparison.BeginsWithNot := by
    intro begins
    rcases begins.cases_compound with same | ⟨left, right, ⟨⟩, front⟩
    · exact absurd same (by decide)
    · rcases front.cases_compound with same | ⟨left, right, ⟨⟩, front⟩
      · exact absurd same (by decide)
      · cases front
  have written : (⟨.atom "p", some (.not (.or [.goal (.atom "a"), .goal exampleComparison]))⟩ :
      Clause).render = "p :- \\+ (a; X + -3 < [b|T])." := by decide +kernel
  rw [← written]
  refine parseClause_render ⟨.atom rfl, ?_⟩ ⟨.atom, rfl, ?_⟩ (by decide +kernel)
  · rintro body ⟨⟩
    exact .not (.or (List.forall_mem_cons.mpr ⟨.goal (.widen (.atom rfl) (by decide)) (by rintro ⟨⟩),
      List.forall_mem_singleton.mpr (.goal bare begins)⟩)) rfl
  · rintro body ⟨⟩
    exact .not (.or (Nat.le_refl 2) (List.forall_mem_cons.mpr ⟨.goal .atom,
      List.forall_mem_singleton.mpr (.goal wellFormed)⟩))

/-- Negations of a goal inside one another, as many as given. -/
def exampleNegations : Nat → Body
  | 0 => .goal (.atom "a")
  | count + 1 => .not (exampleNegations count)

/-- A bare and well-formed clause that enters one level more than may be open is not read. -/
theorem exampleNegations_refused :
    (⟨.atom "p", some (exampleNegations 62)⟩ : Clause).Bare ∧
      (⟨.atom "p", some (exampleNegations 62)⟩ : Clause).WellFormed ∧
      (⟨.atom "p", some (exampleNegations 62)⟩ : Clause).levels = maximumDepth + 1 ∧
      ∀ clause, parseClause (⟨.atom "p", some (exampleNegations 62)⟩ : Clause).render ≠ .ok clause := by
  have apart (count : Nat) : (exampleNegations count).isConjunction = false := by
    cases count <;> rfl
  have bare (count : Nat) : (exampleNegations count).Bare := by
    induction count with
    | zero => exact .goal (.widen (.atom rfl) (by decide)) (by rintro ⟨⟩)
    | succ count inductionHypothesis => exact .not inductionHypothesis (apart count)
  have wellFormed (count : Nat) : (exampleNegations count).WellFormed := by
    induction count with
    | zero => exact .goal .atom
    | succ count inductionHypothesis => exact .not inductionHypothesis
  refine ⟨⟨.atom rfl, ?_⟩, ⟨.atom, rfl, ?_⟩, by decide +kernel, ?_⟩
  · rintro body ⟨⟩
    exact bare 62
  · rintro body ⟨⟩
    exact wellFormed 62
  · intro clause parses
    have refused :
        (parseClause (⟨.atom "p", some (exampleNegations 62)⟩ : Clause).render).toOption = none := by
      decide +kernel
    rw [parses] at refused
    cases refused

end Statute.Logic
