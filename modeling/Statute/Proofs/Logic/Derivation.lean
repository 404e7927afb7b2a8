import Statute.Proofs.Logic.Soundness

/-!
# Derivations as trees

A derivation of the grammar with a node for each use of a rule. What its leaves are from left to
right (`tokens`) and what it stands for (`term`, `body`, `clause`) are functions of the tree alone:
operations of one rank group to the left and products stand inside sums, a goal has one comparison
at most, a conjunction or a disjunction of one part is this part, a minus sign in front of a number
belongs to it, and parentheses that group stand for what is inside them.

The main statement says that every source read as a clause has a derivation of all its tokens, and
that the clause is what this derivation stands for.
-/

namespace Statute.Logic

open Grammar

/-! ## Terms -/

mutual

/-- Derivations of primaries. -/
inductive PrimaryTree where
  | var (name : String)
  | number (text : String)
  | negative (text : String)
  | string (spelling : String)
  | atom {token : Token} {name : String} (names : Names token name)
  | compound {token : Token} {name : String} (names : Names token name) (arguments : GoalsTree)
  | emptyList
  | list (items : GoalsTree)
  | listWithTail (items : GoalsTree) (tail : SumTree)
  | grouped (inner : SumTree)

/-- Derivations of products. -/
inductive ProductTree where
  | single (only : PrimaryTree)
  | operation (before : ProductTree) {spelling : String} (listed : spelling ∈ ["*", "/"])
      (last : PrimaryTree)

/-- Derivations of sums. -/
inductive SumTree where
  | single (only : ProductTree)
  | operation (before : SumTree) {spelling : String} (listed : spelling ∈ ["+", "-"])
      (last : ProductTree)

/-- Derivations of goals. -/
inductive GoalTree where
  | sum (only : SumTree)
  | comparison (before : SumTree) {token : Token} {spelling : String}
      (compares : Compares token spelling) (behind : SumTree)

/-- Derivations of arguments or items, which are goals with commas between them. -/
inductive GoalsTree where
  | single (only : GoalTree)
  | cons (first : GoalTree) (others : GoalsTree)

end

mutual

/-- The tokens of a primary. -/
def PrimaryTree.tokens : PrimaryTree → List Token
  | .var name => [.var name]
  | .number text => [.number text]
  | .negative text => [.operator "-", .number text]
  | .string spelling => [.string spelling]
  | @PrimaryTree.atom token _ _ => [token]
  | @PrimaryTree.compound token _ _ arguments =>
    token :: .openParen :: arguments.tokens ++ [.closeParen]
  | .emptyList => [.openBracket, .closeBracket]
  | .list items => .openBracket :: items.tokens ++ [.closeBracket]
  | .listWithTail items tail =>
    .openBracket :: items.tokens ++ .bar :: tail.tokens ++ [.closeBracket]
  | .grouped inner => .openParen :: inner.tokens ++ [.closeParen]

/-- The tokens of a product. -/
def ProductTree.tokens : ProductTree → List Token
  | .single only => only.tokens
  | @ProductTree.operation before spelling _ last =>
    before.tokens ++ .operator spelling :: last.tokens

/-- The tokens of a sum. -/
def SumTree.tokens : SumTree → List Token
  | .single only => only.tokens
  | @SumTree.operation before spelling _ last =>
    before.tokens ++ .operator spelling :: last.tokens

/-- The tokens of a goal. -/
def GoalTree.tokens : GoalTree → List Token
  | .sum only => only.tokens
  | @GoalTree.comparison before token _ _ behind => before.tokens ++ token :: behind.tokens

/-- The tokens of arguments or items. -/
def GoalsTree.tokens : GoalsTree → List Token
  | .single only => only.tokens
  | .cons first others => first.tokens ++ .comma :: others.tokens

end

mutual

/-- The term that a primary stands for. -/
def PrimaryTree.term : PrimaryTree → Term
  | .var name => .var name
  | .number text => .number text
  | .negative text => .number ("-" ++ text)
  | .string spelling => .string (Reader.unquote spelling)
  | @PrimaryTree.atom _ name _ => .atom name
  | @PrimaryTree.compound _ name _ arguments => .compound name arguments.terms
  | .emptyList => .list [] none
  | .list items => .list items.terms none
  | .listWithTail items tail => .list items.terms (some tail.term)
  | .grouped inner => inner.term

/-- The term that a product stands for. -/
def ProductTree.term : ProductTree → Term
  | .single only => only.term
  | @ProductTree.operation before spelling _ last => .compound spelling [before.term, last.term]

/-- The term that a sum stands for. -/
def SumTree.term : SumTree → Term
  | .single only => only.term
  | @SumTree.operation before spelling _ last => .compound spelling [before.term, last.term]

/-- The term that a goal stands for. -/
def GoalTree.term : GoalTree → Term
  | .sum only => only.term
  | @GoalTree.comparison before _ spelling _ behind => .compound spelling [before.term, behind.term]

/-- The terms that arguments or items stand for. -/
def GoalsTree.terms : GoalsTree → List Term
  | .single only => [only.term]
  | .cons first others => first.term :: others.terms

end

/-! ## Bodies and clauses -/

mutual

/-- Derivations of unaries. -/
inductive UnaryTree where
  | notProvable (behind : UnaryTree)
  | negation (inside : BodyTree)
  | grouped (inside : BodyTree)
  | goal (only : GoalTree)

/-- Derivations of conjunctions, which are unaries with commas between them. -/
inductive ConjunctionTree where
  | single (only : UnaryTree)
  | cons (first : UnaryTree) (others : ConjunctionTree)

/-- Derivations of bodies, which are conjunctions with semicolons between them. -/
inductive BodyTree where
  | single (only : ConjunctionTree)
  | cons (first : ConjunctionTree) (others : BodyTree)

end

mutual

/-- The tokens of a unary. -/
def UnaryTree.tokens : UnaryTree → List Token
  | .notProvable behind => .notProvable :: behind.tokens
  | .negation inside => .atom "not" :: .openParen :: inside.tokens ++ [.closeParen]
  | .grouped inside => .openParen :: inside.tokens ++ [.closeParen]
  | .goal only => only.tokens

/-- The tokens of a conjunction. -/
def ConjunctionTree.tokens : ConjunctionTree → List Token
  | .single only => only.tokens
  | .cons first others => first.tokens ++ .comma :: others.tokens

/-- The tokens of a body. -/
def BodyTree.tokens : BodyTree → List Token
  | .single only => only.tokens
  | .cons first others => first.tokens ++ .semicolon :: others.tokens

end

mutual

/-- What a unary stands for. -/
def UnaryTree.body : UnaryTree → Body
  | .notProvable behind => .not behind.body
  | .negation inside => .not inside.body
  | .grouped inside => inside.body
  | .goal only => .goal only.term

/-- What a conjunction stands for: its only part, or its parts joined. -/
def ConjunctionTree.body : ConjunctionTree → Body
  | .single only => only.body
  | .cons first others => .and (first.body :: others.parts)

/-- What the parts of a conjunction stand for. -/
def ConjunctionTree.parts : ConjunctionTree → List Body
  | .single only => [only.body]
  | .cons first others => first.body :: others.parts

/-- What a body stands for: its only part, or its parts joined. -/
def BodyTree.body : BodyTree → Body
  | .single only => only.body
  | .cons first others => .or (first.body :: others.parts)

/-- What the parts of a disjunction stand for. -/
def BodyTree.parts : BodyTree → List Body
  | .single only => [only.body]
  | .cons first others => first.body :: others.parts

end

/-- Derivations of clauses. The head is a primary that stands for a name, with arguments or
without. -/
inductive ClauseTree where
  | fact (head : PrimaryTree) (callable : head.term.isCallable = true)
  | rule (head : PrimaryTree) (callable : head.term.isCallable = true) (body : BodyTree)

/-- The tokens of a clause. -/
def ClauseTree.tokens : ClauseTree → List Token
  | .fact head _ => head.tokens ++ [.stop]
  | .rule head _ body => head.tokens ++ .neck :: body.tokens ++ [.stop]

/-- The clause that a derivation stands for. -/
def ClauseTree.clause : ClauseTree → Clause
  | .fact head _ => ⟨head.term, none⟩
  | .rule head _ body => ⟨head.term, some body.body⟩

/-! ## Every derivation is a tree -/

/-- Tokens and what they stand for, shown by a tree with these tokens. -/
def ShownBy {τ α : Type} (tokensOf : τ → List Token) (valueOf : τ → α) : Phrase α :=
  fun tokens value => ∃ tree, tokensOf tree = tokens ∧ valueOf tree = value

/-- Items with separators between them are shown by trees that a first item can be put in front
of. -/
theorem shownBy_of_separated {τ σ α : Type} {tokensOf : τ → List Token} {valueOf : τ → α}
    {allTokens : σ → List Token} {allValues : σ → List α} {separator : Token} {item : Phrase α}
    {tokens : List Token} {values : List α}
    (items : ∀ {tokens value}, item tokens value → ShownBy tokensOf valueOf tokens value)
    (single : ∀ only, ShownBy allTokens allValues (tokensOf only) [valueOf only])
    (cons : ∀ first others, ShownBy allTokens allValues
      (tokensOf first ++ separator :: allTokens others) (valueOf first :: allValues others))
    (derives : Separated separator item tokens values) :
    ShownBy allTokens allValues tokens values := by
  induction derives with
  | single only =>
    obtain ⟨tree, rfl, rfl⟩ := items only
    exact single tree
  | cons first _ inductionHypothesis =>
    obtain ⟨tree, rfl, rfl⟩ := items first
    obtain ⟨others, rfl, rfl⟩ := inductionHypothesis
    exact cons tree others

/-- Operands of one rank are shown by trees that a last operand can be put behind. -/
theorem shownBy_of_operandsWith {τ σ : Type} {tokensOf : τ → List Token} {termOf : τ → Term}
    {allTokens : σ → List Token} {result : σ → Term} {spellings : List String}
    {operand : Phrase Term} {tokens : List Token} {term : Term}
    (operands : ∀ {tokens term}, operand tokens term → ShownBy tokensOf termOf tokens term)
    (single : ∀ only, ShownBy allTokens result (tokensOf only) (termOf only))
    (operation : ∀ before spelling, spelling ∈ spellings → ∀ last, ShownBy allTokens result
      (allTokens before ++ .operator spelling :: tokensOf last)
      (.compound spelling [result before, termOf last]))
    (derives : OperandsWith spellings operand tokens term) :
    ShownBy allTokens result tokens term := by
  induction derives with
  | single only =>
    obtain ⟨tree, rfl, rfl⟩ := operands only
    exact single tree
  | operation _ listed last inductionHypothesis =>
    obtain ⟨before, rfl, rfl⟩ := inductionHypothesis
    obtain ⟨tree, rfl, rfl⟩ := operands last
    exact operation before _ listed tree

section Terms

variable {primary : Phrase Term}
  (primaries : ∀ {tokens term}, primary tokens term →
    ShownBy PrimaryTree.tokens PrimaryTree.term tokens term)
include primaries

/-- A sum has a tree when its primaries have. Products are shown within, in the same way. -/
theorem shownBy_sumTree {tokens : List Token} {term : Term}
    (derives : IsSum primary tokens term) : ShownBy SumTree.tokens SumTree.term tokens term := by
  refine shownBy_of_operandsWith (fun product => ?_) (fun only => ⟨.single only, rfl, rfl⟩)
    (fun before _ listed last => ⟨.operation before listed last, rfl, rfl⟩) derives
  exact shownBy_of_operandsWith primaries (fun only => ⟨ProductTree.single only, rfl, rfl⟩)
    (fun before _ listed last => ⟨.operation before listed last, rfl, rfl⟩) product

/-- A goal has a tree, with a comparison or without. -/
theorem shownBy_goalTree {tokens : List Token} {term : Term}
    (derives : IsGoal primary tokens term) : ShownBy GoalTree.tokens GoalTree.term tokens term := by
  cases derives with
  | sum only =>
    obtain ⟨tree, rfl, rfl⟩ := shownBy_sumTree primaries only
    exact ⟨.sum tree, rfl, rfl⟩
  | comparison before compares behind =>
    obtain ⟨left, rfl, rfl⟩ := shownBy_sumTree primaries before
    obtain ⟨right, rfl, rfl⟩ := shownBy_sumTree primaries behind
    exact ⟨.comparison left compares right, rfl, rfl⟩

/-- Goals between commas have a tree. -/
theorem shownBy_goalsTree {tokens : List Token} {terms : List Term}
    (derives : AreGoals primary tokens terms) :
    ShownBy GoalsTree.tokens GoalsTree.terms tokens terms :=
  shownBy_of_separated (shownBy_goalTree primaries) (fun only => ⟨.single only, rfl, rfl⟩)
    (fun first others => ⟨.cons first others, rfl, rfl⟩) derives

/-- A primary has a tree with the same case, when the primaries inside have. -/
theorem shownBy_primaryTree_of_inPrimary {tokens : List Token} {term : Term}
    (derives : InPrimary primary tokens term) :
    ShownBy PrimaryTree.tokens PrimaryTree.term tokens term := by
  cases derives with
  | @var name => exact ⟨.var name, rfl, rfl⟩
  | @number text => exact ⟨.number text, rfl, rfl⟩
  | @negative text => exact ⟨.negative text, rfl, rfl⟩
  | @string spelling => exact ⟨.string spelling, rfl, rfl⟩
  | atom names => exact ⟨.atom names, rfl, rfl⟩
  | compound names inside =>
    obtain ⟨arguments, rfl, rfl⟩ := shownBy_goalsTree primaries inside
    exact ⟨.compound names arguments, rfl, rfl⟩
  | emptyList => exact ⟨.emptyList, rfl, rfl⟩
  | list inside =>
    obtain ⟨items, rfl, rfl⟩ := shownBy_goalsTree primaries inside
    exact ⟨.list items, rfl, rfl⟩
  | listWithTail inside behind =>
    obtain ⟨items, rfl, rfl⟩ := shownBy_goalsTree primaries inside
    obtain ⟨tail, rfl, rfl⟩ := shownBy_sumTree primaries behind
    exact ⟨.listWithTail items tail, rfl, rfl⟩
  | grouped inside =>
    obtain ⟨inner, rfl, rfl⟩ := shownBy_sumTree primaries inside
    exact ⟨.grouped inner, rfl, rfl⟩

end Terms

/-- Primaries of the grammar have derivations, whatever levels they enter. -/
theorem shownBy_primaryTree {levels : Nat} {tokens : List Token} {term : Term}
    (derives : IsPrimary levels tokens term) :
    ShownBy PrimaryTree.tokens PrimaryTree.term tokens term := by
  induction levels generalizing tokens term with
  | zero => cases derives
  | succ levels inductionHypothesis =>
    exact shownBy_primaryTree_of_inPrimary inductionHypothesis derives

section Bodies

variable {unary : Phrase Body}
  (unaries : ∀ {tokens part}, unary tokens part →
    ShownBy UnaryTree.tokens UnaryTree.body tokens part)
include unaries

/-- A conjunction has a tree, whose body is collapsed where it has one part only. -/
theorem shownBy_conjunctionTree {tokens : List Token} {part : Body}
    (derives : IsConjunction unary tokens part) :
    ShownBy ConjunctionTree.tokens ConjunctionTree.body tokens part := by
  obtain ⟨parts, inside, rfl⟩ := derives
  obtain ⟨tree, rfl, rfl⟩ : ShownBy ConjunctionTree.tokens ConjunctionTree.parts tokens parts :=
    shownBy_of_separated unaries (fun only => ⟨.single only, rfl, rfl⟩)
      (fun first others => ⟨.cons first others, rfl, rfl⟩) inside
  refine ⟨tree, rfl, ?_⟩
  -- Whether the parts are collapsed depends on how many there are.
  rcases tree with only | ⟨first, _ | _⟩ <;> rfl

/-- A body has a tree, whose body is collapsed where it has one conjunction only. -/
theorem shownBy_bodyTree_of_inBody {tokens : List Token} {part : Body}
    (derives : InBody unary tokens part) :
    ShownBy BodyTree.tokens BodyTree.body tokens part := by
  obtain ⟨parts, inside, rfl⟩ := derives
  obtain ⟨tree, rfl, rfl⟩ : ShownBy BodyTree.tokens BodyTree.parts tokens parts :=
    shownBy_of_separated (shownBy_conjunctionTree unaries) (fun only => ⟨.single only, rfl, rfl⟩)
      (fun first others => ⟨.cons first others, rfl, rfl⟩) inside
  refine ⟨tree, rfl, ?_⟩
  rcases tree with only | ⟨first, _ | _⟩ <;> rfl

end Bodies

/-- Unaries and bodies of the grammar have derivations, whatever levels they enter. -/
theorem shownBy_trees_of_bodies (admits : List Token → Prop) (levels : Nat) :
    (∀ {tokens part}, IsUnary admits levels tokens part →
      ShownBy UnaryTree.tokens UnaryTree.body tokens part) ∧
    ∀ {tokens part}, IsBody admits levels tokens part →
      ShownBy BodyTree.tokens BodyTree.body tokens part := by
  induction levels with
  | zero => exact ⟨fun derives => derives.elim, fun derives => derives.elim⟩
  | succ levels inductionHypothesis =>
    obtain ⟨unaries, bodies⟩ := inductionHypothesis
    refine ⟨?_, fun derives => shownBy_bodyTree_of_inBody unaries derives⟩
    intro tokens part derives
    cases derives with
    | notProvable behind =>
      obtain ⟨tree, rfl, rfl⟩ := unaries behind
      exact ⟨.notProvable tree, rfl, rfl⟩
    | negation inside =>
      obtain ⟨tree, rfl, rfl⟩ := bodies inside
      exact ⟨.negation tree, rfl, rfl⟩
    | grouped inside =>
      obtain ⟨tree, rfl, rfl⟩ := bodies inside
      exact ⟨.grouped tree, rfl, rfl⟩
    | goal _ only =>
      obtain ⟨tree, rfl, rfl⟩ := shownBy_goalTree shownBy_primaryTree only
      exact ⟨.goal tree, rfl, rfl⟩

/-- Clauses of the grammar have derivations. -/
theorem shownBy_clauseTree {admits : List Token → Prop} {tokens : List Token} {clause : Clause}
    (derives : IsClause admits tokens clause) :
    ShownBy ClauseTree.tokens ClauseTree.clause tokens clause := by
  cases derives with
  | fact begins callable =>
    obtain ⟨head, rfl, rfl⟩ := shownBy_primaryTree begins
    exact ⟨.fact head callable, rfl, rfl⟩
  | rule begins callable behind =>
    obtain ⟨head, rfl, rfl⟩ := shownBy_primaryTree begins
    obtain ⟨body, rfl, rfl⟩ := (shownBy_trees_of_bodies admits maximumDepth).2 behind
    exact ⟨.rule head callable body, rfl, rfl⟩

/-- A source that is read as a clause has a derivation of all its tokens, and the clause is what
this derivation stands for. -/
theorem exists_clauseTree_of_parseClause {source : String} {clause : Clause}
    (parses : parseClause source = .ok clause) :
    ∃ lexemes, tokenize source = .ok lexemes ∧ ∃ tree : ClauseTree,
      tree.tokens = lexemes.map Lexeme.token ∧ tree.clause = clause := by
  obtain ⟨lexemes, scans, -⟩ := bind_eq_ok_iff.mp parses
  exact ⟨lexemes, scans, shownBy_clauseTree (isClause_of_parseClause scans parses)⟩

/-- What `p :- not(X - 1 - 2 * (3 + Y) > -4 ; q), (r).` stands for. -/
def exampleOperators : Clause :=
  let left := Term.compound "-" [.compound "-" [.var "X", .number "1"],
    .compound "*" [.number "2", .compound "+" [.number "3", .var "Y"]]]
  ⟨.atom "p", some (.and [.not (.or [.goal (.compound ">" [left, .number "-4"]),
    .goal (.atom "q")]), .goal (.atom "r")])⟩

/-- Operators of all ranks, a negation, groups and a negative number in one rule. -/
theorem exampleOperators_derived :
    parseClause "p :- not(X - 1 - 2 * (3 + Y) > -4 ; q), (r)." = .ok exampleOperators ∧
      ∃ lexemes, tokenize "p :- not(X - 1 - 2 * (3 + Y) > -4 ; q), (r)." = .ok lexemes ∧
        ∃ tree : ClauseTree, tree.tokens = lexemes.map Lexeme.token ∧
          tree.clause = exampleOperators := by
  have parses : parseClause "p :- not(X - 1 - 2 * (3 + Y) > -4 ; q), (r)." =
      .ok exampleOperators := toOption_eq_some_iff.mp (by decide +kernel)
  exact ⟨parses, exists_clauseTree_of_parseClause parses⟩

end Statute.Logic
