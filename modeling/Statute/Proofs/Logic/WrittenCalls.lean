import Statute.Proofs.Logic.Derivation
import Statute.Proofs.Logic.Words
import Statute.Proofs.Logic.WrittenTokens
import Statute.Proofs.Occurrences

/-!
# Goals that are written as calls

A goal is written as a call when a name stands in front of it, with arguments or without, and not
between two terms. The derivation of a clause tells which goals of the body are, at any depth under
negations, conjunctions and disjunctions. The clause does not: in it a call and an operation are the
same terms, told apart by their names.

The main statement says that a clause refers to the names of these calls in order, but for the calls
that are taken for operations: those of a quoted name that begins with a symbol, and those of `is`
with two arguments.
-/

namespace Statute.Logic

open Grammar

/-! ## Calls -/

/-- A name in front of arguments, or alone. -/
structure Call where
  token : Token
  name : String
  names : Names token name
  arguments : List Term

namespace Call

/-- The name stands in quotation marks. -/
def isQuoted (call : Call) : Bool :=
  match call.token with
  | .quotedAtom _ => true
  | _ => false

/-- A call that is taken for an operation: its name is quoted and begins with a symbol, or it is
`is` with two arguments. -/
def passesForOperation (call : Call) : Bool :=
  (call.isQuoted && Term.isSymbolic call.name) ||
    (call.name == "is" && call.arguments.length == 2)

/-- The term of a call counts as an operator. -/
def countsAsOperator (call : Call) : Bool :=
  Term.isSymbolic call.name || (call.name == "is" && call.arguments.length == 2)

end Call

mutual

/-- The call that a primary is, if it is one. -/
def PrimaryTree.call? : PrimaryTree → Option Call
  | .atom names => some ⟨_, _, names, []⟩
  | .compound names arguments => some ⟨_, _, names, arguments.terms⟩
  | .grouped inner => inner.call?
  | _ => none

/-- The call that a product is, if it is one. -/
def ProductTree.call? : ProductTree → Option Call
  | .single only => only.call?
  | .operation .. => none

/-- The call that a sum is, if it is one. -/
def SumTree.call? : SumTree → Option Call
  | .single only => only.call?
  | .operation .. => none

end

/-- The call that a goal is, if it is one. -/
def GoalTree.call? : GoalTree → Option Call
  | .sum only => only.call?
  | .comparison .. => none

mutual

/-- The goals of a unary. -/
def UnaryTree.goals : UnaryTree → List GoalTree
  | .notProvable behind => behind.goals
  | .negation inside => inside.goals
  | .grouped inside => inside.goals
  | .goal only => [only]

/-- The goals of a conjunction in order. -/
def ConjunctionTree.goals : ConjunctionTree → List GoalTree
  | .single only => only.goals
  | .cons first others => first.goals ++ others.goals

/-- The goals of a body in order. -/
def BodyTree.goals : BodyTree → List GoalTree
  | .single only => only.goals
  | .cons first others => first.goals ++ others.goals

end

/-- The goals of the body of a clause in order. -/
def ClauseTree.goals : ClauseTree → List GoalTree
  | .fact .. => []
  | .rule _ _ body => body.goals

/-- The calls of a clause in order. -/
def ClauseTree.calls (tree : ClauseTree) : List Call :=
  tree.goals.filterMap GoalTree.call?

/-- A derivation of these tokens that stands for the clause. -/
def ClauseTree.Derives (tree : ClauseTree) (tokens : List Token) (clause : Clause) : Prop :=
  tree.tokens = tokens ∧ tree.clause = clause

/-! ## Calls as terms -/

/-- What a derivation of a term has to do with the call that it is, if it is one. A call has the
name of the term, and whether the term counts as an operator depends on the name and the arguments.
What is no call is an operator or has no name. -/
def StandsFor (call? : Option Call) (term : Term) : Prop :=
  match call? with
  | some call =>
    term.name? = some call.name ∧ term.isOperator = call.countsAsOperator
  | none => term.isOperator = true ∨ term.name? = none

/-- An operation is no call, and its operator counts as one. -/
theorem standsFor_operation {spelling : String} {whole leftRank rightRank : Rank}
    (operates : Operates spelling whole leftRank rightRank) (left right : Term) :
    StandsFor none (.compound spelling [left, right]) :=
  .inl (Term.isOperator_of_operates operates left right)

mutual

/-- A primary stands for a call when a name begins it, or when it is one in parentheses. -/
theorem PrimaryTree.standsFor (tree : PrimaryTree) : StandsFor tree.call? tree.term := by
  cases tree with
  | atom =>
    exact ⟨rfl, by simp [PrimaryTree.term, Term.isOperator, Call.countsAsOperator]⟩
  | compound => exact ⟨rfl, rfl⟩
  | grouped inner => exact inner.standsFor
  | _ => exact .inr rfl

/-- A product of one factor is the call that the factor is, and a longer one is an operation. -/
theorem ProductTree.standsFor (tree : ProductTree) : StandsFor tree.call? tree.term := by
  cases tree with
  | single only => exact only.standsFor
  | operation _ listed => exact standsFor_operation (.product listed) _ _

/-- A sum of one product is the call that the product is, and a longer one is an operation. -/
theorem SumTree.standsFor (tree : SumTree) : StandsFor tree.call? tree.term := by
  cases tree with
  | single only => exact only.standsFor
  | operation _ listed => exact standsFor_operation (.sum listed) _ _

end

/-- A goal that is no comparison is the call that its sum is. -/
theorem GoalTree.standsFor (tree : GoalTree) : StandsFor tree.call? tree.term := by
  cases tree with
  | sum only => exact only.standsFor
  | comparison _ compares => exact standsFor_operation (.of_compares compares) _ _

/-! ## Goals of the body -/

/-- A conjunction has the goals of its parts, also when it has only one and is that part. -/
theorem ConjunctionTree.goals_body (tree : ConjunctionTree) :
    tree.body.goals = Body.goalsOfAll tree.parts := by
  cases tree with
  | single only => exact (List.append_nil _).symm
  | cons => rfl

/-- A body has the goals of its parts, also when it has only one and is that part. -/
theorem BodyTree.goals_body (tree : BodyTree) :
    tree.body.goals = Body.goalsOfAll tree.parts := by
  cases tree with
  | single only => exact (List.append_nil _).symm
  | cons => rfl

mutual

/-- The goals of a unary are what the goals of its derivation stand for, in order. -/
theorem UnaryTree.goals_body (tree : UnaryTree) :
    tree.body.goals = tree.goals.map GoalTree.term := by
  cases tree with
  | notProvable behind => exact behind.goals_body
  | negation inside =>
    rw [UnaryTree.body, Body.goals, inside.goals_body, inside.goalsOfAll_parts, UnaryTree.goals]
  | grouped inside =>
    rw [UnaryTree.body, inside.goals_body, inside.goalsOfAll_parts, UnaryTree.goals]
  | goal only => rfl

/-- The goals of the parts of a conjunction are what the goals of its derivation stand for, in
order. -/
theorem ConjunctionTree.goalsOfAll_parts (tree : ConjunctionTree) :
    Body.goalsOfAll tree.parts = tree.goals.map GoalTree.term := by
  cases tree with
  | single only =>
    rw [ConjunctionTree.parts, Body.goalsOfAll, Body.goalsOfAll, List.append_nil, only.goals_body,
      ConjunctionTree.goals]
  | cons first others =>
    rw [ConjunctionTree.parts, Body.goalsOfAll, first.goals_body, others.goalsOfAll_parts,
      ConjunctionTree.goals, List.map_append]

/-- The goals of the parts of a body are what the goals of its derivation stand for, in order. -/
theorem BodyTree.goalsOfAll_parts (tree : BodyTree) :
    Body.goalsOfAll tree.parts = tree.goals.map GoalTree.term := by
  cases tree with
  | single only =>
    rw [BodyTree.parts, Body.goalsOfAll, Body.goalsOfAll, List.append_nil, only.goals_body,
      only.goalsOfAll_parts, BodyTree.goals]
  | cons first others =>
    rw [BodyTree.parts, Body.goalsOfAll, first.goals_body, first.goalsOfAll_parts,
      others.goalsOfAll_parts, BodyTree.goals, List.map_append]

end

/-- The goals of a clause are what the goals of its derivation stand for, in the same order. -/
theorem ClauseTree.goals_clause (tree : ClauseTree) :
    tree.clause.goals = tree.goals.map GoalTree.term := by
  cases tree with
  | fact => rfl
  | rule _ _ body =>
    calc body.body.goals = Body.goalsOfAll body.parts := body.goals_body
      _ = body.goals.map GoalTree.term := body.goalsOfAll_parts

/-- The names of goals that do not count as operators are the names of the calls among them, but for
those calls that count as operators. -/
theorem filterMap_name?_goals (trees : List GoalTree) :
    (((trees.map GoalTree.term).filter fun goal => !goal.isOperator).filterMap Term.name?) =
      ((trees.filterMap GoalTree.call?).filter fun call => !call.countsAsOperator).map
        Call.name := by
  induction trees with
  | nil => rfl
  | cons tree trees inductionHypothesis =>
    have standsFor := tree.standsFor
    rw [List.map_cons, List.filter_cons, List.filterMap_cons]
    cases called : tree.call? with
    | none =>
      rw [called] at standsFor
      rcases standsFor with operator | nameless
      · simpa [operator] using inductionHypothesis
      · split
        next => simpa [nameless] using inductionHypothesis
        next => exact inductionHypothesis
    | some call =>
      rw [called] at standsFor
      obtain ⟨named, operator⟩ := standsFor
      rw [operator, List.filter_cons]
      cases counts : call.countsAsOperator with
      | true => simpa using inductionHypothesis
      | false => simpa [named] using inductionHypothesis

/-! ## Names of calls -/

mutual

/-- The name of the call that a primary is stands among its tokens, be it inside parentheses. -/
theorem PrimaryTree.call_token_mem {tree : PrimaryTree} {call : Call}
    (called : tree.call? = some call) : call.token ∈ tree.tokens := by
  cases tree with
  | atom names =>
    obtain rfl := Option.some.inj called
    exact List.mem_cons_self
  | compound names arguments =>
    obtain rfl := Option.some.inj called
    exact List.mem_cons_self
  | grouped inner =>
    have inside : call.token ∈ inner.tokens := SumTree.call_token_mem called
    exact List.mem_append_left _ (List.mem_cons_of_mem _ inside)
  | _ => cases called

/-- The name of the call that a product is stands among its tokens. -/
theorem ProductTree.call_token_mem {tree : ProductTree} {call : Call}
    (called : tree.call? = some call) : call.token ∈ tree.tokens := by
  cases tree with
  | single only => exact PrimaryTree.call_token_mem called
  | operation => cases called

/-- The name of the call that a sum is stands among its tokens. -/
theorem SumTree.call_token_mem {tree : SumTree} {call : Call}
    (called : tree.call? = some call) : call.token ∈ tree.tokens := by
  cases tree with
  | single only => exact ProductTree.call_token_mem called
  | operation => cases called

end

/-- The name of the call that a goal is stands among its tokens. -/
theorem GoalTree.call_token_mem {tree : GoalTree} {call : Call}
    (called : tree.call? = some call) : call.token ∈ tree.tokens := by
  cases tree with
  | sum only => exact SumTree.call_token_mem called
  | comparison => cases called

mutual

/-- The goals of a unary are made of its tokens. -/
theorem UnaryTree.tokens_goal_subset {tree : UnaryTree} {goal : GoalTree}
    (member : goal ∈ tree.goals) : goal.tokens ⊆ tree.tokens := by
  cases tree with
  | notProvable behind =>
    have within : goal.tokens ⊆ behind.tokens := UnaryTree.tokens_goal_subset member
    exact List.subset_cons_of_subset _ within
  | negation inside =>
    have within : goal.tokens ⊆ inside.tokens := BodyTree.tokens_goal_subset member
    exact List.subset_append_of_subset_left _
      (List.subset_cons_of_subset _ (List.subset_cons_of_subset _ within))
  | grouped inside =>
    have within : goal.tokens ⊆ inside.tokens := BodyTree.tokens_goal_subset member
    exact List.subset_append_of_subset_left _ (List.subset_cons_of_subset _ within)
  | goal only =>
    obtain rfl := List.mem_singleton.mp member
    exact List.Subset.refl _

/-- The goals of a conjunction are made of its tokens. -/
theorem ConjunctionTree.tokens_goal_subset {tree : ConjunctionTree} {goal : GoalTree}
    (member : goal ∈ tree.goals) : goal.tokens ⊆ tree.tokens := by
  cases tree with
  | single only => exact UnaryTree.tokens_goal_subset member
  | cons first others =>
    rcases List.mem_append.mp member with member | member
    · exact List.subset_append_of_subset_left _ (UnaryTree.tokens_goal_subset member)
    · exact List.subset_append_of_subset_right _
        (List.subset_cons_of_subset _ (ConjunctionTree.tokens_goal_subset member))

/-- The goals of a body are made of its tokens. -/
theorem BodyTree.tokens_goal_subset {tree : BodyTree} {goal : GoalTree}
    (member : goal ∈ tree.goals) : goal.tokens ⊆ tree.tokens := by
  cases tree with
  | single only => exact ConjunctionTree.tokens_goal_subset member
  | cons first others =>
    rcases List.mem_append.mp member with member | member
    · exact List.subset_append_of_subset_left _ (ConjunctionTree.tokens_goal_subset member)
    · exact List.subset_append_of_subset_right _
        (List.subset_cons_of_subset _ (BodyTree.tokens_goal_subset member))

end

/-- The name of a call is given by a token of the clause. -/
theorem ClauseTree.call_token_mem {tree : ClauseTree} {call : Call} (member : call ∈ tree.calls) :
    call.token ∈ tree.tokens := by
  obtain ⟨goal, ofGoals, called⟩ := List.mem_filterMap.mp member
  cases tree with
  | fact => cases ofGoals
  | rule head _ body =>
    have inside := BodyTree.tokens_goal_subset ofGoals (GoalTree.call_token_mem called)
    simp [ClauseTree.tokens, inside]

/-- A name that is scanned without quotation marks begins with no symbol. -/
theorem isSymbolic_of_tokenize {source : String} {lexemes : List Lexeme} {name : String}
    (scans : tokenize source = .ok lexemes) (member : .atom name ∈ lexemes.map Lexeme.token) :
    Term.isSymbolic name = false := by
  obtain ⟨lexeme, ofLexemes, isAtom⟩ := List.mem_map.mp member
  obtain ⟨before, after, -, scanned⟩ := exists_scanned_of_mem scans ofLexemes
  rw [isAtom] at scanned
  obtain ⟨lower, named, -⟩ := atom_of_scanToken? scanned
  have plain : Examples.isPlainName name.toList = true := by
    cases shape : name.toList with
    | nil => rw [shape] at lower; cases lower
    | cons first others =>
      rw [shape] at lower named
      rw [Examples.isPlainName, Bool.and_eq_true, List.all_eq_true]
      exact ⟨lower, (List.forall_mem_cons.mp named).2⟩
  exact isSymbolic_of_plain plain

/-- Calls of scanned names count as operators exactly when they are taken for operations. -/
theorem Call.countsAsOperator_eq {call : Call}
    (unquoted : ∀ name, call.token = .atom name → Term.isSymbolic name = false) :
    call.countsAsOperator = call.passesForOperation := by
  obtain ⟨token, name, names, arguments⟩ := call
  cases names with
  | atom => simp [countsAsOperator, passesForOperation, isQuoted, unquoted name rfl]
  | quoted => simp [countsAsOperator, passesForOperation, isQuoted]

/-! ## References -/

/-- A source that is read as a clause has a derivation of all its tokens that stands for it. By
every such derivation the clause refers to the names of the calls in its body, in order and each name
once, but for the calls that are taken for operations. -/
theorem referencedPredicates_eq_calls {source : String} {clause : Clause}
    (parses : parseClause source = .ok clause) :
    ∃ lexemes, tokenize source = .ok lexemes ∧
      (∃ tree : ClauseTree, tree.Derives (lexemes.map Lexeme.token) clause) ∧
      ∀ tree : ClauseTree, tree.Derives (lexemes.map Lexeme.token) clause →
        clause.referencedPredicates =
          ((tree.calls.filter fun call => !call.passesForOperation).map Call.name).eraseDups := by
  obtain ⟨lexemes, scans, -⟩ := bind_eq_ok_iff.mp parses
  refine ⟨lexemes, scans, shownBy_clauseTree (isClause_of_parseClause scans parses), ?_⟩
  rintro tree ⟨tokens, rfl⟩
  -- The trees admit names of any spelling, so here it counts that the tokens were scanned.
  have told : ∀ call ∈ tree.calls, call.countsAsOperator = call.passesForOperation := by
    intro call member
    refine call.countsAsOperator_eq fun name isAtom => isSymbolic_of_tokenize scans ?_
    rw [← tokens, ← isAtom]
    exact tree.call_token_mem member
  rw [Clause.referencedPredicates, firstOccurrencesBy_id_eq_eraseDups, tree.goals_clause,
    filterMap_name?_goals, ← ClauseTree.calls,
    List.filter_congr fun call member => congrArg not (told call member)]

/-- What `eligible(X) :- \\+ (banned(X) ; age(X, A), A >= 18), 'has id'(X), 3 is N, banned(Y).`
stands for. -/
def exampleEligible : Clause :=
  ⟨.compound "eligible" [.var "X"], some (.and [
    .not (.or [.goal (.compound "banned" [.var "X"]),
      .and [.goal (.compound "age" [.var "X", .var "A"]),
        .goal (.compound ">=" [.var "A", .number "18"])]]),
    .goal (.compound "has id" [.var "X"]), .goal (.compound "is" [.number "3", .var "N"]),
    .goal (.compound "banned" [.var "Y"])])⟩

/-- Calls under a negation and in a disjunction, a quoted name, comparisons and a name that is
called twice. -/
theorem exampleEligible_references :
    parseClause
        "eligible(X) :- \\+ (banned(X) ; age(X, A), A >= 18), 'has id'(X), 3 is N, banned(Y)." =
      .ok exampleEligible ∧
    exampleEligible.referencedPredicates = ["banned", "age", "has id"] ∧
    ∃ lexemes,
      tokenize
          "eligible(X) :- \\+ (banned(X) ; age(X, A), A >= 18), 'has id'(X), 3 is N, banned(Y)." =
        .ok lexemes ∧
      (∃ tree : ClauseTree, tree.Derives (lexemes.map Lexeme.token) exampleEligible) ∧
      ∀ tree : ClauseTree, tree.Derives (lexemes.map Lexeme.token) exampleEligible →
        exampleEligible.referencedPredicates =
          ((tree.calls.filter fun call => !call.passesForOperation).map Call.name).eraseDups := by
  have parses : parseClause
      "eligible(X) :- \\+ (banned(X) ; age(X, A), A >= 18), 'has id'(X), 3 is N, banned(Y)." =
      .ok exampleEligible := toOption_eq_some_iff.mp (by decide +kernel)
  exact ⟨parses, by decide +kernel, referencedPredicates_eq_calls parses⟩

/-- What `alarm(X) :- '#urgent'(X), open(X).` stands for. -/
def exampleAlarm : Clause :=
  ⟨.compound "alarm" [.var "X"],
    some (.and [.goal (.compound "#urgent" [.var "X"]), .goal (.compound "open" [.var "X"])])⟩

/-- A derivation of the tokens of `alarm(X) :- '#urgent'(X), open(X).`. -/
def exampleAlarmTree : ClauseTree :=
  let argument := GoalsTree.single (.sum (.single (.single (.var "X"))))
  let call {token : Token} {name : String} (names : Names token name) : UnaryTree :=
    .goal (.sum (.single (.single (.compound names argument))))
  .rule (.compound (@Names.atom "alarm") argument) rfl
    (.single (.cons (call (@Names.quoted "'#urgent'")) (.single (call (@Names.atom "open")))))

/-- A clause need not refer to all the names that its body calls: the quoted name `#urgent` is
called like `open`, and it begins like an operator. -/
theorem exampleAlarm_not_referenced :
    parseClause "alarm(X) :- '#urgent'(X), open(X)." = .ok exampleAlarm ∧
    (∃ lexemes, tokenize "alarm(X) :- '#urgent'(X), open(X)." = .ok lexemes ∧
      exampleAlarmTree.Derives (lexemes.map Lexeme.token) exampleAlarm) ∧
    exampleAlarmTree.calls.map Call.name = ["#urgent", "open"] ∧
    exampleAlarm.referencedPredicates = ["open"] := by
  have parses : parseClause "alarm(X) :- '#urgent'(X), open(X)." = .ok exampleAlarm :=
    toOption_eq_some_iff.mp (by decide +kernel)
  obtain ⟨lexemes, scans, -⟩ := bind_eq_ok_iff.mp parses
  have tokens : (tokenize "alarm(X) :- '#urgent'(X), open(X).").map (List.map Lexeme.token) =
      .ok exampleAlarmTree.tokens := toOption_eq_some_iff.mp (by decide +kernel)
  rw [scans] at tokens
  exact ⟨parses, ⟨lexemes, scans, (Except.ok.inj tokens).symm, rfl⟩, by decide +kernel,
    by decide +kernel⟩

end Statute.Logic
