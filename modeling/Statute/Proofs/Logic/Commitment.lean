import Statute.Proofs.Logic.Completeness
import Statute.Proofs.Logic.Soundness

/-!
# What the readers commit themselves to

A text is read as a clause exactly when its tokens have a derivation in which no goal of a body
begins as another unary does. A parenthesis, or `not` with a parenthesis, settles at once that a body
follows, and the settlement is never taken back. So some sentences of the grammar are refused: those
in which a goal of a body can only be read with its parentheses around an operand.
-/

namespace Statute.Logic

namespace Grammar

variable {admits other : List Token → Prop}

/-- Derivations of unaries and bodies stay derivations where more goals are admitted. -/
theorem bodies_mono (more : ∀ tokens, admits tokens → other tokens) (levels : Nat) :
    (∀ {tokens part}, IsUnary admits levels tokens part → IsUnary other levels tokens part) ∧
      ∀ {tokens part}, IsBody admits levels tokens part → IsBody other levels tokens part := by
  have items {separator : Token} {item wider : Phrase Body}
      (widen : ∀ {tokens part}, item tokens part → wider tokens part) {tokens : List Token}
      {parts : List Body} (derives : Separated separator item tokens parts) :
      Separated separator wider tokens parts := by
    induction derives with
    | single only => exact .single (widen only)
    | cons first _ inductionHypothesis => exact .cons (widen first) inductionHypothesis
  induction levels with
  | zero => exact ⟨fun derives => derives.elim, fun derives => derives.elim⟩
  | succ levels inductionHypothesis =>
    obtain ⟨unaries, bodies⟩ := inductionHypothesis
    constructor
    · intro tokens part derives
      cases derives with
      | notProvable behind => exact .notProvable (unaries behind)
      | negation inside => exact .negation (bodies inside)
      | grouped inside => exact .grouped (bodies inside)
      | goal admitted only => exact .goal (more _ admitted) only
    · rintro tokens part ⟨parts, inside, same⟩
      refine ⟨parts, items ?_ inside, same⟩
      rintro tokens part ⟨conjuncts, derives, conjoined⟩
      exact ⟨conjuncts, items unaries derives, conjoined⟩

/-- A primary is a sum of its own. -/
theorem IsSum.ofPrimary {levels : Nat} {tokens : List Token} {term : Term}
    (only : IsPrimary levels tokens term) : IsSum (IsPrimary levels) tokens term :=
  .single (.single only)

/-- A clause is derived as well when more goals are admitted. -/
theorem IsClause.mono (more : ∀ tokens, admits tokens → other tokens) {tokens : List Token}
    {clause : Clause} (derives : IsClause admits tokens clause) : IsClause other tokens clause := by
  cases derives with
  | fact begins callable => exact .fact begins callable
  | rule begins callable behind =>
    exact .rule begins callable ((bodies_mono more maximumDepth).2 behind)

end Grammar

open Grammar

/-- What is read as a clause is derived by the grammar. -/
theorem isClause_anyGoal_of_parseClause {source : String} {lexemes : List Lexeme} {clause : Clause}
    (scans : tokenize source = .ok lexemes) (parses : parseClause source = .ok clause) :
    IsClause anyGoal (lexemes.map Lexeme.token) clause :=
  (isClause_of_parseClause scans parses).mono fun _ _ => trivial

/-- A source is read as a clause exactly when its tokens have a derivation of the clause in which no
goal of a body begins as another unary does. -/
theorem parseClause_eq_ok_iff_isClause {source : String} {lexemes : List Lexeme} {clause : Clause}
    (scans : tokenize source = .ok lexemes) :
    parseClause source = .ok clause ↔ IsClause BeginsApart (lexemes.map Lexeme.token) clause :=
  ⟨isClause_of_parseClause scans, parseClause_of_isClause scans⟩

/-- The head of both examples below. -/
theorem exampleHead :
    IsPrimary maximumDepth ([.atom "p", .openParen] ++ [.var "X"] ++ [.closeParen])
      (.compound "p" [.var "X"]) :=
  .compound .atom (.single (.sum (.ofPrimary .var)))

/-- The tokens of `p(X) :- X = (a).`, in which a parenthesis comes behind the comparison. -/
def exampleParenthesisBehind : List Token :=
  [.atom "p", .openParen, .var "X", .closeParen, .neck, .var "X", .operator "=", .openParen,
    .atom "a", .closeParen, .stop]

/-- The parenthesis of a right operand is read. -/
theorem exampleParenthesisBehind_read :
    (∃ lexemes, tokenize "p(X) :- X = (a)." = .ok lexemes ∧
      lexemes.map Lexeme.token = exampleParenthesisBehind) ∧
    parseClause "p(X) :- X = (a)." =
      .ok ⟨.compound "p" [.var "X"], some (.goal (.compound "=" [.var "X", .atom "a"]))⟩ := by
  have scanned : (tokenize "p(X) :- X = (a).").toOption.map (List.map Lexeme.token) =
      some exampleParenthesisBehind := by decide +kernel
  obtain ⟨lexemes, found, same⟩ := Option.map_eq_some_iff.mp scanned
  have scans := toOption_eq_some_iff.mp found
  refine ⟨⟨lexemes, scans, same⟩, (parseClause_eq_ok_iff_isClause scans).mpr ?_⟩
  rw [same]
  have inside : IsPrimary 61 [.atom "a"] (.atom "a") := InPrimary.atom .atom
  have right : IsPrimary 62 [.openParen, .atom "a", .closeParen] (.atom "a") :=
    InPrimary.grouped (.ofPrimary inside)
  have goal : IsGoal (IsPrimary 62)
      ([.var "X"] ++ .operator "=" :: [.openParen, .atom "a", .closeParen])
      (.compound "=" [.var "X", .atom "a"]) :=
    .comparison (.ofPrimary .var) (.operator (by decide)) (.ofPrimary right)
  have body : IsBody BeginsApart maximumDepth
      ([.var "X"] ++ .operator "=" :: [.openParen, .atom "a", .closeParen])
      (.goal (.compound "=" [.var "X", .atom "a"])) := by
    refine ⟨_, .single ⟨_, .single (.goal ?_ goal), rfl⟩, rfl⟩
    decide
  exact .rule exampleHead rfl body

/-- The tokens of `p(X) :- (X) = a.`, in which a parenthesis comes in front of the comparison. -/
def exampleParenthesisInFront : List Token :=
  [.atom "p", .openParen, .var "X", .closeParen, .neck, .openParen, .var "X", .closeParen,
    .operator "=", .atom "a", .stop]

/-- A sentence of the grammar can be refused: here the parenthesis of a left operand is taken for
that of a body. -/
theorem exampleParenthesisInFront_refused :
    (∃ lexemes, tokenize "p(X) :- (X) = a." = .ok lexemes ∧
      lexemes.map Lexeme.token = exampleParenthesisInFront) ∧
    IsClause anyGoal exampleParenthesisInFront
      ⟨.compound "p" [.var "X"], some (.goal (.compound "=" [.var "X", .atom "a"]))⟩ ∧
    ∀ clause, parseClause "p(X) :- (X) = a." ≠ .ok clause := by
  refine ⟨?_, ?_, ?_⟩
  · have scanned : (tokenize "p(X) :- (X) = a.").toOption.map (List.map Lexeme.token) =
        some exampleParenthesisInFront := by decide +kernel
    obtain ⟨lexemes, found, same⟩ := Option.map_eq_some_iff.mp scanned
    exact ⟨lexemes, toOption_eq_some_iff.mp found, same⟩
  · have inside : IsPrimary 61 [.var "X"] (.var "X") := InPrimary.var
    have left : IsPrimary 62 [.openParen, .var "X", .closeParen] (.var "X") :=
      InPrimary.grouped (.ofPrimary inside)
    have right : IsPrimary 62 [.atom "a"] (.atom "a") := InPrimary.atom .atom
    have goal : IsGoal (IsPrimary 62)
        ([.openParen, .var "X", .closeParen] ++ .operator "=" :: [.atom "a"])
        (.compound "=" [.var "X", .atom "a"]) :=
      .comparison (.ofPrimary left) (.operator (by decide)) (.ofPrimary right)
    have body : IsBody anyGoal maximumDepth
        ([.openParen, .var "X", .closeParen] ++ .operator "=" :: [.atom "a"])
        (.goal (.compound "=" [.var "X", .atom "a"])) :=
      ⟨_, .single ⟨_, .single (.goal trivial goal), rfl⟩, rfl⟩
    exact .rule exampleHead rfl body
  · intro clause parses
    have refused : (parseClause "p(X) :- (X) = a.").toOption = none := by decide +kernel
    rw [parses] at refused
    cases refused

end Statute.Logic
