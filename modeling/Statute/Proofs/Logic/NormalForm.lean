import Statute.Examples.Constant
import Statute.Proofs.Logic.Grammar

/-!
# Normal forms of clauses

The written form of a tree keeps neither the quotation marks of names nor the parentheses around
operands and conjunctions. A tree is bare when it needs none of them: names are plain, operands have
the rank of their place, and conjunctions are not parts of other bodies than disjunctions. It is well
formed when its variables, numbers and strings are spelled as such and no list of parts is too short.
Both are judged on trees, wherever they come from.

The module also counts how many levels of nesting the written form of a tree enters.
-/

namespace Statute.Logic

/-- The rules of the grammar for terms, the narrowest first. -/
inductive Rank where
  | primary
  | product
  | sum
  | goal
deriving DecidableEq, Repr

namespace Rank

/-- Ranks in their order. -/
def width : Rank → Nat
  | primary => 0
  | product => 1
  | sum => 2
  | goal => 3

/-- What the grammar derives by the rule of a rank. -/
def phrase (primaries : Phrase Term) : Rank → Phrase Term
  | primary => primaries
  | product => Grammar.IsProduct primaries
  | sum => Grammar.IsSum primaries
  | goal => Grammar.IsGoal primaries

/-- What is derived by a narrower rule is derived by each wider one. -/
theorem phrase_mono {primaries : Phrase Term} {narrow wide : Rank}
    (wider : narrow.width ≤ wide.width) {tokens : List Token} {term : Term}
    (derives : narrow.phrase primaries tokens term) : wide.phrase primaries tokens term := by
  cases narrow <;> cases wide <;> first
    | exact derives
    | exact absurd wider (by decide)
    | skip
  case primary.product => exact .single derives
  case primary.sum => exact .single (.single derives)
  case primary.goal => exact .sum (.single (.single derives))
  case product.sum => exact .single derives
  case product.goal => exact .sum (.single derives)
  case sum.goal => exact .sum derives

end Rank

/-- Operators with the rank of what they make and the ranks of their operands. -/
inductive Operates : (spelling : String) → (whole left right : Rank) → Prop where
  | product {spelling} (listed : spelling ∈ ["*", "/"]) :
      Operates spelling .product .product .primary
  | sum {spelling} (listed : spelling ∈ ["+", "-"]) : Operates spelling .sum .sum .product
  | comparison {spelling} (listed : spelling ∈ Reader.comparisonOperators) :
      Operates spelling .goal .sum .sum

/-- Comparisons of the grammar are operators. -/
theorem Operates.of_compares {token : Token} {spelling : String}
    (compares : Grammar.Compares token spelling) : Operates spelling .goal .sum .sum := by
  cases compares with
  | operator listed => exact .comparison listed
  | word => exact .comparison (by decide)

/-- A text of a variable: an upper-case letter or an underscore, then characters of names. -/
def isVariableName : List Char → Bool
  | first :: rest => startsVariable first && rest.all isNameCharacter
  | [] => false

/-- A text that is one string when it stands between quotation marks. -/
def IsStringContent (text : String) : Prop :=
  scanToken? ('"' :: (text.toList ++ ['"'])) = some (.string ("\"" ++ text ++ "\""), [])

namespace Term

/-- Terms whose variables, numbers and strings are spelled as such, whose functors have arguments
and whose tails stand behind items. -/
inductive WellFormed : Term → Prop where
  | atom {name} : WellFormed (.atom name)
  | var {name} (spelled : isVariableName name.toList = true) : WellFormed (.var name)
  | number {text} (spelled : Examples.isPlainNumber text.toList = true) : WellFormed (.number text)
  | string {text} (spelled : IsStringContent text) : WellFormed (.string text)
  | compound {functor arguments} (nonempty : arguments ≠ [])
      (inside : ∀ argument ∈ arguments, WellFormed argument) :
      WellFormed (.compound functor arguments)
  | list {items} (inside : ∀ item ∈ items, WellFormed item) : WellFormed (.list items none)
  | listWithTail {items tail} (nonempty : items ≠ []) (inside : ∀ item ∈ items, WellFormed item)
      (behind : WellFormed tail) : WellFormed (.list items (some tail))

/-- An operator with two operands is well formed when they are. -/
theorem WellFormed.operation {spelling : String} {left right : Term}
    (leftWellFormed : left.WellFormed) (rightWellFormed : right.WellFormed) :
    (Term.compound spelling [left, right]).WellFormed :=
  .compound (List.cons_ne_nil _ _)
    (List.forall_mem_cons.mpr ⟨leftWellFormed, List.forall_mem_singleton.mpr rightWellFormed⟩)

/-- Terms of a rank that need neither quotation marks nor parentheses. The functor `is` with two
arguments is an operator. -/
inductive Bare : Rank → Term → Prop where
  | atom {name} (plain : Examples.isPlainName name.toList = true) : Bare .primary (.atom name)
  | var {name} : Bare .primary (.var name)
  | number {text} : Bare .primary (.number text)
  | string {text} : Bare .primary (.string text)
  | call {functor arguments} (plain : Examples.isPlainName functor.toList = true)
      (notInfix : ¬ (functor = "is" ∧ arguments.length = 2))
      (inside : ∀ argument ∈ arguments, Bare .goal argument) :
      Bare .primary (.compound functor arguments)
  | operation {spelling whole leftRank rightRank left right}
      (operates : Operates spelling whole leftRank rightRank) (leftBare : Bare leftRank left)
      (rightBare : Bare rightRank right) : Bare whole (.compound spelling [left, right])
  | list {items} (inside : ∀ item ∈ items, Bare .goal item) : Bare .primary (.list items none)
  | listWithTail {items tail} (inside : ∀ item ∈ items, Bare .goal item)
      (behind : Bare .sum tail) : Bare .primary (.list items (some tail))
  | widen {narrow wide term} (bare : Bare narrow term) (wider : narrow.width ≤ wide.width) :
      Bare wide term

/-- Terms whose written form begins with a call of `not`. -/
inductive BeginsWithNot : Term → Prop where
  | call {arguments} : BeginsWithNot (.compound "not" arguments)
  | operation {spelling whole leftRank rightRank left right}
      (operates : Operates spelling whole leftRank rightRank) (front : BeginsWithNot left) :
      BeginsWithNot (.compound spelling [left, right])

/-- A compound term begins with a call of `not` when it is one or its left operand does. -/
theorem BeginsWithNot.cases_compound {functor : String} {arguments : List Term}
    (begins : (Term.compound functor arguments).BeginsWithNot) :
    functor = "not" ∨ ∃ left right, arguments = [left, right] ∧ left.BeginsWithNot := by
  cases begins with
  | call => exact .inl rfl
  | operation operates front => exact .inr ⟨_, _, rfl, front⟩

/-- A functor that stands between two arguments. -/
def isInfix (functor : String) (arguments : List Term) : Bool :=
  (isSymbolic functor || functor == "is") && arguments.length == 2

/-- Every operator of terms stands between two operands. -/
theorem isInfix_of_operates {spelling : String} {whole left right : Rank}
    (operates : Operates spelling whole left right) (first second : Term) :
    isInfix spelling [first, second] = true := by
  have every : ∀ known ∈ ["*", "/"] ++ ["+", "-"] ++ Reader.comparisonOperators,
      (isSymbolic known || known == "is") = true := by decide
  have listed : spelling ∈ ["*", "/"] ++ ["+", "-"] ++ Reader.comparisonOperators := by
    cases operates with
    | product listed => exact List.mem_append_left _ (List.mem_append_left _ listed)
    | sum listed => exact List.mem_append_left _ (List.mem_append_right _ listed)
    | comparison listed => exact List.mem_append_right _ listed
  rw [isInfix, every spelling listed]
  rfl

/-- Operators between two operands are no calls. -/
theorem isOperator_of_operates {spelling : String} {whole leftRank rightRank : Rank}
    (operates : Operates spelling whole leftRank rightRank) (left right : Term) :
    (Term.compound spelling [left, right]).isOperator = true := by
  simpa [isInfix, isOperator] using isInfix_of_operates operates left right

mutual

/-- The levels that the written form of a term enters. Operators enter none of their own. -/
def levels : Term → Nat
  | compound functor arguments =>
    if isInfix functor arguments then levelsOfAll arguments else levelsOfAll arguments + 1
  | list items none => levelsOfAll items + 1
  | list items (some tail) => max (levelsOfAll items) tail.levels + 1
  | _ => 1

/-- The levels that the written forms of several terms enter. -/
def levelsOfAll : List Term → Nat
  | [] => 0
  | term :: rest => max term.levels (levelsOfAll rest)

end

/-- Several terms take no more levels than a bound exactly when none of them takes more. -/
theorem levelsOfAll_le_iff {terms : List Term} {bound : Nat} :
    levelsOfAll terms ≤ bound ↔ ∀ term ∈ terms, term.levels ≤ bound := by
  induction terms with
  | nil => exact iff_of_true (Nat.zero_le _) (List.forall_mem_nil _)
  | cons term terms inductionHypothesis =>
    rw [levelsOfAll, Nat.max_le, inductionHypothesis, List.forall_mem_cons]

end Term

namespace Body

/-- Conjunctions have no parentheses of their own. -/
def isConjunction : Body → Bool
  | .and _ => true
  | _ => false

/-- Bodies of well-formed goals in which conjunctions and disjunctions have several parts. -/
inductive WellFormed : Body → Prop where
  | goal {term} (inside : Term.WellFormed term) : WellFormed (.goal term)
  | not {inner} (inside : WellFormed inner) : WellFormed (.not inner)
  | and {parts} (several : 2 ≤ parts.length) (inside : ∀ part ∈ parts, WellFormed part) :
      WellFormed (.and parts)
  | or {parts} (several : 2 ≤ parts.length) (inside : ∀ part ∈ parts, WellFormed part) :
      WellFormed (.or parts)

/-- Bodies of bare goals in which no parenthesis around a conjunction is missing. -/
inductive Bare : Body → Prop where
  | goal {term} (bare : Term.Bare .goal term) (begins : ¬ term.BeginsWithNot) : Bare (.goal term)
  | not {inner} (bare : Bare inner) (apart : inner.isConjunction = false) : Bare (.not inner)
  | and {parts} (bare : ∀ part ∈ parts, Bare part)
      (apart : ∀ part ∈ parts, part.isConjunction = false) : Bare (.and parts)
  | or {parts} (bare : ∀ part ∈ parts, Bare part) : Bare (.or parts)

mutual

/-- The levels that the written form of a body enters as part of another body. The parentheses of a
disjunction enter two of them. -/
def levels : Body → Nat
  | goal term => term.levels + 1
  | not inner => inner.levels + 1
  | and parts => levelsOfAll parts
  | or parts => levelsOfAll parts + 2

/-- The levels that the written forms of several parts enter. -/
def levelsOfAll : List Body → Nat
  | [] => 0
  | part :: rest => max part.levels (levelsOfAll rest)

end

/-- Several parts take no more levels than a bound exactly when none of them takes more. -/
theorem levelsOfAll_le_iff {parts : List Body} {bound : Nat} :
    levelsOfAll parts ≤ bound ↔ ∀ part ∈ parts, part.levels ≤ bound := by
  induction parts with
  | nil => exact iff_of_true (Nat.zero_le _) (List.forall_mem_nil _)
  | cons part parts inductionHypothesis =>
    rw [levelsOfAll, Nat.max_le, inductionHypothesis, List.forall_mem_cons]

end Body

namespace Clause

/-- Clauses of well-formed parts with a head that can be called. -/
structure WellFormed (clause : Clause) : Prop where
  head : clause.head.WellFormed
  callable : clause.head.isCallable = true
  body : ∀ body ∈ clause.body, body.WellFormed

/-- Clauses of bare parts. -/
structure Bare (clause : Clause) : Prop where
  head : Term.Bare .primary clause.head
  body : ∀ body ∈ clause.body, body.Bare

/-- The levels that the written form of a clause enters. -/
def levels (clause : Clause) : Nat :=
  match clause.body with
  | some body => max clause.head.levels (body.levels + 1)
  | none => clause.head.levels

end Clause

end Statute.Logic
