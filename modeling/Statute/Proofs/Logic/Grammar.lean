import Statute.Logic.Clause.Reader

/-!
# The grammar of clauses

Which tokens are terms, goals, bodies and clauses, and what they stand for. The relations state the
rules of the grammar and know nothing of cursors, look-ahead or errors:

```text
clause      := primary [":-" body] "."
body        := conjunction (";" conjunction)*
conjunction := unary ("," unary)*
unary       := "\+" unary | "not" "(" body ")" | "(" body ")" | goal
goal        := sum [comparison sum]
sum         := product (("+" | "-") product)*
product     := primary (("*" | "/") primary)*
primary     := var | number | "-" number | string | name ["(" goals ")"]
             | "[" [goals ["|" sum]] "]" | "(" sum ")"
goals       := goal ("," goal)*
```

Bodies, unaries and primaries are judged with the number of levels that a derivation may still enter
when it enters them. A goal may begin as other unaries do, with a parenthesis or with `not` and a
parenthesis. Which goals count as unaries is therefore left open: `admits` says it of their tokens.
With `anyGoal` the grammar is the one above.
-/

namespace Statute.Logic

/-- Tokens and what they stand for. -/
abbrev Phrase (α : Type) :=
  List Token → α → Prop

namespace Grammar

variable {α : Type}

/-- One item or more with a separator between neighbours. -/
inductive Separated (separator : Token) (item : Phrase α) : List Token → List α → Prop where
  | single {tokens value} (only : item tokens value) : Separated separator item tokens [value]
  | cons {tokens value later values} (first : item tokens value)
      (others : Separated separator item later values) :
      Separated separator item (tokens ++ separator :: later) (value :: values)

/-- Operands with operators of one rank between them, which group to the left. -/
inductive OperandsWith (spellings : List String) (operand : Phrase Term) :
    List Token → Term → Prop where
  | single {tokens term} (only : operand tokens term) : OperandsWith spellings operand tokens term
  | operation {leftTokens left spelling rightTokens right}
      (before : OperandsWith spellings operand leftTokens left) (listed : spelling ∈ spellings)
      (last : operand rightTokens right) :
      OperandsWith spellings operand (leftTokens ++ .operator spelling :: rightTokens)
        (.compound spelling [left, right])

/-- Products of primaries. -/
def IsProduct (primary : Phrase Term) : Phrase Term :=
  OperandsWith ["*", "/"] primary

/-- Sums of products. -/
def IsSum (primary : Phrase Term) : Phrase Term :=
  OperandsWith ["+", "-"] (IsProduct primary)

/-- The tokens of comparisons. -/
inductive Compares : Token → String → Prop where
  | operator {spelling} (listed : spelling ∈ Reader.comparisonOperators) :
      Compares (.operator spelling) spelling
  | word : Compares (.atom "is") "is"

/-- Comparisons are recognized by their tokens. -/
theorem comparison?_eq_some_iff {token : Token} {spelling : String} :
    Reader.comparison? (some token) = some spelling ↔ Compares token spelling := by
  constructor
  · intro found
    unfold Reader.comparison? at found
    split at found
    next same =>
      obtain rfl := Option.some.inj same
      split at found
      next listed =>
        obtain rfl := Option.some.inj found
        exact .operator (List.contains_iff_mem.mp listed)
      next => cases found
    next same =>
      obtain rfl := Option.some.inj same
      obtain rfl := Option.some.inj found
      exact .word
    next => cases found
  · rintro (listed | _)
    · exact if_pos (List.contains_iff_mem.mpr listed)
    · rfl

/-- A sum, or one comparison of two. -/
inductive IsGoal (primary : Phrase Term) : List Token → Term → Prop where
  | sum {tokens term} (only : IsSum primary tokens term) : IsGoal primary tokens term
  | comparison {leftTokens left token spelling rightTokens right}
      (before : IsSum primary leftTokens left) (compares : Compares token spelling)
      (behind : IsSum primary rightTokens right) :
      IsGoal primary (leftTokens ++ token :: rightTokens) (.compound spelling [left, right])

/-- Arguments of a compound term or items of a list. -/
def AreGoals (primary : Phrase Term) : Phrase (List Term) :=
  Separated .comma (IsGoal primary)

/-- The names that tokens give to terms. -/
inductive Names : Token → String → Prop where
  | atom {name} : Names (.atom name) name
  | quoted {spelling} : Names (.quotedAtom spelling) (Reader.unquote spelling)

/-- What a primary consists of, inside the level that it enters. -/
inductive InPrimary (primary : Phrase Term) : List Token → Term → Prop where
  | var {name} : InPrimary primary [.var name] (.var name)
  | number {text} : InPrimary primary [.number text] (.number text)
  | negative {text} : InPrimary primary [.operator "-", .number text] (.number ("-" ++ text))
  | string {spelling} : InPrimary primary [.string spelling] (.string (Reader.unquote spelling))
  | atom {token name} (names : Names token name) : InPrimary primary [token] (.atom name)
  | compound {token name tokens arguments} (names : Names token name)
      (inside : AreGoals primary tokens arguments) :
      InPrimary primary (token :: .openParen :: tokens ++ [.closeParen]) (.compound name arguments)
  | emptyList : InPrimary primary [.openBracket, .closeBracket] (.list [] none)
  | list {tokens items} (inside : AreGoals primary tokens items) :
      InPrimary primary (.openBracket :: tokens ++ [.closeBracket]) (.list items none)
  | listWithTail {tokens items tailTokens tail} (inside : AreGoals primary tokens items)
      (behind : IsSum primary tailTokens tail) :
      InPrimary primary (.openBracket :: tokens ++ .bar :: tailTokens ++ [.closeBracket])
        (.list items (some tail))
  | grouped {tokens term} (inside : IsSum primary tokens term) :
      InPrimary primary (.openParen :: tokens ++ [.closeParen]) term

/-- Primaries, with the levels that they may enter. -/
def IsPrimary : (levels : Nat) → Phrase Term
  | 0 => fun _ _ => False
  | levels + 1 => InPrimary (IsPrimary levels)

/-- Every goal counts as a unary. -/
def anyGoal (_tokens : List Token) : Prop :=
  True

/-- A goal that begins neither with a parenthesis nor with `not` and a parenthesis. -/
def BeginsApart (tokens : List Token) : Prop :=
  ¬ [.openParen] <+: tokens ∧ ¬ [.atom "not", .openParen] <+: tokens

instance : DecidablePred BeginsApart := fun tokens =>
  inferInstanceAs
    (Decidable (¬ [.openParen] <+: tokens ∧ ¬ [.atom "not", .openParen] <+: tokens))

/-- Unaries joined by commas. -/
def IsConjunction (unary : Phrase Body) : Phrase Body := fun tokens body =>
  ∃ parts, Separated .comma unary tokens parts ∧ body = Reader.collapse .and parts

/-- What a body consists of, inside the level that it enters. -/
def InBody (unary : Phrase Body) : Phrase Body := fun tokens body =>
  ∃ parts, Separated .semicolon (IsConjunction unary) tokens parts ∧
    body = Reader.collapse .or parts

/-- What a unary consists of, inside the level that it enters. -/
inductive InUnary (admits : List Token → Prop) (unary body : Phrase Body) (primary : Phrase Term) :
    List Token → Body → Prop where
  | notProvable {tokens inner} (behind : unary tokens inner) :
      InUnary admits unary body primary (.notProvable :: tokens) (.not inner)
  | negation {tokens inner} (inside : body tokens inner) :
      InUnary admits unary body primary (.atom "not" :: .openParen :: tokens ++ [.closeParen])
        (.not inner)
  | grouped {tokens inner} (inside : body tokens inner) :
      InUnary admits unary body primary (.openParen :: tokens ++ [.closeParen]) inner
  | goal {tokens term} (admitted : admits tokens) (only : IsGoal primary tokens term) :
      InUnary admits unary body primary tokens (.goal term)

mutual

/-- Bodies, with the levels that they may enter. -/
def IsBody (admits : List Token → Prop) : (levels : Nat) → Phrase Body
  | 0 => fun _ _ => False
  | levels + 1 => InBody (IsUnary admits levels)

/-- Unaries, with the levels that they may enter. -/
def IsUnary (admits : List Token → Prop) : (levels : Nat) → Phrase Body
  | 0 => fun _ _ => False
  | levels + 1 => InUnary admits (IsUnary admits levels) (IsBody admits levels) (IsPrimary levels)

end

/-- Clauses. A head and a body may each enter `maximumDepth` levels. -/
inductive IsClause (admits : List Token → Prop) : List Token → Clause → Prop where
  | fact {tokens head} (begins : IsPrimary maximumDepth tokens head)
      (callable : head.isCallable = true) :
      IsClause admits (tokens ++ [.stop]) ⟨head, none⟩
  | rule {tokens head bodyTokens body} (begins : IsPrimary maximumDepth tokens head)
      (callable : head.isCallable = true) (behind : IsBody admits maximumDepth bodyTokens body) :
      IsClause admits (tokens ++ .neck :: bodyTokens ++ [.stop]) ⟨head, some body⟩

end Grammar

end Statute.Logic
