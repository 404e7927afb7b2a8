import Statute.Proofs.Logic.Grammar

/-!
# Brackets among tokens

How many brackets are open behind some tokens, when none is closed that was not opened there and no
comma stands outside of all of them. The tokens of a goal close what they open, and their commas
stand inside of brackets.
-/

namespace Statute.Logic

open Grammar

/-- The number of open brackets behind a token. Outside of brackets there is nothing to close, and
no comma. -/
def Token.levelBehind? : Token → Nat → Option Nat
  | openParen, level | openBracket, level => some (level + 1)
  | closeParen, level + 1 | closeBracket, level + 1 => some level
  | closeParen, 0 | closeBracket, 0 => none
  | comma, level + 1 => some (level + 1)
  | comma, 0 => none
  | _, level => some level

/-- The number of open brackets behind some tokens, when `level` are open in front of them. -/
def levelBehind? (tokens : List Token) (level : Nat) : Option Nat :=
  tokens.foldlM (fun level token => token.levelBehind? level) level

@[simp] theorem levelBehind?_nil (level : Nat) : levelBehind? [] level = some level :=
  rfl

@[simp] theorem levelBehind?_cons (token : Token) (tokens : List Token) (level : Nat) :
    levelBehind? (token :: tokens) level =
      (token.levelBehind? level).bind (levelBehind? tokens) :=
  rfl

/-- The level behind two groups of tokens is that behind the second, begun where the first ends. -/
@[simp] theorem levelBehind?_append (first second : List Token) (level : Nat) :
    levelBehind? (first ++ second) level =
      (levelBehind? first level).bind (levelBehind? second) :=
  List.foldlM_append

/-- Each derivation by a rule closes all brackets that it opens, and has commas inside of them
only. -/
def KeepsLevel {α : Type} (phrase : Phrase α) : Prop :=
  ∀ ⦃tokens value⦄, phrase tokens value → ∀ level, levelBehind? tokens level = some level

/-- Each derivation by a rule does so inside of brackets, where commas may stand. -/
def KeepsInnerLevel {α : Type} (phrase : Phrase α) : Prop :=
  ∀ ⦃tokens value⦄, phrase tokens value →
    ∀ level, levelBehind? tokens (level + 1) = some (level + 1)

namespace KeepsLevel

variable {primary : Phrase Term}

/-- Operators are no brackets, so operands keep the level together. -/
theorem operandsWith {spellings : List String} (keeps : KeepsLevel primary) :
    KeepsLevel (OperandsWith spellings primary) := by
  intro tokens term derives
  induction derives with
  | single only => exact keeps only
  | operation _ _ last inductionHypothesis =>
    intro level
    simp [inductionHypothesis, keeps last, Token.levelBehind?]

/-- Sums keep the level when primaries do. -/
theorem sum (keeps : KeepsLevel primary) : KeepsLevel (IsSum primary) :=
  keeps.operandsWith.operandsWith

/-- Goals keep the level, with a comparison or without. -/
theorem goal (keeps : KeepsLevel primary) : KeepsLevel (IsGoal primary) := by
  intro tokens term derives level
  cases derives with
  | sum only => exact keeps.sum only level
  | comparison before compares behind =>
    cases compares <;> simp [keeps.sum before, keeps.sum behind, Token.levelBehind?]

/-- Commas between goals stand inside of the brackets around all of them. -/
theorem goals (keeps : KeepsLevel primary) : KeepsInnerLevel (AreGoals primary) := by
  intro tokens terms derives level
  induction derives with
  | single only => exact keeps.goal only (level + 1)
  | cons first _ inductionHypothesis =>
    simp [keeps.goal first, Token.levelBehind?, inductionHypothesis]

/-- A primary closes the bracket that it opens, and the commas of its arguments or items stand
inside of it. -/
theorem inPrimary (keeps : KeepsLevel primary) : KeepsLevel (InPrimary primary) := by
  intro tokens term derives level
  cases derives with
  | atom names => cases names <;> rfl
  | compound names inside =>
    cases names <;> simp [Token.levelBehind?, keeps.goals inside]
  | list inside => simp [Token.levelBehind?, keeps.goals inside]
  | listWithTail inside behind =>
    simp [Token.levelBehind?, keeps.goals inside, keeps.sum behind]
  | grouped inside => simp [Token.levelBehind?, keeps.sum inside]
  | _ => rfl

/-- Primaries keep the level, however many levels they may enter. -/
theorem isPrimary (levels : Nat) : KeepsLevel (IsPrimary levels) := by
  induction levels with
  | zero => exact fun _ _ derives => derives.elim
  | succ levels inductionHypothesis => exact inductionHypothesis.inPrimary

end KeepsLevel

end Statute.Logic
