import Statute.Logic.Term
import Statute.Logic.Token

/-!
# Faults of clause text

Why a text is not a clause or not a program, with the byte offset of the fault. The wording stands
in `SyntaxError.message` alone.
-/

namespace Statute.Logic

/-- What a reader needed at a place where it was not. -/
inductive Expectation where
  | term
  | number
  | stop
  | closeParen
  | closeBracket
deriving DecidableEq, Repr

/-- What is wrong with a sequence of tokens at one place. -/
inductive GrammarFault where
  /-- Something else stands where the grammar has one continuation only. -/
  | expected (wanted : Expectation) (found : Option Token)
  /-- A complete clause is followed by more tokens. -/
  | trailingInput (found : Option Token)
  /-- A number, variable, string or list stands as the head of a clause. -/
  | headNotCallable (head : Term)
deriving DecidableEq

/-- Why a text cannot be read as clauses. -/
inductive SyntaxError where
  /-- No token begins at the offset; `found` is the text that was refused. -/
  | unexpectedText (offset : Nat) (found : String)
  | grammar (offset : Nat) (fault : GrammarFault)
  /-- More levels of nesting than a reader opens. -/
  | tooDeep (offset : Nat)
deriving DecidableEq

/-- What stands at a place, for the end of a message. -/
def describeFound : Option Token → String
  | some token => "found " ++ token.describe
  | none => "found end of input"

/-- The wanted continuation in words. -/
def Expectation.message : Expectation → String
  | term => "expected term"
  | number => "expected number"
  | stop => "expected '.'"
  | closeParen => "expected ')'"
  | closeBracket => "expected ']'"

/-- The fault in words, without its offset. -/
def GrammarFault.message : GrammarFault → String
  | expected wanted found => wanted.message ++ ", " ++ describeFound found
  | trailingInput found => "unexpected input after clause, " ++ describeFound found
  | headNotCallable head =>
    "clause head must be an atom or compound term, got " ++ head.render

/-- The byte offset that an error reports. -/
def SyntaxError.offset : SyntaxError → Nat
  | unexpectedText offset _ | grammar offset _ | tooDeep offset => offset

/-- The error in words. -/
def SyntaxError.message : SyntaxError → String
  | unexpectedText offset found =>
    "Unexpected character " ++ Text.quoted found ++ " at offset " ++ toString offset
  | grammar offset fault =>
    "Parse error at offset " ++ toString offset ++ ": " ++ fault.message
  | tooDeep offset => "Maximum nesting depth exceeded at offset " ++ toString offset

end Statute.Logic
