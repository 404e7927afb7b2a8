import Statute.Proofs.Logic.Grammar
import Statute.Proofs.Logic.Reading

/-!
# Looking ahead

Readers look one token ahead, and at `not` two tokens, so what they return depends on what follows
it. The module says with which tokens terms begin, and for each rule of the grammar which tokens do
not extend what it derives. Judgments about readers are put together where the second of them begins
with a token that ends the first.
-/

namespace Statute.Logic

open Grammar

/-- A token that can come first in a term. -/
def Token.beginsTerm : Token → Bool
  | .var _ | .number _ | .string _ | .atom _ | .quotedAtom _ | .openBracket | .openParen => true
  | .operator spelling => spelling == "-"
  | _ => false

/-- Tokens that begin as a term does. -/
def BeginsTerm (tokens : List Token) : Prop :=
  tokens.head?.any Token.beginsTerm = true

/-- How tokens begin does not depend on what stands behind them. -/
theorem BeginsTerm.append {tokens : List Token} (begins : BeginsTerm tokens)
    (behind : List Token) : BeginsTerm (tokens ++ behind) := by
  cases tokens with
  | nil => cases begins
  | cons first others => exact begins

namespace Grammar

/-- Operands begin as the first of them does. -/
theorem OperandsWith.beginsTerm {spellings : List String} {operand : Phrase Term}
    (begins : ∀ {tokens term}, operand tokens term → BeginsTerm tokens) {tokens : List Token}
    {term : Term} (derives : OperandsWith spellings operand tokens term) : BeginsTerm tokens := by
  induction derives with
  | single only => exact begins only
  | operation _ _ _ inductionHypothesis => exact inductionHypothesis.append _

/-- A goal begins as its first primary does. -/
theorem IsGoal.beginsTerm {primary : Phrase Term}
    (begins : ∀ {tokens term}, primary tokens term → BeginsTerm tokens) {tokens : List Token}
    {term : Term} (derives : IsGoal primary tokens term) : BeginsTerm tokens := by
  have sums {tokens : List Token} {term : Term} (sum : IsSum primary tokens term) :
      BeginsTerm tokens :=
    sum.beginsTerm (OperandsWith.beginsTerm begins)
  cases derives with
  | sum only => exact sums only
  | comparison before _ _ => exact (sums before).append _

/-- Items with separators between them begin as the first of them does. -/
theorem Separated.beginsTerm {separator : Token} {item : Phrase Term}
    (begins : ∀ {tokens term}, item tokens term → BeginsTerm tokens) {tokens : List Token}
    {values : List Term} (derives : Separated separator item tokens values) :
    BeginsTerm tokens := by
  cases derives with
  | single only => exact begins only
  | cons first _ => exact (begins first).append _

/-- A primary begins as a term does, by its own first token. -/
theorem InPrimary.beginsTerm {primary : Phrase Term} {tokens : List Token} {term : Term}
    (derives : InPrimary primary tokens term) : BeginsTerm tokens := by
  cases derives with
  | atom names => cases names <;> rfl
  | compound names _ => cases names <;> rfl
  | _ => rfl

/-- A primary with any number of levels begins as a term does. -/
theorem IsPrimary.beginsTerm {levels : Nat} {tokens : List Token} {term : Term}
    (derives : IsPrimary levels tokens term) : BeginsTerm tokens := by
  cases levels with
  | zero => cases derives
  | succ levels => exact InPrimary.beginsTerm derives

end Grammar

/-! ## What does not extend a derivation -/

/-- A token that does not extend a primary. -/
def EndsPrimary (next : Option Token) : Prop :=
  next ≠ some .openParen

/-- A token that does not extend operands of one rank. -/
def EndsOperands (spellings : List String) (ends : Option Token → Prop) (next : Option Token) :
    Prop :=
  ends next ∧ ∀ spelling ∈ spellings, next ≠ some (.operator spelling)

/-- A token that does not extend a sum. -/
def EndsSum : Option Token → Prop :=
  EndsOperands ["+", "-"] (EndsOperands ["*", "/"] EndsPrimary)

/-- A token that does not extend a goal. -/
def EndsGoal (next : Option Token) : Prop :=
  EndsSum next ∧ Reader.comparison? next = none

/-- A token that does not extend a body. -/
def EndsBody (next : Option Token) : Prop :=
  EndsGoal next ∧ next ≠ some .comma ∧ next ≠ some .semicolon

instance : DecidablePred EndsSum := fun next =>
  inferInstanceAs (Decidable ((next ≠ some .openParen ∧
    ∀ spelling ∈ ["*", "/"], next ≠ some (.operator spelling)) ∧
    ∀ spelling ∈ ["+", "-"], next ≠ some (.operator spelling)))

instance : DecidablePred EndsGoal := fun next =>
  inferInstanceAs (Decidable (EndsSum next ∧ Reader.comparison? next = none))

instance : DecidablePred EndsBody := fun next =>
  inferInstanceAs (Decidable (EndsGoal next ∧ next ≠ some .comma ∧ next ≠ some .semicolon))

/-- A comparison extends no sum. -/
theorem endsSum_of_compares {token : Token} {spelling : String}
    (compares : Compares token spelling) : EndsSum (some token) := by
  cases compares with
  | operator listed =>
    have every : ∀ known ∈ Reader.comparisonOperators, EndsSum (some (.operator known)) := by decide
    exact every _ listed
  | word => decide

/-- The readers find the names of terms. -/
theorem Grammar.Names.termName? {token : Token} {name : String} (names : Names token name) :
    Logic.termName? token = some name := by
  cases names <;> rfl

namespace Reads

variable {α β : Type} {levels : Nat} {tokens : List Token} {follow : Option Token → Prop}

/-! ## Readers put together -/

/-- What is read behind a token is read at the token by a reader that moves on from there. -/
theorem behind {token : Token} {reader next : Reader α} {value : α}
    (reads : Reads next levels tokens value follow)
    (moves : ∀ cursor : Cursor, cursor.peek? = some token → reader cursor = next cursor.advance) :
    Reads reader levels (token :: tokens) value follow := by
  intro read rest depth previous length same free followed
  obtain ⟨lexeme, read, rfl, rfl, laterSame⟩ := List.map_eq_cons_iff.mp same
  rw [List.cons_append, moves _ rfl]
  exact reads read rest depth lexeme.start length laterSame free followed

/-- What is read behind two tokens is read at the first of them by a reader that moves on from
there. -/
theorem behind_both {token second : Token} {reader next : Reader α} {value : α}
    (reads : Reads next levels tokens value follow)
    (moves : ∀ cursor : Cursor, cursor.peek? = some token → cursor.peekSecond? = some second →
      reader cursor = next cursor.advance.advance) :
    Reads reader levels (token :: second :: tokens) value follow := by
  intro read rest depth previous length same free followed
  obtain ⟨lexeme, read, rfl, rfl, laterSame⟩ := List.map_eq_cons_iff.mp same
  obtain ⟨other, read, rfl, rfl, secondSame⟩ := List.map_eq_cons_iff.mp laterSame
  rw [List.cons_append, List.cons_append, moves _ rfl rfl]
  exact reads read rest depth other.start length secondSame free followed

/-- The reader that is taken at the first token. -/
theorem at_first {token : Token} {reader other : Reader α} {value : α}
    (reads : Reads other levels (token :: tokens) value follow)
    (taken : ∀ cursor : Cursor, cursor.peek? = some token → reader cursor = other cursor) :
    Reads reader levels (token :: tokens) value follow := by
  intro read rest depth previous length same free followed
  obtain ⟨lexeme, read, rfl, rfl, laterSame⟩ := List.map_eq_cons_iff.mp same
  rw [List.cons_append, taken _ rfl]
  exact reads (lexeme :: read) rest depth previous length same free followed

/-- Nothing is read where a result is there already. -/
theorem done (value : α) :
    Reads (fun cursor => .ok (value, cursor)) levels [] value fun _ => True := by
  intro read rest depth previous length same free followed
  obtain rfl : read = [] := List.map_eq_nil_iff.mp same
  exact ⟨previous, rfl⟩

/-- Two readers one after the other, where what the second reads or what follows it comes behind the
first. -/
theorem andThen {reader : Reader α} {value : α} {result : β} {later : List Token}
    {followLater : Option Token → Prop} (first : Reads reader levels tokens value follow) (next : α → Reader β)
    (second : Reads (next value) levels later result followLater)
    (joins : ∀ behind, followLater behind → follow (later.head?.or behind)) :
    Reads (fun cursor => do
      let (value, cursor) ← reader cursor
      next value cursor) levels (tokens ++ later) result followLater := by
  intro read rest depth previous length same free followed
  obtain ⟨firstRead, laterRead, rfl, firstSame, laterSame⟩ := List.map_eq_append_iff.mp same
  have behind : headToken? (laterRead ++ rest) = later.head?.or (headToken? rest) := by
    rw [← laterSame]
    cases laterRead <;> rfl
  obtain ⟨start, firstReads⟩ := first firstRead (laterRead ++ rest) depth previous length firstSame
    free (behind ▸ joins _ followed)
  obtain ⟨finish, laterReads⟩ := second laterRead rest depth start length laterSame free followed
  refine ⟨finish, ?_⟩
  simp only [List.append_assoc, firstReads, bind, Except.bind]
  exact laterReads

/-- The token that must come next. -/
theorem expect (token : Token) (wanted : Expectation) (value : α) :
    Reads (fun cursor => do
      let cursor ← cursor.expect token wanted
      return (value, cursor)) levels [token] value fun _ => True := by
  intro read rest depth previous length same free followed
  obtain ⟨lexeme, nothing, rfl, rfl, noMore⟩ := List.map_eq_cons_iff.mp same
  obtain rfl : nothing = [] := List.map_eq_nil_iff.mp noMore
  refine ⟨lexeme.start, ?_⟩
  simp only [List.singleton_append, Cursor.expect_cons, bind, Except.bind, pure, Except.pure]

/-- What is read up to the token that closes it. -/
theorem closed {reader : Reader α} {value : α} (reads : Reads reader levels tokens value follow)
    (finish : α → β) (closing : Token) (wanted : Expectation) (ends : follow (some closing)) :
    Reads (fun cursor => do
      let (value, cursor) ← reader cursor
      let cursor ← cursor.expect closing wanted
      return (finish value, cursor)) levels (tokens ++ [closing]) (finish value) fun _ => True :=
  reads.andThen (fun value cursor => do
    let cursor ← cursor.expect closing wanted
    return (finish value, cursor)) (expect closing wanted _) fun _ _ => ends

/-- What is made of what is read. -/
theorem map {reader : Reader α} {value : α} (reads : Reads reader levels tokens value follow)
    (finish : α → β) :
    Reads (fun cursor => do
      let (value, cursor) ← reader cursor
      return (finish value, cursor)) levels tokens (finish value) follow := by
  intro read rest depth previous length same free followed
  obtain ⟨start, reads⟩ := reads read rest depth previous length same free followed
  refine ⟨start, ?_⟩
  simp only [reads, bind, Except.bind, pure, Except.pure]

/-- A level is entered in front of what is read and left behind it. -/
theorem entered {reader inside : Reader α} {value : α}
    (enters : ∀ cursor, reader cursor = do
      let cursor ← cursor.enter
      let (value, cursor) ← inside cursor
      return (value, cursor.leave))
    (reads : Reads inside levels tokens value follow) :
    Reads reader (levels + 1) tokens value follow := by
  intro read rest depth previous length same free followed
  obtain ⟨start, insideReads⟩ := reads read rest (depth + 1) previous length same
    (by omega) followed
  have opens : ¬ maximumDepth < depth + 1 := by omega
  refine ⟨start, ?_⟩
  rw [enters]
  simp only [Cursor.enter, opens, if_false, insideReads, bind, Except.bind, Cursor.leave,
    Nat.add_sub_cancel, pure, Except.pure]

end Reads

end Statute.Logic
