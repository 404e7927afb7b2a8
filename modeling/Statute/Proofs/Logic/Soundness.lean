import Statute.Proofs.Logic.Grammar
import Statute.Proofs.Sequences

/-!
# Readers take what the grammar derives

What a reader returns stands for the tokens that it took, by the rule of the grammar that the reader
is for and with the levels that it was given. The readers commit themselves at the first token, so a
goal of a body that they return never begins as another unary does.
-/

namespace Statute.Logic

open Grammar

namespace Cursor

/-- The tokens between two places. -/
def Passes (cursor : Cursor) (tokens : List Token) (after : Cursor) : Prop :=
  ∃ read, cursor.rest = read ++ after.rest ∧ read.map Lexeme.token = tokens

/-- No tokens stand between two places where the same is left. -/
theorem Passes.nil {cursor after : Cursor} (same : cursor.rest = after.rest) :
    cursor.Passes [] after :=
  ⟨[], same, rfl⟩

/-- The tokens between three places are those of both steps together. -/
theorem Passes.append {cursor middle after : Cursor} {tokens later : List Token}
    (first : cursor.Passes tokens middle) (second : middle.Passes later after) :
    cursor.Passes (tokens ++ later) after := by
  obtain ⟨read, whole, rfl⟩ := first
  obtain ⟨laterRead, rest, rfl⟩ := second
  exact ⟨read ++ laterRead, by rw [whole, rest, List.append_assoc], List.map_append⟩

/-- A place is passed at the token that comes next there. -/
theorem passes_advance {cursor : Cursor} {token : Token} (next : cursor.peek? = some token) :
    cursor.Passes [token] cursor.advance := by
  obtain ⟨rest, depth, previous, length⟩ := cursor
  cases rest with
  | nil => cases next
  | cons lexeme rest => exact ⟨[lexeme], rfl, congrArg (fun token => [token]) (Option.some.inj next)⟩

/-- Two places are passed at the two tokens that come next. -/
theorem passes_advance_advance {cursor : Cursor} {token second : Token}
    (next : cursor.peek? = some token) (afterNext : cursor.peekSecond? = some second) :
    cursor.Passes [token, second] cursor.advance.advance := by
  have behind : cursor.advance.peek? = some second := by
    obtain ⟨rest, depth, previous, length⟩ := cursor
    cases rest with
    | nil => cases next
    | cons lexeme rest => exact afterNext
  exact (passes_advance next).append (passes_advance behind)

/-- A token that is eaten is the one between the places. -/
theorem passes_of_eat? {cursor after : Cursor} {wanted : Token}
    (eats : cursor.eat? wanted = some after) : cursor.Passes [wanted] after := by
  rw [eat?] at eats
  split at eats
  next isNext =>
    obtain rfl := Option.some.inj eats
    exact passes_advance isNext
  next => cases eats

/-- A token that must come next is the one between the places. -/
theorem passes_of_expect {cursor after : Cursor} {token : Token} {wanted : Expectation}
    (expects : cursor.expect token wanted = .ok after) : cursor.Passes [token] after := by
  rw [expect] at expects
  split at expects
  next found eats =>
    obtain rfl := Except.ok.inj expects
    exact passes_of_eat? eats
  next => cases expects

/-- Tokens that are passed come next. -/
theorem Passes.peek? {cursor after : Cursor} {first : Token} {others : List Token}
    (passes : cursor.Passes (first :: others) after) : cursor.peek? = some first := by
  obtain ⟨read, whole, same⟩ := passes
  obtain ⟨lexeme, read, rfl, rfl, -⟩ := List.map_eq_cons_iff.mp same
  rw [Cursor.peek?, whole]
  rfl

/-- Of two tokens that are passed the second comes after the next one. -/
theorem Passes.peekSecond? {cursor after : Cursor} {first second : Token} {others : List Token}
    (passes : cursor.Passes (first :: second :: others) after) :
    cursor.peekSecond? = some second := by
  obtain ⟨read, whole, same⟩ := passes
  obtain ⟨lexeme, read, rfl, -, later⟩ := List.map_eq_cons_iff.mp same
  obtain ⟨other, read, rfl, rfl, -⟩ := List.map_eq_cons_iff.mp later
  rw [Cursor.peekSecond?, whole]
  rfl

end Cursor

/-- A reader takes tokens of a phrase and returns what they stand for. -/
def Takes {α : Type} (reader : Reader α) (phrase : Phrase α) : Prop :=
  ∀ ⦃cursor after : Cursor⦄ ⦃value : α⦄, reader cursor = .ok (value, after) →
    ∃ tokens, cursor.Passes tokens after ∧ phrase tokens value

namespace Takes

variable {α : Type}

/-- Further items are none, or a separator and items with separators between them. -/
theorem further {item : Reader α} {phrase : Phrase α} (takes : Takes item phrase)
    {separator : Token} {bound : Nat} {cursor after : Cursor} {values : List α}
    (reads : Reader.further separator item bound cursor = .ok (values, after)) :
    (values = [] ∧ cursor = after) ∨ ∃ tokens, cursor.Passes (separator :: tokens) after ∧
      Separated separator phrase tokens values := by
  induction bound generalizing cursor values with
  | zero =>
    obtain ⟨rfl, rfl⟩ := Prod.mk.inj (Except.ok.inj reads)
    exact .inl ⟨rfl, rfl⟩
  | succ bound inductionHypothesis =>
    rw [Reader.further] at reads
    split at reads
    next =>
      obtain ⟨rfl, rfl⟩ := Prod.mk.inj (Except.ok.inj reads)
      exact .inl ⟨rfl, rfl⟩
    next behindSeparator eats =>
      obtain ⟨⟨value, behindItem⟩, itemReads, later⟩ := bind_eq_ok_iff.mp reads
      obtain ⟨⟨others, last⟩, othersRead, result⟩ := bind_eq_ok_iff.mp later
      obtain ⟨rfl, rfl⟩ := Prod.mk.inj (Except.ok.inj result)
      obtain ⟨tokens, passes, first⟩ := takes itemReads
      have separates := (Cursor.passes_of_eat? eats).append passes
      rcases inductionHypothesis othersRead with ⟨rfl, rfl⟩ | ⟨laterTokens, laterPasses, others⟩
      · exact .inr ⟨tokens, separates, .single first⟩
      · exact .inr ⟨_, separates.append laterPasses, .cons first others⟩

/-- A first item and the further ones are items with separators between them. -/
theorem separated {item : Reader α} {phrase : Phrase α} (takes : Takes item phrase)
    (separator : Token) :
    Takes (Reader.separated separator item) (Separated separator phrase) := by
  intro cursor after values reads
  obtain ⟨⟨value, behindItem⟩, itemReads, later⟩ := bind_eq_ok_iff.mp reads
  obtain ⟨⟨others, last⟩, othersRead, result⟩ := bind_eq_ok_iff.mp later
  obtain ⟨rfl, rfl⟩ := Prod.mk.inj (Except.ok.inj result)
  obtain ⟨tokens, passes, first⟩ := takes itemReads
  rcases takes.further othersRead with ⟨rfl, rfl⟩ | ⟨laterTokens, laterPasses, others⟩
  · exact ⟨tokens, passes, .single first⟩
  · exact ⟨_, passes.append laterPasses, .cons first others⟩

section Terms

variable {spellings : List String} {reader : Reader Term} {operand primary : Phrase Term}

/-- The loop over operators extends the operands in front of it. -/
theorem operations (takes : Takes reader operand) {bound : Nat} {left term : Term}
    {leftTokens : List Token} (before : OperandsWith spellings operand leftTokens left)
    {cursor after : Cursor}
    (reads : Reader.operations spellings reader bound left cursor = .ok (term, after)) :
    ∃ tokens, cursor.Passes tokens after ∧
      OperandsWith spellings operand (leftTokens ++ tokens) term := by
  have ended {left : Term} {leftTokens : List Token} {cursor : Cursor}
      (before : OperandsWith spellings operand leftTokens left)
      (same : (.ok (left, cursor) : Except SyntaxError (Term × Cursor)) = .ok (term, after)) :
      ∃ tokens, cursor.Passes tokens after ∧
        OperandsWith spellings operand (leftTokens ++ tokens) term := by
    obtain ⟨rfl, rfl⟩ := Prod.mk.inj (Except.ok.inj same)
    exact ⟨[], .nil rfl, by rwa [List.append_nil]⟩
  induction bound generalizing left leftTokens cursor with
  | zero => exact ended before reads
  | succ bound inductionHypothesis =>
    rw [Reader.operations] at reads
    split at reads
    next spelling isOperator =>
      split at reads
      next listed =>
        obtain ⟨⟨right, behindRight⟩, rightReads, later⟩ := bind_eq_ok_iff.mp reads
        obtain ⟨rightTokens, rightPasses, last⟩ := takes rightReads
        obtain ⟨tokens, passes, whole⟩ := inductionHypothesis
          (.operation before (List.contains_iff_mem.mp listed) last) later
        refine ⟨.operator spelling :: rightTokens ++ tokens, ?_, ?_⟩
        · exact ((Cursor.passes_advance isOperator).append rightPasses).append passes
        · rwa [List.append_assoc] at whole
      next => exact ended before reads
    next => exact ended before reads

/-- A first operand and the operators behind it are operands of that rank. -/
theorem operandsWith (takes : Takes reader operand) (spellings : List String) :
    Takes (Reader.operandsWith spellings reader) (OperandsWith spellings operand) := by
  intro cursor after term reads
  obtain ⟨⟨left, behindLeft⟩, leftReads, later⟩ := bind_eq_ok_iff.mp reads
  obtain ⟨leftTokens, leftPasses, only⟩ := takes leftReads
  obtain ⟨tokens, passes, whole⟩ := takes.operations (.single only) later
  exact ⟨_, leftPasses.append passes, whole⟩

/-- What the reader of sums takes is a sum. -/
theorem sum (takes : Takes reader primary) : Takes (Reader.sum reader) (IsSum primary) :=
  (takes.operandsWith ["*", "/"]).operandsWith ["+", "-"]

/-- What the reader of goals takes is a goal: a sum, or two with an operator of comparison between
them. -/
theorem goal (takes : Takes reader primary) : Takes (Reader.goal reader) (IsGoal primary) := by
  intro cursor after term reads
  obtain ⟨⟨left, behindLeft⟩, leftReads, later⟩ := bind_eq_ok_iff.mp reads
  obtain ⟨leftTokens, leftPasses, before⟩ := takes.sum leftReads
  dsimp only at later
  split at later
  next =>
    obtain ⟨rfl, rfl⟩ := Prod.mk.inj (Except.ok.inj later)
    exact ⟨leftTokens, leftPasses, .sum before⟩
  next spelling compares =>
    obtain ⟨⟨right, behindRight⟩, rightReads, result⟩ := bind_eq_ok_iff.mp later
    obtain ⟨rfl, rfl⟩ := Prod.mk.inj (Except.ok.inj result)
    obtain ⟨rightTokens, rightPasses, behind⟩ := takes.sum rightReads
    cases next : behindLeft.peek? with
    | none =>
      rw [next] at compares
      cases compares
    | some token =>
      rw [next] at compares
      exact ⟨_, leftPasses.append ((Cursor.passes_advance next).append rightPasses),
        .comparison before (comparison?_eq_some_iff.mp compares) behind⟩

/-- What the reader of arguments takes are goals between commas. -/
theorem arguments (takes : Takes reader primary) :
    Takes (Reader.arguments reader) (AreGoals primary) :=
  takes.goal.separated .comma

/-- Behind a name stand its arguments in parentheses, or nothing that belongs to it. -/
theorem callable (takes : Takes reader primary) {token : Token} {name : String}
    (names : Names token name) {cursor : Cursor} (next : cursor.peek? = some token)
    {term : Term} {after : Cursor}
    (reads : Reader.callable reader name cursor.advance = .ok (term, after)) :
    ∃ tokens, cursor.Passes tokens after ∧ InPrimary primary tokens term := by
  have named := Cursor.passes_advance next
  rw [Reader.callable] at reads
  split at reads
  next =>
    obtain ⟨rfl, rfl⟩ := Prod.mk.inj (Except.ok.inj reads)
    exact ⟨[token], named, .atom names⟩
  next opened eats =>
    obtain ⟨⟨values, behindValues⟩, valuesRead, later⟩ := bind_eq_ok_iff.mp reads
    obtain ⟨closed, closes, result⟩ := bind_eq_ok_iff.mp later
    obtain ⟨rfl, rfl⟩ := Prod.mk.inj (Except.ok.inj result)
    obtain ⟨tokens, passes, inside⟩ := takes.arguments valuesRead
    exact ⟨_, named.append ((Cursor.passes_of_eat? eats).append
      (passes.append (Cursor.passes_of_expect closes))), .compound names inside⟩

/-- Behind an opening bracket the reader of lists takes the rest of a list, so that the bracket and
what it takes are a primary. -/
theorem list (takes : Takes reader primary) {cursor : Cursor}
    (next : cursor.peek? = some .openBracket) {term : Term} {after : Cursor}
    (reads : Reader.list reader cursor.advance = .ok (term, after)) :
    ∃ tokens, cursor.Passes tokens after ∧ InPrimary primary tokens term := by
  have opened := Cursor.passes_advance next
  rw [Reader.list] at reads
  split at reads
  next closed eats =>
    obtain ⟨rfl, rfl⟩ := Prod.mk.inj (Except.ok.inj reads)
    exact ⟨_, opened.append (Cursor.passes_of_eat? eats), .emptyList⟩
  next =>
    obtain ⟨⟨items, behindItems⟩, itemsRead, later⟩ := bind_eq_ok_iff.mp reads
    obtain ⟨tokens, passes, inside⟩ := takes.arguments itemsRead
    dsimp only at later
    split at later
    next =>
      obtain ⟨closed, closes, result⟩ := bind_eq_ok_iff.mp later
      obtain ⟨rfl, rfl⟩ := Prod.mk.inj (Except.ok.inj result)
      exact ⟨_, opened.append (passes.append (Cursor.passes_of_expect closes)), .list inside⟩
    next behindBar eats =>
      obtain ⟨⟨tail, behindTail⟩, tailReads, closing⟩ := bind_eq_ok_iff.mp later
      obtain ⟨closed, closes, result⟩ := bind_eq_ok_iff.mp closing
      obtain ⟨rfl, rfl⟩ := Prod.mk.inj (Except.ok.inj result)
      obtain ⟨tailTokens, tailPasses, behind⟩ := takes.sum tailReads
      have bar := (Cursor.passes_of_eat? eats).append tailPasses
      exact ⟨_, (opened.append (passes.append bar)).append (Cursor.passes_of_expect closes),
        .listWithTail inside behind⟩

/-- What is read inside the level of a primary is one. The first token has chosen the case of the
grammar. -/
theorem primaryInside (takes : Takes reader primary) :
    Takes (Reader.primaryInside reader) (InPrimary primary) := by
  intro cursor after term reads
  rw [Reader.primaryInside] at reads
  split at reads
  next name next =>
    obtain ⟨rfl, rfl⟩ := Prod.mk.inj (Except.ok.inj reads)
    exact ⟨_, Cursor.passes_advance next, .var⟩
  next text next =>
    obtain ⟨rfl, rfl⟩ := Prod.mk.inj (Except.ok.inj reads)
    exact ⟨_, Cursor.passes_advance next, .number⟩
  next minus =>
    split at reads
    next text next =>
      obtain ⟨rfl, rfl⟩ := Prod.mk.inj (Except.ok.inj reads)
      exact ⟨_, Cursor.passes_advance_advance minus next, .negative⟩
    next => cases reads
  next spelling next =>
    obtain ⟨rfl, rfl⟩ := Prod.mk.inj (Except.ok.inj reads)
    exact ⟨_, Cursor.passes_advance next, .string⟩
  next next => exact takes.callable .atom next reads
  next next => exact takes.callable .quoted next reads
  next next => exact takes.list next reads
  next next =>
    obtain ⟨⟨inner, behindInner⟩, innerReads, later⟩ := bind_eq_ok_iff.mp reads
    obtain ⟨closed, closes, result⟩ := bind_eq_ok_iff.mp later
    obtain ⟨rfl, rfl⟩ := Prod.mk.inj (Except.ok.inj result)
    obtain ⟨tokens, passes, inside⟩ := takes.sum innerReads
    exact ⟨_, (Cursor.passes_advance next).append
      (passes.append (Cursor.passes_of_expect closes)), .grouped inside⟩
  next => cases reads

end Terms

/-- What a reader returns that opens a level is what is read inside the level. -/
theorem entered {reader inside : Reader α} {phrase : Phrase α} (takes : Takes inside phrase)
    (enters : ∀ cursor, reader cursor = (do
      let cursor ← cursor.enter
      let (value, cursor) ← inside cursor
      return (value, cursor.leave))) : Takes reader phrase := by
  intro cursor after value reads
  rw [enters] at reads
  obtain ⟨opened, opens, later⟩ := bind_eq_ok_iff.mp reads
  obtain ⟨⟨inner, behindInner⟩, insideReads, result⟩ := bind_eq_ok_iff.mp later
  obtain ⟨rfl, rfl⟩ := Prod.mk.inj (Except.ok.inj result)
  rw [Cursor.enter] at opens
  split at opens
  next => cases opens
  next =>
    obtain rfl := Except.ok.inj opens
    obtain ⟨tokens, passes, derives⟩ := takes insideReads
    exact ⟨tokens, passes, derives⟩

/-- Primaries that are read are primaries of the grammar, with as many levels. -/
theorem primary (levels : Nat) : Takes (Reader.primary levels) (IsPrimary levels) := by
  induction levels with
  | zero =>
    intro cursor after term reads
    cases reads
  | succ levels inductionHypothesis =>
    exact entered inductionHypothesis.primaryInside fun _ => rfl

section Bodies

variable {unary body : Reader Body} {isUnary isBody : Phrase Body}

/-- What the reader of conjunctions takes is a conjunction. -/
theorem conjunction (takes : Takes unary isUnary) :
    Takes (Reader.conjunction unary) (IsConjunction isUnary) := by
  intro cursor after part reads
  obtain ⟨⟨parts, last⟩, partsRead, result⟩ := bind_eq_ok_iff.mp reads
  obtain ⟨rfl, rfl⟩ := Prod.mk.inj (Except.ok.inj result)
  obtain ⟨tokens, passes, inside⟩ := takes.separated .comma partsRead
  exact ⟨tokens, passes, parts, inside, rfl⟩

/-- What the reader of bodies takes is a body. -/
theorem bodyInside (takes : Takes unary isUnary) :
    Takes (Reader.bodyInside unary) (InBody isUnary) := by
  intro cursor after part reads
  obtain ⟨⟨parts, last⟩, partsRead, result⟩ := bind_eq_ok_iff.mp reads
  obtain ⟨rfl, rfl⟩ := Prod.mk.inj (Except.ok.inj result)
  obtain ⟨tokens, passes, inside⟩ := takes.conjunction.separated .semicolon partsRead
  exact ⟨tokens, passes, parts, inside, rfl⟩

/-- What is read inside the level of a unary is one. A goal is only tried where no sign, parenthesis
or negation begins, which is the condition that the grammar has for it. -/
theorem unaryInside {primary : Reader Term} {isPrimary : Phrase Term}
    (takesUnary : Takes unary isUnary) (takesBody : Takes body isBody)
    (takes : Takes primary isPrimary) :
    Takes (Reader.unaryInside unary body primary)
      (InUnary BeginsApart isUnary isBody isPrimary) := by
  intro cursor after part reads
  rw [Reader.unaryInside] at reads
  split at reads
  next next =>
    obtain ⟨⟨inner, last⟩, innerReads, result⟩ := bind_eq_ok_iff.mp reads
    obtain ⟨rfl, rfl⟩ := Prod.mk.inj (Except.ok.inj result)
    obtain ⟨tokens, passes, behind⟩ := takesUnary innerReads
    exact ⟨_, (Cursor.passes_advance next).append passes, .notProvable behind⟩
  next next =>
    obtain ⟨⟨inner, behindInner⟩, innerReads, later⟩ := bind_eq_ok_iff.mp reads
    obtain ⟨closed, closes, result⟩ := bind_eq_ok_iff.mp later
    obtain ⟨rfl, rfl⟩ := Prod.mk.inj (Except.ok.inj result)
    obtain ⟨tokens, passes, inside⟩ := takesBody innerReads
    exact ⟨_, (Cursor.passes_advance next).append
      (passes.append (Cursor.passes_of_expect closes)), .grouped inside⟩
  next notNegated notGrouped =>
    -- What the reader has ruled out before it tries a goal is what the grammar asks of one.
    split at reads
    next isNegation =>
      obtain ⟨⟨inner, behindInner⟩, innerReads, later⟩ := bind_eq_ok_iff.mp reads
      obtain ⟨closed, closes, result⟩ := bind_eq_ok_iff.mp later
      obtain ⟨rfl, rfl⟩ := Prod.mk.inj (Except.ok.inj result)
      obtain ⟨tokens, passes, inside⟩ := takesBody innerReads
      exact ⟨_, (Cursor.passes_advance_advance isNegation.1 isNegation.2).append
        (passes.append (Cursor.passes_of_expect closes)), .negation inside⟩
    next notNegation =>
      obtain ⟨⟨term, last⟩, goalReads, result⟩ := bind_eq_ok_iff.mp reads
      obtain ⟨rfl, rfl⟩ := Prod.mk.inj (Except.ok.inj result)
      obtain ⟨tokens, passes, only⟩ := takes.goal goalReads
      refine ⟨tokens, passes, .goal ⟨?_, ?_⟩ only⟩
      · rintro ⟨others, rfl⟩
        exact notGrouped passes.peek?
      · rintro ⟨others, rfl⟩
        exact notNegation ⟨passes.peek?, passes.peekSecond?⟩

end Bodies

/-- Unaries and bodies that are read are those of the grammar, with as many levels. -/
theorem bodies (levels : Nat) :
    Takes (Reader.unary levels) (IsUnary BeginsApart levels) ∧
      Takes (Reader.body levels) (IsBody BeginsApart levels) := by
  induction levels with
  | zero =>
    constructor <;>
    · intro cursor after part reads
      cases reads
  | succ levels inductionHypothesis =>
    obtain ⟨takesUnary, takesBody⟩ := inductionHypothesis
    exact ⟨entered (unaryInside takesUnary takesBody (primary levels)) fun _ => rfl,
      entered takesUnary.bodyInside fun _ => rfl⟩

/-- A clause that is read where no level is open is a clause of the grammar. -/
theorem clause {cursor after : Cursor} {clause : Clause} (atTop : cursor.depth = 0)
    (reads : Reader.clause cursor = .ok (clause, after)) :
    ∃ tokens, cursor.Passes tokens after ∧ IsClause BeginsApart tokens clause := by
  obtain ⟨⟨head, behindHead⟩, headReads, later⟩ := bind_eq_ok_iff.mp reads
  rw [atTop] at headReads later
  obtain ⟨tokens, passes, begins⟩ := primary maximumDepth headReads
  dsimp only at later
  split at later
  next callable =>
    split at later
    next =>
      obtain ⟨last, stops, result⟩ := bind_eq_ok_iff.mp later
      obtain ⟨rfl, rfl⟩ := Prod.mk.inj (Except.ok.inj result)
      exact ⟨_, passes.append (Cursor.passes_of_expect stops), .fact begins callable⟩
    next behindNeck eats =>
      obtain ⟨⟨body, behindBody⟩, bodyReads, closing⟩ := bind_eq_ok_iff.mp later
      obtain ⟨last, stops, result⟩ := bind_eq_ok_iff.mp closing
      obtain ⟨rfl, rfl⟩ := Prod.mk.inj (Except.ok.inj result)
      obtain ⟨bodyTokens, bodyPasses, behind⟩ := (bodies maximumDepth).2 bodyReads
      exact ⟨_, (passes.append ((Cursor.passes_of_eat? eats).append bodyPasses)).append
        (Cursor.passes_of_expect stops), .rule begins callable behind⟩
  next => cases later

end Takes

/-- A source that is read as a clause has a derivation of the clause from all of its tokens. -/
theorem isClause_of_parseClause {source : String} {lexemes : List Lexeme} {clause : Clause}
    (scans : tokenize source = .ok lexemes) (parses : parseClause source = .ok clause) :
    IsClause BeginsApart (lexemes.map Lexeme.token) clause := by
  obtain ⟨found, foundScans, later⟩ := bind_eq_ok_iff.mp parses
  obtain rfl := Except.ok.inj (scans.symm.trans foundScans)
  obtain ⟨⟨value, last⟩, reads, ends⟩ := bind_eq_ok_iff.mp later
  obtain ⟨tokens, ⟨read, whole, rfl⟩, derives⟩ := Takes.clause rfl reads
  dsimp only at ends
  split at ends
  next atEnd =>
    obtain rfl := Except.ok.inj ends
    rw [Cursor.atEnd, List.isEmpty_iff] at atEnd
    rw [atEnd, List.append_nil] at whole
    change lexemes = read at whole
    exact whole ▸ derives
  next => cases ends

end Statute.Logic
