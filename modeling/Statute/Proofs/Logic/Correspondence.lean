import Mathlib.Data.List.Forall2
import Statute.Proofs.Logic.Completeness

/-!
# Corresponding places

Readers choose by tokens alone. What they know of the places of the tokens goes into the offsets of
errors and nowhere else. So when the tokens of two sources are the same one by one, and their places
correspond in any way whatever, readers return the same for both, and errors at corresponding
places. Each combinator of the grammar keeps this of the readers that it is made from.
-/

namespace Statute.Logic

/-! ## Corresponding cursors -/

/-- How the tokens and the places of two sources correspond. Tokens that correspond are the same
token, at places that correspond. -/
structure Correspondence where
  lexemes : Lexeme → Lexeme → Prop
  places : Nat → Nat → Prop
  token : ∀ {first second}, lexemes first second → first.token = second.token
  start : ∀ {first second}, lexemes first second → places first.start second.start

variable {between : Correspondence}

namespace Cursor

/-- Two cursors stand at corresponding places. -/
structure Correspond (between : Correspondence) (first second : Cursor) : Prop where
  rest : List.Forall₂ between.lexemes first.rest second.rest
  depth : first.depth = second.depth
  previous : between.places first.previousStart second.previousStart
  length : between.places first.sourceLength second.sourceLength

namespace Correspond

variable {first second : Cursor}

/-- As many tokens are left at both places, so that readers bounded by that number have the same
bound. -/
theorem length_rest (same : first.Correspond between second) :
    first.rest.length = second.rest.length :=
  same.rest.length_eq

/-- Corresponding cursors are at the end together. -/
theorem atEnd (same : first.Correspond between second) : first.atEnd = second.atEnd := by
  obtain ⟨rest, depth, previous, length⟩ := first
  obtain ⟨otherRest, otherDepth, otherPrevious, otherLength⟩ := second
  cases same.rest <;> rfl

/-- The next token is the same at both places. -/
theorem peek? (same : first.Correspond between second) : first.peek? = second.peek? := by
  obtain ⟨rest, depth, previous, length⟩ := first
  obtain ⟨otherRest, otherDepth, otherPrevious, otherLength⟩ := second
  cases same.rest with
  | nil => rfl
  | cons next _ => exact congrArg some (between.token next)

/-- The token behind the next one is the same at both places. -/
theorem peekSecond? (same : first.Correspond between second) :
    first.peekSecond? = second.peekSecond? := by
  obtain ⟨rest, depth, previous, length⟩ := first
  obtain ⟨otherRest, otherDepth, otherPrevious, otherLength⟩ := second
  obtain _ | ⟨_, _ | ⟨next, _⟩⟩ := same.rest
  · rfl
  · rfl
  · exact congrArg some (between.token next)

/-- The offsets that errors would have here correspond. At the end they are the lengths of the
sources. -/
theorem offset (same : first.Correspond between second) :
    between.places first.offset second.offset := by
  obtain ⟨rest, depth, previous, length⟩ := first
  obtain ⟨otherRest, otherDepth, otherPrevious, otherLength⟩ := second
  cases same.rest with
  | nil => exact same.length
  | cons next _ => exact between.start next

/-- Behind the next token both cursors correspond again. -/
theorem advance (same : first.Correspond between second) :
    first.advance.Correspond between second.advance := by
  obtain ⟨rest, depth, previous, length⟩ := first
  obtain ⟨otherRest, otherDepth, otherPrevious, otherLength⟩ := second
  cases same.rest with
  | nil => exact same
  | cons next others => exact ⟨others, same.depth, between.start next, same.length⟩

/-- When both close a level they still correspond, as only the depth changes. -/
theorem leave (same : first.Correspond between second) :
    first.leave.Correspond between second.leave :=
  ⟨same.rest, congrArg (· - 1) same.depth, same.previous, same.length⟩

end Correspond
end Cursor

/-! ## Corresponding outcomes -/

/-- Outcomes are alike when both are results that are alike, or when both are the same fault at
corresponding places. -/
inductive OutcomesCorrespond {α β : Type} (places : Nat → Nat → Prop) (alike : α → β → Prop) :
    Except SyntaxError α → Except SyntaxError β → Prop where
  | ok {first second} (same : alike first second) :
      OutcomesCorrespond places alike (.ok first) (.ok second)
  | grammar {offset other fault} (place : places offset other) :
      OutcomesCorrespond places alike (.error (.grammar offset fault))
        (.error (.grammar other fault))
  | tooDeep {offset other} (place : places offset other) :
      OutcomesCorrespond places alike (.error (.tooDeep offset)) (.error (.tooDeep other))

namespace OutcomesCorrespond

variable {α β γ δ : Type} {places : Nat → Nat → Prop} {alike : α → β → Prop}
  {alikeLater : γ → δ → Prop} {first : Except SyntaxError α} {second : Except SyntaxError β}

/-- Steps that are alike behind outcomes that are alike. -/
theorem bind {next : α → Except SyntaxError γ} {other : β → Except SyntaxError δ}
    (outcomes : OutcomesCorrespond places alike first second)
    (later : ∀ left right, alike left right →
      OutcomesCorrespond places alikeLater (next left) (other right)) :
    OutcomesCorrespond places alikeLater (first >>= next) (second >>= other) := by
  cases outcomes with
  | ok same => exact later _ _ same
  | grammar place => exact .grammar place
  | tooDeep place => exact .tooDeep place

/-- What is made of outcomes that are alike. -/
theorem map {change : α → γ} {other : β → δ}
    (outcomes : OutcomesCorrespond places alike first second)
    (later : ∀ left right, alike left right → alikeLater (change left) (other right)) :
    OutcomesCorrespond places alikeLater (first.map change) (second.map other) := by
  cases outcomes with
  | ok same => exact .ok (later _ _ same)
  | grammar place => exact .grammar place
  | tooDeep place => exact .tooDeep place

end OutcomesCorrespond

namespace Cursor.Correspond

variable {first second : Cursor}

/-- Either both eat the next token or neither does. -/
theorem eat? (same : first.Correspond between second) (wanted : Token) :
    (first.eat? wanted = none ∧ second.eat? wanted = none) ∨
      ∃ after behind, first.eat? wanted = some after ∧ second.eat? wanted = some behind ∧
        after.Correspond between behind := by
  by_cases next : first.peek? = some wanted
  · exact .inr ⟨first.advance, second.advance, if_pos next, if_pos (same.peek? ▸ next),
      same.advance⟩
  · exact .inl ⟨if_neg next, if_neg (same.peek? ▸ next)⟩

/-- Refusals of the next token correspond: they want the same, found the same, and stand at
corresponding offsets. -/
theorem fault {α β : Type} {alike : α → β → Prop} (same : first.Correspond between second)
    (wanted : Expectation) :
    OutcomesCorrespond between.places alike (.error (first.fault wanted))
      (.error (second.fault wanted)) := by
  rw [Cursor.fault, Cursor.fault, same.peek?]
  exact .grammar same.offset

/-- A token that must come next is there for both or missing for both. -/
theorem expect (same : first.Correspond between second) (token : Token) (wanted : Expectation) :
    OutcomesCorrespond between.places (Cursor.Correspond between) (first.expect token wanted)
      (second.expect token wanted) := by
  rw [Cursor.expect, Cursor.expect]
  rcases same.eat? token with ⟨notEaten, neither⟩ | ⟨after, behind, eaten, both, later⟩
  · rw [notEaten, neither]
    exact same.fault wanted
  · rw [eaten, both]
    exact .ok later

/-- A level is opened at both places or refused at both, as both are equally deep. -/
theorem enter (same : first.Correspond between second) :
    OutcomesCorrespond between.places (Cursor.Correspond between) first.enter second.enter := by
  rw [Cursor.enter, Cursor.enter, same.depth]
  split
  · exact .tooDeep same.offset
  · exact .ok ⟨same.rest, rfl, same.previous, same.length⟩

end Cursor.Correspond

/-! ## Readers -/

/-- What two readers return is the same, and they stop at corresponding places. -/
def ResultsCorrespond {α : Type} (between : Correspondence) (left right : α × Cursor) : Prop :=
  left.1 = right.1 ∧ left.2.Correspond between right.2

/-- A reader returns the same at corresponding places, whatever the correspondence. -/
def Placeless {α : Type} (reader : Reader α) : Prop :=
  ∀ ⦃between first second⦄, Cursor.Correspond between first second →
    OutcomesCorrespond between.places (ResultsCorrespond between) (reader first) (reader second)

namespace Placeless

variable {α β : Type}

/-- A reader that takes nothing and returns a given value. -/
theorem done (value : α) : Placeless fun cursor => .ok (value, cursor) :=
  fun _ _ _ same => .ok ⟨rfl, same⟩

/-- A reader that refuses whatever comes next. -/
theorem fault (wanted : Expectation) :
    Placeless fun cursor => (.error (cursor.fault wanted) : Except SyntaxError (α × Cursor)) :=
  fun _ _ _ same => same.fault wanted

/-- A reader that finds too many levels open. -/
theorem tooDeep :
    Placeless fun cursor => (.error (.tooDeep cursor.offset) : Except SyntaxError (α × Cursor)) :=
  fun _ _ _ same => .tooDeep same.offset

/-- Readers one after the other. -/
theorem andThen {reader : Reader α} {next : α → Reader β} (first : Placeless reader)
    (second : ∀ value, Placeless (next value)) :
    Placeless (fun cursor => do
      let (value, cursor) ← reader cursor
      next value cursor) := by
  intro between cursor other same
  refine (first same).bind ?_
  rintro ⟨value, after⟩ ⟨_, behind⟩ ⟨rfl, later⟩
  exact second value later

/-- What is made of what is read. -/
theorem map {reader : Reader α} (placeless : Placeless reader) (finish : α → β) :
    Placeless (fun cursor => do
      let (value, cursor) ← reader cursor
      return (finish value, cursor)) :=
  placeless.andThen fun value => done (finish value)

/-- A reader behind the next token. -/
theorem advance {reader : Reader α} (placeless : Placeless reader) :
    Placeless fun cursor => reader cursor.advance :=
  fun _ _ _ same => placeless same.advance

/-- A token that must come next, behind which a result is there. -/
theorem expect (token : Token) (wanted : Expectation) (value : α) :
    Placeless (fun cursor => do
      let cursor ← cursor.expect token wanted
      return (value, cursor)) := by
  intro between cursor other same
  exact (same.expect token wanted).bind fun _ _ later => .ok ⟨rfl, later⟩

/-- What is read up to the token that closes it. -/
theorem closed {reader : Reader α} (placeless : Placeless reader) (finish : α → β) (closing : Token)
    (wanted : Expectation) :
    Placeless (fun cursor => do
      let (value, cursor) ← reader cursor
      let cursor ← cursor.expect closing wanted
      return (finish value, cursor)) :=
  placeless.andThen fun value => expect closing wanted (finish value)

/-- A reader for where a token comes next and one for where it does not. -/
theorem eat {absent present : Reader α} (wanted : Token) (without : Placeless absent)
    (behind : Placeless present) :
    Placeless (fun cursor =>
      match cursor.eat? wanted with
      | none => absent cursor
      | some cursor => present cursor) := by
  intro between cursor other same
  dsimp only
  rcases same.eat? wanted with ⟨notEaten, neither⟩ | ⟨after, later, eaten, both, sameLater⟩
  · rw [notEaten, neither]
    exact without same
  · rw [eaten, both]
    exact behind sameLater

/-- A reader that chooses by the next two tokens. -/
theorem of_nextTwo {reader : Reader α}
    (chooses : ∀ next second, ∃ chosen, Placeless chosen ∧ ∀ cursor : Cursor,
      cursor.peek? = next → cursor.peekSecond? = second → reader cursor = chosen cursor) :
    Placeless reader := by
  intro between cursor other same
  obtain ⟨chosen, placeless, isChosen⟩ := chooses cursor.peek? cursor.peekSecond?
  rw [isChosen cursor rfl rfl, isChosen other same.peek?.symm same.peekSecond?.symm]
  exact placeless same

/-- A reader that chooses by the next token. -/
theorem of_next {reader : Reader α}
    (chooses : ∀ next, ∃ chosen, Placeless chosen ∧
      ∀ cursor : Cursor, cursor.peek? = next → reader cursor = chosen cursor) :
    Placeless reader := by
  refine of_nextTwo fun next _ => ?_
  obtain ⟨chosen, placeless, same⟩ := chooses next
  exact ⟨chosen, placeless, fun cursor isNext _ => same cursor isNext⟩

/-- A level is opened in front of what is read and closed behind it. -/
theorem entered {inside : Reader α} (placeless : Placeless inside) :
    Placeless (fun cursor => do
      let cursor ← cursor.enter
      let (value, cursor) ← inside cursor
      return (value, cursor.leave)) := by
  intro between cursor other same
  refine same.enter.bind fun opened others sameInside => ?_
  exact (placeless sameInside).bind fun _ _ results => .ok ⟨results.1, results.2.leave⟩

/-- Items each behind a separator, at most as many as the bound. -/
theorem further {item : Reader α} (placeless : Placeless item) (separator : Token) (bound : Nat) :
    Placeless (Reader.further separator item bound) := by
  induction bound with
  | zero => exact done []
  | succ bound inductionHypothesis =>
    exact eat separator (done [])
      (placeless.andThen fun value => inductionHypothesis.map (value :: ·))

/-- Items with a separator between them. The bound on their number is the number of tokens left,
which is the same at corresponding places. -/
theorem separated {item : Reader α} (placeless : Placeless item) (separator : Token) :
    Placeless (Reader.separated separator item) := by
  have others : Placeless fun cursor =>
      Reader.further separator item cursor.rest.length cursor := by
    intro between cursor other same
    dsimp only
    rw [same.length_rest]
    exact placeless.further separator _ same
  exact placeless.andThen fun value => others.map (value :: ·)

section Terms

variable {operand primary : Reader Term}

/-- Operators of one strength and their right sides. The left side is a parameter, which grows from
step to step. -/
theorem operations (placeless : Placeless operand) (spellings : List String) (bound : Nat)
    (left : Term) : Placeless (Reader.operations spellings operand bound left) := by
  induction bound generalizing left with
  | zero => exact done left
  | succ bound inductionHypothesis =>
    refine of_next fun next => ?_
    by_cases listed : ∃ spelling ∈ spellings, next = some (.operator spelling)
    · obtain ⟨spelling, listed, rfl⟩ := listed
      refine ⟨_, (placeless.andThen fun right => inductionHypothesis
        (.compound spelling [left, right])).advance, fun cursor isOperator => ?_⟩
      simp only [Reader.operations, isOperator, List.contains_iff_mem.mpr listed, if_true]
    · refine ⟨_, done left, fun cursor same => ?_⟩
      rw [Reader.operations]
      split
      next spelling isOperator =>
        have unlisted : spelling ∉ spellings :=
          fun member => listed ⟨spelling, member, same.symm.trans isOperator⟩
        exact if_neg (mt List.contains_iff_mem.mp unlisted)
      next => rfl

/-- A first operand and the operators behind it, bounded by the number of tokens left. -/
theorem operandsWith (placeless : Placeless operand) (spellings : List String) :
    Placeless (Reader.operandsWith spellings operand) := by
  have behind (left : Term) : Placeless fun cursor =>
      Reader.operations spellings operand cursor.rest.length left cursor := by
    intro between cursor other same
    dsimp only
    rw [same.length_rest]
    exact placeless.operations spellings _ left same
  exact placeless.andThen behind

/-- Sums of products of primary terms. -/
theorem sum (placeless : Placeless primary) : Placeless (Reader.sum primary) :=
  (placeless.operandsWith ["*", "/"]).operandsWith ["+", "-"]

/-- What may follow the first side of a goal: a comparison and its other side, or nothing. -/
theorem goalEnd (placeless : Placeless primary) (left : Term) :
    Placeless (Reads.goalEnd primary left) := by
  refine of_next fun next => ?_
  cases compares : Reader.comparison? next with
  | none =>
    exact ⟨_, done left, fun cursor same => by simp only [Reads.goalEnd, same, compares]; rfl⟩
  | some spelling =>
    exact ⟨_, (placeless.sum.map fun right => Term.compound spelling [left, right]).advance,
      fun cursor same => by simp only [Reads.goalEnd, same, compares]⟩

/-- A goal, which is a sum that may be compared with another one. -/
theorem goal (placeless : Placeless primary) : Placeless (Reader.goal primary) :=
  placeless.sum.andThen placeless.goalEnd

/-- Arguments between commas. -/
theorem arguments (placeless : Placeless primary) : Placeless (Reader.arguments primary) :=
  placeless.goal.separated .comma

/-- A name with the arguments behind it, or an atom where no parenthesis follows. -/
theorem callable (placeless : Placeless primary) (name : String) :
    Placeless (Reader.callable primary name) :=
  eat .openParen (done (Term.atom name))
    (placeless.arguments.closed (Term.compound name) .closeParen .closeParen)

/-- What closes a list behind its items, with or without a tail. -/
theorem listEnd (placeless : Placeless primary) (items : List Term) :
    Placeless (Reads.listEnd primary items) :=
  eat .bar (expect .closeBracket .closeBracket (Term.list items none))
    (placeless.sum.closed (fun tail => Term.list items (some tail)) .closeBracket .closeBracket)

/-- A list, of which the first token decides whether it is empty. -/
theorem list (placeless : Placeless primary) : Placeless (Reader.list primary) := by
  refine of_next fun next => ?_
  by_cases closes : next = some .closeBracket
  · refine ⟨_, (done (Term.list [] none)).advance, fun cursor same => ?_⟩
    simp only [Reader.list, Cursor.eat?, same.trans closes, if_true]
  · refine ⟨_, placeless.arguments.andThen placeless.listEnd, fun cursor same => ?_⟩
    have notEaten : cursor.eat? .closeBracket = none := if_neg (same ▸ closes)
    simp only [Reader.list, notEaten]
    rfl

/-- A primary term within its level. One case for each token that may begin it; for a minus sign the
second token decides too. -/
theorem primaryInside (placeless : Placeless primary) :
    Placeless (Reader.primaryInside primary) := by
  have single (term : Term) : Placeless fun cursor => .ok (term, cursor.advance) :=
    (done term).advance
  -- The first token decides, and at a minus sign the second one does.
  refine of_nextTwo fun next second => ?_
  cases next with
  | none =>
    exact ⟨_, fault .term, fun cursor same _ => by simp only [Reader.primaryInside, same]⟩
  | some token =>
    cases token with
    | var name =>
      exact ⟨_, single (.var name), fun cursor same _ => by simp only [Reader.primaryInside, same]⟩
    | number text =>
      exact ⟨_, single (.number text),
        fun cursor same _ => by simp only [Reader.primaryInside, same]⟩
    | string spelling =>
      exact ⟨_, single (.string (Reader.unquote spelling)),
        fun cursor same _ => by simp only [Reader.primaryInside, same]⟩
    | atom name =>
      exact ⟨_, (placeless.callable name).advance,
        fun cursor same _ => by simp only [Reader.primaryInside, same]⟩
    | quotedAtom spelling =>
      exact ⟨_, (placeless.callable (Reader.unquote spelling)).advance,
        fun cursor same _ => by simp only [Reader.primaryInside, same]⟩
    | openBracket =>
      exact ⟨_, placeless.list.advance,
        fun cursor same _ => by simp only [Reader.primaryInside, same]⟩
    | openParen =>
      exact ⟨_, (placeless.sum.closed id .closeParen .closeParen).advance,
        fun cursor same _ => by simp only [Reader.primaryInside, same]; rfl⟩
    | operator spelling =>
      by_cases minus : spelling = "-"
      · subst minus
        by_cases isNumber : ∃ text, second = some (.number text)
        · obtain ⟨text, rfl⟩ := isNumber
          exact ⟨_, (done (Term.number ("-" ++ text))).advance.advance,
            fun cursor same behind => by simp only [Reader.primaryInside, same, behind]⟩
        · refine ⟨_, fault .term, fun cursor same behind => ?_⟩
          simp only [Reader.primaryInside, same]
          split
          next text found => exact absurd ⟨text, behind.symm.trans found⟩ isNumber
          next => rfl
      · exact ⟨_, fault .term, fun cursor same _ => by simp [Reader.primaryInside, same, minus]⟩
    | _ => exact ⟨_, fault .term, fun cursor same _ => by simp only [Reader.primaryInside, same]⟩

end Terms

/-- A primary term with any number of levels left. -/
theorem primary (levels : Nat) : Placeless (Reader.primary levels) := by
  induction levels with
  | zero => exact tooDeep
  | succ levels inductionHypothesis => exact entered inductionHypothesis.primaryInside

section Bodies

variable {unary body : Reader Body}

/-- Unaries between commas. -/
theorem conjunction (placeless : Placeless unary) : Placeless (Reader.conjunction unary) :=
  (placeless.separated .comma).map (Reader.collapse .and)

/-- Conjunctions between semicolons. -/
theorem bodyInside (placeless : Placeless unary) : Placeless (Reader.bodyInside unary) :=
  (placeless.conjunction.separated .semicolon).map (Reader.collapse .or)

/-- A unary within its level, of which the first two tokens decide which kind it is. -/
theorem unaryInside {primary : Reader Term} (placelessUnary : Placeless unary)
    (placelessBody : Placeless body) (placeless : Placeless primary) :
    Placeless (Reader.unaryInside unary body primary) := by
  -- The tests stand in the order in which the reader makes them.
  refine of_nextTwo fun next second => ?_
  by_cases notProvable : next = some .notProvable
  · exact ⟨_, (placelessUnary.map Body.not).advance,
      fun cursor same _ => by simp only [Reader.unaryInside, same.trans notProvable]⟩
  by_cases grouped : next = some .openParen
  · exact ⟨_, (placelessBody.closed id .closeParen .closeParen).advance,
      fun cursor same _ => by simp only [Reader.unaryInside, same.trans grouped]; rfl⟩
  by_cases negation : next = some (.atom "not") ∧ second = some .openParen
  · refine ⟨_, (placelessBody.closed Body.not .closeParen .closeParen).advance.advance,
      fun cursor same behind => ?_⟩
    simp only [Reader.unaryInside, same.trans negation.1, behind.trans negation.2, and_self,
      if_true]
  · refine ⟨_, placeless.goal.map Body.goal, fun cursor same behind => ?_⟩
    simp only [Reader.unaryInside, same, behind]
    rw [if_neg negation]

end Bodies

/-- Unaries and bodies, which are read by each other and so are proved together by induction on the
levels left. -/
theorem bodies (levels : Nat) :
    Placeless (Reader.unary levels) ∧ Placeless (Reader.body levels) := by
  induction levels with
  | zero => exact ⟨tooDeep, tooDeep⟩
  | succ levels inductionHypothesis =>
    obtain ⟨placelessUnary, placelessBody⟩ := inductionHypothesis
    exact ⟨entered (unaryInside placelessUnary placelessBody (primary levels)),
      entered placelessUnary.bodyInside⟩

/-- What follows the head of a clause. -/
theorem clauseEnd (levels : Nat) (head : Term) : Placeless (Reads.clauseEnd levels head) :=
  eat .neck (expect .stop .stop (Clause.mk head none))
    ((bodies levels).2.closed (fun body => Clause.mk head (some body)) .stop .stop)

/-- A clause. A head that is not callable is refused at the place of the token before, and these
places correspond too. -/
theorem clause : Placeless Reader.clause := by
  have behind (levels : Nat) (head : Term) : Placeless fun cursor =>
      if head.isCallable then Reads.clauseEnd levels head cursor
      else .error (.grammar cursor.previousStart (.headNotCallable head)) := by
    cases callable : head.isCallable with
    | true => simpa only [if_true] using clauseEnd levels head
    | false => exact fun _ _ _ same => .grammar same.previous
  intro between cursor other same
  -- As many levels are open in both, so that as many are left to the clause.
  rw [Reader.clause, Reader.clause, same.depth]
  exact (primary _).andThen (behind _) same

/-- All clauses up to the end. -/
theorem clauses (bound : Nat) : Placeless (Reader.clauses bound) := by
  induction bound with
  | zero => exact done []
  | succ bound inductionHypothesis =>
    intro between cursor other same
    have further := clause.andThen fun first => inductionHypothesis.map (first :: ·)
    rw [Reader.clauses, Reader.clauses, same.atEnd]
    split
    · exact .ok ⟨rfl, same⟩
    · exact further same

end Placeless

end Statute.Logic
