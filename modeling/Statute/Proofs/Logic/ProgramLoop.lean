import Statute.Proofs.Logic.ClauseMarks
import Statute.Proofs.Logic.Concatenation
import Statute.Proofs.Logic.Progress

/-!
# Readers take tokens, and the loop over clauses ends

A reader that returns stands behind at least one more token than before, never beyond the last one,
and with as many levels open. Only what follows a name may be nothing. So reading clause after
clause comes to an end on every source, and a program has as many clauses as stops.
-/

namespace Statute.Logic

open Grammar

namespace Cursor

/-- A place that comes later: at least one token stands between the two. -/
structure Past (cursor after : Cursor) : Prop extends cursor.Behind after where
  fewer : after.rest.length < cursor.rest.length

/-- A place that is passed and the places no earlier than the next one: one token at least stands
before them all. -/
theorem Past.trans_behind {cursor middle after : Cursor} (first : cursor.Past middle)
    (second : middle.Behind after) : cursor.Past after :=
  ⟨first.toBehind.trans second, Nat.lt_of_le_of_lt second.rest.length_le first.fewer⟩

/-- Behind a token that is there one token fewer is left. -/
theorem past_advance {cursor : Cursor} {token : Token} (next : cursor.peek? = some token) :
    cursor.Past cursor.advance := by
  refine ⟨cursor.behind_advance, ?_⟩
  obtain ⟨rest, depth, previous, length⟩ := cursor
  cases rest with
  | nil => cases next
  | cons lexeme rest => exact Nat.lt_succ_self _

/-- A token that is eaten is passed. -/
theorem past_of_eat? {wanted : Token} {cursor after : Cursor}
    (eats : cursor.eat? wanted = some after) : cursor.Past after := by
  rw [eat?] at eats
  split at eats
  next isNext =>
    obtain rfl := Option.some.inj eats
    exact past_advance isNext
  next => cases eats

end Cursor

/-- A reader that moves forward takes tokens, whichever they are. -/
theorem Forward.takes {α : Type} {reader : Reader α} (forward : Forward reader) :
    Takes reader fun _ _ => True := by
  intro cursor after value reads
  obtain ⟨read, whole⟩ := (forward reads).rest
  exact ⟨_, ⟨read, whole.symm, rfl⟩, trivial⟩

/-- A reader takes at least one token. -/
def Progresses {α : Type} (reader : Reader α) : Prop :=
  ∀ ⦃cursor after : Cursor⦄ ⦃value : α⦄, reader cursor = .ok (value, after) → cursor.Past after

namespace Progresses

variable {α : Type}

/-- Taking tokens is moving forward. -/
theorem forward {reader : Reader α} (progresses : Progresses reader) : Forward reader :=
  fun _ _ _ reads => (progresses reads).toBehind

/-- The first item takes tokens, and the further ones none back. -/
theorem separated {item : Reader α} (progresses : Progresses item) (separator : Token) :
    Progresses (Reader.separated separator item) := by
  intro cursor after values reads
  obtain ⟨⟨value, behindItem⟩, itemReads, later⟩ := bind_eq_ok_iff.mp reads
  obtain ⟨⟨others, last⟩, othersRead, result⟩ := bind_eq_ok_iff.mp later
  obtain ⟨-, rfl⟩ := Prod.mk.inj (Except.ok.inj result)
  exact (progresses itemReads).trans_behind (progresses.forward.further separator _ othersRead)

section Terms

variable {operand primary : Reader Term}

/-- The first operand takes tokens, and the operators behind it none back. -/
theorem operandsWith (progresses : Progresses operand) (spellings : List String) :
    Progresses (Reader.operandsWith spellings operand) := by
  intro cursor after term reads
  obtain ⟨⟨left, behindLeft⟩, leftReads, later⟩ := bind_eq_ok_iff.mp reads
  exact (progresses leftReads).trans_behind
    (progresses.forward.operations spellings _ left later)

/-- Sums take tokens when primaries do. -/
theorem sum (progresses : Progresses primary) : Progresses (Reader.sum primary) :=
  (progresses.operandsWith ["*", "/"]).operandsWith ["+", "-"]

/-- A goal takes the tokens of its first side, and more of them when it is a comparison. -/
theorem goal (progresses : Progresses primary) : Progresses (Reader.goal primary) := by
  intro cursor after term reads
  obtain ⟨⟨left, behindLeft⟩, leftReads, later⟩ := bind_eq_ok_iff.mp reads
  have past := progresses.sum leftReads
  dsimp only at later
  split at later
  next =>
    exact past.trans_behind (.of_ok later)
  next spelling _ =>
    obtain ⟨⟨right, behindRight⟩, rightReads, result⟩ := bind_eq_ok_iff.mp later
    obtain ⟨-, rfl⟩ := Prod.mk.inj (Except.ok.inj result)
    exact past.trans_behind
      (behindLeft.behind_advance.trans (progresses.sum rightReads).toBehind)

/-- Arguments take at least the tokens of the first one. -/
theorem arguments (progresses : Progresses primary) : Progresses (Reader.arguments primary) :=
  progresses.goal.separated .comma

/-- A list has its closing bracket, if nothing else. -/
theorem list (progresses : Progresses primary) : Progresses (Reader.list primary) := by
  intro cursor after term reads
  rw [Reader.list] at reads
  split at reads
  next closed eats =>
    exact (Cursor.past_of_eat? eats).trans_behind (.of_ok reads)
  next =>
    obtain ⟨⟨items, behindItems⟩, itemsRead, later⟩ := bind_eq_ok_iff.mp reads
    have past := progresses.arguments itemsRead
    dsimp only at later
    split at later
    next =>
      obtain ⟨closed, closes, result⟩ := bind_eq_ok_iff.mp later
      obtain ⟨-, rfl⟩ := Prod.mk.inj (Except.ok.inj result)
      exact past.trans_behind (Cursor.behind_of_expect closes)
    next behindBar eats =>
      obtain ⟨⟨tail, behindTail⟩, tailReads, closing⟩ := bind_eq_ok_iff.mp later
      obtain ⟨closed, closes, result⟩ := bind_eq_ok_iff.mp closing
      obtain ⟨-, rfl⟩ := Prod.mk.inj (Except.ok.inj result)
      exact past.trans_behind ((Cursor.behind_of_eat? eats).trans
        ((progresses.sum tailReads).toBehind.trans (Cursor.behind_of_expect closes)))

/-- What is read inside the level of a primary begins as terms do, so it is not nothing. -/
theorem primaryInside (progresses : Progresses primary) :
    Progresses (Reader.primaryInside primary) := by
  intro cursor after term reads
  obtain ⟨tokens, ⟨read, whole, rfl⟩, derives⟩ := progresses.forward.takes.primaryInside reads
  refine ⟨progresses.forward.primaryInside reads, ?_⟩
  have begins := derives.beginsTerm
  cases read with
  | nil => cases begins
  | cons lexeme read =>
    rw [whole, List.length_append, List.length_cons]
    omega

end Terms

/-- What is read inside a level that is entered before and left behind it. -/
theorem entered {reader inside : Reader α} (progresses : Progresses inside)
    (enters : ∀ cursor, reader cursor = (do
      let cursor ← cursor.enter
      let (value, cursor) ← inside cursor
      return (value, cursor.leave))) : Progresses reader := by
  intro cursor after value reads
  rw [enters] at reads
  obtain ⟨opened, opens, later⟩ := bind_eq_ok_iff.mp reads
  obtain ⟨⟨inner, behindInner⟩, insideReads, result⟩ := bind_eq_ok_iff.mp later
  obtain ⟨-, rfl⟩ := Prod.mk.inj (Except.ok.inj result)
  rw [Cursor.enter] at opens
  split at opens
  next => cases opens
  next =>
    obtain rfl := Except.ok.inj opens
    obtain ⟨⟨rest, depth⟩, fewer⟩ := progresses insideReads
    exact ⟨⟨rest, by rw [Cursor.leave, depth]; exact Nat.add_sub_cancel ..⟩, fewer⟩

/-- Primaries take tokens, however many levels they may open. -/
theorem primary (levels : Nat) : Progresses (Reader.primary levels) := by
  induction levels with
  | zero =>
    intro cursor after term reads
    cases reads
  | succ levels inductionHypothesis =>
    exact inductionHypothesis.primaryInside.entered fun _ => rfl

section Bodies

variable {unary body : Reader Body}

/-- A conjunction takes the tokens of its parts. -/
theorem conjunction (progresses : Progresses unary) : Progresses (Reader.conjunction unary) := by
  intro cursor after part reads
  obtain ⟨⟨parts, last⟩, partsRead, result⟩ := bind_eq_ok_iff.mp reads
  obtain ⟨-, rfl⟩ := Prod.mk.inj (Except.ok.inj result)
  exact progresses.separated .comma partsRead

/-- A body takes the tokens of its conjunctions. -/
theorem bodyInside (progresses : Progresses unary) : Progresses (Reader.bodyInside unary) := by
  intro cursor after part reads
  obtain ⟨⟨parts, last⟩, partsRead, result⟩ := bind_eq_ok_iff.mp reads
  obtain ⟨-, rfl⟩ := Prod.mk.inj (Except.ok.inj result)
  exact progresses.conjunction.separated .semicolon partsRead

/-- A unary takes the token of its sign or parenthesis, or the tokens of its goal. -/
theorem unaryInside {primary : Reader Term} (unaries : Progresses unary)
    (bodies : Progresses body) (primaries : Progresses primary) :
    Progresses (Reader.unaryInside unary body primary) := by
  intro cursor after part reads
  rw [Reader.unaryInside] at reads
  split at reads
  next next =>
    obtain ⟨⟨inner, last⟩, innerReads, result⟩ := bind_eq_ok_iff.mp reads
    obtain ⟨-, rfl⟩ := Prod.mk.inj (Except.ok.inj result)
    exact (Cursor.past_advance next).trans_behind (unaries innerReads).toBehind
  next next =>
    obtain ⟨⟨inner, behindInner⟩, innerReads, later⟩ := bind_eq_ok_iff.mp reads
    obtain ⟨closed, closes, result⟩ := bind_eq_ok_iff.mp later
    obtain ⟨-, rfl⟩ := Prod.mk.inj (Except.ok.inj result)
    exact (Cursor.past_advance next).trans_behind
      ((bodies innerReads).toBehind.trans (Cursor.behind_of_expect closes))
  next =>
    split at reads
    next isNegation =>
      obtain ⟨⟨inner, behindInner⟩, innerReads, later⟩ := bind_eq_ok_iff.mp reads
      obtain ⟨closed, closes, result⟩ := bind_eq_ok_iff.mp later
      obtain ⟨-, rfl⟩ := Prod.mk.inj (Except.ok.inj result)
      exact (Cursor.past_advance isNegation.1).trans_behind
        (cursor.advance.behind_advance.trans
          ((bodies innerReads).toBehind.trans (Cursor.behind_of_expect closes)))
    next =>
      obtain ⟨⟨term, last⟩, goalReads, result⟩ := bind_eq_ok_iff.mp reads
      obtain ⟨-, rfl⟩ := Prod.mk.inj (Except.ok.inj result)
      exact primaries.goal goalReads

end Bodies

/-- Unaries and bodies take tokens, however many levels they may open. -/
theorem bodies (levels : Nat) :
    Progresses (Reader.unary levels) ∧ Progresses (Reader.body levels) := by
  induction levels with
  | zero =>
    constructor <;>
    · intro cursor after part reads
      cases reads
  | succ levels inductionHypothesis =>
    obtain ⟨unaries, bodies⟩ := inductionHypothesis
    exact ⟨(unaryInside unaries bodies (primary levels)).entered fun _ => rfl,
      unaries.bodyInside.entered fun _ => rfl⟩

/-- A clause takes at least the tokens of its head. -/
theorem clause : Progresses Reader.clause := by
  intro cursor after clause reads
  obtain ⟨⟨head, behindHead⟩, headReads, later⟩ := bind_eq_ok_iff.mp reads
  have past := primary _ headReads
  dsimp only at later
  split at later
  next =>
    split at later
    next =>
      obtain ⟨last, stops, result⟩ := bind_eq_ok_iff.mp later
      obtain ⟨-, rfl⟩ := Prod.mk.inj (Except.ok.inj result)
      exact past.trans_behind (Cursor.behind_of_expect stops)
    next behindNeck eats =>
      obtain ⟨⟨body, behindBody⟩, bodyReads, closing⟩ := bind_eq_ok_iff.mp later
      obtain ⟨last, stops, result⟩ := bind_eq_ok_iff.mp closing
      obtain ⟨-, rfl⟩ := Prod.mk.inj (Except.ok.inj result)
      exact past.trans_behind ((Cursor.behind_of_eat? eats).trans
        (((bodies _).2 bodyReads).toBehind.trans (Cursor.behind_of_expect stops)))
  next => cases later

end Progresses

/-! ## Places among tokens -/

/-- A cursor stands behind so many of the tokens, which are no more than there are. -/
structure Cursor.StandsAt (tokens : List Lexeme) (place : Nat) (cursor : Cursor) : Prop where
  within : place ≤ tokens.length
  rest : cursor.rest = tokens.drop place

/-- Whenever a reader returns, its place has moved as `moved` says, has not passed the end of the
tokens, and has as many levels open as the place that it began at. -/
def Moves {α : Type} (moved : Nat → Nat → Prop) (reader : Reader α) : Prop :=
  ∀ ⦃tokens : List Lexeme⦄ ⦃place : Nat⦄ ⦃cursor after : Cursor⦄ ⦃value : α⦄,
    cursor.StandsAt tokens place → reader cursor = .ok (value, after) →
      ∃ later, after.StandsAt tokens later ∧ moved place later ∧ after.depth = cursor.depth

/-- What is left behind a place is left behind the number of tokens in front of it. -/
theorem Cursor.StandsAt.behind {tokens : List Lexeme} {place : Nat} {cursor after : Cursor}
    (stands : cursor.StandsAt tokens place) (behind : cursor.Behind after) :
    after.StandsAt tokens (tokens.length - after.rest.length) := by
  have isEnd : after.rest <:+ tokens :=
    behind.rest.trans (stands.rest ▸ List.drop_suffix place tokens)
  exact ⟨Nat.sub_le .., List.suffix_iff_eq_drop.mp isEnd⟩

/-- A reader that moves forward moves to the same place or a later one. -/
theorem Forward.moves {α : Type} {reader : Reader α} (forward : Forward reader) :
    Moves (· ≤ ·) reader := by
  intro tokens place cursor after value stands reads
  have behind := forward reads
  have fewer := behind.rest.length_le
  rw [stands.rest, List.length_drop] at fewer
  have within := stands.within
  exact ⟨_, stands.behind behind, by omega, behind.depth⟩

/-- A reader that takes tokens moves to a later place. -/
theorem Progresses.moves {α : Type} {reader : Reader α} (progresses : Progresses reader) :
    Moves (· < ·) reader := by
  intro tokens place cursor after value stands reads
  obtain ⟨behind, fewer⟩ := progresses reads
  rw [stands.rest, List.length_drop] at fewer
  have within := stands.within
  exact ⟨_, stands.behind behind, by omega, behind.depth⟩

/-! ## Clause after clause -/

/-- Reading clauses one after another while tokens are left, without a bound on their number. -/
inductive ReadsClauses : Cursor → Except SyntaxError (List Clause) → Prop where
  | finished {cursor} (ends : cursor.atEnd = true) : ReadsClauses cursor (.ok [])
  | refused {cursor error} (left : cursor.atEnd = false)
      (refuses : Reader.clause cursor = .error error) : ReadsClauses cursor (.error error)
  | next {cursor clause after outcome} (left : cursor.atEnd = false)
      (reads : Reader.clause cursor = .ok (clause, after))
      (others : ReadsClauses after outcome) :
      ReadsClauses cursor (outcome.map (clause :: ·))

/-- One round of the loop over clauses. -/
def Cursor.NextClause (after cursor : Cursor) : Prop :=
  cursor.atEnd = false ∧ ∃ clause, Reader.clause cursor = .ok (clause, after)

/-- No sequence of rounds goes on forever, since each takes tokens. -/
theorem wellFounded_nextClause : WellFounded Cursor.NextClause := by
  refine Subrelation.wf ?_ (measure fun cursor : Cursor => cursor.rest.length).wf
  rintro after cursor ⟨-, clause, reads⟩
  exact (Progresses.clause reads).fewer

/-- Where the loop ends, and with what, is determined by the place that it begins at. -/
theorem ReadsClauses.unique {cursor : Cursor} {first second : Except SyntaxError (List Clause)}
    (one : ReadsClauses cursor first) (other : ReadsClauses cursor second) : first = second := by
  induction one generalizing second with
  | finished ends =>
    cases other with
    | finished => rfl
    | refused left | next left => exact absurd (ends.symm.trans left) (by decide)
  | refused left refuses =>
    cases other with
    | finished ends => exact absurd (ends.symm.trans left) (by decide)
    | refused _ again => exact congrArg Except.error (Except.error.inj (refuses.symm.trans again))
    | next _ reads _ => cases refuses.symm.trans reads
  | next left reads _ inductionHypothesis =>
    cases other with
    | finished ends => exact absurd (ends.symm.trans left) (by decide)
    | refused _ refuses => cases refuses.symm.trans reads
    | next _ again others =>
      obtain ⟨rfl, rfl⟩ := Prod.mk.inj (Except.ok.inj (reads.symm.trans again))
      rw [inductionHypothesis others]

/-- A bound that is at least the number of tokens left never ends the loop. -/
theorem readsClauses_clauses {bound : Nat} {cursor : Cursor}
    (enough : cursor.rest.length ≤ bound) :
    ReadsClauses cursor ((Reader.clauses bound cursor).map Prod.fst) := by
  induction bound generalizing cursor with
  | zero =>
    have nothing := List.length_eq_zero_iff.mp (Nat.le_zero.mp enough)
    exact .finished (List.isEmpty_iff.mpr nothing)
  | succ bound inductionHypothesis =>
    cases left : cursor.atEnd with
    | true =>
      rw [Reader.clauses, if_pos left]
      exact .finished left
    | false =>
      cases reads : Reader.clause cursor with
      | error error =>
        simp only [Reader.clauses, left, Bool.false_eq_true, if_false, reads, bind, Except.bind]
        exact .refused left reads
      | ok result =>
        obtain ⟨clause, after⟩ := result
        have fewer := (Progresses.clause reads).fewer
        rw [clauses_of_clause left reads]
        exact .next left reads (inductionHypothesis (by omega))

/-- A program has as many stops as clauses. -/
theorem IsProgram.count_stop {tokens : List Token} {clauses : List Clause}
    (program : IsProgram tokens clauses) : tokens.count .stop = clauses.length := by
  induction program with
  | nil => rfl
  | cons first _ inductionHypothesis =>
    rw [List.count_append, first.count_stop, inductionHypothesis, List.length_cons, Nat.add_comm]

/-- Every reader that returns has taken at least one token, has not passed the end of the tokens and
has as many levels open as before, whatever levels it may open; what follows a name may be nothing.
So the loop over clauses ends on every source, and parsing a program returns what the loop ends
with. A program has as many clauses as its source has stops. -/
theorem readers_progress :
    (∀ levels,
      (Moves (· < ·) (Reader.primary levels) ∧ Moves (· < ·) (Reader.product (.primary levels)) ∧
        Moves (· < ·) (Reader.sum (.primary levels)) ∧
        Moves (· < ·) (Reader.goal (.primary levels)) ∧
        Moves (· < ·) (Reader.arguments (.primary levels)) ∧
        Moves (· < ·) (Reader.list (.primary levels)) ∧
        ∀ name, Moves (· ≤ ·) (Reader.callable (.primary levels) name)) ∧
      Moves (· < ·) (Reader.unary levels) ∧ Moves (· < ·) (Reader.conjunction (.unary levels)) ∧
      Moves (· < ·) (Reader.body levels)) ∧
    Moves (· < ·) Reader.clause ∧ WellFounded Cursor.NextClause ∧
    (∀ source lexemes, tokenize source = .ok lexemes → ∀ outcome,
      ReadsClauses (.atStart lexemes (Text.byteLength source.toList)) outcome ↔
        parseProgram source = outcome) ∧
    ∀ source clauses, parseProgram source = .ok clauses →
      ∃ lexemes, tokenize source = .ok lexemes ∧
        clauses.length = (lexemes.map Lexeme.token).count .stop := by
  refine ⟨fun levels => ⟨?_, ?_⟩, Progresses.clause.moves, wellFounded_nextClause,
    fun source lexemes scans outcome => ?_, fun source clauses parses => ?_⟩
  · have primaries := Progresses.primary levels
    exact ⟨primaries.moves, (primaries.operandsWith _).moves, primaries.sum.moves,
      primaries.goal.moves, primaries.arguments.moves, primaries.list.moves,
      fun name => (primaries.forward.callable name).moves⟩
  · obtain ⟨unaries, bodies⟩ := Progresses.bodies levels
    exact ⟨unaries.moves, unaries.conjunction.moves, bodies.moves⟩
  · have bound : (Cursor.atStart lexemes (Text.byteLength source.toList)).rest.length ≤
        lexemes.length := Nat.le_refl _
    have reads := readsClauses_clauses bound
    rw [parseProgram_eq, scans]
    exact ⟨fun ends => reads.unique ends, fun same => same ▸ reads⟩
  · rw [parseProgram_eq] at parses
    obtain ⟨lexemes, scans, reads⟩ := bind_eq_ok_iff.mp parses
    exact ⟨lexemes, scans, (isProgram_of_readProgram reads).count_stop.symm⟩

/-- A place behind an opening bracket with its closing bracket and one more token. -/
def exampleOpened : Cursor :=
  ⟨[⟨.closeBracket, 1, 2⟩, ⟨.comma, 2, 3⟩], 7, 0, 3⟩

/-- An empty list inside of seven levels, and a program with a point that is no stop. -/
theorem exampleOpened_progress :
    exampleOpened.StandsAt [⟨.openBracket, 0, 1⟩, ⟨.closeBracket, 1, 2⟩, ⟨.comma, 2, 3⟩] 1 ∧
      (∃ after later, Reader.list (.primary 57) exampleOpened = .ok (.list [] none, after) ∧
        after.StandsAt [⟨.openBracket, 0, 1⟩, ⟨.closeBracket, 1, 2⟩, ⟨.comma, 2, 3⟩] later ∧
        1 < later ∧ after.depth = 7) ∧
      parseProgram "p(1.5) :- not(q). r." =
        .ok [⟨.compound "p" [.number "1.5"], some (.not (.goal (.atom "q")))⟩, ⟨.atom "r", none⟩] ∧
      ∃ lexemes, tokenize "p(1.5) :- not(q). r." = .ok lexemes ∧
        2 = (lexemes.map Lexeme.token).count .stop := by
  have stands : exampleOpened.StandsAt
      [⟨.openBracket, 0, 1⟩, ⟨.closeBracket, 1, 2⟩, ⟨.comma, 2, 3⟩] 1 := ⟨by decide, rfl⟩
  have reads : Reader.list (.primary 57) exampleOpened =
      .ok (.list [] none, ⟨[⟨.comma, 2, 3⟩], 7, 1, 3⟩) := rfl
  have parses : parseProgram "p(1.5) :- not(q). r." =
      .ok [⟨.compound "p" [.number "1.5"], some (.not (.goal (.atom "q")))⟩, ⟨.atom "r", none⟩] :=
    toOption_eq_some_iff.mp (by decide +kernel)
  obtain ⟨each, -, -, -, stops⟩ := readers_progress
  obtain ⟨-, -, -, -, -, lists, -⟩ := (each 57).1
  exact ⟨stands, ⟨_, (lists stands reads).imp fun later moved => ⟨reads, moved⟩⟩, parses,
    stops _ _ parses⟩

end Statute.Logic
