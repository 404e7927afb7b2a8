import Statute.Logic.Clause.Reader

/-!
# Reading judgments

`Reads reader levels tokens value follow` says that a reader takes exactly these tokens and returns
the value, from every place before them at which so many levels may still be opened, provided that
`follow` holds of the token behind them. Offsets play no part in such a judgment, so it holds of
tokens wherever they stand in a source. The module has one rule for each reader that facts use;
judgments about rules with bodies need more of them.
-/

namespace Statute.Logic

/-- The token at the beginning of a list of lexemes. -/
def headToken? (lexemes : List Lexeme) : Option Token :=
  lexemes.head?.map Lexeme.token

/-- The name that a token gives to an atom or a compound term. -/
def termName? : Token → Option String
  | .atom name => some name
  | .quotedAtom spelling => some (Reader.unquote spelling)
  | _ => none

/-- A reader takes these tokens and no more, and returns a value for them. -/
def Reads {α : Type} (reader : Reader α) (levels : Nat) (tokens : List Token) (value : α)
    (follow : Option Token → Prop) : Prop :=
  ∀ (read rest : List Lexeme) (depth previous length : Nat),
    read.map Lexeme.token = tokens → depth + levels ≤ maximumDepth → follow (headToken? rest) →
    ∃ start, reader ⟨read ++ rest, depth, previous, length⟩ =
      .ok (value, ⟨rest, depth, start, length⟩)

namespace Cursor

variable {rest : List Lexeme} {depth previous length : Nat}

@[simp] theorem peek?_mk : peek? ⟨rest, depth, previous, length⟩ = headToken? rest := rfl

@[simp] theorem advance_cons {lexeme : Lexeme} :
    advance ⟨lexeme :: rest, depth, previous, length⟩ = ⟨rest, depth, lexeme.start, length⟩ := rfl

@[simp] theorem eat?_cons {lexeme : Lexeme} :
    eat? lexeme.token ⟨lexeme :: rest, depth, previous, length⟩ =
      some ⟨rest, depth, lexeme.start, length⟩ := by
  simp [eat?, headToken?]

/-- A token that does not come next is not eaten. -/
theorem eat?_eq_none {wanted : Token} (apart : headToken? rest ≠ some wanted) :
    eat? wanted ⟨rest, depth, previous, length⟩ = none := by
  simp [eat?, apart]

@[simp] theorem expect_cons {lexeme : Lexeme} {wanted : Expectation} :
    expect lexeme.token wanted ⟨lexeme :: rest, depth, previous, length⟩ =
      .ok ⟨rest, depth, lexeme.start, length⟩ := by
  simp [expect]

end Cursor

namespace Reads

variable {α : Type} {levels : Nat} {tokens : List Token} {follow : Option Token → Prop}

/-- A judgment for more followers serves for fewer of them. -/
theorem mono {reader : Reader α} {value : α} {narrower : Option Token → Prop}
    (reads : Reads reader levels tokens value follow)
    (narrow : ∀ next, narrower next → follow next) :
    Reads reader levels tokens value narrower :=
  fun read rest depth previous length same free followed =>
    reads read rest depth previous length same free (narrow _ followed)

/-- The tokens of several parts with a separator in front of each. -/
def behindSeparators (separator : Token) (parts : List (List Token × α)) : List Token :=
  parts.flatMap fun part => separator :: part.1

/-- Each part has a separator at least, so the number of tokens left is bound enough for reading the
parts. -/
theorem length_le_behindSeparators (separator : Token) (parts : List (List Token × α)) :
    parts.length ≤ (behindSeparators separator parts).length := by
  induction parts with
  | nil => simp
  | cons part parts inductionHypothesis =>
    simp only [behindSeparators, List.flatMap_cons, List.length_cons, List.length_append] at *
    omega

/-- Behind an item stands a separator, or what follows all of the items. -/
theorem followed_of_behindSeparators {separator : Token} {parts : List (List Token × α)}
    {read rest : List Lexeme} (same : read.map Lexeme.token = behindSeparators separator parts)
    (followed : follow (headToken? rest)) :
    headToken? (read ++ rest) = some separator ∨ follow (headToken? (read ++ rest)) := by
  cases parts with
  | nil =>
    obtain rfl : read = [] := by simpa [behindSeparators] using same
    exact .inr followed
  | cons part parts =>
    obtain ⟨lexeme, read, rfl, isSeparator, -⟩ := List.map_eq_cons_iff.mp same
    exact .inl (congrArg some isSeparator)

/-- Further items, each behind a separator. -/
theorem further {item : Reader α} {separator : Token} {parts : List (List Token × α)}
    (items : ∀ part ∈ parts, Reads item levels part.1 part.2
      fun next => next = some separator ∨ follow next)
    (ends : ¬ follow (some separator)) {bound : Nat} (enough : parts.length ≤ bound) :
    Reads (Reader.further separator item bound) levels (behindSeparators separator parts)
      (parts.map Prod.snd) follow := by
  induction parts generalizing bound with
  | nil =>
    intro read rest depth previous length same free followed
    obtain rfl : read = [] := by simpa [behindSeparators] using same
    have apart : headToken? rest ≠ some separator := fun next => ends (next ▸ followed)
    refine ⟨previous, ?_⟩
    cases bound with
    | zero => rfl
    | succ bound => simp [Reader.further, Cursor.eat?_eq_none apart]
  | cons part parts inductionHypothesis =>
    obtain ⟨bound, rfl⟩ : ∃ less, bound = less + 1 := ⟨bound - 1, by simp at enough; omega⟩
    intro read rest depth previous length same free followed
    obtain ⟨lexeme, read, rfl, rfl, same⟩ := List.map_eq_cons_iff.mp same
    obtain ⟨itemRead, laterRead, rfl, itemSame, laterSame⟩ := List.map_eq_append_iff.mp same
    obtain ⟨start, itemReads⟩ := items part List.mem_cons_self itemRead (laterRead ++ rest) depth
      lexeme.start length itemSame free (followed_of_behindSeparators laterSame followed)
    obtain ⟨finish, laterReads⟩ := inductionHypothesis
      (fun part member => items part (List.mem_cons_of_mem _ member)) (by simpa using enough)
      laterRead rest depth start length laterSame free followed
    refine ⟨finish, ?_⟩
    simp [Reader.further, itemReads, laterReads, bind, Except.bind, pure, Except.pure]

/-- Items with a separator between neighbours. -/
theorem separated {item : Reader α} {separator : Token} {first : List Token × α}
    {parts : List (List Token × α)}
    (items : ∀ part ∈ first :: parts, Reads item levels part.1 part.2
      fun next => next = some separator ∨ follow next)
    (ends : ¬ follow (some separator)) :
    Reads (Reader.separated separator item) levels
      (first.1 ++ behindSeparators separator parts) (first.2 :: parts.map Prod.snd) follow := by
  intro read rest depth previous length same free followed
  obtain ⟨itemRead, laterRead, rfl, itemSame, laterSame⟩ := List.map_eq_append_iff.mp same
  have enough : parts.length ≤ (laterRead ++ rest).length := by
    have lengths := congrArg List.length laterSame
    have atLeast := length_le_behindSeparators separator parts
    simp only [List.length_map, List.length_append] at lengths ⊢
    omega
  obtain ⟨start, itemReads⟩ := items first List.mem_cons_self itemRead (laterRead ++ rest) depth
    previous length itemSame free (followed_of_behindSeparators laterSame followed)
  obtain ⟨finish, laterReads⟩ := further
    (fun part member => items part (List.mem_cons_of_mem _ member)) ends enough
    laterRead rest depth start length laterSame free followed
  refine ⟨finish, ?_⟩
  rw [List.append_assoc]
  simp only [Reader.separated, itemReads, laterReads, bind, Except.bind, pure, Except.pure]

/-- An operand without an operator behind it. -/
theorem operandsWith {spellings : List String} {operand : Reader Term} {term : Term}
    (reads : Reads operand levels tokens term follow)
    (ends : ∀ spelling ∈ spellings, ¬ follow (some (.operator spelling))) :
    Reads (Reader.operandsWith spellings operand) levels tokens term follow := by
  intro read rest depth previous length same free followed
  obtain ⟨start, operandReads⟩ := reads read rest depth previous length same free followed
  refine ⟨start, ?_⟩
  have nothingBehind (bound : Nat) :
      Reader.operations spellings operand bound term ⟨rest, depth, start, length⟩ =
        .ok (term, ⟨rest, depth, start, length⟩) := by
    cases bound with
    | zero => rfl
    | succ bound =>
      simp only [Reader.operations, Cursor.peek?_mk]
      split
      next spelling next =>
        have unlisted : spellings.contains spelling = false := by
          simpa using fun listed => ends spelling listed (next ▸ followed)
        simp only [unlisted, Bool.false_eq_true, if_false]
      next => rfl
  simp only [Reader.operandsWith, operandReads, bind, Except.bind, nothingBehind]

/-- A primary with no operator behind it is a goal. -/
theorem goal {primary : Reader Term} {term : Term}
    (reads : Reads primary levels tokens term follow)
    (noOperator : ∀ spelling, ¬ follow (some (.operator spelling)))
    (noComparison : ¬ follow (some (.atom "is"))) :
    Reads (Reader.goal primary) levels tokens term follow := by
  have product : Reads (Reader.product primary) levels tokens term follow :=
    operandsWith reads fun spelling _ => noOperator spelling
  have sum : Reads (Reader.sum primary) levels tokens term follow :=
    operandsWith product fun spelling _ => noOperator spelling
  intro read rest depth previous length same free followed
  obtain ⟨start, sumReads⟩ := sum read rest depth previous length same free followed
  have noneBehind : Reader.comparison? (headToken? rest) = none := by
    unfold Reader.comparison?
    split
    next spelling next => exact absurd (next ▸ followed) (noOperator spelling)
    next next => exact absurd (next ▸ followed) noComparison
    next => rfl
  refine ⟨start, ?_⟩
  simp only [Reader.goal, sumReads, bind, Except.bind, Cursor.peek?_mk, noneBehind, pure,
    Except.pure]

/-- A name without arguments. -/
theorem callable_atom {primary : Reader Term} (name : String) :
    Reads (Reader.callable primary name) levels [] (.atom name) (· ≠ some .openParen) := by
  intro read rest depth previous length same free followed
  obtain rfl : read = [] := by simpa using same
  exact ⟨previous, by simp [Reader.callable, Cursor.eat?_eq_none followed]⟩

/-- A name with arguments in parentheses. -/
theorem callable_compound {primary : Reader Term} {arguments : List Term}
    (reads : Reads (Reader.arguments primary) levels tokens arguments
      (· = some .closeParen)) (name : String) :
    Reads (Reader.callable primary name) levels (.openParen :: tokens ++ [.closeParen])
      (.compound name arguments) fun _ => True := by
  intro read rest depth previous length same free followed
  obtain ⟨opening, read, rfl, isOpening, same⟩ := List.map_eq_cons_iff.mp same
  obtain ⟨inside, closing, rfl, insideSame, closingSame⟩ := List.map_eq_append_iff.mp same
  obtain ⟨lexeme, closing, rfl, isClosing, noMore⟩ := List.map_eq_cons_iff.mp closingSame
  obtain rfl : closing = [] := by simpa using noMore
  obtain ⟨start, argumentsRead⟩ := reads inside (lexeme :: rest) depth opening.start length
    insideSame free (congrArg some isClosing)
  refine ⟨lexeme.start, ?_⟩
  simp only [Reader.callable, List.cons_append, List.append_assoc, List.nil_append,
    ← isOpening, ← isClosing, Cursor.eat?_cons, argumentsRead, bind, Except.bind,
    Cursor.expect_cons, pure, Except.pure]

/-- A primary is read at one level more than what is inside it. -/
theorem primary {term : Term}
    (reads : Reads (Reader.primaryInside (Reader.primary levels)) levels tokens term follow) :
    Reads (Reader.primary (levels + 1)) (levels + 1) tokens term follow := by
  intro read rest depth previous length same free followed
  obtain ⟨start, insideReads⟩ := reads read rest (depth + 1) previous length same
    (by omega) followed
  refine ⟨start, ?_⟩
  have opens : ¬ maximumDepth < depth + 1 := by omega
  simp only [Reader.primary, Cursor.enter, opens, if_false, insideReads, bind, Except.bind,
    Cursor.leave, Nat.add_sub_cancel, pure, Except.pure]

section PrimaryInside

variable {primary : Reader Term}

/-- A name, quoted or not, is read with what may follow it. -/
theorem primaryInside_name {token : Token} {name : String} {term : Term}
    (named : termName? token = some name)
    (reads : Reads (Reader.callable primary name) levels tokens term follow) :
    Reads (Reader.primaryInside primary) levels (token :: tokens) term follow := by
  intro read rest depth previous length same free followed
  obtain ⟨lexeme, read, rfl, rfl, laterSame⟩ := List.map_eq_cons_iff.mp same
  obtain ⟨start, callableReads⟩ := reads read rest depth lexeme.start length laterSame free followed
  refine ⟨start, ?_⟩
  simp only [Reader.primaryInside, List.cons_append, Cursor.peek?_mk, headToken?,
    List.head?_cons, Option.map_some, Cursor.advance_cons]
  unfold termName? at named
  split at named
  next found =>
    obtain rfl := Option.some.inj named
    simpa only [found] using callableReads
  next found =>
    obtain rfl := Option.some.inj named
    simpa only [found] using callableReads
  next => exact nomatch named

/-- A number stands for itself. -/
theorem primaryInside_number (text : String) :
    Reads (Reader.primaryInside primary) levels [.number text] (.number text) fun _ => True := by
  intro read rest depth previous length same free followed
  obtain ⟨lexeme, read, rfl, isNumber, noMore⟩ := List.map_eq_cons_iff.mp same
  obtain rfl : read = [] := by simpa using noMore
  refine ⟨lexeme.start, ?_⟩
  simp [Reader.primaryInside, headToken?, isNumber]

/-- A number behind a minus sign is a negative number. -/
theorem primaryInside_negative (text : String) :
    Reads (Reader.primaryInside primary) levels [.operator "-", .number text]
      (.number ("-" ++ text)) fun _ => True := by
  intro read rest depth previous length same free followed
  obtain ⟨minus, read, rfl, isMinus, same⟩ := List.map_eq_cons_iff.mp same
  obtain ⟨lexeme, read, rfl, isNumber, noMore⟩ := List.map_eq_cons_iff.mp same
  obtain rfl : read = [] := by simpa using noMore
  refine ⟨lexeme.start, ?_⟩
  simp [Reader.primaryInside, headToken?, Cursor.peekSecond?, isMinus, isNumber]

end PrimaryInside

/-- A callable head and a stop are a fact. -/
theorem clause_fact {head : Term}
    (reads : Reads (Reader.primary maximumDepth) maximumDepth tokens head (· = some .stop))
    (callable : head.isCallable = true) :
    Reads Reader.clause maximumDepth (tokens ++ [.stop]) ⟨head, none⟩ fun _ => True := by
  intro read rest depth previous length same free followed
  obtain rfl : depth = 0 := by omega
  obtain ⟨headRead, stop, rfl, headSame, stopSame⟩ := List.map_eq_append_iff.mp same
  obtain ⟨lexeme, stop, rfl, isStop, noMore⟩ := List.map_eq_cons_iff.mp stopSame
  obtain rfl : stop = [] := by simpa using noMore
  obtain ⟨start, headReads⟩ := reads headRead (lexeme :: rest) 0 previous length headSame free
    (congrArg some isStop)
  have noNeck : headToken? (lexeme :: rest) ≠ some .neck := by
    simp [headToken?, isStop]
  refine ⟨lexeme.start, ?_⟩
  simp only [Reader.clause, List.append_assoc, List.cons_append, List.nil_append, Nat.sub_zero,
    headReads, callable, if_true, Cursor.eat?_eq_none noNeck, ← isStop, Cursor.expect_cons, bind,
    Except.bind, pure, Except.pure]

end Reads

end Statute.Logic
