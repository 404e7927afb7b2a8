import Statute.Proofs.Logic.Lookahead

/-!
# Readers accept what the grammar derives

Every derivation in which no goal of a body begins as another unary does is followed by the readers:
they take its tokens and return what the tokens stand for, in front of every token that does not
extend the derivation.
-/

namespace Statute.Logic

open Grammar

namespace Reads

variable {α : Type} {levels : Nat} {tokens : List Token}

/-! ## Terms -/

/-- Items of a derivation with separators between them are read as such. -/
theorem ofSeparated {reader : Reader α} {item : Phrase α} {separator : Token}
    {follow : Option Token → Prop} {values : List α}
    (reads : ∀ {tokens value}, item tokens value → Reads reader levels tokens value follow)
    (separates : follow (some separator)) (derives : Separated separator item tokens values) :
    Reads (Reader.separated separator reader) levels tokens values
      fun next => follow next ∧ next ≠ some separator := by
  obtain ⟨first, parts, rfl, rfl, items⟩ : ∃ (first : List Token × α)
      (parts : List (List Token × α)), tokens = first.1 ++ behindSeparators separator parts ∧
        values = first.2 :: parts.map Prod.snd ∧ ∀ part ∈ first :: parts, item part.1 part.2 := by
    induction derives with
    | @single tokens value only =>
      exact ⟨(tokens, value), [], by simp [behindSeparators], rfl, by simpa using only⟩
    | @cons tokens value later values first _ inductionHypothesis =>
      obtain ⟨second, parts, rfl, rfl, items⟩ := inductionHypothesis
      refine ⟨(tokens, value), second :: parts, by simp [behindSeparators], rfl, ?_⟩
      exact List.forall_mem_cons.mpr ⟨first, items⟩
  refine separated (fun part member => (reads (items part member)).mono ?_) (by simp)
  rintro next (rfl | ⟨ends, -⟩)
  · exact separates
  · exact ends

section Operands

variable {spellings : List String} {reader : Reader Term} {operand : Phrase Term} {term : Term}

/-- Reading operands from the left comes to the loop over what follows them, with their value as the
left operand of it. -/
theorem operations_of_operandsWith
    (reads : ∀ {tokens term}, operand tokens term → Reads reader levels tokens term follow)
    (listedFollow : ∀ spelling ∈ spellings, follow (some (.operator spelling)))
    (derives : OperandsWith spellings operand tokens term)
    {read rest : List Lexeme} {depth : Nat} (previous length : Nat)
    (same : read.map Lexeme.token = tokens) (free : depth + levels ≤ maximumDepth)
    (followed : follow (headToken? rest)) :
    ∃ start bound, rest.length ≤ bound ∧
      Reader.operandsWith spellings reader ⟨read ++ rest, depth, previous, length⟩ =
        Reader.operations spellings reader bound term ⟨rest, depth, start, length⟩ := by
  -- The derivation has its last operator at the root, and the loop meets it last. So the induction
  -- says how far the loop has come, with enough of its bound left.
  induction derives generalizing read rest with
  | single only =>
    obtain ⟨start, operandReads⟩ := reads only read rest depth previous length same free followed
    refine ⟨start, rest.length, Nat.le_refl _, ?_⟩
    simp only [Reader.operandsWith, operandReads, bind, Except.bind]
  | operation before listed last inductionHypothesis =>
    obtain ⟨leftRead, rightRead, rfl, leftSame, rightSame⟩ := List.map_eq_append_iff.mp same
    obtain ⟨lexeme, rightRead, rfl, isOperator, rightSame⟩ := List.map_eq_cons_iff.mp rightSame
    have nextOperator : headToken? (lexeme :: (rightRead ++ rest)) = some (.operator _) :=
      congrArg some isOperator
    obtain ⟨middle, bound, enough, leftReads⟩ := @inductionHypothesis leftRead
      (lexeme :: (rightRead ++ rest)) leftSame (nextOperator ▸ listedFollow _ listed)
    obtain ⟨bound, rfl⟩ : ∃ less, bound = less + 1 := ⟨bound - 1, by simp at enough; omega⟩
    obtain ⟨start, rightReads⟩ := reads last rightRead rest depth lexeme.start length rightSame
      free followed
    refine ⟨start, bound, by simp at enough; omega, ?_⟩
    rw [List.append_assoc, List.cons_append, leftReads, Reader.operations]
    simp only [Cursor.peek?_mk, nextOperator, List.contains_iff_mem.mpr listed, if_true,
      Cursor.advance_cons, rightReads, bind, Except.bind]

/-- The loop over operators ends in front of a token that is none of them. -/
theorem operations_end {rest : List Lexeme}
    (ends : ∀ spelling ∈ spellings, headToken? rest ≠ some (.operator spelling))
    (bound depth previous length : Nat) :
    Reader.operations spellings reader bound term ⟨rest, depth, previous, length⟩ =
      .ok (term, ⟨rest, depth, previous, length⟩) := by
  cases bound with
  | zero => rfl
  | succ bound =>
    rw [Reader.operations]
    split
    next spelling isOperator =>
      have unlisted : spelling ∉ spellings := fun listed => ends spelling listed isOperator
      rw [if_neg (mt List.contains_iff_mem.mp unlisted)]
    next => rfl

/-- Operands of a derivation are read with the operators between them. -/
theorem ofOperandsWith
    (reads : ∀ {tokens term}, operand tokens term → Reads reader levels tokens term follow)
    (listedFollow : ∀ spelling ∈ spellings, follow (some (.operator spelling)))
    (derives : OperandsWith spellings operand tokens term) :
    Reads (Reader.operandsWith spellings reader) levels tokens term
      (EndsOperands spellings follow) := by
  rintro read rest depth previous length same free ⟨followed, ends⟩
  obtain ⟨start, bound, -, loops⟩ :=
    operations_of_operandsWith reads listedFollow derives previous length same free followed
  exact ⟨start, loops.trans (operations_end ends bound depth start length)⟩

end Operands

section Terms

variable {reader : Reader Term} {primary : Phrase Term} {term : Term}

/-- A sum of products is read where neither operators of sums nor of products follow. -/
theorem ofSum
    (reads : ∀ {tokens term}, primary tokens term → Reads reader levels tokens term EndsPrimary)
    (derives : IsSum primary tokens term) :
    Reads (Reader.sum reader) levels tokens term EndsSum := by
  have products {tokens : List Token} {term : Term} (product : IsProduct primary tokens term) :
      Reads (Reader.product reader) levels tokens term (EndsOperands ["*", "/"] EndsPrimary) :=
    ofOperandsWith reads (fun _ _ => by simp [EndsPrimary]) product
  refine ofOperandsWith products ?_ derives
  intro spelling listed
  refine ⟨by simp [EndsPrimary], ?_⟩
  rintro other otherListed same
  obtain rfl : spelling = other := by simpa using same
  revert spelling
  decide

/-- What may follow the first sum of a goal: a comparison with another. -/
def goalEnd (reader : Reader Term) (left : Term) : Reader Term := fun cursor =>
  match Reader.comparison? cursor.peek? with
  | none => return (left, cursor)
  | some spelling => do
    let (right, cursor) ← Reader.sum reader cursor.advance
    return (.compound spelling [left, right], cursor)

/-- A goal is read with its comparison, if it has one. Where it has none, no operator of comparison
may follow. -/
theorem ofGoal
    (reads : ∀ {tokens term}, primary tokens term → Reads reader levels tokens term EndsPrimary)
    (derives : IsGoal primary tokens term) :
    Reads (Reader.goal reader) levels tokens term EndsGoal := by
  cases derives with
  | sum only =>
    rintro read rest depth previous length same free ⟨ends, noComparison⟩
    obtain ⟨start, sumReads⟩ := ofSum reads only read rest depth previous length same free ends
    refine ⟨start, ?_⟩
    simp only [Reader.goal, sumReads, bind, Except.bind, Cursor.peek?_mk, noComparison, pure,
      Except.pure]
  | @comparison leftTokens left token spelling rightTokens right before compares behind =>
    have compared : Reads (goalEnd reader left) levels (token :: rightTokens)
        (.compound spelling [left, right]) EndsSum := by
      refine Reads.behind
        ((ofSum reads behind).map fun right => Term.compound spelling [left, right]) ?_
      intro cursor next
      simp only [goalEnd, next, comparison?_eq_some_iff.mpr compares]
    have joined := (ofSum reads before).andThen (goalEnd reader) compared
      fun _ _ => endsSum_of_compares compares
    exact joined.mono fun next (ends : EndsGoal next) => ends.1

/-- Goals between commas are read where neither an operator nor another comma follows. -/
theorem ofGoals
    (reads : ∀ {tokens term}, primary tokens term → Reads reader levels tokens term EndsPrimary)
    {terms : List Term} (derives : AreGoals primary tokens terms) :
    Reads (Reader.arguments reader) levels tokens terms
      fun next => EndsGoal next ∧ next ≠ some .comma :=
  ofSeparated (ofGoal reads) (by decide) derives

/-- A name with its arguments is read, whatever follows, as it ends with its own parenthesis. -/
theorem ofCallable
    (reads : ∀ {tokens term}, primary tokens term → Reads reader levels tokens term EndsPrimary)
    {arguments : List Term} (derives : AreGoals primary tokens arguments) (name : String) :
    Reads (Reader.callable reader name) levels (.openParen :: tokens ++ [.closeParen])
      (.compound name arguments) fun _ => True :=
  callable_compound ((ofGoals reads derives).mono (by rintro _ rfl; decide)) name

/-- What follows the items of a list: its tail, if there is one, and the bracket that closes it. -/
def listEnd (reader : Reader Term) (items : List Term) : Reader Term := fun cursor =>
  match cursor.eat? .bar with
  | none => do
    let cursor ← cursor.expect .closeBracket .closeBracket
    return (.list items none, cursor)
  | some cursor => do
    let (tail, cursor) ← Reader.sum reader cursor
    let cursor ← cursor.expect .closeBracket .closeBracket
    return (.list items (some tail), cursor)

/-- A list that is not closed at once has items. -/
theorem list_eq {cursor : Cursor} {first : Token} (next : cursor.peek? = some first)
    (notClosed : first ≠ .closeBracket) :
    Reader.list reader cursor = (do
      let (items, cursor) ← Reader.arguments reader cursor
      listEnd reader items cursor) := by
  have notEaten : cursor.eat? .closeBracket = none := by simp [Cursor.eat?, next, notClosed]
  simp only [Reader.list, notEaten]
  rfl

/-- Items are read up to the bracket or the bar behind them. -/
theorem ofItems
    (reads : ∀ {tokens term}, primary tokens term → Reads reader levels tokens term EndsPrimary)
    (begins : ∀ {tokens term}, primary tokens term → BeginsTerm tokens)
    {items : List Term} (derives : AreGoals primary tokens items) {sign : Token}
    {behind : List Token} (closes : sign = .closeBracket ∨ sign = .bar)
    (readsEnd : Reads (listEnd reader items) levels (sign :: behind) term fun _ => True) :
    Reads (Reader.list reader) levels (tokens ++ sign :: behind) term fun _ => True := by
  have beginsItems : BeginsTerm tokens := Separated.beginsTerm (IsGoal.beginsTerm begins) derives
  cases tokens with
  | nil => cases beginsItems
  | cons first others =>
    have notClosed : first ≠ .closeBracket := by
      rintro rfl
      cases beginsItems
    have ends : EndsGoal (some sign) ∧ some sign ≠ some .comma := by
      rcases closes with rfl | rfl <;> exact ⟨by decide, by decide⟩
    exact at_first ((ofGoals reads derives).andThen (listEnd reader) readsEnd fun _ _ => ends)
      fun cursor next => list_eq next notClosed

/-- A primary is read within its level. Each case of the grammar is chosen by its first token,
except that a list begins like an empty one and is told from it by how terms begin. -/
theorem ofInPrimary
    (reads : ∀ {tokens term}, primary tokens term → Reads reader levels tokens term EndsPrimary)
    (begins : ∀ {tokens term}, primary tokens term → BeginsTerm tokens)
    (derives : InPrimary primary tokens term) :
    Reads (Reader.primaryInside reader) levels tokens term EndsPrimary := by
  have single {token : Token} {term : Term} (returns : ∀ cursor : Cursor,
      cursor.peek? = some token → Reader.primaryInside reader cursor = .ok (term, cursor.advance)) :
      Reads (Reader.primaryInside reader) levels [token] term EndsPrimary :=
    (Reads.behind (done term) returns).mono fun _ _ => trivial
  -- A bracket is read apart from what it opens.
  have bracket {opening : Token} {inside : Reader Term} {tokens : List Token} {term : Term}
      (reads : Reads inside levels tokens term fun _ => True)
      (opens : ∀ cursor : Cursor, cursor.peek? = some opening →
        Reader.primaryInside reader cursor = inside cursor.advance) :
      Reads (Reader.primaryInside reader) levels (opening :: tokens) term EndsPrimary :=
    (reads.behind opens).mono fun _ _ => trivial
  have lists {tokens : List Token} {term : Term}
      (reads : Reads (Reader.list reader) levels tokens term fun _ => True) :
      Reads (Reader.primaryInside reader) levels (.openBracket :: tokens) term EndsPrimary :=
    bracket reads fun cursor next => by simp only [Reader.primaryInside, next]
  cases derives with
  | var => exact single fun cursor next => by simp only [Reader.primaryInside, next]
  | number => exact single fun cursor next => by simp only [Reader.primaryInside, next]
  | negative => exact (primaryInside_negative _).mono fun _ _ => trivial
  | string => exact single fun cursor next => by simp only [Reader.primaryInside, next]
  | atom names => exact primaryInside_name names.termName? (callable_atom _)
  | compound names inside =>
    exact (primaryInside_name names.termName? (ofCallable reads inside _)).mono fun _ _ => trivial
  | emptyList =>
    refine lists (Reads.behind (done _) ?_)
    intro cursor next
    simp [Reader.list, Cursor.eat?, next]
  | list inside =>
    refine lists (ofItems reads begins inside (.inl rfl)
      (at_first (expect .closeBracket .closeBracket _) ?_))
    intro cursor next
    simp [listEnd, Cursor.eat?, next]
  | @listWithTail tokens items tailTokens tail inside behind =>
    have endsTail : Reads (listEnd reader items) levels (.bar :: (tailTokens ++ [.closeBracket]))
        (.list items (some tail)) fun _ => True := by
      refine Reads.behind ((ofSum reads behind).closed (fun tail => Term.list items (some tail))
        .closeBracket .closeBracket (by decide)) ?_
      intro cursor next
      simp [listEnd, Cursor.eat?, next]
    rw [List.append_assoc]
    exact lists (ofItems reads begins inside (.inr rfl) endsTail)
  | grouped inside =>
    exact bracket ((ofSum reads inside).closed id .closeParen .closeParen (by decide))
      fun cursor next => by simp only [Reader.primaryInside, next]; rfl

end Terms

/-- Primaries of a derivation are read, with as many levels as the derivation enters. -/
theorem ofPrimary {term : Term} (derives : IsPrimary levels tokens term) :
    Reads (Reader.primary levels) levels tokens term EndsPrimary := by
  induction levels generalizing tokens term with
  | zero => cases derives
  | succ levels inductionHypothesis =>
    exact entered (fun _ => rfl)
      (ofInPrimary inductionHypothesis IsPrimary.beginsTerm derives)

/-! ## Bodies and clauses -/

section Bodies

variable {unary body : Reader Body} {isUnary isBody : Phrase Body}

/-- A conjunction is read where no comma follows. -/
theorem ofConjunction
    (reads : ∀ {tokens part}, isUnary tokens part → Reads unary levels tokens part EndsGoal)
    {part : Body} (derives : IsConjunction isUnary tokens part) :
    Reads (Reader.conjunction unary) levels tokens part
      fun next => EndsGoal next ∧ next ≠ some .comma := by
  obtain ⟨parts, inside, rfl⟩ := derives
  exact (ofSeparated reads (by decide) inside).map _

/-- A body is read where neither a comma nor a semicolon follows. -/
theorem ofInBody
    (reads : ∀ {tokens part}, isUnary tokens part → Reads unary levels tokens part EndsGoal)
    {part : Body} (derives : InBody isUnary tokens part) :
    Reads (Reader.bodyInside unary) levels tokens part EndsBody := by
  obtain ⟨parts, inside, rfl⟩ := derives
  refine ((ofSeparated (ofConjunction reads) (by decide) inside).map _).mono ?_
  rintro next ⟨endsGoal, notComma, notSemicolon⟩
  exact ⟨⟨endsGoal, notComma⟩, notSemicolon⟩

/-- A goal is read where no other unary begins. -/
theorem unaryInside_goal {primary : Reader Term} {cursor : Cursor}
    (notNegated : cursor.peek? ≠ some .notProvable) (notGrouped : cursor.peek? ≠ some .openParen)
    (notNegation : ¬ (cursor.peek? = some (.atom "not") ∧ cursor.peekSecond? = some .openParen)) :
    Reader.unaryInside unary body primary cursor = (do
      let (term, cursor) ← Reader.goal primary cursor
      return (.goal term, cursor)) := by
  unfold Reader.unaryInside
  split
  next isNegated => exact absurd isNegated notNegated
  next isGrouped => exact absurd isGrouped notGrouped
  next => rw [if_neg notNegation]

/-- A goal that begins apart is not mistaken for another unary, so it is read as a goal. -/
theorem ofAdmittedGoal {primary : Reader Term} {isPrimary : Phrase Term}
    (reads : ∀ {tokens term}, isPrimary tokens term → Reads primary levels tokens term EndsPrimary)
    (begins : ∀ {tokens term}, isPrimary tokens term → BeginsTerm tokens)
    {term : Term} (admitted : BeginsApart tokens) (derives : IsGoal isPrimary tokens term) :
    Reads (Reader.unaryInside unary body primary) levels tokens (.goal term) EndsGoal := by
  have beginsGoal : BeginsTerm tokens := IsGoal.beginsTerm begins derives
  intro read rest depth previous length same free followed
  obtain ⟨start, goalReads⟩ :=
    (ofGoal reads derives).map Body.goal read rest depth previous length same free followed
  refine ⟨start, ?_⟩
  rw [← goalReads]
  subst same
  cases read with
  | nil => cases beginsGoal
  | cons first others =>
    refine unaryInside_goal ?_ ?_ ?_
    · intro isNegated
      rw [BeginsTerm, List.map_cons, List.head?_cons, Option.some.inj isNegated] at beginsGoal
      cases beginsGoal
    · intro isGrouped
      apply admitted.1
      rw [List.map_cons, Option.some.inj isGrouped]
      exact ⟨_, rfl⟩
    · rintro ⟨isNot, opens⟩
      cases others with
      | nil =>
        -- The goal is `not` alone, and what follows it is no parenthesis.
        have apart := followed.1.1.1
        exact apart opens
      | cons second others =>
        apply admitted.2
        rw [List.map_cons, List.map_cons, Option.some.inj isNot, Option.some.inj opens]
        exact ⟨_, rfl⟩

/-- A unary is read within its level. The case of goals is the one that needs to begin apart. -/
theorem ofInUnary {primary : Reader Term} {isPrimary : Phrase Term}
    (readsUnary : ∀ {tokens part}, isUnary tokens part → Reads unary levels tokens part EndsGoal)
    (readsBody : ∀ {tokens part}, isBody tokens part → Reads body levels tokens part EndsBody)
    (reads : ∀ {tokens term}, isPrimary tokens term → Reads primary levels tokens term EndsPrimary)
    (begins : ∀ {tokens term}, isPrimary tokens term → BeginsTerm tokens)
    {part : Body} (derives : InUnary BeginsApart isUnary isBody isPrimary tokens part) :
    Reads (Reader.unaryInside unary body primary) levels tokens part EndsGoal := by
  cases derives with
  | notProvable behind =>
    refine Reads.behind ((readsUnary behind).map Body.not) ?_
    intro cursor next
    simp only [Reader.unaryInside, next]
  | negation inside =>
    refine (behind_both ((readsBody inside).closed Body.not .closeParen .closeParen
      (by decide)) ?_).mono fun _ _ => trivial
    intro cursor next second
    simp only [Reader.unaryInside, next, second, and_self, if_true]
  | grouped inside =>
    refine (Reads.behind ((readsBody inside).closed id .closeParen .closeParen
      (by decide)) ?_).mono fun _ _ => trivial
    intro cursor next
    simp only [Reader.unaryInside, next]
    rfl
  | goal admitted only => exact ofAdmittedGoal reads begins admitted only

end Bodies

/-- Unaries and bodies of a derivation are read, with as many levels as the derivation enters. -/
theorem ofBodies (levels : Nat) :
    (∀ {tokens part}, IsUnary BeginsApart levels tokens part →
      Reads (Reader.unary levels) levels tokens part EndsGoal) ∧
    ∀ {tokens part}, IsBody BeginsApart levels tokens part →
      Reads (Reader.body levels) levels tokens part EndsBody := by
  induction levels with
  | zero => exact ⟨fun derives => derives.elim, fun derives => derives.elim⟩
  | succ levels inductionHypothesis =>
    obtain ⟨readsUnary, readsBody⟩ := inductionHypothesis
    constructor
    · intro tokens part derives
      exact entered (fun _ => rfl)
        (ofInUnary readsUnary readsBody ofPrimary IsPrimary.beginsTerm derives)
    · intro tokens part derives
      exact entered (fun _ => rfl) (ofInBody readsUnary derives)

/-- What follows the head of a clause. -/
def clauseEnd (levels : Nat) (head : Term) : Reader Clause := fun cursor =>
  match cursor.eat? .neck with
  | none => do
    let cursor ← cursor.expect .stop .stop
    return (⟨head, none⟩, cursor)
  | some cursor => do
    let (value, cursor) ← Reader.body levels cursor
    let cursor ← cursor.expect .stop .stop
    return (⟨head, some value⟩, cursor)

/-- Clauses of a derivation are read, whatever follows them. -/
theorem ofClause {clause : Clause} (derives : IsClause BeginsApart tokens clause) :
    Reads Reader.clause maximumDepth tokens clause fun _ => True := by
  cases derives with
  | fact begins callable =>
    exact clause_fact ((ofPrimary begins).mono fun next isStop => by simp [EndsPrimary, isStop])
      callable
  | @rule tokens head bodyTokens body begins callable behind =>
    have ends : Reads (clauseEnd maximumDepth head) maximumDepth
        (.neck :: (bodyTokens ++ [.stop])) ⟨head, some body⟩ fun _ => True := by
      refine Reads.behind (((ofBodies maximumDepth).2 behind).closed
        (fun body => (⟨head, some body⟩ : Clause)) .stop .stop (by decide)) ?_
      intro cursor next
      simp [clauseEnd, Cursor.eat?, next]
    intro read rest depth previous length same free followed
    obtain rfl : depth = 0 := by omega
    rw [List.append_assoc] at same
    obtain ⟨headRead, endRead, rfl, headSame, endSame⟩ := List.map_eq_append_iff.mp same
    have behindHead : headToken? (endRead ++ rest) = some .neck := by
      obtain ⟨lexeme, others, rfl, isNeck, -⟩ := List.map_eq_cons_iff.mp endSame
      exact congrArg some isNeck
    obtain ⟨middle, headReads⟩ := ofPrimary begins headRead (endRead ++ rest) 0 previous length
      headSame free (by simp [EndsPrimary, behindHead])
    obtain ⟨start, endReads⟩ := ends endRead rest 0 middle length endSame free trivial
    refine ⟨start, ?_⟩
    simp only [Reader.clause, List.append_assoc, Nat.sub_zero, headReads, callable, if_true, bind,
      Except.bind]
    exact endReads

end Reads

/-- A source whose tokens have a derivation is read as the clause that they stand for. -/
theorem parseClause_of_isClause {source : String} {lexemes : List Lexeme} {clause : Clause}
    (scans : tokenize source = .ok lexemes)
    (derives : IsClause BeginsApart (lexemes.map Lexeme.token) clause) :
    parseClause source = .ok clause := by
  obtain ⟨start, reads⟩ := Reads.ofClause derives lexemes [] 0 0
    (Text.byteLength source.toList) rfl (Nat.le_refl _) trivial
  rw [List.append_nil] at reads
  simp only [parseClause, scans, Cursor.atStart, reads, bind, Except.bind, Cursor.atEnd,
    List.isEmpty_nil, if_true, pure, Except.pure]

end Statute.Logic
