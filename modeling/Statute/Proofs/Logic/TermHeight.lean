import Statute.Proofs.Logic.CalledNames
import Statute.Proofs.Logic.Writing

/-!
# Heights of terms that are read

Each level of nesting adds two at most to the height of a term: one for the call or the list that
opens it and one for a comparison inside. Signs of arithmetic open no level, and each of them may
add one: operations of one rank group to the left, so that every sign stands above those before it.

The main statement says that the terms of a clause are lower than twice the levels that may be open,
but for as many more as the source has signs of arithmetic. There is no bound for all sources, since
sums may be as long as one likes.
-/

namespace Statute.Logic

open Grammar

/-! ## Heights -/

namespace Term

mutual

/-- The height of a term as a tree: that of an atom, a variable, a number or a string is one. -/
def height : Term → Nat
  | compound _ arguments => heightOfAll arguments + 1
  | list items none => heightOfAll items + 1
  | list items (some tail) => max (heightOfAll items) tail.height + 1
  | _ => 1

/-- The height of the highest of several terms. -/
def heightOfAll : List Term → Nat
  | [] => 0
  | term :: rest => max term.height (heightOfAll rest)

end

/-- Each of several terms is at most as high as the highest. -/
theorem height_le_heightOfAll {terms : List Term} {term : Term} (member : term ∈ terms) :
    term.height ≤ heightOfAll terms := by
  induction terms with
  | nil => cases member
  | cons first others inductionHypothesis =>
    rw [heightOfAll]
    rcases List.mem_cons.mp member with rfl | member
    · exact Nat.le_max_left _ _
    · exact (inductionHypothesis member).trans (Nat.le_max_right _ _)

/-- A term is part of another: it is the other, or it is part of an argument, an item or a tail. -/
inductive Within (part : Term) : Term → Prop where
  | whole : Within part part
  | argument {functor arguments argument} (member : argument ∈ arguments)
      (inside : Within part argument) : Within part (.compound functor arguments)
  | item {items tail item} (member : item ∈ items) (inside : Within part item) :
      Within part (.list items tail)
  | tail {items tail} (inside : Within part tail) : Within part (.list items (some tail))

/-- No part is higher than the whole. -/
theorem Within.height_le {part term : Term} (within : part.Within term) :
    part.height ≤ term.height := by
  induction within with
  | whole => exact Nat.le_refl _
  | argument member _ inductionHypothesis =>
    have lower := height_le_heightOfAll member
    rw [height]
    omega
  | @item items tail _ member _ inductionHypothesis =>
    have lower := height_le_heightOfAll member
    cases tail <;>
    · rw [height]
      omega
  | tail _ inductionHypothesis =>
    rw [height]
    omega

end Term

/-- A term is part of the head or of a goal of the body. -/
def Clause.Contains (clause : Clause) (term : Term) : Prop :=
  term.Within clause.head ∨ ∃ goal ∈ clause.goals, term.Within goal

/-! ## Signs of arithmetic -/

/-- The operators of products and sums. -/
def Token.isArithmeticSign : Token → Bool
  | .operator spelling => ["*", "/", "+", "-"].contains spelling
  | _ => false

/-- How many signs of arithmetic there are. A minus sign in front of a number counts, too. -/
def arithmeticSigns (tokens : List Token) : Nat :=
  tokens.countP Token.isArithmeticSign

/-- Signs are counted piece by piece. -/
@[simp]
theorem arithmeticSigns_append (tokens later : List Token) :
    arithmeticSigns (tokens ++ later) = arithmeticSigns tokens + arithmeticSigns later :=
  List.countP_append

/-- There are no fewer signs with another token in front. -/
theorem arithmeticSigns_le_cons (token : Token) (tokens : List Token) :
    arithmeticSigns tokens ≤ arithmeticSigns (token :: tokens) :=
  (List.sublist_cons_self token tokens).countP_le

/-- An operator of arithmetic is one sign more. The heights below use it to pay for the operation.
-/
theorem arithmeticSigns_operator {spelling : String} (listed : spelling ∈ ["*", "/", "+", "-"])
    (tokens : List Token) :
    arithmeticSigns (.operator spelling :: tokens) = arithmeticSigns tokens + 1 :=
  List.countP_cons_of_pos (List.contains_iff_mem.mpr listed)

/-! ## Bounds for the rules of the grammar -/

/-- Terms that are derived by a rule are lower than the bound, but for as many more as there are
signs of arithmetic. -/
def HeightBelow (bound : Nat) (phrase : Phrase Term) : Prop :=
  ∀ ⦃tokens term⦄, phrase tokens term → term.height < bound + arithmeticSigns tokens

namespace HeightBelow

variable {bound : Nat} {primary : Phrase Term}

/-- Operands of one rank are as low as a single one: each operation has a sign of its own. -/
theorem operandsWith {spellings : List String} {operand : Phrase Term}
    (below : HeightBelow bound operand) (arithmetic : spellings ⊆ ["*", "/", "+", "-"]) :
    HeightBelow bound (OperandsWith spellings operand) := by
  intro tokens term derives
  induction derives with
  | single only => exact below only
  | operation _ listed last inductionHypothesis =>
    have lastBelow := below last
    -- The operation is one higher than its operands, and it has a sign that neither of them has.
    rw [arithmeticSigns_append, arithmeticSigns_operator (arithmetic listed)]
    simp only [Term.height, Term.heightOfAll]
    omega

/-- Products and sums keep the bound, as all their operators are signs. -/
theorem sum (below : HeightBelow bound primary) : HeightBelow bound (IsSum primary) :=
  (below.operandsWith (by decide)).operandsWith (by decide)

/-- A comparison adds one. -/
theorem goal (below : HeightBelow bound primary) : HeightBelow (bound + 1) (IsGoal primary) := by
  intro tokens term derives
  cases derives with
  | sum only =>
    have sumBelow := below.sum only
    omega
  | @comparison leftTokens _ token _ rightTokens _ before compares behind =>
    have leftBelow := below.sum before
    have rightBelow := below.sum behind
    have fewer := arithmeticSigns_le_cons token rightTokens
    rw [arithmeticSigns_append]
    simp only [Term.height, Term.heightOfAll]
    omega

/-- Goals between commas are as low as a single one. -/
theorem goals (below : HeightBelow bound primary) {tokens : List Token} {terms : List Term}
    (derives : AreGoals primary tokens terms) :
    Term.heightOfAll terms < bound + 1 + arithmeticSigns tokens := by
  induction derives with
  | single only =>
    have goalBelow := below.goal only
    simp only [Term.heightOfAll]
    omega
  | @cons firstTokens _ tokens _ first others inductionHypothesis =>
    have goalBelow := below.goal first
    have fewer := arithmeticSigns_le_cons .comma tokens
    rw [arithmeticSigns_append]
    simp only [Term.heightOfAll]
    omega

/-- A call or a list adds one to what its goals may have. -/
theorem inPrimary (below : HeightBelow bound primary) :
    HeightBelow (bound + 2) (InPrimary primary) := by
  intro tokens term derives
  cases derives with
  | @compound token _ inner _ _ inside =>
    have argumentsBelow := below.goals inside
    have fewer := arithmeticSigns_le_cons .openParen inner
    have fewerNamed := arithmeticSigns_le_cons token (.openParen :: inner)
    rw [arithmeticSigns_append]
    simp only [Term.height]
    omega
  | @list inner _ inside =>
    have itemsBelow := below.goals inside
    have fewer := arithmeticSigns_le_cons .openBracket inner
    rw [arithmeticSigns_append]
    simp only [Term.height]
    omega
  | @listWithTail inner _ behindBar _ inside behind =>
    have itemsBelow := below.goals inside
    have tailBelow := below.sum behind
    have fewer := arithmeticSigns_le_cons .openBracket inner
    have fewerBehind := arithmeticSigns_le_cons .bar behindBar
    rw [arithmeticSigns_append, arithmeticSigns_append]
    simp only [Term.height]
    omega
  | @grouped inner _ inside =>
    have innerBelow := below.sum inside
    have fewer := arithmeticSigns_le_cons .openParen inner
    rw [arithmeticSigns_append]
    omega
  | _ =>
    simp only [Term.height, Term.heightOfAll]
    omega

/-- Primaries are lower than twice the levels that they may open. -/
theorem isPrimary (levels : Nat) : HeightBelow (2 * levels) (IsPrimary levels) := by
  induction levels with
  | zero => exact fun _ _ derives => derives.elim
  | succ levels inductionHypothesis => exact inductionHypothesis.inPrimary

end HeightBelow

/-- The goals of bodies that are derived by a rule are lower than the bound, but for as many more as
there are signs of arithmetic. -/
def GoalsBelow (bound : Nat) (phrase : Phrase Body) : Prop :=
  ∀ ⦃tokens body⦄, phrase tokens body →
    ∀ goal ∈ body.goals, goal.height < bound + arithmeticSigns tokens

namespace GoalsBelow

variable {bound : Nat} {unary body : Phrase Body}

/-- A bound may be raised. -/
theorem mono {higher : Nat} {phrase : Phrase Body} (below : GoalsBelow bound phrase)
    (notLower : bound ≤ higher) : GoalsBelow higher phrase := by
  intro tokens body derives goal member
  have goalBelow := below derives goal member
  omega

/-- The parts of a conjunction or a disjunction are bounded by the signs of the whole, of which they
have their own. -/
theorem separated {separator : Token} {item : Phrase Body} (below : GoalsBelow bound item)
    {tokens : List Token} {parts : List Body} (derives : Separated separator item tokens parts) :
    ∀ part ∈ parts, ∀ goal ∈ part.goals, goal.height < bound + arithmeticSigns tokens := by
  induction derives with
  | single only => exact List.forall_mem_singleton.mpr (below only)
  | @cons _ _ later _ first _ inductionHypothesis =>
    have fewer := arithmeticSigns_le_cons separator later
    rw [arithmeticSigns_append]
    refine List.forall_mem_cons.mpr ⟨fun goal member => ?_, fun part ofParts goal member => ?_⟩
    · have goalBelow := below first goal member
      omega
    · have goalBelow := inductionHypothesis part ofParts goal member
      omega

/-- Parts that are joined have the goals of all of them. A part that stays alone keeps its own. -/
theorem collapse {separator : Token} {item : Phrase Body} {join : List Body → Body}
    (below : GoalsBelow bound item) (joins : ∀ parts, (join parts).goals = Body.goalsOfAll parts)
    {tokens : List Token} {parts : List Body} (derives : Separated separator item tokens parts) :
    ∀ goal ∈ (Reader.collapse join parts).goals,
      goal.height < bound + arithmeticSigns tokens := by
  intro goal member
  rw [Body.goals_collapse (joins parts)] at member
  obtain ⟨part, ofParts, ofPart⟩ := Body.mem_goalsOfAll_iff.mp member
  exact below.separated derives part ofParts goal ofPart

/-- A conjunction has no bounds but those of its parts. -/
theorem isConjunction (below : GoalsBelow bound unary) :
    GoalsBelow bound (IsConjunction unary) := by
  rintro tokens _ ⟨parts, inside, rfl⟩
  exact below.collapse (fun _ => rfl) inside

/-- A body has no bounds but those of its parts. -/
theorem inBody (below : GoalsBelow bound unary) : GoalsBelow bound (InBody unary) := by
  rintro tokens _ ⟨parts, inside, rfl⟩
  exact below.isConjunction.collapse (fun _ => rfl) inside

/-- Only a goal takes one more than the bound, for its comparison. Negations and groups hand on the
goals that they have. -/
theorem inUnary {admits : List Token → Prop} {primary : Phrase Term}
    (belowUnary : GoalsBelow bound unary) (belowBody : GoalsBelow bound body)
    (belowPrimary : HeightBelow bound primary) :
    GoalsBelow (bound + 1) (InUnary admits unary body primary) := by
  intro tokens part derives goal member
  cases derives with
  | @notProvable inner _ behind =>
    have goalBelow := belowUnary behind goal member
    have fewer := arithmeticSigns_le_cons .notProvable inner
    omega
  | @negation inner _ inside =>
    have goalBelow := belowBody inside goal member
    have fewer := arithmeticSigns_le_cons .openParen inner
    have fewerNamed := arithmeticSigns_le_cons (.atom "not") (.openParen :: inner)
    rw [arithmeticSigns_append]
    omega
  | @grouped inner _ inside =>
    have goalBelow := belowBody inside goal member
    have fewer := arithmeticSigns_le_cons .openParen inner
    rw [arithmeticSigns_append]
    omega
  | goal _ only =>
    obtain rfl := List.mem_singleton.mp member
    exact belowPrimary.goal only

/-- Goals of bodies are lower than twice the levels that may be open. -/
theorem bodies {admits : List Token → Prop} (levels : Nat) :
    GoalsBelow (2 * levels) (IsUnary admits levels) ∧
      GoalsBelow (2 * levels) (IsBody admits levels) := by
  induction levels with
  | zero => exact ⟨fun _ _ derives => derives.elim, fun _ _ derives => derives.elim⟩
  | succ levels inductionHypothesis =>
    obtain ⟨unaries, bodies⟩ := inductionHypothesis
    exact ⟨(unaries.inUnary bodies (.isPrimary levels)).mono (by omega),
      unaries.inBody.mono (by omega)⟩

end GoalsBelow

/-! ## Clauses -/

/-- A term of a derived clause stands in the head, which is a primary, or in the body, so that the
bounds of both apply. -/
theorem height_lt_of_isClause {admits : List Token → Prop} {tokens : List Token} {clause : Clause}
    {term : Term} (derives : IsClause admits tokens clause) (contains : clause.Contains term) :
    term.height < 2 * maximumDepth + arithmeticSigns tokens := by
  cases derives with
  | @fact _ head begins callable =>
    have headBelow := HeightBelow.isPrimary maximumDepth begins
    rw [arithmeticSigns_append]
    rcases contains with inHead | ⟨goal, member, inGoal⟩
    · have notHigher : term.height ≤ head.height := inHead.height_le
      omega
    · cases member
  | @rule _ head bodyTokens _ begins callable behind =>
    have headBelow := HeightBelow.isPrimary maximumDepth begins
    have fewer := arithmeticSigns_le_cons .neck bodyTokens
    rw [arithmeticSigns_append, arithmeticSigns_append]
    rcases contains with inHead | ⟨goal, member, inGoal⟩
    · have notHigher : term.height ≤ head.height := inHead.height_le
      omega
    · have goalBelow := (GoalsBelow.bodies maximumDepth).2 behind goal member
      have notHigher := inGoal.height_le
      omega

/-- Every term of a clause that is read is lower than twice the levels that may be open, but for as
many more as the source has signs of arithmetic. -/
theorem height_lt_of_parseClause {source : String} {clause : Clause}
    (parses : parseClause source = .ok clause) :
    ∃ lexemes, tokenize source = .ok lexemes ∧
      ∀ term, clause.Contains term →
        term.height < 2 * maximumDepth + arithmeticSigns (lexemes.map Lexeme.token) := by
  obtain ⟨lexemes, scans, -⟩ := bind_eq_ok_iff.mp parses
  exact ⟨lexemes, scans,
    fun _ contains => height_lt_of_isClause (isClause_of_parseClause scans parses) contains⟩

/-- What `p([f(1 + 2 * -3 - Y)|T] = X) :- \\+ q(4 / 5).` stands for. -/
def exampleBranches : Clause :=
  let sum := Term.compound "-" [.compound "+" [.number "1",
    .compound "*" [.number "2", .number "-3"]], .var "Y"]
  ⟨.compound "p" [.compound "=" [.list [.compound "f" [sum]] (some (.var "T")), .var "X"]],
    some (.not (.goal (.compound "q" [.compound "/" [.number "4", .number "5"]])))⟩

/-- Its head has eight terms one below the other. -/
theorem exampleBranches_height :
    parseClause "p([f(1 + 2 * -3 - Y)|T] = X) :- \\+ q(4 / 5)." = .ok exampleBranches ∧
      exampleBranches.head.height = 8 ∧
      ∃ lexemes, tokenize "p([f(1 + 2 * -3 - Y)|T] = X) :- \\+ q(4 / 5)." = .ok lexemes ∧
        ∀ term, exampleBranches.Contains term →
          term.height < 2 * maximumDepth + arithmeticSigns (lexemes.map Lexeme.token) := by
  have parses : parseClause "p([f(1 + 2 * -3 - Y)|T] = X) :- \\+ q(4 / 5)." =
      .ok exampleBranches := toOption_eq_some_iff.mp (by decide +kernel)
  exact ⟨parses, by decide +kernel, height_lt_of_parseClause parses⟩

/-! ## Sums of every height -/

/-- One, with one added as often as given. -/
def onesSum : Nat → Term
  | 0 => .number "1"
  | additions + 1 => .compound "+" [onesSum additions, .number "1"]

/-- The fact that has such a sum as its argument. -/
def onesFact (additions : Nat) : Clause :=
  ⟨.compound "p" [onesSum additions], none⟩

/-- Each addition stands above those before it. -/
theorem height_onesSum (additions : Nat) : (onesSum additions).height = additions + 1 := by
  induction additions with
  | zero => rfl
  | succ additions inductionHypothesis =>
    simp only [onesSum, Term.height, Term.heightOfAll, inductionHypothesis]
    omega

/-- Additions open no level. -/
theorem levels_onesSum (additions : Nat) : (onesSum additions).levels = 1 := by
  induction additions with
  | zero => rfl
  | succ additions inductionHypothesis =>
    have between : Term.isInfix "+" [onesSum additions, .number "1"] = true := rfl
    rw [onesSum, Term.levels, if_pos between]
    simp [Term.levelsOfAll, Term.levels, inductionHypothesis]

/-- A sum of ones may stand where sums do, without parentheses. -/
theorem bare_onesSum (additions : Nat) : Term.Bare .sum (onesSum additions) := by
  induction additions with
  | zero => exact .widen .number (by decide)
  | succ additions inductionHypothesis =>
    exact .operation (.sum (by decide)) inductionHypothesis (.widen .number (by decide))

/-- Numbers and operators of a sum of ones are such as sources have. -/
theorem wellFormed_onesSum (additions : Nat) : (onesSum additions).WellFormed := by
  induction additions with
  | zero => exact .number (by decide)
  | succ additions inductionHypothesis => exact inductionHypothesis.operation (.number (by decide))

/-- Sums of ones are read, however long they are. -/
theorem parseClause_onesFact (additions : Nat) :
    parseClause (onesFact additions).render = .ok (onesFact additions) := by
  have bare : (onesFact additions).Bare :=
    ⟨.call (by decide) (fun same => absurd same.1 (by decide))
      (List.forall_mem_singleton.mpr (.widen (bare_onesSum additions) (by decide))), nofun⟩
  have wellFormed : (onesFact additions).WellFormed :=
    ⟨.compound (List.cons_ne_nil _ _)
      (List.forall_mem_singleton.mpr (wellFormed_onesSum additions)), rfl, nofun⟩
  have shallow : (onesFact additions).levels ≤ maximumDepth := by
    have call : Term.isInfix "p" [onesSum additions] = false := rfl
    have levels : (Term.compound "p" [onesSum additions]).levels = 2 := by
      rw [Term.levels, call, if_neg Bool.false_ne_true]
      simp [Term.levelsOfAll, levels_onesSum]
    exact levels.le.trans (by decide)
  obtain ⟨tokens, judged, derives⟩ := bare.exists_written wellFormed shallow
  exact parseClause_of_scans judged derives

/-- One more copy of an item can be joined at the end. -/
theorem joined_replicate_succ (separator item : String) (count : Nat) :
    Text.joined separator (List.replicate (count + 2) item) =
      Text.joined separator (List.replicate (count + 1) item) ++ separator ++ item := by
  induction count with
  | zero => rfl
  | succ count inductionHypothesis =>
    calc Text.joined separator (item :: List.replicate (count + 2) item)
        = item ++ separator ++ Text.joined separator (List.replicate (count + 2) item) := rfl
      _ = item ++ separator ++ Text.joined separator (List.replicate (count + 1) item) ++
            separator ++ item := by
          rw [inductionHypothesis]
          simp only [String.append_assoc]

/-- The written form of a sum of ones. -/
theorem render_onesSum (additions : Nat) :
    (onesSum additions).render = Text.joined " + " (List.replicate (additions + 1) "1") := by
  induction additions with
  | zero => rfl
  | succ additions inductionHypothesis =>
    have between : Term.isInfix "+" [onesSum additions, .number "1"] = true := rfl
    rw [onesSum, Term.render_infix between, inductionHypothesis, joined_replicate_succ]
    simp only [Term.render, String.append_assoc]
    rfl

/-- The fact is written as a call with the ones between plus signs. -/
theorem render_onesFact (additions : Nat) :
    (onesFact additions).render =
      "p(" ++ Text.joined " + " (List.replicate (additions + 1) "1") ++ ")." := by
  have call : Term.isInfix "p" [onesSum additions] = false := rfl
  calc (onesFact additions).render
      = (Term.compound "p" [onesSum additions]).render ++ "." := rfl
    _ = "p" ++ "(" ++ (onesSum additions).render ++ ")" ++ "." := by
        rw [Term.render_call call, Term.renderAll]
    _ = "p(" ++ Text.joined " + " (List.replicate (additions + 1) "1") ++ ")." := by
        rw [render_onesSum, String.append_assoc]
        rfl

/-- The call stands above the sum. -/
theorem height_onesFact (additions : Nat) : (onesFact additions).head.height = additions + 2 := by
  simp only [onesFact, Term.height, Term.heightOfAll, height_onesSum]
  omega

/-- A source need not have low terms: a sum of 256 ones is higher than four times the levels that
may be open. -/
theorem exampleOnes_high :
    parseClause ("p(" ++ Text.joined " + " (List.replicate 256 "1") ++ ").") =
        .ok (onesFact 255) ∧
      (onesFact 255).Contains (onesFact 255).head ∧
      4 * maximumDepth < (onesFact 255).head.height := by
  have reads := parseClause_onesFact 255
  rw [render_onesFact] at reads
  refine ⟨reads, .inl .whole, ?_⟩
  rw [height_onesFact]
  decide

end Statute.Logic
