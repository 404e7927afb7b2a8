import Statute.Proofs.Logic.Naming
import Statute.Proofs.Logic.Soundness
import Statute.Proofs.Logic.Writing

/-!
# Clauses that are read, written and read again

Whatever is read as a clause is well formed. If it is bare too, its written form is read as the same
clause, as long as the parentheses around disjunctions do not enter too many levels. Quotation marks
of names and parentheses that group are lost in the written form, so a clause that needs them is not
read back.
-/

namespace Statute.Logic

open Grammar

/-! ## Spellings of tokens -/

/-- Variables, numbers and strings that are spelled as such. -/
def Token.IsWellFormed : Token → Prop
  | .var name => isVariableName name.toList = true
  | .number text => Examples.isUnsignedNumber text.toList = true
  | .string spelling => IsStringContent (Reader.unquote spelling)
  | _ => True

/-- The number that is cut off at a digit is a number. -/
theorem isUnsignedNumber_splitNumber {first : Char} {text : List Char}
    (digit : isDigit first = true) :
    Examples.isUnsignedNumber (splitNumber (first :: text)).1 = true := by
  have digits : ∀ character ∈ (first :: text).takeWhile isDigit, isDigit character = true :=
    List.all_eq_true.mp List.all_takeWhile
  obtain ⟨others, front⟩ : ∃ others, (first :: text).takeWhile isDigit = first :: others :=
    ⟨_, List.takeWhile_cons_of_pos digit⟩
  rw [front] at digits
  have whole : Examples.isUnsignedNumber (first :: others) = true := by
    have ends : ∀ character ∈ ([] : List Char).head?, isDigit character = false := by simp
    obtain ⟨word, after⟩ := Text.takeWhile_append_of_ends digits ends
    rw [List.append_nil] at word after
    simp only [Examples.isUnsignedNumber, List.span_eq_takeWhile_dropWhile, word, after]
  rw [splitNumber, front]
  split
  next next rest cut =>
    split
    next nextDigit =>
      have fraction : ∀ character ∈ (next :: rest).takeWhile isDigit, isDigit character = true :=
        List.all_eq_true.mp List.all_takeWhile
      have ends : ∀ character ∈ ('.' :: (next :: rest).takeWhile isDigit).head?,
          isDigit character = false := by
        rintro _ ⟨⟩
        decide
      obtain ⟨word, after⟩ := Text.takeWhile_append_of_ends digits ends
      have nonempty : (next :: rest).takeWhile isDigit ≠ [] := by simp [nextDigit]
      simp only [Examples.isUnsignedNumber, List.span_eq_takeWhile_dropWhile, word, after,
        Bool.and_eq_true, Bool.not_eq_true', List.isEmpty_eq_false_iff, List.all_eq_true]
      exact ⟨nonempty, fraction⟩
    next => exact whole
  next => exact whole

/-- A number without sign is a number. -/
theorem isPlainNumber_of_isUnsignedNumber {text : List Char}
    (unsigned : Examples.isUnsignedNumber text = true) : Examples.isPlainNumber text = true := by
  rcases Examples.numberTokens_cases text with ⟨digits, rfl⟩ | ⟨-, same⟩
  · simp [Examples.isUnsignedNumber, List.span_eq_takeWhile_dropWhile, isDigit] at unsigned
  · rw [same, unsigned]

/-- A word or a number that begins a text is well formed. -/
theorem isWellFormed_of_scanWord? {text after : List Char} {token : Token}
    (scanned : scanWord? text = some (token, after)) : token.IsWellFormed := by
  cases text with
  | nil => cases scanned
  | cons first rest =>
    simp only [scanWord?] at scanned
    split at scanned
    next =>
      obtain ⟨rfl, -⟩ := Prod.mk.inj (Option.some.inj scanned)
      trivial
    next =>
      split at scanned
      next upper =>
        obtain ⟨rfl, -⟩ := Prod.mk.inj (Option.some.inj scanned)
        have named := isNameCharacter_of_startsVariable upper
        rw [Token.IsWellFormed, String.toList_ofList, List.takeWhile_cons_of_pos named,
          isVariableName, upper, Bool.true_and]
        exact List.all_takeWhile
      next =>
        split at scanned
        next digit =>
          obtain ⟨rfl, -⟩ := Prod.mk.inj (Option.some.inj scanned)
          rw [Token.IsWellFormed, String.toList_ofList]
          exact isUnsignedNumber_splitNumber digit
        next => cases scanned

/-- A string is scanned from its own text alone. -/
theorem isStringContent_of_splitQuoted? {text inside after : List Char}
    (split : splitQuoted? '"' text = some (inside, after)) :
    IsStringContent (Reader.unquote (String.ofList ('"' :: inside ++ ['"']))) := by
  have unquoted :
      Reader.unquote (String.ofList ('"' :: inside ++ ['"'])) = String.ofList inside := by
    simp [Reader.unquote]
  have spelled : String.ofList ('"' :: inside ++ ['"']) = "\"" ++ String.ofList inside ++ "\"" := by
    rw [← String.toList_inj]
    simp
  rw [unquoted, IsStringContent, ← spelled, String.toList_ofList]
  change scanQuoted? '"' .string _ = _
  rw [scanQuoted?, splitQuoted?_inside split]
  rfl

/-- Scanned variables, numbers and strings are spelled as such. -/
theorem isWellFormed_of_scanToken? {text after : List Char} {token : Token}
    (scanned : scanToken? text = some (token, after)) : token.IsWellFormed := by
  unfold scanToken? at scanned
  split at scanned
  case h_11 rest =>
    obtain ⟨⟨inside, behind⟩, -, same⟩ := Option.map_eq_some_iff.mp scanned
    obtain ⟨rfl, -⟩ := Prod.mk.inj same
    trivial
  case h_12 rest =>
    obtain ⟨⟨inside, behind⟩, split, same⟩ := Option.map_eq_some_iff.mp scanned
    obtain ⟨rfl, -⟩ := Prod.mk.inj same
    exact isStringContent_of_splitQuoted? split
  case h_13 =>
    rcases Option.or_eq_some_iff.mp scanned with operator | ⟨-, word⟩
    · obtain ⟨spelling, -, found⟩ := List.exists_of_findSome?_eq_some operator
      obtain ⟨rest, -, same⟩ := Option.map_eq_some_iff.mp found
      obtain ⟨rfl, -⟩ := Prod.mk.inj same
      trivial
    · exact isWellFormed_of_scanWord? word
  all_goals
    obtain ⟨rfl, -⟩ := Prod.mk.inj (Option.some.inj scanned)
    trivial

/-! ## What is derived from well-formed tokens -/

/-- All of some tokens are well formed. -/
def AreWellFormed (tokens : List Token) : Prop :=
  ∀ token ∈ tokens, token.IsWellFormed

/-- Tokens one after the other are well formed when both parts are. -/
theorem areWellFormed_append {tokens later : List Token} :
    AreWellFormed (tokens ++ later) ↔ AreWellFormed tokens ∧ AreWellFormed later :=
  List.forall_mem_append

/-- Tokens are well formed when the first and the others are. -/
theorem areWellFormed_cons {token : Token} {tokens : List Token} :
    AreWellFormed (token :: tokens) ↔ token.IsWellFormed ∧ AreWellFormed tokens :=
  List.forall_mem_cons

/-- What a phrase derives from well-formed tokens has a property. -/
def Yields {α : Type} (phrase : Phrase α) (property : α → Prop) : Prop :=
  ∀ ⦃tokens value⦄, phrase tokens value → AreWellFormed tokens → property value

namespace Yields

variable {α : Type}

/-- Each of the items between separators has what an item has, and there is at least one. -/
theorem separated {separator : Token} {item : Phrase α} {property : α → Prop}
    (yields : Yields item property) :
    Yields (Separated separator item)
      fun values => values ≠ [] ∧ ∀ value ∈ values, property value := by
  intro tokens values derives wellFormed
  induction derives with
  | single only =>
    exact ⟨List.cons_ne_nil _ _, List.forall_mem_singleton.mpr (yields only wellFormed)⟩
  | cons first others inductionHypothesis =>
    obtain ⟨front, behind⟩ := areWellFormed_append.mp wellFormed
    obtain ⟨-, later⟩ := inductionHypothesis (areWellFormed_cons.mp behind).2
    exact ⟨List.cons_ne_nil _ _, List.forall_mem_cons.mpr ⟨yields first front, later⟩⟩

variable {primary : Phrase Term}

/-- Operands of well-formed terms give a well-formed term, as every operation has two. -/
theorem operandsWith {spellings : List String} (yields : Yields primary Term.WellFormed) :
    Yields (OperandsWith spellings primary) Term.WellFormed := by
  intro tokens term derives wellFormed
  induction derives with
  | single only => exact yields only wellFormed
  | operation before listed last inductionHypothesis =>
    obtain ⟨front, behind⟩ := areWellFormed_append.mp wellFormed
    exact .operation (inductionHypothesis front) (yields last (areWellFormed_cons.mp behind).2)

/-- Sums of well-formed primaries are well formed. -/
theorem sum (yields : Yields primary Term.WellFormed) : Yields (IsSum primary) Term.WellFormed :=
  yields.operandsWith.operandsWith

/-- A goal is well formed, be it a sum or a comparison of two. -/
theorem goal (yields : Yields primary Term.WellFormed) :
    Yields (IsGoal primary) Term.WellFormed := by
  intro tokens term derives wellFormed
  cases derives with
  | sum only => exact yields.sum only wellFormed
  | comparison before compares behind =>
    obtain ⟨front, back⟩ := areWellFormed_append.mp wellFormed
    exact .operation (yields.sum before front) (yields.sum behind (areWellFormed_cons.mp back).2)

/-- Goals between commas are well formed, and there is at least one, as functors need. -/
theorem goals (yields : Yields primary Term.WellFormed) :
    Yields (AreGoals primary) fun terms => terms ≠ [] ∧ ∀ term ∈ terms, term.WellFormed :=
  yields.goal.separated

/-- A primary is well formed when the terms inside it and its tokens are. -/
theorem inPrimary (yields : Yields primary Term.WellFormed) :
    Yields (InPrimary primary) Term.WellFormed := by
  intro tokens term derives wellFormed
  cases derives with
  | var => exact .var (areWellFormed_cons.mp wellFormed).1
  | number => exact .number (isPlainNumber_of_isUnsignedNumber (areWellFormed_cons.mp wellFormed).1)
  | @negative text =>
    obtain ⟨-, behind⟩ := areWellFormed_cons.mp wellFormed
    have digits : Examples.isUnsignedNumber text.toList = true := (areWellFormed_cons.mp behind).1
    refine .number ?_
    rw [String.toList_append]
    exact digits
  | string => exact .string (areWellFormed_cons.mp wellFormed).1
  | atom => exact .atom
  | compound names inside =>
    obtain ⟨-, behind⟩ := areWellFormed_cons.mp (areWellFormed_append.mp wellFormed).1
    obtain ⟨nonempty, each⟩ := yields.goals inside (areWellFormed_cons.mp behind).2
    exact .compound nonempty each
  | emptyList => exact .list (List.forall_mem_nil _)
  | list inside =>
    obtain ⟨front, -⟩ := areWellFormed_append.mp wellFormed
    exact .list (yields.goals inside (areWellFormed_cons.mp front).2).2
  | listWithTail inside behind =>
    obtain ⟨bracketed, -⟩ := areWellFormed_append.mp wellFormed
    obtain ⟨front, back⟩ := areWellFormed_append.mp bracketed
    obtain ⟨nonempty, each⟩ := yields.goals inside (areWellFormed_cons.mp front).2
    exact .listWithTail nonempty each (yields.sum behind (areWellFormed_cons.mp back).2)
  | grouped inside =>
    obtain ⟨front, -⟩ := areWellFormed_append.mp wellFormed
    exact yields.sum inside (areWellFormed_cons.mp front).2

/-- Primaries with any number of levels are well formed. -/
theorem isPrimary (levels : Nat) : Yields (IsPrimary levels) Term.WellFormed := by
  induction levels with
  | zero => exact fun _ _ derives => derives.elim
  | succ levels inductionHypothesis => exact inductionHypothesis.inPrimary

/-- Parts that are collapsed are well formed when each of them is. -/
theorem collapse {join : List Body → Body} {parts : List Body} (nonempty : parts ≠ [])
    (each : ∀ part ∈ parts, part.WellFormed)
    (joined : 2 ≤ parts.length → (join parts).WellFormed) :
    (Reader.collapse join parts).WellFormed := by
  match parts with
  | [] => exact absurd rfl nonempty
  | [only] => exact each only (List.mem_singleton_self only)
  | _ :: _ :: _ => exact joined (Nat.le_add_left _ _)

variable {admits : List Token → Prop} {unary body : Phrase Body}

/-- A conjunction is well formed, be it one part or several. -/
theorem isConjunction (yields : Yields unary Body.WellFormed) :
    Yields (IsConjunction unary) Body.WellFormed := by
  rintro tokens _ ⟨parts, inside, rfl⟩ wellFormed
  obtain ⟨nonempty, each⟩ := yields.separated inside wellFormed
  exact collapse nonempty each fun several => .and several each

/-- A body is well formed, be it one conjunction or several. -/
theorem inBody (yields : Yields unary Body.WellFormed) :
    Yields (InBody unary) Body.WellFormed := by
  rintro tokens _ ⟨parts, inside, rfl⟩ wellFormed
  obtain ⟨nonempty, each⟩ := yields.isConjunction.separated inside wellFormed
  exact collapse nonempty each fun several => .or several each

/-- A unary is well formed when the body inside it or its goal is. -/
theorem inUnary (yieldsUnary : Yields unary Body.WellFormed)
    (yieldsBody : Yields body Body.WellFormed) (yields : Yields primary Term.WellFormed) :
    Yields (InUnary admits unary body primary) Body.WellFormed := by
  intro tokens part derives wellFormed
  cases derives with
  | notProvable behind => exact .not (yieldsUnary behind (areWellFormed_cons.mp wellFormed).2)
  | negation inside =>
    obtain ⟨-, behind⟩ := areWellFormed_cons.mp (areWellFormed_append.mp wellFormed).1
    exact .not (yieldsBody inside (areWellFormed_cons.mp behind).2)
  | grouped inside =>
    obtain ⟨front, -⟩ := areWellFormed_append.mp wellFormed
    exact yieldsBody inside (areWellFormed_cons.mp front).2
  | goal admitted only => exact .goal (yields.goal only wellFormed)

/-- Unaries and bodies with any number of levels are well formed. -/
theorem bodies (levels : Nat) :
    Yields (IsUnary admits levels) Body.WellFormed ∧
      Yields (IsBody admits levels) Body.WellFormed := by
  induction levels with
  | zero => exact ⟨fun _ _ derives => derives.elim, fun _ _ derives => derives.elim⟩
  | succ levels inductionHypothesis =>
    obtain ⟨unaries, bodies⟩ := inductionHypothesis
    exact ⟨inUnary unaries bodies (isPrimary levels), unaries.inBody⟩

/-- Clauses that are derived from well-formed tokens are well formed. -/
theorem isClause : Yields (IsClause admits) Clause.WellFormed := by
  intro tokens clause derives wellFormed
  cases derives with
  | fact begins callable =>
    have head := isPrimary maximumDepth begins (areWellFormed_append.mp wellFormed).1
    exact ⟨head, callable, by simp⟩
  | rule begins callable behind =>
    obtain ⟨front, back⟩ := areWellFormed_append.mp (areWellFormed_append.mp wellFormed).1
    have body := (bodies maximumDepth).2 behind (areWellFormed_cons.mp back).2
    refine ⟨isPrimary maximumDepth begins front, callable, ?_⟩
    rintro _ ⟨⟩
    exact body

end Yields

/-- Clauses that are read are well formed. -/
theorem wellFormed_of_parseClause {source : String} {clause : Clause}
    (parses : parseClause source = .ok clause) : clause.WellFormed := by
  obtain ⟨lexemes, scans, -⟩ := bind_eq_ok_iff.mp parses
  refine Yields.isClause (isClause_of_parseClause scans parses) ?_
  intro token member
  obtain ⟨lexeme, ofLexemes, rfl⟩ := List.mem_map.mp member
  obtain ⟨before, after, -, scanned⟩ := exists_scanned_of_mem scans ofLexemes
  exact isWellFormed_of_scanToken? scanned

/-- What is read as a bare clause is read again from the written form of the clause. -/
theorem parseClause_render_of_parseClause {source : String} {clause : Clause}
    (parses : parseClause source = .ok clause) (bare : clause.Bare)
    (shallow : clause.levels ≤ maximumDepth) : parseClause clause.render = .ok clause := by
  obtain ⟨tokens, judged, derives⟩ :=
    bare.exists_written (wellFormed_of_parseClause parses) shallow
  exact parseClause_of_scans judged derives

/-- A fact and a negation that lose quotation marks and parentheses which they do not need. -/
theorem exampleSuperfluous_reprinted :
    parseClause "'p'(X) :- not((q))." =
      .ok ⟨.compound "p" [.var "X"], some (.not (.goal (.atom "q")))⟩ ∧
    parseClause "p(X) :- \\+ q." =
      .ok ⟨.compound "p" [.var "X"], some (.not (.goal (.atom "q")))⟩ := by
  have parses : parseClause "'p'(X) :- not((q))." =
      .ok ⟨.compound "p" [.var "X"], some (.not (.goal (.atom "q")))⟩ :=
    toOption_eq_some_iff.mp (by decide +kernel)
  have head : Term.Bare .primary (.compound "p" [.var "X"]) :=
    .call rfl (by decide) (List.forall_mem_singleton.mpr (.widen .var (by decide)))
  have body : Body.Bare (.not (.goal (.atom "q"))) :=
    .not (.goal (.widen (.atom rfl) (by decide)) (by rintro ⟨⟩)) rfl
  have written : (⟨.compound "p" [.var "X"], some (.not (.goal (.atom "q")))⟩ : Clause).render =
      "p(X) :- \\+ q." := by decide +kernel
  refine ⟨parses, written ▸ parseClause_render_of_parseClause parses ⟨head, ?_⟩ (by decide +kernel)⟩
  rintro _ ⟨⟩
  exact body

/-- A clause need not be read again from its written form: here the quotation marks of a name are
lost, without which it is no name. -/
theorem exampleQuotedName_not_reprinted :
    parseClause "'high risk'(X) :- flagged(X)." =
      .ok ⟨.compound "high risk" [.var "X"], some (.goal (.compound "flagged" [.var "X"]))⟩ ∧
    (⟨.compound "high risk" [.var "X"], some (.goal (.compound "flagged" [.var "X"]))⟩ :
      Clause).render = "high risk(X) :- flagged(X)." ∧
    ∀ clause, parseClause "high risk(X) :- flagged(X)." ≠ .ok clause := by
  refine ⟨toOption_eq_some_iff.mp (by decide +kernel), by decide +kernel, ?_⟩
  intro clause parses
  have refused : (parseClause "high risk(X) :- flagged(X).").toOption = none := by decide +kernel
  rw [parses] at refused
  cases refused

end Statute.Logic
