import Statute.Examples.Program
import Statute.Proofs.Examples.Constants
import Statute.Proofs.Logic.PredicateText
import Statute.Proofs.Logic.ProgramText
import Statute.Proofs.Sequences

/-!
# Programs of facts read back

The program of a fragment's facts is read as one clause for each fact, and the clause says what the
fact says: the atom's name and, for each argument of its predicate, the term of the bound constant.
No constant can add or split clauses, whatever its characters are. The names of the atoms have to be
plain, since they are written as they are.
-/

namespace Statute.ExampleStore

open Statute.Examples Statute.Logic Statute.Text

/-- The atom that a fact is a fact of. -/
def factAtom? (atoms : List Atom) (fact : Fact) : Option Atom :=
  atoms.find? fun atom => atom.id = fact.atomId

/-- The name under which facts of a predicate are written: what stands before the parenthesis. -/
def writtenName (predicate : String) : String :=
  String.ofList (trim (Predicate.nameText predicate.toList))

/-- The value of the constant that a variable of a fact is bound to. -/
def boundValue? (examples : FragmentExamples) (fact : Fact) (variableName : String) :
    Option String :=
  (fact.bindings.lookup variableName >>= examples.constant?).map Constant.value

/-- A call of a predicate: its name alone when it has no arguments. -/
def callTerm (name : String) : List Term → Term
  | [] => .atom name
  | first :: others => .compound name (first :: others)

/-- A call has its name, with arguments or without. -/
@[simp]
theorem name?_callTerm (name : String) (arguments : List Term) :
    (callTerm name arguments).name? = some name := by
  cases arguments <;> rfl

/-- A call has as many arguments as were given. -/
@[simp]
theorem arity_callTerm (name : String) (arguments : List Term) :
    (callTerm name arguments).arity = arguments.length := by
  cases arguments <;> rfl

/-- A clause without body that says of an atom what a fact says of it: it has the atom's name, as
many arguments as the atom's predicate, and each argument is the term of the constant that the
variable in its place is bound to. -/
def Tells (examples : FragmentExamples) (atoms : List Atom) (fact : Fact) (clause : Clause) :
    Prop :=
  ∃ atom variableNames terms,
    factAtom? atoms fact = some atom ∧
    Predicate.arguments atom.predicate = .ok variableNames ∧
    clause = ⟨callTerm (writtenName atom.predicate) terms, none⟩ ∧
    clause.head.name? = some (writtenName atom.predicate) ∧
    clause.head.arity = variableNames.length ∧
    List.Forall₂ (fun variableName term => ∃ value,
      boundValue? examples fact variableName = some value ∧ term = constantTerm value)
      variableNames terms

/-- The text of a fact of a predicate with this name and constants of these values. -/
def factText (name : String) : List String → String
  | [] => name ++ "."
  | first :: others => name ++ "(" ++ joined ", " ((first :: others).map quoteConstant) ++ ")."

/-- The tokens of an argument list, with what reading them returns. -/
def argumentPart (value : String) : List Token × Term :=
  (constantTokens value, constantTerm value)

/-- The tokens of a fact. -/
def factTokens (name : String) : List String → List Token
  | [] => [.atom name] ++ [.stop]
  | first :: others =>
    .atom name :: (.openParen :: (constantTokens first ++
      Reads.behindSeparators .comma (others.map argumentPart)) ++ [.closeParen]) ++ [.stop]

/-- Neither a comma nor a parenthesis extends a name or a number. -/
theorem ends_of_separator {sign : Char} (separates : sign = ',' ∨ sign = ')') (rest : List Char) :
    EndsName (sign :: rest) ∧ EndsNumber (sign :: rest) := by
  refine ⟨?_, ?_, ?_⟩
  · rintro character ⟨⟩
    rcases separates with rfl | rfl <;> decide
  · rintro character ⟨⟩
    rcases separates with rfl | rfl <;> decide
  · intro digit after same
    obtain ⟨rfl, -⟩ := List.cons.inj same
    rcases separates with isComma | isParen <;> contradiction

/-- Constants with commas between them are scanned up to the closing parenthesis. -/
theorem scans_arguments (first : String) (others : List String) (rest : List Char) :
    Scans ((joined ", " ((first :: others).map quoteConstant)).toList ++ ')' :: rest)
      (constantTokens first ++ Reads.behindSeparators .comma (others.map argumentPart))
      (')' :: rest) := by
  induction others generalizing first with
  | nil =>
    obtain ⟨endsName, endsNumber⟩ := ends_of_separator (.inr rfl) rest
    simpa [joined, Reads.behindSeparators] using scans_constant first endsName endsNumber
  | cons second others inductionHypothesis =>
    have text : (joined ", " ((first :: second :: others).map quoteConstant)).toList ++ ')' :: rest =
        (quoteConstant first).toList ++ ',' :: ' ' ::
          ((joined ", " ((second :: others).map quoteConstant)).toList ++ ')' :: rest) := by
      simp [joined]
    obtain ⟨endsName, endsNumber⟩ := ends_of_separator (.inl rfl)
      (' ' :: ((joined ", " ((second :: others).map quoteConstant)).toList ++ ')' :: rest))
    rw [text]
    exact (scans_constant first endsName endsNumber).append
      (.token rfl (.blank rfl (inductionHypothesis second)))

/-- An argument list is read as the terms of its constants. -/
theorem reads_arguments (first : String) (others : List String) (levels : Nat) :
    Reads (Reader.arguments (Reader.primary (levels + 1))) (levels + 1)
      (constantTokens first ++ Reads.behindSeparators .comma (others.map argumentPart))
      ((first :: others).map constantTerm) (· = some .closeParen) := by
  have argument (value : String) : Reads (Reader.goal (Reader.primary (levels + 1))) (levels + 1)
      (constantTokens value) (constantTerm value)
      fun next => next = some .comma ∨ next = some .closeParen := by
    refine Reads.goal ((reads_constant value levels).mono ?_) ?_ ?_
    · rintro next (rfl | rfl) <;> simp
    · rintro spelling (same | same) <;> exact nomatch same
    · rintro (same | same) <;> exact nomatch same
  have items : ∀ part ∈ (first :: others).map argumentPart,
      Reads (Reader.goal (Reader.primary (levels + 1))) (levels + 1) part.1 part.2
        fun next => next = some .comma ∨ next = some .closeParen := by
    intro part member
    obtain ⟨value, -, rfl⟩ := List.mem_map.mp member
    exact argument value
  have terms : ((first :: others).map argumentPart).map Prod.snd =
      (first :: others).map constantTerm := by
    simp [argumentPart, Function.comp_def]
  rw [← terms]
  exact Reads.separated items (by simp)

/-- The text of a fact is scanned as the tokens of the fact, whatever follows it. -/
theorem scans_factText {name : String} (plain : isPlainName name.toList = true)
    (values : List String) (rest : List Char) :
    Scans ((factText name values).toList ++ rest) (factTokens name values) rest := by
  obtain ⟨first, others, shape, lower, named⟩ := exists_of_isPlainName plain
  have scansName (behind : List Char) (ends : EndsName behind) :
      Scans (name.toList ++ behind) [.atom name] behind := by
    have scanned := scanToken?_atom lower named ends
    rw [← shape, String.ofList_toList] at scanned
    exact .single scanned
  cases values with
  | nil =>
    have text : (factText name []).toList ++ rest = name.toList ++ '.' :: rest := by
      simp [factText]
    rw [text]
    refine (scansName _ ?_).append (.single rfl)
    rintro character ⟨⟩
    decide
  | cons value values =>
    have text : (factText name (value :: values)).toList ++ rest =
        name.toList ++ '(' ::
          ((joined ", " ((value :: values).map quoteConstant)).toList ++ ')' :: '.' :: rest) := by
      simp [factText]
    have endsName : EndsName ('(' :: ((joined ", " ((value :: values).map quoteConstant)).toList ++
        ')' :: '.' :: rest)) := by
      rintro character ⟨⟩
      decide
    rw [text]
    have scansCall := (scansName _ endsName).append
      (.token rfl ((scans_arguments value values ('.' :: rest)).append (.token rfl (.single rfl))))
    simpa [factTokens] using scansCall

/-- The tokens of a fact are read as the call of its predicate. -/
theorem reads_fact (name : String) (values : List String) :
    Reads Reader.clause maximumDepth (factTokens name values)
      ⟨callTerm name (values.map constantTerm), none⟩ fun _ => True := by
  cases values with
  | nil =>
    have head : Reads (Reader.primary (63 + 1)) (63 + 1) [.atom name] (.atom name)
        (· ≠ some .openParen) :=
      .primary (.primaryInside_name rfl (.callable_atom name))
    exact .clause_fact (head.mono (by simp)) rfl
  | cons value values =>
    have head : Reads (Reader.primary (62 + 1 + 1)) (62 + 1 + 1) (.atom name :: _)
        (.compound name ((value :: values).map constantTerm)) fun _ => True :=
      .primary (.primaryInside_name rfl (.callable_compound (reads_arguments value values 62) name))
    exact .clause_fact (head.mono fun _ _ => trivial) rfl

/-- A fact with a plain name as a clause of a program. -/
def writtenFact (name : String) (plain : isPlainName name.toList = true) (values : List String) :
    WrittenClause where
  text := factText name values
  tokens := factTokens name values
  clause := ⟨callTerm name (values.map constantTerm), none⟩
  nonempty := by cases values <;> simp [factTokens]
  scans := scans_factText plain values
  reads := reads_fact name values

/-- An argument is written when its variable is bound to a constant of the fragment. -/
theorem argumentText_eq_ok_iff {examples : FragmentExamples} {fact : Fact}
    {predicate variableName text : String} :
    argumentText examples fact predicate variableName = .ok text ↔
      ∃ value, boundValue? examples fact variableName = some value ∧ text = quoteConstant value := by
  rw [argumentText, boundValue?]
  cases fact.bindings.lookup variableName >>= examples.constant? with
  | none => simp
  | some constant => simp [eq_comm]

/-- The texts of arguments are those of the values that the variables are bound to. -/
theorem argumentTexts_iff {examples : FragmentExamples} {fact : Fact} (predicate : String)
    {variableNames texts : List String} :
    List.Forall₂
        (fun variableName text => argumentText examples fact predicate variableName = .ok text)
        variableNames texts ↔
      ∃ values, texts = values.map quoteConstant ∧
        List.Forall₂ (fun variableName value => boundValue? examples fact variableName = some value)
          variableNames values := by
  simp only [argumentText_eq_ok_iff]
  constructor
  · intro written
    induction written with
    | nil => exact ⟨[], rfl, .nil⟩
    | cons first _ inductionHypothesis =>
      obtain ⟨value, bound, rfl⟩ := first
      obtain ⟨values, rfl, others⟩ := inductionHypothesis
      exact ⟨value :: values, rfl, .cons bound others⟩
  · rintro ⟨values, rfl, bound⟩
    rw [List.forall₂_map_right_iff]
    exact bound.imp fun variableName value isBound => ⟨value, isBound, rfl⟩

/-- The arguments of a predicate with blanks around it are read off the predicate as it is. -/
theorem arguments_trimmed_eq_ok_iff {predicate : String} {variableNames : List String} :
    (Predicate.arguments (trimmed predicate)).mapError ExampleError.malformedPredicate =
        .ok variableNames ↔ Predicate.arguments predicate = .ok variableNames := by
  rw [← toOption_eq_some_iff, ← toOption_eq_some_iff, ← Predicate.arguments_trimmed]
  cases Predicate.arguments (trimmed predicate) <;> simp [Except.mapError, Except.toOption]

/-- What is written for a fact is the text of its name and of the values bound in it, when its atom is
known and all variables of the atom are bound. -/
theorem renderFact_eq_ok_iff {examples : FragmentExamples} {atoms : List Atom} {fact : Fact}
    {line : String} :
    renderFact examples atoms fact = .ok line ↔
      ∃ atom variableNames values, factAtom? atoms fact = some atom ∧
        Predicate.arguments atom.predicate = .ok variableNames ∧
        List.Forall₂ (fun variableName value => boundValue? examples fact variableName = some value)
          variableNames values ∧
        line = factText (writtenName atom.predicate) values := by
  have name (atom : Atom) : String.ofList (trim (Predicate.nameText (trimmed atom.predicate).toList)) =
      writtenName atom.predicate := by
    rw [trimmed, String.toList_ofList, Predicate.trim_nameText_trim, writtenName]
  rw [renderFact, ← factAtom?]
  cases factAtom? atoms fact with
  | none => simp
  | some atom =>
    dsimp only
    rw [name, bind_eq_ok_iff]
    simp only [arguments_trimmed_eq_ok_iff]
    constructor
    · rintro ⟨variableNames, arguments, rendered⟩
      refine ⟨atom, variableNames, ?_⟩
      -- A fact without arguments is written without parentheses, in a case of its own.
      cases variableNames with
      | nil => exact ⟨[], rfl, arguments, .nil, (Except.ok.inj rendered).symm⟩
      | cons firstName otherNames =>
        obtain ⟨texts, written, rendered⟩ := bind_eq_ok_iff.mp rendered
        obtain ⟨values, rfl, bound⟩ := (argumentTexts_iff _).mp (mapM_eq_ok_iff.mp written)
        refine ⟨values, rfl, arguments, bound, ?_⟩
        cases bound with
        | cons => exact (Except.ok.inj rendered).symm
    · rintro ⟨_, variableNames, values, ⟨⟩, arguments, bound, rfl⟩
      refine ⟨variableNames, arguments, ?_⟩
      have written := mapM_eq_ok_iff.mpr
        ((argumentTexts_iff (trimmed atom.predicate)).mpr ⟨values, rfl, bound⟩)
      cases bound with
      | nil => rfl
      | cons => exact bind_eq_ok_iff.mpr ⟨_, written, rfl⟩

/-- A rendered fact is a clause that says what the fact says. -/
theorem exists_written_of_renderFact {examples : FragmentExamples} {atoms : List Atom} {fact : Fact}
    {line : String} (rendered : renderFact examples atoms fact = .ok line)
    (plain : ∀ atom, factAtom? atoms fact = some atom →
      isPlainName (writtenName atom.predicate).toList = true) :
    ∃ part : WrittenClause, part.text = line ∧ Tells examples atoms fact part.clause := by
  obtain ⟨atom, variableNames, values, found, arguments, bound, rfl⟩ :=
    renderFact_eq_ok_iff.mp rendered
  refine ⟨writtenFact _ (plain atom found) values, rfl, atom, variableNames,
    values.map constantTerm, found, arguments, rfl, name?_callTerm _ _, ?_, ?_⟩
  · simp [writtenFact, bound.length_eq]
  rw [List.forall₂_map_right_iff]
  exact bound.imp fun variableName value isBound => ⟨value, isBound, rfl⟩

/-- Rendered facts are lines of clauses that say what the facts say. -/
theorem exists_parts_of_renderFacts {examples : FragmentExamples} {atoms : List Atom}
    {facts : List Fact} {lines : List String}
    (rendered : List.Forall₂ (fun fact line => renderFact examples atoms fact = .ok line)
      facts lines)
    (plain : ∀ fact ∈ facts, ∀ atom, factAtom? atoms fact = some atom →
      isPlainName (writtenName atom.predicate).toList = true) :
    ∃ parts : List WrittenClause, parts.map WrittenClause.text = lines ∧
      List.Forall₂ (Tells examples atoms) facts (parts.map WrittenClause.clause) := by
  induction rendered with
  | nil => exact ⟨[], rfl, .nil⟩
  | cons first _ inductionHypothesis =>
    obtain ⟨part, text, told⟩ :=
      exists_written_of_renderFact first (plain _ List.mem_cons_self)
    obtain ⟨parts, texts, others⟩ :=
      inductionHypothesis fun fact member => plain fact (List.mem_cons_of_mem _ member)
    exact ⟨part :: parts, by rw [List.map_cons, text, texts], .cons told others⟩

/-- Sorted lines ascend. -/
theorem pairwise_sortedLines (lines : List String) :
    (lines.mergeSort fun left right => left ≤ right).Pairwise (· ≤ ·) := by
  have sorted : (lines.mergeSort fun left right => left ≤ right).Pairwise
      fun left right => decide (left ≤ right) = true := by
    apply List.pairwise_mergeSort
    · intro first second third
      simpa using String.le_trans
    · intro first second
      simpa using String.le_total first second
  exact sorted.imp of_decide_eq_true

/-- Fact programs are well formed, and no constant injects anything into them: when a program can be
made, it is read as one clause for each fact, in the order of the sorted lines, and each clause says
what its fact says. Different constants are moreover written differently. -/
theorem factsProgram_reads_back :
    Function.Injective quoteConstant ∧
      ∀ (store : ExampleStore) (fragment : FragmentId) (atoms : List Atom) (text : String),
        (∀ fact ∈ (store.entry fragment).facts, ∀ atom, factAtom? atoms fact = some atom →
          isPlainName (writtenName atom.predicate).toList = true) →
        store.factsProgram fragment atoms = .ok text →
        ∃ facts lines clauses,
          List.Perm facts (store.entry fragment).facts ∧
          List.Forall₂ (fun fact line => renderFact (store.entry fragment) atoms fact = .ok line)
            facts lines ∧
          lines.Pairwise (· ≤ ·) ∧ text = joined "\n" lines ∧
          parseProgram text = .ok clauses ∧
          List.Forall₂ (Tells (store.entry fragment) atoms) facts clauses := by
  refine ⟨quoteConstant_injective, ?_⟩
  intro store fragment atoms text plain rendered
  unfold factsProgram at rendered
  split at rendered
  next absent =>
    obtain rfl := Except.ok.inj rendered
    have entry : store.entry fragment = .empty := by simp [ExampleStore.entry, absent]
    refine ⟨[], [], [], ?_, .nil, .nil, rfl, parseProgram_joined [], .nil⟩
    rw [entry]
    exact .refl _
  next examples present =>
    have entry : store.entry fragment = examples := by simp [ExampleStore.entry, present]
    rw [entry] at plain ⊢
    obtain ⟨lines, linesWritten, rendered⟩ := bind_eq_ok_iff.mp rendered
    obtain rfl := Except.ok.inj rendered
    obtain ⟨facts, perm, each⟩ :=
      exists_perm_of_forall₂ (mapM_eq_ok_iff.mp linesWritten) (List.mergeSort_perm lines _)
    obtain ⟨parts, texts, told⟩ := exists_parts_of_renderFacts each
      fun fact member => plain fact (perm.mem_iff.mp member)
    refine ⟨facts, _, _, perm, each, pairwise_sortedLines lines, rfl, ?_, told⟩
    rw [← texts]
    exact parseProgram_joined parts

/-- A store of one fragment with two facts. Their constants are a number with a sign, a plain name,
and a text that would close its quotes and begin clauses of its own. -/
def exampleOfFacts : ExampleStore where
  nextConstant := 4
  nextFact := 3
  entries := [(1, {
    constants := [⟨⟨1⟩, "-1.5"⟩, ⟨⟨2⟩, "not"⟩, ⟨⟨3⟩, "o'n\\').\n:- % "⟩]
    facts := [⟨⟨1⟩, 7, [("X", ⟨3⟩), ("Y", ⟨1⟩)]⟩, ⟨⟨2⟩, 7, [("X", ⟨2⟩), ("Y", ⟨3⟩)]⟩] })]

/-- The atom of the facts in the example. -/
def exampleAtom : Atom := ⟨7, 1, " owns (X, Y)", "", false, true, []⟩

/-- The program of the example is read as two clauses that say what the two facts say. -/
theorem exampleOfFacts_reads_back :
    (∀ fact ∈ (exampleOfFacts.entry 1).facts, ∀ atom,
      factAtom? [exampleAtom] fact = some atom →
        isPlainName (writtenName atom.predicate).toList = true) ∧
      ∃ text facts clauses, exampleOfFacts.factsProgram 1 [exampleAtom] = .ok text ∧
        facts.Perm (exampleOfFacts.entry 1).facts ∧ parseProgram text = .ok clauses ∧
        List.Forall₂ (Tells (exampleOfFacts.entry 1) [exampleAtom]) facts clauses := by
  have plain : ∀ fact ∈ (exampleOfFacts.entry 1).facts, ∀ atom,
      factAtom? [exampleAtom] fact = some atom →
        isPlainName (writtenName atom.predicate).toList = true := by
    have name : isPlainName (writtenName exampleAtom.predicate).toList = true := by decide
    intro fact _ atom found
    obtain rfl := List.mem_singleton.mp (List.mem_of_find?_eq_some found)
    exact name
  refine ⟨plain, ?_⟩
  obtain ⟨facts, _, clauses, perm, _, _, _, read, told⟩ :=
    factsProgram_reads_back.2 exampleOfFacts 1 [exampleAtom] _ plain rfl
  exact ⟨_, facts, clauses, rfl, perm, read, told⟩

end Statute.ExampleStore
