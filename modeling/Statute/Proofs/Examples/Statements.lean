import Statute.Proofs.Examples.FactPrograms
import Statute.Proofs.Examples.References

/-!
# What facts say

A fact says of an atom which values its variables have. It is written from that alone, so a program
depends on what the facts of its fragment say and on nothing else: neither on the numbers of
constants and facts nor on their order. What facts say stays the same when constants are added
behind those that are there.
-/

namespace Statute

open Examples Logic Text

/-- What a fact says: of which atom it is, and the values that variables have in it. -/
structure Statement where
  atomId : AtomId
  value? : String → Option String

/-- The atom of a statement is known, all variables of its predicate have values in it, and the line
is the predicate with these values. -/
def Statement.IsWritten (atoms : List Atom) (statement : Statement) (line : String) : Prop :=
  ∃ atom variableNames values,
    atoms.find? (fun atom => atom.id = statement.atomId) = some atom ∧
    Predicate.arguments atom.predicate = .ok variableNames ∧
    List.Forall₂ (fun variableName value => statement.value? variableName = some value)
      variableNames values ∧
    line = ExampleStore.factText (ExampleStore.writtenName atom.predicate) values

namespace FragmentExamples

/-- The value of the constant with a number. -/
def valueOf? (examples : FragmentExamples) (id : ConstantId) : Option String :=
  (examples.constant? id).map Constant.value

/-- What a fact says in a fragment. -/
def statementOf (examples : FragmentExamples) (fact : Fact) : Statement :=
  ⟨fact.atomId, fun variableName => fact.bindings.lookup variableName >>= examples.valueOf?⟩

/-- What the facts of a fragment say. -/
def statements (examples : FragmentExamples) : List Statement :=
  examples.facts.map examples.statementOf

variable {examples later : FragmentExamples}

/-! ## Values of constants -/

/-- Where numbers are given once, a constant is looked up to its own value. -/
theorem valueOf?_of_mem (nodup : examples.constantIds.Nodup) {constant : Constant}
    (member : constant ∈ examples.constants) :
    examples.valueOf? constant.id = some constant.value := by
  rw [valueOf?, constant?, find?_eq_some_of_nodup nodup member]
  rfl

/-- Constants keep their values when others are added behind them. -/
theorem valueOf?_of_isPrefix (grows : examples.constants <+: later.constants) {id : ConstantId}
    (known : id ∈ examples.constantIds) : later.valueOf? id = examples.valueOf? id := by
  obtain ⟨added, whole⟩ := grows
  obtain ⟨constant, found⟩ := Option.isSome_iff_exists.mp (isSome_constant?_iff.mpr known)
  have foundLater : later.constant? id = some constant := by
    rw [constant?, ← whole, List.find?_append]
    exact Option.or_eq_some_iff.mpr (.inl found)
  rw [valueOf?, valueOf?, found, foundLater]

/-- Variables keep their values when constants are added behind those of the fragment. -/
theorem lookup_bind_valueOf? (grows : examples.constants <+: later.constants)
    {bindings : List (String × ConstantId)}
    (known : ∀ binding ∈ bindings, binding.2 ∈ examples.constantIds) (variableName : String) :
    (bindings.lookup variableName >>= later.valueOf?) =
      (bindings.lookup variableName >>= examples.valueOf?) := by
  cases found : bindings.lookup variableName with
  | none => rfl
  | some id =>
    obtain ⟨before, behind, rfl, -⟩ := List.lookup_eq_some_iff.mp found
    exact valueOf?_of_isPrefix grows (known (variableName, id) (by simp))

/-! ## Statements -/

/-- Facts say the same when constants are added behind those of the fragment. -/
theorem statements_of_isPrefix (bindsOwn : examples.BindsOwn)
    (grows : examples.constants <+: later.constants) (sameFacts : later.facts = examples.facts) :
    later.statements = examples.statements := by
  rw [statements, statements, sameFacts]
  refine List.map_congr_left fun fact member => ?_
  rw [statementOf, statementOf]
  exact congrArg _ (funext (lookup_bind_valueOf? grows (bindsOwn fact member)))

/-- Another fact says one statement more. -/
@[simp] theorem statements_withFact (examples : FragmentExamples) (fact : Fact) :
    (examples.withFact fact).statements = examples.statements ++ [examples.statementOf fact] := by
  rw [statements, withFact, List.map_append]
  rfl

end FragmentExamples

namespace ExampleStore

/-- A line is written for a fact exactly when it is written from what the fact says. -/
theorem renderFact_iff_isWritten {examples : FragmentExamples} {atoms : List Atom} {fact : Fact}
    {line : String} :
    renderFact examples atoms fact = .ok line ↔
      (examples.statementOf fact).IsWritten atoms line := by
  have value (variableName : String) : boundValue? examples fact variableName =
      (examples.statementOf fact).value? variableName := by
    rw [boundValue?]
    change _ = fact.bindings.lookup variableName >>= examples.valueOf?
    cases fact.bindings.lookup variableName <;> rfl
  rw [renderFact_eq_ok_iff]
  simp only [value]
  rfl

/-- Lines have one order in which they ascend. -/
theorem sortedLines_eq {lines sorted : List String} (perm : sorted.Perm lines)
    (ascends : sorted.Pairwise (· ≤ ·)) :
    lines.mergeSort (fun left right => left ≤ right) = sorted := by
  apply List.Perm.eq_of_pairwise _ (pairwise_sortedLines lines) ascends
  · exact (List.mergeSort_perm lines _).trans perm.symm
  · intro left right _ _ forward backward
    exact String.le_antisymm forward backward

/-- A program can be made when a line can be written for each statement, and it consists of these
lines in ascending order. -/
theorem factsProgram_eq_ok_iff {store : ExampleStore} {fragment : FragmentId} {atoms : List Atom}
    {text : String} :
    store.factsProgram fragment atoms = .ok text ↔
      ∃ lines sorted,
        List.Forall₂ (Statement.IsWritten atoms) (store.entry fragment).statements lines ∧
        sorted.Perm lines ∧ sorted.Pairwise (· ≤ ·) ∧ text = joined "\n" sorted := by
  rw [factsProgram]
  split
  next absent =>
    have entry : store.entry fragment = .empty := by simp [ExampleStore.entry, absent]
    rw [entry]
    constructor
    · intro written
      exact ⟨[], [], .nil, .refl _, .nil, (Except.ok.inj written).symm⟩
    · rintro ⟨lines, sorted, written, perm, -, rfl⟩
      cases written
      rw [perm.eq_nil]
      rfl
  next examples present =>
    rw [entry_of_get? present, bind_eq_ok_iff, FragmentExamples.statements]
    simp only [mapM_eq_ok_iff, renderFact_iff_isWritten, List.forall₂_map_left_iff]
    constructor
    · rintro ⟨lines, written, whole⟩
      exact ⟨lines, _, written, List.mergeSort_perm lines _, pairwise_sortedLines lines,
        (Except.ok.inj whole).symm⟩
    · rintro ⟨lines, sorted, written, perm, ascends, rfl⟩
      refine ⟨lines, written, ?_⟩
      rw [sortedLines_eq perm ascends]
      rfl

/-- A program depends on what the facts say only, and not on their order. -/
theorem factsProgram_of_perm {store other : ExampleStore} {fragment : FragmentId}
    (perm : (store.entry fragment).statements.Perm (other.entry fragment).statements)
    {atoms : List Atom} {text : String} (written : store.factsProgram fragment atoms = .ok text) :
    other.factsProgram fragment atoms = .ok text := by
  obtain ⟨lines, sorted, each, sortedPerm, ascends, rfl⟩ := factsProgram_eq_ok_iff.mp written
  obtain ⟨others, flipped, othersPerm⟩ := List.perm_comp_forall₂ perm.symm each
  exact factsProgram_eq_ok_iff.mpr
    ⟨others, sorted, flipped, sortedPerm.trans othersPerm.symm, ascends, rfl⟩

/-- So does the query that is made of the program. -/
theorem query_of_perm {store other : ExampleStore} {fragment : FragmentId}
    (perm : (store.entry fragment).statements.Perm (other.entry fragment).statements)
    {atoms : List Atom} {query : Query} (made : store.query fragment atoms = .ok query) :
    other.query fragment atoms = .ok query := by
  obtain ⟨text, written, rfl⟩ := map_eq_ok_iff.mp made
  exact map_eq_ok_iff.mpr ⟨text, factsProgram_of_perm perm written, rfl⟩

end ExampleStore

end Statute
