import Mathlib.Data.Set.Function
import Statute.Proofs.Examples.Additions

/-!
# Names and order of facts

The program of a fragment is the same for a store that has the constants and facts of the fragment
under other numbers and in another order. So it does not matter in which order facts were put
together or imported, although numbers are given out in this order and imports share the constants
that are there.
-/

namespace Statute

/-! ## Renaming -/

namespace FragmentExamples

/-- With other numbers for the constants and facts. -/
def rename (constantName : ConstantId → ConstantId) (factName : FactId → FactId)
    (examples : FragmentExamples) : FragmentExamples where
  constants := examples.constants.map fun constant =>
    { constant with id := constantName constant.id }
  facts := examples.facts.map fun fact =>
    { fact with
      id := factName fact.id
      bindings := fact.bindings.map fun (variableName, id) => (variableName, constantName id) }

/-- A fragment has the constants and facts of another one in some order, under numbers of which no
two are the same for different constants or different facts. -/
structure RenamesTo (examples other : FragmentExamples)
    (constantName : ConstantId → ConstantId) (factName : FactId → FactId) : Prop where
  constants_injOn : Set.InjOn constantName {id | id ∈ examples.constantIds}
  facts_injOn : Set.InjOn factName {id | id ∈ examples.factIds}
  constants : other.constants.Perm (examples.rename constantName factName).constants
  facts : other.facts.Perm (examples.rename constantName factName).facts

/-- The same constants and facts, up to their numbers and their order. -/
def SameUpToNames (examples other : FragmentExamples) : Prop :=
  ∃ constantName factName, examples.RenamesTo other constantName factName

variable {examples other : FragmentExamples} {constantName : ConstantId → ConstantId}
  {factName : FactId → FactId}

/-- Constants have different numbers after a renaming when they had before. -/
theorem RenamesTo.nodup (renames : examples.RenamesTo other constantName factName)
    (nodup : examples.constantIds.Nodup) : other.constantIds.Nodup := by
  have ids : other.constantIds.Perm (examples.constantIds.map constantName) := by
    have renamed := renames.constants.map Constant.id
    simpa [constantIds, rename, Function.comp_def] using renamed
  exact ids.nodup_iff.mpr (nodup.map_on renames.constants_injOn)

/-- A constant has its value under its new number. -/
theorem RenamesTo.valueOf?_eq (renames : examples.RenamesTo other constantName factName)
    (nodup : examples.constantIds.Nodup) {id : ConstantId} (known : id ∈ examples.constantIds) :
    other.valueOf? (constantName id) = examples.valueOf? id := by
  obtain ⟨constant, member, rfl⟩ := List.mem_map.mp known
  have there : ⟨constantName constant.id, constant.value⟩ ∈ other.constants :=
    renames.constants.mem_iff.mpr (List.mem_map_of_mem member)
  rw [valueOf?_of_mem nodup member]
  exact valueOf?_of_mem (renames.nodup nodup) there

/-- Fragments that are the same up to numbers and order say the same up to order. -/
theorem RenamesTo.statements_perm (renames : examples.RenamesTo other constantName factName)
    (nodup : examples.constantIds.Nodup) (bindsOwn : examples.BindsOwn) :
    examples.statements.Perm other.statements := by
  have perm := (renames.facts.map other.statementOf).symm
  rw [rename, List.map_map] at perm
  refine .trans (.of_eq (List.map_congr_left fun fact member => ?_)) perm
  apply congrArg (Statement.mk fact.atomId)
  funext variableName
  rw [lookup_map]
  cases found : fact.bindings.lookup variableName with
  | none => rfl
  | some id =>
    obtain ⟨before, behind, bindings, -⟩ := List.lookup_eq_some_iff.mp found
    have known := bindsOwn fact member (variableName, id) (by simp [bindings])
    exact (renames.valueOf?_eq nodup known).symm

end FragmentExamples

/-! ## Order -/

namespace ExampleStore

/-- Whatever was done to an empty store: a store that has the same constants and facts of a
fragment, up to their numbers and their order, has the same program, or no program for the same
atoms. When facts are put together of the constants of the fragment, and others are imported, the
query is the same in whichever order this happens, and it can be made in every order or in none. -/
theorem programs_ignore_names_and_order (operations : List (FragmentId × ExampleOperation))
    (fragment : FragmentId) :
    let store := ExampleStore.empty.afterAll operations
    (∀ other : ExampleStore, (store.entry fragment).SameUpToNames (other.entry fragment) →
      ∀ atoms text, store.factsProgram fragment atoms = .ok text ↔
        other.factsProgram fragment atoms = .ok text) ∧
    ∀ additions others : List FactAddition,
      (∀ addition ∈ additions, addition.BindsKnown (store.entry fragment)) →
      (additions.flatMap FactAddition.singles).Perm (others.flatMap FactAddition.singles) →
      ∀ atoms query, (store.addAll fragment additions).query fragment atoms = .ok query ↔
        (store.addAll fragment others).query fragment atoms = .ok query := by
  intro store
  have consistent : store.IsConsistent := IsConsistent.empty.afterAll operations
  constructor
  · rintro other ⟨constantName, factName, renames⟩ atoms text
    have perm := renames.statements_perm (consistent.constants.nodup fragment)
      (consistent.bindsOwn fragment)
    exact ⟨factsProgram_of_perm perm, factsProgram_of_perm perm.symm⟩
  · intro additions others known perm atoms query
    have said : ((store.addAll fragment additions).entry fragment).statements.Perm
        ((store.addAll fragment others).entry fragment).statements := by
      rw [statements_addAll consistent known,
        statements_addAll consistent (FactAddition.bindsKnown_of_perm perm known)]
      exact (FactAddition.statements_perm perm).append_left _
    exact ⟨query_of_perm said, query_of_perm said.symm⟩

/-- Two birds of one fragment. -/
def exampleBirds : List (FragmentId × ExampleOperation) :=
  [(7, .addConstant "alice"), (7, .addConstant "bob"), (7, .addFact 3),
    (7, .bind ⟨1⟩ "X" (some ⟨1⟩)), (7, .addFact 3), (7, .bind ⟨2⟩ "X" (some ⟨2⟩))]

/-- The two birds in a store in which they were added the other way around, among others that were
removed. -/
def exampleBirdsOtherwise : ExampleStore :=
  ⟨6, 5, [(7, ⟨[⟨⟨1⟩, "bob"⟩, ⟨⟨5⟩, "alice"⟩],
    [⟨⟨2⟩, 3, [("X", ⟨1⟩)]⟩, ⟨⟨4⟩, 3, [("X", ⟨5⟩)]⟩]⟩)]⟩

/-- A bird that is put together after or before others are imported. -/
def exampleAdditions : List FactAddition :=
  [.built 3 [("X", ⟨1⟩), ("X", ⟨2⟩)], .imported exampleBirdSet exampleBirdAtoms]

/-- The two stores have one program, and so have the stores after the additions in one order and in
the reverse order, where the import is reversed too. -/
theorem exampleBirds_order :
    let store := ExampleStore.empty.afterAll exampleBirds
    let reversed := (exampleAdditions.flatMap FactAddition.singles).reverse
    (store.entry 7).SameUpToNames (exampleBirdsOtherwise.entry 7) ∧
    (∀ addition ∈ exampleAdditions, addition.BindsKnown (store.entry 7)) ∧
    (∃ text, store.factsProgram 7 exampleBirdAtoms = .ok text ∧
      exampleBirdsOtherwise.factsProgram 7 exampleBirdAtoms = .ok text) ∧
    ∃ query, (store.addAll 7 exampleAdditions).query 7 exampleBirdAtoms = .ok query ∧
      (store.addAll 7 reversed).query 7 exampleBirdAtoms = .ok query := by
  intro store reversed
  have entry : store.entry 7 = ⟨[⟨⟨1⟩, "alice"⟩, ⟨⟨2⟩, "bob"⟩],
      [⟨⟨1⟩, 3, [("X", ⟨1⟩)]⟩, ⟨⟨2⟩, 3, [("X", ⟨2⟩)]⟩]⟩ := by decide +kernel
  have same : (store.entry 7).SameUpToNames (exampleBirdsOtherwise.entry 7) := by
    rw [entry]
    refine ⟨fun id => if id = ⟨1⟩ then ⟨5⟩ else ⟨1⟩, fun id => if id = ⟨1⟩ then ⟨4⟩ else ⟨2⟩, ?_⟩
    constructor
    · simp [Set.InjOn, FragmentExamples.constantIds]
    · simp [Set.InjOn, FragmentExamples.factIds]
    · decide
    · decide
  have known : ∀ addition ∈ exampleAdditions, addition.BindsKnown (store.entry 7) := by
    rw [entry]
    refine List.forall_mem_cons.mpr ⟨?_, List.forall_mem_singleton.mpr trivial⟩
    simp [FactAddition.BindsKnown, FragmentExamples.constantIds]
  have perm : (exampleAdditions.flatMap FactAddition.singles).Perm
      (reversed.flatMap FactAddition.singles) :=
    (List.reverse_perm _).symm
  obtain ⟨programs, queries⟩ := programs_ignore_names_and_order exampleBirds 7
  have program : (store.factsProgram 7 exampleBirdAtoms).toOption.isSome = true := by
    decide +kernel
  have query :
      ((store.addAll 7 exampleAdditions).query 7 exampleBirdAtoms).toOption.isSome = true := by
    decide +kernel
  obtain ⟨text, written⟩ := Option.isSome_iff_exists.mp program
  obtain ⟨made, makes⟩ := Option.isSome_iff_exists.mp query
  rw [toOption_eq_some_iff] at written makes
  exact ⟨same, known, ⟨text, written, (programs _ same _ _).mp written⟩,
    ⟨made, makes, (queries _ _ known perm _ _).mp makes⟩⟩

end ExampleStore

end Statute
