import Statute.Proofs.Examples.Operations
import Statute.Proofs.Text.Trimming

/-!
# Blank constants

Constants are trimmed, whichever way they come into a store. A blank value is refused when it is
added by itself. An import does not look whether a value is blank: a matched fact that gives a blank
value to a variable leaves an empty constant in the fragment, and empty constants come from nowhere
else.
-/

namespace Statute

/-! ## Where constants come from -/

namespace ExampleStore

open Relation

variable {store later : ExampleStore} {fragment other : FragmentId} {admitted : String → Prop}
  {constant : Constant}

/-- What one addition makes a constant of is an admitted value, and it is one of the changed
fragment. -/
theorem Adds.mem_constants_cases (adds : Adds fragment admitted store later)
    (member : constant ∈ (later.entry other).constants) :
    constant ∈ (store.entry other).constants ∨ other = fragment ∧ admitted constant.value := by
  cases adds with
  | constant admits =>
    rw [entry_pushConstant] at member
    rcases mem_update_cases fragment FragmentExamples.constants member with before | ⟨rfl, now⟩
    · exact .inl before
    · rcases List.mem_append.mp now with before | new
      · exact .inl before
      · exact .inr ⟨rfl, List.mem_singleton.mp new ▸ admits⟩
  | fact atomId known =>
    rw [entry_pushFact] at member
    rcases mem_update_cases fragment FragmentExamples.constants member with before | ⟨rfl, same⟩
    · exact .inl before
    · exact .inl same

/-- What one change makes a constant of is an admitted value. Edits and resets make no constants. -/
theorem Changes.mem_constants_cases (changes : Changes fragment admitted store later)
    (member : constant ∈ (later.entry other).constants) :
    constant ∈ (store.entry other).constants ∨ other = fragment ∧ admitted constant.value := by
  cases changes with
  | adds adds => exact adds.mem_constants_cases member
  | edits edits =>
    rw [entry_put] at member
    rcases mem_update_cases fragment FragmentExamples.constants member with before | ⟨rfl, kept⟩
    · exact .inl before
    · exact .inl (edits.constants_sublist.subset kept)
  | resets =>
    rw [entry_reset] at member
    rcases mem_update_cases fragment FragmentExamples.constants member with before | ⟨-, none⟩
    · exact .inl before
    · exact nomatch none

/-- A constant that is there after changes was there before or has an admitted value. -/
theorem mem_constants_cases (changes : ReflTransGen (Changes fragment admitted) store later)
    (member : constant ∈ (later.entry other).constants) :
    constant ∈ (store.entry other).constants ∨ other = fragment ∧ admitted constant.value := by
  induction changes with
  | refl => exact .inl member
  | tail _ last inductionHypothesis =>
    rcases last.mem_constants_cases member with before | new
    · exact inductionHypothesis before
    · exact .inr new

/-- A constant that is there after operations was there before, or one of the operations on its
fragment offered its value. -/
theorem mem_constants_afterAll_cases {operations : List (FragmentId × ExampleOperation)}
    (member : constant ∈ ((store.afterAll operations).entry fragment).constants) :
    constant ∈ (store.entry fragment).constants ∨
      ∃ operation, (fragment, operation) ∈ operations ∧ operation.Offers constant.value := by
  induction operations generalizing store with
  | nil => exact .inl member
  | cons first operations inductionHypothesis =>
    rcases inductionHypothesis member with now | ⟨operation, performed, offers⟩
    · rcases mem_constants_cases (after_changes store first.1 first.2) now with before | new
      · exact .inl before
      · obtain ⟨rfl, offers⟩ := new
        exact .inr ⟨first.2, List.mem_cons_self, offers⟩
    · exact .inr ⟨operation, List.mem_cons_of_mem _ performed, offers⟩

end ExampleStore

/-! ## Trimmed and blank values -/

/-- A generated fact that matches an atom gives a blank value to a variable. -/
def ExampleStore.ImportsBlank (set : ExampleSet) (atoms : List Atom) : Prop :=
  ∃ generated ∈ set.examples.flatMap (·.facts), (matchingAtom? atoms generated).isSome ∧
    ∃ argument ∈ generated.arguments, Text.trimmed argument.value = ""

namespace ExampleOperation

/-- The values that become constants are trimmed ones. -/
theorem Offers.trimmed {operation : ExampleOperation} {value : String}
    (offers : operation.Offers value) : Text.trimmed value = value := by
  cases operation with
  | addConstant given =>
    obtain ⟨rfl, -⟩ := offers
    exact Text.trimmed_trimmed given
  | load set atoms =>
    obtain ⟨pair, -, argument, -, rfl⟩ := offers
    exact Text.trimmed_trimmed argument.value
  | removeConstant | addFact | removeFact | bind | reset => exact nomatch offers

/-- An import makes an empty constant exactly when a variable of a matched fact has a blank value.
-/
theorem load_offers_empty_iff {set : ExampleSet} {atoms : List Atom} :
    (load set atoms).Offers "" ↔ ExampleStore.ImportsBlank set atoms := by
  constructor
  · rintro ⟨pair, matched, argument, member, blank⟩
    obtain ⟨generated, listed, found⟩ := List.mem_filterMap.mp matched
    obtain ⟨atom, finds, rfl⟩ := Option.map_eq_some_iff.mp found
    exact ⟨generated, listed, Option.isSome_of_eq_some finds, argument, member, blank.symm⟩
  · rintro ⟨generated, listed, found, argument, member, blank⟩
    obtain ⟨atom, finds⟩ := Option.isSome_iff_exists.mp found
    have matched : (atom, generated) ∈ ExampleStore.matchedFacts set atoms :=
      List.mem_filterMap.mpr ⟨generated, listed, Option.map_eq_some_iff.mpr ⟨atom, finds, rfl⟩⟩
    exact ⟨(atom, generated), matched, argument, member, blank.symm⟩

/-- Only an import makes an empty constant. -/
theorem Offers.exists_load {operation : ExampleOperation} (offers : operation.Offers "") :
    ∃ set atoms, operation = load set atoms ∧ ExampleStore.ImportsBlank set atoms := by
  cases operation with
  | addConstant given => exact absurd rfl offers.2
  | load set atoms => exact ⟨set, atoms, rfl, load_offers_empty_iff.mp offers⟩
  | removeConstant | addFact | removeFact | bind | reset => exact nomatch offers

end ExampleOperation

namespace ExampleStore

/-- Whatever is done to fragments of an empty store: all constants are trimmed, and one is empty only
if an import into its fragment had a blank value for a variable of a matched fact. Every such import
leaves an empty constant, although a blank value is refused when it is added by itself. -/
theorem empty_constants_are_imported (operations : List (FragmentId × ExampleOperation))
    (fragment : FragmentId) :
    let store := ExampleStore.empty.afterAll operations
    (∀ constant ∈ (store.entry fragment).constants,
      Text.trimmed constant.value = constant.value ∧
      (constant.value = "" → ∃ set atoms,
        (fragment, .load set atoms) ∈ operations ∧ ImportsBlank set atoms)) ∧
    (∀ set atoms, ImportsBlank set atoms →
      ∃ constant ∈ ((store.after fragment (.load set atoms)).entry fragment).constants,
        constant.value = "") ∧
    ∀ value, Text.trimmed value = "" →
      store.addConstant fragment value = .error .emptyConstant := by
  intro store
  refine ⟨fun constant member => ?_, fun set atoms blank => ?_, fun value blank => ?_⟩
  · rcases mem_constants_afterAll_cases member with before | ⟨operation, performed, offers⟩
    · exact nomatch before
    · refine ⟨offers.trimmed, fun isEmpty => ?_⟩
      rw [isEmpty] at offers
      obtain ⟨set, atoms, rfl, blank⟩ := offers.exists_load
      exact ⟨set, atoms, performed, blank⟩
  · exact (after_load_spec store fragment set atoms).2 ""
      (ExampleOperation.load_offers_empty_iff.mpr blank)
  · rw [addConstant, blank]
    rfl

/-- A generated fact that gives a blank value to its variable. -/
def exampleBlank : ExampleSet :=
  ⟨[⟨"A bird without a name", [⟨"bird(X)", [⟨"X", " "⟩]⟩]⟩]⟩

/-- The atom that the fact matches. -/
def exampleBird : Atom := ⟨1, 7, "bird(X)", "", false, true, []⟩

/-- The example fact matches the example atom and has a blank value. -/
theorem exampleBlank_importsBlank : ImportsBlank exampleBlank [exampleBird] := by
  refine ⟨⟨"bird(X)", [⟨"X", " "⟩]⟩, List.mem_cons_self, by decide +kernel, ⟨"X", " "⟩,
    List.mem_cons_self, by decide +kernel⟩

/-- One constant was trimmed when it was added, the empty one was imported, and a blank one is
refused. -/
theorem exampleBlank_constants :
    let operations : List (FragmentId × ExampleOperation) :=
      [(7, .addConstant " alice "), (7, .load exampleBlank [exampleBird])]
    let examples := (empty.afterAll operations).entry 7
    (⟨⟨1⟩, "alice"⟩ ∈ examples.constants ∧ Text.trimmed "alice" = "alice") ∧
    (⟨⟨2⟩, ""⟩ ∈ examples.constants ∧
      ∃ set atoms, (7, .load set atoms) ∈ operations ∧ ImportsBlank set atoms) ∧
    (∃ constant ∈ (((empty.afterAll operations).after 7 (.load exampleBlank [exampleBird])).entry
      7).constants, constant.value = "") ∧
    (empty.afterAll operations).addConstant 7 " " = .error .emptyConstant := by
  intro operations examples
  have alice : ⟨⟨1⟩, "alice"⟩ ∈ examples.constants := by decide +kernel
  have blank : ⟨⟨2⟩, ""⟩ ∈ examples.constants := by decide +kernel
  obtain ⟨constants, imports, refuses⟩ := empty_constants_are_imported operations 7
  exact ⟨⟨alice, (constants _ alice).1⟩, ⟨blank, (constants _ blank).2 rfl⟩,
    imports exampleBlank [exampleBird] exampleBlank_importsBlank, refuses " " (by decide +kernel)⟩

/-- An import into an empty store leaves an empty constant, and a variable that is bound to it. -/
theorem exampleBlank_leaves_empty_constant :
    (empty.afterAll [(7, .load exampleBlank [exampleBird])]).entry 7 =
      ⟨[⟨⟨1⟩, ""⟩], [⟨⟨1⟩, 1, [("X", ⟨1⟩)]⟩]⟩ := by
  decide +kernel

end ExampleStore

end Statute
