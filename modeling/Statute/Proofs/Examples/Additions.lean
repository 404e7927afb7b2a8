import Statute.Proofs.Examples.Imports

/-!
# Additions to a fragment

Facts come into a fragment in two ways: one is put together of an atom and constants of the
fragment, and others are imported. Either way, what the new facts say does not depend on what was
added before, since constants that are there keep their numbers and values. So additions in another
order leave the same statements in another order.
-/

namespace Statute

/-- Bindings after variables were bound to given constants, one after another. -/
def bindVariables (given bound : List (String × ConstantId)) : List (String × ConstantId) :=
  given.foldl (fun bound (variableName, id) => bindVariable variableName id bound) bound

/-- What adds facts to a fragment: a fact that is put together from an atom and bindings of its
variables to constants, or an import. -/
inductive FactAddition where
  | built (atomId : AtomId) (bindings : List (String × ConstantId))
  | imported (set : ExampleSet) (atoms : List Atom)

namespace FactAddition

/-- The additions of one fact each that an addition consists of. -/
def singles : FactAddition → List FactAddition
  | built atomId bindings => [built atomId bindings]
  | imported set atoms =>
    (set.examples.flatMap (·.facts)).map fun generated => imported ⟨[⟨"", [generated]⟩]⟩ atoms

/-- Variables are bound to constants that a fragment has. -/
def BindsKnown (examples : FragmentExamples) : FactAddition → Prop
  | built _ bindings => ∀ binding ∈ bindings, binding.2 ∈ examples.constantIds
  | imported _ _ => True

/-- What the facts of an addition say in a fragment. -/
def statements (examples : FragmentExamples) : FactAddition → List Statement
  | built atomId bindings =>
    [⟨atomId, fun variableName =>
      (bindVariables bindings []).lookup variableName >>= examples.valueOf?⟩]
  | imported set atoms => (ExampleStore.matchedFacts set atoms).map fun (atom, generated) =>
      ExampleStore.importedStatement atom generated

end FactAddition

namespace ExampleStore

/-- Adds a fact of an atom and binds its variables one after another. -/
def build (store : ExampleStore) (fragment : FragmentId) (atomId : AtomId)
    (bindings : List (String × ConstantId)) : ExampleStore :=
  bindings.foldl
    (fun later (variableName, id) =>
      later.after fragment (.bind (store.addFact fragment atomId).1 variableName (some id)))
    (store.addFact fragment atomId).2

/-- Carries an addition out. -/
def add (store : ExampleStore) (fragment : FragmentId) : FactAddition → ExampleStore
  | .built atomId bindings => store.build fragment atomId bindings
  | .imported set atoms => store.after fragment (.load set atoms)

/-- Carries additions out, the first one first. -/
def addAll (store : ExampleStore) (fragment : FragmentId) (additions : List FactAddition) :
    ExampleStore :=
  additions.foldl (fun store addition => store.add fragment addition) store

end ExampleStore

/-! ## Facts that are put together -/

/-- Only the fact behind the others is rebound when it has its number for itself. -/
theorem FragmentExamples.rebind_withFact {examples : FragmentExamples} {fact : Fact}
    (fresh : fact.id ∉ examples.factIds) (variableName : String) (id : ConstantId) :
    (examples.withFact fact).rebind fact.id variableName (some id) =
      examples.withFact { fact with bindings := bindVariable variableName id fact.bindings } := by
  have others := id_ne_of_notMem_factIds fresh
  rw [rebind, withFact, withFact, List.map_append]
  have kept : (examples.facts.map fun other => if other.id = fact.id then
      { other with bindings := bindVariable variableName id other.bindings } else other) =
      examples.facts :=
    (List.map_congr_left fun other member => if_neg (others other member)).trans (List.map_id' _)
  simp [kept]

/-- Variables that are bound one after another are bound to the constants that are given. -/
theorem known_bindVariables {ids : List ConstantId} {given bound : List (String × ConstantId)}
    (known : ∀ binding ∈ given, binding.2 ∈ ids) (before : ∀ binding ∈ bound, binding.2 ∈ ids) :
    ∀ binding ∈ bindVariables given bound, binding.2 ∈ ids := by
  induction given generalizing bound with
  | nil => exact before
  | cons first given inductionHypothesis =>
    obtain ⟨knownFirst, knownRest⟩ := List.forall_mem_cons.mp known
    apply inductionHypothesis knownRest
    intro binding member
    rcases mem_bindVariable member with same | member
    · exact same ▸ knownFirst
    · exact before binding member

namespace ExampleStore

variable {store : ExampleStore} {fragment : FragmentId}

/-- A variable of a fact is bound when the fragment has the fact and the constant. -/
theorem bind_eq_ok {examples : FragmentExamples} (found : store.get? fragment = some examples)
    {fact : FactId} (hasFact : fact ∈ examples.factIds) {id : ConstantId}
    (hasConstant : id ∈ examples.constantIds) (variableName : String) :
    store.bind fragment fact variableName (some id) =
      .ok (store.put fragment (examples.rebind fact variableName (some id))) := by
  have constant := Option.isNone_eq_false_iff.mpr
    (FragmentExamples.isSome_constant?_iff.mpr hasConstant)
  have present := Option.isNone_eq_false_iff.mpr (FragmentExamples.isSome_fact?_iff.mpr hasFact)
  rw [bind, found]
  simp [Option.filter_some, constant, present]

/-- Binding a variable of the fact that was added last changes the bindings that it was added with.
-/
theorem after_bind_pushFact (consistent : store.IsConsistent) (atomId : AtomId)
    (bindings : List (String × ConstantId)) {id : ConstantId}
    (known : id ∈ (store.entry fragment).constantIds) (variableName : String) :
    (store.pushFact fragment atomId bindings).after fragment
        (.bind ⟨store.nextFact⟩ variableName (some id)) =
      store.pushFact fragment atomId (bindVariable variableName id bindings) := by
  have fresh : ⟨store.nextFact⟩ ∉ (store.entry fragment).factIds :=
    consistent.facts.fresh rfl fragment
  have found : (store.pushFact fragment atomId bindings).get? fragment =
      some ((store.entry fragment).withFact ⟨⟨store.nextFact⟩, atomId, bindings⟩) := by
    change (store.put fragment _).get? fragment = _
    rw [get?_put, Function.update_self]
  have hasFact : ⟨store.nextFact⟩ ∈
      ((store.entry fragment).withFact ⟨⟨store.nextFact⟩, atomId, bindings⟩).factIds := by simp
  rw [after, bind_eq_ok found hasFact known]
  dsimp only
  rw [FragmentExamples.rebind_withFact fresh]
  change { (store.put fragment _).put fragment _ with nextFact := store.nextFact + 1 } = _
  rw [put_put]
  rfl

/-- Binding variables of the fact that was added last, one after another. -/
theorem foldl_bind_pushFact (consistent : store.IsConsistent) (atomId : AtomId)
    {given : List (String × ConstantId)}
    (known : ∀ binding ∈ given, binding.2 ∈ (store.entry fragment).constantIds)
    (bound : List (String × ConstantId)) :
    given.foldl (fun later (variableName, id) =>
        later.after fragment (.bind ⟨store.nextFact⟩ variableName (some id)))
        (store.pushFact fragment atomId bound) =
      store.pushFact fragment atomId (bindVariables given bound) := by
  induction given generalizing bound with
  | nil => rfl
  | cons first given inductionHypothesis =>
    obtain ⟨knownFirst, knownRest⟩ := List.forall_mem_cons.mp known
    obtain ⟨variableName, id⟩ := first
    rw [List.foldl_cons]
    dsimp only
    rw [after_bind_pushFact consistent atomId bound knownFirst, inductionHypothesis knownRest]
    rfl

/-- A fact that is put together is one fact that has its bindings from the beginning. -/
theorem build_eq_pushFact (consistent : store.IsConsistent) (atomId : AtomId)
    {bindings : List (String × ConstantId)}
    (known : ∀ binding ∈ bindings, binding.2 ∈ (store.entry fragment).constantIds) :
    store.build fragment atomId bindings =
      store.pushFact fragment atomId (bindVariables bindings []) :=
  foldl_bind_pushFact consistent atomId known []

end ExampleStore

/-! ## What additions say -/

namespace FactAddition

variable {examples later : FragmentExamples}

/-- Additions say the same when constants are added to the fragment before. -/
theorem BindsKnown.statements_of_isPrefix {addition : FactAddition}
    (known : addition.BindsKnown examples) (grows : examples.constants <+: later.constants) :
    addition.statements later = addition.statements examples := by
  cases addition with
  | imported set atoms => rfl
  | built atomId bindings =>
    have bound : ∀ binding ∈ bindVariables bindings [], binding.2 ∈ examples.constantIds :=
      known_bindVariables known (List.forall_mem_nil _)
    have values := funext (FragmentExamples.lookup_bind_valueOf? grows bound)
    rw [statements, statements, values]

/-- The constants that an addition binds are also there when others were added behind them. -/
theorem BindsKnown.of_isPrefix {addition : FactAddition} (known : addition.BindsKnown examples)
    (grows : examples.constants <+: later.constants) : addition.BindsKnown later := by
  cases addition with
  | imported => trivial
  | built atomId bindings =>
    exact fun binding member => List.map_subset _ grows.subset (known binding member)

/-- Additions of one fact each say together what the addition that they make up says. -/
theorem flatMap_statements_singles (examples : FragmentExamples) (addition : FactAddition) :
    addition.singles.flatMap (·.statements examples) = addition.statements examples := by
  cases addition with
  | built atomId bindings => exact List.flatMap_singleton _ _
  | imported set atoms =>
    rw [singles, List.flatMap_map, statements, ExampleStore.matchedFacts,
      List.filterMap_eq_flatMap_toList, List.map_flatMap]
    apply List.flatMap_congr
    intro generated _
    cases found : ExampleStore.matchingAtom? atoms generated with
    | none => simp [statements, ExampleStore.matchedFacts, found]
    | some atom => simp [statements, ExampleStore.matchedFacts, found]

/-- Additions that come to the same single ones in another order say the same in another order. -/
theorem statements_perm {additions others : List FactAddition}
    (perm : (additions.flatMap singles).Perm (others.flatMap singles)) :
    (additions.flatMap (·.statements examples)).Perm (others.flatMap (·.statements examples)) := by
  have split : ∀ additions : List FactAddition, additions.flatMap (·.statements examples) =
      (additions.flatMap singles).flatMap (·.statements examples) := by
    intro additions
    simp only [List.flatMap_assoc, flatMap_statements_singles]
  rw [split additions, split others]
  exact perm.flatMap_right _

/-- A fact that is put together is the same single addition wherever it stands. -/
theorem built_mem_flatMap_singles {additions : List FactAddition} {atomId : AtomId}
    {bindings : List (String × ConstantId)} :
    built atomId bindings ∈ additions.flatMap singles ↔ built atomId bindings ∈ additions := by
  rw [List.mem_flatMap]
  constructor
  · rintro ⟨addition, member, single⟩
    cases addition with
    | built => exact List.mem_singleton.mp single ▸ member
    | imported => simp [singles] at single
  · exact fun member => ⟨_, member, List.mem_singleton_self _⟩

/-- Additions that come to the same single ones bind the same constants, so that all of them are
there when all of the others' are. -/
theorem bindsKnown_of_perm {additions others : List FactAddition}
    (perm : (additions.flatMap singles).Perm (others.flatMap singles))
    (known : ∀ addition ∈ additions, addition.BindsKnown examples) :
    ∀ addition ∈ others, addition.BindsKnown examples := by
  intro addition member
  cases addition with
  | imported => trivial
  | built atomId bindings =>
    have single := perm.mem_iff.mpr (built_mem_flatMap_singles.mpr member)
    exact known _ (built_mem_flatMap_singles.mp single)

end FactAddition

namespace ExampleStore

open Relation

variable {store : ExampleStore} {fragment : FragmentId}

/-- A fact that is put together is one change that adds it with all its bindings. -/
theorem adds_build (consistent : store.IsConsistent) (admitted : String → Prop) (atomId : AtomId)
    {bindings : List (String × ConstantId)}
    (known : ∀ binding ∈ bindings, binding.2 ∈ (store.entry fragment).constantIds) :
    Adds fragment admitted store (store.build fragment atomId bindings) := by
  rw [build_eq_pushFact consistent atomId known]
  exact .fact atomId (known_bindVariables known (List.forall_mem_nil _))

/-- An addition keeps a store consistent. -/
theorem IsConsistent.add (consistent : store.IsConsistent) {addition : FactAddition}
    (known : addition.BindsKnown (store.entry fragment)) :
    (store.add fragment addition).IsConsistent := by
  cases addition with
  | built atomId bindings =>
    exact consistent.adds (adds_build consistent (fun _ => True) atomId known)
  | imported set atoms =>
    exact consistent.allChanges (after_changes store fragment (.load set atoms))

/-- The constants that a fragment has stay in front of those that an addition adds. -/
theorem constants_prefix_add (consistent : store.IsConsistent) {addition : FactAddition}
    (known : addition.BindsKnown (store.entry fragment)) :
    (store.entry fragment).constants <+:
      ((store.add fragment addition).entry fragment).constants := by
  cases addition with
  | built atomId bindings =>
    exact Adds.constants_prefix (adds_build consistent (fun _ => True) atomId known)
  | imported set atoms =>
    have grows := constants_prefix_of_adds (after_load_spec store fragment set atoms).1
    rwa [entry_put, Function.update_eq_self] at grows

/-- After an addition, a fragment says what it said and what the addition says. -/
theorem statements_add (consistent : store.IsConsistent) {addition : FactAddition}
    (known : addition.BindsKnown (store.entry fragment)) :
    ((store.add fragment addition).entry fragment).statements =
      (store.entry fragment).statements ++ addition.statements (store.entry fragment) := by
  cases addition with
  | built atomId bindings =>
    rw [add, build_eq_pushFact consistent atomId known, entry_pushFact, Function.update_self,
      FragmentExamples.statements_withFact]
    rfl
  | imported set atoms => exact statements_loadGenerated consistent fragment set atoms

/-- After several additions a fragment says what it said and then what each of them says, none being
changed by the ones before it. -/
theorem statements_addAll (consistent : store.IsConsistent) {additions : List FactAddition}
    (known : ∀ addition ∈ additions, addition.BindsKnown (store.entry fragment)) :
    ((store.addAll fragment additions).entry fragment).statements =
      (store.entry fragment).statements ++
        additions.flatMap (·.statements (store.entry fragment)) := by
  induction additions generalizing store with
  | nil => exact (List.append_nil _).symm
  | cons addition additions inductionHypothesis =>
    obtain ⟨knownFirst, knownRest⟩ := List.forall_mem_cons.mp known
    have grows := constants_prefix_add consistent knownFirst
    have knownLater : ∀ other ∈ additions,
        other.BindsKnown ((store.add fragment addition).entry fragment) :=
      fun other member => (knownRest other member).of_isPrefix grows
    have same : additions.flatMap (·.statements ((store.add fragment addition).entry fragment)) =
        additions.flatMap (·.statements (store.entry fragment)) :=
      List.flatMap_congr fun other member => (knownRest other member).statements_of_isPrefix grows
    have said := inductionHypothesis (consistent.add knownFirst) knownLater
    rw [same, statements_add consistent knownFirst, List.append_assoc] at said
    exact said

end ExampleStore

end Statute
