import Mathlib.Data.List.Basic
import Mathlib.Logic.Function.Basic
import Mathlib.Logic.Relation
import Statute.Examples.Generated
import Statute.Proofs.Entries

/-!
# What operations change

An operation on a store works on one fragment. It edits what the fragment has, adds constants and
facts one after another, or removes its entry; every operation is a sequence of such changes. What
holds of stores is shown for a change and follows for operations. A store is looked at through
`ExampleStore.entry`, which takes a fragment that has no entry for one with an empty entry.
-/

namespace Statute

/-- What can be done to the constants and facts of one fragment. -/
inductive ExampleOperation where
  | addConstant (value : String)
  | removeConstant (id : ConstantId)
  | addFact (atomId : AtomId)
  | removeFact (id : FactId)
  | bind (fact : FactId) (variableName : String) (constant : Option ConstantId)
  | reset
  | load (set : ExampleSet) (atoms : List Atom)

namespace ExampleStore

/-- The store after an operation on a fragment: the store itself when the operation is refused. -/
def after (store : ExampleStore) (fragment : FragmentId) : ExampleOperation → ExampleStore
  | .addConstant value =>
    match store.addConstant fragment value with
    | .ok (_, later) => later
    | .error _ => store
  | .removeConstant id => (store.removeConstant fragment id).2
  | .addFact atomId => (store.addFact fragment atomId).2
  | .removeFact id => (store.removeFact fragment id).2
  | .bind fact variableName constant =>
    match store.bind fragment fact variableName constant with
    | .ok later => later
    | .error _ => store
  | .reset => store.reset fragment
  | .load set atoms => (store.loadGenerated fragment set atoms).2

/-- The store after operations on fragments, the first one first. -/
def afterAll (store : ExampleStore) (operations : List (FragmentId × ExampleOperation)) :
    ExampleStore :=
  operations.foldl (fun store (fragment, operation) => store.after fragment operation) store

/-! ## Entries -/

section Entries

variable (store : ExampleStore) (fragment : FragmentId) (examples : FragmentExamples)

/-- A new entry takes the place of the old one and leaves all others alone. -/
theorem get?_put :
    (store.put fragment examples).get? = Function.update store.get? fragment (some examples) := by
  funext other
  rw [get?, put, lookup_write, Function.update_apply]
  rfl

/-- A reset leaves nothing of a fragment and all of the others. -/
theorem get?_reset : (store.reset fragment).get? = Function.update store.get? fragment none := by
  funext other
  rw [get?, reset, lookup_filter_ne, Function.update_apply]
  rfl

/-- Where an entry is put, the fragment has it, and all others have what they had. -/
@[simp] theorem entry_put :
    (store.put fragment examples).entry = Function.update store.entry fragment examples := by
  funext other
  rw [entry, get?_put, Function.update_apply, Function.update_apply, apply_ite (Option.getD · _)]
  rfl

/-- A reset leaves a fragment with an empty entry, and all others with what they had. -/
@[simp] theorem entry_reset :
    (store.reset fragment).entry = Function.update store.entry fragment .empty := by
  funext other
  rw [entry, get?_reset, Function.update_apply, Function.update_apply, apply_ite (Option.getD · _)]
  rfl

/-- A fragment that has an entry is looked at through it. -/
theorem entry_of_get? {store : ExampleStore} {fragment : FragmentId} {examples : FragmentExamples}
    (found : store.get? fragment = some examples) : store.entry fragment = examples := by
  rw [entry, found, Option.getD_some]

/-- What a fragment has after another entry was written was there before or is of that entry. -/
theorem mem_update_cases {α β : Type} (things : β → List α) {held : FragmentId → β} {new : β}
    {other : FragmentId} {thing : α}
    (member : thing ∈ things (Function.update held fragment new other)) :
    thing ∈ things (held other) ∨ other = fragment ∧ thing ∈ things new := by
  rw [Function.update_apply] at member
  split at member
  next same => exact .inr ⟨same, member⟩
  next => exact .inl member

end Entries

end ExampleStore

/-! ## Changes -/

/-- A binding after a variable was bound is the new one or was there before. -/
theorem mem_bindVariable {variableName : String} {constant : ConstantId}
    {bindings : List (String × ConstantId)} {binding : String × ConstantId}
    (member : binding ∈ bindVariable variableName constant bindings) :
    binding.2 = constant ∨ binding ∈ bindings := by
  fun_induction bindVariable variableName constant bindings with
  | case1 => exact .inl (congrArg Prod.snd (List.mem_singleton.mp member))
  | case2 | case3 | case4 => grind

namespace FragmentExamples

/-- The numbers of the constants of a fragment. -/
def constantIds (examples : FragmentExamples) : List ConstantId :=
  examples.constants.map (·.id)

/-- The numbers of the facts of a fragment. -/
def factIds (examples : FragmentExamples) : List FactId :=
  examples.facts.map (·.id)

/-- A number that no fact of the fragment has is not that of one of them. -/
theorem id_ne_of_notMem_factIds {examples : FragmentExamples} {id : FactId}
    (absent : id ∉ examples.factIds) : ∀ fact ∈ examples.facts, fact.id ≠ id :=
  fun _ member same => absent (same ▸ List.mem_map_of_mem member)

/-- With another constant behind those that are there. -/
def withConstant (examples : FragmentExamples) (constant : Constant) : FragmentExamples :=
  { examples with constants := examples.constants ++ [constant] }

/-- With another fact behind those that are there. -/
def withFact (examples : FragmentExamples) (fact : Fact) : FragmentExamples :=
  { examples with facts := examples.facts ++ [fact] }

/-- Another constant has its number behind the others. -/
@[simp] theorem constantIds_withConstant (examples : FragmentExamples) (constant : Constant) :
    (examples.withConstant constant).constantIds = examples.constantIds ++ [constant.id] := by
  simp [constantIds, withConstant]

/-- Another fact has its number behind the others. -/
@[simp] theorem factIds_withFact (examples : FragmentExamples) (fact : Fact) :
    (examples.withFact fact).factIds = examples.factIds ++ [fact.id] := by
  simp [factIds, withFact]

/-- What can become of a fragment to which neither constants nor facts are added. A variable is only
bound to a constant that is there. -/
inductive Edits (examples : FragmentExamples) : FragmentExamples → Prop where
  | same : Edits examples examples
  | withoutConstant (id : ConstantId) : Edits examples (examples.eraseConstant id)
  | withoutFact (id : FactId) : Edits examples (examples.eraseFact id)
  | rebound (fact : FactId) (variableName : String) {constant : Option ConstantId}
      (known : ∀ id ∈ constant, id ∈ examples.constantIds) :
      Edits examples (examples.rebind fact variableName constant)

/-- An edit keeps the order of the constants that stay. -/
theorem Edits.constants_sublist {examples later : FragmentExamples}
    (edits : examples.Edits later) : later.constants.Sublist examples.constants := by
  cases edits with
  | same | withoutFact | rebound => exact .refl _
  | withoutConstant id => exact List.filter_sublist

/-- A constant is found by its number exactly when the fragment has one of this number. -/
theorem isSome_constant?_iff {examples : FragmentExamples} {id : ConstantId} :
    (examples.constant? id).isSome ↔ id ∈ examples.constantIds := by
  rw [constant?, List.find?_isSome, constantIds, List.mem_map]
  simp only [decide_eq_true_eq]

/-- A fact is found by its number exactly when the fragment has one of this number. -/
theorem isSome_fact?_iff {examples : FragmentExamples} {id : FactId} :
    (examples.fact? id).isSome ↔ id ∈ examples.factIds := by
  rw [fact?, List.find?_isSome, factIds, List.mem_map]
  simp only [decide_eq_true_eq]

end FragmentExamples

namespace ExampleStore

/-- With another constant of a fragment, under the number that comes next. -/
def pushConstant (store : ExampleStore) (fragment : FragmentId) (value : String) : ExampleStore :=
  { store.put fragment ((store.entry fragment).withConstant ⟨⟨store.nextConstant⟩, value⟩) with
    nextConstant := store.nextConstant + 1 }

/-- With another fact of a fragment, under the number that comes next. -/
def pushFact (store : ExampleStore) (fragment : FragmentId) (atomId : AtomId)
    (bindings : List (String × ConstantId)) : ExampleStore :=
  { store.put fragment ((store.entry fragment).withFact ⟨⟨store.nextFact⟩, atomId, bindings⟩) with
    nextFact := store.nextFact + 1 }

/-- Another constant shows in its own fragment, behind those that were there. -/
@[simp] theorem entry_pushConstant (store : ExampleStore) (fragment : FragmentId) (value : String) :
    (store.pushConstant fragment value).entry = Function.update store.entry fragment
      ((store.entry fragment).withConstant ⟨⟨store.nextConstant⟩, value⟩) :=
  entry_put store fragment _

/-- Another fact shows in its own fragment, behind those that were there. -/
@[simp] theorem entry_pushFact (store : ExampleStore) (fragment : FragmentId) (atomId : AtomId)
    (bindings : List (String × ConstantId)) :
    (store.pushFact fragment atomId bindings).entry = Function.update store.entry fragment
      ((store.entry fragment).withFact ⟨⟨store.nextFact⟩, atomId, bindings⟩) :=
  entry_put store fragment _

/-- Adds something to a fragment. The values of constants are admitted ones, and facts are about
constants of the fragment. -/
inductive Adds (fragment : FragmentId) (admitted : String → Prop) (store : ExampleStore) :
    ExampleStore → Prop where
  | constant {value : String} (admits : admitted value) :
      Adds fragment admitted store (store.pushConstant fragment value)
  | fact (atomId : AtomId) {bindings : List (String × ConstantId)}
      (known : ∀ binding ∈ bindings, binding.2 ∈ (store.entry fragment).constantIds) :
      Adds fragment admitted store (store.pushFact fragment atomId bindings)

/-- Changes one fragment: something is added, what it has is edited, or its entry is removed. -/
inductive Changes (fragment : FragmentId) (admitted : String → Prop) (store : ExampleStore) :
    ExampleStore → Prop where
  | adds {later : ExampleStore} (adds : Adds fragment admitted store later) :
      Changes fragment admitted store later
  | edits {examples : FragmentExamples} (edits : (store.entry fragment).Edits examples) :
      Changes fragment admitted store (store.put fragment examples)
  | resets : Changes fragment admitted store (store.reset fragment)

open Relation

variable {fragment : FragmentId} {admitted : String → Prop} {store later : ExampleStore}

/-- The constants that a fragment has stay in front of those that are added. -/
theorem Adds.constants_prefix (adds : Adds fragment admitted store later) :
    (store.entry fragment).constants <+: (later.entry fragment).constants := by
  cases adds with
  | constant admits => simp [FragmentExamples.withConstant]
  | fact atomId known => simp [FragmentExamples.withFact]

/-- However much is added, the constants that were there stay in front. -/
theorem constants_prefix_of_adds (adds : ReflTransGen (Adds fragment admitted) store later) :
    (store.entry fragment).constants <+: (later.entry fragment).constants := by
  induction adds with
  | refl => exact List.prefix_rfl
  | tail _ last inductionHypothesis => exact inductionHypothesis.trans last.constants_prefix

/-- However much is added, the numbers of constants that were there stay known. -/
theorem mem_constantIds_of_adds (adds : ReflTransGen (Adds fragment admitted) store later)
    {id : ConstantId} (member : id ∈ (store.entry fragment).constantIds) :
    id ∈ (later.entry fragment).constantIds :=
  List.map_subset _ (constants_prefix_of_adds adds).subset member

/-! ## Imports -/

/-- A fragment has a constant of a value. -/
def Names (store : ExampleStore) (fragment : FragmentId) (value : String) : Prop :=
  ∃ constant ∈ (store.entry fragment).constants, constant.value = value

/-- A value that has a constant keeps it, however much is added. -/
theorem Names.of_adds {value : String} (names : store.Names fragment value)
    (adds : ReflTransGen (Adds fragment admitted) store later) : later.Names fragment value := by
  obtain ⟨constant, member, same⟩ := names
  exact ⟨constant, (constants_prefix_of_adds adds).subset member, same⟩

/-- A constant of the value is there afterwards, and nothing else was added. -/
theorem intern_spec {value : String} (admits : admitted value) {id : ConstantId}
    (interns : store.intern fragment value = (id, later)) :
    ReflTransGen (Adds fragment admitted) store later ∧
      ⟨id, value⟩ ∈ (later.entry fragment).constants := by
  rw [intern] at interns
  split at interns
  next constant found =>
    obtain ⟨rfl, rfl⟩ := Prod.mk.inj interns
    obtain rfl : constant.value = value := by simpa using List.find?_some found
    exact ⟨.refl, List.mem_of_find?_eq_some found⟩
  next =>
    obtain ⟨rfl, rfl⟩ := Prod.mk.inj interns
    have member : ⟨⟨store.nextConstant⟩, value⟩ ∈
        ((store.pushConstant fragment value).entry fragment).constants := by
      simp [FragmentExamples.withConstant]
    exact ⟨.single (.constant admits), member⟩

/-- Interning removes nothing, so bindings are still to constants of the fragment when one for the
value is added to them. -/
theorem known_bindVariable_of_intern {value : String} {id : ConstantId}
    (interns : store.intern fragment value = (id, later))
    {bindings : List (String × ConstantId)}
    (known : ∀ binding ∈ bindings, binding.2 ∈ (store.entry fragment).constantIds)
    (variableName : String) :
    ∀ binding ∈ bindVariable variableName id bindings,
      binding.2 ∈ (later.entry fragment).constantIds := by
  have interned : ReflTransGen (Adds fragment fun _ => True) store later ∧ _ :=
    intern_spec trivial interns
  obtain ⟨added, member⟩ := interned
  intro binding bound
  rcases mem_bindVariable bound with rfl | before
  · exact List.mem_map_of_mem member
  · exact mem_constantIds_of_adds added (known binding before)

/-- The bindings of a generated fact are bindings to constants of the fragment, among which are
constants of all its values. -/
theorem internBindings_spec {arguments : List Binding}
    (admits : ∀ argument ∈ arguments, admitted (Text.trimmed argument.value))
    {bindings bound : List (String × ConstantId)}
    (known : ∀ binding ∈ bindings, binding.2 ∈ (store.entry fragment).constantIds)
    (binds : store.internBindings fragment bindings arguments = (bound, later)) :
    ReflTransGen (Adds fragment admitted) store later ∧
      (∀ binding ∈ bound, binding.2 ∈ (later.entry fragment).constantIds) ∧
      ∀ argument ∈ arguments, later.Names fragment (Text.trimmed argument.value) := by
  induction arguments generalizing store bindings with
  | nil =>
    obtain ⟨rfl, rfl⟩ := Prod.mk.inj binds
    exact ⟨.refl, known, nofun⟩
  | cons argument arguments inductionHypothesis =>
    obtain ⟨admitsFirst, admitsRest⟩ := List.forall_mem_cons.mp admits
    rcases interns : store.intern fragment (Text.trimmed argument.value) with ⟨id, next⟩
    rw [internBindings, interns] at binds
    obtain ⟨added, member⟩ := intern_spec admitsFirst interns
    have names : next.Names fragment (Text.trimmed argument.value) := ⟨_, member, rfl⟩
    have nowKnown := known_bindVariable_of_intern interns known argument.variableName
    obtain ⟨addedRest, knownRest, namesRest⟩ := inductionHypothesis admitsRest nowKnown binds
    exact ⟨added.trans addedRest, knownRest,
      List.forall_mem_cons.mpr ⟨names.of_adds addedRest, namesRest⟩⟩

/-- A generated fact is added when its values have become constants. -/
theorem addGenerated_eq_pushFact {next : ExampleStore} {bound : List (String × ConstantId)}
    (atom : Atom) {generated : ExampleFact}
    (binds : store.internBindings fragment [] generated.arguments = (bound, next)) :
    store.addGenerated fragment atom generated = next.pushFact fragment atom.id bound := by
  rw [addGenerated, binds]
  rfl

/-- A generated fact is added behind constants of its values. -/
theorem addGenerated_spec (store : ExampleStore) (fragment : FragmentId) (atom : Atom)
    {generated : ExampleFact}
    (admits : ∀ argument ∈ generated.arguments, admitted (Text.trimmed argument.value)) :
    let later := store.addGenerated fragment atom generated
    ReflTransGen (Adds fragment admitted) store later ∧
      ∀ argument ∈ generated.arguments, later.Names fragment (Text.trimmed argument.value) := by
  rcases binds : store.internBindings fragment [] generated.arguments with ⟨bound, next⟩
  obtain ⟨added, known, names⟩ := internBindings_spec admits (by simp) binds
  have last : ReflTransGen (Adds fragment admitted) next (next.pushFact fragment atom.id bound) :=
    .single (.fact atom.id known)
  rw [addGenerated_eq_pushFact atom binds]
  exact ⟨added.trans last, fun argument member => (names argument member).of_adds last⟩

/-- The generated facts of a set that match an atom, each with its atom. -/
def matchedFacts (set : ExampleSet) (atoms : List Atom) : List (Atom × ExampleFact) :=
  (set.examples.flatMap (·.facts)).filterMap fun generated =>
    (matchingAtom? atoms generated).map fun atom => (atom, generated)

/-- Facts of an import are added one after another, and each value that they are about has a
constant afterwards. -/
theorem foldl_addGenerated_spec (store : ExampleStore) (fragment : FragmentId)
    {matched : List (Atom × ExampleFact)}
    (admits : ∀ pair ∈ matched, ∀ argument ∈ pair.2.arguments,
      admitted (Text.trimmed argument.value)) :
    let later := matched.foldl
      (fun store (atom, generated) => store.addGenerated fragment atom generated) store
    ReflTransGen (Adds fragment admitted) store later ∧
      ∀ pair ∈ matched, ∀ argument ∈ pair.2.arguments,
        later.Names fragment (Text.trimmed argument.value) := by
  induction matched generalizing store with
  | nil => exact ⟨.refl, nofun⟩
  | cons pair matched inductionHypothesis =>
    obtain ⟨admitsFirst, admitsRest⟩ := List.forall_mem_cons.mp admits
    obtain ⟨added, names⟩ := addGenerated_spec store fragment pair.1 admitsFirst
    obtain ⟨addedRest, namesRest⟩ :=
      inductionHypothesis (store.addGenerated fragment pair.1 pair.2) admitsRest
    refine ⟨added.trans addedRest, List.forall_mem_cons.mpr ⟨?_, namesRest⟩⟩
    exact fun argument member => (names argument member).of_adds addedRest

end ExampleStore

/-! ## Operations -/

/-- The values that an operation makes constants of. One that is added by itself must not be blank;
one that is imported may be. -/
def ExampleOperation.Offers : ExampleOperation → String → Prop
  | addConstant value, offered => offered = Text.trimmed value ∧ offered ≠ ""
  | load set atoms, offered => ∃ pair ∈ ExampleStore.matchedFacts set atoms,
      ∃ argument ∈ pair.2.arguments, offered = Text.trimmed argument.value
  | _, _ => False

namespace ExampleStore

open Relation

/-- The values of an import are constants of the fragment afterwards. -/
theorem after_load_spec (store : ExampleStore) (fragment : FragmentId) (set : ExampleSet)
    (atoms : List Atom) :
    let operation := ExampleOperation.load set atoms
    ReflTransGen (Adds fragment operation.Offers) (store.put fragment (store.entry fragment))
        (store.after fragment operation) ∧
      ∀ value, operation.Offers value → (store.after fragment operation).Names fragment value := by
  intro operation
  have offers : ∀ pair ∈ matchedFacts set atoms, ∀ argument ∈ pair.2.arguments,
      operation.Offers (Text.trimmed argument.value) :=
    fun pair matched argument member => ⟨pair, matched, argument, member, rfl⟩
  obtain ⟨added, names⟩ :=
    foldl_addGenerated_spec (store.put fragment (store.entry fragment)) fragment offers
  refine ⟨added, ?_⟩
  rintro _ ⟨pair, matched, argument, member, rfl⟩
  exact names pair matched argument member

/-- A constant is added when its value is not blank. -/
theorem pushed_of_addConstant {store later : ExampleStore} {fragment : FragmentId} {value : String}
    {id : ConstantId} (adds : store.addConstant fragment value = .ok (id, later)) :
    id = ⟨store.nextConstant⟩ ∧ Text.trimmed value ≠ "" ∧
      later = store.pushConstant fragment (Text.trimmed value) := by
  rw [addConstant] at adds
  split at adds
  next => cases adds
  next filled =>
    obtain ⟨rfl, rfl⟩ := Prod.mk.inj (Except.ok.inj adds)
    exact ⟨rfl, mt String.isEmpty_iff.mpr filled, rfl⟩

/-- A variable is bound when the fragment has the constant. -/
theorem rebound_of_bind {store later : ExampleStore} {fragment : FragmentId} {fact : FactId}
    {variableName : String} {constant : Option ConstantId}
    (binds : store.bind fragment fact variableName constant = .ok later) :
    (∀ id ∈ constant, id ∈ (store.entry fragment).constantIds) ∧
      later = store.put fragment ((store.entry fragment).rebind fact variableName constant) := by
  rw [bind] at binds
  split at binds
  next => cases binds
  next examples found =>
    obtain rfl := entry_of_get? found
    split at binds
    next => cases binds
    next known =>
      split at binds
      next => cases binds
      next =>
        refine ⟨fun id bound => ?_, (Except.ok.inj binds).symm⟩
        have present := Option.filter_eq_none_iff.mp known id bound
        exact FragmentExamples.isSome_constant?_iff.mp
          (by simpa [Option.isSome_iff_ne_none] using present)

/-- Every operation is a sequence of changes. -/
theorem after_changes (store : ExampleStore) (fragment : FragmentId)
    (operation : ExampleOperation) :
    ReflTransGen (Changes fragment operation.Offers) store (store.after fragment operation) := by
  cases operation with
  | addConstant value =>
    rw [after]
    split
    next id later adds =>
      obtain ⟨-, filled, rfl⟩ := pushed_of_addConstant adds
      exact .single (.adds (.constant ⟨rfl, filled⟩))
    next => exact .refl
  | removeConstant id =>
    rw [after, removeConstant]
    split
    next => exact .refl
    next examples found =>
      obtain rfl := entry_of_get? found
      exact .single (.edits (.withoutConstant id))
  | addFact atomId => exact .single (.adds (.fact atomId (by simp)))
  | removeFact id =>
    rw [after, removeFact]
    split
    next => exact .refl
    next examples found =>
      obtain rfl := entry_of_get? found
      exact .single (.edits (.withoutFact id))
  | bind fact variableName constant =>
    rw [after]
    split
    next later binds =>
      obtain ⟨known, rfl⟩ := rebound_of_bind binds
      exact .single (.edits (.rebound fact variableName known))
    next => exact .refl
  | reset => exact .single .resets
  | load set atoms =>
    -- An import writes the entry first, so that a fragment has one even if no fact is matched.
    have additions := (after_load_spec store fragment set atoms).1
    exact .head (.edits .same) (additions.lift id fun _ _ => .adds)

end ExampleStore

end Statute
