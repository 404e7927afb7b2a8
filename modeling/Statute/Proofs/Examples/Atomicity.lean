import Statute.Proofs.Examples.InPlace
import Statute.Proofs.Examples.References

/-!
# Operations are atomic and local

An operation on a fragment leaves all other fragments alone. When it is refused or finds nothing to
remove, it leaves the whole store alone: a constant that is not there has no bindings to it that
could be swept. An import adds behind what the fragment has, and what was just added can be removed
without a trace.
-/

namespace Statute

/-! ## Fragments -/

namespace FragmentExamples

variable {examples : FragmentExamples}

/-- Nothing is bound to a constant that is not there. -/
theorem eraseConstant_of_notMem (bindsOwn : examples.BindsOwn) {id : ConstantId}
    (absent : id ∉ examples.constantIds) : examples.eraseConstant id = examples := by
  have constants : ∀ constant ∈ examples.constants, constant.id ≠ id :=
    fun constant member same => absent (same ▸ List.mem_map_of_mem member)
  have bindings : ∀ fact ∈ examples.facts, ∀ binding ∈ fact.bindings, binding.2 ≠ id :=
    fun fact member binding bound same => absent (same ▸ bindsOwn fact member binding bound)
  have facts : (examples.eraseConstant id).facts = examples.facts := by
    refine (List.map_congr_left fun fact member => ?_).trans (List.map_id' _)
    rw [List.filter_eq_self.mpr (by simpa using bindings fact member)]
  exact congrArg₂ FragmentExamples.mk (List.filter_eq_self.mpr (by simpa using constants)) facts

/-- Where no fact has the number, none is removed. -/
theorem eraseFact_of_notMem {id : FactId} (absent : id ∉ examples.factIds) :
    examples.eraseFact id = examples := by
  have facts := id_ne_of_notMem_factIds absent
  rw [eraseFact, List.filter_eq_self.mpr (by simpa using facts)]

/-- A constant that nothing is bound to goes as it came. -/
theorem eraseConstant_withConstant (bindsOwn : examples.BindsOwn) {constant : Constant}
    (fresh : constant.id ∉ examples.constantIds) :
    (examples.withConstant constant).eraseConstant constant.id = examples := by
  have same : (examples.withConstant constant).eraseConstant constant.id =
      examples.eraseConstant constant.id := by
    simp [eraseConstant, withConstant, List.filter_append]
  rw [same, eraseConstant_of_notMem bindsOwn fresh]

/-- A fact that was just added goes as it came. -/
theorem eraseFact_withFact {fact : Fact} (fresh : fact.id ∉ examples.factIds) :
    (examples.withFact fact).eraseFact fact.id = examples := by
  have same : (examples.withFact fact).eraseFact fact.id = examples.eraseFact fact.id := by
    simp [eraseFact, withFact, List.filter_append]
  rw [same, eraseFact_of_notMem fresh]

end FragmentExamples

namespace ExampleStore

open Relation

variable {store later : ExampleStore} {fragment : FragmentId} {admitted : String → Prop}

/-! ## Locality -/

/-- A change of one fragment leaves the entries of the others alone. -/
theorem Changes.get?_of_ne (changes : Changes fragment admitted store later)
    {other : FragmentId} (differs : other ≠ fragment) : later.get? other = store.get? other := by
  have put : ∀ examples, (store.put fragment examples).get? other = store.get? other := by
    intro examples
    rw [get?_put, Function.update_of_ne differs]
  cases changes with
  | adds adds =>
    cases adds with
    | constant | fact => exact put _
  | edits => exact put _
  | resets => rw [get?_reset, Function.update_of_ne differs]

/-- An operation on a fragment leaves the entries of all others alone. -/
theorem get?_after_of_ne (store : ExampleStore) (operation : ExampleOperation)
    {other : FragmentId} (differs : other ≠ fragment) :
    (store.after fragment operation).get? other = store.get? other := by
  have changes := after_changes store fragment operation
  generalize store.after fragment operation = later at changes
  induction changes with
  | refl => rfl
  | tail _ last inductionHypothesis => rw [last.get?_of_ne differs, inductionHypothesis]

/-! ## Refusals -/

/-- Nobody can tell the stores apart: fragments have the same entries, or none in both, and the same
numbers come next. -/
structure Agrees (store other : ExampleStore) : Prop where
  entries : store.get? = other.get?
  nextConstant : store.nextConstant = other.nextConstant
  nextFact : store.nextFact = other.nextFact

/-- A store cannot be told from itself. -/
theorem Agrees.refl (store : ExampleStore) : store.Agrees store :=
  ⟨rfl, rfl, rfl⟩

/-- Writing what a fragment has anyway changes nothing. -/
theorem agrees_put {examples : FragmentExamples} (found : store.get? fragment = some examples) :
    (store.put fragment examples).Agrees store where
  entries := by rw [get?_put, ← found, Function.update_eq_self]
  nextConstant := rfl
  nextFact := rfl

/-- When no constant was removed, the store cannot be told from the one before. Nothing was bound to
the constant either, as bindings are to constants that are there. -/
theorem agrees_removeConstant (consistent : store.IsConsistent) {id : ConstantId}
    (nothing : (store.removeConstant fragment id).1 = false) :
    (store.removeConstant fragment id).2.Agrees store := by
  rw [removeConstant] at nothing ⊢
  cases found : store.get? fragment with
  | none => exact .refl store
  | some examples =>
    obtain rfl := entry_of_get? found
    rw [found] at nothing
    have absent := mt FragmentExamples.isSome_constant?_iff.mpr (Bool.not_eq_true _ ▸ nothing)
    simp only [FragmentExamples.eraseConstant_of_notMem (consistent.bindsOwn fragment) absent]
    exact agrees_put found

/-- When no fact was removed, the store cannot be told from the one before. -/
theorem agrees_removeFact {id : FactId} (nothing : (store.removeFact fragment id).1 = false) :
    (store.removeFact fragment id).2.Agrees store := by
  rw [removeFact] at nothing ⊢
  cases found : store.get? fragment with
  | none => exact .refl store
  | some examples =>
    obtain rfl := entry_of_get? found
    rw [found] at nothing
    have absent := mt FragmentExamples.isSome_fact?_iff.mpr (Bool.not_eq_true _ ▸ nothing)
    simp only [FragmentExamples.eraseFact_of_notMem absent]
    exact agrees_put found

/-- An operation that is refused, or finds nothing to remove, leaves no trace. -/
theorem agrees_after_of_refusal (consistent : store.IsConsistent) {operation : ExampleOperation}
    (refusal : (store.answer fragment operation).IsRefusal) :
    (store.after fragment operation).Agrees store := by
  cases operation with
  | addConstant value =>
    rw [answer] at refusal
    rw [after]
    cases added : store.addConstant fragment value with
    | ok _ => simp [added, ExampleAnswer.IsRefusal] at refusal
    | error error => exact .refl store
  | removeConstant id => exact agrees_removeConstant consistent refusal
  | removeFact id => exact agrees_removeFact refusal
  | bind fact variableName constant =>
    rw [answer] at refusal
    rw [after]
    cases binds : store.bind fragment fact variableName constant with
    | ok _ => simp [binds, ExampleAnswer.IsRefusal] at refusal
    | error error => exact .refl store
  | addFact | reset | load => exact refusal.elim

/-! ## Imports -/

/-- Interning a value leaves the facts alone. -/
theorem facts_intern (value : String) :
    ((store.intern fragment value).2.entry fragment).facts = (store.entry fragment).facts := by
  rw [intern]
  split
  next => rfl
  next =>
    change ((store.pushConstant fragment value).entry fragment).facts = _
    rw [entry_pushConstant, Function.update_self]
    rfl

/-- Interning the values of a fact leaves the facts that are there alone. -/
theorem facts_internBindings (store : ExampleStore) (fragment : FragmentId)
    (bindings : List (String × ConstantId)) (arguments : List Binding) :
    ((store.internBindings fragment bindings arguments).2.entry fragment).facts =
      (store.entry fragment).facts := by
  induction arguments generalizing store bindings with
  | nil => rfl
  | cons argument arguments inductionHypothesis =>
    rw [internBindings]
    exact (inductionHypothesis _ _).trans (facts_intern _)

/-- A generated fact is one fact more, which is a fact of the atom. -/
theorem exists_fact_addGenerated (store : ExampleStore) (fragment : FragmentId) (atom : Atom)
    (generated : ExampleFact) :
    ∃ fact : Fact, fact.atomId = atom.id ∧
      ((store.addGenerated fragment atom generated).entry fragment).facts =
        (store.entry fragment).facts ++ [fact] := by
  have interned := facts_internBindings store fragment [] generated.arguments
  rcases binds : store.internBindings fragment [] generated.arguments with ⟨bound, next⟩
  rw [binds] at interned
  rw [addGenerated_eq_pushFact atom binds, entry_pushFact, Function.update_self,
    FragmentExamples.withFact, interned]
  exact ⟨_, rfl, rfl⟩

/-- An import puts one fact of each matched atom behind the facts that were there, in order. -/
theorem exists_facts_foldl_addGenerated (store : ExampleStore) (fragment : FragmentId)
    (matched : List (Atom × ExampleFact)) :
    ∃ facts : List Fact, facts.map Fact.atomId = matched.map (fun (atom, _) => atom.id) ∧
      ((matched.foldl (fun store (atom, generated) => store.addGenerated fragment atom generated)
        store).entry fragment).facts = (store.entry fragment).facts ++ facts := by
  induction matched generalizing store with
  | nil => exact ⟨[], rfl, (List.append_nil _).symm⟩
  | cons pair matched inductionHypothesis =>
    obtain ⟨fact, ofAtom, first⟩ := exists_fact_addGenerated store fragment pair.1 pair.2
    obtain ⟨facts, ofAtoms, rest⟩ := inductionHypothesis (store.addGenerated fragment pair.1 pair.2)
    refine ⟨fact :: facts, ?_, ?_⟩
    · rw [List.map_cons, List.map_cons, ofAtom, ofAtoms]
    · rw [List.foldl_cons, rest, first, List.append_assoc]
      rfl

/-- A fragment whose entry was put has this entry. -/
theorem get?_put_self (store : ExampleStore) (fragment : FragmentId)
    (examples : FragmentExamples) :
    (store.put fragment examples).get? fragment =
      some ((store.put fragment examples).entry fragment) := by
  rw [get?_put, entry_put, Function.update_self, Function.update_self]

/-- A fragment that something is added to has an entry. -/
theorem get?_of_adds {examples : FragmentExamples}
    (adds : ReflTransGen (Adds fragment admitted) (store.put fragment examples) later) :
    later.get? fragment = some (later.entry fragment) := by
  rcases ReflTransGen.cases_tail adds with rfl | ⟨before, -, last⟩
  · exact get?_put_self store fragment examples
  · cases last with
    | constant | fact => exact get?_put_self before fragment _

/-- An import adds constants and facts behind those that are there, and tells how many facts. -/
theorem get?_loadGenerated (store : ExampleStore) (fragment : FragmentId) (set : ExampleSet)
    (atoms : List Atom) : ∃ constants facts,
      (store.loadGenerated fragment set atoms).2.get? fragment =
        some ⟨(store.entry fragment).constants ++ constants,
          (store.entry fragment).facts ++ facts⟩ ∧
      (store.loadGenerated fragment set atoms).1 = facts.length := by
  have adds := (after_load_spec store fragment set atoms).1
  obtain ⟨constants, behind⟩ := constants_prefix_of_adds adds
  obtain ⟨facts, ofAtoms, last⟩ := exists_facts_foldl_addGenerated
    (store.put fragment (store.entry fragment)) fragment (matchedFacts set atoms)
  have length : facts.length = (matchedFacts set atoms).length := by
    simpa using congrArg List.length ofAtoms
  rw [entry_put, Function.update_self] at behind last
  refine ⟨constants, facts, ?_, length.symm⟩
  change (store.after fragment (.load set atoms)).get? fragment = _
  rw [get?_of_adds adds, behind]
  exact congrArg some (congrArg (FragmentExamples.mk _) last)

/-! ## Additions -/

/-- An operation that answers with a new constant has added it. -/
theorem pushed_of_added {operation : ExampleOperation} {id : ConstantId}
    (added : store.answer fragment operation = .added id) : id = ⟨store.nextConstant⟩ ∧
      ∃ value, store.after fragment operation = store.pushConstant fragment value := by
  cases operation with
  | addConstant value =>
    rw [answer] at added
    rw [after]
    cases adds : store.addConstant fragment value with
    | ok result =>
      obtain ⟨new, later⟩ := result
      obtain ⟨rfl, -, rfl⟩ := pushed_of_addConstant adds
      rw [adds] at added
      exact ⟨(ExampleAnswer.added.inj added).symm, _, rfl⟩
    | error error =>
      rw [adds] at added
      cases added
  | bind fact variableName constant =>
    rw [answer] at added
    split at added <;> cases added
  | removeConstant | addFact | removeFact | reset | load => cases added

/-- An operation that answers with a new fact has added it, with no variable bound. -/
theorem pushed_of_addedFact {operation : ExampleOperation} {id : FactId}
    (added : store.answer fragment operation = .addedFact id) : id = ⟨store.nextFact⟩ ∧
      ∃ atomId, store.after fragment operation = store.pushFact fragment atomId [] := by
  cases operation with
  | addFact atomId => exact ⟨(ExampleAnswer.addedFact.inj added).symm, atomId, rfl⟩
  | addConstant | bind =>
    rw [answer] at added
    split at added <;> cases added
  | removeConstant | removeFact | reset | load => cases added

/-- A fragment has what it had when its entry is written again. -/
theorem get?_put_again {examples other : FragmentExamples}
    (found : store.get? fragment = some examples)
    (written : later.get? = Function.update store.get? fragment (some other)) :
    (later.put fragment examples).get? = store.get? := by
  rw [get?_put, written, Function.update_idem, ← found, Function.update_eq_self]

/-- A constant that was just added is removed without a trace. -/
theorem removeConstant_pushConstant (consistent : store.IsConsistent)
    {examples : FragmentExamples} (found : store.get? fragment = some examples) (value : String) :
    let removal := (store.pushConstant fragment value).removeConstant fragment ⟨store.nextConstant⟩
    removal.1 = true ∧ removal.2.get? = store.get? := by
  obtain rfl := entry_of_get? found
  have fresh : ⟨store.nextConstant⟩ ∉ (store.entry fragment).constantIds :=
    consistent.constants.fresh rfl fragment
  have written : (store.pushConstant fragment value).get? = _ := get?_put store fragment _
  rw [removeConstant, written, Function.update_self]
  refine ⟨FragmentExamples.isSome_constant?_iff.mpr (by simp), ?_⟩
  dsimp only
  rw [FragmentExamples.eraseConstant_withConstant (consistent.bindsOwn fragment) fresh]
  exact get?_put_again found written

/-- A fact that was just added is removed without a trace. -/
theorem removeFact_pushFact (consistent : store.IsConsistent) {examples : FragmentExamples}
    (found : store.get? fragment = some examples) (atomId : AtomId) :
    let removal := (store.pushFact fragment atomId []).removeFact fragment ⟨store.nextFact⟩
    removal.1 = true ∧ removal.2.get? = store.get? := by
  obtain rfl := entry_of_get? found
  have fresh : ⟨store.nextFact⟩ ∉ (store.entry fragment).factIds :=
    consistent.facts.fresh rfl fragment
  have written : (store.pushFact fragment atomId []).get? = _ := get?_put store fragment _
  rw [removeFact, written, Function.update_self]
  refine ⟨FragmentExamples.isSome_fact?_iff.mpr (by simp), ?_⟩
  dsimp only
  rw [FragmentExamples.eraseFact_withFact fresh]
  exact get?_put_again found written

/-- Whatever was done to an empty store before, an operation on a fragment leaves the entries of all
other fragments alone, also when it is carried out in place. When it is refused or finds nothing to
remove, it leaves the whole store alone. An import adds constants and facts behind those of the
fragment and tells how many facts. What is added to a fragment that has an entry can be removed
again, and then every fragment has exactly what it had. -/
theorem operations_are_atomic_and_local (operations : List (FragmentId × ExampleOperation))
    (fragment : FragmentId) (operation : ExampleOperation) :
    let store := ExampleStore.empty.afterAll operations
    let answer := (store.perform fragment operation).1
    let later := (store.perform fragment operation).2
    (answer = store.answer fragment operation ∧ later = store.after fragment operation) ∧
    (∀ other, other ≠ fragment → later.get? other = store.get? other) ∧
    (answer.IsRefusal → later.Agrees store) ∧
    (∀ set atoms, operation = .load set atoms → ∃ constants facts,
      later.get? fragment = some ⟨(store.entry fragment).constants ++ constants,
        (store.entry fragment).facts ++ facts⟩ ∧ answer = .imported facts.length) ∧
    ∀ examples, store.get? fragment = some examples →
      (∀ id, answer = .added id →
        (later.perform fragment (.removeConstant id)).1 = .removed true ∧
        (later.perform fragment (.removeConstant id)).2.get? = store.get?) ∧
      ∀ id, answer = .addedFact id →
        (later.perform fragment (.removeFact id)).1 = .removed true ∧
        (later.perform fragment (.removeFact id)).2.get? = store.get? := by
  intro store
  have consistent : store.IsConsistent := IsConsistent.empty.afterAll operations
  simp only [perform_eq]
  refine ⟨⟨trivial, trivial⟩, fun other differs => get?_after_of_ne store operation differs,
    agrees_after_of_refusal consistent, ?_, fun examples found => ⟨?_, ?_⟩⟩
  · rintro set atoms rfl
    obtain ⟨constants, facts, appended, count⟩ := get?_loadGenerated store fragment set atoms
    exact ⟨constants, facts, appended, congrArg ExampleAnswer.imported count⟩
  · intro id added
    obtain ⟨rfl, value, pushed⟩ := pushed_of_added added
    rw [pushed]
    exact (removeConstant_pushConstant consistent found value).imp_left (congrArg _)
  · intro id added
    obtain ⟨rfl, atomId, pushed⟩ := pushed_of_addedFact added
    rw [pushed]
    exact (removeFact_pushFact consistent found atomId).imp_left (congrArg _)

/-- A constant that is removed for the second time, a fact of another fragment, and a constant that
comes and goes while a fact is about another one. -/
theorem exampleOperations_atomic :
    let store := ExampleStore.empty.afterAll exampleOperations
    let additions : ExampleSet := ⟨[⟨"", [⟨"sees(X, Y)", [⟨"X", "carol"⟩, ⟨"Y", "bob"⟩]⟩]⟩]⟩
    ((8 : FragmentId) ≠ 7 ∧ (store.perform 7 .reset).2.get? 8 = store.get? 8) ∧
    ((store.perform 7 (.removeConstant ⟨1⟩)).1 = .removed false ∧
      (store.perform 7 (.removeConstant ⟨1⟩)).2.Agrees store) ∧
    ((store.perform 8 (.bind ⟨1⟩ "X" (some ⟨2⟩))).1 = .refused (.unknownFact ⟨1⟩) ∧
      (store.perform 8 (.bind ⟨1⟩ "X" (some ⟨2⟩))).2.Agrees store) ∧
    (∃ constants facts, (store.perform 7 (.load additions
        [⟨1, 7, "sees(X, Y)", "", false, true, []⟩])).2.get? 7 =
      some ⟨(store.entry 7).constants ++ constants, (store.entry 7).facts ++ facts⟩) ∧
    store.get? 7 = some ⟨[⟨⟨3⟩, "bob"⟩], [⟨⟨1⟩, 1, []⟩, ⟨⟨2⟩, 1, [("X", ⟨3⟩)]⟩]⟩ ∧
    (store.perform 7 (.addConstant " dan ")).1 = .added ⟨4⟩ ∧
      ((store.perform 7 (.addConstant " dan ")).2.perform 7 (.removeConstant ⟨4⟩)).2.get? =
        store.get? := by
  intro store additions
  have others : (8 : FragmentId) ≠ 7 := by decide
  have again : (store.perform 7 (.removeConstant ⟨1⟩)).1 = .removed false := by decide +kernel
  have elsewhere : (store.perform 8 (.bind ⟨1⟩ "X" (some ⟨2⟩))).1 =
      .refused (.unknownFact ⟨1⟩) := by
    decide +kernel
  have found : store.get? 7 =
      some ⟨[⟨⟨3⟩, "bob"⟩], [⟨⟨1⟩, 1, []⟩, ⟨⟨2⟩, 1, [("X", ⟨3⟩)]⟩]⟩ := by
    decide +kernel
  have added : (store.perform 7 (.addConstant " dan ")).1 = .added ⟨4⟩ := by decide +kernel
  have atomic := operations_are_atomic_and_local exampleOperations
  refine ⟨⟨others, (atomic 7 .reset).2.1 8 others⟩, ⟨again, (atomic 7 _).2.2.1 (again ▸ rfl)⟩,
    ⟨elsewhere, (atomic 8 _).2.2.1 (elsewhere ▸ trivial)⟩, ?_, found, added,
    (((atomic 7 _).2.2.2.2 _ found).1 _ added).2⟩
  obtain ⟨constants, facts, appended, -⟩ := (atomic 7 (.load additions _)).2.2.2.1 additions _ rfl
  exact ⟨constants, facts, appended⟩

end ExampleStore

end Statute
