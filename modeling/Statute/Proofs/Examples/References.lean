import Mathlib.Data.List.Nodup
import Statute.Proofs.Examples.Operations

/-!
# References between facts and constants

The facts of a fragment are about constants of the same fragment, and numbers stand for one constant
or fact each, whatever is done to a store and whichever numbers are asked for. A constant that is
removed takes the bindings to it along, and numbers come from counters that only go up.
-/

namespace Statute

/-- Numbers that a counter has given to things of fragments: things of one fragment or of two have
different ones, and the counter is past them. -/
structure GivenOnce {ι : Type} (number : ι → Nat) (next : Nat) (ids : FragmentId → List ι) :
    Prop where
  nodup : ∀ fragment, (ids fragment).Nodup
  apart : ∀ fragment other, fragment ≠ other → (ids fragment).Disjoint (ids other)
  below : ∀ fragment, ∀ id ∈ ids fragment, number id < next

namespace GivenOnce

variable {ι : Type} {number : ι → Nat} {next : Nat} {ids : FragmentId → List ι}
  {fragment : FragmentId}

/-- A counter that has given no number yet. -/
theorem nil : GivenOnce number next fun _ => [] where
  nodup _ := List.nodup_nil
  apart _ _ _ := List.disjoint_nil_left _
  below := nofun

/-- Numbers can be taken away from a fragment. -/
theorem takeAway (given : GivenOnce number next ids) {fewer : List ι}
    (sublist : fewer.Sublist (ids fragment)) :
    GivenOnce number next (Function.update ids fragment fewer) := by
  have sublists : ∀ other, (Function.update ids fragment fewer other).Sublist (ids other) :=
    (Function.forall_update_iff ids fun other kept => kept.Sublist (ids other)).mpr
      ⟨sublist, fun other _ => .refl (ids other)⟩
  refine ⟨fun other => (given.nodup other).sublist (sublists other), ?_, ?_⟩
  · exact fun left right apart => List.disjoint_of_subset_left (sublists left).subset
      (List.disjoint_of_subset_right (sublists right).subset (given.apart left right apart))
  · exact fun other id member => given.below other id ((sublists other).subset member)

/-- The counter is past every number that is in use, so the next one is new in all fragments. -/
theorem fresh (given : GivenOnce number next ids) {id : ι} (isNext : number id = next)
    (fragment : FragmentId) : id ∉ ids fragment :=
  fun member => Nat.ne_of_lt (given.below fragment id member) isNext

/-- The next number can be given to something of a fragment. -/
theorem give (given : GivenOnce number next ids) {id : ι} (isNext : number id = next) :
    GivenOnce number (next + 1) (Function.update ids fragment (ids fragment ++ [id])) := by
  have fresh := given.fresh isNext
  have mem_cases : ∀ {other used},
      used ∈ Function.update ids fragment (ids fragment ++ [id]) other →
        used ∈ ids other ∨ other = fragment ∧ used = id := by
    intro other used member
    rcases ExampleStore.mem_update_cases fragment (fun ids => ids) member with before | ⟨rfl, now⟩
    · exact .inl before
    · exact (List.mem_append.mp now).imp_right fun new => ⟨rfl, List.mem_singleton.mp new⟩
  refine ⟨?_, ?_, ?_⟩
  · refine (Function.forall_update_iff ids fun _ used => used.Nodup).mpr
      ⟨?_, fun other _ => given.nodup other⟩
    exact List.concat_eq_append ▸ (given.nodup fragment).concat (fresh fragment)
  · intro left right apart used inLeft inRight
    rcases mem_cases inLeft with wasLeft | ⟨isLeft, rfl⟩
    · rcases mem_cases inRight with wasRight | ⟨-, rfl⟩
      · exact given.apart left right apart wasLeft wasRight
      · exact fresh left wasLeft
    · rcases mem_cases inRight with wasRight | ⟨isRight, -⟩
      · exact fresh right wasRight
      · exact apart (isLeft.trans isRight.symm)
  · intro other used member
    rcases mem_cases member with before | ⟨-, rfl⟩
    · exact Nat.lt_succ_of_lt (given.below other used before)
    · exact isNext ▸ Nat.lt_succ_self _

end GivenOnce

/-! ## Edits -/

namespace FragmentExamples

variable {examples later : FragmentExamples}

/-- Variables are bound to constants of the fragment. -/
def BindsOwn (examples : FragmentExamples) : Prop :=
  ∀ fact ∈ examples.facts, ∀ binding ∈ fact.bindings, binding.2 ∈ examples.constantIds

/-- The numbers of constants after an edit are some of those before, in their order. -/
theorem Edits.constantIds_sublist (edits : examples.Edits later) :
    later.constantIds.Sublist examples.constantIds :=
  edits.constants_sublist.map _

/-- The numbers of facts after an edit are some of those before, in their order. New bindings leave
a fact its number. -/
theorem Edits.factIds_sublist (edits : examples.Edits later) :
    later.factIds.Sublist examples.factIds := by
  cases edits with
  | same => exact .refl _
  | withoutConstant id => simp [factIds, eraseConstant, Function.comp_def]
  | withoutFact id => exact List.filter_sublist.map _
  | rebound fact variableName known =>
    simp [factIds, rebind, Function.comp_def, apply_ite Fact.id]

/-- One constant more takes no binding away. -/
theorem BindsOwn.withConstant (bindsOwn : examples.BindsOwn) (constant : Constant) :
    (examples.withConstant constant).BindsOwn := by
  intro fact member binding bound
  rw [constantIds_withConstant]
  exact List.mem_append_left _ (bindsOwn fact member binding bound)

/-- One fact more is bound to constants of the fragment when its bindings are. -/
theorem BindsOwn.withFact (bindsOwn : examples.BindsOwn) {fact : Fact}
    (known : ∀ binding ∈ fact.bindings, binding.2 ∈ examples.constantIds) :
    (examples.withFact fact).BindsOwn :=
  List.forall_mem_append.mpr ⟨bindsOwn, List.forall_mem_singleton.mpr known⟩

/-- After a variable was bound, the bindings of a fact are those that one of the facts had before,
but for the new one. -/
theorem mem_facts_rebind {id : FactId} {variableName : String} {constant : Option ConstantId}
    {fact : Fact} (member : fact ∈ (examples.rebind id variableName constant).facts) :
    ∃ before ∈ examples.facts, ∀ binding ∈ fact.bindings,
      binding ∈ before.bindings ∨ binding.2 ∈ constant := by
  obtain ⟨before, was, rfl⟩ := List.mem_map.mp member
  refine ⟨before, was, fun binding bound => ?_⟩
  split at bound
  next =>
    cases constant with
    | none => exact .inl (List.mem_filter.mp bound).1
    | some constant =>
      rcases mem_bindVariable bound with same | bound
      · exact .inr (congrArg some same.symm)
      · exact .inl bound
  next => exact .inl bound

/-- An edit keeps variables bound to constants of the fragment. The bindings to a constant that is
removed are removed with it. -/
theorem Edits.bindsOwn (edits : examples.Edits later) (bindsOwn : examples.BindsOwn) :
    later.BindsOwn := by
  cases edits with
  | same => exact bindsOwn
  | withoutConstant id =>
    intro fact member binding bound
    obtain ⟨before, was, rfl⟩ := List.mem_map.mp member
    obtain ⟨bound, other⟩ := List.mem_filter.mp bound
    obtain ⟨constant, has, same⟩ := List.mem_map.mp (bindsOwn before was binding bound)
    refine List.mem_map.mpr ⟨constant, List.mem_filter.mpr ⟨has, ?_⟩, same⟩
    rw [same]
    exact other
  | withoutFact id => exact fun fact member => bindsOwn fact (List.mem_filter.mp member).1
  | rebound id variableName known =>
    intro fact member binding bound
    obtain ⟨before, was, cases⟩ := mem_facts_rebind member
    rcases cases binding bound with bound | isNew
    · exact bindsOwn before was binding bound
    · exact known binding.2 isNew

end FragmentExamples

/-! ## Stores -/

namespace ExampleStore

/-- Numbers were given out once, and variables are bound to constants of their fragment. -/
structure IsConsistent (store : ExampleStore) : Prop where
  constants : GivenOnce ConstantId.number store.nextConstant
    (FragmentExamples.constantIds ∘ store.entry)
  facts : GivenOnce FactId.number store.nextFact (FragmentExamples.factIds ∘ store.entry)
  bindsOwn : ∀ fragment, (store.entry fragment).BindsOwn

namespace IsConsistent

variable {store later : ExampleStore} {fragment : FragmentId} {admitted : String → Prop}

/-- The empty store is consistent. -/
theorem empty : IsConsistent .empty where
  constants := .nil
  facts := .nil
  bindsOwn _ := nofun

/-- What has to hold of the new entry of a fragment. -/
theorem of_update (consistent : store.IsConsistent) {examples : FragmentExamples}
    (entry : later.entry = Function.update store.entry fragment examples)
    (constants : GivenOnce ConstantId.number later.nextConstant
      (Function.update (FragmentExamples.constantIds ∘ store.entry) fragment examples.constantIds))
    (facts : GivenOnce FactId.number later.nextFact
      (Function.update (FragmentExamples.factIds ∘ store.entry) fragment examples.factIds))
    (bindsOwn : examples.BindsOwn) : later.IsConsistent := by
  refine ⟨?_, ?_, ?_⟩
  · rwa [entry, Function.comp_update]
  · rwa [entry, Function.comp_update]
  · rw [entry]
    exact (Function.forall_update_iff store.entry fun _ examples => examples.BindsOwn).mpr
      ⟨bindsOwn, fun other _ => consistent.bindsOwn other⟩

/-- A constant or a fact that is added has a number that nothing had before, so the store stays
consistent. -/
theorem adds (consistent : store.IsConsistent) (adds : Adds fragment admitted store later) :
    later.IsConsistent := by
  cases adds with
  | constant admits =>
    refine consistent.of_update (entry_pushConstant store fragment _) ?_
      (consistent.facts.takeAway (.refl _)) ((consistent.bindsOwn fragment).withConstant _)
    rw [FragmentExamples.constantIds_withConstant]
    exact consistent.constants.give rfl
  | fact atomId known =>
    refine consistent.of_update (entry_pushFact store fragment atomId _)
      (consistent.constants.takeAway (.refl _)) ?_
      ((consistent.bindsOwn fragment).withFact known)
    rw [FragmentExamples.factIds_withFact]
    exact consistent.facts.give rfl

/-- Every change keeps a store consistent: additions take new numbers, and edits and resets only
take numbers away. -/
theorem changes (consistent : store.IsConsistent)
    (changes : Changes fragment admitted store later) : later.IsConsistent := by
  cases changes with
  | adds adds => exact consistent.adds adds
  | edits edits =>
    exact consistent.of_update (entry_put store fragment _)
      (consistent.constants.takeAway edits.constantIds_sublist)
      (consistent.facts.takeAway edits.factIds_sublist)
      (edits.bindsOwn (consistent.bindsOwn fragment))
  | resets =>
    exact consistent.of_update (entry_reset store fragment)
      (consistent.constants.takeAway (List.nil_sublist _))
      (consistent.facts.takeAway (List.nil_sublist _)) nofun

open Relation in
/-- By induction, any number of changes of a fragment keep a store consistent. -/
theorem allChanges (consistent : store.IsConsistent)
    (changes : ReflTransGen (Changes fragment admitted) store later) : later.IsConsistent := by
  induction changes with
  | refl => exact consistent
  | tail _ last inductionHypothesis => exact inductionHypothesis.changes last

open Relation in
/-- Additions are changes, so any number of them keep a store consistent. -/
theorem allAdds (consistent : store.IsConsistent)
    (additions : ReflTransGen (Adds fragment admitted) store later) : later.IsConsistent :=
  consistent.allChanges (additions.lift id fun _ _ => .adds)

/-- Any operations on any fragments keep a store consistent, since each is a sequence of changes. -/
theorem afterAll (consistent : store.IsConsistent)
    (operations : List (FragmentId × ExampleOperation)) :
    (store.afterAll operations).IsConsistent := by
  induction operations generalizing store with
  | nil => exact consistent
  | cons first operations inductionHypothesis =>
    exact inductionHypothesis (consistent.allChanges (after_changes store first.1 first.2))

end IsConsistent

/-- Whatever is done to fragments of an empty store: variables are bound to constants of the fragment
that the fact is in, and the numbers of constants and of facts are all different, in one fragment and
across fragments. -/
theorem bindings_refer_to_constants (operations : List (FragmentId × ExampleOperation))
    (fragment : FragmentId) :
    let store := ExampleStore.empty.afterAll operations
    let examples := store.entry fragment
    (∀ fact ∈ examples.facts, ∀ binding ∈ fact.bindings,
      ∃ constant ∈ examples.constants, constant.id = binding.2) ∧
    (examples.constants.map (·.id)).Nodup ∧ (examples.facts.map (·.id)).Nodup ∧
    ∀ other, other ≠ fragment →
      (∀ constant ∈ examples.constants, ∀ foreign ∈ (store.entry other).constants,
        constant.id ≠ foreign.id) ∧
      ∀ fact ∈ examples.facts, ∀ foreign ∈ (store.entry other).facts, fact.id ≠ foreign.id := by
  intro store examples
  have consistent : store.IsConsistent := IsConsistent.empty.afterAll operations
  refine ⟨fun fact member binding bound => ?_, consistent.constants.nodup fragment,
    consistent.facts.nodup fragment, fun other differs => ⟨?_, ?_⟩⟩
  · exact List.mem_map.mp (consistent.bindsOwn fragment fact member binding bound)
  · intro constant member foreign memberThere same
    exact consistent.constants.apart fragment other differs.symm (List.mem_map_of_mem member)
      (same ▸ List.mem_map_of_mem memberThere)
  · intro fact member foreign memberThere same
    exact consistent.facts.apart fragment other differs.symm (List.mem_map_of_mem member)
      (same ▸ List.mem_map_of_mem memberThere)

/-- Constants of two fragments, a binding to the constant of the other one, which is refused, an
import, and a constant that is removed while a fact of the import is about it. -/
def exampleOperations : List (FragmentId × ExampleOperation) :=
  [(7, .addConstant " alice "), (8, .addConstant "bob"), (7, .addFact 1),
    (7, .bind ⟨1⟩ "X" (some ⟨2⟩)),
    (7, .load ⟨[⟨"", [⟨"sees(X, Y)", [⟨"X", "bob"⟩, ⟨"Y", "alice"⟩]⟩]⟩]⟩
      [⟨1, 7, "sees(X, Y)", "", false, true, []⟩]),
    (7, .removeConstant ⟨1⟩)]

/-- After these operations the one binding that is left is to the constant that is left. -/
theorem exampleOperations_bindings :
    let examples := (ExampleStore.empty.afterAll exampleOperations).entry 7
    examples = ⟨[⟨⟨3⟩, "bob"⟩], [⟨⟨1⟩, 1, []⟩, ⟨⟨2⟩, 1, [("X", ⟨3⟩)]⟩]⟩ ∧
      ∃ constant ∈ examples.constants, constant.id = ⟨3⟩ := by
  intro examples
  have state : examples = ⟨[⟨⟨3⟩, "bob"⟩], [⟨⟨1⟩, 1, []⟩, ⟨⟨2⟩, 1, [("X", ⟨3⟩)]⟩]⟩ := by
    decide +kernel
  obtain ⟨known, -⟩ := bindings_refer_to_constants exampleOperations 7
  exact ⟨state, known ⟨⟨2⟩, 1, [("X", ⟨3⟩)]⟩ (by decide +kernel) ("X", ⟨3⟩) (by decide)⟩

end ExampleStore

end Statute
