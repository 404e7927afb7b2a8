import Statute.Proofs.Examples.Operations

/-!
# Operations in place

A store can be written as an operation goes along: an entry is made, a number is given out, a list of
constants is shortened before the bindings are looked at. What has been written by then stays written
when the operation is refused. `ExampleStore.perform_eq` says that operations carried out like this
give the answers of the operations on whole stores, and leave the stores that these make.
-/

namespace Statute

/-- What an operation on a store answers. -/
inductive ExampleAnswer where
  | added (id : ConstantId)
  | addedFact (id : FactId)
  | removed (wasThere : Bool)
  | bound
  | cleared
  | imported (count : Nat)
  | refused (error : ExampleError)
deriving DecidableEq

/-- The operation was refused, or there was nothing to remove. -/
def ExampleAnswer.IsRefusal : ExampleAnswer → Prop
  | refused _ => True
  | removed wasThere => wasThere = false
  | _ => False

/-- Something that writes a store as it goes. What is written before a refusal stays. -/
abbrev InPlace := ExceptT ExampleError (StateM ExampleStore)

namespace InPlace

/-- The entry of a fragment that has one. -/
def find? (fragment : FragmentId) : InPlace (Option FragmentExamples) :=
  return (← get).get? fragment

/-- Changes the entry of a fragment, which is made when there is none. -/
def edit (fragment : FragmentId) (change : FragmentExamples → FragmentExamples) : InPlace Unit :=
  modify fun store => store.put fragment (change (store.entry fragment))

/-- Makes an entry when the fragment has none. -/
def makeEntry (fragment : FragmentId) : InPlace Unit :=
  edit fragment id

/-- Gives out the number of a constant. -/
def newConstantId : InPlace ConstantId :=
  modifyGet fun store =>
    (⟨store.nextConstant⟩, { store with nextConstant := store.nextConstant + 1 })

/-- Gives out the number of a fact. -/
def newFactId : InPlace FactId :=
  modifyGet fun store => (⟨store.nextFact⟩, { store with nextFact := store.nextFact + 1 })

/-- Looks at the value before anything is written. -/
def addConstant (fragment : FragmentId) (value : String) : InPlace ConstantId := do
  if (Text.trimmed value).isEmpty then throw .emptyConstant
  let id ← newConstantId
  makeEntry fragment
  edit fragment fun examples => examples.withConstant ⟨id, Text.trimmed value⟩
  return id

/-- Takes the constant away, then the bindings to it whether there was such a constant or not, and
tells whether the constants have become fewer. -/
def removeConstant (fragment : FragmentId) (id : ConstantId) : InPlace Bool := do
  match ← find? fragment with
  | none => return false
  | some before =>
    edit fragment fun examples =>
      { examples with constants := examples.constants.filter fun constant => constant.id ≠ id }
    edit fragment fun examples =>
      { examples with
        facts := examples.facts.map fun fact =>
          { fact with bindings := fact.bindings.filter fun (_, bound) => bound ≠ id } }
    return ((← get).entry fragment).constants.length != before.constants.length

/-- Gives the fact no bindings, and cannot be refused. -/
def addFact (fragment : FragmentId) (atomId : AtomId) : InPlace FactId := do
  let id ← newFactId
  makeEntry fragment
  edit fragment fun examples => examples.withFact ⟨id, atomId, []⟩
  return id

/-- Takes the fact away, and tells whether the facts have become fewer. -/
def removeFact (fragment : FragmentId) (id : FactId) : InPlace Bool := do
  match ← find? fragment with
  | none => return false
  | some before =>
    edit fragment fun examples => examples.eraseFact id
    return ((← get).entry fragment).facts.length != before.facts.length

/-- Looks at the constant and at the fact before anything is written. -/
def bind (fragment : FragmentId) (fact : FactId) (variableName : String)
    (constant : Option ConstantId) : InPlace Unit := do
  match ← find? fragment with
  | none => throw (.unknownFact fact)
  | some examples =>
    if let some id := constant then
      if (examples.constant? id).isNone then throw (.unknownConstant id)
    if (examples.fact? fact).isNone then throw (.unknownFact fact)
    edit fragment fun examples => examples.rebind fact variableName constant

/-- Carries something out in place: the answer to it, and what it leaves of the store. -/
def carryOut {α : Type} (inPlace : InPlace α) (answer : α → ExampleAnswer)
    (store : ExampleStore) : ExampleAnswer × ExampleStore :=
  match inPlace store with
  | (.ok result, later) => (answer result, later)
  | (.error error, later) => (.refused error, later)

end InPlace

namespace ExampleStore

/-- Carries an operation on a fragment out in place. A reset and an import cannot be refused. -/
def perform (store : ExampleStore) (fragment : FragmentId) :
    ExampleOperation → ExampleAnswer × ExampleStore
  | .addConstant value => (InPlace.addConstant fragment value).carryOut .added store
  | .removeConstant id => (InPlace.removeConstant fragment id).carryOut .removed store
  | .addFact atomId => (InPlace.addFact fragment atomId).carryOut .addedFact store
  | .removeFact id => (InPlace.removeFact fragment id).carryOut .removed store
  | .bind fact variableName constant =>
    (InPlace.bind fragment fact variableName constant).carryOut (fun _ => .bound) store
  | .reset => (.cleared, store.reset fragment)
  | .load set atoms =>
    let (count, later) := store.loadGenerated fragment set atoms
    (.imported count, later)

/-- The answer to an operation. -/
def answer (store : ExampleStore) (fragment : FragmentId) : ExampleOperation → ExampleAnswer
  | .addConstant value =>
    match store.addConstant fragment value with
    | .ok (id, _) => .added id
    | .error error => .refused error
  | .removeConstant id => .removed (store.removeConstant fragment id).1
  | .addFact atomId => .addedFact (store.addFact fragment atomId).1
  | .removeFact id => .removed (store.removeFact fragment id).1
  | .bind fact variableName constant =>
    match store.bind fragment fact variableName constant with
    | .ok _ => .bound
    | .error error => .refused error
  | .reset => .cleared
  | .load set atoms => .imported (store.loadGenerated fragment set atoms).1

/-- An entry that is put twice is the one that was put last. -/
theorem put_put (store : ExampleStore) (fragment : FragmentId) (first second : FragmentExamples) :
    (store.put fragment first).put fragment second = store.put fragment second := by
  simp [put]

end ExampleStore

/-! ## Steps -/

namespace InPlace

open ExampleStore

variable (store : ExampleStore) (fragment : FragmentId)

/-- Looking for an entry writes nothing. -/
theorem run_find?_bind {α : Type} (next : Option FragmentExamples → InPlace α) :
    (find? fragment >>= next) store = next (store.get? fragment) store :=
  rfl

/-- A change of an entry is seen by what follows it. -/
theorem run_edit_bind {α : Type} (change : FragmentExamples → FragmentExamples)
    (next : Unit → InPlace α) :
    (edit fragment change >>= next) store =
      next () (store.put fragment (change (store.entry fragment))) :=
  rfl

/-- Two changes of an entry come to one. -/
theorem run_edit_edit_bind {α : Type} (first second : FragmentExamples → FragmentExamples)
    (next : Unit → InPlace α) :
    (edit fragment first >>= fun _ => edit fragment second >>= next) store =
      next () (store.put fragment (second (first (store.entry fragment)))) := by
  rw [run_edit_bind, run_edit_bind, put_put, entry_put, Function.update_self]

/-- A list becomes shorter when something of it is not kept. -/
theorem length_filter_bne {α : Type} (keeps : α → Bool) (items : List α) :
    ((items.filter keeps).length != items.length) =
      (items.find? fun item => !keeps item).isSome := by
  rw [Bool.eq_iff_iff, bne_iff_ne, Ne, List.length_filter_eq_length_iff, List.find?_isSome]
  simp

/-! ## Operations -/

/-- A blank value is refused before a number is given out and an entry made. -/
theorem run_addConstant (value : String) :
    addConstant fragment value store =
      match store.addConstant fragment value with
      | .ok (id, later) => (.ok id, later)
      | .error error => (.error error, store) := by
  rw [addConstant, ExampleStore.addConstant]
  by_cases blank : (Text.trimmed value).isEmpty
  · simp only [blank, if_true]
    rfl
  · simp only [blank]
    exact run_edit_edit_bind { store with nextConstant := store.nextConstant + 1 } fragment id
      (fun examples => examples.withConstant ⟨⟨store.nextConstant⟩, Text.trimmed value⟩)
      fun _ => (pure ⟨store.nextConstant⟩ : InPlace ConstantId)

/-- A removal in place answers and leaves what the removal from a store does. -/
theorem run_removeConstant (id : ConstantId) :
    removeConstant fragment id store =
      (.ok (store.removeConstant fragment id).1, (store.removeConstant fragment id).2) := by
  rw [removeConstant, run_find?_bind, ExampleStore.removeConstant]
  cases found : store.get? fragment with
  | none => rfl
  | some before =>
    obtain rfl := entry_of_get? found
    have fewer := length_filter_bne (fun constant => constant.id ≠ id) (store.entry fragment).constants
    dsimp only
    rw [run_edit_edit_bind]
    change (Except.ok (((store.put fragment _).entry fragment).constants.length != _), _) = _
    rw [entry_put, Function.update_self, fewer]
    simp [FragmentExamples.constant?, FragmentExamples.eraseConstant]

/-- A fact that is added in place has the same number and entry as one that is added to a store. -/
theorem run_addFact (atomId : AtomId) :
    addFact fragment atomId store =
      (.ok (store.addFact fragment atomId).1, (store.addFact fragment atomId).2) :=
  run_edit_edit_bind { store with nextFact := store.nextFact + 1 } fragment id
    (fun examples => examples.withFact ⟨⟨store.nextFact⟩, atomId, []⟩)
    fun _ => (pure ⟨store.nextFact⟩ : InPlace FactId)

/-- A removal of a fact in place answers and leaves what the removal from a store does. -/
theorem run_removeFact (id : FactId) :
    removeFact fragment id store =
      (.ok (store.removeFact fragment id).1, (store.removeFact fragment id).2) := by
  rw [removeFact, run_find?_bind, ExampleStore.removeFact]
  cases found : store.get? fragment with
  | none => rfl
  | some before =>
    obtain rfl := entry_of_get? found
    have fewer := length_filter_bne (fun fact => fact.id ≠ id) (store.entry fragment).facts
    dsimp only
    rw [run_edit_bind]
    change (Except.ok (((store.put fragment _).entry fragment).facts.length != _), _) = _
    rw [entry_put, Function.update_self, FragmentExamples.eraseFact, fewer]
    simp [FragmentExamples.fact?]

/-- An unknown constant or fact is refused before a binding is written. -/
theorem run_bind (fact : FactId) (variableName : String) (constant : Option ConstantId) :
    bind fragment fact variableName constant store =
      match store.bind fragment fact variableName constant with
      | .ok later => (.ok (), later)
      | .error error => (.error error, store) := by
  rw [InPlace.bind, run_find?_bind, ExampleStore.bind]
  cases found : store.get? fragment with
  | none => rfl
  | some examples =>
    obtain rfl := entry_of_get? found
    cases constant with
    | none =>
      by_cases missing : ((store.entry fragment).fact? fact).isNone
      · simp only [missing, Option.filter_none, if_true]
        rfl
      · simp only [missing, Option.filter_none]
        rfl
    | some id =>
      by_cases unknown : ((store.entry fragment).constant? id).isNone
      · simp only [unknown, Option.filter_some, if_true]
        rfl
      · by_cases missing : ((store.entry fragment).fact? fact).isNone
        · simp only [unknown, missing, Option.filter_some, if_true]
          rfl
        · simp only [unknown, missing, Option.filter_some]
          rfl

end InPlace

namespace ExampleStore

/-- Operations that are carried out in place answer what operations on whole stores answer, and leave
the stores that these make. -/
theorem perform_eq (store : ExampleStore) (fragment : FragmentId) (operation : ExampleOperation) :
    store.perform fragment operation =
      (store.answer fragment operation, store.after fragment operation) := by
  cases operation with
  | addConstant value =>
    rw [perform, InPlace.carryOut, InPlace.run_addConstant, answer, after]
    cases store.addConstant fragment value <;> rfl
  | removeConstant id => rw [perform, InPlace.carryOut, InPlace.run_removeConstant, answer, after]
  | addFact atomId => rw [perform, InPlace.carryOut, InPlace.run_addFact, answer, after]
  | removeFact id => rw [perform, InPlace.carryOut, InPlace.run_removeFact, answer, after]
  | bind fact variableName constant =>
    rw [perform, InPlace.carryOut, InPlace.run_bind, answer, after]
    cases store.bind fragment fact variableName constant <;> rfl
  | reset => rfl
  | load set atoms => rfl

end ExampleStore

end Statute
