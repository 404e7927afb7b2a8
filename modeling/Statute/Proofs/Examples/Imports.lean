import Statute.Proofs.Examples.Matching
import Statute.Proofs.Examples.Statements

/-!
# What imports say

An import appends one statement for each generated fact that is matched with an atom, and the
statement has the values of that fact: the trimmed ones, of which the last counts when a variable is
given several. Values go through constants that all facts of the fragment share, but no fact gets
the values of another. So the program of a fragment that was only imported into is made of the
matched facts. The import can be repeated without a constant being added.
-/

namespace Statute

open Logic Text

/-- A variable is bound to its new constant, and the others to what they were bound to. -/
theorem lookup_bindVariable (variableName name : String) (constant : ConstantId)
    (bindings : List (String × ConstantId)) :
    (bindVariable variableName constant bindings).lookup name =
      if name = variableName then some constant else bindings.lookup name := by
  fun_induction bindVariable variableName constant bindings with
  | case1 => rw [lookup_cons_eq_ite]
  | case2 bound rest =>
    rw [lookup_cons_eq_ite, lookup_cons_eq_ite]
    split <;> rfl
  | case3 first bound rest => rw [lookup_cons_eq_ite]
  | case4 first bound rest differs _ inductionHypothesis =>
    rw [lookup_cons_eq_ite, lookup_cons_eq_ite, inductionHypothesis]
    by_cases same : name = first
    · subst same
      rw [if_pos rfl, if_neg (Ne.symm differs), if_pos rfl]
    · rw [if_neg same, if_neg same]

namespace ExampleStore

open Relation

/-- The value that generated arguments give to a variable. The last one counts. -/
def importedValue? (arguments : List Binding) (variableName : String) : Option String :=
  (arguments.reverse.find? fun argument => argument.variableName = variableName).map
    fun argument => trimmed argument.value

/-- What a generated fact says of an atom. -/
def importedStatement (atom : Atom) (generated : ExampleFact) : Statement :=
  ⟨atom.id, importedValue? generated.arguments⟩

variable {store later : ExampleStore} {fragment : FragmentId} {admitted : String → Prop}

/-! ## Values -/

/-- The first argument counts for its variable only when no later one is for the same variable. -/
theorem importedValue?_cons (argument : Binding) (arguments : List Binding)
    (variableName : String) :
    importedValue? (argument :: arguments) variableName =
      (importedValue? arguments variableName).or
        (if variableName = argument.variableName then some (trimmed argument.value) else none) := by
  rw [importedValue?, List.reverse_cons, List.find?_append, Option.map_or]
  by_cases same : variableName = argument.variableName
  · simp [importedValue?, same]
  · simp [importedValue?, same, Ne.symm same]

/-- A variable that generated arguments mention gets a value. -/
theorem exists_importedValue? {arguments : List Binding} {variableName : String}
    (mentioned : ∃ argument ∈ arguments, argument.variableName = variableName) :
    ∃ value, importedValue? arguments variableName = some value := by
  obtain ⟨argument, member, same⟩ := mentioned
  apply Option.isSome_iff_exists.mp
  rw [importedValue?, Option.isSome_map, List.find?_isSome]
  exact ⟨argument, List.mem_reverse.mpr member, decide_eq_true same⟩

/-- The constant that is given for a value has this value. -/
theorem valueOf?_of_intern (consistent : store.IsConsistent) {value : String} {id : ConstantId}
    (interns : store.intern fragment value = (id, later)) :
    (later.entry fragment).valueOf? id = some value := by
  have interned : ReflTransGen (Adds fragment fun _ => True) store later ∧ _ :=
    intern_spec trivial interns
  obtain ⟨added, member⟩ := interned
  have nodup := (consistent.allAdds added).constants.nodup fragment
  exact FragmentExamples.valueOf?_of_mem nodup member

/-- Through the bindings of generated arguments, variables have the values that the arguments give,
and the others have what they had. -/
theorem internBindings_values (consistent : store.IsConsistent) {arguments : List Binding}
    {bindings bound : List (String × ConstantId)}
    (known : ∀ binding ∈ bindings, binding.2 ∈ (store.entry fragment).constantIds)
    (binds : store.internBindings fragment bindings arguments = (bound, later))
    (variableName : String) :
    (bound.lookup variableName >>= (later.entry fragment).valueOf?) =
      (importedValue? arguments variableName).or
        (bindings.lookup variableName >>= (store.entry fragment).valueOf?) := by
  induction arguments generalizing store bindings with
  | nil =>
    obtain ⟨rfl, rfl⟩ := Prod.mk.inj binds
    rfl
  | cons argument arguments inductionHypothesis =>
    rcases interns : store.intern fragment (trimmed argument.value) with ⟨id, next⟩
    rw [internBindings, interns] at binds
    have added : ReflTransGen (Adds fragment fun _ => True) store next :=
      (intern_spec trivial interns).1
    have nowKnown := known_bindVariable_of_intern interns known argument.variableName
    rw [inductionHypothesis (consistent.allAdds added) nowKnown binds, importedValue?_cons,
      Option.or_assoc, lookup_bindVariable]
    congr 1
    split
    next => exact valueOf?_of_intern consistent interns
    next =>
      have grows := constants_prefix_of_adds added
      exact FragmentExamples.lookup_bind_valueOf? grows known variableName

/-! ## Statements -/

/-- A generated fact that is added says what it says of its atom, and the facts before it say what
they said. -/
theorem statements_addGenerated (consistent : store.IsConsistent) (fragment : FragmentId)
    (atom : Atom) (generated : ExampleFact) :
    ((store.addGenerated fragment atom generated).entry fragment).statements =
      (store.entry fragment).statements ++ [importedStatement atom generated] := by
  rcases binds : store.internBindings fragment [] generated.arguments with ⟨bound, next⟩
  have added : ReflTransGen (Adds fragment fun _ => True) store next :=
    (internBindings_spec (fun _ _ => trivial) (List.forall_mem_nil _) binds).1
  have sameFacts : (next.entry fragment).facts = (store.entry fragment).facts := by
    simpa only [binds] using facts_internBindings store fragment [] generated.arguments
  have before : (next.entry fragment).statements = (store.entry fragment).statements :=
    FragmentExamples.statements_of_isPrefix (consistent.bindsOwn fragment)
      (constants_prefix_of_adds added) sameFacts
  have statement : (next.entry fragment).statementOf ⟨⟨next.nextFact⟩, atom.id, bound⟩ =
      importedStatement atom generated := by
    apply congrArg (Statement.mk atom.id)
    funext variableName
    rw [internBindings_values consistent (List.forall_mem_nil _) binds]
    exact Option.or_none
  rw [addGenerated_eq_pushFact atom binds, entry_pushFact, Function.update_self,
    FragmentExamples.statements_withFact, before, statement]

/-- Matched facts that are added one after another say what each of them says. -/
theorem statements_foldl_addGenerated (consistent : store.IsConsistent) (fragment : FragmentId)
    (matched : List (Atom × ExampleFact)) :
    ((matched.foldl (fun store (atom, generated) => store.addGenerated fragment atom generated)
      store).entry fragment).statements =
      (store.entry fragment).statements ++
        matched.map fun (atom, generated) => importedStatement atom generated := by
  induction matched generalizing store with
  | nil => exact (List.append_nil _).symm
  | cons pair matched inductionHypothesis =>
    have added : ReflTransGen (Adds fragment fun _ => True) store
        (store.addGenerated fragment pair.1 pair.2) :=
      (addGenerated_spec store fragment pair.1 fun _ _ => trivial).1
    rw [List.foldl_cons, inductionHypothesis (consistent.allAdds added),
      statements_addGenerated consistent, List.append_assoc]
    rfl

/-- After an import, a fragment says what it said and what the matched facts say. -/
theorem statements_loadGenerated (consistent : store.IsConsistent) (fragment : FragmentId)
    (set : ExampleSet) (atoms : List Atom) :
    ((store.loadGenerated fragment set atoms).2.entry fragment).statements =
      (store.entry fragment).statements ++
        (matchedFacts set atoms).map fun (atom, generated) => importedStatement atom generated := by
  have written : (store.put fragment (store.entry fragment)).IsConsistent :=
    consistent.changes (.edits .same : Changes fragment (fun _ => True) store _)
  have said := statements_foldl_addGenerated written fragment (matchedFacts set atoms)
  rwa [entry_put, Function.update_self] at said

/-! ## Repeated imports -/

/-- A value that is there is not added again. -/
theorem intern_of_names {value : String} (names : store.Names fragment value) :
    (store.intern fragment value).2 = store := by
  obtain ⟨constant, member, same⟩ := names
  rw [intern]
  split
  next => rfl
  next absent => exact absurd same (by simpa using List.find?_eq_none.mp absent constant member)

/-- When all its values are there, interning the arguments of a fact changes nothing. -/
theorem internBindings_of_names {arguments : List Binding}
    (names : ∀ argument ∈ arguments, store.Names fragment (trimmed argument.value))
    (bindings : List (String × ConstantId)) :
    (store.internBindings fragment bindings arguments).2 = store := by
  induction arguments generalizing bindings with
  | nil => rfl
  | cons argument arguments inductionHypothesis =>
    obtain ⟨first, rest⟩ := List.forall_mem_cons.mp names
    have same := intern_of_names first
    rcases interns : store.intern fragment (trimmed argument.value) with ⟨id, next⟩
    obtain rfl : next = store := by rwa [interns] at same
    rw [internBindings, interns]
    exact inductionHypothesis rest _

/-- A generated fact whose values are there adds no constant. -/
theorem constants_addGenerated_of_names {generated : ExampleFact}
    (names : ∀ argument ∈ generated.arguments, store.Names fragment (trimmed argument.value))
    (atom : Atom) :
    ((store.addGenerated fragment atom generated).entry fragment).constants =
      (store.entry fragment).constants := by
  have same := internBindings_of_names names []
  rcases binds : store.internBindings fragment [] generated.arguments with ⟨bound, next⟩
  obtain rfl : next = store := by rwa [binds] at same
  rw [addGenerated_eq_pushFact atom binds, entry_pushFact, Function.update_self]
  rfl

/-- Matched facts whose values are there add no constant. -/
theorem constants_foldl_addGenerated_of_names {matched : List (Atom × ExampleFact)}
    (names : ∀ pair ∈ matched, ∀ argument ∈ pair.2.arguments,
      store.Names fragment (trimmed argument.value)) :
    ((matched.foldl (fun store (atom, generated) => store.addGenerated fragment atom generated)
      store).entry fragment).constants = (store.entry fragment).constants := by
  induction matched generalizing store with
  | nil => rfl
  | cons pair matched inductionHypothesis =>
    obtain ⟨first, rest⟩ := List.forall_mem_cons.mp names
    have same := constants_addGenerated_of_names first pair.1
    rw [List.foldl_cons, inductionHypothesis, same]
    intro other member argument mentioned
    rw [Names, same]
    exact rest other member argument mentioned

/-- An import that is repeated adds no constant. -/
theorem constants_loadGenerated_again (store : ExampleStore) (fragment : FragmentId)
    (set : ExampleSet) (atoms : List Atom) :
    let loaded := (store.loadGenerated fragment set atoms).2
    ((loaded.loadGenerated fragment set atoms).2.entry fragment).constants =
      (loaded.entry fragment).constants := by
  intro loaded
  obtain ⟨-, names⟩ := after_load_spec store fragment set atoms
  have written : (loaded.put fragment (loaded.entry fragment)).entry = loaded.entry := by
    rw [entry_put, Function.update_eq_self]
  have kept := @constants_foldl_addGenerated_of_names
    (loaded.put fragment (loaded.entry fragment)) fragment (matchedFacts set atoms)
  rw [written] at kept
  apply kept
  intro pair matched argument member
  rw [Names, written]
  exact names _ ⟨pair, matched, argument, member, rfl⟩

/-! ## Programs of imports -/

/-- The line of a matched fact: the name of the atom and, for each argument of its predicate, the
value that the fact gives. -/
def IsImportedLine (matched : Atom × ExampleFact) (line : String) : Prop :=
  ∃ variableNames values,
    Predicate.arguments matched.1.predicate = .ok variableNames ∧
    List.Forall₂ (fun variableName value =>
      importedValue? matched.2.arguments variableName = some value) variableNames values ∧
    line = factText (writtenName matched.1.predicate) values

/-- The predicate of an atom can be read, and generated arguments mention all its variables. -/
def Supplies (matched : Atom × ExampleFact) : Prop :=
  ∃ variableNames, Predicate.arguments matched.1.predicate = .ok variableNames ∧
    ∀ variableName ∈ variableNames, ∃ argument ∈ matched.2.arguments,
      argument.variableName = variableName

/-- A matched fact that supplies values for all variables has a line. -/
theorem exists_isImportedLine {matched : Atom × ExampleFact} (supplies : Supplies matched) :
    ∃ line, IsImportedLine matched line := by
  obtain ⟨variableNames, arguments, mentioned⟩ := supplies
  have given : ∀ variableName ∈ variableNames,
      ∃ value, importedValue? matched.2.arguments variableName = some value :=
    fun variableName member => exists_importedValue? (mentioned variableName member)
  obtain ⟨values, each⟩ := exists_forall₂_of_forall_mem given
  exact ⟨_, variableNames, values, arguments, each, rfl⟩

/-- What a matched fact says is written as its line. -/
theorem isWritten_importedStatement {atoms : List Atom} (distinct : (atoms.map Atom.id).Nodup)
    {matched : Atom × ExampleFact} (member : matched.1 ∈ atoms) {line : String}
    (isLine : IsImportedLine matched line) :
    (importedStatement matched.1 matched.2).IsWritten atoms line := by
  obtain ⟨variableNames, values, arguments, each, rfl⟩ := isLine
  have found := find?_eq_some_of_nodup distinct member
  exact ⟨matched.1, variableNames, values, found, arguments, each, rfl⟩

/-- What matched facts say is written as their lines. -/
theorem isWritten_importedStatements {atoms : List Atom} (distinct : (atoms.map Atom.id).Nodup)
    {matched : List (Atom × ExampleFact)} (ofAtoms : ∀ pair ∈ matched, pair.1 ∈ atoms)
    {lines : List String} (each : List.Forall₂ IsImportedLine matched lines) :
    List.Forall₂ (Statement.IsWritten atoms)
      (matched.map fun (atom, generated) => importedStatement atom generated) lines := by
  rw [List.forall₂_map_left_iff]
  induction each with
  | nil => exact .nil
  | cons first _ inductionHypothesis =>
    obtain ⟨ofAtom, others⟩ := List.forall_mem_cons.mp ofAtoms
    exact .cons (isWritten_importedStatement distinct ofAtom first) (inductionHypothesis others)

/-- Importing into a fragment that has no entry, whatever was done to the store before: when the
matched facts supply values for all variables of their atoms, the program can be made, and it has
one line for each of these facts, in ascending order. The import tells how many they are, and adds
no constant when it is repeated. -/
theorem imports_are_rendered (operations : List (FragmentId × ExampleOperation))
    (fragment : FragmentId) (set : ExampleSet) (atoms : List Atom)
    (absent : (ExampleStore.empty.afterAll operations).get? fragment = none)
    (distinct : (atoms.map Atom.id).Nodup)
    (supplies : ∀ matched ∈ matchedFacts set atoms, Supplies matched) :
    let store := ExampleStore.empty.afterAll operations
    let loaded := (store.loadGenerated fragment set atoms).2
    (store.loadGenerated fragment set atoms).1 = (matchedFacts set atoms).length ∧
    (∃ lines sorted, List.Forall₂ IsImportedLine (matchedFacts set atoms) lines ∧
      sorted.Perm lines ∧ sorted.Pairwise (· ≤ ·) ∧
      loaded.factsProgram fragment atoms = .ok (joined "\n" sorted)) ∧
    ((loaded.loadGenerated fragment set atoms).2.entry fragment).constants =
      (loaded.entry fragment).constants := by
  intro store loaded
  have consistent : store.IsConsistent := IsConsistent.empty.afterAll operations
  have nothing : (store.entry fragment).statements = [] := by
    rw [entry, absent]
    rfl
  have statements : (loaded.entry fragment).statements = (matchedFacts set atoms).map
      fun (atom, generated) => importedStatement atom generated := by
    rw [statements_loadGenerated consistent, nothing, List.nil_append]
  have ofAtoms : ∀ matched ∈ matchedFacts set atoms, matched.1 ∈ atoms :=
    fun matched member => (matchingAtom?_eq_some (mem_matchedFacts_iff.mp member).2).1
  have haveLines : ∀ matched ∈ matchedFacts set atoms, ∃ line, IsImportedLine matched line :=
    fun matched member => exists_isImportedLine (supplies matched member)
  obtain ⟨lines, each⟩ := exists_forall₂_of_forall_mem haveLines
  have written := isWritten_importedStatements distinct ofAtoms each
  have sortedPerm := List.mergeSort_perm lines fun left right => left ≤ right
  refine ⟨rfl, ⟨lines, _, each, sortedPerm, pairwise_sortedLines lines, ?_⟩,
    constants_loadGenerated_again store fragment set atoms⟩
  exact factsProgram_eq_ok_iff.mpr
    ⟨lines, _, statements ▸ written, sortedPerm, pairwise_sortedLines lines, rfl⟩

/-- Atoms about birds. -/
def exampleBirdAtoms : List Atom :=
  [⟨3, 7, "bird(X)", "", false, true, []⟩, ⟨4, 7, " sees (X, Y)", "", false, true, []⟩]

/-- Facts about two birds, of which the first fact gives two values to one variable and the last one
matches no atom. -/
def exampleBirdSet : ExampleSet :=
  ⟨[⟨"Bob sees Tweety", [
      ⟨"sees(X, Y)", [⟨"X", "carol"⟩, ⟨"Y", " Tweety "⟩, ⟨"X", "bob"⟩]⟩,
      ⟨"bird(B)", [⟨"X", "Tweety"⟩]⟩]⟩,
    ⟨"Bob flies", [⟨"flies(X)", [⟨"X", "bob"⟩]⟩]⟩]⟩

/-- The two matched facts become two lines that share a constant. -/
theorem exampleBirdSet_rendered :
    let operations : List (FragmentId × ExampleOperation) := [(8, .addConstant "bob")]
    let store := ExampleStore.empty.afterAll operations
    let loaded := (store.loadGenerated 7 exampleBirdSet exampleBirdAtoms).2
    (store.get? 7 = none ∧ (exampleBirdAtoms.map Atom.id).Nodup ∧
      ∀ matched ∈ matchedFacts exampleBirdSet exampleBirdAtoms, Supplies matched) ∧
    (store.loadGenerated 7 exampleBirdSet exampleBirdAtoms).1 =
      (matchedFacts exampleBirdSet exampleBirdAtoms).length ∧
    (∃ lines sorted,
      List.Forall₂ IsImportedLine (matchedFacts exampleBirdSet exampleBirdAtoms) lines ∧
      sorted.Perm lines ∧ sorted.Pairwise (· ≤ ·) ∧
      loaded.factsProgram 7 exampleBirdAtoms = .ok (joined "\n" sorted)) ∧
    ((loaded.loadGenerated 7 exampleBirdSet exampleBirdAtoms).2.entry 7).constants =
      (loaded.entry 7).constants ∧
    loaded.entry 7 = ⟨[⟨⟨2⟩, "carol"⟩, ⟨⟨3⟩, "Tweety"⟩, ⟨⟨4⟩, "bob"⟩],
      [⟨⟨1⟩, 4, [("X", ⟨4⟩), ("Y", ⟨3⟩)]⟩, ⟨⟨2⟩, 3, [("X", ⟨3⟩)]⟩]⟩ := by
  intro operations store loaded
  have absent : store.get? 7 = none := by decide +kernel
  have distinct : (exampleBirdAtoms.map Atom.id).Nodup := by decide
  have matchedAre : matchedFacts exampleBirdSet exampleBirdAtoms =
      [(⟨4, 7, " sees (X, Y)", "", false, true, []⟩,
        ⟨"sees(X, Y)", [⟨"X", "carol"⟩, ⟨"Y", " Tweety "⟩, ⟨"X", "bob"⟩]⟩),
      (⟨3, 7, "bird(X)", "", false, true, []⟩, ⟨"bird(B)", [⟨"X", "Tweety"⟩]⟩)] := by
    decide +kernel
  have supplies : ∀ matched ∈ matchedFacts exampleBirdSet exampleBirdAtoms, Supplies matched := by
    rw [matchedAre]
    refine List.forall_mem_cons.mpr ⟨⟨["X", "Y"], by decide +kernel, by decide +kernel⟩, ?_⟩
    exact List.forall_mem_singleton.mpr ⟨["X"], by decide +kernel, by decide +kernel⟩
  obtain ⟨count, program, again⟩ :=
    imports_are_rendered operations 7 exampleBirdSet exampleBirdAtoms absent distinct supplies
  exact ⟨⟨absent, distinct, supplies⟩, count, program, again, by decide +kernel⟩

end ExampleStore

end Statute
