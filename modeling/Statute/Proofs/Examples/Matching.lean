import Statute.Proofs.Examples.Atomicity
import Statute.Proofs.Logic.HeadName

/-!
# Which atoms generated facts are matched with

A generated fact whose text is that of no atom is matched by the predicate name of its text, which
ends in front of the first upper-case letter. So it is attached to an atom whose name agrees with
its own up to there and may differ from it behind. Names in quotation marks are compared whole, and
so are names without upper-case letters.
-/

namespace Statute

open Logic Outline Text

/-- The name of the fact that a predicate text is read as, without blanks around it and with a
stop. -/
def statedName? (predicate : String) : Option String :=
  match parseClause (trimmed predicate ++ ".") with
  | .ok ⟨head, none⟩ => head.name?
  | _ => none

/-- The longest beginning of a name that has lower-case letters, digits and underscores only. -/
def lowerCaseRun (name : String) : List Char :=
  name.toList.takeWhile isPredicateCharacter

/-- An atom and a generated fact of these names have as many arguments, both texts begin with their
names, which are in no quotation marks, and the names agree up to the first upper-case letter in
either of them. -/
structure AlikeInLowerCase (atom : Atom) (generated : ExampleFact) (name given : String) :
    Prop where
  atomUnquoted : (trimmed atom.predicate).toList.head?.any isLowerLetter = true
  givenUnquoted : (trimmed generated.predicate).toList.head?.any isLowerLetter = true
  run : lowerCaseRun name = lowerCaseRun given
  arity : ∃ count, ExampleStore.generatedArity? generated = some count ∧
    Predicate.arity atom.predicate = .ok count

/-! ## Names of texts -/

/-- A name is stated by a predicate that is a clause when a stop is put behind it. -/
theorem exists_parse_of_statedName? {predicate name : String}
    (named : statedName? predicate = some name) :
    ∃ clause, parseClause (trimmed predicate ++ ".") = .ok clause ∧
      clause.head.name? = some name := by
  rw [statedName?] at named
  split at named
  next head parses => exact ⟨⟨head, none⟩, parses, named⟩
  next => cases named

/-- The predicate name of a text is a beginning of it, and empty only if the text is. -/
theorem head?_predicateName (text : String) :
    (predicateName text).toList.head? = text.toList.head? := by
  rw [predicateName]
  split
  next => rfl
  next nonempty =>
    cases spelled : text.toList with
    | nil => simp [spelled] at nonempty
    | cons first rest =>
      rw [spelled, List.takeWhile_cons] at nonempty
      split at nonempty
      next kept => simp [kept]
      next => exact absurd rfl nonempty

/-- A clause text that begins with no lower-case letter has its whole text as predicate name. -/
theorem predicateName_of_not_lower {text : String} {clause : Clause}
    (parses : parseClause (text ++ ".") = .ok clause)
    (notLower : ¬ text.toList.head?.any isLowerLetter = true) : predicateName text = text := by
  have refused : text.toList.takeWhile isPredicateCharacter = [] := by
    cases spelled : text.toList with
    | nil => rfl
    | cons first rest =>
      rw [List.takeWhile_cons_of_neg]
      intro kept
      have lower := lower_of_parseClause (toList_append_stop spelled)
        (isNameCharacter_of_isPredicateCharacter kept) parses
      exact notLower (by rw [spelled]; exact lower)
  rw [predicateName, refused]

/-- The name that a text begins with has the same beginning in lower case as the text. -/
theorem lowerCaseRun_of_lower {predicate name : String}
    (lower : (trimmed predicate).toList.head?.any isLowerLetter = true)
    (named : statedName? predicate = some name) :
    lowerCaseRun name = (trimmed predicate).toList.takeWhile isPredicateCharacter := by
  obtain ⟨clause, parses, has⟩ := exists_parse_of_statedName? named
  rw [name?_head_of_stopped lower parses] at has
  have both : ∀ character, (isPredicateCharacter character = true ∧
      isNameCharacter character = true) ↔ isPredicateCharacter character = true :=
    fun character => and_iff_left_of_imp isNameCharacter_of_isPredicateCharacter
  rw [← Option.some.inj has, lowerCaseRun, String.toList_ofList, List.takeWhile_takeWhile]
  simp only [both, Bool.decide_eq_true]

/-- Texts of facts that have the same predicate name are the same, or they begin with names that
agree in lower case. -/
theorem names_of_predicateName_eq {left right leftName rightName : String}
    (leftNamed : statedName? left = some leftName) (rightNamed : statedName? right = some rightName)
    (same : predicateName (trimmed left) = predicateName (trimmed right)) :
    trimmed left = trimmed right ∨
      (trimmed left).toList.head?.any isLowerLetter = true ∧
      (trimmed right).toList.head?.any isLowerLetter = true ∧
      lowerCaseRun leftName = lowerCaseRun rightName := by
  have heads := congrArg (fun name => name.toList.head?) same
  simp only [head?_predicateName] at heads
  by_cases lower : (trimmed left).toList.head?.any isLowerLetter = true
  case pos =>
    have rightLower := heads ▸ lower
    refine .inr ⟨lower, rightLower, ?_⟩
    rw [predicateName_of_lower lower, predicateName_of_lower rightLower] at same
    rw [lowerCaseRun_of_lower lower leftNamed, lowerCaseRun_of_lower rightLower rightNamed]
    exact String.ofList_injective same
  case neg =>
    obtain ⟨_, leftParses, _⟩ := exists_parse_of_statedName? leftNamed
    obtain ⟨_, rightParses, _⟩ := exists_parse_of_statedName? rightNamed
    rw [predicateName_of_not_lower leftParses lower,
      predicateName_of_not_lower rightParses (heads ▸ lower)] at same
    exact .inl same

/-! ## Matches -/

namespace ExampleStore

/-- A matching atom has the text of the generated fact, or else its predicate name and as many
arguments. -/
theorem matchingAtom?_eq_some {atoms : List Atom} {generated : ExampleFact} {atom : Atom}
    (found : matchingAtom? atoms generated = some atom) :
    atom ∈ atoms ∧ (trimmed atom.predicate = trimmed generated.predicate ∨
      predicateName (trimmed atom.predicate) = predicateName (trimmed generated.predicate) ∧
      ∃ count, generatedArity? generated = some count ∧
        Predicate.arity atom.predicate = .ok count) := by
  simp only [matchingAtom?] at found
  split at found
  next first sameText =>
    obtain rfl := Option.some.inj found
    exact ⟨List.mem_of_find?_eq_some sameText, .inl (by simpa using List.find?_some sameText)⟩
  next =>
    obtain ⟨count, counted, sameName⟩ := Option.bind_eq_some_iff.mp found
    have alike := List.find?_some sameName
    simp only [Bool.and_eq_true, decide_eq_true_eq, toOption_eq_some_iff] at alike
    exact ⟨List.mem_of_find?_eq_some sameName, .inr ⟨alike.1, count, counted, alike.2⟩⟩

/-- A generated fact is matched when an atom has its predicate name and as many arguments. -/
theorem exists_matchingAtom? {atoms : List Atom} {generated : ExampleFact} {atom : Atom}
    (member : atom ∈ atoms)
    (same : predicateName (trimmed atom.predicate) = predicateName (trimmed generated.predicate))
    {count : Nat} (counted : generatedArity? generated = some count)
    (arity : Predicate.arity atom.predicate = .ok count) :
    ∃ matched, matchingAtom? atoms generated = some matched := by
  simp only [matchingAtom?]
  split
  next first _ => exact ⟨first, rfl⟩
  next =>
    rw [counted]
    apply Option.isSome_iff_exists.mp
    apply List.find?_isSome.mpr
    refine ⟨atom, member, ?_⟩
    simp only [Bool.and_eq_true, decide_eq_true_eq, toOption_eq_some_iff]
    exact ⟨same, arity⟩

/-- A generated fact is matched with the atom that is found for it. -/
theorem mem_matchedFacts_iff {set : ExampleSet} {atoms : List Atom} {atom : Atom}
    {generated : ExampleFact} :
    (atom, generated) ∈ matchedFacts set atoms ↔
      generated ∈ set.examples.flatMap (·.facts) ∧ matchingAtom? atoms generated = some atom := by
  simp only [matchedFacts, List.mem_filterMap, Option.map_eq_some_iff, Prod.mk.injEq]
  constructor
  · rintro ⟨_, member, _, found, rfl, rfl⟩
    exact ⟨member, found⟩
  · rintro ⟨member, found⟩
    exact ⟨generated, member, atom, found, rfl, rfl⟩

/-- A matched atom has the name of the generated fact, or one that is alike in lower case. -/
theorem names_of_matchingAtom? {atoms : List Atom} {generated : ExampleFact} {atom : Atom}
    {name given : String} (found : matchingAtom? atoms generated = some atom)
    (named : statedName? atom.predicate = some name)
    (givenNamed : statedName? generated.predicate = some given) :
    name = given ∨ AlikeInLowerCase atom generated name given := by
  have sameName (sameText : trimmed atom.predicate = trimmed generated.predicate) :
      name = given := by
    rw [statedName?, sameText, ← statedName?, givenNamed] at named
    exact (Option.some.inj named).symm
  obtain ⟨-, sameText | ⟨samePredicateName, arity⟩⟩ := matchingAtom?_eq_some found
  · exact .inl (sameName sameText)
  · rcases names_of_predicateName_eq named givenNamed samePredicateName with
      sameText | ⟨lower, givenLower, run⟩
    · exact .inl (sameName sameText)
    · exact .inr ⟨lower, givenLower, run, arity⟩

/-- A generated fact is matched when an atom of a name that is alike in lower case is there. -/
theorem exists_matchingAtom?_of_alike {atoms : List Atom} {generated : ExampleFact}
    {atom : Atom} {name given : String} (alike : AlikeInLowerCase atom generated name given)
    (member : atom ∈ atoms) (named : statedName? atom.predicate = some name)
    (givenNamed : statedName? generated.predicate = some given) :
    ∃ matched, matchingAtom? atoms generated = some matched := by
  obtain ⟨count, counted, arity⟩ := alike.arity
  refine exists_matchingAtom? member ?_ counted arity
  rw [predicateName_of_lower alike.atomUnquoted, predicateName_of_lower alike.givenUnquoted,
    ← lowerCaseRun_of_lower alike.atomUnquoted named,
    ← lowerCaseRun_of_lower alike.givenUnquoted givenNamed, alike.run]

/-- An import adds a fact of an atom for each generated fact that is matched with an atom. The atom
has the name of the generated fact or one that is alike in lower case, and a fact is added whenever
an atom of such a name is there, whether one of the same name is there or not. -/
theorem imports_match_names_in_lower_case (store : ExampleStore) (fragment : FragmentId)
    (set : ExampleSet) (atoms : List Atom) :
    (∃ facts, ((store.loadGenerated fragment set atoms).2.entry fragment).facts =
        (store.entry fragment).facts ++ facts ∧
      facts.map Fact.atomId = (matchedFacts set atoms).map fun (atom, _) => atom.id) ∧
    ∀ atom ∈ atoms, ∀ generated ∈ set.examples.flatMap (·.facts), ∀ name given,
      statedName? atom.predicate = some name → statedName? generated.predicate = some given →
      ((atom, generated) ∈ matchedFacts set atoms →
        name = given ∨ AlikeInLowerCase atom generated name given) ∧
      (AlikeInLowerCase atom generated name given →
        ∃ matched ∈ atoms, (matched, generated) ∈ matchedFacts set atoms) := by
  constructor
  · obtain ⟨facts, ofAtoms, appended⟩ := exists_facts_foldl_addGenerated
      (store.put fragment (store.entry fragment)) fragment (matchedFacts set atoms)
    rw [entry_put, Function.update_self] at appended
    exact ⟨facts, appended, ofAtoms⟩
  · intro atom member generated listed name given named givenNamed
    constructor
    · intro matched
      exact names_of_matchingAtom? (mem_matchedFacts_iff.mp matched).2 named givenNamed
    · intro alike
      obtain ⟨matched, found⟩ := exists_matchingAtom?_of_alike alike member named givenNamed
      exact ⟨matched, (matchingAtom?_eq_some found).1, mem_matchedFacts_iff.mpr ⟨listed, found⟩⟩

/-- An atom about tails. -/
def exampleTail : Atom := ⟨1, 7, "hasTail(X)", "", false, true, []⟩

/-- A generated fact about wings. -/
def exampleWinged : ExampleFact := ⟨"hasWings(X)", [⟨"X", "tweety"⟩]⟩

/-- The fact about wings is alike in lower case to the atom about tails, and so it is matched. -/
theorem exampleWinged_matched :
    statedName? exampleTail.predicate = some "hasTail" ∧
      statedName? exampleWinged.predicate = some "hasWings" ∧
      AlikeInLowerCase exampleTail exampleWinged "hasTail" "hasWings" ∧
      ∃ matched ∈ [exampleTail],
        (matched, exampleWinged) ∈ matchedFacts ⟨[⟨"", [exampleWinged]⟩]⟩ [exampleTail] := by
  have named : statedName? exampleTail.predicate = some "hasTail" := by decide +kernel
  have given : statedName? exampleWinged.predicate = some "hasWings" := by decide +kernel
  have alike : AlikeInLowerCase exampleTail exampleWinged "hasTail" "hasWings" :=
    ⟨by decide +kernel, by decide +kernel, by decide +kernel, 1, by decide +kernel,
      by decide +kernel⟩
  obtain ⟨-, names⟩ := imports_match_names_in_lower_case empty 7 ⟨[⟨"", [exampleWinged]⟩]⟩
    [exampleTail]
  exact ⟨named, given, alike, (names exampleTail List.mem_cons_self exampleWinged
    (by decide) _ _ named given).2 alike⟩

/-- A generated fact can be attached to an atom of another name: the fact about wings becomes a fact
of the atom about tails, and the program says that something has a tail. -/
theorem exampleWinged_attached_to_tail :
    statedName? exampleTail.predicate = some "hasTail" ∧
      statedName? exampleWinged.predicate = some "hasWings" ∧
      (empty.loadGenerated 7 ⟨[⟨"", [exampleWinged]⟩]⟩ [exampleTail]).2.entry 7 =
        ⟨[⟨⟨1⟩, "tweety"⟩], [⟨⟨1⟩, exampleTail.id, [("X", ⟨1⟩)]⟩]⟩ := by
  decide +kernel

end ExampleStore

end Statute
