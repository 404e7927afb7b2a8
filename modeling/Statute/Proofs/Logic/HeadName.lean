import Statute.Logic.Outline
import Statute.Proofs.Logic.Naming

/-!
# The name of a clause's head

The head of a clause text that begins with a lower-case letter has the name that stands there. A
clause text begins with no other character of names, and no head is named by all of the text in
front of the stop unless a name begins there. So the predicate name of a text is the name of the
clause that the text makes with a stop exactly when the text begins with a name that has no
upper-case letter.
-/

namespace Statute.Logic

open Text

/-- A lower-case letter begins an atom, which has all characters of names behind it. -/
theorem scanToken?_of_lower {first : Char} {text : List Char}
    (lower : isLowerLetter first = true) :
    scanToken? (first :: text) =
      some (.atom (String.ofList ((first :: text).takeWhile isNameCharacter)),
        (first :: text).dropWhile isNameCharacter) := by
  rw [scanToken?_of_name (isNameCharacter_of_isLowerLetter lower)]
  simp only [scanWord?, lower, if_true]

/-- A text in which no layout comes first begins with the token that is scanned there. -/
theorem headToken?_of_tokenize {source : String} {first : Char} {text after : List Char}
    {token : Token} {lexemes : List Lexeme} (spelled : source.toList = first :: text)
    (scanned : scanToken? (first :: text) = some (token, after))
    (scans : tokenize source = .ok lexemes) : headToken? lexemes = some token := by
  have cut : splitLayout false (first :: text) = ([], first :: text) := by
    simp [splitLayout, not_layout_of_scanToken? scanned]
  rw [tokenize, spelled, scanFrom_eq, cut] at scans
  simp only [scanned] at scans
  obtain ⟨later, -, rfl⟩ := map_eq_ok_iff.mp scans
  rfl

namespace Reader

/-- A primary that begins with a name is a term with that name. -/
theorem name?_of_primary {levels : Nat} {cursor after : Cursor} {token : Token} {name : String}
    {term : Term} (next : cursor.peek? = some token) (named : termName? token = some name)
    (reads : primary levels cursor = .ok (term, after)) : term.name? = some name := by
  cases levels with
  | zero => cases reads
  | succ levels =>
    obtain ⟨inside, insideReads, -⟩ := exists_inside_of_primary reads
    have same : Cursor.peek? { cursor with depth := cursor.depth + 1 } = some token := next
    rw [primaryInside, same] at insideReads
    unfold termName? at named
    split at named
    next =>
      obtain rfl := Option.some.inj named
      exact name?_of_callable insideReads
    next =>
      obtain rfl := Option.some.inj named
      exact name?_of_callable insideReads
    next => cases named

/-- Variables and numbers are no terms that can be called. -/
theorem not_isCallable_of_primary {levels : Nat} {cursor after : Cursor} {token : Token}
    {spelling : String} {term : Term} (next : cursor.peek? = some token)
    (kind : token = .var spelling ∨ token = .number spelling)
    (reads : primary levels cursor = .ok (term, after)) : term.isCallable = false := by
  cases levels with
  | zero => cases reads
  | succ levels =>
    obtain ⟨inside, insideReads, -⟩ := exists_inside_of_primary reads
    have same : Cursor.peek? { cursor with depth := cursor.depth + 1 } = some token := next
    rw [primaryInside, same] at insideReads
    rcases kind with rfl | rfl
    · obtain ⟨rfl, -⟩ := Prod.mk.inj (Except.ok.inj insideReads)
      rfl
    · obtain ⟨rfl, -⟩ := Prod.mk.inj (Except.ok.inj insideReads)
      rfl

/-- The head of a clause is a primary that can be called. -/
theorem exists_primary_of_clause {cursor after : Cursor} {result : Clause}
    (reads : clause cursor = .ok (result, after)) :
    ∃ behind, primary (maximumDepth - cursor.depth) cursor = .ok (result.head, behind) ∧
      result.head.isCallable = true := by
  obtain ⟨⟨head, behind⟩, headReads, rest⟩ := bind_eq_ok_iff.mp reads
  dsimp only at rest
  split at rest
  next callable =>
    have sameHead : result.head = head := by
      split at rest
      next =>
        obtain ⟨last, -, fact⟩ := bind_eq_ok_iff.mp rest
        obtain ⟨rfl, -⟩ := Prod.mk.inj (Except.ok.inj fact)
        rfl
      next =>
        obtain ⟨value, -, closing⟩ := bind_eq_ok_iff.mp rest
        obtain ⟨last, -, rule⟩ := bind_eq_ok_iff.mp closing
        obtain ⟨rfl, -⟩ := Prod.mk.inj (Except.ok.inj rule)
        rfl
    rw [sameHead]
    exact ⟨behind, headReads, callable⟩
  next => cases rest

end Reader

/-- The head of a clause text is a primary that can be called, read from the first token on. -/
theorem exists_primary_of_parseClause {source : String} {clause : Clause}
    (parses : parseClause source = .ok clause) :
    ∃ lexemes cursor behind, tokenize source = .ok lexemes ∧ cursor.rest = lexemes ∧
      Reader.primary maximumDepth cursor = .ok (clause.head, behind) ∧
      clause.head.isCallable = true := by
  obtain ⟨lexemes, scans, rest⟩ := bind_eq_ok_iff.mp parses
  obtain ⟨⟨value, behind⟩, reads, ends⟩ := bind_eq_ok_iff.mp rest
  have same : value = clause := by
    dsimp only at ends
    split at ends
    next => exact Except.ok.inj ends
    next => cases ends
  obtain ⟨behindHead, headReads, callable⟩ := Reader.exists_primary_of_clause reads
  rw [same] at headReads callable
  exact ⟨lexemes, _, behindHead, scans, rfl, headReads, callable⟩

/-- A text that begins with a lower letter has it in front of the rest. -/
theorem exists_cons_of_lower {text : String}
    (lower : text.toList.head?.any isLowerLetter = true) :
    ∃ first rest, text.toList = first :: rest ∧ isLowerLetter first = true := by
  obtain ⟨first, head, lower⟩ := (Option.any_eq_true _ _).mp lower
  obtain ⟨rest, spelled⟩ := List.head?_eq_some_iff.mp head
  exact ⟨first, rest, spelled, lower⟩

/-- A stop behind a text comes behind all its characters. -/
theorem toList_append_stop {text : String} {first : Char} {rest : List Char}
    (spelled : text.toList = first :: rest) : (text ++ ".").toList = first :: (rest ++ ['.']) := by
  rw [String.toList_append, spelled]
  rfl

/-- A clause text that is a text with a stop and begins with a lower-case letter has a head with the
name that stands there. -/
theorem name?_head_of_stopped {text : String} {clause : Clause}
    (lower : text.toList.head?.any isLowerLetter = true)
    (parses : parseClause (text ++ ".") = .ok clause) :
    clause.head.name? = some (String.ofList (text.toList.takeWhile isNameCharacter)) := by
  obtain ⟨first, rest, spelled, lower⟩ := exists_cons_of_lower lower
  obtain ⟨lexemes, cursor, behind, scans, rfl, reads, -⟩ := exists_primary_of_parseClause parses
  have stop : (first :: (rest ++ ['.'])).takeWhile isNameCharacter =
      text.toList.takeWhile isNameCharacter := by
    rw [← List.cons_append, ← spelled, List.takeWhile_append]
    split
    next all =>
      rw [(List.takeWhile_prefix isNameCharacter).eq_of_length all]
      exact List.append_nil _
    next => rfl
  have next := headToken?_of_tokenize (toList_append_stop spelled) (scanToken?_of_lower lower) scans
  rw [stop] at next
  exact Reader.name?_of_primary next rfl reads

/-- A clause text begins with no variable and no number. -/
theorem lower_of_parseClause {source : String} {first : Char} {text : List Char} {clause : Clause}
    (spelled : source.toList = first :: text) (named : isNameCharacter first = true)
    (parses : parseClause source = .ok clause) : isLowerLetter first = true := by
  obtain ⟨lexemes, cursor, behind, scans, rfl, reads, callable⟩ :=
    exists_primary_of_parseClause parses
  by_contra notLower
  have scanned : scanToken? (first :: text) = scanWord? (first :: text) := scanToken?_of_name named
  rw [scanWord?, if_neg notLower] at scanned
  have refused : clause.head.isCallable = false := by
    cases starts : startsVariable first with
    | true =>
      rw [if_pos starts] at scanned
      exact Reader.not_isCallable_of_primary (headToken?_of_tokenize spelled scanned scans)
        (.inl rfl) reads
    | false =>
      have digit : isDigit first = true := by
        simpa [isNameCharacter, notLower, starts] using named
      rw [starts, if_neg Bool.false_ne_true, if_pos digit] at scanned
      exact Reader.not_isCallable_of_primary (headToken?_of_tokenize spelled scanned scans)
        (.inr rfl) reads
  rw [refused] at callable
  cases callable

/-- A token of the clause text spells the name of the head. -/
theorem exists_token_of_name?_head {source name : String} {clause : Clause}
    (parses : parseClause source = .ok clause) (named : clause.head.name? = some name) :
    ∃ before, ∃ token : Token, ∃ after, source.toList = before ++ (token.spelling.toList ++ after) ∧
      token.IsSpelled ∧ token.Names name := by
  obtain ⟨lexemes, cursor, behind, scans, rfl, reads, -⟩ := exists_primary_of_parseClause parses
  obtain ⟨lexeme, member, names⟩ := Reader.naming_primary _ reads name named
  obtain ⟨before, after, whole, scanned⟩ := exists_scanned_of_mem scans member
  exact ⟨before, lexeme.token, after, whole, isSpelled_of_scanToken? scanned, names⟩

/-- A clause has the whole text in front of its stop as a name only if that begins with a lower-case
letter. -/
theorem lower_of_name?_eq_text {text : String} {clause : Clause}
    (parses : parseClause (text ++ ".") = .ok clause) (named : clause.head.name? = some text) :
    text.toList.head?.any isLowerLetter = true := by
  obtain ⟨before, token, after, whole, spelled, names⟩ := exists_token_of_name?_head parses named
  rcases names with name | rfl
  · unfold termName? at name
    split at name
    next =>
      obtain rfl := Option.some.inj name
      exact spelled
    next spelling =>
      -- The name has lost the quotation marks, so the text would be longer than itself.
      obtain ⟨inside, quoted⟩ := spelled
      have same : text.toList = inside := by
        rw [← Option.some.inj name, Reader.unquote, String.toList_ofList, quoted]
        simp
      have lengths := congrArg List.length whole
      simp only [String.toList_append, same, Token.spelling, quoted, List.length_append,
        List.length_cons] at lengths
      have single : ".".toList.length = 1 := rfl
      omega
    next => cases name
  · -- An operator with a stop is no clause.
    have refused : ∀ spelling ∈ operatorSpellings,
        (parseClause (spelling ++ ".")).toOption = none := by
      decide +kernel
    have nothing := refused text spelled
    rw [parses] at nothing
    cases nothing

namespace Outline

/-- Every character that a name of a predicate may have is one that words may have. -/
theorem isNameCharacter_of_isPredicateCharacter {character : Char}
    (kept : isPredicateCharacter character = true) : isNameCharacter character = true := by
  simp only [isPredicateCharacter, Bool.or_eq_true, decide_eq_true_eq] at kept
  rcases kept with (lower | digit) | rfl
  · exact isNameCharacter_of_isLowerLetter lower
  · exact isNameCharacter_of_isDigit digit
  · rfl

/-- A text begins with a name of lower-case letters, digits and underscores, which has no upper-case
letter behind them. -/
structure BeginsPlainly (text : String) : Prop where
  lower : text.toList.head?.any isLowerLetter = true
  plain : ∀ character ∈ text.toList.takeWhile isNameCharacter,
    isPredicateCharacter character = true

instance (text : String) : Decidable (BeginsPlainly text) :=
  decidable_of_iff
    (text.toList.head?.any isLowerLetter = true ∧
      (text.toList.takeWhile isNameCharacter).all isPredicateCharacter = true)
    ⟨fun ⟨lower, plain⟩ => ⟨lower, List.all_eq_true.mp plain⟩,
      fun ⟨lower, plain⟩ => ⟨lower, List.all_eq_true.mpr plain⟩⟩

/-- The predicate name of a text that begins with a lower-case letter is a run of characters. -/
theorem predicateName_of_lower {text : String}
    (lower : text.toList.head?.any isLowerLetter = true) :
    predicateName text = String.ofList (text.toList.takeWhile isPredicateCharacter) := by
  obtain ⟨first, rest, spelled, lower⟩ := exists_cons_of_lower lower
  have kept : isPredicateCharacter first = true := by
    simp [isPredicateCharacter, lower]
  rw [predicateName, spelled, List.takeWhile_cons, if_pos kept]

/-- The predicate name of a text that begins plainly is the name that it begins with. -/
theorem predicateName_of_beginsPlainly {text : String} (plainly : BeginsPlainly text) :
    predicateName text = String.ofList (text.toList.takeWhile isNameCharacter) := by
  have ends : ∀ character ∈ (text.toList.dropWhile isNameCharacter).head?,
      isPredicateCharacter character = false := by
    intro character next
    have notNamed := List.head?_dropWhile_not isNameCharacter text.toList
    rw [next] at notNamed
    rw [Bool.eq_false_iff]
    intro kept
    exact absurd (isNameCharacter_of_isPredicateCharacter kept) (Bool.eq_false_iff.mp notNamed)
  have run := (takeWhile_append_of_ends plainly.plain ends).1
  rw [List.takeWhile_append_dropWhile] at run
  rw [predicateName_of_lower plainly.lower, run]

/-- A text whose predicate name is the name of the clause that it makes with a stop begins with a
lower-case letter. -/
theorem lower_of_name?_eq_predicateName {text : String} {clause : Clause}
    (parses : parseClause (text ++ ".") = .ok clause)
    (named : clause.head.name? = some (predicateName text)) :
    text.toList.head?.any isLowerLetter = true := by
  rw [predicateName] at named
  split at named
  next => exact lower_of_name?_eq_text parses named
  next nonempty =>
    cases spelled : text.toList with
    | nil =>
      rw [spelled] at nonempty
      exact absurd rfl nonempty
    | cons first rest =>
      have kept : isPredicateCharacter first = true := by
        by_contra refused
        rw [spelled, List.takeWhile_cons, if_neg refused] at nonempty
        exact nonempty rfl
      exact lower_of_parseClause (toList_append_stop spelled)
        (isNameCharacter_of_isPredicateCharacter kept) parses

/-- The predicate name of a text is the name of the clause that it makes with a stop exactly when
the text begins plainly. -/
theorem beginsPlainly_iff {text : String} {clause : Clause}
    (parses : parseClause (text ++ ".") = .ok clause) :
    BeginsPlainly text ↔ clause.head.name? = some (predicateName text) := by
  constructor
  · intro plainly
    rw [predicateName_of_beginsPlainly plainly]
    exact name?_head_of_stopped plainly.lower parses
  · intro named
    have lower := lower_of_name?_eq_predicateName parses named
    have same : text.toList.takeWhile isNameCharacter =
        text.toList.takeWhile isPredicateCharacter := by
      rw [name?_head_of_stopped lower parses, predicateName_of_lower lower] at named
      exact String.ofList_injective (Option.some.inj named)
    refine ⟨lower, ?_⟩
    intro character member
    rw [same] at member
    exact List.mem_takeWhile_imp member

end Outline

end Statute.Logic
