import Statute.Proofs.Logic.Progress
import Statute.Proofs.Logic.Reading
import Statute.Proofs.Logic.Scanning
import Statute.Proofs.Logic.Spelling

/-!
# Where the names of terms come from

The name of a term that is read from tokens is spelled by one of them: by a name, or by the operator
between two operands. Scanned tokens are spelled as their kinds say, so a name is a word, stands in
quotation marks or is an operator.
-/

namespace Statute.Logic

open Text

/-- A token can name a term: it is a name, or the operator of a compound term. -/
def Token.Names (token : Token) (name : String) : Prop :=
  termName? token = some name ∨ token = .operator name

/-- What is known of the spellings of tokens that can name a term. -/
def Token.IsSpelled : Token → Prop
  | .atom spelling => spelling.toList.head?.any isLowerLetter = true
  | .quotedAtom spelling => ∃ inside, spelling.toList = '\'' :: (inside ++ ['\''])
  | .operator spelling => spelling ∈ operatorSpellings
  | _ => True

/-- An operator that begins a text has one of the known spellings. -/
theorem isSpelled_of_scanOperator? {text after : List Char} {token : Token}
    (scanned : scanOperator? text = some (token, after)) : token.IsSpelled := by
  obtain ⟨spelling, listed, found⟩ := List.exists_of_findSome?_eq_some scanned
  obtain ⟨rest, -, same⟩ := Option.map_eq_some_iff.mp found
  obtain ⟨rfl, -⟩ := Prod.mk.inj same
  exact listed

/-- A word or a number that begins a text is spelled as its kind says: an atom begins with a lower
letter. -/
theorem isSpelled_of_scanWord? {text after : List Char} {token : Token}
    (scanned : scanWord? text = some (token, after)) : token.IsSpelled := by
  cases text with
  | nil => cases scanned
  | cons first rest =>
    simp only [scanWord?] at scanned
    split at scanned
    next lower =>
      obtain ⟨rfl, -⟩ := Prod.mk.inj (Option.some.inj scanned)
      have named := isNameCharacter_of_isLowerLetter lower
      simp only [Token.IsSpelled, String.toList_ofList, List.takeWhile_cons, named, if_true,
        List.head?_cons, Option.any_some, lower]
    next =>
      split at scanned
      next =>
        obtain ⟨rfl, -⟩ := Prod.mk.inj (Option.some.inj scanned)
        trivial
      next =>
        split at scanned
        next =>
          obtain ⟨rfl, -⟩ := Prod.mk.inj (Option.some.inj scanned)
          trivial
        next => cases scanned

/-- Scanned tokens are spelled as their kinds say. -/
theorem isSpelled_of_scanToken? {text after : List Char} {token : Token}
    (scanned : scanToken? text = some (token, after)) : token.IsSpelled := by
  unfold scanToken? at scanned
  split at scanned
  case h_11 rest =>
    obtain ⟨⟨inside, behind⟩, -, same⟩ := Option.map_eq_some_iff.mp scanned
    obtain ⟨rfl, -⟩ := Prod.mk.inj same
    exact ⟨inside, String.toList_ofList⟩
  case h_12 rest =>
    obtain ⟨⟨inside, behind⟩, -, same⟩ := Option.map_eq_some_iff.mp scanned
    obtain ⟨rfl, -⟩ := Prod.mk.inj same
    trivial
  case h_13 =>
    rcases Option.or_eq_some_iff.mp scanned with operator | ⟨-, word⟩
    · exact isSpelled_of_scanOperator? operator
    · exact isSpelled_of_scanWord? word
  all_goals
    obtain ⟨rfl, -⟩ := Prod.mk.inj (Option.some.inj scanned)
    trivial

/-- A term has its name, if any, from one of the tokens behind a place. -/
def NamedFrom (cursor : Cursor) (term : Term) : Prop :=
  ∀ name, term.name? = some name → ∃ lexeme ∈ cursor.rest, lexeme.token.Names name

/-- Tokens behind a later place are also behind an earlier one. -/
theorem NamedFrom.of_behind {cursor after : Cursor} {term : Term} (behind : cursor.Behind after)
    (named : NamedFrom after term) : NamedFrom cursor term := by
  intro name has
  obtain ⟨lexeme, member, names⟩ := named name has
  exact ⟨lexeme, behind.rest.subset member, names⟩

/-- The token that comes next is one of those that are left. -/
theorem Cursor.exists_lexeme_of_peek? {cursor : Cursor} {token : Token}
    (next : cursor.peek? = some token) : ∃ lexeme ∈ cursor.rest, lexeme.token = token := by
  obtain ⟨lexeme, head, same⟩ := Option.map_eq_some_iff.mp next
  exact ⟨lexeme, List.mem_of_mem_head? head, same⟩

namespace Reader

/-- What is read behind a name is a term with that name. -/
theorem name?_of_callable {primary : Reader Term} {name : String} {cursor after : Cursor}
    {term : Term} (reads : callable primary name cursor = .ok (term, after)) :
    term.name? = some name := by
  rw [callable] at reads
  split at reads
  next =>
    obtain ⟨rfl, -⟩ := Prod.mk.inj (Except.ok.inj reads)
    rfl
  next =>
    obtain ⟨values, -, closing⟩ := bind_eq_ok_iff.mp reads
    obtain ⟨last, -, result⟩ := bind_eq_ok_iff.mp closing
    obtain ⟨rfl, -⟩ := Prod.mk.inj (Except.ok.inj result)
    rfl

/-- What is read behind a token that names a term has its name from there. -/
theorem namedFrom_callable {primary : Reader Term} {cursor start after : Cursor} {token : Token}
    {name : String} {term : Term} (next : cursor.peek? = some token)
    (named : termName? token = some name)
    (reads : callable primary name start = .ok (term, after)) : NamedFrom cursor term := by
  intro found has
  obtain ⟨lexeme, member, same⟩ := Cursor.exists_lexeme_of_peek? next
  rw [name?_of_callable reads] at has
  obtain rfl := Option.some.inj has
  exact ⟨lexeme, member, .inl (by rw [same]; exact named)⟩

/-- Lists have no name. -/
theorem name?_of_list {primary : Reader Term} {cursor after : Cursor} {term : Term}
    (reads : list primary cursor = .ok (term, after)) : term.name? = none := by
  rw [list] at reads
  split at reads
  next =>
    obtain ⟨rfl, -⟩ := Prod.mk.inj (Except.ok.inj reads)
    rfl
  next =>
    obtain ⟨⟨items, behindItems⟩, -, later⟩ := bind_eq_ok_iff.mp reads
    dsimp only at later
    split at later
    next =>
      obtain ⟨closed, -, result⟩ := bind_eq_ok_iff.mp later
      obtain ⟨rfl, -⟩ := Prod.mk.inj (Except.ok.inj result)
      rfl
    next =>
      obtain ⟨⟨tail, behindTail⟩, -, closing⟩ := bind_eq_ok_iff.mp later
      obtain ⟨closed, -, result⟩ := bind_eq_ok_iff.mp closing
      obtain ⟨rfl, -⟩ := Prod.mk.inj (Except.ok.inj result)
      rfl

/-- Operators name the terms that they make, which else are named like the first operand. -/
theorem namedFrom_operations {operand : Reader Term} (forward : Forward operand)
    {spellings : List String} {bound : Nat} {left term : Term} {start cursor after : Cursor}
    (behind : start.Behind cursor) (named : NamedFrom start left)
    (reads : operations spellings operand bound left cursor = .ok (term, after)) :
    NamedFrom start term := by
  induction bound generalizing left cursor with
  | zero =>
    obtain ⟨rfl, -⟩ := Prod.mk.inj (Except.ok.inj reads)
    exact named
  | succ bound inductionHypothesis =>
    rw [operations] at reads
    split at reads
    next spelling next =>
      split at reads
      next =>
        obtain ⟨⟨right, behindRight⟩, rightReads, later⟩ := bind_eq_ok_iff.mp reads
        have further := behind.trans (cursor.behind_advance.trans (forward rightReads))
        refine inductionHypothesis further ?_ later
        rintro name ⟨⟩
        obtain ⟨lexeme, member, same⟩ := Cursor.exists_lexeme_of_peek? next
        exact ⟨lexeme, behind.rest.subset member, .inr same⟩
      next =>
        obtain ⟨rfl, -⟩ := Prod.mk.inj (Except.ok.inj reads)
        exact named
    next =>
      obtain ⟨rfl, -⟩ := Prod.mk.inj (Except.ok.inj reads)
      exact named

/-- A reader names its terms by tokens behind the place that it begins at. -/
def Naming (reader : Reader Term) : Prop :=
  ∀ ⦃cursor after : Cursor⦄ ⦃term : Term⦄, reader cursor = .ok (term, after) →
    NamedFrom cursor term

/-- Operands are named by the first of them or by the last operator. -/
theorem Naming.operandsWith {operand : Reader Term} (naming : Naming operand)
    (forward : Forward operand) (spellings : List String) :
    Naming (Reader.operandsWith spellings operand) := by
  intro cursor after term reads
  obtain ⟨⟨left, behindLeft⟩, leftReads, later⟩ := bind_eq_ok_iff.mp reads
  exact namedFrom_operations forward (forward leftReads) (naming leftReads) later

/-- Sums are named by tokens when primaries are. -/
theorem Naming.sum {primary : Reader Term} (naming : Naming primary)
    (forward : Forward primary) : Naming (Reader.sum primary) :=
  (naming.operandsWith forward _).operandsWith (forward.operandsWith _) _

/-- A primary is named by its first token or by a token inside its parentheses. Variables, numbers,
strings and lists have no name. -/
theorem Naming.primaryInside {primary : Reader Term} (naming : Naming primary)
    (forward : Forward primary) : Naming (Reader.primaryInside primary) := by
  intro cursor after term reads
  rw [Reader.primaryInside] at reads
  split at reads
  next =>
    obtain ⟨rfl, -⟩ := Prod.mk.inj (Except.ok.inj reads)
    rintro name ⟨⟩
  next =>
    obtain ⟨rfl, -⟩ := Prod.mk.inj (Except.ok.inj reads)
    rintro name ⟨⟩
  next =>
    split at reads
    next =>
      obtain ⟨rfl, -⟩ := Prod.mk.inj (Except.ok.inj reads)
      rintro name ⟨⟩
    next => cases reads
  next =>
    obtain ⟨rfl, -⟩ := Prod.mk.inj (Except.ok.inj reads)
    rintro name ⟨⟩
  next spelling next => exact namedFrom_callable next rfl reads
  next spelling next => exact namedFrom_callable next rfl reads
  next =>
    intro name has
    rw [name?_of_list reads] at has
    cases has
  next =>
    obtain ⟨⟨inner, behindInner⟩, innerReads, later⟩ := bind_eq_ok_iff.mp reads
    obtain ⟨closed, -, result⟩ := bind_eq_ok_iff.mp later
    obtain ⟨rfl, -⟩ := Prod.mk.inj (Except.ok.inj result)
    exact (naming.sum forward innerReads).of_behind cursor.behind_advance
  next => cases reads

/-- Primaries are named by their tokens, however many levels they may open. -/
theorem naming_primary (levels : Nat) : Naming (primary levels) := by
  induction levels with
  | zero =>
    intro cursor after term reads
    cases reads
  | succ levels inductionHypothesis =>
    intro cursor after term reads
    obtain ⟨inside, insideReads, -⟩ := exists_inside_of_primary reads
    -- Opening a level leaves the tokens as they are.
    have named := inductionHypothesis.primaryInside (forward_primary levels) insideReads
    exact named

end Reader

end Statute.Logic
