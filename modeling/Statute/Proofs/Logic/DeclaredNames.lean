import Statute.Proofs.Logic.ArgumentTexts
import Statute.Proofs.Logic.CommentedText
import Statute.Regulation.Atom

/-!
# Names in the declarations of predicates

A predicate is declared with what stands in its text in front of the first parenthesis, while
readers find the name of its head among the tokens. On one line both are the same unless the whole
predicate stands in parentheses, or a comment follows a name that has no arguments. The number of
arguments is found in the text when it begins with the name and has no comment.
-/

namespace Statute.Logic

open Grammar Predicate Text

/-- The name that a predicate is declared with. -/
def declaredName (predicate : String) : String :=
  String.ofList (trim (nameText (trim predicate.toList)))

/-- The declared name has no characters that the trimmed predicate does not have. -/
theorem declaredName_subset (predicate : String) :
    (declaredName predicate).toList ⊆ trim predicate.toList := by
  rw [declaredName, String.toList_ofList]
  exact List.Subset.trans (isInfix_trim _).subset (List.takeWhile_prefix _).subset

/-- A name and the layout around it are trimmed to the name. -/
theorem trim_of_scans_name {text : List Char} {name : String}
    (judged : Scans text [.atom name] []) : trim text = name.toList := by
  have named := (@atom_of_scans text [] [] [] name judged).2
  obtain ⟨before, after, rfl, beforeBlank, -, nothing⟩ := judged.exists_place
  obtain ⟨behind, rfl, behindBlank⟩ := nothing.exists_layout
  rw [List.append_nil, trim_append_left fun character member =>
    isBlank_of_layout (beforeBlank character member), trim_append_right fun character member =>
    isBlank_of_layout (behindBlank character member)]
  exact trim_eq_self fun character member => not_isBlank_of_isNameCharacter (named character member)

/-- Layout alone is trimmed to nothing. -/
theorem trim_of_scans_nothing {text : List Char} (judged : Scans text [] []) : trim text = [] := by
  obtain ⟨layout, same, layoutOnly⟩ := judged.exists_layout
  rw [List.append_nil] at same
  subst same
  have blank : AllBlank text := fun character member =>
    isBlank_of_layout (layoutOnly character member)
  exact List.isEmpty_iff.mp (isEmpty_trim_iff.mpr blank)

/-- In front of the first parenthesis there are the tokens that stand before its own. -/
theorem scans_nameText {code : List Char} {before after : List Token}
    (judged : Scans code (before ++ .openParen :: after) [])
    (none : ∀ token ∈ before, '(' ∉ token.spelling.toList) (behind : List Char) :
    Scans (nameText (code ++ behind)) before [] := by
  obtain ⟨front, rest, rfl, frontJudged, -⟩ := judged.exists_cut
  have cut : nameText (front ++ (Token.openParen.spelling.toList ++ rest) ++ behind) = front := by
    rw [List.append_assoc, nameText,
      List.takeWhile_append_of_pos (unopened_of_scans frontJudged none)]
    simp [Token.spelling]
  rwa [cut]

/-- Where a comment begins in front of the first parenthesis, it is declared with the name. -/
theorem passes_nameText_comment {code comment : List Char} {tokens : List Token}
    (judged : Scans code tokens []) (unopened : ∀ character ∈ code, (character != '(') = true)
    (oneLine : '\n' ∉ code ++ '%' :: comment) :
    Passes false (trim (nameText (code ++ '%' :: comment))) tokens true [] := by
  have cut : nameText (code ++ '%' :: comment) = code ++ '%' :: nameText comment := by
    rw [nameText, List.takeWhile_append_of_pos unopened]
    rfl
  have sameLine : '\n' ∉ nameText comment := fun inside =>
    oneLine (List.mem_append_right _
      (List.mem_cons_of_mem _ ((List.takeWhile_prefix _).subset inside)))
  have apart : EndsTokens ('%' :: nameText comment) := by
    right
    rintro _ ⟨⟩
    decide
  have inComment := Passes.comment sameLine []
  rw [List.append_nil] at inComment
  have passes := (judged.passes.inFrontOf apart).append (.opens inComment)
  rw [List.append_nil] at passes
  obtain ⟨lastIn, trimmed, still⟩ := passes.exists_trim
  obtain rfl := still rfl
  rwa [cut]

/-- The tokens of a term with a name, where no token is a quoted atom: the name alone, the name and
arguments in parentheses, or a term in parentheses. -/
theorem tokens_of_named {tokens : List Token} {head : Term} {name : String}
    (derives : IsPrimary maximumDepth tokens head) (named : head.name? = some name)
    (unquoted : ∀ spelling, .quotedAtom spelling ∉ tokens) :
    (tokens = [.atom name] ∧ head = .atom name) ∨
      (∃ inside arguments, tokens = .atom name :: .openParen :: inside ++ [.closeParen] ∧
        head = .compound name arguments ∧
        AreGoals (IsPrimary (maximumDepth - 1)) inside arguments) ∨
      ∃ inside, tokens = .openParen :: inside ++ [.closeParen] := by
  have inside : InPrimary (IsPrimary (maximumDepth - 1)) tokens head := derives
  cases inside with
  | atom names =>
    obtain rfl := Option.some.inj named
    cases names with
    | atom => exact .inl ⟨rfl, rfl⟩
    | quoted => exact absurd List.mem_cons_self (unquoted _)
  | compound names goals =>
    obtain rfl := Option.some.inj named
    cases names with
    | atom => exact .inr (.inl ⟨_, _, rfl, rfl, goals⟩)
    | quoted => exact absurd List.mem_cons_self (unquoted _)
  | grouped => exact .inr (.inr ⟨_, rfl⟩)
  | _ => cases named

/-- The number of arguments of a compound term is found in its text. -/
theorem arity_of_compound {text name : String} {inside : List Token} {arguments : List Term}
    (judged : Scans text.toList (.atom name :: .openParen :: inside ++ [.closeParen]) [])
    (goals : AreGoals (IsPrimary (maximumDepth - 1)) inside arguments)
    (unquoted : '\'' ∉ text.toList ∧ '"' ∉ text.toList) : arity text = .ok arguments.length := by
  have nonempty : inside ≠ [] := by
    rintro rfl
    cases goals.beginsTerm (IsGoal.beginsTerm IsPrimary.beginsTerm)
  obtain ⟨content, ofText, contentJudged, found⟩ := exists_content judged nonempty
  have pieces := exists_pieces (KeepsLevel.isPrimary _) goals contentJudged
    ⟨mt (ofText _) unquoted.1, mt (ofText _) unquoted.2⟩
  rw [arity, found, Except.map, List.length_map, List.length_map, pieces.length_eq]

/-! ## Atoms with heads -/

/-- An atom whose predicate is, in front of a stop, the text of a fact. The text has no quotation
marks, and the head of the fact has a plain name. -/
structure HeadedAtom extends Atom where
  head : Term
  name : String
  parses : parseClause (predicate ++ ".") = .ok ⟨head, none⟩
  named : head.name? = some name
  plain : Examples.isPlainName name.toList = true
  unquoted : '\'' ∉ predicate.toList ∧ '"' ∉ predicate.toList

namespace HeadedAtom

variable {atom : HeadedAtom}

/-- The name of the head is one token. -/
theorem scans_name (atom : HeadedAtom) : Scans atom.name.toList [.atom atom.name] [] := by
  have ends : EndsWord [] := ⟨by rintro _ ⟨⟩, by rintro _ ⟨⟩, by rintro _ _ ⟨⟩⟩
  have spelled := spells_plainName atom.plain ends
  rwa [List.append_nil] at spelled

/-- On one line the tokens of the head stand in front of a comment, if there is one. A stop may
stand between the head and the comment, since the stop behind the predicate is then a part of the
comment. -/
theorem exists_code (atom : HeadedAtom) (oneLine : '\n' ∉ trim atom.predicate.toList) :
    ∃ code behind tokens stops, trim atom.predicate.toList = code ++ behind ∧
      Scans code (tokens ++ stops) [] ∧ IsPrimary maximumDepth tokens atom.head ∧
      (behind = [] ∧ stops = [] ∨
        ∃ comment, behind = '%' :: comment ∧ (stops = [] ∨ stops = [.stop])) := by
  obtain ⟨all, stillIn, passes, derives⟩ := parseClause_eq_ok_iff_passes.mp atom.parses
  have stopped : (atom.predicate ++ ".").toList = atom.predicate.toList ++ ['.'] := by simp
  rw [stopped] at passes
  cases derives with
  | @fact tokens _ begins =>
    rcases passes.of_append_stop with inComment | ⟨front, same, within⟩
    · obtain ⟨lastIn, trimmed, still⟩ := inComment.exists_trim
      rcases trimmed.scans_or_comment oneLine with
        ⟨outside, -⟩ | ⟨-, code, comment, whole, judged⟩
      · rw [still rfl] at outside
        cases outside
      · exact ⟨code, _, tokens, [.stop], whole, judged, begins, .inr ⟨comment, rfl, .inr rfl⟩⟩
    · obtain rfl := List.append_cancel_right same
      obtain ⟨lastIn, trimmed, -⟩ := within.exists_trim
      rcases trimmed.scans_or_comment oneLine with
        ⟨-, judged⟩ | ⟨-, code, comment, whole, judged⟩
      · refine ⟨_, [], tokens, [], (List.append_nil _).symm, ?_, begins, .inl ⟨rfl, rfl⟩⟩
        rwa [List.append_nil]
      · refine ⟨code, _, tokens, [], whole, ?_, begins, .inr ⟨comment, rfl, .inl rfl⟩⟩
        rwa [List.append_nil]

/-- The name of the head has no parenthesis, so it ends in front of the first one. -/
theorem openParen_not_mem_name (atom : HeadedAtom) : '(' ∉ atom.name.toList := by
  obtain ⟨first, others, shape, lower, named⟩ := Examples.exists_of_isPlainName atom.plain
  have allNamed : ∀ character ∈ first :: others, isNameCharacter character = true :=
    List.forall_mem_cons.mpr ⟨isNameCharacter_of_isLowerLetter lower, named⟩
  exact fun inside => absurd (allNamed '(' (shape ▸ inside)) (by decide)

/-- No token in the text of the predicate is a quoted atom. -/
theorem quotedAtom_not_mem (atom : HeadedAtom) {code behind : List Char} {tokens : List Token}
    (whole : trim atom.predicate.toList = code ++ behind) (judged : Scans code tokens [])
    (spelling : String) : .quotedAtom spelling ∉ tokens := by
  intro listed
  obtain ⟨before, after, rfl⟩ := List.append_of_mem listed
  have inTrimmed : '\'' ∈ trim atom.predicate.toList :=
    whole ▸ List.mem_append_left _ (quote_mem_of_scans judged)
  exact atom.unquoted.1 ((isInfix_trim _).subset inTrimmed)

/-- On one line a predicate is declared with the name of its head, except when a parenthesis stands
in front of the name, where there is nothing to declare, or when there are no arguments but a
comment, which is then declared with the name. -/
theorem declaredName_cases (atom : HeadedAtom) (oneLine : '\n' ∉ trim atom.predicate.toList) :
    declaredName atom.predicate = atom.name ∨ declaredName atom.predicate = "" ∨
      ∃ stops, (stops = [] ∨ stops = [.stop]) ∧
        Passes false (declaredName atom.predicate).toList (.atom atom.name :: stops) true [] := by
  obtain ⟨code, behind, tokens, stops, whole, judged, derives, ends⟩ := atom.exists_code oneLine
  have unquoted (spelling : String) : .quotedAtom spelling ∉ tokens := fun listed =>
    atom.quotedAtom_not_mem whole judged spelling (List.mem_append_left _ listed)
  have noParen := atom.openParen_not_mem_name
  rw [declaredName, whole]
  rcases tokens_of_named derives atom.named unquoted with
    ⟨rfl, -⟩ | ⟨inside, arguments, rfl, -, -⟩ | ⟨inside, rfl⟩
  · have unopened := unopened_of_scans judged (by
      rcases ends with ⟨-, rfl⟩ | ⟨-, -, rfl | rfl⟩ <;> simpa [Token.spelling] using noParen)
    rcases ends with ⟨rfl, rfl⟩ | ⟨comment, rfl, stopped⟩
    · left
      have kept : nameText code = code := List.takeWhile_eq_self_iff.mpr unopened
      rw [List.append_nil] at judged ⊢
      rw [kept, trim_of_scans_name judged, String.ofList_toList]
    · right; right
      rw [whole] at oneLine
      rw [String.toList_ofList]
      exact ⟨stops, stopped, passes_nameText_comment judged unopened oneLine⟩
  · left
    have nameJudged := @scans_nameText _ [.atom atom.name] _ judged
      (by simpa [Token.spelling] using noParen) behind
    rw [trim_of_scans_name nameJudged, String.ofList_toList]
  · right; left
    have nothing := @scans_nameText _ [] _ judged (List.forall_mem_nil _) behind
    rw [trim_of_scans_nothing nothing]

/-- The trimmed predicate begins with a lower-case letter, has no comment and stands on one line. -/
structure BeginsWithName (atom : HeadedAtom) : Prop where
  lower : (trim atom.predicate.toList).head?.any isLowerLetter = true
  uncommented : '%' ∉ trim atom.predicate.toList
  oneLine : '\n' ∉ trim atom.predicate.toList

/-- It is declared with the name of its head. -/
theorem BeginsWithName.declaredName_eq (begins : atom.BeginsWithName) :
    declaredName atom.predicate = atom.name := by
  rcases atom.declaredName_cases begins.oneLine with same | nothing | ⟨stops, -, inComment⟩
  · exact same
  · obtain ⟨first, found, lower⟩ := (Option.any_eq_true _ _).mp begins.lower
    obtain ⟨rest, shape⟩ := List.head?_eq_some_iff.mp found
    have notParen : first ≠ '(' := by
      rintro rfl
      cases lower
    have inName : first ∈ nameText (trim atom.predicate.toList) := by
      simp [shape, nameText, notParen]
    have blank : AllBlank (nameText (trim atom.predicate.toList)) :=
      isEmpty_trim_iff.mp (List.isEmpty_iff.mpr (String.ofList_eq_empty_iff.mp nothing))
    have isBlank := blank first inName
    rw [not_isBlank_of_isNameCharacter (isNameCharacter_of_isLowerLetter lower)] at isBlank
    cases isBlank
  · have sameLine := mt (@declaredName_subset atom.predicate _) begins.oneLine
    rcases inComment.scans_or_comment sameLine with ⟨outside, -⟩ | ⟨-, code, comment, whole, -⟩
    · cases outside
    · have inName : '%' ∈ (declaredName atom.predicate).toList := by simp [whole]
      exact absurd (declaredName_subset _ inName) begins.uncommented

/-- The number of the head's arguments is found in its text. -/
theorem BeginsWithName.arity_eq (begins : atom.BeginsWithName) :
    arity (trimmed atom.predicate) = .ok atom.head.arity := by
  obtain ⟨code, behind, tokens, stops, whole, judged, derives, ends⟩ :=
    atom.exists_code begins.oneLine
  rcases ends with ⟨rfl, rfl⟩ | ⟨comment, rfl, -⟩
  · rw [List.append_nil] at whole judged
    obtain ⟨first, found, lower⟩ := (Option.any_eq_true _ _).mp begins.lower
    obtain ⟨rest, shape⟩ := List.head?_eq_some_iff.mp found
    have hasTokens : tokens ≠ [] := by
      rintro rfl
      cases IsPrimary.beginsTerm derives
    obtain ⟨name, others, isAtom⟩ :=
      exists_atom_of_scans lower (shape ▸ whole ▸ judged) hasTokens
    have text : (trimmed atom.predicate).toList = code := by
      rw [trimmed, String.toList_ofList, whole]
    rcases shape_of_isPrimary derives isAtom with
      ⟨rfl, same⟩ | ⟨inside, arguments, rfl, same, goals⟩
    · rw [same, arity, arguments_of_name (text ▸ judged)]
      rfl
    · have unquoted : '\'' ∉ code ∧ '"' ∉ code := by
        rw [← whole]
        exact atom.unquoted.imp (mt fun inside => (isInfix_trim _).subset inside)
          (mt fun inside => (isInfix_trim _).subset inside)
      rw [same, arity_of_compound (text ▸ judged) goals (text ▸ unquoted)]
      rfl
  · exact absurd (whole ▸ List.mem_append_right _ List.mem_cons_self) begins.uncommented

end HeadedAtom

end Statute.Logic
