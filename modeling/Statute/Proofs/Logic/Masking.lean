import Statute.Proofs.Logic.ArgumentTexts
import Statute.Proofs.Number.Digits

/-!
# Masked predicates

Predicates are nested terms in prefix form: leaves, and names with arguments in parentheses. Masking
a list of them keeps their names, their nesting and how many arguments stand where. Their leaves
become fresh variables, which are numbered from left to right through the whole list.
-/

namespace Statute.Logic.Predicate

open Text

/-! ## Nested terms -/

/-- A leaf, or a name with arguments. -/
inductive Nested where
  | leaf (text : String)
  | compound (name : String) (arguments : List Nested)

namespace Nested

mutual

/-- Names and nesting of a term, whatever its leaves are. -/
def shape : Nested → Shape
  | leaf _ => .leaf
  | compound name arguments => .compound name.toList (shapes arguments)

/-- The shapes of several terms in order. -/
def shapes : List Nested → List Shape
  | [] => []
  | first :: rest => first.shape :: shapes rest

end

mutual

/-- The leaves of a term from left to right. -/
def leaves : Nested → List String
  | leaf text => [text]
  | compound _ arguments => leavesOfAll arguments

/-- The leaves of several terms from left to right. -/
def leavesOfAll : List Nested → List String
  | [] => []
  | first :: rest => first.leaves ++ leavesOfAll rest

end

mutual

/-- The text of a term with a comma and a space between arguments. -/
def render : Nested → String
  | leaf text => text
  | compound name arguments => name ++ "(" ++ joined ", " (renderAll arguments) ++ ")"

/-- The texts of several terms in order. -/
def renderAll : List Nested → List String
  | [] => []
  | first :: rest => first.render :: renderAll rest

end

/-- The shapes of several terms are the shapes of each. -/
theorem shapes_eq_map (terms : List Nested) : shapes terms = terms.map shape := by
  induction terms with
  | nil => rfl
  | cons first rest inductionHypothesis => rw [shapes, inductionHypothesis, List.map_cons]

/-- The leaves of several terms are those of each, one after the other. -/
theorem leavesOfAll_eq_flatMap (terms : List Nested) :
    leavesOfAll terms = terms.flatMap leaves := by
  induction terms with
  | nil => rfl
  | cons first rest inductionHypothesis => rw [leavesOfAll, inductionHypothesis, List.flatMap_cons]

/-- The texts of several terms are the texts of each. -/
theorem renderAll_eq_map (terms : List Nested) : renderAll terms = terms.map render := by
  induction terms with
  | nil => rfl
  | cons first rest inductionHypothesis => rw [renderAll, inductionHypothesis, List.map_cons]

end Nested

mutual

/-- The number of leaves. -/
def Shape.leafCount : Shape → Nat
  | leaf => 1
  | compound _ arguments => leafCountOfAll arguments

/-- The number of leaves of several shapes. -/
def Shape.leafCountOfAll : List Shape → Nat
  | [] => 0
  | first :: rest => first.leafCount + leafCountOfAll rest

end

mutual

/-- Terms have as many leaves as their shapes. -/
theorem Nested.length_leaves : ∀ term : Nested, term.leaves.length = term.shape.leafCount
  | .leaf _ => rfl
  | .compound _ arguments => Nested.length_leavesOfAll arguments

/-- Several terms have as many leaves as their shapes. -/
theorem Nested.length_leavesOfAll : ∀ terms : List Nested,
    (Nested.leavesOfAll terms).length = Shape.leafCountOfAll (Nested.shapes terms)
  | [] => rfl
  | first :: rest => by
    rw [Nested.leavesOfAll, List.length_append, Nested.length_leaves first,
      Nested.length_leavesOfAll rest, Nested.shapes, Shape.leafCountOfAll]

end

/-! ## Texts of terms -/

mutual

/-- Texts of a term. Names and leaves have no parentheses, brackets and commas; blanks may stand
around every argument and around the whole term. -/
inductive IsTextOf : List Char → Nested → Prop where
  | leaf {text} (plain : text.any isDelimiter = false) :
      IsTextOf text (.leaf (String.ofList (trim text)))
  | compound {name inside behind arguments} (plain : name.any isDelimiter = false)
      (between : AreTextsOf inside arguments) (blank : AllBlank behind) :
      IsTextOf (name ++ '(' :: (inside ++ ')' :: behind))
        (.compound (String.ofList (trimLeft name)) arguments)

/-- Texts of arguments with commas between them. No argument is blank; blank text has no
arguments. -/
inductive AreTextsOf : List Char → List Nested → Prop where
  | none {text} (blank : AllBlank text) : AreTextsOf text []
  | single {text argument} (only : IsTextOf text argument) (notBlank : ¬ AllBlank text) :
      AreTextsOf text [argument]
  | cons {text argument rest arguments} (first : IsTextOf text argument)
      (notBlank : ¬ AllBlank text)
      (others : AreTextsOf rest arguments) (nonempty : arguments ≠ []) :
      AreTextsOf (text ++ ',' :: rest) (argument :: arguments)

end

/-- No blank is a delimiter. -/
theorem any_isDelimiter_of_blank {text : List Char} (blank : AllBlank text) :
    text.any isDelimiter = false := by
  rw [List.any_eq_false]
  intro character member delimits
  have listed : character ∈ [',', '(', ')', '[', ']'] := List.contains_iff_mem.mp delimits
  have apart : ([',', '(', ')', '[', ']'].all fun delimiter => !isBlank delimiter) = true := by
    decide
  have notBlank := List.all_eq_true.mp apart character listed
  rw [blank character member] at notBlank
  cases notBlank

mutual

/-- The text of a term closes the parentheses that it opens, and has commas inside of them only. -/
theorem IsTextOf.uncut : ∀ {term : Nested} {text : List Char}, IsTextOf text term →
    ∀ level, Uncut level level text
  | .leaf _, _, .leaf plain, level => .of_plain level plain
  | .compound _ _, _, .compound plain between blank, level => by
    have opening : Uncut level (level + 1) ['('] := .single '(' (by simp)
    have closing : Uncut (level + 1) level [')'] := .single ')' (by simp)
    have behind := Uncut.of_plain level (any_isDelimiter_of_blank blank)
    have whole := (Uncut.of_plain level plain).append
      (opening.append ((between.uncut level).append (closing.append behind)))
    exact whole

/-- Commas between arguments are no place to cut at inside of parentheses. -/
theorem AreTextsOf.uncut : ∀ {arguments : List Nested} {text : List Char},
    AreTextsOf text arguments →
    ∀ level, Uncut (level + 1) (level + 1) text
  | [], _, .none blank, level => .of_plain _ (any_isDelimiter_of_blank blank)
  | [_], _, .single only _, level => only.uncut (level + 1)
  | _ :: _, _, .cons first _ others _, level => by
    have comma : Uncut (level + 1) (level + 1) [','] := .single ',' (by simp)
    exact (first.uncut (level + 1)).append (comma.append (others.uncut level))

end

/-- The text of arguments is blank only when there are none. -/
theorem AreTextsOf.allBlank_iff {text : List Char} {arguments : List Nested}
    (between : AreTextsOf text arguments) : AllBlank text ↔ arguments = [] := by
  cases between with
  | none blank => exact ⟨fun _ => rfl, fun _ => blank⟩
  | single only notBlank =>
    exact ⟨fun blank => absurd blank notBlank, fun nothing => nomatch nothing⟩
  | cons first notBlank others nonempty =>
    refine ⟨fun blank => absurd ?_ notBlank, fun nothing => nomatch nothing⟩
    exact fun character member => blank character (List.mem_append_left _ member)

/-! ## Shapes of texts -/

/-- The shape of a text with parentheses is that of its arguments under its name. -/
theorem shape_eq (predicate : List Char) :
    shape predicate =
      match argumentList? predicate with
      | .error error => .error error
      | .ok none => .ok .leaf
      | .ok (some found) => (found.mapM shape).map (.compound (nameText predicate)) := by
  rw [shape]
  split
  next read => rw [read]
  next read => rw [read]
  next found read =>
    rw [read, List.mapM_subtype fun _ _ => rfl, List.unattach_attach]
    rfl

/-- The text in front of the first parenthesis has none. -/
theorem unopened_of_plain {text : List Char} (plain : text.any isDelimiter = false) :
    ∀ character ∈ text, (character != '(') = true := by
  intro character member
  rw [bne_iff_ne]
  rintro rfl
  exact absurd (List.any_eq_false.mp plain '(' member) (by decide)

/-- A compound term has its arguments between its first and its last parenthesis. -/
theorem content?_compound {name : List Char} (plain : name.any isDelimiter = false)
    (inside : List Char) {behind : List Char} (blank : AllBlank behind) :
    content? (name ++ '(' :: (inside ++ ')' :: behind)) = .ok (some inside) := by
  have opened : (name ++ '(' :: (inside ++ ')' :: behind)).dropWhile (· != '(') =
      '(' :: (inside ++ ')' :: behind) := by
    rw [List.dropWhile_append_of_pos (unopened_of_plain plain)]
    rfl
  have closed : splitLast [')'] (inside ++ ')' :: behind) = some (inside, behind) :=
    splitLast_append (by decide) (splitLast_closing_of_blank blank)
  rw [content?, opened]
  dsimp only
  rw [closed]

/-- Parts of a plain text are plain. -/
theorem plain_of_sublist {text part : List Char} (plain : text.any isDelimiter = false)
    (sublist : part.Sublist text) : part.any isDelimiter = false := by
  rw [List.any_eq_false] at plain ⊢
  exact fun character member => plain character (sublist.mem member)

/-- A trimmed compound term is its name and its arguments. -/
theorem trim_compound (name inside : List Char) {behind : List Char} (blank : AllBlank behind) :
    trim (name ++ '(' :: (inside ++ ')' :: behind)) =
      trimLeft name ++ '(' :: (inside ++ [')']) := by
  have opening : isBlank '(' = false := by decide
  have closing : isBlank ')' = false := by decide
  calc trim (name ++ '(' :: (inside ++ ')' :: behind))
      = trim (((name ++ '(' :: inside) ++ [')']) ++ behind) := by simp
    _ = trimLeft (name ++ '(' :: inside) ++ [')'] := by
      rw [trim_append_right blank, trim_append_singleton closing]
    _ = trimLeft name ++ '(' :: (inside ++ [')']) := by
      rw [trimLeft_append_cons opening]
      simp

/-- The shape of a compound term is found argument by argument. -/
theorem shape_compound {name : List Char} (plain : name.any isDelimiter = false)
    (inside : List Char) {behind : List Char} (blank : AllBlank behind) :
    shape (trim (name ++ '(' :: (inside ++ ')' :: behind))) =
      ((argumentsOfContent inside).mapM shape).map (.compound (trimLeft name)) := by
  have plainName : (trimLeft name).any isDelimiter = false :=
    plain_of_sublist plain (List.dropWhile_sublist isBlank)
  have named : nameText (trimLeft name ++ '(' :: (inside ++ [')'])) = trimLeft name := by
    rw [nameText, List.takeWhile_append_of_pos (unopened_of_plain plainName)]
    simp
  rw [trim_compound name inside blank, shape_eq, argumentList?,
    content?_compound plainName inside (List.forall_mem_nil _), named]
  rfl

/-- Arguments in a text have shapes when each piece between commas has one. -/
theorem AreTextsOf.mapM_shape {text : List Char} {arguments : List Nested}
    (between : AreTextsOf text arguments)
    (pieces : arguments ≠ [] → List.Forall₂
      (fun piece argument => shape (trim piece) = .ok argument.shape)
      (splitTopLevel 0 text) arguments) :
    (argumentsOfContent text).mapM shape = .ok (Nested.shapes arguments) := by
  by_cases blank : AllBlank text
  · rw [argumentsOfContent, if_pos (isEmpty_trim_iff.mpr blank), between.allBlank_iff.mp blank]
    rfl
  · have nonempty : arguments ≠ [] := mt between.allBlank_iff.mpr blank
    rw [argumentsOfContent, if_neg (mt isEmpty_trim_iff.mp blank), Nested.shapes_eq_map,
      mapM_eq_ok_iff, List.forall₂_map_left_iff, List.forall₂_map_right_iff]
    exact pieces nonempty

mutual

/-- The shape of a trimmed text is the shape of the term that it is a text of. -/
theorem IsTextOf.shape_trim : ∀ {term : Nested} {text : List Char}, IsTextOf text term →
    shape (trim text) = .ok term.shape
  | .leaf _, text, .leaf plain => by
    have unopened : (trim text).dropWhile (· != '(') = [] :=
      List.dropWhile_eq_nil_iff.mpr
        (unopened_of_plain (plain_of_sublist plain (isInfix_trim text).sublist))
    rw [shape_eq, argumentList?, content?, unopened]
    rfl
  | .compound _ _, _, .compound plain between blank => by
    rw [shape_compound plain _ blank, between.mapM_shape between.shapes_of_pieces]
    simp [Except.map, Nested.shape]

/-- The text of arguments is cut at commas into pieces with the shapes of the arguments. -/
theorem AreTextsOf.shapes_of_pieces : ∀ {arguments : List Nested} {text : List Char},
    AreTextsOf text arguments → arguments ≠ [] →
      List.Forall₂ (fun piece argument => shape (trim piece) = .ok argument.shape)
        (splitTopLevel 0 text) arguments
  | [], _, .none _, nonempty => absurd rfl nonempty
  | [_], _, .single only _, _ => by
    rw [(only.uncut 0).splitTopLevel_eq]
    exact .cons only.shape_trim .nil
  | _ :: _, _, .cons first _ others nonempty, _ => by
    rw [(first.uncut 0).splitTopLevel_comma]
    exact .cons first.shape_trim (others.shapes_of_pieces nonempty)

end

/-! ## Numbered leaves -/

/-- The variable with a number. -/
def freshVariable (number : Nat) : String :=
  "_X" ++ toString number

/-- Fresh variables with different numbers are different. -/
theorem freshVariable_injective : Function.Injective freshVariable :=
  fun _ _ same => Number.repr_injective ((String.append_right_inj "_X").mp same)

/-- The fresh variables with consecutive numbers from `next` on. -/
def freshVariables (next count : Nat) : List String :=
  (List.range' next count).map freshVariable

/-- Fresh variables go on counting where the first ones end. -/
theorem freshVariables_add (next first second : Nat) :
    freshVariables next (first + second) =
      freshVariables next first ++ freshVariables (next + first) second := by
  rw [freshVariables, ← List.range'_append_1, List.map_append]
  rfl

mutual

/-- A masked shape is the text of a term of that shape, whose leaves are numbered from the given
number on; the next number is that behind them. -/
theorem Shape.exists_mask : ∀ (shape : Shape) (next : Nat), ∃ term : Nested,
    shape.mask next = (term.render, next + shape.leafCount) ∧ term.shape = shape ∧
      term.leaves = freshVariables next shape.leafCount
  | .leaf, next => ⟨.leaf (freshVariable next), rfl, rfl, rfl⟩
  | .compound name arguments, next => by
    obtain ⟨terms, masked, same, numbered⟩ := Shape.exists_maskAll arguments next
    refine ⟨.compound (String.ofList name) terms, ?_, ?_, ?_⟩
    · rw [Shape.mask, masked, Nested.render, Shape.leafCount]
    · rw [Nested.shape, String.toList_ofList, same]
    · rw [Nested.leaves, numbered, Shape.leafCount]

/-- Several masked shapes are numbered on from one to the next. -/
theorem Shape.exists_maskAll : ∀ (shapes : List Shape) (next : Nat), ∃ terms : List Nested,
    Shape.maskAll next shapes =
        (Nested.renderAll terms, next + Shape.leafCountOfAll shapes) ∧
      Nested.shapes terms = shapes ∧
      Nested.leavesOfAll terms = freshVariables next (Shape.leafCountOfAll shapes)
  | [], next => ⟨[], rfl, rfl, rfl⟩
  | first :: rest, next => by
    obtain ⟨term, masked, same, numbered⟩ := Shape.exists_mask first next
    obtain ⟨terms, maskedRest, sameRest, numberedRest⟩ :=
      Shape.exists_maskAll rest (next + first.leafCount)
    refine ⟨term :: terms, ?_, ?_, ?_⟩
    · simp only [Shape.maskAll, masked, maskedRest, Nested.renderAll, Shape.leafCountOfAll,
        Nat.add_assoc]
    · rw [Nested.shapes, same, sameRest]
    · rw [Nested.leavesOfAll, numbered, numberedRest, Shape.leafCountOfAll, freshVariables_add]

end

/-- Each of the numbers is that of one variable. -/
theorem count_freshVariables {next count number : Nat} (lower : next ≤ number)
    (upper : number < next + count) :
    (freshVariables next count).count (freshVariable number) = 1 := by
  have once : (freshVariables next count).Nodup :=
    (List.nodup_range' 1).map freshVariable_injective
  have listed : freshVariable number ∈ freshVariables next count :=
    List.mem_map_of_mem (List.mem_range'_1.mpr ⟨lower, upper⟩)
  exact List.count_eq_one_of_mem once listed

/-- Masking keeps the shape and numbers leaves consecutively. For texts of nested terms it succeeds,
and the results are the texts, with a final stop, of terms with the same names, nesting and numbers
of arguments, whose leaves are from left to right through all terms the fresh variables from one on.
So each number up to the number of leaves is that of one leaf. -/
theorem maskVariables_numbers_leaves {predicates : List String} {terms : List Nested}
    (written : List.Forall₂ (fun predicate term => IsTextOf predicate.toList term)
      predicates terms) :
    ∃ masked : List Nested,
      maskVariables predicates = .ok (masked.map fun term => term.render ++ ".") ∧
      masked.map Nested.shape = terms.map Nested.shape ∧
      masked.flatMap Nested.leaves =
        freshVariables 1 (terms.flatMap Nested.leaves).length ∧
      ∀ number, 1 ≤ number → number ≤ (terms.flatMap Nested.leaves).length →
        (masked.flatMap Nested.leaves).count (freshVariable number) = 1 := by
  obtain ⟨masked, texts, sameShapes, numbered⟩ := Shape.exists_maskAll (terms.map Nested.shape) 1
  have total : (terms.flatMap Nested.leaves).length =
      Shape.leafCountOfAll (terms.map Nested.shape) := by
    rw [← Nested.leavesOfAll_eq_flatMap, Nested.length_leavesOfAll, Nested.shapes_eq_map]
  have shapes : (predicates.mapM fun predicate => shape (trim predicate.toList)) =
      .ok (terms.map Nested.shape) := by
    rw [mapM_eq_ok_iff, List.forall₂_map_right_iff]
    exact written.imp fun _ _ isText => isText.shape_trim
  rw [Nested.leavesOfAll_eq_flatMap, ← total] at numbered
  refine ⟨masked, ?_, ?_, numbered, ?_⟩
  · rw [maskVariables, shapes]
    simp only [bind, Except.bind, pure, Except.pure, texts, Nested.renderAll_eq_map,
      List.map_map]
    rfl
  · rw [← Nested.shapes_eq_map, sameShapes]
  · intro number positive bounded
    rw [numbered]
    exact count_freshVariables positive (by omega)

/-- Predicates with blanks around their arguments, one of them without arguments, and a leaf
alone. -/
def exampleHoldings : List String :=
  [" owns(P, item( A,b ), rain( ))", "raining"]

/-- The terms that they are texts of. -/
def exampleHoldingTerms : List Nested :=
  [.compound "owns" [.leaf "P", .compound "item" [.leaf "A", .leaf "b"], .compound "rain" []],
    .leaf "raining"]

/-- They are texts of the terms. -/
theorem exampleHoldings_areTexts :
    List.Forall₂ (fun predicate term => IsTextOf predicate.toList term)
      exampleHoldings exampleHoldingTerms := by
  have leaf (text : String) (plain : text.toList.any isDelimiter = false) :
      IsTextOf text.toList (.leaf (String.ofList (trim text.toList))) := .leaf plain
  have compound (name inside : String) (plain : name.toList.any isDelimiter = false)
      {arguments : List Nested} (between : AreTextsOf inside.toList arguments) :
      IsTextOf (name.toList ++ '(' :: (inside.toList ++ [')']))
        (.compound (String.ofList (trimLeft name.toList)) arguments) :=
    .compound plain between (List.forall_mem_nil _)
  have item := compound " item" " A,b " (by decide)
    (.cons (leaf " A" (by decide)) (by decide) (.single (leaf "b " (by decide)) (by decide))
      (by simp))
  have rain := compound " rain" " " (by decide) (.none (by decide))
  have owns := compound " owns" "P, item( A,b ), rain( )" (by decide)
    (.cons (leaf "P" (by decide)) (by decide) (.cons item (by decide)
      (.single rain (by decide)) (by simp)) (by simp))
  exact .cons owns (.cons (leaf "raining" (by decide)) .nil)

/-- Their four leaves are numbered through both. -/
theorem exampleHoldings_masked :
    List.Forall₂ (fun predicate term => IsTextOf predicate.toList term)
        exampleHoldings exampleHoldingTerms ∧
      maskVariables exampleHoldings = .ok ["owns(_X1, item(_X2, _X3), rain()).", "_X4."] ∧
      ∃ masked : List Nested,
        maskVariables exampleHoldings = .ok (masked.map fun term => term.render ++ ".") ∧
        masked.map Nested.shape = exampleHoldingTerms.map Nested.shape ∧
        masked.flatMap Nested.leaves =
          freshVariables 1 (exampleHoldingTerms.flatMap Nested.leaves).length ∧
        ∀ number, 1 ≤ number → number ≤ (exampleHoldingTerms.flatMap Nested.leaves).length →
          (masked.flatMap Nested.leaves).count (freshVariable number) = 1 :=
  ⟨exampleHoldings_areTexts, toOption_eq_some_iff.mp (by decide +kernel),
    maskVariables_numbers_leaves exampleHoldings_areTexts⟩

end Statute.Logic.Predicate
