import Mathlib.Algebra.Order.BigOperators.Group.List
import Mathlib.Algebra.Order.Group.Nat
import Statute.Proofs.Highlight.Decoding

/-!
# What stripping leaves

Markup is removed in one pass, and the text that the pass leaves is not looked at again. Tags within
an element are content of this element, and removing markup brings the text on both sides of it
together; so a whole element may stand in what is left. It can only stand there with an opening tag
that was hidden from the pass: one that holds characters of an element's content, or one that an
element stood inside of.
-/

namespace Statute.Highlight

open Text

/-- Decimal digits, and at least one. -/
structure IsNumber (digits : List Char) : Prop where
  nonempty : digits ≠ []
  decimal : ∀ digit ∈ digits, isDecimalDigit digit = true

/-- An opening tag with the digits of its number. -/
def openingTag (digits : List Char) : List Char :=
  openingText ++ (digits ++ openingEnd)

/-- A whole element stands somewhere in a text. -/
def HasElement (text : List Char) : Prop :=
  ∃ digits content, IsNumber digits ∧ elementText digits content <:+: text

/-- The opening tag of an element in the text that parts leave, with what stands before and behind
it. -/
structure OpensElement (parts : List Part) (front digits back : List Char) : Prop where
  whole : parts.flatMap Part.content = front ++ (openingTag digits ++ back)
  number : IsNumber digits
  closed : closingText <:+: back

/-- A stretch of the text that parts leave, between a front and a back of so many characters, is
hidden by an element: it has begun before the end of the element's content, and it ends behind the
beginning of this content. -/
def Hidden (parts : List Part) (front back : Nat) : Prop :=
  ∃ before digits content after, parts = before ++ .element digits content :: after ∧
    front < (before.flatMap Part.content).length + content.length ∧
    back < content.length + (after.flatMap Part.content).length

/-- Parts hide an opening tag of an element that stands in the text they leave. -/
def HidesTag (parts : List Part) : Prop :=
  ∃ front digits back, OpensElement parts front digits back ∧ Hidden parts front.length back.length

/-! ## Elements of a text -/

/-- An element is its opening tag, its content and its closing tag, whatever follows. -/
theorem elementText_append (digits content rest : List Char) :
    elementText digits content ++ rest =
      openingTag digits ++ (content ++ (closingText ++ rest)) := by
  simp only [elementText, openingTag, List.append_assoc]

/-- A text has an element where a closing tag stands behind an opening tag. -/
theorem hasElement_iff {text : List Char} :
    HasElement text ↔ ∃ front digits back,
      text = front ++ (openingTag digits ++ back) ∧ IsNumber digits ∧ closingText <:+: back := by
  constructor
  · rintro ⟨digits, content, number, front, back, whole⟩
    refine ⟨front, digits, content ++ (closingText ++ back), ?_, number, content, back, ?_⟩
    · rw [← whole, List.append_assoc, elementText_append]
    · rw [List.append_assoc]
  · rintro ⟨front, digits, back, whole, number, content, after, closes⟩
    refine ⟨digits, content, number, front, after, ?_⟩
    rw [whole, ← closes, List.append_assoc, List.append_assoc, elementText_append]

/-- The digits that were found in an opening tag are a number. -/
theorem isNumber_of_splitElement? {text digits content after : List Char}
    (split : splitElement? text = some (digits, content, after)) : IsNumber digits := by
  simp only [splitElement?, Option.bind_eq_bind, Option.bind_eq_some_iff] at split
  obtain ⟨tagged, -, rest⟩ := split
  split at rest
  · cases rest
  · next nonempty =>
    simp only [Option.bind_eq_some_iff, Option.pure_def, Option.some.injEq, Prod.mk.injEq] at rest
    obtain ⟨-, -, -, -, rfl, -⟩ := rest
    exact ⟨by simpa using nonempty, fun _ member => List.mem_takeWhile_imp member⟩

/-- An element that was found stands at the beginning of the text. -/
theorem hasElement_of_splitElement? {text digits content after : List Char}
    (split : splitElement? text = some (digits, content, after)) : HasElement text := by
  refine ⟨digits, content, isNumber_of_splitElement? split, [], after, ?_⟩
  rw [splitElement?_eq_some split, elementText]
  simp only [List.nil_append, List.append_assoc]

/-- An opening tag at the beginning of a text begins an element when a closing tag is behind it. -/
theorem exists_splitElement? {digits back : List Char} (number : IsNumber digits)
    (closed : closingText <:+: back) :
    ∃ content after, splitElement? (openingTag digits ++ back) = some (digits, content, after) := by
  obtain ⟨content, after, rfl, absent⟩ := exists_first_place (by decide) closed
  refine ⟨content, after, ?_⟩
  rw [← elementText_append]
  exact splitElement?_elementText number.nonempty number.decimal absent after

/-- Where no element begins, the elements of a text are those behind its first character. -/
theorem hasElement_cons_iff {character : Char} {rest : List Char}
    (nothing : splitElement? (character :: rest) = none) :
    HasElement (character :: rest) ↔ HasElement rest := by
  constructor
  · rintro ⟨digits, content, number, inside⟩
    rcases List.infix_cons_iff.mp inside with ⟨behind, begins⟩ | later
    · have closed : closingText <:+: content ++ (closingText ++ behind) :=
        ⟨content, behind, List.append_assoc _ _ _⟩
      obtain ⟨_, _, found⟩ := exists_splitElement? number closed
      rw [← elementText_append, begins, nothing] at found
      cases found
    · exact ⟨digits, content, number, later⟩
  · rintro ⟨digits, content, number, inside⟩
    exact ⟨digits, content, number, inside.trans (List.suffix_cons character rest).isInfix⟩

/-- An element is found in a text exactly when there is one. -/
theorem exists_element_mem_parts_iff (text : List Char) :
    (∃ digits content, .element digits content ∈ parts text) ↔ HasElement text := by
  fun_induction parts text with
  | case1 =>
    constructor
    · rintro ⟨_, _, member⟩
      cases member
    · rintro ⟨digits, content, -, inside⟩
      have empty := List.infix_nil.mp inside
      simp [elementText, openingText] at empty
  | case2 character rest digits content after found _ =>
    constructor
    · exact fun _ => hasElement_of_splitElement? found
    · exact fun _ => ⟨digits, content, List.mem_cons_self⟩
  | case3 character rest found inductionHypothesis =>
    rw [hasElement_cons_iff found, ← inductionHypothesis]
    simp

/-- A text without elements is read as its characters. -/
theorem parts_eq_characters {text : List Char} (absent : ¬ HasElement text) :
    parts text = text.map .character := by
  fun_induction parts text with
  | case1 => rfl
  | case2 character rest digits content after found _ =>
    exact absurd (hasElement_of_splitElement? found) absent
  | case3 character rest found inductionHypothesis =>
    rw [hasElement_cons_iff found] at absent
    rw [inductionHypothesis absent, List.map_cons]

/-! ## Texts that stripping does not change -/

/-- Characters that are no part of a tag are content as they are. -/
theorem flatMap_content_characters (text : List Char) :
    (text.map Part.character).flatMap Part.content = text := by
  simp [List.flatMap_map, Part.content]

/-- Removing markup makes a text shorter when there is any. -/
theorem length_content_lt {text : List Char} (present : HasElement text) :
    ((parts text).flatMap Part.content).length < text.length := by
  obtain ⟨digits, content, member⟩ := (exists_element_mem_parts_iff text).mpr present
  have noLonger : ∀ part ∈ parts text, part.content.length ≤ part.written.length := by
    intro part _
    cases part with
    | character value => exact Nat.le_refl _
    | element digits content => exact length_le_elementText digits content
  have shorter : content.length < (elementText digits content).length := by
    simp only [elementText, openingText, List.length_append, List.length_cons]
    omega
  calc ((parts text).flatMap Part.content).length
      = ((parts text).map fun part => part.content.length).sum := List.length_flatMap
    _ < ((parts text).map fun part => part.written.length).sum :=
      List.sum_lt_sum _ _ noLonger ⟨_, member, shorter⟩
    _ = ((parts text).flatMap Part.written).length := List.length_flatMap.symm
    _ = text.length := by rw [flatMap_written_parts]

/-- What is left after stripping is the content of the parts. -/
theorem toList_stripAnnotations (text : String) :
    (stripAnnotations text).toList = (parts text.toList).flatMap Part.content := by
  rw [stripAnnotations, String.toList_ofList]

/-- Stripping changes the texts that have elements. -/
theorem stripAnnotations_eq_self_iff (text : String) :
    stripAnnotations text = text ↔ ¬ HasElement text.toList := by
  constructor
  · intro same present
    have shorter := length_content_lt present
    rw [← toList_stripAnnotations, same] at shorter
    exact Nat.lt_irrefl _ shorter
  · intro absent
    rw [stripAnnotations, parts_eq_characters absent, flatMap_content_characters,
      String.ofList_toList]

/-- Parts that mark no place have no elements. -/
theorem not_mem_of_markedSpans {position : Nat} {parts : List Part}
    (marks : markedSpans position parts = .ok []) (digits content : List Char) :
    .element digits content ∉ parts := by
  induction parts generalizing position with
  | nil => exact List.not_mem_nil
  | cons part rest inductionHypothesis =>
    cases part with
    | character value =>
      rw [markedSpans] at marks
      rw [List.mem_cons, not_or]
      exact ⟨Part.noConfusion, inductionHypothesis marks⟩
    | element =>
      obtain ⟨_, _, _, _, impossible⟩ := markedSpans_element_eq_ok_iff.mp marks
      cases impossible

/-- The texts that mark no place are those without elements. -/
theorem extractSpans_eq_nil_iff (text : String) :
    extractSpans text = .ok [] ↔ ¬ HasElement text.toList := by
  constructor
  · intro marks present
    obtain ⟨digits, content, member⟩ := (exists_element_mem_parts_iff _).mpr present
    exact not_mem_of_markedSpans marks digits content member
  · intro absent
    have marks := markedSpans_characters 0 text.toList []
    rw [List.append_nil] at marks
    rw [extractSpans, parts_eq_characters absent, marks]
    rfl

/-- Stripping again and again ends with a text without elements. -/
theorem exists_rounds (text : String) :
    ∃ rounds ≤ text.toList.length, ¬ HasElement (stripAnnotations^[rounds] text).toList := by
  induction length : text.toList.length using Nat.strong_induction_on generalizing text with
  | _ length inductionHypothesis =>
    by_cases present : HasElement text.toList
    · have shorter := length_content_lt present
      rw [← toList_stripAnnotations] at shorter
      obtain ⟨rounds, bounded, absent⟩ :=
        inductionHypothesis _ (by omega) (stripAnnotations text) rfl
      exact ⟨rounds + 1, by omega, absent⟩
    · exact ⟨0, Nat.zero_le _, present⟩

/-! ## Hidden tags -/

namespace Hidden

variable {parts : List Part} {front back : Nat}

/-- A stretch that begins in the content of the first element is hidden by it. -/
theorem here {digits content : List Char} (starts : front < content.length)
    (ends : back < content.length + (parts.flatMap Part.content).length) :
    Hidden (.element digits content :: parts) front back :=
  ⟨[], digits, content, parts, rfl, by simpa using starts, ends⟩

/-- What is hidden among later parts is hidden among all parts. -/
theorem later (part : Part) (hidden : Hidden parts front back) :
    Hidden (part :: parts) (part.content.length + front) back := by
  obtain ⟨before, digits, content, after, rfl, starts, ends⟩ := hidden
  refine ⟨part :: before, digits, content, after, rfl, ?_, ends⟩
  rw [List.flatMap_cons, List.length_append]
  omega

end Hidden

/-- Either an element stands among the parts that a beginning of what is left comes from, or the text
itself has this beginning. -/
theorem element_or_prefix {text beginning back : List Char}
    (whole : (parts text).flatMap Part.content = beginning ++ back) :
    (∃ before digits content after, parts text = before ++ .element digits content :: after ∧
      (before.flatMap Part.content).length < beginning.length) ∨
    ∃ behind, text = beginning ++ behind ∧ (parts behind).flatMap Part.content = back := by
  induction beginning generalizing text with
  | nil => exact .inr ⟨text, rfl, whole⟩
  | cons first beginning inductionHypothesis =>
    cases text with
    | nil =>
      rw [parts] at whole
      cases whole
    | cons character rest =>
      cases found : splitElement? (character :: rest) with
      | some split =>
        obtain ⟨digits, content, after⟩ := split
        exact .inl ⟨[], digits, content, parts after, parts_of_splitElement? found,
          Nat.zero_lt_succ _⟩
      | none =>
        rw [parts_cons found] at whole ⊢
        obtain ⟨rfl, wholeLater⟩ := List.cons.inj whole
        rcases inductionHypothesis wholeLater with
          ⟨before, digits, content, after, same, inside⟩ | ⟨behind, rfl, left⟩
        · refine .inl ⟨.character character :: before, digits, content, after, ?_, ?_⟩
          · rw [same, List.cons_append]
          · exact Nat.succ_lt_succ inside
        · exact .inr ⟨behind, rfl, left⟩

/-- Where closing tags are left, the text itself has closing tags: those that are left, or those of
its elements. -/
theorem closing_isInfix {text : List Char}
    (closed : closingText <:+: (parts text).flatMap Part.content) : closingText <:+: text := by
  by_cases present : HasElement text
  · obtain ⟨_, _, back, rfl, -, closedBehind⟩ := hasElement_iff.mp present
    exact closedBehind.trans ((List.suffix_append _ _).trans (List.suffix_append _ _)).isInfix
  · rwa [parts_eq_characters present, flatMap_content_characters] at closed

/-- Where no element begins at a character, a tag that begins there in the text that is left is
hidden: with all of the tag in the text, there would be a closing tag behind it, and so an
element. -/
theorem hidden_of_opensElement_nil {character : Char} {rest digits back : List Char}
    (nothing : splitElement? (character :: rest) = none)
    (opens : OpensElement (.character character :: parts rest) [] digits back) :
    Hidden (.character character :: parts rest) 0 back.length := by
  obtain ⟨tail, shape⟩ : ∃ tail, openingTag digits = '<' :: tail := ⟨_, rfl⟩
  have whole := opens.whole
  rw [List.flatMap_cons, Part.content, shape, List.singleton_append, List.nil_append,
    List.cons_append, List.cons.injEq] at whole
  obtain ⟨rfl, wholeLater⟩ := whole
  rcases element_or_prefix wholeLater with
    ⟨before, elementDigits, content, after, same, inside⟩ | ⟨behind, rfl, left⟩
  · refine ⟨.character '<' :: before, elementDigits, content, after, ?_, ?_, ?_⟩
    · rw [same, List.cons_append]
    · exact Nat.add_pos_left (Nat.zero_lt_succ _) _
    · have lengths := congrArg List.length wholeLater
      simp only [same, List.flatMap_append, List.flatMap_cons, Part.content, List.length_append]
        at lengths
      omega
  · have closed : closingText <:+: behind := closing_isInfix (left ▸ opens.closed)
    obtain ⟨_, _, found⟩ := exists_splitElement? opens.number closed
    rw [shape, List.cons_append, nothing] at found
    cases found

/-- The opening tag of an element that is left is hidden. The induction is on the parts in front of
the tag: it begins in the content of an element, at a character with which no element begins, or
later. -/
theorem hidden_of_opensElement {text front digits back : List Char}
    (opens : OpensElement (parts text) front digits back) :
    Hidden (parts text) front.length back.length := by
  fun_induction parts text generalizing front with
  | case1 =>
    have whole := opens.whole
    simp [openingTag, openingText] at whole
  | case2 character rest elementDigits content after found inductionHypothesis =>
    have whole := opens.whole
    rw [List.flatMap_cons, Part.content] at whole
    have lengths := congrArg List.length whole
    simp only [List.length_append] at lengths
    by_cases inside : front.length < content.length
    · have tagged : 0 < (openingTag digits).length := by simp [openingTag, openingText]
      exact Hidden.here inside (by omega)
    · obtain ⟨behind, rfl⟩ : content <+: front :=
        List.prefix_of_prefix_length_le ⟨_, whole⟩ (List.prefix_append _ _) (by omega)
      rw [List.append_assoc, List.append_cancel_left_eq] at whole
      have hidden := inductionHypothesis ⟨whole, opens.number, opens.closed⟩
      rw [List.length_append]
      exact hidden.later (.element elementDigits content)
  | case3 character rest found inductionHypothesis =>
    cases front with
    | nil => exact hidden_of_opensElement_nil found opens
    | cons first front =>
      have whole := opens.whole
      rw [List.flatMap_cons, Part.content] at whole
      obtain ⟨rfl, wholeLater⟩ := List.cons.inj whole
      have hidden := inductionHypothesis ⟨wholeLater, opens.number, opens.closed⟩
      rw [List.length_cons, Nat.add_comm]
      exact hidden.later (.character character)

/-- What is left of a text has an element exactly when the text hides a tag. -/
theorem hasElement_stripped_iff (text : List Char) :
    HasElement ((parts text).flatMap Part.content) ↔ HidesTag (parts text) := by
  rw [hasElement_iff]
  constructor
  · rintro ⟨front, digits, back, whole, number, closed⟩
    have opens : OpensElement (parts text) front digits back := ⟨whole, number, closed⟩
    exact ⟨front, digits, back, opens, hidden_of_opensElement opens⟩
  · rintro ⟨front, digits, back, ⟨whole, number, closed⟩, -⟩
    exact ⟨front, digits, back, whole, number, closed⟩

/-- Every element that stripping leaves has a hidden opening tag. So stripping removes all markup
exactly when no opening tag is hidden, and it is then that stripping again changes nothing and that
the stripped text marks no place. In any case no more rounds are needed than the text has
characters. -/
theorem stripping_leaves_hidden_tags (annotated : String) :
    (∀ front digits back, OpensElement (parts annotated.toList) front digits back →
      Hidden (parts annotated.toList) front.length back.length) ∧
    (HasElement (stripAnnotations annotated).toList ↔ HidesTag (parts annotated.toList)) ∧
    (stripAnnotations (stripAnnotations annotated) = stripAnnotations annotated ↔
      ¬ HidesTag (parts annotated.toList)) ∧
    (extractSpans (stripAnnotations annotated) = .ok [] ↔ ¬ HidesTag (parts annotated.toList)) ∧
    ∃ rounds ≤ annotated.toList.length,
      ¬ HasElement (stripAnnotations^[rounds] annotated).toList := by
  have left : HasElement (stripAnnotations annotated).toList ↔ HidesTag (parts annotated.toList) := by
    rw [toList_stripAnnotations, hasElement_stripped_iff]
  refine ⟨fun _ _ _ => hidden_of_opensElement, left, ?_, ?_, exists_rounds annotated⟩
  · rw [stripAnnotations_eq_self_iff, left]
  · rw [extractSpans_eq_nil_iff, left]

/-- An element within an element. -/
def exampleWithin : String :=
  "<atom id=\"1\"><atom id=\"2\">a</atom></atom>"

/-- The inner element is left. It is markup still: stripping again removes it, and it marks a
place. -/
theorem exampleWithin_left :
    stripAnnotations exampleWithin = "<atom id=\"2\">a</atom>" ∧
      HasElement (stripAnnotations exampleWithin).toList ∧
      stripAnnotations (stripAnnotations exampleWithin) = "a" ∧
      extractSpans (stripAnnotations exampleWithin) = .ok [⟨2, 0, 1⟩] := by
  have once : stripAnnotations exampleWithin = "<atom id=\"2\">a</atom>" := by decide +kernel
  have extracted : extractSpans "<atom id=\"2\">a</atom>" = .ok [⟨2, 0, 1⟩] := by
    apply toOption_eq_some_iff.mp
    decide +kernel
  refine ⟨once, ?_, ?_, ?_⟩
  · rw [once]
    exact ⟨['2'], ['a'], ⟨by decide, List.forall_mem_singleton.mpr (by decide)⟩, by decide⟩
  · rw [once]
    decide +kernel
  · rw [once, extracted]

end Statute.Highlight
