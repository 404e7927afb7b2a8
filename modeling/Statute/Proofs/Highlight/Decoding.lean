import Statute.Proofs.Highlight.Markup

/-!
# Places in decoded text

Markup may be nested, unterminated or repeated. Whatever it is, the elements that were found stand
in the annotated text where they were found, and the places that they mark are those at which their
contents stand in the text without markup, one after the other.
-/

namespace Statute.Highlight

open Text

/-- The text of a part with its markup. -/
def Part.written : Part → List Char
  | character value => [value]
  | element digits content => elementText digits content

/-- An element that was found in an annotated text. -/
structure Capture where
  /-- The number of characters of the annotated text in front of the element. -/
  position : Nat
  digits : List Char
  content : List Char

/-- The elements among parts that begin at a position of the annotated text, in order. -/
def captures (position : Nat) : List Part → List Capture
  | [] => []
  | .character _ :: rest => captures (position + 1) rest
  | .element digits content :: rest =>
    ⟨position, digits, content⟩ :: captures (position + (elementText digits content).length) rest

/-- What a mark says about an element: the element's number, and the place at which its content
stands in a text. -/
structure Marks (text : List Char) (capture : Capture) (span : MarkedSpan) : Prop where
  number : Number.readInt64? (String.ofList capture.digits) = some span.atomId
  ordered : span.start ≤ span.finish
  withinText : span.finish ≤ text.length
  content : (text.drop span.start).take (span.finish - span.start) = capture.content

/-- The parts of a text, as they are written, are the text. -/
theorem flatMap_written_parts (annotated : List Char) :
    (parts annotated).flatMap Part.written = annotated := by
  fun_induction parts annotated with
  | case1 => rfl
  | case2 character rest digits content after found inductionHypothesis =>
    rw [List.flatMap_cons, inductionHypothesis, splitElement?_eq_some found, Part.written,
      elementText]
    simp only [List.append_assoc]
  | case3 character rest found inductionHypothesis =>
    rw [List.flatMap_cons, inductionHypothesis, Part.written, List.singleton_append]

/-- Captures stand where they say in the text that their parts are written as. -/
theorem exists_append_of_mem_captures {position : Nat} {parts : List Part} {capture : Capture}
    (member : capture ∈ captures position parts) :
    ∃ before after, parts.flatMap Part.written =
        before ++ (elementText capture.digits capture.content ++ after) ∧
      position + before.length = capture.position := by
  induction parts generalizing position with
  | nil => exact nomatch member
  | cons part rest inductionHypothesis =>
    rw [List.flatMap_cons]
    cases part with
    | character value =>
      obtain ⟨before, after, whole, place⟩ := inductionHypothesis member
      refine ⟨value :: before, after, ?_, ?_⟩
      · rw [whole, Part.written, List.singleton_append, List.cons_append]
      · rw [← place, List.length_cons]
        omega
    | element digits content =>
      rcases List.mem_cons.mp member with rfl | member
      · exact ⟨[], rest.flatMap Part.written, rfl, rfl⟩
      · obtain ⟨before, after, whole, place⟩ := inductionHypothesis member
        refine ⟨elementText digits content ++ before, after, ?_, ?_⟩
        · rw [whole, Part.written, List.append_assoc]
        · rw [← place, List.length_append]
          omega

/-- The content of an element is no longer than the element. -/
theorem length_le_elementText (digits content : List Char) :
    content.length ≤ (elementText digits content).length := by
  simp only [elementText, List.length_append]
  omega

/-- What an element does to the marked places when all numbers can be read. -/
theorem markedSpans_element_eq_ok_iff {position : Nat} {digits content : List Char}
    {rest : List Part} {spans : List MarkedSpan} :
    markedSpans position (.element digits content :: rest) = .ok spans ↔
      ∃ atomId later, Number.readInt64? (String.ofList digits) = some atomId ∧
        markedSpans (position + content.length) rest = .ok later ∧
        spans = ⟨atomId, position, position + content.length⟩ :: later := by
  rw [markedSpans]
  cases Number.readInt64? (String.ofList digits) with
  | none => simp
  | some atomId =>
    simp only [bind_eq_ok_iff, Option.some.injEq, exists_and_left, exists_eq_left']
    simp [pure, Except.pure, eq_comm]

/-- Each mark says where the content of its element stands in the text without markup. -/
theorem marks_of_markedSpans (passed : List Char) {parts : List Part} {spans : List MarkedSpan}
    (marked : markedSpans passed.length parts = .ok spans) (position : Nat) :
    List.Forall₂ (Marks (passed ++ parts.flatMap Part.content)) (captures position parts)
      spans := by
  induction parts generalizing passed position spans with
  | nil =>
    obtain rfl := Except.ok.inj marked
    exact .nil
  | cons part rest inductionHypothesis =>
    rw [List.flatMap_cons, ← List.append_assoc]
    cases part with
    | character value =>
      rw [markedSpans] at marked
      exact inductionHypothesis _ (by rw [List.length_append]; exact marked) _
    | element digits content =>
      obtain ⟨atomId, later, number, markedLater, rfl⟩ := markedSpans_element_eq_ok_iff.mp marked
      refine .cons ⟨number, Nat.le_add_right _ _, ?_, ?_⟩ (inductionHypothesis _ ?_ _)
      · simp only [Part.content, List.length_append]
        omega
      · rw [Part.content, List.append_assoc, List.drop_left, Nat.add_sub_cancel_left,
          List.take_left]
      · rwa [Part.content, List.length_append]

/-- Marks begin behind the position that their parts begin at. Each of them begins no later than all
that follow it, and ends before they begin. -/
theorem pairwise_of_markedSpans {position : Nat} {parts : List Part} {spans : List MarkedSpan}
    (marked : markedSpans position parts = .ok spans) :
    (∀ span ∈ spans, position ≤ span.start) ∧
      spans.Pairwise fun left right =>
        left.start ≤ right.start ∧ left.finish ≤ right.start := by
  induction parts generalizing position spans with
  | nil =>
    obtain rfl := Except.ok.inj marked
    exact ⟨fun _ member => (nomatch member), .nil⟩
  | cons part rest inductionHypothesis =>
    cases part with
    | character value =>
      rw [markedSpans] at marked
      obtain ⟨behind, pairwise⟩ := inductionHypothesis marked
      exact ⟨fun span member => Nat.le_of_succ_le (behind span member), pairwise⟩
    | element digits content =>
      obtain ⟨atomId, later, -, markedLater, rfl⟩ := markedSpans_element_eq_ok_iff.mp marked
      obtain ⟨behind, pairwise⟩ := inductionHypothesis markedLater
      have start_le : ∀ span ∈ later, position ≤ span.start :=
        fun span member => Nat.le_trans (Nat.le_add_right _ _) (behind span member)
      refine ⟨?_, List.pairwise_cons.mpr ⟨?_, pairwise⟩⟩
      · intro span member
        rcases List.mem_cons.mp member with rfl | member
        · exact Nat.le_refl _
        · exact start_le span member
      · exact fun span member => ⟨start_le span member, behind span member⟩

end Statute.Highlight
