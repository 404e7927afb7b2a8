import Statute.Highlight.Annotation
import Statute.Proofs.Highlight.Cutting
import Statute.Proofs.Number.Digits
import Statute.Proofs.Text.FirstPlace

/-!
# Markup read back

Annotated text is read back as the text and the spans that it was made of, as long as the text has
no tags of its own. Tags cannot come about where text and markup meet: a tag has its only `<` in
front, and what follows plain text is another tag or the end.
-/

namespace Statute.Highlight

open Text

/-- A text in which neither an opening nor a closing tag begins and ends. -/
structure Untagged (text : List Char) : Prop where
  noOpening : ¬ openingText <:+: text
  noClosing : ¬ closingText <:+: text

/-- Stretches of a text without tags have none. -/
theorem Untagged.of_isInfix {text stretch : List Char} (untagged : Untagged text)
    (inside : stretch <:+: text) : Untagged stretch where
  noOpening present := untagged.noOpening (present.trans inside)
  noClosing present := untagged.noClosing (present.trans inside)

/-- The parts that a piece with its markup is read as. -/
def Piece.parts : Piece → List Part
  | plain text => text.toList.map .character
  | highlighted atomId text _ => [.element (toString atomId.toInt).toList text.toList]

/-- An element with its tags. -/
def elementText (digits content : List Char) : List Char :=
  openingText ++ (digits ++ (openingEnd ++ (content ++ closingText)))

/-- No element begins in text without opening tags, when the end or a tag follows the text. -/
theorem splitElement?_eq_none {text rest : List Char} (absent : ¬ openingText <:+: text)
    (nonempty : text ≠ []) (follows : ∀ character ∈ rest.head?, character = '<') :
    splitElement? (text ++ rest) = none := by
  have opens : openingText.isPrefixOf? (text ++ rest) = none := by
    rw [Option.eq_none_iff_forall_ne_some]
    intro tagged found
    refine not_isPrefix_append (by decide) absent nonempty follows ⟨tagged, ?_⟩
    exact (isPrefixOf?_eq_some_iff.mp found).symm
  rw [splitElement?, opens]
  rfl

/-- The element at the beginning of a text ends with the first closing tag. -/
theorem splitElement?_elementText {digits content : List Char} (nonempty : digits ≠ [])
    (decimal : ∀ digit ∈ digits, isDecimalDigit digit = true)
    (absent : ¬ closingText <:+: content) (rest : List Char) :
    splitElement? (elementText digits content ++ rest) = some (digits, content, rest) := by
  have whole : elementText digits content ++ rest =
      openingText ++ (digits ++ (openingEnd ++ (content ++ (closingText ++ rest)))) := by
    simp only [elementText, List.append_assoc]
  have stops : ∀ character ∈ (openingEnd ++ (content ++ (closingText ++ rest))).head?,
      isDecimalDigit character = false := by
    rintro character ⟨⟩
    decide
  obtain ⟨taken, dropped⟩ := takeWhile_append_of_ends decimal stops
  have opening (behind : List Char) : openingText.isPrefixOf? (openingText ++ behind) = some behind :=
    isPrefixOf?_eq_some_iff.mpr rfl
  have ending (behind : List Char) : openingEnd.isPrefixOf? (openingEnd ++ behind) = some behind :=
    isPrefixOf?_eq_some_iff.mpr rfl
  have closing : splitFirst closingText (content ++ (closingText ++ rest)) = some (content, rest) :=
    splitFirst_append (by decide) absent rest
  rw [whole, splitElement?, opening]
  simp only [Option.bind_eq_bind, Option.bind_some, taken, dropped, ending, closing,
    List.isEmpty_eq_false_iff.mpr nonempty]
  rfl

/-- An element is read as one part. -/
theorem parts_of_splitElement? {annotated digits content rest : List Char}
    (split : splitElement? annotated = some (digits, content, rest)) :
    parts annotated = .element digits content :: parts rest := by
  cases annotated with
  | nil => exact nomatch split
  | cons character others =>
    rw [parts]
    split
    next found =>
      rw [split] at found
      obtain ⟨rfl, rfl, rfl⟩ := found
      rfl
    next found =>
      rw [split] at found
      cases found

/-- A character with which no element begins is a part of its own. -/
theorem parts_cons {character : Char} {rest : List Char}
    (nothing : splitElement? (character :: rest) = none) :
    parts (character :: rest) = .character character :: parts rest := by
  rw [parts]
  split
  next found =>
    rw [nothing] at found
    cases found
  next => rfl

/-- Text without opening tags is read as its characters, when the end or a tag follows it. -/
theorem parts_append {text rest : List Char} (absent : ¬ openingText <:+: text)
    (follows : ∀ character ∈ rest.head?, character = '<') :
    parts (text ++ rest) = text.map .character ++ parts rest := by
  induction text with
  | nil => rfl
  | cons character text inductionHypothesis =>
    have absentLater : ¬ openingText <:+: text :=
      fun present => absent (present.trans (List.suffix_cons character text).isInfix)
    have noElement := splitElement?_eq_none absent (List.cons_ne_nil _ _) follows
    rw [List.cons_append] at noElement
    rw [List.cons_append, parts_cons noElement, inductionHypothesis absentLater, List.map_cons,
      List.cons_append]

/-- Digits of numbers without minus sign are decimal digits of the kind that tags have. -/
theorem isDecimalDigit_of_mem_toString {value : Int} (nonnegative : 0 ≤ value) {digit : Char}
    (member : digit ∈ (toString value).toList) : isDecimalDigit digit = true := by
  rw [Number.toList_toString_of_nonneg nonnegative] at member
  have ascii := Number.isDigit_of_mem_toDigits member
  have below : digit.toNat < 0x80 := by
    simp only [Number.isDigit, Bool.and_eq_true, decide_eq_true_eq, Char.le_def,
      UInt32.le_iff_toNat_le] at ascii
    have upper : digit.toNat ≤ 57 := ascii.2
    omega
  rw [isDecimalDigit, if_pos below, ← Number.isDigit_eq, ascii]

/-- A highlighted piece is annotated as an element with the number of its atom. -/
theorem toList_annotated_highlighted (atomId : AtomId) (text : String) (color : HighlightColor) :
    (Piece.highlighted atomId text color).annotated.toList =
      elementText (toString atomId.toInt).toList text.toList := by
  simp [Piece.annotated, elementText]

/-- A plain piece is annotated as it is. -/
theorem flatMap_annotated_plainPiece (text : List Char) :
    ((plainPiece text).flatMap fun piece => piece.annotated.toList) = text := by
  rw [flatMap_plainPiece _ _ rfl, Piece.annotated, String.toList_ofList]

/-- A plain piece has no parts but characters. -/
theorem flatMap_parts_plainPiece (text : List Char) :
    (plainPiece text).flatMap Piece.parts = text.map .character := by
  rw [flatMap_plainPiece _ _ rfl, Piece.parts, String.toList_ofList]

/-- Characters move the position on and mark nothing. -/
theorem markedSpans_characters (position : Nat) (text : List Char) (rest : List Part) :
    markedSpans position (text.map .character ++ rest) = markedSpans (position + text.length) rest := by
  induction text generalizing position with
  | nil => rfl
  | cons character text inductionHypothesis =>
    rw [List.map_cons, List.cons_append, markedSpans, inductionHypothesis, List.length_cons]
    congr 1
    omega

/-- The parts of pieces have the texts of the pieces as their content. -/
theorem flatMap_content_parts (pieces : List Piece) :
    (pieces.flatMap Piece.parts).flatMap Part.content =
      pieces.flatMap fun piece => piece.text.toList := by
  rw [List.flatMap_assoc]
  congr 1
  funext piece
  cases piece with
  | plain text => simp [Piece.parts, Part.content, Piece.text, List.flatMap_map]
  | highlighted => simp [Piece.parts, Part.content, Piece.text]

/-- The place that a span marks. -/
def markOf (span : Span) : MarkedSpan :=
  ⟨span.atomId, span.start.toNat, span.finish.toNat⟩

namespace CutInto

variable {passed remaining : List Char} {spans : List Span} {pieces : List Piece}

/-- Pieces with their markup are read as the parts that they are. -/
theorem parts_annotated (cutInto : CutInto passed remaining spans pieces)
    (untagged : Untagged remaining) (nonnegative : ∀ span ∈ spans, 0 ≤ span.atomId.toInt) :
    parts (pieces.flatMap fun piece => piece.annotated.toList) = pieces.flatMap Piece.parts := by
  induction cutInto with
  | rest passed remaining =>
    have follows : ∀ character ∈ ([] : List Char).head?, character = '<' :=
      fun _ first => nomatch first
    have read := parts_append untagged.noOpening follows
    rw [List.append_nil] at read
    rw [flatMap_annotated_plainPiece, flatMap_parts_plainPiece, read, parts, List.append_nil]
  | @span passed before inside behind span later pieces _ _ _ _ inductionHypothesis =>
    -- Plain text before the span, the element, and the rest by induction. A tag follows the plain
    -- text, so that nothing begins in it; the element ends at its own closing tag.
    have untaggedBefore : Untagged before :=
      untagged.of_isInfix (List.prefix_append before _).isInfix
    have untaggedInside : Untagged inside :=
      untagged.of_isInfix ⟨before, behind, by simp only [List.append_assoc]⟩
    have untaggedBehind : Untagged behind :=
      untagged.of_isInfix ⟨before ++ inside, [], by simp only [List.append_assoc, List.append_nil]⟩
    have spanNonnegative := nonnegative span List.mem_cons_self
    have digits : (toString span.atomId.toInt).toList ≠ [] := by
      rw [Number.toList_toString_of_nonneg spanNonnegative]
      exact Nat.toDigits_ne_nil
    have element := parts_of_splitElement? (splitElement?_elementText digits
      (fun _ => isDecimalDigit_of_mem_toString spanNonnegative) untaggedInside.noClosing
      (pieces.flatMap fun piece => piece.annotated.toList))
    have rest := inductionHypothesis untaggedBehind
      fun other member => nonnegative other (List.mem_cons_of_mem _ member)
    rw [List.flatMap_append, List.flatMap_append, flatMap_annotated_plainPiece,
      flatMap_parts_plainPiece, List.flatMap_cons, List.flatMap_cons, toList_annotated_highlighted,
      String.toList_ofList, parts_append untaggedBefore.noOpening (by rintro _ ⟨⟩; rfl), element, rest,
      Piece.parts, String.toList_ofList, List.singleton_append]

/-- The parts of the pieces mark the places of the spans. -/
theorem markedSpans_parts (cutInto : CutInto passed remaining spans pieces) :
    markedSpans passed.length (pieces.flatMap Piece.parts) = .ok (spans.map markOf) := by
  induction cutInto with
  | rest passed remaining =>
    have marks := markedSpans_characters passed.length remaining []
    rw [List.append_nil] at marks
    rw [flatMap_parts_plainPiece, marks]
    rfl
  | @span passed before inside behind span later pieces start finish _ _ inductionHypothesis =>
    have rest := inductionHypothesis
    have reads := Number.readInt64?_toString span.atomId
    have length : span.start.toNat + inside.length = span.finish.toNat := by
      rw [List.length_append, start] at finish
      exact finish
    rw [finish] at rest
    rw [List.flatMap_append, flatMap_parts_plainPiece, markedSpans_characters, ← List.length_append,
      start, List.flatMap_cons, Piece.parts, List.singleton_append, markedSpans, String.ofList_toList,
      reads, String.toList_ofList, length]
    simp only [rest]
    rfl

end CutInto

/-- The places that parts mark, found by counting: the characters read so far, and those among them
that belong to markup. There is no result when more had been removed than were read. -/
def countedSpans? (read removed : Nat) :
    List Part → Option (Except InvalidAnnotation (List MarkedSpan))
  | [] => some (.ok [])
  | .character _ :: rest => countedSpans? (read + 1) removed rest
  | .element digits content :: rest =>
    match Number.readInt64? (String.ofList digits) with
    | none => some (.error ⟨String.ofList digits⟩)
    | some atomId =>
      if removed ≤ read then
        let start := read - removed
        let whole := (elementText digits content).length
        (countedSpans? (read + whole) (removed + (whole - content.length)) rest).map
          fun later => later.map (⟨atomId, start, start + content.length⟩ :: ·)
      else none

/-- Counting finds the same places: markup that was read is never more than all that was read. -/
theorem countedSpans?_eq_some {read removed : Nat} (parts : List Part) (counted : removed ≤ read) :
    countedSpans? read removed parts = some (markedSpans (read - removed) parts) := by
  induction parts generalizing read removed with
  | nil => rfl
  | cons part rest inductionHypothesis =>
    cases part with
    | character value =>
      have position : read + 1 - removed = read - removed + 1 := by omega
      rw [countedSpans?, markedSpans, inductionHypothesis (by omega), position]
    | element digits content =>
      rw [countedSpans?, markedSpans]
      cases Number.readInt64? (String.ofList digits) with
      | none => rfl
      | some atomId =>
        -- An element is longer than its content, so the difference can be taken without going below
        -- zero.
        have markup : content.length ≤ (elementText digits content).length := by
          simp only [elementText, List.length_append]
          omega
        have laterCounted : removed + ((elementText digits content).length - content.length) ≤
            read + (elementText digits content).length := by
          omega
        have later := inductionHypothesis laterCounted
        have position : read + (elementText digits content).length -
            (removed + ((elementText digits content).length - content.length)) =
              read - removed + content.length := by
          omega
        rw [position] at later
        simp only [if_pos counted, later, Option.map_some]
        cases markedSpans (read - removed + content.length) rest <;> rfl

/-- Annotations are read back, where neither an opening nor a whole closing tag is part of the text
and no atom has a negative number: without its markup an annotated text is the text, and the places
that it marks are the accepted spans in the order of the text. Counting removed characters finds the
same places. -/
theorem annotate_reads_back {policy : OverlapPolicy} {text annotated : String} {atoms : List Atom}
    (noOpening : ¬ openingText <:+: text.toList) (noClosing : ¬ closingText <:+: text.toList)
    (nonnegative : ∀ atom ∈ atoms, 0 ≤ atom.id.toInt)
    (annotates : annotate policy text atoms = .ok annotated) :
    stripAnnotations annotated = text ∧
      ∃ spans, resolve policy text.toList.length atoms = .ok spans ∧
        spans.Pairwise (fun left right => left.finish.toNat ≤ right.start.toNat) ∧
        extractSpans annotated =
          .ok (spans.map fun span => ⟨span.atomId, span.start.toNat, span.finish.toNat⟩) ∧
        countedSpans? 0 0 (parts annotated.toList) = some (extractSpans annotated) := by
  obtain ⟨pieces, highlighted, rfl⟩ := map_eq_ok_iff.mp annotates
  obtain ⟨spans, resolved, cutInto⟩ := exists_cutInto_of_highlight highlighted
  have spansNonnegative : ∀ span ∈ spans, 0 ≤ span.atomId.toInt := by
    intro span member
    obtain ⟨atom, ofAtoms, own, -, rfl⟩ := owned_of_resolve resolved member
    exact nonnegative atom ofAtoms
  have markup : (joined "" (pieces.map Piece.annotated)).toList =
      pieces.flatMap fun piece => piece.annotated.toList := by
    rw [toList_joined, List.flatMap_map]
  have read := cutInto.parts_annotated ⟨noOpening, noClosing⟩ spansNonnegative
  rw [← markup] at read
  refine ⟨?_, spans, resolved, (consecutive_of_resolve resolved).pairwise, ?_,
    countedSpans?_eq_some _ (Nat.le_refl 0)⟩
  · rw [stripAnnotations, read, flatMap_content_parts, cutInto.flatMap_text, String.ofList_toList]
  · rw [extractSpans, read]
    exact cutInto.markedSpans_parts

/-- An atom that covers the end of a text, from the tenth character on. -/
def exampleEnding : List Atom :=
  [⟨12, 1, "ending(X)", "", false, true, [⟨1, 0, 9, 16⟩]⟩]

/-- The text and its ending are read back although both look like the beginnings of tags. -/
theorem exampleEnding_reads_back :
    ¬ openingText <:+: "<atom id=né</ato".toList ∧ ¬ closingText <:+: "<atom id=né</ato".toList ∧
      (∀ atom ∈ exampleEnding, 0 ≤ atom.id.toInt) ∧
      annotate .reject "<atom id=né</ato" exampleEnding =
        .ok "<atom id=<atom id=\"12\">né</ato</atom>" ∧
      stripAnnotations "<atom id=<atom id=\"12\">né</ato</atom>" = "<atom id=né</ato" ∧
      extractSpans "<atom id=<atom id=\"12\">né</ato</atom>" = .ok [⟨12, 9, 16⟩] := by
  have noQuote : '"' ∉ "<atom id=né</ato".toList := by decide
  have noBracket : '>' ∉ "<atom id=né</ato".toList := by decide
  have noOpening : ¬ openingText <:+: "<atom id=né</ato".toList :=
    fun present => noQuote (present.subset (by decide))
  have noClosing : ¬ closingText <:+: "<atom id=né</ato".toList :=
    fun present => noBracket (present.subset (by decide))
  have nonnegative : ∀ atom ∈ exampleEnding, 0 ≤ atom.id.toInt := by decide
  have ordered : orderedSpans exampleEnding = [⟨1, 12, 9, 16⟩] := List.mergeSort_singleton _
  have annotates : annotate .reject "<atom id=né</ato" exampleEnding =
      .ok "<atom id=<atom id=\"12\">né</ato</atom>" := by
    rw [annotate, highlight, resolve, ordered]
    decide
  have accepts : resolve .reject 16 exampleEnding = .ok [⟨1, 12, 9, 16⟩] := by
    rw [resolve, ordered]
    decide
  obtain ⟨strips, spans, resolved, -, extracts, -⟩ :=
    annotate_reads_back noOpening noClosing nonnegative annotates
  obtain rfl := Except.ok.inj (accepts.symm.trans resolved)
  exact ⟨noOpening, noClosing, nonnegative, annotates, strips, extracts⟩

end Statute.Highlight
