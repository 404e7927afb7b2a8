import Mathlib.Data.List.Chain
import Statute.Highlight.Piece
import Statute.Proofs.Highlight.Accepted
import Statute.Proofs.Text.ByteOffsets

/-!
# Cutting a text at its spans

Highlighting loses and invents nothing. The pieces are the text in order, the highlighted ones are
the accepted spans with the characters they cover, and plain text is never empty and never split.
The text is cut at byte offsets that are looked up by character position; every offset that is
looked up is there, and every cut is possible.
-/

namespace Statute

/-- The characters of a text that a span covers. -/
def Span.covered (span : Span) (text : List Char) : List Char :=
  (text.drop span.start.toNat).take span.length

namespace Highlight

open Text

/-- The piece of a text that a span highlights. -/
def highlightedPiece (text : List Char) (span : Span) : Piece :=
  .highlighted span.atomId (String.ofList (span.covered text)) (Color.ofId span.atomId)

/-- Cuts a text from a position on at spans, at byte offsets that are looked up for the positions.
There is no result when an offset is missing or when the text cannot be cut at one. -/
def cutAtOffsets? (text : List Char) (offsets : List Nat) (position : Nat) :
    List Span → Option (List Piece)
  | [] => do
    let last ← offsets[position]?
    let (_, behind) ← splitAtByte? last text
    return plainPiece behind
  | span :: later => do
    let last ← offsets[position]?
    let start ← offsets[span.start.toNat]?
    let before ← slice? last start text
    let finish ← offsets[span.finish.toNat]?
    let inside ← slice? start finish text
    let pieces ← cutAtOffsets? text offsets span.finish.toNat later
    return plainPiece before ++
      .highlighted span.atomId (String.ofList inside) (Color.ofId span.atomId) :: pieces

/-- The pieces of a text whose atoms are highlighted, cut at byte offsets. There is no result when
the text would be read outside of it. -/
def highlightAtOffsets? (policy : OverlapPolicy) (text : String) (atoms : List Atom) :
    Option (Except SpanError (List Piece)) :=
  match resolve policy text.toList.length atoms with
  | .error error => some (.error error)
  | .ok spans =>
    (cutAtOffsets? text.toList (characterOffsets 0 text.toList) 0 spans).map .ok

/-- The pieces of what remains of a text behind the characters passed: each span leaves the
characters before it plain and covers at least one character, up to its end. -/
inductive CutInto : (passed remaining : List Char) → List Span → List Piece → Prop where
  | rest (passed remaining : List Char) : CutInto passed remaining [] (plainPiece remaining)
  | span {passed before inside behind : List Char} {span : Span} {later : List Span}
      {pieces : List Piece}
      (start : (passed ++ before).length = span.start.toNat)
      (finish : (passed ++ before ++ inside).length = span.finish.toNat)
      (nonempty : inside ≠ [])
      (follows : CutInto (passed ++ before ++ inside) behind later pieces) :
      CutInto passed (before ++ (inside ++ behind)) (span :: later)
        (plainPiece before ++
          .highlighted span.atomId (String.ofList inside) (Color.ofId span.atomId) :: pieces)

/-- A text can be cut behind any number of characters that it has. -/
theorem exists_append_of_le_length {text : List Char} {count : Nat} (has : count ≤ text.length) :
    ∃ front back, text = front ++ back ∧ front.length = count :=
  ⟨text.take count, text.drop count, (List.take_append_drop count text).symm,
    List.length_take_of_le has⟩

/-- Cutting at spans that follow each other gives such pieces. -/
theorem cutInto_cut {passed remaining : List Char} {spans : List Span}
    (consecutive : Consecutive (passed ++ remaining).length passed.length spans) :
    CutInto passed remaining spans (cut passed.length remaining spans) := by
  induction spans generalizing passed remaining with
  | nil => exact .rest passed remaining
  | cons span later inductionHypothesis =>
    cases consecutive with
    | span notBefore nonempty follows =>
      have withinText := follows.position_le
      rw [List.length_append] at withinText
      -- What remains falls into the characters before the span, those in it and those behind it.
      obtain ⟨before, rest, rfl, beforeLength⟩ :=
        exists_append_of_le_length (show span.start.toNat - passed.length ≤ remaining.length by omega)
      rw [List.length_append] at withinText
      obtain ⟨inside, behind, rfl, insideLength⟩ :=
        exists_append_of_le_length (show span.length ≤ rest.length by rw [Span.length]; omega)
      have start : (passed ++ before).length = span.start.toNat := by
        rw [List.length_append]
        omega
      have finish : (passed ++ before ++ inside).length = span.finish.toNat := by
        rw [List.length_append, start, insideLength, Span.length]
        omega
      have covers : inside ≠ [] := by
        apply List.ne_nil_of_length_pos
        rw [insideLength, Span.length]
        omega
      have whole : passed ++ (before ++ (inside ++ behind)) =
          passed ++ before ++ inside ++ behind := by
        simp only [List.append_assoc]
      rw [whole, ← finish] at follows
      have cuts := CutInto.span start finish covers (inductionHypothesis follows)
      rw [cut, ← beforeLength, List.take_left, List.drop_left, ← insideLength, List.take_left,
        List.drop_left, ← finish]
      exact cuts

/-- What is read off a plain piece is read off it also where an empty one was left out, when there
is nothing to read off an empty one. -/
theorem flatMap_plainPiece {α : Type} (read : Piece → List α) (text : List Char)
    (nothing : read (.plain "") = []) :
    (plainPiece text).flatMap read = read (.plain (String.ofList text)) := by
  unfold plainPiece
  split
  next empty =>
    rw [List.isEmpty_iff.mp empty, List.flatMap_nil]
    exact nothing.symm
  next => rw [List.flatMap_singleton]

/-- A plain piece belongs to no atom. -/
theorem filter_plainPiece (text : List Char) :
    (plainPiece text).filter (fun piece => piece.atomId?.isSome) = [] := by
  unfold plainPiece
  split
  · rfl
  · rfl

/-- A plain piece is only there when it has a text. -/
theorem text_ne_nil_of_mem_plainPiece {text : List Char} {piece : Piece}
    (member : piece ∈ plainPiece text) : piece.text.toList ≠ [] := by
  unfold plainPiece at member
  split at member
  next => exact nomatch member
  next nonempty =>
    obtain rfl := List.mem_singleton.mp member
    rw [Piece.text, String.toList_ofList]
    exact fun empty => nonempty (List.isEmpty_iff.mpr empty)

/-- Of two neighbours at least one is highlighted. -/
def NotBothPlain (left right : Piece) : Prop :=
  left.atomId?.isSome ∨ right.atomId?.isSome

/-- A plain piece may stand in front of pieces of which the first is highlighted. -/
theorem isChain_plainPiece_append (text : List Char) {pieces : List Piece}
    (chain : pieces.IsChain NotBothPlain)
    (highlightedFirst : ∀ piece ∈ pieces.head?, piece.atomId?.isSome) :
    (plainPiece text ++ pieces).IsChain NotBothPlain := by
  unfold plainPiece
  split
  · exact chain
  · exact chain.cons fun piece first => .inr (highlightedFirst piece first)

namespace CutInto

variable {passed remaining : List Char} {spans : List Span} {pieces : List Piece}

/-- The pieces are the text that they are pieces of, in order. -/
theorem flatMap_text (cutInto : CutInto passed remaining spans pieces) :
    (pieces.flatMap fun piece => piece.text.toList) = remaining := by
  induction cutInto with
  | rest passed remaining =>
    rw [flatMap_plainPiece _ _ rfl, Piece.text, String.toList_ofList]
  | span _ _ _ _ inductionHypothesis =>
    rw [List.flatMap_append, flatMap_plainPiece _ _ rfl, List.flatMap_cons, inductionHypothesis,
      Piece.text, Piece.text, String.toList_ofList, String.toList_ofList]

/-- The characters between the ends of a span are those that it covers. -/
theorem covered_eq {passed before inside behind : List Char} {span : Span}
    (start : (passed ++ before).length = span.start.toNat)
    (finish : (passed ++ before ++ inside).length = span.finish.toNat) :
    span.covered (passed ++ (before ++ (inside ++ behind))) = inside := by
  have length : inside.length = span.length := by
    rw [List.length_append, start] at finish
    rw [Span.length, ← finish, Nat.add_sub_cancel_left]
  rw [Span.covered, ← List.append_assoc, ← start, List.drop_left, ← length, List.take_left]

/-- The highlighted pieces are the spans in order, each with the characters that it covers. -/
theorem filter_eq (cutInto : CutInto passed remaining spans pieces) :
    pieces.filter (fun piece => piece.atomId?.isSome) =
      spans.map (highlightedPiece (passed ++ remaining)) := by
  induction cutInto with
  | rest passed remaining => exact filter_plainPiece remaining
  | span start finish _ _ inductionHypothesis =>
    rw [List.filter_append, filter_plainPiece, List.nil_append, List.filter_cons_of_pos rfl,
      inductionHypothesis, List.map_cons, highlightedPiece, covered_eq start finish]
    simp only [List.append_assoc]

/-- No piece is empty. -/
theorem text_ne_nil (cutInto : CutInto passed remaining spans pieces) {piece : Piece}
    (member : piece ∈ pieces) : piece.text.toList ≠ [] := by
  induction cutInto with
  | rest passed remaining => exact text_ne_nil_of_mem_plainPiece member
  | span _ _ nonempty _ inductionHypothesis =>
    rw [List.mem_append, List.mem_cons] at member
    rcases member with member | rfl | member
    · exact text_ne_nil_of_mem_plainPiece member
    · rw [Piece.text, String.toList_ofList]
      exact nonempty
    · exact inductionHypothesis member

/-- Plain text is not split. -/
theorem isChain (cutInto : CutInto passed remaining spans pieces) :
    pieces.IsChain NotBothPlain := by
  induction cutInto with
  | rest passed remaining =>
    rw [← List.append_nil (plainPiece remaining)]
    exact isChain_plainPiece_append remaining .nil fun _ first => nomatch first
  | span _ _ _ _ inductionHypothesis =>
    refine isChain_plainPiece_append _ (inductionHypothesis.cons fun _ _ => .inl rfl) ?_
    rintro piece ⟨⟩
    rfl

/-- Every offset that is looked up is that of a place in the text, and the text can be cut there. -/
theorem cutAtOffsets?_eq_some (cutInto : CutInto passed remaining spans pieces) :
    cutAtOffsets? (passed ++ remaining) (characterOffsets 0 (passed ++ remaining)) passed.length
      spans = some pieces := by
  have offset (before behind : List Char) :
      (characterOffsets 0 (before ++ behind))[before.length]? = some (byteLength before) := by
    rw [getElem?_characterOffsets, Nat.zero_add]
  induction cutInto with
  | rest passed remaining =>
    rw [cutAtOffsets?, offset]
    simp only [Option.bind_eq_bind, Option.bind_some, splitAtByte?_byteLength]
    rfl
  | @span passed before inside behind span later pieces start finish _ _ inductionHypothesis =>
    have fromStart : passed ++ (before ++ (inside ++ behind)) =
        passed ++ before ++ (inside ++ behind) := by
      simp only [List.append_assoc]
    have fromFinish : passed ++ (before ++ (inside ++ behind)) =
        passed ++ before ++ inside ++ behind := by
      simp only [List.append_assoc]
    -- The same text, once for each of the two places that it is cut at.
    have startOffset := offset (passed ++ before) (inside ++ behind)
    have finishOffset := offset (passed ++ before ++ inside) behind
    have beforeSlice := slice?_byteLength passed before (inside ++ behind)
    have insideSlice := slice?_byteLength (passed ++ before) inside behind
    rw [← fromStart, start] at startOffset
    rw [← fromFinish, finish] at finishOffset
    rw [← fromStart] at insideSlice
    rw [← fromFinish, finish] at inductionHypothesis
    rw [cutAtOffsets?, offset, startOffset, finishOffset, inductionHypothesis]
    simp only [Option.bind_eq_bind, Option.bind_some, beforeSlice, insideSlice]
    rfl

end CutInto

/-- Texts one after the other, as characters. -/
theorem toList_joined (texts : List String) :
    (joined "" texts).toList = texts.flatMap String.toList := by
  induction texts with
  | nil => rfl
  | cons first others inductionHypothesis =>
    cases others with
    | nil => simp [joined]
    | cons => simpa [joined] using inductionHypothesis

/-- Reassembled pieces are their texts one after the other. -/
theorem toList_reassemble (pieces : List Piece) :
    (reassemble pieces).toList = pieces.flatMap fun piece => piece.text.toList := by
  rw [reassemble, toList_joined, List.flatMap_map]

/-- Accepted spans cut the whole text. -/
theorem cutInto_of_resolve {policy : OverlapPolicy} {text : String} {atoms : List Atom}
    {spans : List Span} (resolved : resolve policy text.toList.length atoms = .ok spans) :
    CutInto [] text.toList spans (cut 0 text.toList spans) := by
  have consecutive : Consecutive ([] ++ text.toList).length ([] : List Char).length spans :=
    consecutive_of_resolve resolved
  exact cutInto_cut consecutive

/-- The pieces of a text are cut out of it at the accepted spans. -/
theorem exists_cutInto_of_highlight {policy : OverlapPolicy} {text : String} {atoms : List Atom}
    {pieces : List Piece} (highlighted : highlight policy text atoms = .ok pieces) :
    ∃ spans, resolve policy text.toList.length atoms = .ok spans ∧
      CutInto [] text.toList spans pieces := by
  obtain ⟨spans, resolved, rfl⟩ := map_eq_ok_iff.mp highlighted
  exact ⟨spans, resolved, cutInto_of_resolve resolved⟩

/-- Highlighting never reads outside of the text, whatever the spans are, and it loses and invents
nothing: the pieces are the text, the highlighted pieces are the accepted spans with the numbers of
the atoms that own them, no piece is empty, and plain text is not split. -/
theorem highlight_loses_and_invents_nothing (policy : OverlapPolicy) (text : String)
    (atoms : List Atom) :
    highlightAtOffsets? policy text atoms = some (highlight policy text atoms) ∧
      ∀ pieces, highlight policy text atoms = .ok pieces →
        reassemble pieces = text ∧
        (∃ spans, resolve policy text.toList.length atoms = .ok spans ∧
          (∀ span ∈ spans, ∃ atom ∈ atoms, ∃ own ∈ atom.spans,
            span = { own with atomId := atom.id }) ∧
          pieces.filter (fun piece => piece.atomId?.isSome) =
            spans.map (highlightedPiece text.toList)) ∧
        (∀ piece ∈ pieces, piece.text ≠ "") ∧
        pieces.IsChain NotBothPlain := by
  constructor
  · rw [highlightAtOffsets?, highlight]
    cases resolved : resolve policy text.toList.length atoms with
    | error error => rfl
    | ok spans =>
      have cuts := (cutInto_of_resolve resolved).cutAtOffsets?_eq_some
      rw [List.nil_append, List.length_nil] at cuts
      simp only [cuts, Option.map_some, Except.map]
  · intro pieces highlighted
    obtain ⟨spans, resolved, cutInto⟩ := exists_cutInto_of_highlight highlighted
    refine ⟨?_, ⟨spans, resolved, fun span => owned_of_resolve resolved, cutInto.filter_eq⟩, ?_,
      cutInto.isChain⟩
    · rw [← String.toList_inj, toList_reassemble, cutInto.flatMap_text]
    · intro piece member
      have nonempty := cutInto.text_ne_nil member
      rwa [ne_eq, String.toList_eq_nil_iff] at nonempty

/-- Three spans of two atoms in one text, of which the second runs into the first one. -/
def exampleAtoms : List Atom :=
  [⟨4, 1, "small(X)", "", false, true, [⟨1, 9, 4, 6⟩, ⟨2, 9, 1, 3⟩]⟩,
    ⟨-2, 1, "round(X)", "", false, true, [⟨3, 9, 2, 5⟩]⟩]

/-- The pieces of a text that is highlighted with the atoms of the example. -/
def examplePieces : List Piece :=
  [.plain "é", .highlighted 4 "€😀" (Color.ofId 4), .plain " ", .highlighted 4 "bö" (Color.ofId 4)]

/-- Where the first of two overlapping spans wins, the example loses and invents nothing. -/
theorem examplePieces_lose_and_invent_nothing :
    highlight .firstWins "é€😀 bö" exampleAtoms = .ok examplePieces ∧
      reassemble examplePieces = "é€😀 bö" ∧
      (∃ spans, resolve .firstWins 6 exampleAtoms = .ok spans ∧
        (∀ span ∈ spans, ∃ atom ∈ exampleAtoms, ∃ own ∈ atom.spans,
          span = { own with atomId := atom.id }) ∧
        examplePieces.filter (fun piece => piece.atomId?.isSome) =
          spans.map (highlightedPiece "é€😀 bö".toList)) ∧
      (∀ piece ∈ examplePieces, piece.text ≠ "") ∧ examplePieces.IsChain NotBothPlain := by
  have ordered : orderedSpans exampleAtoms = [⟨2, 4, 1, 3⟩, ⟨3, -2, 2, 5⟩, ⟨1, 4, 4, 6⟩] := by
    simp [orderedSpans, ownedSpans, exampleAtoms, List.mergeSort, startsNoLater,
      List.MergeSort.Internal.splitInTwo]
  have highlighted : highlight .firstWins "é€😀 bö" exampleAtoms = .ok examplePieces := by
    rw [highlight, resolve, ordered]
    decide
  exact ⟨highlighted, (highlight_loses_and_invents_nothing _ _ _).2 _ highlighted⟩

end Highlight

end Statute
