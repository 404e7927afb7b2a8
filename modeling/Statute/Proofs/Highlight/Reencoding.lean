import Statute.Proofs.Highlight.Decoding
import Statute.Proofs.Highlight.Disjointness

/-!
# Decoded text annotated again

Decoding is undone by annotating: the text without markup, highlighted with atoms that cover the
marked places, is the annotated text. Elements have to cover a character each, since empty spans are
refused, and their numbers have to be written as annotating writes them.
-/

namespace Statute.Highlight

open Text

/-- Atoms with different numbers that cover the marked places, each with the places that have its
number. -/
structure BuiltFrom (spans : List MarkedSpan) (atoms : List Atom) : Prop where
  apart : (atoms.map Atom.id).Nodup
  places : ((ownedSpans atoms).map markOf).Perm spans

/-- The span that covers a marked place. -/
def MarkedSpan.toSpan (mark : MarkedSpan) : Span :=
  ⟨0, mark.atomId, .ofNat mark.start, .ofNat mark.finish⟩

/-- Gives a marked place to the atom with its number, or to a new atom when there is none. -/
def addMark (mark : MarkedSpan) : List Atom → List Atom
  | [] => [⟨mark.atomId, 0, "", "", false, true, [mark.toSpan]⟩]
  | atom :: others =>
    if atom.id = mark.atomId then { atom with spans := mark.toSpan :: atom.spans } :: others
    else atom :: addMark mark others

/-- One atom for each number that is marked, with the places that have the number. -/
def atomsMarking (spans : List MarkedSpan) : List Atom :=
  spans.foldr addMark []

/-- A mark within the bounds of machine numbers is read off the span that it becomes. -/
theorem markOf_toSpan {mark : MarkedSpan} (start : mark.start < UInt64.size)
    (finish : mark.finish < UInt64.size) : markOf mark.toSpan = mark := by
  simp only [MarkedSpan.toSpan, markOf, UInt64.toNat_ofNat_of_lt' start,
    UInt64.toNat_ofNat_of_lt' finish]

/-- A mark adds its own number to those of the atoms, unless one of them has it. -/
theorem mem_addMark_id_iff {mark : MarkedSpan} {atoms : List Atom} {id : AtomId} :
    id ∈ (addMark mark atoms).map Atom.id ↔ id = mark.atomId ∨ id ∈ atoms.map Atom.id := by
  induction atoms with
  | nil => simp [addMark]
  | cons atom others inductionHypothesis =>
    rw [addMark]
    split
    next same => simp [same]
    next =>
      rw [List.map_cons, List.map_cons, List.mem_cons, List.mem_cons, inductionHypothesis]
      exact or_left_comm

/-- A mark is added to the atom that has its number, or else with a new one, so that numbers stay
different. -/
theorem nodup_addMark {mark : MarkedSpan} {atoms : List Atom}
    (apart : (atoms.map Atom.id).Nodup) : ((addMark mark atoms).map Atom.id).Nodup := by
  induction atoms with
  | nil => exact List.pairwise_singleton _ _
  | cons atom others inductionHypothesis =>
    rw [addMark]
    split
    next => exact apart
    next other =>
      rw [List.map_cons, List.nodup_cons] at apart ⊢
      refine ⟨?_, inductionHypothesis apart.2⟩
      rw [mem_addMark_id_iff]
      rintro (same | member)
      · exact other same
      · exact apart.1 member

/-- A mark adds its place to those that the atoms own. -/
theorem perm_ownedSpans_addMark (mark : MarkedSpan) (atoms : List Atom) :
    (ownedSpans (addMark mark atoms)).Perm (mark.toSpan :: ownedSpans atoms) := by
  induction atoms with
  | nil => exact .refl _
  | cons atom others inductionHypothesis =>
    rw [addMark]
    split
    next same =>
      have owned : { mark.toSpan with atomId := atom.id } = mark.toSpan := by
        rw [same]
        rfl
      simp only [ownedSpans, List.flatMap_cons, List.map_cons, owned, List.cons_append]
      exact .refl _
    next =>
      rw [ownedSpans, List.flatMap_cons, ownedSpans, List.flatMap_cons]
      exact (inductionHypothesis.append_left _).trans List.perm_middle

/-- Positions of sixty-four bits suffice to build atoms. -/
theorem builtFrom_atomsMarking {spans : List MarkedSpan}
    (bounded : ∀ span ∈ spans, span.start < UInt64.size ∧ span.finish < UInt64.size) :
    BuiltFrom spans (atomsMarking spans) := by
  induction spans with
  | nil => exact ⟨.nil, .nil⟩
  | cons mark spans inductionHypothesis =>
    obtain ⟨apart, places⟩ :=
      inductionHypothesis fun span member => bounded span (List.mem_cons_of_mem _ member)
    obtain ⟨start, finish⟩ := bounded mark List.mem_cons_self
    refine ⟨nodup_addMark apart, ((perm_ownedSpans_addMark mark _).map markOf).trans ?_⟩
    rw [List.map_cons, markOf_toSpan start finish]
    exact places.cons mark

/-- The rejecting policy accepts the marked places in their order, when each covers a character of
the text. -/
theorem exists_resolve_of_builtFrom {length : Nat} {spans : List MarkedSpan} {atoms : List Atom}
    (built : BuiltFrom spans atoms)
    (ranges : ∀ span ∈ spans, span.start < span.finish ∧ span.finish ≤ length)
    (pairwise : spans.Pairwise fun left right => left.finish ≤ right.start) :
    ∃ ordered, resolve .reject length atoms = .ok ordered ∧ ordered.map markOf = spans := by
  have rangesOwned : ∀ span ∈ ownedSpans atoms, span.IsRangeOf length := fun span member =>
    ranges (markOf span) (built.places.mem_iff.mp (List.mem_map_of_mem member))
  have disjoint : (ownedSpans atoms).Pairwise Span.Disjoint := by
    have apart : spans.Pairwise fun left right =>
        left.finish ≤ right.start ∨ right.finish ≤ left.start := pairwise.imp .inl
    rw [← built.places.pairwise_iff fun either => either.symm, List.pairwise_map] at apart
    refine apart.imp ?_
    rintro left right (before | behind)
    · exact .of_finish_le before
    · exact (Span.Disjoint.of_finish_le behind).symm
  have consecutive := consecutive_orderedSpans_iff.mpr ⟨rangesOwned, disjoint⟩
  refine ⟨_, resolve_reject_eq_ok_iff.mpr ⟨rfl, consecutive⟩, ?_⟩
  have orderedPairwise : ((orderedSpans atoms).map markOf).Pairwise fun left right =>
      left.finish ≤ right.start := List.pairwise_map.mpr consecutive.pairwise
  have perm : ((orderedSpans atoms).map markOf).Perm spans :=
    ((List.mergeSort_perm _ _).map markOf).trans built.places
  refine List.Perm.eq_of_pairwise ?_ orderedPairwise pairwise perm
  -- No two places that cover a character each end before the other begins.
  intro left right leftMember rightMember leftFirst rightFirst
  have leftRange := ranges left (perm.mem_iff.mp leftMember)
  have rightRange := ranges right rightMember
  omega

/-- A character before all spans stays in front of what is made of the rest. -/
theorem flatMap_annotated_cut_cons {position : Nat} {spans : List Span}
    (behind : ∀ span ∈ spans, position + 1 ≤ span.start.toNat) (value : Char) (text : List Char) :
    (cut position (value :: text) spans).flatMap (fun piece => piece.annotated.toList) =
      value :: (cut (position + 1) text spans).flatMap fun piece => piece.annotated.toList := by
  cases spans with
  | nil => rw [cut, cut, flatMap_annotated_plainPiece, flatMap_annotated_plainPiece]
  | cons span later =>
    have start := behind span List.mem_cons_self
    have before : span.start.toNat - position = span.start.toNat - (position + 1) + 1 := by omega
    simp only [cut, before, List.take_succ_cons, List.drop_succ_cons, List.flatMap_append,
      flatMap_annotated_plainPiece, List.cons_append]

/-- Content cut at the places that its parts mark, with markup again, is what the parts are written
as. -/
theorem flatMap_annotated_cut {position : Nat} {parts : List Part} {spans : List Span}
    (marked : markedSpans position parts = .ok (spans.map markOf)) (place : Nat)
    (canonical : ∀ capture ∈ captures place parts, Number.IsCanonical capture.digits) :
    (cut position (parts.flatMap Part.content) spans).flatMap
        (fun piece => piece.annotated.toList) = parts.flatMap Part.written := by
  induction parts generalizing position spans place with
  | nil =>
    obtain rfl := List.map_eq_nil_iff.mp (Except.ok.inj marked).symm
    rfl
  | cons part rest inductionHypothesis =>
    rw [List.flatMap_cons, List.flatMap_cons]
    cases part with
    | character value =>
      rw [markedSpans] at marked
      have behind : ∀ span ∈ spans, position + 1 ≤ span.start.toNat := fun span member =>
        (pairwise_of_markedSpans marked).1 _ (List.mem_map_of_mem member)
      rw [Part.content, Part.written, List.singleton_append, List.singleton_append,
        flatMap_annotated_cut_cons behind, inductionHypothesis marked (place + 1) canonical]
    | element digits content =>
      obtain ⟨atomId, later, number, markedLater, same⟩ :=
        markedSpans_element_eq_ok_iff.mp marked
      obtain ⟨span, spans, rfl, marks, rfl⟩ := List.map_eq_cons_iff.mp same
      obtain ⟨rfl, start, finish⟩ : span.atomId = atomId ∧ span.start.toNat = position ∧
          span.finish.toNat = position + content.length := by
        simpa [markOf] using marks
      have written := Number.toList_toString_of_readInt64? (canonical _ List.mem_cons_self) number
      have rest := inductionHypothesis markedLater _
        fun capture member => canonical capture (List.mem_cons_of_mem _ member)
      have length : span.length = content.length := by
        rw [Span.length, start, finish, Nat.add_sub_cancel_left]
      -- The span begins where its element does, so that no plain piece comes before it.
      simp only [cut, start, Nat.sub_self, List.take_zero, List.drop_zero, length, Part.content,
        List.take_left, List.drop_left, finish, List.flatMap_append, flatMap_annotated_plainPiece,
        List.nil_append, List.flatMap_cons, toList_annotated_highlighted, String.toList_ofList,
        written, rest, Part.written]

/-- Places are ranges of characters when the contents that fill them are not empty. -/
theorem ranges_of_marks {text : List Char} {captures : List Capture} {spans : List MarkedSpan}
    (marks : List.Forall₂ (Marks text) captures spans)
    (nonempty : ∀ capture ∈ captures, capture.content ≠ []) :
    ∀ span ∈ spans, span.start < span.finish ∧ span.finish ≤ text.length := by
  induction marks with
  | nil => exact fun _ member => nomatch member
  | @cons capture mark captures spans marks _ inductionHypothesis =>
    intro span member
    rcases List.mem_cons.mp member with rfl | member
    · refine ⟨Nat.lt_of_le_of_ne marks.ordered fun same => ?_, marks.withinText⟩
      refine nonempty capture List.mem_cons_self ?_
      rw [← marks.content, same, Nat.sub_self, List.take_zero]
    · exact inductionHypothesis
        (fun capture member => nonempty capture (List.mem_cons_of_mem _ member)) span member

/-- Annotating with atoms that cover the marked places undoes decoding. -/
theorem annotate_stripAnnotations {annotated : String} {spans : List MarkedSpan}
    {atoms : List Atom} (extracted : extractSpans annotated = .ok spans)
    (canonical : ∀ capture ∈ captures 0 (parts annotated.toList),
      capture.content ≠ [] ∧ Number.IsCanonical capture.digits)
    (built : BuiltFrom spans atoms) :
    annotate .reject (stripAnnotations annotated) atoms = .ok annotated := by
  have ranges := ranges_of_marks (marks_of_markedSpans [] extracted 0)
    fun capture member => (canonical capture member).1
  have pairwise := (pairwise_of_markedSpans extracted).2.imp And.right
  obtain ⟨ordered, resolved, same⟩ := exists_resolve_of_builtFrom built ranges pairwise
  have written := flatMap_annotated_cut (same ▸ extracted) 0
    fun capture member => (canonical capture member).2
  rw [flatMap_written_parts] at written
  refine map_eq_ok_iff.mpr ⟨_, map_eq_ok_iff.mpr ⟨ordered, ?_, rfl⟩, ?_⟩
  · rw [stripAnnotations, String.toList_ofList]
    exact resolved
  · rw [stripAnnotations, String.toList_ofList, ← String.toList_inj, toList_joined,
      List.flatMap_map]
    exact written.symm

/-- Decoding is consistent for every text that can be decoded, and it can be undone. The elements
stand in the annotated text where they were found; counting the characters in front of them and
taking off those that belong to markup is never below zero; and the elements mark, in this order,
the places of their contents in the text without markup, of which none overlaps another. When all
contents cover a character and all numbers are written in their shortest form, annotating the text
without markup with atoms that cover these places gives the annotated text again, and there are such
atoms as long as positions have sixty-four bits. -/
theorem decoding_reencodes {annotated : String} {spans : List MarkedSpan}
    (extracted : extractSpans annotated = .ok spans) :
    (∀ capture ∈ captures 0 (parts annotated.toList),
      capture.content.length ≤ (elementText capture.digits capture.content).length ∧
      ∃ before after, annotated.toList =
          before ++ (elementText capture.digits capture.content ++ after) ∧
        before.length = capture.position) ∧
    countedSpans? 0 0 (parts annotated.toList) = some (.ok spans) ∧
    List.Forall₂ (Marks (stripAnnotations annotated).toList)
      (captures 0 (parts annotated.toList)) spans ∧
    spans.Pairwise (fun left right => left.start ≤ right.start ∧ left.finish ≤ right.start) ∧
    ((∀ capture ∈ captures 0 (parts annotated.toList),
        capture.content ≠ [] ∧ Number.IsCanonical capture.digits) →
      (∀ atoms, BuiltFrom spans atoms →
        annotate .reject (stripAnnotations annotated) atoms = .ok annotated) ∧
      ((stripAnnotations annotated).toList.length < UInt64.size →
        BuiltFrom spans (atomsMarking spans))) := by
  have marks := marks_of_markedSpans [] extracted 0
  refine ⟨?_, ?_, ?_, (pairwise_of_markedSpans extracted).2, ?_⟩
  · intro capture member
    obtain ⟨before, after, whole, place⟩ := exists_append_of_mem_captures member
    rw [flatMap_written_parts] at whole
    exact ⟨length_le_elementText _ _, before, after, whole, by rw [← place, Nat.zero_add]⟩
  · rw [countedSpans?_eq_some _ (Nat.le_refl 0)]
    exact congrArg some extracted
  · rwa [stripAnnotations, String.toList_ofList]
  · intro canonical
    refine ⟨fun atoms built => annotate_stripAnnotations extracted canonical built, ?_⟩
    intro bounded
    rw [stripAnnotations, String.toList_ofList] at bounded
    refine builtFrom_atomsMarking fun span member => ?_
    obtain ⟨start, finish⟩ :=
      ranges_of_marks marks (fun capture member => (canonical capture member).1) span member
    have within : span.finish < UInt64.size := Nat.lt_of_le_of_lt finish bounded
    exact ⟨Nat.lt_trans start within, within⟩

/-- A text with an element that holds an opening tag, a closing tag and an opening tag of no
element, two elements next to each other, and characters of several bytes. -/
def exampleNested : String :=
  "ä<atom id=\"7\"><atom id=\"2\">b</atom></atom><atom id=\"30\">€</atom>" ++
    "<atom id=\"7\">x</atom><atom id=\"7\">"

/-- The text is decoded and annotated again with the atoms 7 and 30. -/
theorem exampleNested_reencodes :
    extractSpans exampleNested = .ok [⟨7, 1, 15⟩, ⟨30, 22, 23⟩, ⟨7, 23, 24⟩] ∧
      BuiltFrom [⟨7, 1, 15⟩, ⟨30, 22, 23⟩, ⟨7, 23, 24⟩]
        (atomsMarking [⟨7, 1, 15⟩, ⟨30, 22, 23⟩, ⟨7, 23, 24⟩]) ∧
      annotate .reject (stripAnnotations exampleNested)
        (atomsMarking [⟨7, 1, 15⟩, ⟨30, 22, 23⟩, ⟨7, 23, 24⟩]) = .ok exampleNested := by
  have extracted : extractSpans exampleNested = .ok [⟨7, 1, 15⟩, ⟨30, 22, 23⟩, ⟨7, 23, 24⟩] := by
    apply toOption_eq_some_iff.mp
    decide +kernel
  obtain ⟨-, -, -, -, reencodes⟩ := decoding_reencodes extracted
  have canonical : ∀ capture ∈ captures 0 (parts exampleNested.toList),
      capture.content ≠ [] ∧ Number.IsCanonical capture.digits := by
    decide +kernel
  obtain ⟨annotates, builds⟩ := reencodes canonical
  have built := builds (by decide +kernel)
  exact ⟨extracted, built, annotates _ built⟩

end Statute.Highlight
