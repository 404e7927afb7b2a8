import Mathlib.Data.List.Perm.Basic
import Statute.Highlight.Piece
import Statute.Proofs.Highlight.Accepted

/-!
# Spans that do not overlap

The rejecting policy highlights exactly the spans that are ranges of characters of the text and of
which no two have a character in common. It compares every span with the one accepted last only,
which suffices since the spans are ordered. The order in which atoms and spans were given plays no
part.
-/

namespace Statute

/-- A span covers the character at a position. -/
def Span.Covers (span : Span) (position : Nat) : Prop :=
  span.start.toNat ≤ position ∧ position < span.finish.toNat

/-- No character is covered by both spans. -/
def Span.Disjoint (left right : Span) : Prop :=
  ∀ position, ¬ (left.Covers position ∧ right.Covers position)

/-- A span covers at least one character, and only characters of a text of this length. -/
def Span.IsRangeOf (span : Span) (length : Nat) : Prop :=
  span.start.toNat < span.finish.toNat ∧ span.finish.toNat ≤ length

namespace Span.Disjoint

variable {left right : Span}

/-- Being disjoint does not depend on the order of two spans. -/
theorem symm (disjoint : left.Disjoint right) : right.Disjoint left :=
  fun position ⟨coversRight, coversLeft⟩ => disjoint position ⟨coversLeft, coversRight⟩

/-- Spans are disjoint when one ends before the other begins. -/
theorem of_finish_le (before : left.finish.toNat ≤ right.start.toNat) : left.Disjoint right := by
  rintro position ⟨⟨_, inLeft⟩, inRight, _⟩
  omega

/-- Of two disjoint spans the one that starts first ends before the other begins. -/
theorem finish_le (disjoint : left.Disjoint right) (ordered : left.start.toNat ≤ right.start.toNat)
    (nonempty : right.start.toNat < right.finish.toNat) :
    left.finish.toNat ≤ right.start.toNat := by
  by_contra overlaps
  exact disjoint right.start.toNat ⟨⟨ordered, Nat.lt_of_not_le overlaps⟩, Nat.le_refl _, nonempty⟩

end Span.Disjoint

namespace Highlight

/-- Atoms in another order, each with its spans in another order. -/
def Rearranged (atoms others : List Atom) : Prop :=
  ∃ ordered, atoms.Perm ordered ∧
    List.Forall₂ (fun atom other => ∃ spans, atom.spans.Perm spans ∧ other = { atom with spans })
      ordered others

/-- Spans are ordered by their starts, and by their ends where they start together. -/
theorem startsNoLater_iff {left right : Span} :
    startsNoLater left right = true ↔ left.start.toNat < right.start.toNat ∨
      left.start.toNat = right.start.toNat ∧ left.finish.toNat ≤ right.finish.toNat := by
  simp only [startsNoLater, Bool.or_eq_true, Bool.and_eq_true, decide_eq_true_eq, beq_iff_eq,
    UInt64.lt_iff_toNat_lt, UInt64.le_iff_toNat_le, UInt64.toNat_inj]

/-- The order of spans is transitive. -/
theorem startsNoLater_trans (first second third : Span) (left : startsNoLater first second = true)
    (right : startsNoLater second third = true) : startsNoLater first third = true := by
  rw [startsNoLater_iff] at left right ⊢
  omega

/-- Any two spans are ordered one way or the other. -/
theorem startsNoLater_total (first second : Span) :
    (startsNoLater first second || startsNoLater second first) = true := by
  rw [Bool.or_eq_true, startsNoLater_iff, startsNoLater_iff]
  omega

/-- The spans of atoms are ordered by their places. -/
theorem pairwise_orderedSpans (atoms : List Atom) :
    (orderedSpans atoms).Pairwise fun left right => startsNoLater left right = true :=
  List.pairwise_mergeSort startsNoLater_trans startsNoLater_total _

/-- The rejecting policy leaves no span out. -/
theorem eq_of_accept_reject {length : Nat} {previous : Option Span} {ordered spans : List Span}
    (accepted : accept .reject length previous ordered = .ok spans) : spans = ordered := by
  induction ordered generalizing previous spans with
  | nil => exact (Except.ok.inj accepted).symm
  | cons span rest inductionHypothesis =>
    obtain ⟨-, ⟨isFirstWins, _⟩ | ⟨_, later, acceptedLater, rfl⟩⟩ :=
      accept_cons_eq_ok_iff.mp accepted
    · exact nomatch isFirstWins
    · rw [inductionHypothesis acceptedLater]

/-- The rejecting policy accepts all spans, and only when they follow each other. -/
theorem accept_reject_eq_ok_iff {length : Nat} {previous : Option Span}
    {ordered spans : List Span} (withinText : reachedBy previous ≤ length) :
    accept .reject length previous ordered = .ok spans ↔
      spans = ordered ∧ Consecutive length (reachedBy previous) ordered := by
  constructor
  · intro accepted
    obtain rfl := eq_of_accept_reject accepted
    exact ⟨rfl, consecutive_of_accept withinText accepted⟩
  · rintro ⟨rfl, consecutive⟩
    exact accept_of_consecutive .reject consecutive

/-- Ordered spans that are disjoint ranges of characters follow each other. -/
theorem consecutive_of_disjoint {length position : Nat} {spans : List Span}
    (withinText : position ≤ length)
    (ordered : spans.Pairwise fun left right => startsNoLater left right = true)
    (behind : ∀ span ∈ spans, position ≤ span.start.toNat)
    (ranges : ∀ span ∈ spans, span.IsRangeOf length)
    (disjoint : spans.Pairwise Span.Disjoint) :
    Consecutive length position spans := by
  induction spans generalizing position with
  | nil => exact .done withinText
  | cons span rest inductionHypothesis =>
    obtain ⟨noLater, restOrdered⟩ := List.pairwise_cons.mp ordered
    obtain ⟨apart, restDisjoint⟩ := List.pairwise_cons.mp disjoint
    have range := ranges span List.mem_cons_self
    have restRanges : ∀ other ∈ rest, other.IsRangeOf length :=
      fun other member => ranges other (List.mem_cons_of_mem _ member)
    -- Being ordered turns disjointness from one span into being behind it.
    have restBehind : ∀ other ∈ rest, span.finish.toNat ≤ other.start.toNat := by
      intro other member
      apply (apart other member).finish_le
      · have ordered := startsNoLater_iff.mp (noLater other member)
        omega
      · exact (restRanges other member).1
    exact .span (behind span List.mem_cons_self) range.1
      (inductionHypothesis range.2 restOrdered restBehind restRanges restDisjoint)

/-- Spans follow each other from the beginning of a text when they are ordered and disjoint ranges of
its characters. -/
theorem consecutive_orderedSpans_iff {length : Nat} {atoms : List Atom} :
    Consecutive length 0 (orderedSpans atoms) ↔
      (∀ span ∈ ownedSpans atoms, span.IsRangeOf length) ∧
        (ownedSpans atoms).Pairwise Span.Disjoint := by
  have perm : (orderedSpans atoms).Perm (ownedSpans atoms) := List.mergeSort_perm _ _
  have samePairs : (orderedSpans atoms).Pairwise Span.Disjoint ↔
      (ownedSpans atoms).Pairwise Span.Disjoint :=
    perm.pairwise_iff Span.Disjoint.symm
  constructor
  · intro consecutive
    refine ⟨fun span member => ?_, samePairs.mp (consecutive.pairwise.imp .of_finish_le)⟩
    exact (consecutive.range_of_mem (perm.mem_iff.mpr member)).2
  · rintro ⟨ranges, disjoint⟩
    exact consecutive_of_disjoint (Nat.zero_le _) (pairwise_orderedSpans atoms)
      (fun _ _ => Nat.zero_le _) (fun span member => ranges span (perm.mem_iff.mp member))
      (samePairs.mpr disjoint)

/-- The owner of a span has no part in whether it is disjoint from others. -/
theorem pairwise_disjoint_ownedSpans_iff (atoms : List Atom) :
    (ownedSpans atoms).Pairwise Span.Disjoint ↔
      (atoms.flatMap Atom.spans).Pairwise Span.Disjoint := by
  have overPlaces (spans : List Span) : spans.Pairwise Span.Disjoint ↔
      (spans.map fun span => (span.start, span.finish)).Pairwise fun left right =>
        ∀ position, ¬ ((left.1.toNat ≤ position ∧ position < left.2.toNat) ∧
          right.1.toNat ≤ position ∧ position < right.2.toNat) := by
    rw [List.pairwise_map]
    rfl
  have samePlaces : (ownedSpans atoms).map (fun span => (span.start, span.finish)) =
      (atoms.flatMap Atom.spans).map fun span => (span.start, span.finish) := by
    simp [ownedSpans, List.map_flatMap, Function.comp_def]
  rw [overPlaces, overPlaces, samePlaces]

/-- The rejecting policy accepts the ordered spans, when they follow each other. -/
theorem resolve_reject_eq_ok_iff {length : Nat} {atoms : List Atom} {spans : List Span} :
    resolve .reject length atoms = .ok spans ↔
      spans = orderedSpans atoms ∧ Consecutive length 0 (orderedSpans atoms) :=
  accept_reject_eq_ok_iff (Nat.zero_le length)

/-- Spans that follow each other are told apart by their starts. -/
theorem Consecutive.eq_of_start_eq {length position : Nat} {spans : List Span}
    (consecutive : Consecutive length position spans) {left right : Span} (leftMember : left ∈ spans)
    (rightMember : right ∈ spans) (same : left.start.toNat = right.start.toNat) : left = right := by
  induction consecutive with
  | done => exact nomatch leftMember
  | span _ nonempty follows inductionHypothesis =>
    rcases List.mem_cons.mp leftMember with rfl | leftLater
    · rcases List.mem_cons.mp rightMember with rfl | rightLater
      · rfl
      · have behind := (follows.range_of_mem rightLater).1
        omega
    · rcases List.mem_cons.mp rightMember with rfl | rightLater
      · have behind := (follows.range_of_mem leftLater).1
        omega
      · exact inductionHypothesis leftLater rightLater

/-- Spans that follow each other have one order only, in whichever order they were given. -/
theorem orderedSpans_eq_of_perm {length : Nat} {atoms others : List Atom}
    (perm : (ownedSpans atoms).Perm (ownedSpans others))
    (consecutive : Consecutive length 0 (orderedSpans atoms)) :
    orderedSpans atoms = orderedSpans others := by
  have orderedPerm : (orderedSpans atoms).Perm (orderedSpans others) :=
    ((List.mergeSort_perm _ _).trans perm).trans (List.mergeSort_perm _ _).symm
  refine List.Perm.eq_of_pairwise ?_ (pairwise_orderedSpans atoms) (pairwise_orderedSpans others)
    orderedPerm
  -- Two spans that start no later than each other start together, and then they are one span.
  intro left right leftMember rightMember leftFirst rightFirst
  apply consecutive.eq_of_start_eq leftMember (orderedPerm.mem_iff.mpr rightMember)
  rw [startsNoLater_iff] at leftFirst rightFirst
  omega

/-- The rejecting policy accepts the same spans in whichever order they were given. -/
theorem resolve_reject_of_perm {length : Nat} {atoms others : List Atom} {spans : List Span}
    (perm : (ownedSpans atoms).Perm (ownedSpans others))
    (resolved : resolve .reject length atoms = .ok spans) :
    resolve .reject length others = .ok spans := by
  obtain ⟨rfl, consecutive⟩ := resolve_reject_eq_ok_iff.mp resolved
  have same := orderedSpans_eq_of_perm perm consecutive
  rw [same] at consecutive ⊢
  exact resolve_reject_eq_ok_iff.mpr ⟨rfl, consecutive⟩

/-- Rearranged atoms own the same spans. -/
theorem Rearranged.perm_ownedSpans {atoms others : List Atom} (rearranged : Rearranged atoms others) :
    (ownedSpans atoms).Perm (ownedSpans others) := by
  obtain ⟨ordered, perm, sameAtoms⟩ := rearranged
  refine (perm.flatMap_right _).trans ?_
  clear perm
  induction sameAtoms with
  | nil => exact .refl _
  | cons same _ inductionHypothesis =>
    obtain ⟨spans, perm, rfl⟩ := same
    rw [ownedSpans, List.flatMap_cons, List.flatMap_cons]
    exact (perm.map _).append inductionHypothesis

/-- The owner of a span has no part in whether it is a range of characters. -/
theorem ranges_ownedSpans_iff {length : Nat} {atoms : List Atom} :
    (∀ span ∈ ownedSpans atoms, span.IsRangeOf length) ↔
      ∀ atom ∈ atoms, ∀ span ∈ atom.spans, span.IsRangeOf length := by
  constructor
  · intro owned atom member span ofAtom
    exact owned { span with atomId := atom.id }
      (mem_ownedSpans_iff.mpr ⟨atom, member, span, ofAtom, rfl⟩)
  · intro raw span member
    obtain ⟨atom, ofAtoms, own, ofAtom, rfl⟩ := mem_ownedSpans_iff.mp member
    exact raw atom ofAtoms own ofAtom

/-- The rejecting policy highlights a text when the ordered spans follow each other in it. -/
theorem exists_highlight_reject_iff {text : String} {atoms : List Atom} :
    (∃ pieces, highlight .reject text atoms = .ok pieces) ↔
      Consecutive text.toList.length 0 (orderedSpans atoms) := by
  constructor
  · rintro ⟨pieces, highlighted⟩
    obtain ⟨spans, resolved, _⟩ := map_eq_ok_iff.mp highlighted
    exact (resolve_reject_eq_ok_iff.mp resolved).2
  · intro consecutive
    have resolved := resolve_reject_eq_ok_iff.mpr ⟨rfl, consecutive⟩
    exact ⟨_, map_eq_ok_iff.mpr ⟨_, resolved, rfl⟩⟩

/-- The rejecting policy makes the same pieces in whichever order the spans were given. -/
theorem highlight_reject_of_perm {text : String} {atoms others : List Atom} {pieces : List Piece}
    (perm : (ownedSpans atoms).Perm (ownedSpans others))
    (highlighted : highlight .reject text atoms = .ok pieces) :
    highlight .reject text others = .ok pieces := by
  obtain ⟨spans, resolved, same⟩ := map_eq_ok_iff.mp highlighted
  exact map_eq_ok_iff.mpr ⟨spans, resolve_reject_of_perm perm resolved, same⟩

/-- The rejecting policy highlights exactly disjoint ranges of characters: it succeeds when every
span of every atom is a range of characters of the text and no two spans, of one atom or of two,
have a character in common. Neither the order of the atoms nor that of the spans of an atom changes
whether it succeeds and what the pieces are. -/
theorem highlight_reject_iff_disjoint (text : String) (atoms : List Atom) :
    ((∃ pieces, highlight .reject text atoms = .ok pieces) ↔
      (∀ atom ∈ atoms, ∀ span ∈ atom.spans, span.IsRangeOf text.toList.length) ∧
        (atoms.flatMap Atom.spans).Pairwise Span.Disjoint) ∧
    ∀ others, Rearranged atoms others → ∀ pieces,
      highlight .reject text atoms = .ok pieces ↔ highlight .reject text others = .ok pieces := by
  constructor
  · rw [exists_highlight_reject_iff, consecutive_orderedSpans_iff, ranges_ownedSpans_iff,
      pairwise_disjoint_ownedSpans_iff]
  · intro others rearranged pieces
    have perm := rearranged.perm_ownedSpans
    constructor
    · exact highlight_reject_of_perm perm
    · exact highlight_reject_of_perm perm.symm

/-- Two atoms with three spans, all of them neighbours. -/
def exampleNeighbours : List Atom :=
  [⟨7, 1, "first(X)", "", false, true, [⟨1, 7, 3, 5⟩, ⟨2, 7, 0, 2⟩]⟩,
    ⟨4, 1, "second(X)", "", false, true, [⟨3, 4, 2, 3⟩]⟩]

/-- The same atoms and spans, each in the opposite order. -/
def exampleNeighboursReversed : List Atom :=
  [⟨4, 1, "second(X)", "", false, true, [⟨3, 4, 2, 3⟩]⟩,
    ⟨7, 1, "first(X)", "", false, true, [⟨2, 7, 0, 2⟩, ⟨1, 7, 3, 5⟩]⟩]

/-- Neighbouring spans are not refused, in either order. -/
theorem exampleNeighbours_highlighted :
    Rearranged exampleNeighbours exampleNeighboursReversed ∧
      ∃ pieces, highlight .reject "señor" exampleNeighbours = .ok pieces ∧
        highlight .reject "señor" exampleNeighboursReversed = .ok pieces := by
  have rearranged : Rearranged exampleNeighbours exampleNeighboursReversed :=
    ⟨_, .swap _ _ _, .cons ⟨_, .refl _, rfl⟩ (.cons ⟨_, .swap _ _ _, rfl⟩ .nil)⟩
  have ranges : ∀ atom ∈ exampleNeighbours, ∀ span ∈ atom.spans,
      span.start.toNat < span.finish.toNat ∧ span.finish.toNat ≤ "señor".toList.length := by
    decide
  have apart : (exampleNeighbours.flatMap Atom.spans).Pairwise fun left right =>
      left.finish.toNat ≤ right.start.toNat ∨ right.finish.toNat ≤ left.start.toNat := by
    decide
  have disjoint : (exampleNeighbours.flatMap Atom.spans).Pairwise Span.Disjoint := by
    refine apart.imp ?_
    rintro left right (before | behind)
    · exact .of_finish_le before
    · exact (Span.Disjoint.of_finish_le behind).symm
  obtain ⟨decides, sameInOtherOrders⟩ := highlight_reject_iff_disjoint "señor" exampleNeighbours
  obtain ⟨pieces, highlighted⟩ := decides.mpr ⟨ranges, disjoint⟩
  exact ⟨rearranged, pieces, highlighted,
    (sameInOtherOrders _ rearranged pieces).mp highlighted⟩

end Highlight

end Statute
