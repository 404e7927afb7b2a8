import Statute.Highlight.Selection
import Statute.Proofs.Sequences

/-!
# Accepted spans

Under either policy the accepted spans follow each other through the text: none is empty, none
begins before the one in front of it ends, and none ends behind the text. They are some of the
spans that were gone through, in the same order, and each belongs to an atom.
-/

namespace Statute.Highlight

/-- Spans in a text of this length that follow each other from a position on, none of them
empty. -/
inductive Consecutive (length : Nat) : (position : Nat) → List Span → Prop where
  | done {position : Nat} (withinText : position ≤ length) : Consecutive length position []
  | span {position : Nat} {span : Span} {later : List Span}
      (notBefore : position ≤ span.start.toNat)
      (nonempty : span.start.toNat < span.finish.toNat)
      (follows : Consecutive length span.finish.toNat later) :
      Consecutive length position (span :: later)

namespace Consecutive

variable {length position : Nat} {spans : List Span}

/-- The position that spans follow is in the text. -/
theorem position_le (consecutive : Consecutive length position spans) : position ≤ length := by
  induction consecutive with
  | done withinText => exact withinText
  | span notBefore nonempty _ inductionHypothesis => omega

/-- Every one of the spans is a range of characters of the text behind the position. -/
theorem range_of_mem (consecutive : Consecutive length position spans) {span : Span}
    (member : span ∈ spans) :
    position ≤ span.start.toNat ∧ span.start.toNat < span.finish.toNat ∧
      span.finish.toNat ≤ length := by
  induction consecutive with
  | done => exact nomatch member
  | span notBefore nonempty follows inductionHypothesis =>
    rcases List.mem_cons.mp member with rfl | member
    · exact ⟨notBefore, nonempty, follows.position_le⟩
    · obtain ⟨behind, range⟩ := inductionHypothesis member
      exact ⟨by omega, range⟩

/-- Each of the spans ends before all later ones begin. -/
theorem pairwise (consecutive : Consecutive length position spans) :
    spans.Pairwise fun left right => left.finish.toNat ≤ right.start.toNat := by
  induction consecutive with
  | done => exact .nil
  | span _ _ follows inductionHypothesis =>
    exact .cons (fun right member => (follows.range_of_mem member).1) inductionHypothesis

end Consecutive

/-- The position that the last accepted span reaches. -/
def reachedBy : Option Span → Nat
  | none => 0
  | some span => span.finish.toNat

/-- What one step of the selection does when all of it succeeds. The span has to be a range of
characters of the text. Behind the last accepted span it is accepted, before the end of that span
it is dropped, and only where the policy lets it. -/
theorem accept_cons_eq_ok_iff {policy : OverlapPolicy} {length : Nat} {previous : Option Span}
    {span : Span} {rest spans : List Span} :
    accept policy length previous (span :: rest) = .ok spans ↔
      (span.start.toNat < span.finish.toNat ∧ span.finish.toNat ≤ length) ∧
      (policy = .firstWins ∧ span.start.toNat < reachedBy previous ∧
          accept policy length previous rest = .ok spans ∨
        reachedBy previous ≤ span.start.toNat ∧
          ∃ later, accept policy length (some span) rest = .ok later ∧ spans = span :: later) := by
  simp only [accept]
  split
  next empty =>
    rw [UInt64.le_iff_toNat_le] at empty
    exact ⟨(nomatch ·), fun ⟨⟨_, _⟩, _⟩ => by omega⟩
  next nonempty =>
    rw [UInt64.le_iff_toNat_le] at nonempty
    split
    next beyond => exact ⟨(nomatch ·), fun ⟨⟨_, _⟩, _⟩ => by omega⟩
    next within =>
      have range : span.start.toNat < span.finish.toNat ∧ span.finish.toNat ≤ length := by omega
      rw [and_iff_right range]
      cases previous with
      | none => simp [reachedBy, map_eq_ok_iff]
      | some first =>
        by_cases before : span.start < first.finish
        · have overlaps := UInt64.lt_iff_toNat_lt.mp before
          have notBehind := Nat.not_le.mpr overlaps
          cases policy <;> simp [before, overlaps, notBehind, reachedBy]
        · have follows := Nat.le_of_not_lt (mt UInt64.lt_iff_toNat_lt.mpr before)
          have notBefore := Nat.not_lt.mpr follows
          cases policy <;> simp [before, follows, notBefore, reachedBy, map_eq_ok_iff]

/-- The accepted spans follow each other behind the last one accepted before. -/
theorem consecutive_of_accept {policy : OverlapPolicy} {length : Nat} {previous : Option Span}
    {ordered spans : List Span} (withinText : reachedBy previous ≤ length)
    (accepted : accept policy length previous ordered = .ok spans) :
    Consecutive length (reachedBy previous) spans := by
  induction ordered generalizing previous spans with
  | nil =>
    obtain rfl := Except.ok.inj accepted
    exact .done withinText
  | cons span rest inductionHypothesis =>
    obtain ⟨range, ⟨_, _, accepted⟩ | ⟨behind, later, acceptedLater, rfl⟩⟩ :=
      accept_cons_eq_ok_iff.mp accepted
    · exact inductionHypothesis withinText accepted
    · have reached : reachedBy (some span) ≤ length := range.2
      exact .span behind range.1 (inductionHypothesis reached acceptedLater)

/-- Spans that follow each other are all accepted, under either policy. -/
theorem accept_of_consecutive (policy : OverlapPolicy) {length : Nat} {previous : Option Span}
    {ordered : List Span} (consecutive : Consecutive length (reachedBy previous) ordered) :
    accept policy length previous ordered = .ok ordered := by
  induction ordered generalizing previous with
  | nil => rfl
  | cons span rest inductionHypothesis =>
    cases consecutive with
    | span notBefore nonempty follows =>
      have later : accept policy length (some span) rest = .ok rest := inductionHypothesis follows
      exact accept_cons_eq_ok_iff.mpr
        ⟨⟨nonempty, follows.position_le⟩, .inr ⟨notBefore, rest, later, rfl⟩⟩

/-- The accepted spans are some of those gone through, in the same order. -/
theorem sublist_of_accept {policy : OverlapPolicy} {length : Nat} {previous : Option Span}
    {ordered spans : List Span} (accepted : accept policy length previous ordered = .ok spans) :
    spans.Sublist ordered := by
  induction ordered generalizing previous spans with
  | nil =>
    obtain rfl := Except.ok.inj accepted
    exact .slnil
  | cons span rest inductionHypothesis =>
    obtain ⟨_, ⟨_, _, accepted⟩ | ⟨_, later, acceptedLater, rfl⟩⟩ :=
      accept_cons_eq_ok_iff.mp accepted
    · exact .cons _ (inductionHypothesis accepted)
    · exact .cons_cons _ (inductionHypothesis acceptedLater)

/-- The spans accepted in a text follow each other from its beginning. -/
theorem consecutive_of_resolve {policy : OverlapPolicy} {length : Nat} {atoms : List Atom}
    {spans : List Span} (resolved : resolve policy length atoms = .ok spans) :
    Consecutive length 0 spans := by
  have reached : reachedBy none ≤ length := Nat.zero_le length
  exact consecutive_of_accept reached resolved

/-- Spans of atoms are numbered as their atoms are, whatever their own numbers say. -/
theorem mem_ownedSpans_iff {atoms : List Atom} {span : Span} :
    span ∈ ownedSpans atoms ↔
      ∃ atom ∈ atoms, ∃ own ∈ atom.spans, span = { own with atomId := atom.id } := by
  simp [ownedSpans, eq_comm]

/-- Each accepted span belongs to an atom and has the atom's number. -/
theorem owned_of_resolve {policy : OverlapPolicy} {length : Nat} {atoms : List Atom}
    {spans : List Span} (resolved : resolve policy length atoms = .ok spans) {span : Span}
    (member : span ∈ spans) :
    ∃ atom ∈ atoms, ∃ own ∈ atom.spans, span = { own with atomId := atom.id } := by
  have ordered : span ∈ orderedSpans atoms := (sublist_of_accept resolved).subset member
  exact mem_ownedSpans_iff.mp (List.mem_mergeSort.mp ordered)

end Statute.Highlight
