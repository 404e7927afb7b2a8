import Mathlib.Data.List.Nodup
import Statute.Proofs.Highlight.Disjointness

/-!
# Greedy selection of spans

The policy under which the first span wins goes through all spans in the order of their places,
spans of one place in the order in which they were given, and keeps a span unless it overlaps one
that was kept before it. It looks at the span kept last only: of the kept spans this one ends last,
since they do not overlap each other. Spans that a text can be highlighted with under the rejecting
policy are all kept.
-/

namespace Statute

/-- Of two spans the one that starts later overlaps the other when it starts before that one ends.
-/
theorem Span.not_disjoint_iff {left right : Span} (ordered : left.start.toNat ≤ right.start.toNat)
    (nonempty : right.start.toNat < right.finish.toNat) :
    ¬ left.Disjoint right ↔ right.start.toNat < left.finish.toNat := by
  constructor
  · intro overlaps
    by_contra behind
    exact overlaps (.of_finish_le (Nat.le_of_not_lt behind))
  · intro before disjoint
    have behind := disjoint.finish_le ordered nonempty
    omega

namespace Highlight

/-! ## The order of spans -/

/-- The spans of all atoms with their numbers in the order in which they were given. -/
def numberedSpans (atoms : List Atom) : List (Span × Nat) :=
  (ownedSpans atoms).zipIdx

/-- A span stands before another one when it starts before it, when it starts with it and ends
before it, and, of two spans of one place, when it was given before it. -/
def Precedes (left right : Span × Nat) : Prop :=
  left.1.start.toNat < right.1.start.toNat ∨
    left.1.start.toNat = right.1.start.toNat ∧
      (left.1.finish.toNat < right.1.finish.toNat ∨
        left.1.finish.toNat = right.1.finish.toNat ∧ left.2 < right.2)

instance : DecidableRel Precedes := fun left right =>
  inferInstanceAs (Decidable (left.1.start.toNat < right.1.start.toNat ∨
    left.1.start.toNat = right.1.start.toNat ∧
      (left.1.finish.toNat < right.1.finish.toNat ∨
        left.1.finish.toNat = right.1.finish.toNat ∧ left.2 < right.2)))

namespace Precedes

variable {left right : Span × Nat}

/-- A span that precedes another does not start later. -/
theorem start_le (precedes : Precedes left right) :
    left.1.start.toNat ≤ right.1.start.toNat := by
  unfold Precedes at precedes
  omega

/-- Of two spans only one precedes the other. -/
theorem asymm (precedes : Precedes left right) : ¬ Precedes right left := by
  unfold Precedes at precedes ⊢
  omega

/-- No span precedes itself. -/
theorem irrefl (item : Span × Nat) : ¬ Precedes item item :=
  fun precedes => precedes.asymm precedes

/-- The order by places, in which spans of one place are ordered by their numbers. -/
theorem of_zipIdxLE (noLater : List.zipIdxLE startsNoLater left right = true)
    (apart : left.2 ≠ right.2) : Precedes left right := by
  simp only [List.zipIdxLE, startsNoLater_iff] at noLater
  unfold Precedes
  split at noLater
  next forward =>
    split at noLater
    next backward =>
      have numbers := of_decide_eq_true noLater
      omega
    next notBackward => omega
  next => cases noLater

end Precedes

/-- The spans of all atoms have one order, and going through them in this order is going through the
ordered spans. -/
theorem exists_order (atoms : List Atom) : ∃ ordered : List (Span × Nat),
    ordered.Perm (numberedSpans atoms) ∧ ordered.Pairwise Precedes ∧
      ordered.map Prod.fst = orderedSpans atoms := by
  have perm : ((numberedSpans atoms).mergeSort (List.zipIdxLE startsNoLater)).Perm
      (numberedSpans atoms) := List.mergeSort_perm _ _
  have noLater := List.pairwise_mergeSort (List.zipIdxLE_trans startsNoLater_trans)
    (List.zipIdxLE_total startsNoLater_total) (numberedSpans atoms)
  have apart : (numberedSpans atoms).Pairwise fun left right => left.2 ≠ right.2 := by
    rw [← List.pairwise_map (R := (· ≠ ·)), numberedSpans, List.zipIdx_map_snd]
    exact List.nodup_range'
  refine ⟨_, perm, ?_, List.mergeSort_zipIdx⟩
  have apartOrdered := (perm.pairwise_iff fun differs => Ne.symm differs).mpr apart
  exact (noLater.and apartOrdered).imp fun ⟨before, differ⟩ => .of_zipIdxLE before differ

/-- There is no other order in which each span precedes those behind it. -/
theorem orderedSpans_eq {atoms : List Atom} {ordered : List (Span × Nat)}
    (perm : ordered.Perm (numberedSpans atoms)) (sorted : ordered.Pairwise Precedes) :
    orderedSpans atoms = ordered.map Prod.fst := by
  obtain ⟨other, otherPerm, otherSorted, same⟩ := exists_order atoms
  have antisymm : ∀ left right, left ∈ other → right ∈ ordered →
      Precedes left right → Precedes right left → left = right := by
    intro left right _ _ before behind
    exact absurd behind before.asymm
  rw [← same, (otherPerm.trans perm.symm).eq_of_pairwise antisymm otherSorted sorted]

/-! ## The selection -/

/-- Spans kept of spans in their order: no two of them overlap, and a span is left out exactly when
a span that is kept and stands before it overlaps it. -/
structure IsGreedy (ordered kept : List (Span × Nat)) : Prop where
  sublist : kept.Sublist ordered
  disjoint : kept.Pairwise fun left right => left.1.Disjoint right.1
  missing_iff : ∀ item ∈ ordered,
    item ∉ kept ↔ ∃ first ∈ kept, Precedes first item ∧ ¬ first.1.Disjoint item.1

/-- Going through ordered spans behind the last accepted one leaves out those that begin before its
end, and those that an accepted span in front of them overlaps. -/
theorem exists_kept_of_ranges {length : Nat} (previous : Option Span)
    {ordered : List (Span × Nat)} (sorted : ordered.Pairwise Precedes)
    (ranges : ∀ item ∈ ordered, item.1.IsRangeOf length) :
    ∃ kept : List (Span × Nat),
      accept .firstWins length previous (ordered.map Prod.fst) = .ok (kept.map Prod.fst) ∧
      kept.Sublist ordered ∧
      ∀ item ∈ ordered, item ∉ kept ↔ item.1.start.toNat < reachedBy previous ∨
        ∃ first ∈ kept, Precedes first item ∧ ¬ first.1.Disjoint item.1 := by
  induction ordered generalizing previous with
  | nil => exact ⟨[], rfl, .slnil, nofun⟩
  | cons item rest inductionHypothesis =>
    obtain ⟨precedes, restSorted⟩ := List.pairwise_cons.mp sorted
    obtain ⟨range, restRanges⟩ := List.forall_mem_cons.mp ranges
    have notInRest : item ∉ rest := fun member => Precedes.irrefl item (precedes item member)
    -- A span that begins before the end of the last accepted one is left out, any other one is
    -- kept. What is left out later depends on the end of the span that was kept last.
    by_cases before : item.1.start.toNat < reachedBy previous
    case pos =>
      obtain ⟨kept, accepted, sublist, missing⟩ :=
        inductionHypothesis previous restSorted restRanges
      refine ⟨kept, ?_, sublist.cons item, List.forall_mem_cons.mpr ⟨?_, missing⟩⟩
      · exact accept_cons_eq_ok_iff.mpr ⟨range, .inl ⟨rfl, before, accepted⟩⟩
      · have dropped : item ∉ kept := fun member => notInRest (sublist.subset member)
        exact iff_of_true dropped (.inl before)
    case neg =>
      have behind := Nat.le_of_not_lt before
      obtain ⟨kept, accepted, sublist, missing⟩ :=
        inductionHypothesis (some item.1) restSorted restRanges
      refine ⟨item :: kept, ?_, sublist.cons_cons item, List.forall_mem_cons.mpr ⟨?_, ?_⟩⟩
      · exact accept_cons_eq_ok_iff.mpr ⟨range, .inr ⟨behind, _, accepted, rfl⟩⟩
      · -- Nothing that is kept stands before the first span.
        refine iff_of_false (not_not_intro List.mem_cons_self) ?_
        rintro (early | ⟨first, member, earlier, -⟩)
        · exact before early
        · rcases List.mem_cons.mp member with rfl | later
          · exact Precedes.irrefl first earlier
          · exact (precedes first (sublist.subset later)).asymm earlier
      · intro later member
        have startsBehind := (precedes later member).start_le
        have overlapsItem := Span.not_disjoint_iff startsBehind (restRanges later member).1
        have isOther : later ≠ item := by
          rintro rfl
          exact notInRest member
        have notEarly : ¬ later.1.start.toNat < reachedBy previous := by omega
        rw [List.mem_cons, not_or, and_iff_right isOther, missing later member,
          or_iff_right notEarly, List.exists_mem_cons_iff, overlapsItem,
          and_iff_right (precedes later member)]
        exact Iff.rfl

/-- Spans that are ranges of characters are selected greedily. -/
theorem exists_greedy_of_ranges {length : Nat} {atoms : List Atom}
    (ranges : ∀ atom ∈ atoms, ∀ span ∈ atom.spans, span.IsRangeOf length) :
    ∃ ordered kept, ordered.Perm (numberedSpans atoms) ∧ ordered.Pairwise Precedes ∧
      IsGreedy ordered kept ∧ resolve .firstWins length atoms = .ok (kept.map Prod.fst) := by
  obtain ⟨ordered, perm, sorted, same⟩ := exists_order atoms
  have orderedRanges : ∀ item ∈ ordered, item.1.IsRangeOf length := by
    intro item member
    have owned : item.1 ∈ orderedSpans atoms := same ▸ List.mem_map_of_mem member
    exact ranges_ownedSpans_iff.mpr ranges item.1 (List.mem_mergeSort.mp owned)
  obtain ⟨kept, accepted, sublist, missing⟩ :=
    exists_kept_of_ranges none sorted orderedRanges
  rw [same] at accepted
  have apart := (consecutive_of_resolve accepted).pairwise.imp Span.Disjoint.of_finish_le
  refine ⟨ordered, kept, perm, sorted, ⟨sublist, List.pairwise_map.mp apart, ?_⟩, accepted⟩
  intro item member
  rw [missing item member]
  exact or_iff_right (Nat.not_lt_zero _)

/-- Overlaps are no reason to refuse spans when the first one wins. -/
theorem accept_firstWins_ne_overlap (length : Nat) (previous : Option Span) (ordered : List Span)
    (first second : Span) :
    accept .firstWins length previous ordered ≠ .error (.overlap first second) := by
  have map_ne {span : Span} {outcome : Except SpanError (List Span)}
      (differs : outcome ≠ .error (.overlap first second)) :
      outcome.map (span :: ·) ≠ .error (.overlap first second) := by
    cases outcome with
    | ok => simp [Except.map]
    | error error => exact fun same => differs (congrArg _ (Except.error.inj same))
  induction ordered generalizing previous with
  | nil => simp [accept]
  | cons span rest inductionHypothesis =>
    simp only [accept]
    split
    next => simp
    next =>
      split
      next => simp
      next =>
        cases previous with
        | none => exact map_ne (inductionHypothesis _)
        | some last =>
          dsimp only
          split
          next => exact inductionHypothesis _
          next => exact map_ne (inductionHypothesis _)

/-- When the first span wins, spans that are ranges of characters of the text are selected greedily,
and the text is cut at the spans that are kept. Overlaps are never an error, and what the rejecting
policy highlights is highlighted in the same way. -/
theorem firstWins_selects_greedily (text : String) (atoms : List Atom) :
    ((∀ atom ∈ atoms, ∀ span ∈ atom.spans, span.IsRangeOf text.toList.length) →
      ∃ ordered kept, ordered.Perm (numberedSpans atoms) ∧ ordered.Pairwise Precedes ∧
        IsGreedy ordered kept ∧
        resolve .firstWins text.toList.length atoms = .ok (kept.map Prod.fst) ∧
        highlight .firstWins text atoms = .ok (cut 0 text.toList (kept.map Prod.fst))) ∧
    (∀ first second, highlight .firstWins text atoms ≠ .error (.overlap first second)) ∧
    ∀ pieces, highlight .reject text atoms = .ok pieces →
      highlight .firstWins text atoms = .ok pieces := by
  refine ⟨fun ranges => ?_, fun first second refused => ?_, fun pieces highlighted => ?_⟩
  · obtain ⟨ordered, kept, perm, sorted, greedy, resolved⟩ := exists_greedy_of_ranges ranges
    exact ⟨ordered, kept, perm, sorted, greedy, resolved,
      map_eq_ok_iff.mpr ⟨_, resolved, rfl⟩⟩
  · cases resolved : resolve .firstWins text.toList.length atoms with
    | ok spans => simp [highlight, resolved, Except.map] at refused
    | error error =>
      rw [highlight, resolved] at refused
      rw [Except.error.inj refused] at resolved
      exact accept_firstWins_ne_overlap _ _ _ first second resolved
  · obtain ⟨spans, resolved, rfl⟩ := map_eq_ok_iff.mp highlighted
    obtain ⟨rfl, consecutive⟩ := resolve_reject_eq_ok_iff.mp resolved
    exact map_eq_ok_iff.mpr ⟨_, accept_of_consecutive .firstWins consecutive, rfl⟩

/-- A long span, short ones in it and across its end, and two spans of one place. -/
def exampleChain : List Atom :=
  [⟨7, 1, "long(X)", "", false, true, [⟨1, 7, 4, 6⟩, ⟨2, 7, 0, 4⟩]⟩,
    ⟨5, 1, "short(X)", "", false, true, [⟨3, 5, 3, 5⟩, ⟨4, 5, 4, 6⟩, ⟨5, 5, 1, 2⟩]⟩]

/-- The long span and the first of the two spans of one place are kept. The span across the end of
the long one is left out although the next one would not have overlapped it without the long one. -/
theorem exampleChain_selected :
    (∀ atom ∈ exampleChain, ∀ span ∈ atom.spans, span.IsRangeOf "señora".toList.length) ∧
      (∃ ordered kept, ordered.Perm (numberedSpans exampleChain) ∧ ordered.Pairwise Precedes ∧
        IsGreedy ordered kept ∧ kept.map Prod.fst = [⟨2, 7, 0, 4⟩, ⟨1, 7, 4, 6⟩]) ∧
      ∃ pieces, highlight .reject "señor" exampleNeighbours = .ok pieces ∧
        highlight .firstWins "señor" exampleNeighbours = .ok pieces := by
  have ranges : ∀ atom ∈ exampleChain, ∀ span ∈ atom.spans,
      span.start.toNat < span.finish.toNat ∧ span.finish.toNat ≤ "señora".toList.length := by
    decide
  have selected : resolve .firstWins "señora".toList.length exampleChain =
      .ok [⟨2, 7, 0, 4⟩, ⟨1, 7, 4, 6⟩] := by
    have order : orderedSpans exampleChain = [(⟨2, 7, 0, 4⟩, 1), (⟨5, 5, 1, 2⟩, 4),
        (⟨3, 5, 3, 5⟩, 2), (⟨1, 7, 4, 6⟩, 0), (⟨4, 5, 4, 6⟩, 3)].map Prod.fst :=
      orderedSpans_eq (by decide) (by decide)
    rw [resolve, order]
    decide
  have neighbours : resolve .reject "señor".toList.length exampleNeighbours =
      .ok [⟨2, 7, 0, 2⟩, ⟨3, 4, 2, 3⟩, ⟨1, 7, 3, 5⟩] := by
    have order : orderedSpans exampleNeighbours =
        [(⟨2, 7, 0, 2⟩, 1), (⟨3, 4, 2, 3⟩, 2), (⟨1, 7, 3, 5⟩, 0)].map Prod.fst :=
      orderedSpans_eq (by decide) (by decide)
    rw [resolve, order]
    decide
  refine ⟨ranges, ?_, ?_⟩
  · obtain ⟨ordered, kept, perm, sorted, greedy, resolved, -⟩ :=
      (firstWins_selects_greedily "señora" exampleChain).1 ranges
    rw [selected] at resolved
    exact ⟨ordered, kept, perm, sorted, greedy, (Except.ok.inj resolved).symm⟩
  · have highlighted : ∃ pieces, highlight .reject "señor" exampleNeighbours = .ok pieces :=
      ⟨_, map_eq_ok_iff.mpr ⟨_, neighbours, rfl⟩⟩
    obtain ⟨pieces, rejecting⟩ := highlighted
    exact ⟨pieces, rejecting,
      (firstWins_selects_greedily "señor" exampleNeighbours).2.2 pieces rejecting⟩

end Highlight

end Statute
