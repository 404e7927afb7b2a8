import Mathlib.Data.List.Perm.Basic

/-!
# Sequences of outcomes

What is known of the steps when a sequence of them succeeded, and what is known item by item when
every item of a list had to succeed and the results were put in another order afterwards.
-/

namespace Statute

variable {α β ε : Type}

/-- Two steps succeed when the first does and the second does with its result. -/
theorem bind_eq_ok_iff {first : Except ε α} {next : α → Except ε β} {result : β} :
    first >>= next = .ok result ↔ ∃ value, first = .ok value ∧ next value = .ok result := by
  cases first with
  | error error => simp [bind, Except.bind]
  | ok value => simp [bind, Except.bind]

/-- What is made of an outcome succeeds when the outcome does. -/
theorem map_eq_ok_iff {change : α → β} {outcome : Except ε α} {result : β} :
    outcome.map change = .ok result ↔ ∃ value, outcome = .ok value ∧ result = change value := by
  cases outcome with
  | error error => simp [Except.map]
  | ok value => simp [Except.map, eq_comm]

/-- An outcome succeeds when it has a result. -/
theorem toOption_eq_some_iff {outcome : Except ε α} {result : α} :
    outcome.toOption = some result ↔ outcome = .ok result := by
  cases outcome with
  | error error => simp [Except.toOption]
  | ok value => simp [Except.toOption]

/-- All of a sequence succeeds exactly when each item does. -/
theorem mapM_eq_ok_iff {outcome : α → Except ε β} {items : List α} {results : List β} :
    items.mapM outcome = .ok results ↔
      List.Forall₂ (fun item result => outcome item = .ok result) items results := by
  induction items generalizing results with
  | nil =>
    rw [List.mapM_nil, List.forall₂_nil_left_iff]
    exact ⟨fun same => (Except.ok.inj same).symm, fun same => same ▸ rfl⟩
  | cons item items inductionHypothesis =>
    rw [List.mapM_cons, bind_eq_ok_iff]
    constructor
    · rintro ⟨first, succeeds, rest⟩
      obtain ⟨others, othersSucceed, same⟩ := bind_eq_ok_iff.mp rest
      obtain rfl := Except.ok.inj same
      exact .cons succeeds (inductionHypothesis.mp othersSucceed)
    · rintro (_ | ⟨succeeds, othersSucceed⟩)
      exact ⟨_, succeeds, bind_eq_ok_iff.mpr ⟨_, inductionHypothesis.mpr othersSucceed, rfl⟩⟩

/-- Results for all items are a list of results. -/
theorem exists_forall₂_of_forall_mem {related : α → β → Prop} {items : List α}
    (each : ∀ item ∈ items, ∃ result, related item result) :
    ∃ results, List.Forall₂ related items results := by
  induction items with
  | nil => exact ⟨[], .nil⟩
  | cons item items inductionHypothesis =>
    obtain ⟨⟨result, first⟩, others⟩ := List.forall_mem_cons.mp each
    obtain ⟨results, rest⟩ := inductionHypothesis others
    exact ⟨result :: results, .cons first rest⟩

/-- When results are put in another order, their items can be put in the same order. -/
theorem exists_perm_of_forall₂ {related : α → β → Prop} {items : List α}
    {results ordered : List β} (each : List.Forall₂ related items results)
    (reordered : ordered.Perm results) :
    ∃ itemsOrdered : List α, itemsOrdered.Perm items ∧
      List.Forall₂ related itemsOrdered ordered := by
  obtain ⟨itemsOrdered, flipped, perm⟩ := List.perm_comp_forall₂ reordered each.flip
  exact ⟨itemsOrdered, perm, flipped.flip⟩

end Statute
