import Statute.Occurrences
import Mathlib.Data.List.Basic

/-!
# Items that are the first with their key

Leaving out repeats keeps exactly the items in front of which no item has the same key. Their keys
are those of all items, each of them once, and one more item at the end changes nothing but the end.
-/

namespace Statute

variable {α β : Type} {key : α → β}

/-- No item in front of this one has its key. -/
def IsFirst (key : α → β) (items : List α) (item : α) : Prop :=
  ∃ before after, items = before ++ item :: after ∧ ∀ other ∈ before, key other ≠ key item

/-- The first item with a key is one of the items. -/
theorem IsFirst.mem {items : List α} {item : α} (first : IsFirst key items item) :
    item ∈ items := by
  obtain ⟨before, after, rfl, -⟩ := first
  exact List.mem_append_right before List.mem_cons_self

/-- The first item with its key is the item at the front, or the first behind it when the front has
another key. -/
theorem isFirst_cons_iff {items : List α} {head item : α} :
    IsFirst key (head :: items) item ↔
      item = head ∨ key head ≠ key item ∧ IsFirst key items item := by
  constructor
  · rintro ⟨before, after, whole, others⟩
    cases before with
    | nil => exact .inl (List.cons.inj whole).1.symm
    | cons first before =>
      obtain ⟨rfl, rest⟩ := List.cons.inj whole
      exact .inr ⟨others _ List.mem_cons_self, before, after, rest,
        fun other member => others other (List.mem_cons_of_mem _ member)⟩
  · rintro (rfl | ⟨different, before, after, rfl, others⟩)
    · exact ⟨[], items, rfl, fun _ member => nomatch member⟩
    · exact ⟨head :: before, after, rfl, List.forall_mem_cons.mpr ⟨different, others⟩⟩

variable [DecidableEq β]

/-- Looking for a key finds the item that is the first with it. -/
theorem find?_key_eq_some_iff {items : List α} {item : α} {value : β} :
    items.find? (fun other => key other = value) = some item ↔
      IsFirst key items item ∧ key item = value := by
  rw [List.find?_eq_some_iff_append]
  simp only [decide_eq_true_eq, Bool.not_eq_true', decide_eq_false_iff_not]
  constructor
  · rintro ⟨rfl, before, after, whole, others⟩
    exact ⟨⟨before, after, whole, others⟩, rfl⟩
  · rintro ⟨⟨before, after, whole, others⟩, rfl⟩
    exact ⟨rfl, before, after, whole, others⟩

/-- Each key that occurs has an item that is the first with it. -/
theorem exists_isFirst (key : α → β) {items : List α} {item : α} (member : item ∈ items) :
    ∃ first, items.find? (fun other => key other = key item) = some first ∧
      IsFirst key items first ∧ key first = key item := by
  cases found : items.find? fun other => key other = key item with
  | none => exact absurd (List.find?_eq_none.mp found item member) (by simp)
  | some first => exact ⟨first, rfl, find?_key_eq_some_iff.mp found⟩

/-- Two items that are the first with the same key are the same item. -/
theorem IsFirst.unique {items : List α} {left right : α} (leftFirst : IsFirst key items left)
    (rightFirst : IsFirst key items right) (same : key left = key right) : left = right :=
  Option.some.inj <| (find?_key_eq_some_iff.mpr ⟨leftFirst, same⟩).symm.trans
    (find?_key_eq_some_iff.mpr ⟨rightFirst, rfl⟩)

/-- From some seen keys on, the items that stay are those that are the first with their key and
whose key was not seen. -/
theorem mem_firstOccurrencesFrom_iff {seen : List β} {items : List α} {item : α} :
    item ∈ firstOccurrencesFrom key seen items ↔ key item ∉ seen ∧ IsFirst key items item := by
  induction items generalizing seen with
  | nil => simp [firstOccurrencesFrom, IsFirst]
  | cons head items inductionHypothesis =>
    rw [firstOccurrencesFrom, isFirst_cons_iff]
    split
    next repeated =>
      rw [inductionHypothesis]
      grind
    next fresh =>
      rw [List.mem_cons, inductionHypothesis]
      grind

/-- The items that stay are those that are the first with their key. -/
theorem mem_firstOccurrencesBy_iff {items : List α} {item : α} :
    item ∈ firstOccurrencesBy key items ↔ IsFirst key items item := by
  rw [firstOccurrencesBy, mem_firstOccurrencesFrom_iff]
  exact and_iff_right (List.not_mem_nil)

/-- From some seen keys on, no two items that stay have the same key. -/
theorem nodup_keys_firstOccurrencesFrom {seen : List β} {items : List α} :
    ((firstOccurrencesFrom key seen items).map key).Nodup := by
  induction items generalizing seen with
  | nil => exact .nil
  | cons head items inductionHypothesis =>
    rw [firstOccurrencesFrom]
    split
    next => exact inductionHypothesis
    next =>
      refine List.nodup_cons.mpr ⟨?_, inductionHypothesis⟩
      intro again
      obtain ⟨item, member, same⟩ := List.mem_map.mp again
      exact (mem_firstOccurrencesFrom_iff.mp member).1 (same ▸ List.mem_cons_self)

/-- No two items that stay have the same key. -/
theorem nodup_keys_firstOccurrencesBy (key : α → β) (items : List α) :
    ((firstOccurrencesBy key items).map key).Nodup :=
  nodup_keys_firstOccurrencesFrom

/-- The keys of the items that stay are those of all items. -/
theorem mem_keys_firstOccurrencesBy_iff (key : α → β) {items : List α} {value : β} :
    value ∈ (firstOccurrencesBy key items).map key ↔ value ∈ items.map key := by
  simp only [List.mem_map, mem_firstOccurrencesBy_iff]
  constructor
  · rintro ⟨item, first, rfl⟩
    exact ⟨item, first.mem, rfl⟩
  · rintro ⟨item, member, rfl⟩
    obtain ⟨first, -, isFirst, same⟩ := exists_isFirst key member
    exact ⟨first, isFirst, same⟩

/-- From some seen keys on, the items that stay keep their order. -/
theorem sublist_firstOccurrencesFrom {seen : List β} {items : List α} :
    (firstOccurrencesFrom key seen items).Sublist items := by
  induction items generalizing seen with
  | nil => exact .slnil
  | cons head items inductionHypothesis =>
    rw [firstOccurrencesFrom]
    split
    next => exact inductionHypothesis.cons head
    next => exact inductionHypothesis.cons_cons head

/-- The items that stay keep their order. -/
theorem sublist_firstOccurrencesBy (key : α → β) (items : List α) :
    (firstOccurrencesBy key items).Sublist items :=
  sublist_firstOccurrencesFrom

/-- An item at the end stays when its key was neither seen before nor occurs in front of it. -/
theorem firstOccurrencesFrom_append_singleton {seen : List β} {items : List α} {last : α} :
    firstOccurrencesFrom key seen (items ++ [last]) =
      firstOccurrencesFrom key seen items ++
        if key last ∈ seen ∨ key last ∈ items.map key then [] else [last] := by
  induction items generalizing seen with
  | nil => simp [firstOccurrencesFrom]
  | cons head items inductionHypothesis =>
    rw [List.cons_append, firstOccurrencesFrom, firstOccurrencesFrom]
    split
    next repeated =>
      rw [inductionHypothesis]
      congr 2
      grind
    next fresh =>
      rw [inductionHypothesis, List.cons_append]
      congr 3
      grind

/-- An item at the end stays when no item in front of it has its key. -/
theorem firstOccurrencesBy_append_singleton (items : List α) (last : α) :
    firstOccurrencesBy key (items ++ [last]) =
      firstOccurrencesBy key items ++ if key last ∈ items.map key then [] else [last] := by
  rw [firstOccurrencesBy, firstOccurrencesFrom_append_singleton, ← firstOccurrencesBy]
  simp only [List.not_mem_nil, false_or]

/-- When each item is its own key, those that stay are the unseen ones without repeats. -/
theorem firstOccurrencesFrom_id_eq_eraseDups (seen items : List β) :
    firstOccurrencesFrom id seen items = (items.filter (· ∉ seen)).eraseDups := by
  induction items generalizing seen with
  | nil => rfl
  | cons head items inductionHypothesis =>
    rw [firstOccurrencesFrom, id, List.filter_cons]
    by_cases repeated : head ∈ seen
    · simp only [repeated, not_true_eq_false, decide_false, Bool.false_eq_true, if_true, if_false]
      exact inductionHypothesis seen
    · simp only [repeated, not_false_eq_true, decide_true, if_true, if_false]
      rw [inductionHypothesis, List.eraseDups_cons, List.filter_filter]
      congr 2
      refine List.filter_congr fun item _ => ?_
      simp [beq_eq_decide]

/-- Items without repeats, when each item is its own key. -/
theorem firstOccurrencesBy_id_eq_eraseDups (items : List β) :
    firstOccurrencesBy id items = items.eraseDups := by
  rw [firstOccurrencesBy, firstOccurrencesFrom_id_eq_eraseDups]
  simp

end Statute
