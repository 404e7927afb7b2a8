import Mathlib.Data.List.Nodup

/-!
# Entries under keys

A list of entries is looked at through the first entry of each key. Writing an entry puts it in
front of the others and leaves out what was there under its key. Where no key is there twice,
everything is found under its key.
-/

namespace Statute

variable {κ ε : Type} [DecidableEq κ]

/-- An entry at the front is found under its own key, and does not hide what is found under others.
-/
theorem lookup_cons_eq_ite (key other : κ) (value : ε) (entries : List (κ × ε)) :
    ((key, value) :: entries).lookup other =
      if other = key then some value else entries.lookup other := by
  rw [List.lookup_cons]
  split
  next same => rw [if_pos (eq_of_beq same)]
  next differs => rw [if_neg (beq_eq_false_iff_ne.mp differs)]

/-- Entries are changed under their keys. -/
theorem lookup_map {δ : Type} (change : ε → δ) (key : κ) (entries : List (κ × ε)) :
    (entries.map fun (name, value) => (name, change value)).lookup key =
      (entries.lookup key).map change := by
  induction entries with
  | nil => rfl
  | cons entry entries inductionHypothesis =>
    rw [List.map_cons, lookup_cons_eq_ite, lookup_cons_eq_ite, inductionHypothesis]
    split <;> rfl

/-- Without the entries of a key, everything is as before under the other keys. -/
theorem lookup_filter_ne (key other : κ) (entries : List (κ × ε)) :
    (entries.filter fun (name, _) => name ≠ key).lookup other =
      if other = key then none else entries.lookup other := by
  induction entries with
  | nil => simp
  | cons entry entries inductionHypothesis =>
    obtain ⟨first, value⟩ := entry
    by_cases removed : first = key
    · rw [List.filter_cons_of_neg (by simpa using removed), inductionHypothesis,
        lookup_cons_eq_ite, removed]
      split <;> rfl
    · rw [List.filter_cons_of_pos (by simpa using removed), lookup_cons_eq_ite,
        inductionHypothesis, lookup_cons_eq_ite]
      by_cases here : other = first
      · simp [here, removed]
      · simp [here]

/-- A written entry takes the place of the old one and leaves all others alone. -/
theorem lookup_write (key other : κ) (value : ε) (entries : List (κ × ε)) :
    ((key, value) :: entries.filter fun (name, _) => name ≠ key).lookup other =
      if other = key then some value else entries.lookup other := by
  rw [lookup_cons_eq_ite, lookup_filter_ne]
  split <;> rfl

/-- Something is found under its key when nothing else has this key. -/
theorem find?_eq_some_of_nodup {items : List ε} {key : ε → κ} (nodup : (items.map key).Nodup)
    {item : ε} (member : item ∈ items) :
    items.find? (fun other => key other = key item) = some item := by
  cases finds : items.find? fun other => key other = key item with
  | none => simpa using List.find?_eq_none.mp finds item member
  | some found =>
    have same : key found = key item := by simpa using List.find?_some finds
    rw [List.inj_on_of_nodup_map nodup (List.mem_of_find?_eq_some finds) member same]

end Statute
