import Statute.Logic.Clause.Reader
import Statute.Proofs.Sequences

/-!
# Readers move forward

A reader of terms leaves the cursor behind tokens that it took, and with as many open levels as
before. Each combinator of the grammar keeps this of the readers that it is made from, so that it
holds of primaries with any number of levels.
-/

namespace Statute.Logic

namespace Cursor

/-- A place that comes no earlier: what is left there is an end of what was left, and as many levels
are open. -/
structure Behind (cursor after : Cursor) : Prop where
  rest : after.rest <:+ cursor.rest
  depth : after.depth = cursor.depth

/-- A cursor that has not moved is no earlier than it was. -/
theorem Behind.refl (cursor : Cursor) : cursor.Behind cursor :=
  ⟨List.suffix_rfl, rfl⟩

/-- Moves forward may follow one another. -/
theorem Behind.trans {cursor middle after : Cursor} (first : cursor.Behind middle)
    (second : middle.Behind after) : cursor.Behind after :=
  ⟨second.rest.trans first.rest, second.depth.trans first.depth⟩

/-- A result with the place that it was given leaves the cursor there. -/
theorem Behind.of_ok {α : Type} {value result : α} {cursor after : Cursor}
    (same : (.ok (value, cursor) : Except SyntaxError (α × Cursor)) = .ok (result, after)) :
    cursor.Behind after := by
  obtain ⟨-, rfl⟩ := Prod.mk.inj (Except.ok.inj same)
  exact .refl cursor

/-- A token that is skipped is left behind. At the end nothing is skipped. -/
theorem behind_advance (cursor : Cursor) : cursor.Behind cursor.advance := by
  obtain ⟨rest, depth, previous, length⟩ := cursor
  cases rest with
  | nil => exact .refl _
  | cons lexeme rest => exact ⟨List.suffix_cons lexeme rest, rfl⟩

/-- A token that is eaten is left behind. -/
theorem behind_of_eat? {wanted : Token} {cursor after : Cursor}
    (eats : cursor.eat? wanted = some after) : cursor.Behind after := by
  rw [eat?] at eats
  split at eats
  next =>
    obtain rfl := Option.some.inj eats
    exact behind_advance cursor
  next => cases eats

/-- A token that must come next is left behind. -/
theorem behind_of_expect {token : Token} {wanted : Expectation} {cursor after : Cursor}
    (expects : cursor.expect token wanted = .ok after) : cursor.Behind after := by
  rw [expect] at expects
  split at expects
  next found eats =>
    obtain rfl := Except.ok.inj expects
    exact behind_of_eat? eats
  next => cases expects

end Cursor

/-- A reader leaves the cursor behind the place that it began at. -/
def Forward {α : Type} (reader : Reader α) : Prop :=
  ∀ ⦃cursor after : Cursor⦄ ⦃value : α⦄, reader cursor = .ok (value, after) → cursor.Behind after

namespace Forward

variable {α : Type}

/-- Further items move forward, one after the other, whatever the bound. -/
theorem further {item : Reader α} (forward : Forward item) (separator : Token) (bound : Nat) :
    Forward (Reader.further separator item bound) := by
  induction bound with
  | zero =>
    intro cursor after values reads
    exact .of_ok reads
  | succ bound inductionHypothesis =>
    intro cursor after values reads
    rw [Reader.further] at reads
    split at reads
    next =>
      exact .of_ok reads
    next behindSeparator eats =>
      obtain ⟨⟨value, behindItem⟩, itemReads, later⟩ := bind_eq_ok_iff.mp reads
      obtain ⟨⟨others, last⟩, othersRead, result⟩ := bind_eq_ok_iff.mp later
      obtain ⟨-, rfl⟩ := Prod.mk.inj (Except.ok.inj result)
      exact (Cursor.behind_of_eat? eats).trans
        ((forward itemReads).trans (inductionHypothesis othersRead))

/-- Items with a separator between them move forward. -/
theorem separated {item : Reader α} (forward : Forward item) (separator : Token) :
    Forward (Reader.separated separator item) := by
  intro cursor after values reads
  obtain ⟨⟨value, behindItem⟩, itemReads, later⟩ := bind_eq_ok_iff.mp reads
  obtain ⟨⟨others, last⟩, othersRead, result⟩ := bind_eq_ok_iff.mp later
  obtain ⟨-, rfl⟩ := Prod.mk.inj (Except.ok.inj result)
  exact (forward itemReads).trans (forward.further separator _ othersRead)

variable {operand primary : Reader Term}

/-- Operators of one strength move forward with their right sides. -/
theorem operations (forward : Forward operand) (spellings : List String) (bound : Nat)
    (left : Term) : Forward (Reader.operations spellings operand bound left) := by
  induction bound generalizing left with
  | zero =>
    intro cursor after term reads
    exact .of_ok reads
  | succ bound inductionHypothesis =>
    intro cursor after term reads
    rw [Reader.operations] at reads
    split at reads
    next spelling _ =>
      split at reads
      next =>
        obtain ⟨⟨right, behindRight⟩, rightReads, later⟩ := bind_eq_ok_iff.mp reads
        exact cursor.behind_advance.trans
          ((forward rightReads).trans (inductionHypothesis _ later))
      next =>
        exact .of_ok reads
    next =>
      exact .of_ok reads

/-- A first operand and the operators behind it move forward. -/
theorem operandsWith (forward : Forward operand) (spellings : List String) :
    Forward (Reader.operandsWith spellings operand) := by
  intro cursor after term reads
  obtain ⟨⟨left, behindLeft⟩, leftReads, later⟩ := bind_eq_ok_iff.mp reads
  exact (forward leftReads).trans (forward.operations spellings _ left later)

/-- Sums move forward when primaries do. -/
theorem sum (forward : Forward primary) : Forward (Reader.sum primary) :=
  (forward.operandsWith ["*", "/"]).operandsWith ["+", "-"]

/-- A goal moves forward, with a comparison or without. -/
theorem goal (forward : Forward primary) : Forward (Reader.goal primary) := by
  intro cursor after term reads
  obtain ⟨⟨left, behindLeft⟩, leftReads, later⟩ := bind_eq_ok_iff.mp reads
  have behind := forward.sum leftReads
  dsimp only at later
  split at later
  next =>
    exact behind.trans (.of_ok later)
  next spelling _ =>
    obtain ⟨⟨right, behindRight⟩, rightReads, result⟩ := bind_eq_ok_iff.mp later
    obtain ⟨-, rfl⟩ := Prod.mk.inj (Except.ok.inj result)
    exact behind.trans (behindLeft.behind_advance.trans (forward.sum rightReads))

/-- Arguments move forward. -/
theorem arguments (forward : Forward primary) : Forward (Reader.arguments primary) :=
  forward.goal.separated .comma

/-- A name moves forward, over the parentheses of its arguments or by nothing. -/
theorem callable (forward : Forward primary) (name : String) :
    Forward (Reader.callable primary name) := by
  intro cursor after term reads
  rw [Reader.callable] at reads
  split at reads
  next =>
    exact .of_ok reads
  next opened eats =>
    obtain ⟨⟨values, behindValues⟩, valuesRead, later⟩ := bind_eq_ok_iff.mp reads
    obtain ⟨closed, closes, result⟩ := bind_eq_ok_iff.mp later
    obtain ⟨-, rfl⟩ := Prod.mk.inj (Except.ok.inj result)
    exact (Cursor.behind_of_eat? eats).trans
      ((forward.arguments valuesRead).trans (Cursor.behind_of_expect closes))

/-- A list moves forward over its items, its tail and its closing bracket. -/
theorem list (forward : Forward primary) : Forward (Reader.list primary) := by
  intro cursor after term reads
  rw [Reader.list] at reads
  split at reads
  next closed eats =>
    exact (Cursor.behind_of_eat? eats).trans (.of_ok reads)
  next =>
    obtain ⟨⟨items, behindItems⟩, itemsRead, later⟩ := bind_eq_ok_iff.mp reads
    have behind := forward.arguments itemsRead
    dsimp only at later
    split at later
    next =>
      obtain ⟨closed, closes, result⟩ := bind_eq_ok_iff.mp later
      obtain ⟨-, rfl⟩ := Prod.mk.inj (Except.ok.inj result)
      exact behind.trans (Cursor.behind_of_expect closes)
    next behindBar eats =>
      obtain ⟨⟨tail, behindTail⟩, tailReads, closing⟩ := bind_eq_ok_iff.mp later
      obtain ⟨closed, closes, result⟩ := bind_eq_ok_iff.mp closing
      obtain ⟨-, rfl⟩ := Prod.mk.inj (Except.ok.inj result)
      exact behind.trans ((Cursor.behind_of_eat? eats).trans
        ((forward.sum tailReads).trans (Cursor.behind_of_expect closes)))

/-- A primary moves forward within its level. Every token that may begin it is left behind, and the
case is chosen by it. -/
theorem primaryInside (forward : Forward primary) : Forward (Reader.primaryInside primary) := by
  intro cursor after term reads
  have advanced := cursor.behind_advance
  rw [Reader.primaryInside] at reads
  split at reads
  next =>
    exact advanced.trans (.of_ok reads)
  next =>
    exact advanced.trans (.of_ok reads)
  next =>
    split at reads
    next =>
      exact advanced.trans (cursor.advance.behind_advance.trans (.of_ok reads))
    next => cases reads
  next =>
    exact advanced.trans (.of_ok reads)
  next => exact advanced.trans (forward.callable _ reads)
  next => exact advanced.trans (forward.callable _ reads)
  next => exact advanced.trans (forward.list reads)
  next =>
    obtain ⟨⟨inner, behindInner⟩, innerReads, later⟩ := bind_eq_ok_iff.mp reads
    obtain ⟨closed, closes, result⟩ := bind_eq_ok_iff.mp later
    obtain ⟨-, rfl⟩ := Prod.mk.inj (Except.ok.inj result)
    exact advanced.trans ((forward.sum innerReads).trans (Cursor.behind_of_expect closes))
  next => cases reads

end Forward

/-- A primary is what is read inside the level that is opened for it and closed again. -/
theorem exists_inside_of_primary {levels : Nat} {cursor after : Cursor} {term : Term}
    (reads : Reader.primary (levels + 1) cursor = .ok (term, after)) :
    ∃ inside, Reader.primaryInside (Reader.primary levels)
        { cursor with depth := cursor.depth + 1 } = .ok (term, inside) ∧
      after = inside.leave := by
  obtain ⟨opened, enters, rest⟩ := bind_eq_ok_iff.mp reads
  obtain ⟨⟨inner, inside⟩, insideReads, result⟩ := bind_eq_ok_iff.mp rest
  obtain ⟨rfl, rfl⟩ := Prod.mk.inj (Except.ok.inj result)
  rw [Cursor.enter] at enters
  split at enters
  next => cases enters
  next =>
    obtain rfl := Except.ok.inj enters
    exact ⟨inside, insideReads, rfl⟩

/-- Primaries move forward, however many levels they may open. -/
theorem forward_primary (levels : Nat) : Forward (Reader.primary levels) := by
  induction levels with
  | zero =>
    intro cursor after term reads
    cases reads
  | succ levels inductionHypothesis =>
    intro cursor after term reads
    obtain ⟨inside, insideReads, rfl⟩ := exists_inside_of_primary reads
    obtain ⟨rest, depth⟩ := inductionHypothesis.primaryInside insideReads
    exact ⟨rest, by rw [Cursor.leave, depth]; exact Nat.add_sub_cancel ..⟩

end Statute.Logic
