import Statute.Proofs.Logic.Correspondence
import Statute.Proofs.Logic.Scanning

/-!
# Text farther behind in its source

A text that stands farther behind in its source has the same tokens, and readers return the same for
them. All places move by the same distance, those that errors report included.
-/

namespace Statute.Logic

open Statute.Text

/-! ## Places -/

/-- The same token farther behind. -/
def Lexeme.moved (distance : Nat) (lexeme : Lexeme) : Lexeme :=
  ⟨lexeme.token, lexeme.start + distance, lexeme.finish + distance⟩

/-- The same error farther behind. -/
def SyntaxError.moved (distance : Nat) : SyntaxError → SyntaxError
  | unexpectedText offset found => unexpectedText (offset + distance) found
  | grammar offset fault => grammar (offset + distance) fault
  | tooDeep offset => tooDeep (offset + distance)

/-- What comes out farther behind, where `move` says what becomes of a result. -/
def movedOutcome {α : Type} (distance : Nat) (move : α → α) :
    Except SyntaxError α → Except SyntaxError α
  | .ok value => .ok (move value)
  | .error error => .error (error.moved distance)

/-- The tokens of a text do not change when it stands farther behind. -/
theorem scanFrom_moved (distance offset : Nat) (text : List Char) :
    scanFrom (offset + distance) text =
      movedOutcome distance (List.map (Lexeme.moved distance)) (scanFrom offset text) := by
  have start : offset + distance + byteLength (splitLayout false text).1 =
      offset + byteLength (splitLayout false text).1 + distance := Nat.add_right_comm ..
  rw [scanFrom_eq, scanFrom_eq offset, start]
  split
  next => rfl
  next first rest cut =>
    dsimp only
    split
    next => rfl
    next token after scanned =>
      have shorter := length_lt_of_cut cut scanned
      rw [Nat.add_right_comm _ distance, scanFrom_moved distance _ after]
      cases scanFrom _ after <;> rfl
termination_by text.length

/-- What stands in a source and in one where it stands farther behind. -/
def Correspondence.behind (distance : Nat) : Correspondence where
  lexemes first second := first.moved distance = second
  places offset other := offset + distance = other
  token := fun same => same ▸ rfl
  start := fun same => same ▸ rfl

namespace Cursor

/-- The same place farther behind. -/
def moved (distance : Nat) (cursor : Cursor) : Cursor :=
  ⟨cursor.rest.map (Lexeme.moved distance), cursor.depth, cursor.previousStart + distance,
    cursor.sourceLength + distance⟩

/-- A cursor corresponds to the one farther behind. -/
theorem correspond_moved (distance : Nat) (cursor : Cursor) :
    cursor.Correspond (.behind distance) (cursor.moved distance) where
  rest := List.forall₂_map_right_iff.mpr (List.forall₂_same.mpr fun _ _ => rfl)
  depth := rfl
  previous := rfl
  length := rfl

/-- Only the one farther behind corresponds to a cursor. -/
theorem eq_moved_of_correspond {distance : Nat} {cursor other : Cursor}
    (same : cursor.Correspond (.behind distance) other) : other = cursor.moved distance := by
  obtain ⟨rest, depth, previous, length⟩ := cursor
  obtain ⟨otherRest, otherDepth, otherPrevious, otherLength⟩ := other
  obtain ⟨lexemes, rfl, rfl, rfl⟩ := same
  obtain rfl : rest.map (Lexeme.moved distance) = otherRest := by
    rw [← List.forall₂_eq_eq_eq]
    exact List.forall₂_map_left_iff.mpr lexemes
  rfl

end Cursor

/-! ## Readers -/

/-- A reader returns the same farther behind. -/
def Movable {α : Type} (reader : Reader α) : Prop :=
  ∀ distance cursor, reader (cursor.moved distance) =
    movedOutcome distance (Prod.map id (Cursor.moved distance)) (reader cursor)

/-- Readers that choose by tokens alone return the same farther behind. -/
theorem Placeless.movable {α : Type} {reader : Reader α} (placeless : Placeless reader) :
    Movable reader := by
  intro distance cursor
  have outcomes := placeless (cursor.correspond_moved distance)
  generalize reader (cursor.moved distance) = later, reader cursor = outcome at outcomes ⊢
  cases outcomes with
  | @ok first second same =>
    obtain ⟨value, after⟩ := first
    obtain ⟨_, behind⟩ := second
    obtain ⟨rfl, later⟩ := same
    obtain rfl := Cursor.eq_moved_of_correspond later
    rfl
  | grammar place =>
    obtain rfl := place
    rfl
  | tooDeep place =>
    obtain rfl := place
    rfl

end Statute.Logic
