import Statute.Text.Search

/-!
# Cutting texts at byte offsets

A text can be cut at an offset that counts bytes of its UTF-8 form only where a character begins or
where the text ends. The offsets of these places are those of the characters in order.
-/

namespace Statute.Text

/-- The bytes of two texts add up. -/
theorem byteLength_append (left right : List Char) :
    byteLength (left ++ right) = byteLength left + byteLength right := by
  induction left with
  | nil => simp [byteLength]
  | cons character rest inductionHypothesis =>
    simp only [List.cons_append, byteLength, inductionHypothesis]
    omega

/-- Every character takes a byte at least. -/
theorem byteLength_pos {text : List Char} (nonempty : text ≠ []) : 0 < byteLength text := by
  obtain ⟨character, rest, rfl⟩ := List.exists_cons_of_ne_nil nonempty
  have positive := character.utf8Size_pos
  rw [byteLength]
  omega

/-- The text before and behind a byte offset; nothing when the offset is beyond the text or within
a character. -/
def splitAtByte? : (offset : Nat) → List Char → Option (List Char × List Char)
  | 0, text => some ([], text)
  | _ + 1, [] => none
  | offset + 1, character :: rest =>
    if character.utf8Size ≤ offset + 1 then
      (splitAtByte? (offset + 1 - character.utf8Size) rest).map fun (before, behind) =>
        (character :: before, behind)
    else none

/-- The text between two byte offsets; nothing when they are in the wrong order or when the text
cannot be cut at one of them. -/
def slice? (first last : Nat) (text : List Char) : Option (List Char) :=
  if first ≤ last then do
    let (_, behind) ← splitAtByte? first text
    let (between, _) ← splitAtByte? (last - first) behind
    return between
  else none

/-- The byte offsets of the characters of a text that begins at an offset, and of its end. -/
def characterOffsets (offset : Nat) : List Char → List Nat
  | [] => [offset]
  | character :: rest => offset :: characterOffsets (offset + character.utf8Size) rest

/-- A text can be cut behind any of its characters. -/
theorem splitAtByte?_byteLength (before behind : List Char) :
    splitAtByte? (byteLength before) (before ++ behind) = some (before, behind) := by
  induction before with
  | nil => simp [byteLength, splitAtByte?]
  | cons character rest inductionHypothesis =>
    have positive := character.utf8Size_pos
    have size : byteLength (character :: rest) =
        (character.utf8Size - 1 + byteLength rest) + 1 := by
      rw [byteLength]
      omega
    have within : character.utf8Size ≤ (character.utf8Size - 1 + byteLength rest) + 1 := by omega
    have remaining : (character.utf8Size - 1 + byteLength rest) + 1 - character.utf8Size =
        byteLength rest := by
      omega
    rw [size, List.cons_append, splitAtByte?, if_pos within, remaining, inductionHypothesis]
    rfl

/-- A text that is cut is cut behind as many bytes as the offset says. -/
theorem splitAtByte?_eq_some {offset : Nat} {text before behind : List Char}
    (split : splitAtByte? offset text = some (before, behind)) :
    text = before ++ behind ∧ offset = byteLength before := by
  fun_induction splitAtByte? offset text generalizing before with
  | case1 =>
    obtain ⟨rfl, rfl⟩ := Prod.mk.inj (Option.some.inj split)
    exact ⟨rfl, rfl⟩
  | case2 => cases split
  | case3 offset character rest fits inductionHypothesis =>
    obtain ⟨⟨front, back⟩, found, same⟩ := Option.map_eq_some_iff.mp split
    obtain ⟨rfl, rfl⟩ := Prod.mk.inj same
    obtain ⟨rfl, remaining⟩ := inductionHypothesis found
    refine ⟨rfl, ?_⟩
    rw [byteLength]
    omega
  | case4 => cases split

/-- The text between two places of characters is what stands between them. -/
theorem slice?_byteLength (before between behind : List Char) :
    slice? (byteLength before) (byteLength (before ++ between)) (before ++ (between ++ behind)) =
      some between := by
  have size : byteLength (before ++ between) - byteLength before = byteLength between := by
    rw [byteLength_append]
    omega
  have ordered : byteLength before ≤ byteLength (before ++ between) := by
    rw [byteLength_append]
    omega
  rw [slice?, if_pos ordered, splitAtByte?_byteLength, size]
  simp only [Option.bind_eq_bind, Option.bind_some, splitAtByte?_byteLength]
  rfl

/-- The offset that is listed for a position is the length of the text before it. -/
theorem getElem?_characterOffsets (offset : Nat) (before behind : List Char) :
    (characterOffsets offset (before ++ behind))[before.length]? =
      some (offset + byteLength before) := by
  induction before generalizing offset with
  | nil => cases behind <;> rfl
  | cons character rest inductionHypothesis =>
    rw [List.cons_append, characterOffsets, List.length_cons, List.getElem?_cons_succ,
      inductionHypothesis, byteLength, Nat.add_assoc]

/-- Characters begin, and a text ends, behind what stands before. -/
theorem byteLength_mem_characterOffsets (before behind : List Char) :
    byteLength before ∈ characterOffsets 0 (before ++ behind) := by
  have listed := getElem?_characterOffsets 0 before behind
  rw [Nat.zero_add] at listed
  exact List.mem_of_getElem? listed

/-- A part of a text at a place is a beginning of what stands there. -/
theorem eq_of_slice?_byteLength {before text part : List Char} {last : Nat}
    (cut : slice? (byteLength before) last (before ++ text) = some part) :
    part <+: text ∧ last = byteLength before + byteLength part := by
  rw [slice?] at cut
  split at cut
  next ordered =>
    simp only [splitAtByte?_byteLength, Option.bind_eq_bind, Option.bind_some] at cut
    obtain ⟨⟨between, behind⟩, split, same⟩ := Option.bind_eq_some_iff.mp cut
    obtain rfl := Option.some.inj same
    obtain ⟨rfl, length⟩ := splitAtByte?_eq_some split
    exact ⟨List.prefix_append _ _, by dsimp only; omega⟩
  next => cases cut

end Statute.Text
