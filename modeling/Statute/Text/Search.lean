/-!
# Finding and cutting texts

Cutting a text at the first or the last place where a pattern stands, at every such place, and
replacing the pattern throughout. Places are searched from the left and do not overlap. Where a place
in source text is given by an offset, the offset counts the bytes of its UTF-8 form.
-/

namespace Statute.Text

/-- Cutting a pattern off the beginning of a text leaves what follows it. -/
theorem isPrefixOf?_eq_some_iff {pattern text after : List Char} :
    pattern.isPrefixOf? text = some after ↔ text = pattern ++ after := by
  induction pattern generalizing text with
  | nil => exact ⟨fun cut => Option.some.inj cut, fun whole => congrArg some whole⟩
  | cons first rest inductionHypothesis =>
    cases text with
    | nil => exact ⟨fun cut => (nomatch cut), fun whole => (nomatch whole)⟩
    | cons character tail =>
      have step : (first :: rest).isPrefixOf? (character :: tail) =
          if first == character then rest.isPrefixOf? tail else none := rfl
      rw [step]
      by_cases same : first = character
      · simp [same, inductionHypothesis]
      · simp [same, Ne.symm same]

/-- Leaving out a leading run makes a text no longer. -/
theorem length_dropWhile_le (keep : Char → Bool) (text : List Char) :
    (text.dropWhile keep).length ≤ text.length := by
  induction text with
  | nil => simp
  | cons character rest inductionHypothesis =>
    cases keepsCharacter : keep character <;> simp [keepsCharacter]
    omega

/-- The number of bytes of the UTF-8 form of a text. -/
def byteLength : List Char → Nat
  | [] => 0
  | character :: rest => character.utf8Size + byteLength rest

/-- What stands before and after the first place of a pattern. -/
def splitFirst (pattern : List Char) : List Char → Option (List Char × List Char)
  | [] => if pattern.isEmpty then some ([], []) else none
  | character :: rest =>
    match pattern.isPrefixOf? (character :: rest) with
    | some after => some ([], after)
    | none => (splitFirst pattern rest).map fun (before, after) => (character :: before, after)

/-- What stands before and after the last place of a pattern. -/
def splitLast (pattern : List Char) : List Char → Option (List Char × List Char)
  | [] => if pattern.isEmpty then some ([], []) else none
  | character :: rest =>
    match splitLast pattern rest with
    | some (before, after) => some (character :: before, after)
    | none => (pattern.isPrefixOf? (character :: rest)).map fun after => ([], after)

/-- A pattern stands somewhere in the text. -/
def occursIn (pattern text : List Char) : Bool :=
  (splitFirst pattern text).isSome

/-- The pieces between the places of one separating character; one more than there are places. -/
def splitAt (separator : Char) : List Char → List (List Char)
  | [] => [[]]
  | character :: rest =>
    if character = separator then [] :: splitAt separator rest
    else
      match splitAt separator rest with
      | [] => [[character]]
      | piece :: pieces => (character :: piece) :: pieces

/-- Replacement with `pending` characters of a place already replaced still to be passed over. -/
def replaceFrom (pattern replacement : List Char) : Nat → List Char → List Char
  | _, [] => []
  | pending + 1, _ :: rest => replaceFrom pattern replacement pending rest
  | 0, character :: rest =>
    if pattern.isPrefixOf (character :: rest) && !pattern.isEmpty then
      replacement ++ replaceFrom pattern replacement (pattern.length - 1) rest
    else character :: replaceFrom pattern replacement 0 rest

/-- Every place of a non-empty pattern replaced, in one pass from the left. -/
def replaceAll (pattern replacement text : List Char) : List Char :=
  replaceFrom pattern replacement 0 text

/-- The strings in order with a separator between neighbours. -/
def joined (separator : String) : List String → String
  | [] => ""
  | [only] => only
  | first :: second :: rest => first ++ separator ++ joined separator (second :: rest)

end Statute.Text
