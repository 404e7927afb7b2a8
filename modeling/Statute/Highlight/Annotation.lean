import Statute.Highlight.Piece
import Statute.Text.DecimalDigit
import Statute.Text.Search

/-!
# Annotated text

Highlighted pieces written as `<atom id="7">…</atom>` within their text. An annotated text is read
from the left: an element reaches from an opening tag to the nearest closing tag behind it,
whatever stands between them. Everything else is plain.
-/

namespace Statute.Highlight

open Text

/-- What an opening tag begins with. -/
def openingText : List Char := ['<', 'a', 't', 'o', 'm', ' ', 'i', 'd', '=', '"']

/-- What an opening tag ends with. -/
def openingEnd : List Char := ['"', '>']

/-- The closing tag. -/
def closingText : List Char := ['<', '/', 'a', 't', 'o', 'm', '>']

/-- A piece with its markup. -/
def Piece.annotated : Piece → String
  | plain text => text
  | highlighted atomId text _ =>
    String.ofList openingText ++ toString atomId.toInt ++ String.ofList openingEnd ++ text ++
      String.ofList closingText

/-- The text with markup around every accepted span. -/
def annotate (policy : OverlapPolicy) (text : String) (atoms : List Atom) :
    Except SpanError String :=
  (highlight policy text atoms).map fun pieces => joined "" (pieces.map Piece.annotated)

/-- A part of an annotated text: one plain character, or an element with the digits of its number
and its content. -/
inductive Part where
  | character (value : Char)
  | element (digits content : List Char)

/-- The element at the beginning of a text and what follows it. The digits may be of any script. -/
def splitElement? (text : List Char) : Option (List Char × List Char × List Char) := do
  let tagged ← openingText.isPrefixOf? text
  let digits := tagged.takeWhile isDecimalDigit
  if digits.isEmpty then none
  let opened ← openingEnd.isPrefixOf? (tagged.dropWhile isDecimalDigit)
  let (content, after) ← splitFirst closingText opened
  return (digits, content, after)

/-- What stands before and after the first place of a pattern is all of the text but the
pattern. -/
theorem splitFirst_eq_some {pattern text before after : List Char}
    (split : splitFirst pattern text = some (before, after)) :
    text = before ++ pattern ++ after := by
  induction text generalizing before with
  | nil =>
    by_cases empty : pattern.isEmpty <;> simp [splitFirst, empty] at split
    obtain ⟨rfl, rfl⟩ := split
    simp_all
  | cons character rest inductionHypothesis =>
    simp only [splitFirst] at split
    split at split
    next found =>
      simp only [Option.some.injEq, Prod.mk.injEq] at split
      obtain ⟨rfl, rfl⟩ := split
      simpa using isPrefixOf?_eq_some_iff.mp found
    next =>
      simp only [Option.map_eq_some_iff, Prod.mk.injEq, Prod.exists] at split
      obtain ⟨inner, tail, found, rfl, rfl⟩ := split
      simp [inductionHypothesis found]

/-- An element is written as its opening tag, its content and its closing tag. -/
theorem splitElement?_eq_some {text digits content after : List Char}
    (split : splitElement? text = some (digits, content, after)) :
    text = openingText ++ digits ++ openingEnd ++ content ++ closingText ++ after := by
  simp only [splitElement?, Option.bind_eq_bind, Option.bind_eq_some_iff] at split
  obtain ⟨tagged, opening, rest⟩ := split
  have openingWhole := isPrefixOf?_eq_some_iff.mp opening
  split at rest
  · simp at rest
  · simp only [Option.bind_eq_some_iff, Option.pure_def] at rest
    obtain ⟨opened, ended, ⟨inner, tail⟩, closed, same⟩ := rest
    simp only [Option.some.injEq, Prod.mk.injEq] at same
    obtain ⟨rfl, rfl, rfl⟩ := same
    have endedWhole := isPrefixOf?_eq_some_iff.mp ended
    have closedWhole := splitFirst_eq_some closed
    have digitsWhole := List.takeWhile_append_dropWhile (p := isDecimalDigit) (l := tagged)
    rw [endedWhole, closedWhole] at digitsWhole
    rw [openingWhole]
    generalize List.takeWhile isDecimalDigit tagged = digits at digitsWhole ⊢
    subst digitsWhole
    simp

/-- The parts of an annotated text in order. -/
def parts (annotated : List Char) : List Part :=
  match annotated with
  | [] => []
  | character :: rest =>
    match _found : splitElement? (character :: rest) with
    | some (digits, content, after) => .element digits content :: parts after
    | none => .character character :: parts rest
termination_by annotated.length
decreasing_by
  · have whole := congrArg List.length (splitElement?_eq_some _found)
    simp [openingText] at whole
    simp
    omega
  · simp

/-- The text of a part without its markup. -/
def Part.content : Part → List Char
  | character value => [value]
  | element _ content => content

/-- The annotated text without the markup of its elements. -/
def stripAnnotations (annotated : String) : String :=
  String.ofList ((parts annotated.toList).flatMap Part.content)

/-- A place that an annotation marks, counted in characters of the text without markup. -/
structure MarkedSpan where
  atomId : AtomId
  start : Nat
  finish : Nat
deriving DecidableEq

/-- An element whose number is none that atoms have. -/
structure InvalidAnnotation where
  digits : String
deriving DecidableEq

/-- The error in words. -/
def InvalidAnnotation.message (error : InvalidAnnotation) : String :=
  "Invalid atom annotation: atom id " ++ error.digits

/-- The places that parts mark from a position on. -/
def markedSpans (position : Nat) : List Part → Except InvalidAnnotation (List MarkedSpan)
  | [] => .ok []
  | .character _ :: rest => markedSpans (position + 1) rest
  | .element digits content :: rest =>
    match Number.readInt64? (String.ofList digits) with
    | none => .error ⟨String.ofList digits⟩
    | some atomId => do
      let finish := position + content.length
      let later ← markedSpans finish rest
      return ⟨atomId, position, finish⟩ :: later

/-- The places that an annotated text marks. -/
def extractSpans (annotated : String) : Except InvalidAnnotation (List MarkedSpan) :=
  markedSpans 0 (parts annotated.toList)

end Statute.Highlight
