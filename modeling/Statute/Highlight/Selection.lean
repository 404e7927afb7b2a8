import Statute.Regulation.Atom

/-!
# Selecting the spans to highlight

The spans of all atoms are put in the order of their places and gone through once. Empty spans and
spans beyond the text are refused under either policy; a span that runs into the last accepted one
is refused or dropped, as the policy says.
-/

namespace Statute.Highlight

/-- What is done about spans that overlap. -/
inductive OverlapPolicy where
  /-- Overlapping spans are an error. -/
  | reject
  /-- Of two overlapping spans the one that starts first stays. -/
  | firstWins
deriving DecidableEq, Repr

namespace OverlapPolicy

/-- The name of a policy in data. -/
def wireName : OverlapPolicy → String
  | reject => "reject"
  | firstWins => "first-wins"

/-- The policy with a name in data. -/
def ofWireName? (name : String) : Option OverlapPolicy :=
  [reject, firstWins].find? fun policy => policy.wireName == name

/-- Reads the JSON form of a policy. -/
def ofJson? (json : Json) : Option OverlapPolicy :=
  json.alternative? >>= ofWireName?

end OverlapPolicy

/-- Why spans cannot be highlighted. -/
inductive SpanError where
  | outOfBounds (span : Span) (length : Nat)
  | empty (span : Span)
  | overlap (first second : Span)
deriving DecidableEq

/-- The range of a span with dots between its ends. -/
def rangeText (span : Span) : String :=
  toString span.start.toNat ++ ".." ++ toString span.finish.toNat

/-- The ends of a span as a pair. -/
def pairText (span : Span) : String :=
  "(" ++ toString span.start.toNat ++ ", " ++ toString span.finish.toNat ++ ")"

/-- The error in words. -/
def SpanError.message : SpanError → String
  | outOfBounds span length =>
    "Span " ++ rangeText span ++ " of atom " ++ toString span.atomId.toInt ++
      " is out of bounds for text of " ++ toString length ++ " characters"
  | empty span =>
    "Span " ++ rangeText span ++ " of atom " ++ toString span.atomId.toInt ++ " is empty"
  | overlap first second =>
    "Span " ++ pairText second ++ " of atom " ++ toString second.atomId.toInt ++
      " overlaps span " ++ pairText first ++ " of atom " ++ toString first.atomId.toInt

/-- The spans of all atoms, each with the number of the atom that owns it. -/
def ownedSpans (atoms : List Atom) : List Span :=
  atoms.flatMap fun atom => atom.spans.map fun span => { span with atomId := atom.id }

/-- A span starts before another one, or starts with it and ends no later. -/
def startsNoLater (left right : Span) : Bool :=
  left.start < right.start || (left.start == right.start && left.finish ≤ right.finish)

/-- The spans of all atoms by their places; spans of one place stay in the order of the atoms. -/
def orderedSpans (atoms : List Atom) : List Span :=
  (ownedSpans atoms).mergeSort startsNoLater

/-- Goes through ordered spans behind the last accepted one, `previous`. -/
def accept (policy : OverlapPolicy) (length : Nat) (previous : Option Span) :
    List Span → Except SpanError (List Span)
  | [] => .ok []
  | span :: rest =>
    if span.finish ≤ span.start then .error (.empty span)
    else if length < span.finish.toNat then .error (.outOfBounds span length)
    else
      match previous, policy with
      | some first, .reject =>
        if span.start < first.finish then .error (.overlap first span)
        else (accept policy length (some span) rest).map (span :: ·)
      | some first, .firstWins =>
        if span.start < first.finish then accept policy length previous rest
        else (accept policy length (some span) rest).map (span :: ·)
      | none, _ => (accept policy length (some span) rest).map (span :: ·)

/-- The spans of atoms that are highlighted in a text of the given length, in text order. -/
def resolve (policy : OverlapPolicy) (length : Nat) (atoms : List Atom) :
    Except SpanError (List Span) :=
  accept policy length none (orderedSpans atoms)

end Statute.Highlight
