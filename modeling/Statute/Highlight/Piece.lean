import Statute.Color
import Statute.Highlight.Selection
import Statute.Text.Search

/-!
# Pieces of highlighted text

A text is cut at its accepted spans into plain and highlighted pieces. Their texts in order are the
whole text; no piece is empty.
-/

namespace Statute.Highlight

/-- A piece of a text. -/
inductive Piece where
  | plain (text : String)
  | highlighted (atomId : AtomId) (text : String) (color : HighlightColor)
deriving DecidableEq

namespace Piece

/-- The text of a piece. -/
def text : Piece → String
  | plain text => text
  | highlighted _ text _ => text

/-- The atom that a piece highlights. -/
def atomId? : Piece → Option AtomId
  | plain _ => none
  | highlighted atomId _ _ => some atomId

/-- The background of a piece while an atom may be emphasized. Plain pieces have none. -/
def background? (emphasized : Option AtomId) : Piece → Option String
  | plain _ => none
  | highlighted atomId _ color =>
    some (if emphasized = some atomId then color.hover else color.base)

/-- The JSON form of a piece. -/
def toJson : Piece → Json
  | plain text => .object [("kind", .string "plain"), ("text", .string text)]
  | highlighted atomId text color =>
    .object [("kind", .string "highlighted"), ("atom_id", .integer atomId.toInt),
      ("text", .string text), ("color", color.toJson)]

end Piece

/-- A plain piece, unless there is nothing in it. -/
def plainPiece (text : List Char) : List Piece :=
  if text.isEmpty then [] else [.plain (String.ofList text)]

/-- Cuts the text from a position on at spans that follow each other. -/
def cut (position : Nat) (text : List Char) : List Span → List Piece
  | [] => plainPiece text
  | span :: rest =>
    let before := span.start.toNat - position
    let inside := text.drop before
    plainPiece (text.take before) ++
      .highlighted span.atomId (String.ofList (inside.take span.length))
        (Color.ofId span.atomId) ::
      cut span.finish.toNat (inside.drop span.length) rest

/-- The pieces of a text whose atoms are highlighted. -/
def highlight (policy : OverlapPolicy) (text : String) (atoms : List Atom) :
    Except SpanError (List Piece) :=
  (resolve policy text.toList.length atoms).map (cut 0 text.toList)

/-- The texts of all pieces in order. -/
def reassemble (pieces : List Piece) : String :=
  Text.joined "" (pieces.map Piece.text)

/-- The texts that are highlighted for an atom, in text order. -/
def textsOf (pieces : List Piece) (atomId : AtomId) : List String :=
  (pieces.filter fun piece => piece.atomId? = some atomId).map Piece.text

end Statute.Highlight
