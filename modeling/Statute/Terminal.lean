import Statute.Highlight.Piece

/-!
# Terminal text

Text with the control sequences of a terminal for bold and dimmed text, foreground and background
colors, and the lines that report success, failure and hints.
-/

namespace Statute.Terminal

/-- A control sequence that sets graphic attributes. -/
def control (parameters : String) : String :=
  "\x1b[" ++ parameters ++ "m"

/-- Text on a background color. -/
def onBackground (color : Color.Rgb) (text : String) : String :=
  control ("48;2;" ++ toString color.red.toNat ++ ";" ++ toString color.green.toNat ++ ";" ++
    toString color.blue.toNat) ++ text ++ control "49"

/-- Text in one of the colors that the terminal numbers. -/
def inColor (number : Nat) (text : String) : String :=
  control ("38;5;" ++ toString number) ++ text ++ control "39"

/-- Bold text. -/
def heading (text : String) : String :=
  control "1" ++ text ++ control "0"

/-- Grey text. -/
def dimmed (text : String) : String :=
  inColor 8 text

/-- Two spaces on a background of the color `#rrggbb`. -/
def swatch (hex : String) : String :=
  onBackground (Color.parseHex hex) "  "

/-- A line that reports success. -/
def successLine (message : String) : String :=
  inColor 10 "✓" ++ " " ++ message ++ "\n"

/-- A line that reports a failure. -/
def failureLine (message : String) : String :=
  inColor 9 "✗" ++ " " ++ message ++ "\n"

/-- A line with a hint. -/
def hintLine (message : String) : String :=
  inColor 12 "ℹ" ++ " " ++ message ++ "\n"

/-- A piece of text; a highlighted one is black on its color, which is the emphasized one for the
emphasized atom. -/
def renderPiece (emphasized : Option AtomId) : Highlight.Piece → String
  | .plain text => text
  | .highlighted atomId text color =>
    let background := if emphasized = some atomId then color.rgbHover else color.rgbBase
    control ("48;2;" ++ toString background.red.toNat ++ ";" ++
        toString background.green.toNat ++ ";" ++ toString background.blue.toNat) ++
      control "38;5;0" ++ text ++ control "49" ++ control "39"

/-- Pieces of text in order. -/
def renderPieces (emphasized : Option AtomId) (pieces : List Highlight.Piece) : String :=
  Text.joined "" (pieces.map (renderPiece emphasized))

end Statute.Terminal
