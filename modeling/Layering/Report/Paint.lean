/-!
# Painted text

Text in pieces, some of them with a style. Written without colours it is the text of the pieces;
with colours, a piece with a style stands between the escape sequence of the style and the one
that resets it.
-/

namespace Layering.Report

/-- The styles of a terminal that reports use. -/
inductive Style where
  | red
  | green
  | yellow
  | blue
  | cyan
  | bold
  | whiteOnRed
deriving DecidableEq, Repr

/-- The parameters of a style's escape sequence. -/
def Style.code : Style → List Char
  | .red => ['3', '1']
  | .green => ['3', '2']
  | .yellow => ['3', '3']
  | .blue => ['3', '4']
  | .cyan => ['3', '6']
  | .bold => ['1']
  | .whiteOnRed => ['4', '1', ';', '3', '7']

/-- The escape sequence with some parameters. -/
def sequenceOf (code : List Char) : List Char := ['\x1b', '['] ++ code ++ ['m']

/-- The sequence that resets all styles. -/
def resetSequence : List Char := sequenceOf ['0']

/-- A text with the style set again after each reset in it. -/
def reapply (style : List Char) : List Char → List Char
  | '\x1b' :: '[' :: '0' :: 'm' :: rest => resetSequence ++ style ++ reapply style rest
  | c :: rest => c :: reapply style rest
  | [] => []

/-- A piece of text. -/
structure Piece where
  text : String
  style : Option Style := none

namespace Piece

/-- The piece in its style. -/
def painted (p : Piece) : String :=
  match p.style with
  | none => p.text
  | some style =>
    let start := sequenceOf style.code
    String.ofList (start ++ reapply start p.text.toList ++ resetSequence)

/-- The piece with or without its style. -/
def render (colors : Bool) (p : Piece) : String := if colors then p.painted else p.text

end Piece

/-- Text in pieces. -/
abbrev Painted := List Piece

namespace Painted

/-- Text without a style. -/
def plain (text : String) : Painted := [{ text }]

/-- Text in a style. -/
def styled (style : Style) (text : String) : Painted := [{ text, style := some style }]

/-- All pieces, with or without their styles. -/
def render (colors : Bool) (t : Painted) : String := String.join (t.map (Piece.render colors))

end Painted

end Layering.Report
