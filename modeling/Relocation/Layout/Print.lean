import Relocation.Layout.Highlight
import Relocation.Layout.Wrap

/-!
# Printed text

A text that is printed by itself, and not in a table, is highlighted. It is wrapped as a whole, but
its lines are cut to the width of the console stretch by stretch: a joiner at the end of a stretch
merges nothing, so a line may turn out wider than it was when it was wrapped.
-/

namespace Relocation.Layout

/-- The first stretches, as far as they fit into a width. -/
def takeStretches : Nat → List (List Char) → List (List Char)
  | _, [] => []
  | width, stretch :: rest =>
    if cells stretch < width then stretch :: takeStretches (width - cells stretch) rest
    else [crop width .fold stretch]

/-- Cut a line to a width, measured stretch by stretch. -/
def cropStretches (width : Nat) (line : List (List Char)) : List (List Char) :=
  if (line.map cells).foldr (· + ·) 0 ≤ width then line else takeStretches width line

/-- Divide glyphs as a text of the same length is divided into pieces. -/
def alongside : List (List Char) → List Glyph → List (List Char × List Glyph)
  | [], _ => []
  | piece :: rest, glyphs =>
    (piece, glyphs.take piece.length) :: alongside rest (glyphs.drop piece.length)

/-- The stretches of a piece as it is printed. -/
def printedPiece (width : Nat) (piece : List Char) (glyphs : List Glyph) : List (List Char) :=
  let shown := crop width .fold (shorten width piece)
  cropStretches width (stretches (shown.zip (glyphs.map Prod.snd)))

/-- The console lines of a text that is printed by itself and not in a table, each as a list of
stretches. -/
def printed (width : Nat) (text : List Char) : List (List (List Char)) :=
  (unwrapped (Highlight.glyphs (visible text))).flatMap fun line =>
    (alongside (breakLine width .fold (charsOf line)) line).map fun (piece, glyphs) =>
      printedPiece width piece glyphs

end Relocation.Layout
