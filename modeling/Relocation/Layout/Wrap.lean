import Relocation.Layout.Cells
import Relocation.Text.Trim

/-!
# Wrapping text to a width

This module breaks a text into console lines of a given number of cells:

* `Layout.unwrapped` — the lines of the text itself, without controls and with tabs expanded,
* `Layout.breakLine` — the pieces of one line, broken between words where that is possible,
* `Layout.wrap` — both, with every piece cut and justified.
-/

namespace Relocation.Layout

/-! ## Preparation -/

/-- Control characters that never reach a console. -/
def dropped : CharSet :=
  .ofChars ['\x07', '\x08', '\x0b', '\x0c', '\x0d']

/-- A text without the characters that never reach a console. -/
def visible (text : List Char) : List Char :=
  text.filter fun c => !dropped.contains c

/-- Replace each tab by blanks up to the next multiple of eight cells, at least one. `before` is the
number of cells before the last tab and `part` what has come since, the last glyph first. -/
def expandTabs (before : Nat) (part : List Glyph) : List Glyph → List Glyph
  | [] => part.reverse
  | (c, starts) :: rest =>
    if c = '\t' then
      let filled := ((' ', starts) :: part).reverse
      let reached := before + cells (charsOf filled)
      let gap := (8 - reached % 8) % 8
      filled ++ List.replicate gap (' ', false) ++ expandTabs (reached + gap) [] rest
    else expandTabs before ((c, starts) :: part) rest

/-- The lines of a text, ready to be broken. -/
def unwrapped (text : List Glyph) : List (List Glyph) :=
  (text.splitOnP fun glyph => glyph.1 == '\n').map (expandTabs 0 [])

/-! ## Breaking -/

/-- What happens to a piece that is too wide: it is folded over several lines, or cut with an
ellipsis. -/
inductive Overflow where
  | fold
  | ellipsis
  deriving DecidableEq, Repr

/-- The words of a line. White space belongs to the word before it, at the start of the line to
the first word. -/
def words (line : List Char) : List (List Char) :=
  match line.splitBy fun a b => !(CharSet.blank.contains a && !CharSet.blank.contains b) with
  | first :: second :: rest =>
    if first.all CharSet.blank.contains then (first ++ second) :: rest
    else first :: second :: rest
  | pieces => pieces

/-- A line being broken. -/
structure Broken where
  /-- the finished pieces, the last one first -/
  done : List (List Char)
  /-- the piece being filled -/
  piece : List Char
  /-- the cells of that piece -/
  used : Nat

namespace Broken

/-- Put a word on the current piece. -/
def extend (b : Broken) (word : List Char) : Broken :=
  { b with piece := b.piece ++ word, used := b.used + cells word }

/-- Put a word on a new piece. The start of the line is no place to break. -/
def restart (b : Broken) (word : List Char) : Broken :=
  ⟨if b.piece.isEmpty then b.done else b.piece :: b.done, word, cells word⟩

/-- Place the next word: on the current piece if it fits there without the white space after it,
else on a new one; a word too wide for any piece is chopped if it may be folded. -/
def place (width : Nat) (overflow : Overflow) (b : Broken) (word : List Char) : Broken :=
  let core := cells (Text.trimEnd .blank word)
  if b.used + core ≤ width then b.extend word
  else if width < core ∧ overflow = .fold then (chop width word).foldl restart b
  else b.restart word

/-- The pieces in order. -/
def pieces (b : Broken) : List (List Char) :=
  (b.piece :: b.done).reverse

end Broken

/-- Break a line into pieces. A line of white space is one piece. -/
def breakLine (width : Nat) (overflow : Overflow) (line : List Char) : List (List Char) :=
  if line.all CharSet.blank.contains then [line]
  else ((words line).foldl (Broken.place width overflow) ⟨[], [], 0⟩).pieces

/-- Drop white space at the end of a piece as far as the piece has more characters than the width
has cells. -/
def shorten (width : Nat) (piece : List Char) : List Char :=
  let trailing := piece.length - (Text.trimEnd .blank piece).length
  piece.take (piece.length - min (piece.length - width) trailing)

/-! ## Justification -/

/-- Where a piece stands in its width. -/
inductive Justify where
  | left
  | right
  | center
  deriving DecidableEq, Repr

/-- Cut a piece to a width. -/
def crop (width : Nat) (overflow : Overflow) (piece : List Char) : List Char :=
  if cells piece ≤ width then piece
  else
    match overflow with
    | .fold => takeCells width piece
    | .ellipsis => takeCells (width - 1) piece ++ ['…']

/-- Cut a piece to a width and put it in its place. -/
def justify (width : Nat) (overflow : Overflow) (how : Justify) (piece : List Char) : List Char :=
  match how with
  | .left =>
    let piece := crop width overflow piece
    piece ++ blanks (width - cells piece)
  | .right =>
    let piece := crop width overflow (Text.trimEnd .blank piece)
    blanks (width - cells piece) ++ piece
  | .center =>
    let piece := crop width overflow (Text.trimEnd .blank piece)
    let space := width - cells piece
    blanks (space / 2) ++ piece ++ blanks (space - space / 2)

/-- The console lines of a text. -/
def wrap (width : Nat) (overflow : Overflow) (how : Justify) (text : List Char) :
    List (List Char) :=
  (unwrapped ((visible text).map fun c => (c, false))).flatMap fun line =>
    (breakLine width overflow (charsOf line)).map fun piece =>
      justify width overflow how (shorten width piece)

end Relocation.Layout
