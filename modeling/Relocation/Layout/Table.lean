import Relocation.Layout.Wrap

/-!
# Tables

A `Table` has a title, columns and rows of cells. `Table.lines` draws it for a console of a given
width: the cells of a row are wrapped to their columns, and the row is as high as its highest cell.
-/

namespace Relocation.Layout

/-- A column of a table. -/
structure Column where
  header : String
  justify : Justify
  overflow : Overflow
  /-- the share of the width in a table that takes up all of it -/
  ratio : Option Nat
  deriving DecidableEq, Repr

/-- A table. -/
structure Table where
  title : String
  /-- whether the headers of the columns are drawn -/
  showHeader : Bool
  /-- whether the table takes up the whole width -/
  expand : Bool
  columns : List Column
  rows : List (List String)
  deriving DecidableEq, Repr

namespace Table

/-! ## Column widths -/

/-- Divide a width by ratios. Every share is rounded up, and the later shares come out of what is
left. -/
def shares (width : Nat) : List Nat → List Nat
  | [] => []
  | ratio :: rest =>
    let total := ratio + rest.foldr (· + ·) 0
    let share := (ratio * width + total - 1) / total
    share :: shares (width - share) rest

/-- The cells of a column, from top to bottom. -/
def columnCells (t : Table) (index : Nat) : List String :=
  t.rows.map fun row => row.getD index ""

/-- The widths of the columns' contents on a console of a given width. Each column has a blank on
both sides, and a line stands before, between and after the columns. -/
def widths (t : Table) (width : Nat) : List Nat :=
  if t.expand then
    (shares (width - (t.columns.length + 1)) (t.columns.map fun c => c.ratio.getD 1)).map (· - 2)
  else
    t.columns.zipIdx.map fun (column, index) =>
      let texts := if t.showHeader then column.header :: t.columnCells index
        else t.columnCells index
      (texts.map fun text => cells text.toList).foldl max 0

/-! ## Drawing -/

/-- A horizontal line with its ends and crossings. -/
def border (left fill cross right : Char) (widths : List Nat) : List Char :=
  left :: [cross].intercalate (widths.map fun w => List.replicate (w + 2) fill) ++ [right]

/-- One console line of a row. -/
def rowLine (bar : Char) (texts : List (List Char)) : List Char :=
  bar :: texts.flatMap fun text => ' ' :: text ++ [' ', bar]

/-- Where the lines of a cell stand that is lower than its row. -/
inductive Align where
  | top
  | bottom
  deriving DecidableEq, Repr

/-- Give a cell the height of its row. -/
def fill (align : Align) (height width : Nat) (lines : List (List Char)) : List (List Char) :=
  let missing := List.replicate (height - lines.length) (blanks width)
  match align with
  | .top => lines ++ missing
  | .bottom => missing ++ lines

/-- Fill a line up to a width with blanks. -/
def padded (width : Nat) (line : List Char) : List Char :=
  line ++ blanks (width - cells line)

/-- The console lines of a row. -/
def rowLines (bar : Char) (align : Align) (columns : List (Column × Nat)) (row : List String) :
    List (List Char) :=
  let texts := (columns.zip row).map fun ((column, width), text) =>
    (width, (wrap width column.overflow column.justify text.toList).map (padded width))
  let height := (texts.map fun (_, lines) => lines.length).foldl max 0
  let texts := texts.map fun (width, lines) => fill align height width lines
  (List.range height).map fun i => rowLine bar (texts.map fun lines => lines.getD i [])

/-- The console lines of a table: the title, the border, the headers if they are shown, the rows
and the border again. -/
def lines (t : Table) (width : Nat) : List (List Char) :=
  let widths := t.widths width
  let columns := t.columns.zip widths
  let total := widths.foldr (fun w n => w + 3 + n) 1
  let title := wrap total .fold .center t.title.toList
  let head :=
    if t.showHeader then
      border '┏' '━' '┳' '┓' widths ::
        rowLines '┃' .bottom columns (t.columns.map fun column => column.header) ++
        [border '┡' '━' '╇' '┩' widths]
    else [border '┌' '─' '┬' '┐' widths]
  title ++ head ++ t.rows.flatMap (rowLines '│' .top columns) ++ [border '└' '─' '┴' '┘' widths]

end Table

end Relocation.Layout
