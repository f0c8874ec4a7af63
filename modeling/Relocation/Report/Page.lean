import Relocation.Layout.Print
import Relocation.Layout.Table
import Relocation.Report.Payload

/-!
# The console report

A `Page` is what the console report shows, as a list of blocks: a rule with the heading, the
verdict, the messages, and tables with the counts and the signatures. `Page.ofComparison` says what
the report of a comparison holds, `Page.render` draws a page on a console of a given width, and
`Page.coloured` does so in colours.
-/

namespace Relocation

open Layout (Column Table)

/-- The emphasis of a printed text. -/
inductive Tone where
  | passed
  | failed
  | warning
  | heading
  deriving DecidableEq, Repr

/-- The console style of an emphasis. -/
def Tone.style : Tone → String
  | passed => "bold green"
  | failed => "bold red"
  | warning => "yellow"
  | heading => "bold"

/-- The numbers by which a console is told the emphasis: 1 for bold, 31 to 33 for the colour.
Highlights within a text, such as those of numbers and paths, are left out. -/
def Tone.codes : Tone → String
  | passed => "1;32"
  | failed => "1;31"
  | warning => "33"
  | heading => "1"

/-- A text between the control sequences that switch its emphasis on and off. -/
def Tone.paint (tone : Tone) (text : List Char) : List Char :=
  s!"\x1b[{tone.codes}m".toList ++ text ++ "\x1b[0m".toList

/-- A part of a page. -/
inductive Block where
  /-- a line across the page with a title in its middle -/
  | rule (title : String) (fill : Char)
  /-- a printed text -/
  | text (content : String) (tone : Tone)
  /-- a table -/
  | table (t : Table)
  deriving DecidableEq, Repr

/-- A console report. -/
abbrev Page := List Block

namespace Page

/-! ## Content -/

/-- A text as tables hold it, without the controls that no console shows. -/
def cell (s : String) : String :=
  .ofList (Layout.visible s.toList)

/-- A heading with messages below it, or nothing if there are none. -/
def messages (heading : String) (tone : Tone) (texts : List String) : Page :=
  if texts.isEmpty then []
  else .text heading .heading :: texts.map fun text => .text s!"  - {text}" tone

/-- The table of the counts. -/
def summary (c : Comparison) : Table where
  title := "Summary"
  showHeader := false
  expand := false
  columns := [⟨"metric", .left, .ellipsis, none⟩, ⟨"value", .right, .ellipsis, none⟩]
  rows := [
    ["Methods removed from original", toString c.removed.length],
    ["Methods remaining", toString c.remaining.length],
    ["New files analyzed", toString c.newFiles.size]]

/-- A table of signatures. -/
def signatures (title lineHeader : String) (found : List Signature) : Table where
  title := cell title
  showHeader := true
  expand := true
  columns := [⟨"name", .left, .fold, some 2⟩, ⟨lineHeader, .right, .ellipsis, some 1⟩,
    ⟨"declarator", .left, .fold, some 5⟩]
  rows := found.map fun s => [cell s.name, toString s.line, cell s.declarator]

/-- The report of a comparison. -/
def ofComparison (c : Comparison) : Page :=
  [.rule "Refactoring Verification Results" '-',
    .text s!"Status: {c.status}" (if c.passed then .passed else .failed)] ++
  messages "Errors" .failed c.errors ++
  messages "Warnings" .warning c.warnings ++
  [.table (summary c),
    .table (signatures "Removed Methods" "was at line" c.removed),
    .table (signatures "Remaining Methods in Refactored File" "line" c.remaining)] ++
  c.newFiles.entries.map fun (name, found) =>
    .table (signatures s!"New File: {name}" "line" found)

/-! ## Drawing -/

/-- The console lines of a rule. -/
def ruleLine (width : Nat) (title : List Char) (fill : Char) : List Char :=
  let space := width - (Layout.cells title + 2)
  List.replicate (space / 2) fill ++ ' ' :: title ++
    ' ' :: List.replicate (space - space / 2) fill

/-- The console lines of a block. Each stretch of a printed text is painted by itself. -/
def blockLines (width : Nat) (paint : Tone → List Char → List Char) : Block → List (List Char)
  | .rule title fill => [ruleLine width title.toList fill]
  | .text content tone =>
    (Layout.printed width (Shortcode.expand content.toList)).map fun line =>
      line.flatMap (paint tone)
  | .table t => t.lines width

/-- A page on a console, with printed texts painted in a given way. -/
def draw (width : Nat) (paint : Tone → List Char → List Char) (page : Page) : String :=
  .ofList ((page.flatMap (blockLines width paint)).flatMap fun line => line ++ ['\n'])

/-- A page as it looks on a console. -/
def render (width : Nat) (page : Page) : String :=
  page.draw width fun _ text => text

/-- A page with the control sequences that colour it. The colours are an approximation: only printed
texts are painted, while a console with colours also has styles for rules, for the titles and
headers of tables, and for highlighted stretches. The text between the sequences is exact. -/
def coloured (width : Nat) (page : Page) : String :=
  page.draw width Tone.paint

end Page

end Relocation
