import Relocation.Layout.Cells
import Relocation.Layout.Scan
import Relocation.Text.Alphanumeric
import Relocation.Text.Digit

/-!
# Highlighting

A console sets off the parts of a printed text that a reader may look for: brackets, numbers,
quotations, names of functions and files, addresses and the like. What is set off is drawn by
itself, and so is each stretch between, so no cluster and no control sequence reaches over a border.

* `Highlight.tag`, `setting`, `bracket`, `item` — the parts that are set off,
* `Highlight.glyphs` — a text with the places where a stretch starts.
-/

namespace Relocation.Layout.Highlight

open Scan (char text inTurn oneOf opt one run shortRun someOf many between times setOff)

/-! ## Kinds of characters -/

/-- A digit of a decimal number. -/
def isDecimal (c : Char) : Bool :=
  '0' ≤ c && c ≤ '9'

/-- A digit of a hexadecimal number. -/
def isHex (c : Char) : Bool :=
  isDecimal c || ('a' ≤ c && c ≤ 'f') || ('A' ≤ c && c ≤ 'F')

/-- A character of some list. -/
def isIn (chars : String) (c : Char) : Bool :=
  chars.toList.contains c

/-- A character of a word or one of some list. -/
def isWordOr (chars : String) (c : Char) : Bool :=
  isIn chars c || Text.isWordChar c

/-- A character of a link. -/
def isLinkChar (c : Char) : Bool :=
  isDecimal c || ('a' ≤ c && c ≤ 'z') || ('A' ≤ c && c ≤ 'Z') || isIn "-$_+!\x60(),.?/;:&=%#~@" c

/-! ## Parts -/

/-- A markup tag, from the first opening angle bracket to the last closing one: the two brackets,
the name and the rest are set off. -/
def tag : Scan :=
  inTurn [setOff (char '<'), setOff (run (isWordOr "-.:|")), setOff (run fun _ => true),
    setOff (char '>')]

/-- A setting: a name, an equals sign and perhaps a word, also in quotes. -/
def setting : Scan :=
  inTurn [setOff (between 1 50 (one Text.isWordChar)), char '=',
    opt (setOff (inTurn [opt (char '"'), someOf Text.isWordChar, opt (char '"')]))]

/-- A bracket. -/
def bracket : Scan :=
  setOff (one (isIn "[]\x7b\x7d()"))

/-- Hexadecimal numbers of a given length, so many with a mark after each and then one more. -/
def grouped (least most count : Nat) (mark : Char) : Scan :=
  inTurn [times (inTurn [between least most (one isHex), char mark]) count,
    between least most (one isHex)]

/-- A network address of four decimal numbers. -/
def address4 : Scan :=
  let number := between 1 3 (one isDecimal)
  setOff (inTurn [times (inTurn [number, char '.']) 3, number])

/-- A network address of up to eight hexadecimal numbers. -/
def address6 : Scan :=
  let number := between 1 4 (one isHex)
  setOff (inTurn [between 1 7 (inTurn [number, char ':', opt (char ':')]), number])

/-- An interface address of eight bytes. -/
def interface64 : Scan :=
  setOff (oneOf [grouped 1 2 7 '-', grouped 1 2 7 ':', grouped 4 4 3 '.'])

/-- An interface address of six bytes. -/
def interface48 : Scan :=
  setOff (oneOf [grouped 1 2 5 '-', grouped 1 2 5 ':', grouped 4 4 2 '.'])

/-- A universally unique identifier. -/
def identifier : Scan :=
  let digits (n : Nat) := times (one isHex) n
  setOff (inTurn [digits 8, char '-', digits 4, char '-', digits 4, char '-', digits 4, char '-',
    digits 12])

/-- The name of a function that is called. -/
def call : Scan :=
  inTurn [setOff (shortRun (isWordOr ".")), char '(']

/-- A word that stands for a value. -/
def constant : Scan :=
  let edge := Scan.edge Text.isWordChar
  oneOf (["True", "False", "None"].map fun word => inTurn [edge, setOff (text word), edge])

/-- Three dots. -/
def ellipsis : Scan :=
  setOff (text "...")

/-- The digits of a number with its fraction and exponent, the digits of the exponent read by a
given scan. -/
def magnitude (exponent : Scan) : Scan :=
  inTurn [someOf isDecimal, opt (char '.'), run isDecimal,
    opt (inTurn [char 'e', opt (one (isIn "-+")), one Text.isDigit, exponent])]

/-- A number with an imaginary part. -/
def complexNumber : Scan :=
  setOff (inTurn [.unlessAfter Text.isWordChar, opt (char '-'),
    magnitude (shortRun Text.isDigit),
    opt (inTurn [one (isIn "-+"), magnitude (run Text.isDigit)]), char 'j'])

/-- A number. -/
def number : Scan :=
  setOff (oneOf [
    inTurn [.unlessAfter Text.isWordChar, opt (char '-'), magnitude (shortRun Text.isDigit),
      .edge Text.isWordChar],
    inTurn [text "0x", run isHex]])

/-- A file path: its directories and its name are set off. -/
def filePath : Scan :=
  let isNameChar := isWordOr "-._+"
  inTurn [
    setOff (inTurn [.noEdge Text.isWordChar, many (inTurn [char '/', someOf isNameChar]),
      char '/']),
    setOff (run isNameChar)]

/-- A quotation between given marks, on one line. A backslash keeps the mark after it from ending
the quotation. -/
def quotedBy (mark : String) : Scan :=
  inTurn [opt (char 'b'), text mark, shortRun (· != '\n'), .unlessAfter (· == '\\'), text mark]

/-- A quotation. -/
def quotation : Scan :=
  inTurn [.unlessAfter (isWordOr "\\"),
    setOff (oneOf (["'''", "'", "\"\"\"", "\""].map quotedBy))]

/-- A link. -/
def link : Scan :=
  setOff (inTurn [oneOf (["file", "https", "http", "ws", "wss"].map text), text "://",
    run isLinkChar])

/-- Anything that is set off but tags, settings and brackets. -/
def item : Scan :=
  oneOf [address4, address6, interface64, interface48, identifier, call, constant, ellipsis,
    complexNumber, number, filePath, quotation, link]

/-! ## Stretches -/

/-- The borders of a text. -/
def borders (text : List Char) : List Nat :=
  [tag, setting, bracket, item].flatMap fun scan => scan.borders text

/-- The character that starts a control sequence. -/
def escape : Char := '\x1b'

/-- A text with the places where a stretch starts. A border shows only where it parts a joiner from
what it would merge, or a control sequence, so a text with neither is left in one stretch. -/
def glyphs (text : List Char) : List Glyph :=
  let found := if text.contains joiner || text.contains escape then borders text else []
  text.zipIdx.map fun (c, i) => (c, found.contains i)

end Relocation.Layout.Highlight
