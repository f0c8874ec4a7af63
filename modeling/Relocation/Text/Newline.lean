import Relocation.Text.CharSet

/-!
# Line ends

`Text.lines` cuts a text at its line feeds. Files end their lines in different ways;
`Text.unifyNewlines` makes all of them line feeds, as is done when a file is read as text.
`Text.paragraphs` cuts a text at every character that Unicode counts as a line boundary.
-/

namespace Relocation.Text

/-- The lines of a text: what stands between line feeds. The empty text has one empty line. -/
def lines (text : String) : List (List Char) :=
  text.toList.splitOn '\n'

/-- The number of lines of a text. -/
def countLines (text : String) : Nat :=
  (lines text).length

/-- Turn a carriage return, alone or with a line feed after it, into a line feed: the line feed of
such a pair is dropped and the carriage return replaced. -/
def unifyNewlines (text : List Char) : List Char :=
  (('\x00' :: text).zip text).filterMap fun (previous, c) =>
    if previous = '\r' ∧ c = '\n' then none else some (if c = '\r' then '\n' else c)

/-- The characters that end a line. -/
def boundary : CharSet :=
  .ofRanges [('\n', '\r'), ('\x1c', '\x1e'), ('\u0085', '\u0085'), ('\u2028', '\u2029')]

/-- The lines of a text without what ends them. A boundary at the very end starts no new line. -/
def paragraphs (text : List Char) : List (List Char) :=
  let pieces := text.splitOnP boundary.contains
  if pieces.getLast? = some [] then pieces.dropLast else pieces

end Relocation.Text
