import Relocation.Text.CharSet

/-!
# Trimming

Texts are handled as lists of characters. `trimStart`, `trimEnd` and `trim` drop the characters of
a set from one end or from both.
-/

namespace Relocation.Text

/-- Drop the leading characters that lie in a set. -/
def trimStart (s : CharSet) (text : List Char) : List Char :=
  text.dropWhile s.contains

/-- Drop the trailing characters that lie in a set. -/
def trimEnd (s : CharSet) (text : List Char) : List Char :=
  (text.reverse.dropWhile s.contains).reverse

/-- Drop the characters of a set from both ends. -/
def trim (s : CharSet) (text : List Char) : List Char :=
  trimEnd s (trimStart s text)

end Relocation.Text
