import Relocation.Log
import Relocation.Signature.Style
import Relocation.Text.Newline
import Relocation.Text.Trim

/-!
# Function signatures

A `Signature` is one function declaration found in a source text. `Signature.extract` reads a text
line by line: blank lines and comment lines declare nothing, any other line declares at most one
function, named by the first declaration style that matches it. A declaration that goes over
several lines is not found.
-/

namespace Relocation

/-- A function declaration in a source text. -/
structure Signature where
  /-- the declared name -/
  name : String
  /-- the line of the declaration, trimmed -/
  declarator : String
  /-- the number of the line, counted from one; free for signatures made by hand -/
  line : Int
  deriving DecidableEq, Repr

namespace Signature

/-- What a comment line starts with. -/
def commentMarkers : List String :=
  ["//", "/*", "*", "#"]

/-- Whether a trimmed line is blank or a comment. -/
def isSkipped (trimmed : List Char) : Bool :=
  trimmed.isEmpty || commentMarkers.any fun marker => marker.toList.isPrefixOf trimmed

/-- The signature that a line declares. Patterns look at the line as it stands; only the
declarator is trimmed. -/
def ofLine? (number : Nat) (line : List Char) : Option Signature :=
  let trimmed := Text.trim .edge line
  if isSkipped trimmed then none
  else (declaredName line).map fun name => ⟨.ofList name, .ofList trimmed, number⟩

/-- The signatures of the lines of a text, numbered from `first` on. -/
def ofLines (first : Nat) (lines : List (List Char)) : List Signature :=
  (lines.zipIdx first).filterMap fun (line, number) => ofLine? number line

/-- The functions that a source text declares, in the order of their lines. -/
def extract (text : String) : List Signature :=
  ofLines 1 (Text.lines text)

/-- The log record of one extraction. -/
def record (found : List Signature) : Record :=
  ⟨.debug, .extraction, s!"Signature extraction completed (signatures={found.length})"⟩

end Signature

end Relocation
