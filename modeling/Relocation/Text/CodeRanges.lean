/-!
# Ranges of code points

Properties of characters that no formula gives are kept as ascending lists of inclusive ranges of
code points. `CodeRanges.contains` looks a code point up.
-/

namespace Relocation.Text

/-- Inclusive ranges of code points, in ascending order and apart from each other. -/
abbrev CodeRanges := List (Nat × Nat)

namespace CodeRanges

/-- Whether a code point lies in some range. A code point before a range lies in no later one, so
the search can stop there. -/
def contains : CodeRanges → Nat → Bool
  | [], _ => false
  | (first, last) :: rest, code =>
    if code < first then false else code ≤ last || contains rest code

end CodeRanges

end Relocation.Text
