/-!
# Character sets

A `CharSet` is a finite list of inclusive ranges, read positively or negatively. The sets that the
rest of the library names live here too:

* `CharSet.blank` — white space in the Unicode sense,
* `CharSet.word` — the characters of an identifier, ASCII only,
* `CharSet.edge` — what is trimmed from the two ends of a source line.
-/

namespace Relocation

/-- The characters inside some range, or with `negated` the characters inside none. -/
structure CharSet where
  /-- whether the ranges say what is left out -/
  negated : Bool
  /-- inclusive ranges, in any order, overlaps allowed -/
  ranges : List (Char × Char)
  deriving DecidableEq, Repr

namespace CharSet

/-- Whether a character lies inside an inclusive range. -/
def within (range : Char × Char) (c : Char) : Bool :=
  range.1 ≤ c && c ≤ range.2

/-- Membership of a character in a set. -/
def contains (s : CharSet) (c : Char) : Bool :=
  (s.ranges.any fun range => within range c) != s.negated

/-- The characters of some ranges. -/
def ofRanges (ranges : List (Char × Char)) : CharSet :=
  ⟨false, ranges⟩

/-- The characters of a list. -/
def ofChars (chars : List Char) : CharSet :=
  ofRanges (chars.map fun c => (c, c))

/-- All characters but those of a list. -/
def allBut (chars : List Char) : CharSet :=
  ⟨true, chars.map fun c => (c, c)⟩

/-- The set of one character. -/
def single (c : Char) : CharSet :=
  ofChars [c]

theorem contains_ofRanges (ranges : List (Char × Char)) (c : Char) :
    (ofRanges ranges).contains c = ranges.any fun range => within range c := by
  simp [contains, ofRanges]

theorem within_self_iff (a c : Char) : within (a, a) c = true ↔ c = a := by
  simp only [within, Bool.and_eq_true, decide_eq_true_eq]
  constructor
  · exact fun h => Char.le_antisymm h.2 h.1
  · rintro rfl
    exact ⟨Char.le_refl _, Char.le_refl _⟩

theorem contains_ofChars (chars : List Char) (c : Char) :
    (ofChars chars).contains c = true ↔ c ∈ chars := by
  simp [ofChars, contains_ofRanges, within_self_iff]

theorem contains_allBut (chars : List Char) (c : Char) :
    (allBut chars).contains c = true ↔ c ∉ chars := by
  simp [contains, allBut, ← Bool.not_eq_true, within_self_iff]

theorem contains_single (a c : Char) : (single a).contains c = true ↔ c = a := by
  simp [single, contains_ofChars]

/-! ## Named sets -/

/-- White space: the control spaces, the information separators, the next-line control, the
no-break space and the space separators of Unicode. -/
def blank : CharSet :=
  ofRanges [('\x09', '\x0d'), ('\x1c', '\x20'), ('\u0085', '\u0085'), ('\u00a0', '\u00a0'),
    ('\u1680', '\u1680'), ('\u2000', '\u200a'), ('\u2028', '\u2029'), ('\u202f', '\u202f'),
    ('\u205f', '\u205f'), ('\u3000', '\u3000')]

/-- Identifier characters: ASCII letters, digits and the underscore. -/
def word : CharSet :=
  ofRanges [('A', 'Z'), ('a', 'z'), ('0', '9'), ('_', '_')]

/-- What may surround a declaration on its line: white space and the byte order mark. -/
def edge : CharSet :=
  ofRanges (blank.ranges ++ [('\ufeff', '\ufeff')])

end CharSet

end Relocation
