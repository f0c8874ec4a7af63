import Relocation.Text.CharSet

/-!
# Text patterns

A `Pattern` describes a set of texts by sequence, choice and repetition over character sets. It is
matched by ordered choice: of several ways to match, the one that comes first counts, where a
choice prefers its left side and a repetition prefers to go on.

* `Span`, `Cursor` — where a match stands in its line,
* `Pattern` — the patterns and the shorthands they are written with,
* `Pattern.attempt` — matching from a cursor, with a continuation for what follows,
* `Pattern.search` — the leftmost match in a line.

A continuation lets a later part of a pattern send an earlier part back to its next way, so the
matcher needs no explicit stack and recurses on the pattern alone.
-/

namespace Relocation

/-- A stretch of a line, from `start` up to but not including `stop`. -/
structure Span where
  start : Nat
  stop : Nat
  deriving DecidableEq, Repr

/-- The characters of a line that a span covers. -/
def Span.slice (span : Span) (line : List Char) : List Char :=
  (line.drop span.start).take (span.stop - span.start)

/-- A place reached while matching a line. -/
structure Cursor where
  /-- the number of characters before this place -/
  pos : Nat
  /-- the characters after this place -/
  rest : List Char
  /-- the stretch captured on the way here -/
  captured : Option Span
  deriving DecidableEq, Repr

namespace Cursor

/-- Go over one character, which has to be in a set. -/
def step? (s : CharSet) : Cursor → Option Cursor
  | ⟨_, [], _⟩ => none
  | ⟨pos, c :: rest, captured⟩ => if s.contains c then some ⟨pos + 1, rest, captured⟩ else none

/-- The places between two ends of a run over a set, the farthest first, put in front of `near`. -/
def runsOnto (s : CharSet) (captured : Option Span) :
    Nat → List Char → List Cursor → List Cursor
  | pos, [], near => ⟨pos, [], captured⟩ :: near
  | pos, c :: rest, near =>
    if s.contains c then runsOnto s captured (pos + 1) rest (⟨pos, c :: rest, captured⟩ :: near)
    else ⟨pos, c :: rest, captured⟩ :: near

/-- The places reached by going over any number of characters of a set, the farthest first. -/
def runs (s : CharSet) (c : Cursor) : List Cursor :=
  runsOnto s c.captured c.pos c.rest []

/-- Record the stretch from an earlier position up to this place. -/
def capture (start : Nat) (c : Cursor) : Cursor :=
  { c with captured := some ⟨start, c.pos⟩ }

/-- Whether no character is left, a single final line feed apart. -/
def isEnd (c : Cursor) : Bool :=
  c.rest == [] || c.rest == ['\n']

end Cursor

/-- A pattern of ordered choice. -/
inductive Pattern where
  /-- the empty text -/
  | empty
  /-- one character of a set -/
  | one (s : CharSet)
  /-- any number of characters of a set, as many as possible first -/
  | run (s : CharSet)
  /-- one pattern after another -/
  | seq (p q : Pattern)
  /-- the left pattern, else the right one -/
  | alt (p q : Pattern)
  /-- any number of rounds of a pattern, as many as possible first -/
  | many (p : Pattern)
  /-- a pattern whose stretch is remembered -/
  | capture (p : Pattern)
  /-- nothing, at the start of the line only -/
  | atStart
  /-- nothing, at the end of the line only -/
  | atEnd
  deriving DecidableEq, Repr

namespace Pattern

/-! ## Shorthands -/

instance : Append Pattern := ⟨seq⟩

/-- One given character. -/
def char (c : Char) : Pattern :=
  one (.single c)

/-- The given characters one after another. -/
def chars : List Char → Pattern
  | [] => empty
  | [c] => char c
  | c :: rest => seq (char c) (chars rest)

/-- A given text. -/
def text (s : String) : Pattern :=
  chars s.toList

/-- The first of several patterns that matches. -/
def oneOf : List Pattern → Pattern
  | [] => one (.ofChars [])
  | [p] => p
  | p :: rest => alt p (oneOf rest)

/-- A pattern or, failing that, nothing. -/
def opt (p : Pattern) : Pattern :=
  alt p empty

/-- At least one character of a set, as many as possible first. -/
def someOf (s : CharSet) : Pattern :=
  seq (one s) (run s)

/-! ## Matching -/

/-- Repeat a matcher as often as possible before going on with `next`. Each round has to move the
cursor, so one round per remaining character, counted off by the list `rounds`, is enough. -/
def repeated {α : Type} (body : (Cursor → Option α) → Cursor → Option α)
    (next : Cursor → Option α) : (rounds : List Char) → Cursor → Option α
  | [], c => next c
  | _ :: rounds, c =>
    body (fun e => if e.pos = c.pos then none else repeated body next rounds e) c <|> next c

/-- Match a pattern from a cursor and hand the place reached to `next`. The answer is that of the
first way to match for which `next` has one. -/
def attempt {α : Type} : Pattern → (Cursor → Option α) → Cursor → Option α
  | empty, next, c => next c
  | one s, next, c => (c.step? s).bind next
  | run s, next, c => (c.runs s).findSome? next
  | seq p q, next, c => p.attempt (q.attempt next) c
  | alt p q, next, c => p.attempt next c <|> q.attempt next c
  | many p, next, c => repeated p.attempt next c.rest c
  | capture p, next, c => p.attempt (fun e => next (e.capture c.pos)) c
  | atStart, next, c => if c.pos = 0 then next c else none
  | atEnd, next, c => if c.isEnd then next c else none

end Pattern

/-- A match of a pattern in a line. -/
structure Hit where
  /-- the stretch matched -/
  span : Span
  /-- the stretch captured, if a capture took part in the match -/
  captured : Option Span
  deriving DecidableEq, Repr

namespace Pattern

/-- The match of a pattern that starts at a given place. -/
def hitAt (p : Pattern) (pos : Nat) (rest : List Char) : Option Hit :=
  p.attempt (fun e => some ⟨⟨pos, e.pos⟩, e.captured⟩) ⟨pos, rest, none⟩

/-- The leftmost match of a pattern at or after a given place. -/
def searchFrom (p : Pattern) : Nat → List Char → Option Hit
  | pos, [] => p.hitAt pos []
  | pos, c :: rest => p.hitAt pos (c :: rest) <|> searchFrom p (pos + 1) rest

/-- The leftmost match of a pattern in a line. -/
def search (p : Pattern) (line : List Char) : Option Hit :=
  p.searchFrom 0 line

end Pattern

end Relocation
