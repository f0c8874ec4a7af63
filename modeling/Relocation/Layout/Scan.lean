/-!
# Scanning

A `Scan` goes over part of a text and says where it may arrive, the preferred place first. Scans
are put together from small ones, and each may set off what it goes over: the places where the
parts that were set off start and end are the *borders* of a text.

* `Place` — a place in a text,
* `Scan` — the scans and how they are put together,
* `Scan.borders` — the borders of a text, found by trying a scan from left to right.
-/

namespace Relocation.Layout

/-- A place in a text. -/
structure Place where
  /-- the character before this place -/
  before : Option Char
  /-- the number of characters before this place -/
  pos : Nat
  /-- the characters after this place -/
  rest : List Char
  /-- where the parts that were set off on the way here start and end -/
  borders : List Nat
  deriving DecidableEq, Repr

/-- A way to go on from a place, by all the places where it may arrive, the preferred one first. -/
abbrev Scan := Place → List Place

namespace Scan

/-! ## Parts -/

/-- Stay. -/
def nothing : Scan := fun a => [a]

/-- One character of a kind. -/
def one (kind : Char → Bool) : Scan
  | ⟨_, _, [], _⟩ => []
  | ⟨_, pos, c :: rest, borders⟩ => if kind c then [⟨some c, pos + 1, rest, borders⟩] else []

/-- One given character. -/
def char (c : Char) : Scan :=
  one (· == c)

/-- The places along a run of characters of a kind, the nearest first. -/
def placesAlong (kind : Char → Bool) (borders : List Nat) :
    Option Char → Nat → List Char → List Place
  | before, pos, [] => [⟨before, pos, [], borders⟩]
  | before, pos, c :: rest =>
    ⟨before, pos, c :: rest, borders⟩ ::
      if kind c then placesAlong kind borders (some c) (pos + 1) rest else []

/-- Any number of characters of a kind, as few as possible first. -/
def shortRun (kind : Char → Bool) : Scan := fun a =>
  placesAlong kind a.borders a.before a.pos a.rest

/-- Any number of characters of a kind, as many as possible first. -/
def run (kind : Char → Bool) : Scan := fun a =>
  (shortRun kind a).reverse

/-! ## Conditions -/

/-- Stay, unless the character before is of a kind. -/
def unlessAfter (kind : Char → Bool) : Scan := fun a =>
  if a.before.any kind then [] else [a]

/-- Whether a place has a character of a kind on one side only. -/
def isEdge (kind : Char → Bool) (a : Place) : Bool :=
  a.before.any kind != a.rest.head?.any kind

/-- Stay, at the edge of a run of characters of a kind. -/
def edge (kind : Char → Bool) : Scan := fun a =>
  if isEdge kind a then [a] else []

/-- Stay, anywhere but at the edge of a run of characters of a kind. -/
def noEdge (kind : Char → Bool) : Scan := fun a =>
  if isEdge kind a then [] else [a]

/-! ## Combinations -/

/-- One scan after another. -/
def andThen (p q : Scan) : Scan := fun a =>
  (p a).flatMap q

/-- Several scans one after another. -/
def inTurn (scans : List Scan) : Scan :=
  scans.foldr andThen nothing

/-- The first of several scans that gets on, then the others. -/
def oneOf (scans : List Scan) : Scan := fun a =>
  scans.flatMap fun scan => scan a

/-- A given text. -/
def text (s : String) : Scan :=
  inTurn (s.toList.map char)

/-- A scan or, failing that, nothing. -/
def opt (p : Scan) : Scan :=
  oneOf [p, nothing]

/-- A scan exactly so many times. -/
def times (p : Scan) : Nat → Scan
  | 0 => nothing
  | n + 1 => andThen p (times p n)

/-- A scan at most so many times, as often as possible first. -/
def upTo (p : Scan) : Nat → Scan
  | 0 => nothing
  | n + 1 => opt (andThen p (upTo p n))

/-- A scan so many times at least and so many at most, as often as possible first. -/
def between (least most : Nat) (p : Scan) : Scan :=
  andThen (times p least) (upTo p (most - least))

/-- A scan any number of times, as often as possible first. It is tried once for each character
that is left. -/
def many (p : Scan) : Scan := fun a =>
  upTo p a.rest.length a

/-- At least one character of a kind, as many as possible first. -/
def someOf (kind : Char → Bool) : Scan :=
  andThen (one kind) (run kind)

/-- Set off what a scan goes over, unless it is nothing. -/
def setOff (p : Scan) : Scan := fun a =>
  (p a).map fun e =>
    if e.pos = a.pos then e else { e with borders := a.pos :: e.pos :: e.borders }

/-! ## Borders -/

/-- The borders of a text from some place on. At every place the scan is tried, but what it went
over is not tried again; `skip` is the number of such characters. -/
def bordersFrom (p : Scan) : (skip : Nat) → Option Char → Nat → List Char → List Nat
  | _, _, _, [] => []
  | skip + 1, _, pos, c :: rest => bordersFrom p skip (some c) (pos + 1) rest
  | 0, before, pos, c :: rest =>
    match p ⟨before, pos, c :: rest, []⟩ with
    | [] => bordersFrom p 0 (some c) (pos + 1) rest
    | e :: _ => e.borders ++ bordersFrom p (e.pos - pos - 1) (some c) (pos + 1) rest

/-- The borders of a text. -/
def borders (p : Scan) (text : List Char) : List Nat :=
  bordersFrom p 0 none 0 text

end Scan

end Relocation.Layout
