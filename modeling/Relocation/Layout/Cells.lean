import Relocation.Layout.CellTable

/-!
# Cells

A console line has a number of *cells*, and a text takes up some of them. How many is not decided
character by character: a joiner merges the character after it into the picture before it, and a
selector turns a sign into a picture of double width. So a text is read as a list of clusters, each
a character with all that belongs to it.

* `charCells` — the cells of a character by itself,
* `clusters` — the clusters of a text,
* `cells` — the cells of a text,
* `takeCells`, `chop` — cutting a text, never inside a cluster,
* `Glyph`, `stretches` — texts that are drawn in stretches.
-/

namespace Relocation.Layout

/-! ## Characters -/

/-- The number of cells of a character. -/
def charCells (c : Char) : Nat :=
  if zeroWidth.contains c.toNat then 0
  else if doubleWidth.contains c.toNat then 2
  else 1

/-- The character that merges its neighbours into one picture. -/
def joiner : Char := '\u200d'

/-- The character that asks for the picture of the sign before it. -/
def selector : Char := '\ufe0f'

/-- As many blanks as there are cells. -/
def blanks (n : Nat) : List Char :=
  List.replicate n ' '

/-! ## Clusters -/

/-- A character with all that belongs to it. -/
structure Cluster where
  text : List Char
  /-- the number of its cells -/
  width : Nat
  deriving DecidableEq, Repr

/-- Put more characters into a cluster. -/
def Cluster.extend (k : Cluster) (text : List Char) : Cluster :=
  { k with text := k.text ++ text }

/-- The clusters from one that has been started on. `sign` is the character that a selector would
turn into a picture. -/
def clustersFrom (k : Cluster) (sign : Option Char) : List Char → List Cluster
  | [] => [k]
  | c :: rest =>
    if c = joiner then
      match rest with
      | [] => [k.extend [c]]
      | d :: rest => clustersFrom (k.extend [c, d]) sign rest
    else if c = selector ∧ sign.any (fun s => widened.contains s.toNat) then
      clustersFrom ⟨k.text ++ [c], k.width + 1⟩ none rest
    else if charCells c = 0 then clustersFrom (k.extend [c]) sign rest
    else k :: clustersFrom ⟨[c], charCells c⟩ (some c) rest

/-- The clusters of a text. What has no width at the start of the text makes a cluster as well. -/
def clusters : List Char → List Cluster
  | [] => []
  | c :: rest => clustersFrom ⟨[c], charCells c⟩ (if charCells c = 0 then none else some c) rest

/-- The cells of some clusters together. -/
def totalWidth (ks : List Cluster) : Nat :=
  ks.foldr (fun k n => k.width + n) 0

/-- A text without joiners at its start and the characters after them, which merge into nothing. -/
def unjoined : List Char → List Char
  | [] => []
  | [c] => if c = joiner then [] else [c]
  | c :: d :: rest => if c = joiner then unjoined rest else c :: d :: rest

/-- The number of cells of a text. -/
def cells (text : List Char) : Nat :=
  totalWidth (clusters (unjoined text))

/-! ## Cutting -/

/-- The longest start of some clusters that has at most `n` cells, filled up with a blank where a
wide cluster would stand across the end. -/
def takeClusters : Nat → List Cluster → List Char
  | _, [] => []
  | n, k :: rest => if k.width ≤ n then k.text ++ takeClusters (n - k.width) rest else blanks n

/-- The longest start of a text that has at most `n` cells, filled up with a blank where a wide
cluster would stand across the end. -/
def takeCells (n : Nat) (text : List Char) : List Char :=
  takeClusters n (clusters text)

/-- Cut clusters into pieces of at most `width` cells. `piece` is the piece being filled and `used`
its number of cells. -/
def chopClusters (width : Nat) (piece : List Char) (used : Nat) :
    List Cluster → List (List Char)
  | [] => [piece]
  | k :: rest =>
    if width < used + k.width then piece :: chopClusters width k.text k.width rest
    else chopClusters width (piece ++ k.text) (used + k.width) rest

/-- Cut a text into pieces of at most `width` cells. -/
def chop (width : Nat) (text : List Char) : List (List Char) :=
  chopClusters width [] 0 (clusters text)

/-! ## Glyphs -/

/-- A character of a line that is drawn in stretches, and whether a stretch starts with it. -/
abbrev Glyph := Char × Bool

/-- The characters of glyphs. -/
def charsOf (glyphs : List Glyph) : List Char :=
  glyphs.map Prod.fst

/-- The stretches of glyphs. -/
def stretches (glyphs : List Glyph) : List (List Char) :=
  (glyphs.splitBy fun _ next => !next.2).map charsOf

end Relocation.Layout
