/-!
# Paths

A `Path` is a file path as it is written: where it starts and the names that lead on from there.
Empty names and the name `.` lead nowhere and are dropped, `..` is kept, since what it means
depends on the files that are there.
-/

namespace Relocation

/-- Where a path starts. -/
inductive Anchor where
  /-- at the working directory -/
  | here
  /-- at the root -/
  | root
  /-- at the root, written with two slashes -/
  | doubleRoot
  deriving DecidableEq, Repr

/-- The text of a start. -/
def Anchor.text : Anchor → String
  | here => ""
  | root => "/"
  | doubleRoot => "//"

/-- A file path. -/
structure Path where
  anchor : Anchor
  /-- the names after the start -/
  segments : List String
  deriving DecidableEq, Repr

namespace Path

/-- Read a path. Two slashes at the start are told apart from one, more than two are not. -/
def ofString (s : String) : Path where
  anchor :=
    match (s.toList.takeWhile (· == '/')).length with
    | 0 => .here
    | 2 => .doubleRoot
    | _ => .root
  segments :=
    ((s.toList.splitOn '/').filter fun name => name != [] && name != ['.']).map String.ofList

/-- Names joined by slashes. -/
def joined (names : List String) : String :=
  String.intercalate "/" names

/-- Write a path. The path to the working directory itself is a dot. -/
def text (p : Path) : String :=
  if p.anchor = .here ∧ p.segments = [] then "." else p.anchor.text ++ joined p.segments

/-- The path that leads on by some names. -/
def join (p : Path) (names : List String) : Path :=
  { p with segments := p.segments ++ names }

/-- The path without its last name. -/
def parent (p : Path) : Path :=
  { p with segments := p.segments.dropLast }

/-- The suffix of a file name, from its last dot on. A dot at either end starts no suffix. -/
def suffix (name : String) : String :=
  let reversed := name.toList.reverse
  let extension := reversed.takeWhile (· != '.')
  match reversed.dropWhile (· != '.') with
  | _ :: _ :: _ => if extension.isEmpty then "" else .ofList ('.' :: extension.reverse)
  | _ => ""

end Path

end Relocation
