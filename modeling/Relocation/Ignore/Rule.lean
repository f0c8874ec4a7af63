import Relocation.Ignore.Glob
import Relocation.Pattern.Sweep
import Relocation.Text.Quoted
import Relocation.Text.Trim

/-!
# Ignore rules

A line of an ignore file says which paths to leave out, or with `!` in front which to take in
again. `Rule.compile` reads a line; `Rule.search` looks for the rule in a path, given relative to
the directory of the rules with a slash at the end for a directory.

A rule can match a path in two ways: for what the path itself is, or for a directory on the way
to it. The pattern captures the slash of such a directory, so a capture tells the two apart.

* `Rule.anchored`, `opened`, `merged` — what becomes of the segments of a line,
* `Piece` — what a line is made of, with what it matches and how it is written,
* `Rule.compile`, `compileAll` — reading lines, `Fault` why one is refused,
* `ignores` — the verdict of several rules on a path.
-/

namespace Relocation.Ignore

/-- A compiled line of an ignore file. -/
structure Rule where
  /-- whether the line takes paths in again -/
  negated : Bool
  pattern : Pattern
  deriving DecidableEq, Repr

/-- How a rule matches a path. -/
inductive Match where
  /-- by the path itself -/
  | entry
  /-- by a directory on the way -/
  | folder
  deriving DecidableEq, Repr

namespace Rule

/-- How a rule matches, by the match of its pattern. -/
def kindOf (hit : Hit) : Match :=
  if hit.captured.isSome then .folder else .entry

/-- Whether and how a rule matches a path. Names with several wild cards match in many ways, so the
pattern is swept over the path. -/
def search (r : Rule) (path : List Char) : Option Match :=
  (r.pattern.sweepSearch path).map kindOf

/-- The match is the leftmost one. -/
theorem search_eq (r : Rule) (path : List Char) :
    r.search path = (r.pattern.search path).map kindOf := by
  rw [search, Pattern.sweepSearch_eq_search]

/-! ## Segments -/

/-- The segment that stands for any number of directories. -/
def anyDepth : List Char := ['*', '*']

/-- The segment that stands for one name. -/
def anyName : List Char := ['*']

/-- Anchor a list of segments: a slash at the start anchors it, and one name alone, also with a
slash after it, may stand at any depth. -/
def anchored : List (List Char) → List (List Char)
  | [] :: rest => rest
  | [name] => if name = anyDepth then [name] else [anyDepth, name]
  | [name, []] => if name = anyDepth then [name, []] else [anyDepth, name, []]
  | segments => segments

/-- Replace an empty last segment: a directory stands for all that is in it. -/
def opened (segments : List (List Char)) : List (List Char) :=
  if segments.getLast? = some [] then segments.dropLast ++ [anyDepth] else segments

/-- Merge neighbours that both stand for any number of directories. -/
def merged : List (List Char) → List (List Char)
  | a :: b :: rest =>
    if a = anyDepth ∧ b = anyDepth then merged (b :: rest) else a :: merged (b :: rest)
  | segments => segments

end Rule

/-! ## Pieces -/

/-- A piece of a line. -/
inductive Piece where
  /-- the start of the path -/
  | start
  /-- any number of directories, each with its slash -/
  | anyFolders
  /-- any number of directories, each with a slash in front -/
  | anySubfolders
  /-- a slash -/
  | slash
  /-- the slash of a directory -/
  | folderSlash
  /-- the slash of a directory, or the end of the path -/
  | ending
  /-- one name, whatever it is -/
  | anyName
  /-- one character, whatever it is -/
  | anyChar
  /-- part of a glob -/
  | glob (part : Glob.Part)
  deriving DecidableEq, Repr

namespace Piece

/-- Any character but a line feed. -/
def notLineFeed : CharSet := .allBut ['\n']

/-- What a piece matches. -/
def pattern : Piece → Pattern
  | start => .atStart
  | anyFolders => .opt (.someOf notLineFeed ++ .char '/')
  | anySubfolders => .opt (.char '/' ++ .someOf notLineFeed)
  | slash => .char '/'
  | folderSlash => .capture (.char '/')
  | ending => .alt (.capture (.char '/')) .atEnd
  | anyName => .someOf Glob.notSlash
  | anyChar => .one notLineFeed
  | glob part => part.pattern

/-- The written form of a piece. -/
def written : Piece → List Char
  | start => "^".toList
  | anyFolders => "(?:.+/)?".toList
  | anySubfolders => "(?:/.+)?".toList
  | slash => "/".toList
  | folderSlash => "(/)".toList
  | ending => "(?:(/)|$)".toList
  | anyName => "[^/]+".toList
  | anyChar => ".".toList
  | glob part => part.written

end Piece

/-- The pattern of several pieces. -/
def patternOf (pieces : List Piece) : Pattern :=
  pieces.foldr (fun piece rest => piece.pattern ++ rest) .empty

namespace Rule

/-- The pieces of one segment. -/
def segmentPieces (segment : List Char) : Except Glob.Fault (List Piece) :=
  if segment = anyName then .ok [.anyName] else return (← Glob.parts segment).map .glob

/-- The pieces of the segments from some place on. `first` says whether they are all, `slash`
whether a slash is due before the next one. -/
def piecesFrom (isFolder : Bool) :
    (first slash : Bool) → List (List Char) → Except Glob.Fault (List Piece)
  | _, _, [] => .ok []
  | first, slash, segment :: rest =>
    if segment = anyDepth then
      if first then return [.start, .anyFolders] ++ (← piecesFrom isFolder false false rest)
      else if rest.isEmpty then .ok [if isFolder then .folderSlash else .slash]
      else return .anySubfolders :: (← piecesFrom isFolder false true rest)
    else do
      let start := if first then [.start] else []
      let divider := if slash then [.slash] else []
      let body ← segmentPieces segment
      let ending := if rest.isEmpty then [.ending] else []
      return start ++ divider ++ body ++ ending ++ (← piecesFrom isFolder false true rest)

/-- The pieces of all segments of a line. -/
def piecesOf (isFolder : Bool) (segments : List (List Char)) : Except Glob.Fault (List Piece) :=
  if segments = [anyDepth] then .ok [if isFolder then .folderSlash else .anyChar]
  else if segments = [anyDepth, anyName] then .ok [.anyChar]
  else if segments = [anyDepth, anyName, anyDepth] then
    .ok [if isFolder then .folderSlash else .slash]
  else piecesFrom isFolder true false segments

end Rule

/-! ## Faults -/

/-- Why a line is refused. -/
inductive Fault where
  /-- the line makes no sense -/
  | senseless (line : List Char)
  /-- a range in brackets ends before it starts; `before` is what is written before the range and
  `after` the rest, the range included -/
  | reversed (first last : Char) (before after : List Char)
  deriving DecidableEq, Repr

/-- Where a fault is, if what is written has several lines: the line and the column. -/
def lineAndColumn (before after : List Char) : String :=
  if (before ++ after).contains '\n' then
    let line := before.count '\n' + 1
    let column := (before.reverse.takeWhile (· != '\n')).length + 1
    s!" (line {line}, column {column})"
  else ""

/-- The report of a fault. -/
def Fault.message : Fault → String
  | senseless line => s!"Invalid git pattern: {Text.quoted (String.ofList line)}"
  | reversed first last before after =>
    let range := String.ofList (Glob.member first ++ '-' :: Glob.member last)
    s!"bad character range {range} at position {before.length}" ++ lineAndColumn before after

/-- The first reversed range of some pieces. `before` is what is written before them. -/
def reversed? (before : List Char) : List Piece → Option Fault
  | [] => none
  | piece :: rest =>
    let found := match piece with
      | .glob part => part.reversed?
      | _ => none
    match found with
    | some (n, first, last) =>
      let after := (piece :: rest).flatMap Piece.written
      some (.reversed first last (before ++ after.take n) (after.drop n))
    | none => reversed? (before ++ piece.written) rest

namespace Rule

/-! ## Lines -/

/-- A line without the white space at its end, unless a backslash keeps a blank there. -/
def stripped (line : List Char) : List Char :=
  if ['\\', ' '].isSuffixOf line then line else Text.trimEnd .blank line

/-- Compile a line. Blank lines, comments, the line `/` and lines with a bracket that is never
closed make no rule. A line without segments, or with a backslash that acts on nothing, makes no
sense, and a reversed range is a fault as well. -/
def compile (line : List Char) : Except Fault (Option Rule) :=
  let text := stripped line
  if text.isEmpty || text.head? == some '#' || text == ['/'] then .ok none
  else
    let (negated, body) := match text with
      | '!' :: rest => (true, rest)
      | _ => (false, text)
    let segments := body.splitOn '/'
    let isFolder := segments.getLast? == some []
    match merged (opened (anchored segments)) with
    | [] => .error (.senseless line)
    | segments =>
      match piecesOf isFolder segments with
      | .error .unclosed => .ok none
      | .error .loneBackslash => .error (.senseless line)
      | .ok pieces =>
        match reversed? [] pieces with
        | some fault => .error fault
        | none => .ok (some ⟨negated, patternOf pieces⟩)

end Rule

/-! ## Several rules -/

/-- Compile the lines of ignore files. -/
def compileAll : List (List Char) → Except Fault (List Rule)
  | [] => .ok []
  | line :: rest => do
    let rule ← Rule.compile line
    let rules ← compileAll rest
    return rule.toList ++ rules

/-- Whether rules leave a path out. The last rule that matches by the path itself decides, else
the last one that matches by a directory. -/
def ignores (rules : List Rule) (path : List Char) : Bool :=
  let hits := rules.reverse.filterMap fun r => (r.search path).map (r, ·)
  match hits.find? (fun hit => hit.2 == .entry) <|> hits.head? with
  | some (r, _) => !r.negated
  | none => false

end Relocation.Ignore
