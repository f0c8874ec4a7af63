import Relocation.Pattern

/-!
# Globs

A glob is a file name with wild cards. `Glob.parts` reads one:

* `*` stands for any characters and `?` for one, slashes apart,
* `[...]` stands for one of some characters, or with `!` or `^` in front for one of all others,
* a backslash takes away the meaning of the next character.

Every part has a `Pattern`, which says what it matches, and a written form as a regular expression,
in which faults are located.
-/

namespace Relocation.Glob

/-- Why a glob cannot be read. -/
inductive Fault where
  /-- a bracket is never closed -/
  | unclosed
  /-- a backslash at the end has nothing to act on -/
  | loneBackslash
  deriving DecidableEq, Repr

/-- A part of a glob. -/
inductive Part where
  /-- a character that stands for itself -/
  | literal (c : Char)
  /-- any characters but slashes -/
  | anyRun
  /-- one character but a slash -/
  | anyOne
  /-- one of the characters listed, or with `negated` one of all others -/
  | bracket (negated : Bool) (members : List Char)
  deriving DecidableEq, Repr

/-! ## Reading -/

/-- Split a text at the first closing bracket. -/
def close? (text : List Char) : Option (List Char × List Char) :=
  match text.dropWhile (· != ']') with
  | [] => none
  | _ :: rest => some (text.takeWhile (· != ']'), rest)

/-- Read what follows an opening bracket, up to the closing one. A closing bracket right at the
start is a member. -/
def bracket? (text : List Char) : Option (Part × List Char) :=
  let (negated, text) := match text with
    | '!' :: rest => (true, rest)
    | '^' :: rest => (true, rest)
    | _ => (false, text)
  match text with
  | ']' :: rest => (close? rest).map fun (inside, rest) => (.bracket negated (']' :: inside), rest)
  | _ => (close? text).map fun (inside, rest) => (.bracket negated inside, rest)

/-- Read a glob, at most one of its parts for each element of `rounds`. -/
def partsFor : (rounds : List Char) → List Char → Except Fault (List Part)
  | _ :: rounds, '\\' :: c :: rest => return .literal c :: (← partsFor rounds rest)
  | _ :: _, ['\\'] => .error .loneBackslash
  | _ :: rounds, '*' :: rest => return .anyRun :: (← partsFor rounds rest)
  | _ :: rounds, '?' :: rest => return .anyOne :: (← partsFor rounds rest)
  | _ :: rounds, '[' :: rest =>
    match bracket? rest with
    | some (part, rest) => return part :: (← partsFor rounds rest)
    | none => .error .unclosed
  | _ :: rounds, c :: rest => return .literal c :: (← partsFor rounds rest)
  | _, _ => .ok []

/-- Read a glob. Every part takes at least one character, so as many rounds as characters are
enough. -/
def parts (glob : List Char) : Except Fault (List Part) :=
  partsFor glob glob

/-! ## Matching -/

/-- Characters other than the slash. -/
def notSlash : CharSet :=
  .allBut ['/']

/-- The ranges that the inside of a bracket lists. A dash between two characters makes a range, at
either end it stands for itself. -/
def ranges : List Char → List (Char × Char)
  | first :: '-' :: last :: rest => (first, last) :: ranges rest
  | c :: rest => (c, c) :: ranges rest
  | [] => []

/-- What a part matches. -/
def Part.pattern : Part → Pattern
  | literal c => .char c
  | anyRun => .run notSlash
  | anyOne => .one notSlash
  | bracket negated members => .one ⟨negated, ranges members⟩

/-! ## Writing -/

/-- The characters that have a meaning in a regular expression. -/
def special : List Char :=
  "()[]\x7b\x7d?*+-|^$\\.&~# \t\n\r\x0b\x0c".toList

/-- A character outside brackets, with a backslash if it has a meaning. -/
def escaped (c : Char) : List Char :=
  if special.contains c then ['\\', c] else [c]

/-- A character inside brackets, where only the backslash needs one. -/
def member (c : Char) : List Char :=
  if c = '\\' then ['\\', c] else [c]

/-- The written form of a part. -/
def Part.written : Part → List Char
  | literal c => escaped c
  | anyRun => "[^/]*".toList
  | anyOne => "[^/]".toList
  | bracket negated members =>
    '[' :: (if negated then ['^'] else []) ++ members.flatMap member ++ [']']

/-! ## Reversed ranges -/

/-- The first range inside a bracket whose ends are the wrong way round, with the number of
characters before it in the written form. `before` characters are written before the bracket's
inside. -/
def reversedAmong (before : Nat) : List Char → Option (Nat × Char × Char)
  | first :: '-' :: last :: rest =>
    if last < first then some (before, first, last)
    else reversedAmong (before + (member first).length + 1 + (member last).length) rest
  | c :: rest => reversedAmong (before + (member c).length) rest
  | [] => none

/-- The first reversed range of a part, with the number of characters before it. -/
def Part.reversed? : Part → Option (Nat × Char × Char)
  | bracket negated members => reversedAmong (if negated then 2 else 1) members
  | _ => none

end Relocation.Glob
