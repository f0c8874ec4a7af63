import Relocation.Ignore.Rebase
import Relocation.Input
import Relocation.Text.Lower

/-!
# Discovery of source files

`discover` collects the source files below a directory. It goes through the tree level by level, in
the order of names within a directory, passes over `.git` directories, and skips what the ignore
files of the tree leave out.

* `ignoreLines` — the lines of all ignore files, made relative to the root,
* `Walk.fate` — what the walk does with one entry,
* `Walk.levels` — the walk, one level after another,
* `discover` — all of it.
-/

namespace Relocation

/-- The suffixes of source files. -/
def sourceExtensions : List String :=
  [".ts", ".js", ".java", ".py", ".cs", ".cpp", ".c", ".go"]

/-! ## Ignore files -/

/-- The name of ignore files. -/
def ignoreFileName : String := ".gitignore"

/-- The order of places: name by name, a place before what is below it. -/
def Location.le : Location → Location → Bool
  | [], _ => true
  | _ :: _, [] => false
  | a :: as, b :: bs => a < b || (a == b && Location.le as bs)

/-- The ignore files below a place, by the names that lead to them, in the order of places. All are
collected, also those in directories that the walk does not enter and in directories that may not be
listed. -/
def ignoreFiles (d : Disk) (root : Location) : List (Location × Entry) :=
  ((d.below root).filter fun entry => entry.1.getLast? == some ignoreFileName).mergeSort
    fun a b => Location.le a.1 b.1

/-- The lines of one ignore file, made relative to the root, or why it cannot be read. -/
def ignoreFileLines (root : Path) : Location × Entry → Except String (List (List Char))
  | (names, .folder) => .error (Fault.refused .isFolder (root.join names)).message
  | (names, .file bytes) =>
    match textOfBytes bytes with
    | .error fault => .error fault.message
    | .ok text =>
      .ok ((Text.paragraphs text.toList).map
        (Ignore.rebase (Path.joined names.dropLast).toList))

/-- The lines of several ignore files, one file after another. -/
def ignoreLinesOf (root : Path) : List (Location × Entry) → Except String (List (List Char))
  | [] => .ok []
  | file :: rest => do
    let lines ← ignoreFileLines root file
    let more ← ignoreLinesOf root rest
    return lines ++ more

/-- The lines of all ignore files below a directory. -/
def ignoreLines (d : Disk) (root : Path) (place : Location) :
    Except InputError (List (List Char)) :=
  (ignoreLinesOf root (ignoreFiles d place)).mapError fun message =>
    ⟨root, s!"failed to read .gitignore files ({message})"⟩

/-! ## The walk -/

/-- What discovery found. -/
structure Survey where
  /-- the files, by the names that lead to them from the root -/
  found : List Location
  /-- how many entries were skipped -/
  skipped : Nat
  deriving DecidableEq, Repr

namespace Walk

/-- What the walk does with an entry. -/
inductive Fate where
  /-- pass over it without counting -/
  | hidden
  /-- skip it and count it -/
  | skipped
  /-- go through it on the next level -/
  | entered
  /-- report it -/
  | found
  /-- leave it alone -/
  | other
  deriving DecidableEq, Repr

/-- The fate of an entry. `ignored` is asked for its relative path and, if it is a directory, also
for the path with a slash at the end. -/
def fate (ignored : List Char → Bool) (accepted : List String) (names : Location) (entry : Entry) :
    Fate :=
  let name := names.getLast?.getD ""
  let path := (Path.joined names).toList
  if entry.isFolder && name == ".git" then .hidden
  else if ignored path || (entry.isFolder && ignored (path ++ ['/'])) then .skipped
  else if entry.isFolder then .entered
  else if accepted.contains (Text.lower (Path.suffix name)) then .found
  else .other

/-- The entries of a directory in the order of their names, each with its fate. -/
def visit (d : Disk) (ignored : List Char → Bool) (accepted : List String)
    (root : Location) (names : Location) : List (Location × Fate) :=
  ((d.children (root ++ names)).mergeSort fun a b => a.1 ≤ b.1).map fun (name, entry) =>
    (names ++ [name], fate ignored accepted (names ++ [name]) entry)

/-- The entries with a given fate. -/
def withFate (f : Fate) (entries : List (Location × Fate)) : List Location :=
  (entries.filter fun entry => entry.2 == f).map Prod.fst

/-- The first directory of a level that may not be listed. -/
def unlistable? (d : Disk) (root : Path) (level : List Location) : Option Path :=
  (level.map root.join).find? fun p => d.unlistable.contains p

/-- Go through the directories of a level and all levels below it. No level below the root is
deeper than there are entries, so `depth` may be their number. -/
def levels (d : Disk) (ignored : List Char → Bool) (accepted : List String) (path : Path)
    (root : Location) : (depth : Nat) → (level : List Location) → Except InputError Survey
  | 0, _ => .ok ⟨[], 0⟩
  | depth + 1, level =>
    match unlistable? d path level with
    | some p => .error ⟨p, (Fault.refused .denied p).message⟩
    | none =>
      if level.isEmpty then .ok ⟨[], 0⟩
      else do
        let entries := level.flatMap (visit d ignored accepted root)
        let deeper ← levels d ignored accepted path root depth (withFate .entered entries)
        return ⟨withFate .found entries ++ deeper.found,
          (withFate .skipped entries).length + deeper.skipped⟩

end Walk

/-! ## Discovery -/

/-- The source files below a directory, those whose suffix is one of the given ones in upper or
lower case. -/
def discover (d : Disk) (root : Path) (extensions : List String) :
    Except Abort (Except InputError Survey) := do
  match ← (d.folder? root).mapError .fault with
  | none => return .error ⟨root, "not a directory"⟩
  | some place =>
    match ignoreLines d root place with
    | .error e => return .error e
    | .ok lines =>
      let rules ← (Ignore.compileAll lines).mapError .badRule
      return Walk.levels d (Ignore.ignores rules) (extensions.map Text.lower) root place
        (d.entries.length + 1) [[]]

/-- The paths of the files that a survey of a directory found. -/
def Survey.paths (s : Survey) (root : Path) : List Path :=
  s.found.map root.join

/-- The record of a discovery. -/
def Survey.record (s : Survey) (root : Path) : Record :=
  ⟨.info, .input, s!"New file discovery completed (root={root.text} " ++
    s!"files={s.found.length} skipped_by_gitignore={s.skipped})"⟩

end Relocation
