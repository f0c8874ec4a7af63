import Relocation.Entries
import Relocation.Signature

/-!
# Source files

`SourceFile` is a file handed to a comparison, with the path it is known by. `FileMap` keeps the
signatures of several files under their base names: a name keeps the place of its first file and
the signatures of its last one.
-/

namespace Relocation

/-- A file with its text. -/
structure SourceFile where
  /-- path or display name -/
  path : String
  /-- the text of the file -/
  content : String
  deriving DecidableEq, Repr

/-- Whether a character divides the segments of a path. -/
def isSeparator (c : Char) : Bool :=
  c == '/' || c == '\\'

/-- The last segment of a path, separators at its end apart. -/
def basename (path : String) : String :=
  .ofList ((path.toList.reverse.dropWhile isSeparator).takeWhile (!isSeparator ·)).reverse

/-- Signatures by file name, in the order in which the names first came up. -/
structure FileMap where
  /-- the names and their signatures -/
  entries : List (String × List Signature)
  /-- a name has one entry -/
  nodup : (entries.map Prod.fst).Nodup
  deriving DecidableEq

namespace FileMap

/-- The map without entries. -/
def empty : FileMap :=
  ⟨[], .nil⟩

/-- The names, in the order of their first appearance. -/
def names (m : FileMap) : List String :=
  m.entries.map Prod.fst

/-- The number of names. -/
def size (m : FileMap) : Nat :=
  m.entries.length

/-- All signatures, file by file. -/
def signatures (m : FileMap) : List Signature :=
  m.entries.flatMap Prod.snd

/-- Set the signatures of a name. -/
def insert (m : FileMap) (name : String) (found : List Signature) : FileMap :=
  ⟨Entries.put name found m.entries, Entries.nodup_put m.nodup⟩

/-- Enter names and signatures one after another. -/
def ofList (entries : List (String × List Signature)) : FileMap :=
  entries.foldl (fun m entry => m.insert entry.1 entry.2) empty

/-- The signatures of source files under the files' base names. -/
def ofFiles (files : List SourceFile) : FileMap :=
  ofList (files.map fun file => (basename file.path, Signature.extract file.content))

end FileMap

end Relocation
